import Recalc.Proofs.Calculation.Finished

/-!
# Least solutions

An assignment of values to the formula cells of a sheet `Solves` it if each value is what the cell's
formula gives against the results with all of them. Where no aggregate covers a formula cell of its
own sheet (`Separate`), a finished calculation leaves the least solution
(`Finished.exists_least`): every solution agrees with it wherever it is not null. There is only one
least solution, so the order in which cells are tried does not matter (`Finished.final_unique`).
-/

namespace Recalc.Calculation

variable {sheet : String} {isDefault : Bool} {pending : List Pending} {start : Results}
  {σ τ : Coordinate → Value}

/-- The results with the values of an assignment for the pending cells. -/
def assign (sheet : String) (isDefault : Bool) (pending : List Pending) (σ : Coordinate → Value)
    (r : Results) : Results :=
  Results.writeAll sheet isDefault (pending.map fun p => (p.1, σ p.1)) r

/-- Each value is what the cell's formula gives against the results with all of them. -/
def Solves (sheet : String) (isDefault : Bool) (pending : List Pending) (r : Results)
    (σ : Coordinate → Value) : Prop :=
  ∀ p ∈ pending, σ p.1 =
    Formula.evaluate (assign sheet isDefault pending σ r).lookup sheet p.2

/-- A solution that every solution agrees with wherever it is not null. -/
structure Least (sheet : String) (isDefault : Bool) (pending : List Pending) (r : Results)
    (σ : Coordinate → Value) : Prop where
  solves : Solves sheet isDefault pending r σ
  agrees : ∀ τ, Solves sheet isDefault pending r τ → ∀ p ∈ pending, σ p.1 ≠ .null → τ p.1 = σ p.1

/-- No aggregate of the pending cells covers one of them. -/
def Separate (sheet : String) (isDefault : Bool) (pending : List Pending) : Prop :=
  ∀ p ∈ pending, ∀ k ∈ Formula.aggregateKeys sheet p.2, ∀ q ∈ pending,
    ¬ IsKeyOf sheet isDefault q.1 k

/-! ## Assignments -/

theorem Ready.lookup_assign (h : Ready sheet isDefault pending start) {p : Pending}
    (hp : p ∈ pending) {key : String} (hk : IsKeyOf sheet isDefault p.1 key) :
    (assign sheet isDefault pending σ start).lookup key = some (σ p.1) := by
  obtain ⟨-, hpos, hd, -⟩ := h
  have hmem : (p.1, σ p.1) ∈ pending.map fun p => (p.1, σ p.1) :=
    List.mem_map_of_mem (f := fun p : Pending => (p.1, σ p.1)) hp
  refine Results.lookup_writeAll_of_mem ?_ ?_ hmem hk start
  · intro q hq
    obtain ⟨q', hq', rfl⟩ := List.mem_map.1 hq
    exact hpos q' hq'
  · rw [List.map_map]
    exact hd

theorem lookup_assign_of_not_isKeyOf {key : String}
    (hk : ∀ p ∈ pending, ¬ IsKeyOf sheet isDefault p.1 key) :
    (assign sheet isDefault pending σ start).lookup key = start.lookup key := by
  refine Results.lookup_writeAll_of_not_isKeyOf start fun q hq => ?_
  obtain ⟨q', hq', rfl⟩ := List.mem_map.1 hq
  exact hk q' hq'

theorem Ready.eq_assign (h : Ready sheet isDefault pending start) {r : Results}
    (hr : ∀ p ∈ pending, ∀ key, IsKeyOf sheet isDefault p.1 key → r.lookup key = some (σ p.1))
    (ho : ∀ key, (∀ p ∈ pending, ¬ IsKeyOf sheet isDefault p.1 key) →
      r.lookup key = start.lookup key) : r = assign sheet isDefault pending σ start := by
  refine Results.ext fun key => ?_
  by_cases hk : ∃ p ∈ pending, IsKeyOf sheet isDefault p.1 key
  · obtain ⟨p, hp, hkp⟩ := hk
    rw [hr p hp key hkp, h.lookup_assign hp hkp]
  · have hk : ∀ p ∈ pending, ¬ IsKeyOf sheet isDefault p.1 key :=
      fun p hp hkp => hk ⟨p, hp, hkp⟩
    rw [ho key hk, lookup_assign_of_not_isKeyOf hk]

theorem Ready.assign_perm (h : Ready sheet isDefault pending start) {pending' : List Pending}
    (hp : pending.Perm pending') :
    assign sheet isDefault pending' σ start = assign sheet isDefault pending σ start := by
  refine h.eq_assign (fun p hmem key hk => ?_) fun key hk => ?_
  · exact (h.perm hp).lookup_assign (hp.mem_iff.1 hmem) hk
  · exact lookup_assign_of_not_isKeyOf fun p hmem => hk p (hp.mem_iff.2 hmem)

theorem assign_congr (h : ∀ p ∈ pending, σ p.1 = τ p.1) :
    assign sheet isDefault pending σ start = assign sheet isDefault pending τ start := by
  rw [assign, assign, List.map_congr_left fun p hp => by rw [h p hp]]

theorem Least.unique (hσ : Least sheet isDefault pending start σ)
    (hτ : Least sheet isDefault pending start τ) : ∀ p ∈ pending, σ p.1 = τ p.1 := by
  intro p hp
  by_cases h : σ p.1 = .null
  · by_cases h' : τ p.1 = .null
    · rw [h, h']
    · exact hτ.agrees σ hσ.solves p hp h'
  · exact (hσ.agrees τ hτ.solves p hp h).symm

theorem Ready.least_perm (h : Ready sheet isDefault pending start) {pending' : List Pending}
    (hp : pending.Perm pending') (hσ : Least sheet isDefault pending' start σ) :
    Least sheet isDefault pending start σ := by
  have hsolves (τ : Coordinate → Value) :
      Solves sheet isDefault pending' start τ ↔ Solves sheet isDefault pending start τ := by
    rw [Solves, Solves, h.assign_perm hp]
    exact forall_congr' fun p => imp_congr_left hp.symm.mem_iff
  refine ⟨(hsolves σ).1 hσ.solves, fun τ hτ p hmem => ?_⟩
  exact hσ.agrees τ ((hsolves τ).2 hτ) p (hp.mem_iff.1 hmem)

/-! ## What is left is the least solution -/

/-- A run from what a solution knows stays within what it knows. -/
theorem Run.extends_solution {order : List Pending} {r reached : Results}
    (h : Run sheet isDefault r order reached) (hstart : Ready sheet isDefault pending start)
    (hsep : Separate sheet isDefault pending) (hτ : Solves sheet isDefault pending start τ)
    (hsub : ∀ p ∈ order, p ∈ pending)
    (hext : Extends r.lookup (assign sheet isDefault pending τ start).lookup)
    (hother : ∀ key, (∀ p ∈ pending, ¬ IsKeyOf sheet isDefault p.1 key) →
      r.lookup key = start.lookup key) :
    Extends reached.lookup (assign sheet isDefault pending τ start).lookup := by
  induction h with
  | nil r => exact hext
  | @cons r reached c f rest hv h ih =>
    have hc : (c, f) ∈ pending := hsub _ (List.mem_cons_self ..)
    -- the aggregates of the formula see what they saw at the start
    have hnumbers : ∀ k ∈ Formula.aggregateKeys sheet f, Formula.numberAt r.lookup k =
        Formula.numberAt (assign sheet isDefault pending τ start).lookup k := by
      intro k hk
      have hnot := hsep _ hc k hk
      rw [Formula.numberAt_eq (hother k hnot),
        Formula.numberAt_eq (lookup_assign_of_not_isKeyOf hnot)]
    have hvalue : τ c = Formula.evaluate r.lookup sheet f :=
      (hτ _ hc).trans (Formula.evaluate_of_extends hext hnumbers hv)
    refine ih (fun p hp => hsub p (List.mem_cons_of_mem _ hp)) ?_ ?_
    · intro key v hv' hk
      by_cases hkc : IsKeyOf sheet isDefault c key
      · rw [Results.lookup_write_of_isKeyOf _ _ hkc, ← hvalue] at hk
        rw [hstart.lookup_assign hc hkc]
        exact hk
      · rw [Results.lookup_write_of_not_isKeyOf _ _ hkc] at hk
        exact hext key v hv' hk
    · intro key hk
      rw [Results.lookup_write_of_not_isKeyOf _ _ (hk _ hc)]
      exact hother key hk

theorem Ready.extends_assign (h : Ready sheet isDefault pending start) :
    Extends start.lookup (assign sheet isDefault pending τ start).lookup := by
  intro key v _ hk
  rw [lookup_assign_of_not_isKeyOf, hk]
  intro p hp hkp
  rw [h.fresh p hp key hkp] at hk
  cases hk

namespace Finished
variable {order still : List Pending} {reached : Results}
  (h : Finished sheet isDefault pending start order still reached)
include h

/-- Each pending cell has its value under all of its keys. -/
theorem lookup_final {p : Pending} (hp : p ∈ pending) {key : String}
    (hk : IsKeyOf sheet isDefault p.1 key) :
    (settle sheet isDefault still reached).lookup key =
      some (((settle sheet isDefault still reached).lookup (p.1.key sheet)).getD .null) := by
  have hself := IsKeyOf.self sheet isDefault p.1
  rcases List.mem_append.1 (h.perm.mem_iff.2 hp) with ho | hs
  · obtain ⟨before, after, ho⟩ := List.append_of_mem ho
    obtain ⟨c, f⟩ := p
    obtain ⟨r, -, -, -, hval⟩ := h.lookup_resolved ho
    rw [hval key hk, hval _ hself]
    rfl
  · rw [h.lookup_still hs hk, h.lookup_still hs hself]
    rfl

theorem evaluate_eq_of_separate (hsep : Separate sheet isDefault pending) {p : Pending}
    (hp : p ∈ pending) :
    (settle sheet isDefault still reached).lookup (p.1.key sheet) =
      some (Formula.evaluate (settle sheet isDefault still reached).lookup sheet p.2) := by
  have hself := IsKeyOf.self sheet isDefault p.1
  rcases List.mem_append.1 (h.perm.mem_iff.2 hp) with ho | hs
  · obtain ⟨before, after, ho⟩ := List.append_of_mem ho
    obtain ⟨c, f⟩ := p
    obtain ⟨r, -, hfrom, hv, hval⟩ := h.lookup_resolved ho
    rw [hval _ hself, hfrom.evaluate_final hv]
    intro k hk q hq
    refine hsep _ hp k hk q (h.perm.mem_iff.1 (List.mem_append_left _ ?_))
    rw [ho]
    exact List.mem_append_right _ hq
  · rw [h.lookup_still hs hself, h.evaluate_still hs]

/-- A finished calculation leaves the least solution. -/
theorem exists_least (hsep : Separate sheet isDefault pending) :
    ∃ σ, settle sheet isDefault still reached = assign sheet isDefault pending σ start ∧
      Least sheet isDefault pending start σ := by
  let final := settle sheet isDefault still reached
  refine ⟨fun c => (final.lookup (c.key sheet)).getD .null, ?_⟩
  have hassign : final = assign sheet isDefault pending
      (fun c => (final.lookup (c.key sheet)).getD .null) start :=
    h.ready.eq_assign (fun p hp key hk => h.lookup_final hp hk) fun key hk => h.lookup_other hk
  refine ⟨hassign, fun p hp => ?_, fun τ hτ p hp hv => ?_⟩
  · rw [← hassign]
    show (final.lookup (p.1.key sheet)).getD .null = _
    rw [h.evaluate_eq_of_separate hsep hp]
    rfl
  · -- a value that is not null was reached by the run
    have hreached := h.run.extends_solution h.ready hsep hτ
      (fun q hq => h.perm.mem_iff.1 (List.mem_append_left _ hq)) h.ready.extends_assign
      fun _ _ => rfl
    have hfinal := h.lookup_final hp (IsKeyOf.self sheet isDefault p.1)
    have hknown := hreached _ _ hv (h.final_extends _ _ hv hfinal)
    rw [h.ready.lookup_assign hp (IsKeyOf.self sheet isDefault p.1)] at hknown
    exact Option.some.inj hknown

/-- The order in which cells are tried does not matter. -/
theorem final_unique (hsep : Separate sheet isDefault pending)
    {pending' order' still' : List Pending} {reached' : Results} (hp : pending.Perm pending')
    (h' : Finished sheet isDefault pending' start order' still' reached') :
    settle sheet isDefault still' reached' = settle sheet isDefault still reached := by
  have hsep' : Separate sheet isDefault pending' := fun p hmem k hk q hq =>
    hsep p (hp.mem_iff.2 hmem) k hk q (hp.mem_iff.2 hq)
  obtain ⟨σ, hσ, hleast⟩ := h.exists_least hsep
  obtain ⟨τ, hτ, hleast'⟩ := h'.exists_least hsep'
  rw [hσ, hτ, h.ready.assign_perm hp]
  exact assign_congr ((h.ready.least_perm hp hleast').unique hleast)

end Finished

end Recalc.Calculation
