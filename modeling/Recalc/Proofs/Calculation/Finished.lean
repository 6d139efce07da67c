import Recalc.Proofs.Calculation.Run
import Recalc.Proofs.Calculation.Write

/-!
# Finished calculations

`Ready` says that nothing is known yet of the pending cells, which are cells of one named sheet.
From there on a run only adds knowledge, and each cell keeps the value that it is resolved to. A
`Finished` calculation has resolved a part of the pending cells and leaves the others null. The
value of a resolved cell is what its formula gives in the end, unless an aggregate of the formula
covers a cell that was not resolved before it (`Finished.evaluate_final`).
-/

namespace Recalc.Calculation

variable {sheet : String} {isDefault : Bool}

/-- The pending cells are different cells of a named sheet of which nothing is known. -/
structure Ready (sheet : String) (isDefault : Bool) (pending : List Pending) (r : Results) :
    Prop where
  sheet_ne : sheet ≠ ""
  positive : ∀ p ∈ pending, p.1.Positive
  nodup : (pending.map Prod.fst).Nodup
  fresh : ∀ p ∈ pending, ∀ key, IsKeyOf sheet isDefault p.1 key → r.lookup key = none

namespace Ready
variable {p : Pending} {pending pending' : List Pending} {r : Results}

theorem perm (h : Ready sheet isDefault pending r) (hp : pending.Perm pending') :
    Ready sheet isDefault pending' r := by
  obtain ⟨hs, hpos, hd, hf⟩ := h
  refine ⟨hs, fun q hq => hpos q (hp.mem_iff.2 hq), ?_, fun q hq => hf q (hp.mem_iff.2 hq)⟩
  exact (hp.map Prod.fst).nodup_iff.1 hd

theorem sublist (h : Ready sheet isDefault pending r) (hp : pending'.Sublist pending) :
    Ready sheet isDefault pending' r := by
  obtain ⟨hs, hpos, hd, hf⟩ := h
  refine ⟨hs, fun q hq => hpos q (hp.mem hq), ?_, fun q hq => hf q (hp.mem hq)⟩
  exact (hp.map Prod.fst).nodup hd

theorem not_isKeyOf (h : Ready sheet isDefault (p :: pending) r) {key : String}
    (hk : IsKeyOf sheet isDefault p.1 key) : ∀ q ∈ pending, ¬ IsKeyOf sheet isDefault q.1 key := by
  intro q hq hkq
  have hd := h.nodup
  rw [List.map_cons, List.nodup_cons] at hd
  have heq : p.1 = q.1 := hk.unique (h.positive p (List.mem_cons_self ..))
    (h.positive q (List.mem_cons_of_mem p hq)) hkq
  exact hd.1 (heq ▸ List.mem_map_of_mem hq)

theorem write (h : Ready sheet isDefault (p :: pending) r) (v : Value) :
    Ready sheet isDefault pending (r.write sheet isDefault p.1 v) := by
  obtain ⟨hs, hpos, hd, hf⟩ := h.sublist (List.sublist_cons_self p pending)
  refine ⟨hs, hpos, hd, fun q hq key hk => ?_⟩
  rw [Results.lookup_write_of_not_isKeyOf]
  · exact hf q hq key hk
  · exact fun hkp => h.not_isKeyOf hkp q hq hk

theorem extends_write (h : Ready sheet isDefault (p :: pending) r) (v : Value) :
    Extends r.lookup (r.write sheet isDefault p.1 v).lookup :=
  Results.extends_write v (h.fresh p (List.mem_cons_self ..))

end Ready

namespace Run
variable {r r' : Results} {order before after rest : List Pending} {c : Coordinate} {f : String}

theorem lookup_of_not_isKeyOf (h : Run sheet isDefault r order r') {key : String}
    (hk : ∀ p ∈ order, ¬ IsKeyOf sheet isDefault p.1 key) : r'.lookup key = r.lookup key := by
  induction h with
  | nil r => rfl
  | cons hv h ih =>
    rw [ih fun p hp => hk p (List.mem_cons_of_mem _ hp),
      Results.lookup_write_of_not_isKeyOf _ _ (hk _ (List.mem_cons_self ..))]

theorem mem_iff (h : Run sheet isDefault r order r') {key : String} :
    key ∈ r' ↔ key ∈ r ∨ ∃ p ∈ order, IsKeyOf sheet isDefault p.1 key := by
  induction h with
  | nil r => simp
  | cons hv h ih => rw [ih, Results.mem_write, or_assoc, List.exists_mem_cons_iff]

/-- What each write of a cell of the list keeps, the run keeps. -/
theorem keeps {motive : Results → Prop} (h : Run sheet isDefault r order r') (hr : motive r)
    (hstep : ∀ r v, motive r → ∀ p ∈ order, motive (r.write sheet isDefault p.1 v)) :
    motive r' := by
  induction h with
  | nil r => exact hr
  | @cons r r' c f rest hv h ih =>
    have hwrite := hstep r (Formula.evaluate r.lookup sheet f) hr (c, f) (List.mem_cons_self ..)
    exact ih hwrite fun r v hr p hp => hstep r v hr p (List.mem_cons_of_mem _ hp)

theorem extends_results (h : Run sheet isDefault r order r')
    (hr : Ready sheet isDefault order r) : Extends r.lookup r'.lookup := by
  induction h with
  | nil r => exact Extends.refl _
  | cons hv h ih => exact (hr.extends_write _).trans (ih (hr.write _))

theorem ready (h : Run sheet isDefault r order r') (hr : Ready sheet isDefault (order ++ rest) r) :
    Ready sheet isDefault rest r' := by
  induction h with
  | nil r => exact hr
  | cons hv h ih => exact ih (hr.write _)

/-- A resolved cell keeps its value. -/
theorem lookup_of_isKeyOf (h : Run sheet isDefault r ((c, f) :: after) r')
    (hr : Ready sheet isDefault ((c, f) :: after) r) {key : String}
    (hk : IsKeyOf sheet isDefault c key) :
    r'.lookup key = some (Formula.evaluate r.lookup sheet f) := by
  cases h with
  | cons hv h =>
    rw [h.lookup_of_not_isKeyOf (hr.not_isKeyOf hk), Results.lookup_write_of_isKeyOf _ _ hk]

end Run

/-! ## What a calculation leaves -/

/-- A calculation that resolved the cells of `order` one after the other, from `start` to `reached`,
and cannot resolve the cells of `still`. -/
structure Finished (sheet : String) (isDefault : Bool) (pending : List Pending) (start : Results)
    (order still : List Pending) (reached : Results) : Prop where
  ready : Ready sheet isDefault pending start
  run : Run sheet isDefault start order reached
  perm : (order ++ still).Perm pending
  stuck : Stuck sheet still reached

theorem finished_iterate {limit : Nat} {s : State} (hl : s.pending.length ≤ limit)
    (hr : Ready sheet isDefault s.pending s.results) :
    Finished sheet isDefault s.pending s.results (resolvedOrder sheet isDefault limit s)
      (iterate sheet isDefault limit s).pending (iterate sheet isDefault limit s).results :=
  ⟨hr, run_iterate sheet isDefault limit s, perm_iterate sheet isDefault limit s, stuck_iterate hl⟩

theorem lookup_settle_of_not_isKeyOf {still : List Pending} {reached : Results} {key : String}
    (hk : ∀ p ∈ still, ¬ IsKeyOf sheet isDefault p.1 key) :
    (settle sheet isDefault still reached).lookup key = reached.lookup key := by
  rw [settle_eq_writeAll]
  refine Results.lookup_writeAll_of_not_isKeyOf reached fun q hq => ?_
  obtain ⟨q', hq', rfl⟩ := List.mem_map.1 hq
  exact hk q' hq'

theorem lookup_settle_of_mem {still : List Pending} (hpos : ∀ p ∈ still, p.1.Positive)
    (hd : (still.map Prod.fst).Nodup) {p : Pending} (hp : p ∈ still) {key : String}
    (hk : IsKeyOf sheet isDefault p.1 key) (reached : Results) :
    (settle sheet isDefault still reached).lookup key = some .null := by
  have hmem : (p.1, Value.null) ∈ still.map fun p => (p.1, Value.null) :=
    List.mem_map_of_mem (f := fun p : Pending => (p.1, Value.null)) hp
  rw [settle_eq_writeAll]
  refine Results.lookup_writeAll_of_mem ?_ ?_ hmem hk reached
  · intro q hq
    obtain ⟨q', hq', rfl⟩ := List.mem_map.1 hq
    exact hpos q' hq'
  · rw [List.map_map]
    exact hd

namespace Finished
variable {pending order still : List Pending} {start reached : Results}
  (h : Finished sheet isDefault pending start order still reached)
include h

theorem ready_append : Ready sheet isDefault (order ++ still) start :=
  h.ready.perm h.perm.symm

theorem ready_still : Ready sheet isDefault still reached :=
  h.run.ready h.ready_append

theorem lookup_still {p : Pending} (hp : p ∈ still) {key : String}
    (hk : IsKeyOf sheet isDefault p.1 key) :
    (settle sheet isDefault still reached).lookup key = some .null := by
  exact lookup_settle_of_mem h.ready_still.positive h.ready_still.nodup hp hk reached

theorem lookup_other {key : String} (hk : ∀ p ∈ pending, ¬ IsKeyOf sheet isDefault p.1 key) :
    (settle sheet isDefault still reached).lookup key = start.lookup key := by
  rw [lookup_settle_of_not_isKeyOf fun p hp => hk p (h.perm.mem_iff.1 (List.mem_append_right _ hp)),
    h.run.lookup_of_not_isKeyOf fun p hp => hk p (h.perm.mem_iff.1 (List.mem_append_left _ hp))]

theorem extends_final :
    Extends reached.lookup (settle sheet isDefault still reached).lookup := by
  intro key v hv hk
  rw [lookup_settle_of_not_isKeyOf, hk]
  intro p hp hkp
  rw [h.ready_still.fresh p hp key hkp] at hk
  cases hk

theorem final_extends :
    Extends (settle sheet isDefault still reached).lookup reached.lookup := by
  intro key v hv hk
  by_cases hs : ∃ p ∈ still, IsKeyOf sheet isDefault p.1 key
  · obtain ⟨p, hp, hkp⟩ := hs
    rw [h.lookup_still hp hkp] at hk
    exact absurd (Option.some.inj hk).symm hv
  · rwa [lookup_settle_of_not_isKeyOf fun p hp hkp => hs ⟨p, hp, hkp⟩] at hk

theorem evaluate_still {p : Pending} (hp : p ∈ still) :
    Formula.evaluate (settle sheet isDefault still reached).lookup sheet p.2 = .null := by
  rw [Formula.evaluate_congr h.final_extends h.extends_final]
  exact h.stuck p hp

/-- The numbers that aggregates see change only where a cell is resolved. -/
theorem numberAt_final {key : String} (hk : ∀ p ∈ order, ¬ IsKeyOf sheet isDefault p.1 key) :
    Formula.numberAt (settle sheet isDefault still reached).lookup key =
      Formula.numberAt start.lookup key := by
  rw [Formula.numberAt_congr h.final_extends h.extends_final]
  exact Formula.numberAt_eq (h.run.lookup_of_not_isKeyOf hk)

/-- A resolved cell has the value that its formula had when it was resolved. -/
theorem lookup_resolved {before after : List Pending} {c : Coordinate} {f : String}
    (ho : order = before ++ (c, f) :: after) :
    ∃ r, Run sheet isDefault start before r ∧
      Finished sheet isDefault ((c, f) :: after ++ still) r ((c, f) :: after) still reached ∧
      Formula.evaluate r.lookup sheet f ≠ .null ∧
      ∀ key, IsKeyOf sheet isDefault c key →
        (settle sheet isDefault still reached).lookup key =
          some (Formula.evaluate r.lookup sheet f) := by
  have hrun := h.run
  have hready := h.ready_append
  rw [ho] at hrun
  rw [ho, List.append_assoc] at hready
  obtain ⟨r, hbefore, hafter⟩ := hrun.split
  have hr := hbefore.ready hready
  have hv : Formula.evaluate r.lookup sheet f ≠ .null := by
    cases hafter with
    | cons hv _ => exact hv
  refine ⟨r, hbefore, ⟨hr, hafter, .refl _, h.stuck⟩, hv, fun key hk => ?_⟩
  have hreached := hafter.lookup_of_isKeyOf (hr.sublist (List.sublist_append_left _ still)) hk
  exact h.extends_final key _ hv hreached

end Finished

/-- A formula still has the value that it was resolved to, unless an aggregate covers a cell that
was not resolved before it. -/
theorem Finished.evaluate_final {c : Coordinate} {f : String} {after still : List Pending}
    {start reached : Results}
    (h : Finished sheet isDefault ((c, f) :: after ++ still) start ((c, f) :: after) still reached)
    (hv : Formula.evaluate start.lookup sheet f ≠ .null)
    (hk : ∀ k ∈ Formula.aggregateKeys sheet f, ∀ q ∈ (c, f) :: after,
      ¬ IsKeyOf sheet isDefault q.1 k) :
    Formula.evaluate (settle sheet isDefault still reached).lookup sheet f =
      Formula.evaluate start.lookup sheet f := by
  have hext : Extends start.lookup (settle sheet isDefault still reached).lookup :=
    (h.run.extends_results (h.ready_append.sublist (List.sublist_append_left _ still))).trans
      h.extends_final
  exact Formula.evaluate_of_extends hext (fun k hmem => (h.numberAt_final (hk k hmem)).symm) hv

end Recalc.Calculation
