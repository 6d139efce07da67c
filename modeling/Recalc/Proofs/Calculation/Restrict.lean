import Recalc.Proofs.Calculation.Run
import Recalc.Proofs.Calculation.Write
import Recalc.Proofs.Formula.Depends

/-!
# Calculating a part of the cells

Let a set of keys hold all that the formulas at its keys depend on. Then passes over all pending
cells do to these keys what passes over the pending cells of the set do: other cells are neither
read nor written there (`agreeOn_passes_within`). How long passes go on does not matter, since any
number of passes from the number of pending cells on is as good as any other
(`agreeOn_iterate_within`).
-/

namespace Recalc

/-- Every key of the set is the key of a cell on a named sheet. -/
def Qualified (K : Set String) : Prop :=
  ∀ k ∈ K, ∃ name c, name ≠ "" ∧ k = Coordinate.key name c

variable {K : Set String} {sheet : String} {isDefault : Bool}

/-! ## Writes -/

theorem Qualified.not_isKeyOf (hK : Qualified K) {c : Coordinate} (hc : c.key sheet ∉ K)
    {k : String} (hk : k ∈ K) : ¬ IsKeyOf sheet isDefault c k := by
  rintro (rfl | ⟨-, rfl⟩)
  · exact hc hk
  · obtain ⟨name, d, hname, hkey⟩ := hK _ hk
    exact Coordinate.key_ne_label hname d c hkey.symm

namespace Results
variable {r r' : Results} {c : Coordinate}

theorem agreeOn_write (h : AgreeOn K r.lookup r'.lookup) (c : Coordinate) (v : Value) :
    AgreeOn K (r.write sheet isDefault c v).lookup (r'.write sheet isDefault c v).lookup := by
  intro k hk
  by_cases hkey : IsKeyOf sheet isDefault c k
  · rw [lookup_write_of_isKeyOf r v hkey, lookup_write_of_isKeyOf r' v hkey]
  · rw [lookup_write_of_not_isKeyOf r v hkey, lookup_write_of_not_isKeyOf r' v hkey]
    exact h k hk

theorem agreeOn_write_of_not_mem (hK : Qualified K) (hc : c.key sheet ∉ K)
    (h : AgreeOn K r.lookup r'.lookup) (v : Value) :
    AgreeOn K (r.write sheet isDefault c v).lookup r'.lookup := by
  intro k hk
  rw [lookup_write_of_not_isKeyOf r v (hK.not_isKeyOf hc hk)]
  exact h k hk

end Results

/-! ## The cells of a set -/

section Within
variable [DecidablePred (· ∈ K)]

/-- The cells of a list whose keys are in the set. -/
def within (K : Set String) [DecidablePred (· ∈ K)] (sheet : String) {α : Type}
    (cells : List (Coordinate × α)) : List (Coordinate × α) :=
  cells.filter fun p => p.1.key sheet ∈ K

variable {α : Type} {p : Coordinate × α} {cells : List (Coordinate × α)}

theorem within_cons_of_mem (h : p.1.key sheet ∈ K) :
    within K sheet (p :: cells) = p :: within K sheet cells :=
  List.filter_cons_of_pos (decide_eq_true h)

theorem within_cons_of_not_mem (h : p.1.key sheet ∉ K) :
    within K sheet (p :: cells) = within K sheet cells :=
  List.filter_cons_of_neg (by simpa using h)

theorem within_map {β : Type} (g : α → β) (cells : List (Coordinate × α)) :
    within K sheet (cells.map fun p => (p.1, g p.2)) =
      (within K sheet cells).map fun p => (p.1, g p.2) :=
  List.filter_map

theorem within_filterMap {β : Type} (g : α → Option β) (cells : List (Coordinate × α)) :
    within K sheet (cells.filterMap fun (c, a) => (g a).map fun b => (c, b)) =
      (within K sheet cells).filterMap fun (c, a) => (g a).map fun b => (c, b) := by
  induction cells with
  | nil => rfl
  | cons p cells ih =>
    obtain ⟨c, a⟩ := p
    by_cases hp : c.key sheet ∈ K
    · rw [within_cons_of_mem (p := (c, a)) hp]
      cases ha : g a with
      | none => simp only [List.filterMap_cons, ha, Option.map_none, ih]
      | some b =>
        simp only [List.filterMap_cons, ha, Option.map_some]
        rw [within_cons_of_mem (p := (c, b)) hp, ih]
    · rw [within_cons_of_not_mem (p := (c, a)) hp]
      cases ha : g a with
      | none => simp only [List.filterMap_cons, ha, Option.map_none, ih]
      | some b =>
        simp only [List.filterMap_cons, ha, Option.map_some]
        rw [within_cons_of_not_mem (p := (c, b)) hp, ih]

theorem length_within_le : (within K sheet cells).length ≤ cells.length :=
  List.length_filter_le ..

theorem agreeOn_writeAll_within (hK : Qualified K) {r r' : Results}
    (h : AgreeOn K r.lookup r'.lookup) (cells : List (Coordinate × Value)) :
    AgreeOn K (Results.writeAll sheet isDefault cells r).lookup
      (Results.writeAll sheet isDefault (within K sheet cells) r').lookup := by
  induction cells generalizing r r' with
  | nil => exact h
  | cons p cells ih =>
    by_cases hp : p.1.key sheet ∈ K
    · rw [within_cons_of_mem hp]
      exact ih (Results.agreeOn_write h p.1 p.2)
    · rw [within_cons_of_not_mem hp]
      exact ih (Results.agreeOn_write_of_not_mem hK hp h p.2)

namespace Calculation

theorem agreeOn_seed_within (hK : Qualified K) {r r' : Results}
    (h : AgreeOn K r.lookup r'.lookup) (constants : List (Coordinate × Constant)) :
    AgreeOn K (seed sheet isDefault constants r).lookup
      (seed sheet isDefault (within K sheet constants) r').lookup := by
  rw [seed_eq_writeAll, seed_eq_writeAll, ← within_map Constant.value]
  exact agreeOn_writeAll_within hK h _

theorem agreeOn_settle_within (hK : Qualified K) {r r' : Results}
    (h : AgreeOn K r.lookup r'.lookup) (pending : List Pending) :
    AgreeOn K (settle sheet isDefault pending r).lookup
      (settle sheet isDefault (within K sheet pending) r').lookup := by
  rw [settle_eq_writeAll, settle_eq_writeAll, ← within_map fun _ : String => Value.null]
  exact agreeOn_writeAll_within hK h _

/-- The formulas that stand at keys of the set depend on the set only. -/
def IsClosed (K : Set String) (sheet : String) (pending : List Pending) : Prop :=
  ∀ p ∈ pending, p.1.key sheet ∈ K → Formula.DependsOn K sheet p.2

variable (isDefault) in
/-- A pass does to the keys of a closed set what a pass over the cells of the set does. -/
theorem agreeOn_pass_within (hK : Qualified K) {pending : List Pending}
    (hc : IsClosed K sheet pending) {r r' : Results} (h : AgreeOn K r.lookup r'.lookup) :
    within K sheet (pass sheet isDefault pending r).1 =
        (pass sheet isDefault (within K sheet pending) r').1 ∧
      AgreeOn K (pass sheet isDefault pending r).2.lookup
        (pass sheet isDefault (within K sheet pending) r').2.lookup := by
  induction pending generalizing r r' with
  | nil => exact ⟨rfl, h⟩
  | cons p pending ih =>
    have htail : IsClosed K sheet pending := fun q hq => hc q (List.mem_cons_of_mem p hq)
    by_cases hp : p.1.key sheet ∈ K
    · have hv := hc p (List.mem_cons_self ..) hp r.lookup r'.lookup h
      rw [within_cons_of_mem hp]
      by_cases hnull : Formula.evaluate r.lookup sheet p.2 = .null
      · rw [pass_cons_of_eq_null hnull, pass_cons_of_eq_null (hv ▸ hnull), within_cons_of_mem hp]
        obtain ⟨hstill, hagree⟩ := ih htail h
        exact ⟨congrArg (p :: ·) hstill, hagree⟩
      · rw [pass_cons_of_ne_null hnull, pass_cons_of_ne_null (hv ▸ hnull), ← hv]
        exact ih htail (Results.agreeOn_write h p.1 _)
    · rw [within_cons_of_not_mem hp]
      by_cases hnull : Formula.evaluate r.lookup sheet p.2 = .null
      · rw [pass_cons_of_eq_null hnull, within_cons_of_not_mem hp]
        exact ih htail h
      · rw [pass_cons_of_ne_null hnull]
        exact ih htail (Results.agreeOn_write_of_not_mem hK hp h _)

variable (isDefault) in
theorem agreeOn_passes_within (hK : Qualified K) (n : Nat) {pending : List Pending}
    (hc : IsClosed K sheet pending) {r r' : Results} (h : AgreeOn K r.lookup r'.lookup) :
    within K sheet (passes sheet isDefault n (pending, r)).1 =
        (passes sheet isDefault n (within K sheet pending, r')).1 ∧
      AgreeOn K (passes sheet isDefault n (pending, r)).2.lookup
        (passes sheet isDefault n (within K sheet pending, r')).2.lookup := by
  induction n generalizing pending r r' with
  | zero => exact ⟨rfl, h⟩
  | succ n ih =>
    obtain ⟨hstill, hagree⟩ := agreeOn_pass_within isDefault hK hc h
    have hperm := perm_pass sheet isDefault pending r
    have hrest : IsClosed K sheet (pass sheet isDefault pending r).1 :=
      fun p hp => hc p (hperm.mem_iff.1 (List.mem_append_right _ hp))
    rw [passes, passes]
    show within K sheet (passes sheet isDefault n (pass sheet isDefault pending r)).1 =
        (passes sheet isDefault n (pass sheet isDefault (within K sheet pending) r')).1 ∧ _
    rw [← Prod.eta (pass sheet isDefault (within K sheet pending) r'), ← hstill]
    exact ih hrest hagree

/-- The passes over all cells and the passes over the cells of a closed set end alike on the set,
however many each of them takes. -/
theorem agreeOn_iterate_within (hK : Qualified K) {s t : State} {limit limit' : Nat}
    (hc : IsClosed K sheet s.pending) (hp : t.pending = within K sheet s.pending)
    (hr : AgreeOn K s.results.lookup t.results.lookup) (hl : s.pending.length ≤ limit)
    (hl' : t.pending.length ≤ limit') :
    within K sheet (iterate sheet isDefault limit s).pending =
        (iterate sheet isDefault limit' t).pending ∧
      AgreeOn K (iterate sheet isDefault limit s).results.lookup
        (iterate sheet isDefault limit' t).results.lookup := by
  have hn : t.pending.length ≤ s.pending.length := by
    rw [hp]
    exact length_within_le
  have hs := iterate_eq_passes sheet isDefault hl (Nat.le_refl s.pending.length)
  have ht := iterate_eq_passes sheet isDefault hl' hn
  have hagree := agreeOn_passes_within isDefault hK s.pending.length hc hr
  rw [← hp, ← hs, ← ht] at hagree
  exact hagree

end Calculation

end Within

end Recalc
