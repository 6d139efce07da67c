import Recalc.Calculation
import Recalc.Proofs.Coordinate.Label
import Recalc.Proofs.Formula.Covered

/-!
# Writing values of a sheet

A cell is written under its key and, on the default sheet, under its label (`IsKeyOf`). No two cells
of a sheet share one of these, so what is written last under a key is known (`lookup_writeAll`), and
seeding, resolving and settling are all writes of cells with values.
-/

namespace Recalc

/-- The keys that a cell of a sheet is written under. -/
def IsKeyOf (sheet : String) (isDefault : Bool) (c : Coordinate) (key : String) : Prop :=
  key = c.key sheet ∨ isDefault = true ∧ key = c.label

instance (sheet : String) (isDefault : Bool) (c : Coordinate) (key : String) :
    Decidable (IsKeyOf sheet isDefault c key) :=
  inferInstanceAs (Decidable (_ ∨ _))

namespace IsKeyOf
variable {sheet : String} {isDefault : Bool} {c d : Coordinate} {key : String}

theorem self (sheet : String) (isDefault : Bool) (c : Coordinate) :
    IsKeyOf sheet isDefault c (c.key sheet) :=
  Or.inl rfl

theorem eq_label_of_empty (h : IsKeyOf "" isDefault c key) : key = c.label := by
  rcases h with h | ⟨-, h⟩
  · exact h
  · exact h

/-- No two cells of a sheet are written under one key. -/
theorem unique (hc : c.Positive) (hd : d.Positive) (h : IsKeyOf sheet isDefault c key)
    (h' : IsKeyOf sheet isDefault d key) : c = d := by
  by_cases hs : sheet = ""
  · subst hs
    exact Coordinate.label_inj hc hd (h.eq_label_of_empty.symm.trans h'.eq_label_of_empty)
  · rcases h with rfl | ⟨-, rfl⟩
    · rcases h' with h' | ⟨-, h'⟩
      · exact (Coordinate.key_inj hs hs hc hd h').2
      · exact absurd h' (Coordinate.key_ne_label hs c d)
    · rcases h' with h' | ⟨-, h'⟩
      · exact absurd h'.symm (Coordinate.key_ne_label hs d c)
      · exact Coordinate.label_inj hc hd h'

/-- An aggregate covers a cell under its key on a named sheet, never under its label. -/
theorem eq_key_of_mem_aggregateKeys (hs : sheet ≠ "") {formula : String}
    (hk : key ∈ Formula.aggregateKeys sheet formula) (h : IsKeyOf sheet isDefault c key) :
    key = c.key sheet := by
  refine h.resolve_right fun hlabel => ?_
  obtain ⟨name, d, hname, rfl⟩ := Formula.exists_key_of_mem_aggregateKeys hs hk
  exact Coordinate.key_ne_label hname d c hlabel.2

/-- A formula on the sheet reads a cell of the sheet under its key, never under its label. -/
theorem eq_key_of_mem_keysFrom (hk : key ∈ Reference.keysFrom sheet)
    (h : IsKeyOf sheet isDefault c key) : key = c.key sheet := by
  by_cases hs : sheet = ""
  · subst hs
    exact h.eq_label_of_empty
  · refine h.resolve_right ?_
    rintro ⟨-, rfl⟩
    obtain ⟨name, d, hname | rfl, hkey⟩ := hk
    · exact Coordinate.key_ne_label hname d c hkey.symm
    · exact Coordinate.key_ne_label hs d c hkey.symm

end IsKeyOf

namespace Results
variable {sheet : String} {isDefault : Bool} {c : Coordinate} {v : Value} {key : String}

theorem ext {r r' : Results} (h : ∀ key, r.lookup key = r'.lookup key) : r = r' :=
  Std.ExtTreeMap.ext_getElem? h

theorem lookup_insert (r : Results) (k key : String) (v : Value) :
    Results.lookup (r.insert k v) key = if k = key then some v else r.lookup key :=
  Coordinate.getElem?_insert_key r k key v

theorem lookup_write_of_isKeyOf (r : Results) (v : Value) (h : IsKeyOf sheet isDefault c key) :
    (r.write sheet isDefault c v).lookup key = some v := by
  rw [write, lookup_insert]
  split
  · rfl
  · rename_i hne
    obtain ⟨hd, rfl⟩ := h.resolve_left fun h => hne h.symm
    rw [if_pos hd, lookup_insert, if_pos rfl]

theorem lookup_write_of_not_isKeyOf (r : Results) (v : Value)
    (h : ¬ IsKeyOf sheet isDefault c key) :
    (r.write sheet isDefault c v).lookup key = r.lookup key := by
  rw [write, lookup_insert, if_neg fun h' => h (Or.inl h'.symm)]
  split
  · rename_i hd
    rw [lookup_insert, if_neg fun h' => h (Or.inr ⟨hd, h'.symm⟩)]
  · rfl

theorem extends_write {r : Results} (v : Value)
    (h : ∀ key, IsKeyOf sheet isDefault c key → r.lookup key = none) :
    Extends r.lookup (r.write sheet isDefault c v).lookup := by
  intro key w _ hw
  rw [lookup_write_of_not_isKeyOf, hw]
  intro hk
  rw [h key hk] at hw
  cases hw

theorem mem_write {r : Results} :
    key ∈ r.write sheet isDefault c v ↔ key ∈ r ∨ IsKeyOf sheet isDefault c key := by
  have hinsert (r : Results) (k : String) : key ∈ r.insert k v ↔ key = k ∨ key ∈ r := by
    rw [Std.ExtTreeMap.mem_insert, Std.LawfulEqCmp.compare_eq_iff_eq, eq_comm]
  rw [write, hinsert, IsKeyOf, or_left_comm]
  cases isDefault with
  | false => simp
  | true =>
    rw [if_pos rfl, hinsert, or_comm (a := key ∈ r)]
    simp

/-! ## Many cells -/

/-- The results with values for the cells of a list. -/
def writeAll (sheet : String) (isDefault : Bool) (cells : List (Coordinate × Value))
    (r : Results) : Results :=
  cells.foldl (fun r (c, v) => r.write sheet isDefault c v) r

variable {cells : List (Coordinate × Value)}

theorem lookup_writeAll_of_not_isKeyOf (r : Results)
    (h : ∀ p ∈ cells, ¬ IsKeyOf sheet isDefault p.1 key) :
    (writeAll sheet isDefault cells r).lookup key = r.lookup key := by
  induction cells generalizing r with
  | nil => rfl
  | cons p cells ih =>
    show (writeAll sheet isDefault cells (r.write sheet isDefault p.1 p.2)).lookup key = _
    rw [ih _ fun q hq => h q (List.mem_cons_of_mem p hq),
      lookup_write_of_not_isKeyOf r p.2 (h p (List.mem_cons_self ..))]

theorem lookup_writeAll_of_mem (hpos : ∀ p ∈ cells, p.1.Positive)
    (hd : (cells.map Prod.fst).Nodup) {p : Coordinate × Value} (hp : p ∈ cells)
    (h : IsKeyOf sheet isDefault p.1 key) (r : Results) :
    (writeAll sheet isDefault cells r).lookup key = some p.2 := by
  induction cells generalizing r with
  | nil => cases hp
  | cons q cells ih =>
    rw [List.map_cons, List.nodup_cons] at hd
    have htail : ∀ p ∈ cells, p.1.Positive := fun p hp => hpos p (List.mem_cons_of_mem q hp)
    show (writeAll sheet isDefault cells (r.write sheet isDefault q.1 q.2)).lookup key = _
    rcases List.mem_cons.1 hp with rfl | hp
    · rw [lookup_writeAll_of_not_isKeyOf, lookup_write_of_isKeyOf r p.2 h]
      intro q hq hk
      have heq : q.1 = p.1 :=
        hk.unique (htail q hq) (hpos p (List.mem_cons_self ..)) h
      exact hd.1 (heq ▸ List.mem_map_of_mem hq)
    · exact ih htail hd.2 hp _

/-- Values are written over and never taken away. -/
theorem mem_writeAll {r : Results} : key ∈ writeAll sheet isDefault cells r ↔
    key ∈ r ∨ ∃ p ∈ cells, IsKeyOf sheet isDefault p.1 key := by
  induction cells generalizing r with
  | nil => simp [writeAll]
  | cons p cells ih =>
    show key ∈ writeAll sheet isDefault cells (r.write sheet isDefault p.1 p.2) ↔ _
    rw [ih, mem_write, or_assoc, List.exists_mem_cons_iff]

end Results

namespace Calculation
variable (sheet : String) (isDefault : Bool)

theorem seed_eq_writeAll (constants : List (Coordinate × Constant)) (r : Results) :
    seed sheet isDefault constants r =
      Results.writeAll sheet isDefault (constants.map fun p => (p.1, p.2.value)) r := by
  rw [seed, Results.writeAll, List.foldl_map]

theorem settle_eq_writeAll (pending : List Pending) (r : Results) :
    settle sheet isDefault pending r =
      Results.writeAll sheet isDefault (pending.map fun p => (p.1, Value.null)) r := by
  rw [settle, Results.writeAll, List.foldl_map]

end Calculation

end Recalc
