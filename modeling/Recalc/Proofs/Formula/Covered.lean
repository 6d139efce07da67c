import Mathlib.Data.Set.Defs
import Recalc.Proofs.Formula.Monotone

/-!
# Keys that aggregates cover

No reference in a text names the empty sheet, so each key that an aggregate covers is the key of a
cell on a named sheet, or on the sheet of the formula (`mem_keysFrom_of_mem_aggregateKeys`).
-/

namespace Recalc

namespace Reference

theorem ne_nil_of_readSheet? {before : Option Char} {s name rest : List Char}
    (h : readSheet? before s = some (name, rest)) : name ≠ [] := by
  unfold readSheet? at h
  split at h
  · cases h
  · split at h
    · split at h
      · cases h
      · rename_i hne
        cases h
        simpa using hne
    · cases h
  · split at h
    · cases h
    · rename_i c r _ hword
      split at h
      · cases h
        have hc : isNameChar c = true := by
          rw [isNameChar, Bool.or_eq_true]
          have hclear : before.any Text.isWord = false ∧ Text.isWord c = true := by
            simpa using hword
          exact Or.inl hclear.2
        rw [List.takeWhile_cons_of_pos hc]
        exact List.cons_ne_nil _ _
      · cases h

theorem sheet_ne_of_read? {before : Option Char} {s rest : List Char} {r : Reference}
    (h : read? before s = some (r, rest)) : r.sheet ≠ some "" := by
  unfold read? at h
  split at h
  · rename_i name t hs
    obtain ⟨⟨target, u⟩, -, he⟩ := Option.map_eq_some_iff.1 h
    cases he
    intro hempty
    refine ne_nil_of_readSheet? hs ?_
    have := congrArg String.toList (Option.some.inj hempty)
    rwa [String.toList_ofList] at this
  · split at h
    · cases h
    · obtain ⟨⟨target, u⟩, -, he⟩ := Option.map_eq_some_iff.1 h
      cases he
      rintro ⟨⟩

theorem sheet_ne_of_mem_splitAfter {before : Option Char} {s : List Char} {p : Piece}
    (hp : p ∈ Piece.splitAfter before s) {r : Reference} (hr : p.reference? = some r) :
    r.sheet ≠ some "" := by
  fun_induction Piece.splitAfter before s with
  | case1 => cases hp
  | case2 before c s ref rest h _ _ ih =>
    rcases List.mem_cons.1 hp with rfl | hp
    · cases hr
      exact sheet_ne_of_read? h
    · exact ih hp
  | case3 before c s h ih =>
    rcases List.mem_cons.1 hp with rfl | hp
    · cases hr
    · exact ih hp

theorem sheet_ne_of_mem_all {s : List Char} {r : Reference} (h : r ∈ all s) :
    r.sheet ≠ some "" := by
  obtain ⟨p, hp, hr⟩ := List.mem_filterMap.1 h
  exact sheet_ne_of_mem_splitAfter hp hr

theorem mem_all_of_ofArgument? {argument : List Char} {r : Reference}
    (h : ofArgument? argument = some r) : r ∈ all argument := by
  rcases Option.or_eq_some_iff.1 h with h | ⟨-, h⟩
  · exact List.mem_of_find?_eq_some h
  · exact List.mem_of_head? h

/-- The keys that a reference on a sheet can stand for: those of cells on named sheets, and of cells
on its own. -/
def keysFrom (current : String) : Set String :=
  {k | ∃ name c, (name ≠ "" ∨ name = current) ∧ k = Coordinate.key name c}

theorem key_mem_keysFrom {r : Reference} (hr : r.sheet ≠ some "") (current : String)
    (c : Coordinate) : c.key (r.sheetFrom current) ∈ keysFrom current := by
  refine ⟨r.sheetFrom current, c, ?_, rfl⟩
  rw [sheetFrom]
  cases hs : r.sheet with
  | none => exact Or.inr rfl
  | some name =>
    rw [hs] at hr
    exact Or.inl fun h => hr (congrArg some h)

theorem mem_keysFrom_of_mem_keys? {r : Reference} (hr : r.sheet ≠ some "") {current : String}
    {keys : List String} (hk : r.keys? current = some keys) {k : String} (h : k ∈ keys) :
    k ∈ keysFrom current := by
  obtain ⟨cells, -, rfl⟩ := Option.map_eq_some_iff.1 hk
  obtain ⟨c, -, rfl⟩ := List.mem_map.1 h
  exact key_mem_keysFrom hr current c

end Reference

namespace Formula

theorem exists_keys_of_mem_argumentKeys {sheet k : String} {f : Aggregate}
    {argument text : List Char} (hk : k ∈ argumentKeys sheet (.call f argument text)) :
    ∃ r keys, Reference.ofArgument? argument = some r ∧ r.keys? sheet = some keys ∧ k ∈ keys := by
  rw [argumentKeys] at hk
  cases hr : Reference.ofArgument? argument with
  | none =>
    rw [hr] at hk
    cases hk
  | some r =>
    rw [hr, Option.bind_some] at hk
    cases hkeys : r.keys? sheet with
    | none =>
      rw [hkeys] at hk
      cases hk
    | some keys =>
      rw [hkeys] at hk
      exact ⟨r, keys, rfl, hkeys, hk⟩

theorem mem_keysFrom_of_mem_argumentKeys {sheet k : String} {p : Call.Piece}
    (hk : k ∈ argumentKeys sheet p) : k ∈ Reference.keysFrom sheet := by
  cases p with
  | char c => cases hk
  | lookalike t => cases hk
  | call f argument t =>
    obtain ⟨r, keys, hr, hkeys, hmem⟩ := exists_keys_of_mem_argumentKeys hk
    exact Reference.mem_keysFrom_of_mem_keys?
      (Reference.sheet_ne_of_mem_all (Reference.mem_all_of_ofArgument? hr)) hkeys hmem

theorem mem_keysFrom_of_mem_aggregateKeys {sheet formula k : String}
    (hk : k ∈ aggregateKeys sheet formula) : k ∈ Reference.keysFrom sheet := by
  rw [aggregateKeys] at hk
  split at hk
  · obtain ⟨p, -, hk⟩ := List.mem_flatMap.1 hk
    exact mem_keysFrom_of_mem_argumentKeys hk
  · cases hk

theorem exists_key_of_mem_aggregateKeys {sheet formula k : String} (hs : sheet ≠ "")
    (hk : k ∈ aggregateKeys sheet formula) :
    ∃ name c, name ≠ "" ∧ k = Coordinate.key name c := by
  obtain ⟨name, c, hname | rfl, hkey⟩ := mem_keysFrom_of_mem_aggregateKeys hk
  · exact ⟨name, c, hname, hkey⟩
  · exact ⟨name, c, hs, hkey⟩

end Formula

end Recalc
