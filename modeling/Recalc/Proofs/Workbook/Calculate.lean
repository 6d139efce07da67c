import Mathlib.Data.List.Nodup
import Recalc.Proofs.Calculation.Finished
import Recalc.Proofs.Workbook.Sound

/-!
# The sheets of a workbook

A workbook is calculated sheet by sheet (`calculate_fst`), and a sheet writes its own cells, all of
them and nothing else (`mem_calculate`). So in a `Regular` workbook nothing is known of the formula
cells of a sheet when its turn comes, and the calculation of the sheet is a finished one
(`Regular.finished`).
-/

namespace Recalc

open Calculation

namespace Sheet
variable {s : Sheet} {c : Coordinate}

/-! ## Formulas and constants -/

theorem mem_filterMap_cells {α : Type} {g : Cell → Option α} {a : α} :
    (c, a) ∈ (s.cells.toList.filterMap fun (c, cell) => (g cell).map fun a => (c, a)) ↔
      ∃ cell, s.cells[c]? = some cell ∧ g cell = some a := by
  rw [List.mem_filterMap]
  constructor
  · rintro ⟨⟨d, cell⟩, hmem, h⟩
    obtain ⟨a', ha, he⟩ := Option.map_eq_some_iff.1 h
    cases he
    exact ⟨cell, Std.ExtTreeMap.mem_toList_iff_getElem?_eq_some.1 hmem, ha⟩
  · rintro ⟨cell, hcell, ha⟩
    exact ⟨(c, cell), Std.ExtTreeMap.mem_toList_iff_getElem?_eq_some.2 hcell,
      Option.map_eq_some_iff.2 ⟨a, ha, rfl⟩⟩

theorem mem_formulas {f : String} : (c, f) ∈ s.formulas ↔ s.cells[c]? = some (.formula f) := by
  rw [formulas, mem_filterMap_cells]
  constructor
  · rintro ⟨cell, hcell, hf⟩
    cases cell with
    | constant k => cases hf
    | formula g =>
      cases hf
      exact hcell
  · intro h
    exact ⟨_, h, rfl⟩

/-- A cell holds one formula. -/
theorem eq_of_mem_formulas {p q : Pending} (hp : p ∈ s.formulas) (hq : q ∈ s.formulas)
    (h : p.1 = q.1) : p = q := by
  have hcell := mem_formulas.1 hp
  rw [h, mem_formulas.1 hq] at hcell
  exact Prod.ext h (Cell.formula.inj (Option.some.inj hcell)).symm

theorem mem_constants {k : Constant} :
    (c, k) ∈ s.constants ↔ s.cells[c]? = some (.constant k) := by
  rw [constants, mem_filterMap_cells]
  constructor
  · rintro ⟨cell, hcell, hk⟩
    cases cell with
    | formula g => cases hk
    | constant k' =>
      cases hk
      exact hcell
  · intro h
    exact ⟨_, h, rfl⟩

/-- What is taken from the cells of a sheet stays row by row. -/
theorem pairwise_filterMap_cells {α : Type} (s : Sheet) (g : Cell → Option α) :
    ((s.cells.toList.filterMap fun (c, cell) => (g cell).map fun a => (c, a)).map
      Prod.fst).Pairwise fun c d => compare c d = .lt := by
  rw [List.pairwise_map]
  refine List.Pairwise.filterMap _ ?_ Std.ExtTreeMap.ordered_keys_toList
  rintro ⟨c, cell⟩ ⟨d, cell'⟩ hlt p hp q hq
  obtain ⟨a, -, rfl⟩ := Option.map_eq_some_iff.1 hp
  obtain ⟨b, -, rfl⟩ := Option.map_eq_some_iff.1 hq
  exact hlt

theorem nodup_of_pairwise {coordinates : List Coordinate}
    (h : coordinates.Pairwise fun c d => compare c d = .lt) : coordinates.Nodup := by
  refine h.imp fun {c d} hlt heq => ?_
  have hself : compare d d = .eq := Std.ReflCmp.compare_self
  rw [heq, hself] at hlt
  cases hlt

theorem nodup_formulas (s : Sheet) : (s.formulas.map Prod.fst).Nodup :=
  nodup_of_pairwise (s.pairwise_filterMap_cells Cell.formula?)

theorem nodup_constants (s : Sheet) : (s.constants.map Prod.fst).Nodup :=
  nodup_of_pairwise (s.pairwise_filterMap_cells Cell.constant?)

theorem mem_cells_of_mem_formulas {p : Pending} (hp : p ∈ s.formulas) : p.1 ∈ s.cells := by
  rw [Std.ExtTreeMap.mem_iff_isSome_getElem?, mem_formulas.1 hp]
  rfl

theorem mem_cells_of_mem_constants {p : Coordinate × Constant} (hp : p ∈ s.constants) :
    p.1 ∈ s.cells := by
  rw [Std.ExtTreeMap.mem_iff_isSome_getElem?, mem_constants.1 hp]
  rfl

/-! ## One sheet -/

variable (s) (isDefault : Bool) (r : Results)

/-- The results with the constants of a sheet. -/
def seeded : Results :=
  seed s.name isDefault s.constants r

/-- The state in which the passes over a sheet start. -/
def first : State :=
  ⟨0, s.formulas, s.seeded isDefault r⟩

/-- The state in which they end. -/
def last : State :=
  iterate s.name isDefault (max 1 (2 * s.formulas.length)) (s.first isDefault r)

/-- The formula cells that they resolve, in order. -/
def resolved : List Pending :=
  resolvedOrder s.name isDefault (max 1 (2 * s.formulas.length)) (s.first isDefault r)

theorem calculate_snd : (s.calculate isDefault r).2 =
    settle s.name isDefault (s.last isDefault r).pending (s.last isDefault r).results :=
  rfl

theorem length_pending_first :
    (s.first isDefault r).pending.length ≤ max 1 (2 * s.formulas.length) := by
  show s.formulas.length ≤ _
  omega

theorem run_last : Run s.name isDefault (s.seeded isDefault r) (s.resolved isDefault r)
    (s.last isDefault r).results :=
  run_iterate s.name isDefault _ (s.first isDefault r)

theorem perm_last :
    (s.resolved isDefault r ++ (s.last isDefault r).pending).Perm s.formulas :=
  perm_iterate s.name isDefault _ (s.first isDefault r)

theorem nodup_last :
    ((s.resolved isDefault r ++ (s.last isDefault r).pending).map Prod.fst).Nodup :=
  ((perm_last s isDefault r).map Prod.fst).nodup_iff.2 s.nodup_formulas

theorem nodup_pending : ((s.last isDefault r).pending.map Prod.fst).Nodup :=
  (List.nodup_append.1 (List.map_append ▸ nodup_last s isDefault r)).2.1

variable {s isDefault r}

theorem mem_formulas_of_mem_pending {p : Pending} (hp : p ∈ (s.last isDefault r).pending) :
    p ∈ s.formulas :=
  (perm_last s isDefault r).mem_iff.1 (List.mem_append_right _ hp)

theorem mem_formulas_of_mem_resolved {p : Pending} (hp : p ∈ s.resolved isDefault r) :
    p ∈ s.formulas :=
  (perm_last s isDefault r).mem_iff.1 (List.mem_append_left _ hp)

theorem mem_pending_of_mem_map {p : Pending} (hp : p ∈ s.formulas)
    (h : p.1 ∈ (s.last isDefault r).pending.map Prod.fst) :
    p ∈ (s.last isDefault r).pending := by
  obtain ⟨q, hq, heq⟩ := List.mem_map.1 h
  exact eq_of_mem_formulas (mem_formulas_of_mem_pending hq) hp heq ▸ hq

variable (r)

theorem lookup_seeded {key : String} (h : ∀ c ∈ s.cells, ¬ IsKeyOf s.name isDefault c key) :
    (s.seeded isDefault r).lookup key = r.lookup key := by
  rw [seeded, seed_eq_writeAll]
  refine Results.lookup_writeAll_of_not_isKeyOf r fun q hq => ?_
  obtain ⟨p, hp, rfl⟩ := List.mem_map.1 hq
  exact h p.1 (mem_cells_of_mem_constants hp)

/-- A cell does not hold a formula and a constant at once. -/
theorem not_isKeyOf_of_mem_constants (hpos : ∀ c ∈ s.cells, c.Positive) {p : Pending}
    (hp : p ∈ s.formulas) {key : String} (hk : IsKeyOf s.name isDefault p.1 key)
    {q : Coordinate × Constant} (hq : q ∈ s.constants) : ¬ IsKeyOf s.name isDefault q.1 key := by
  intro hkq
  have heq : p.1 = q.1 := hk.unique (hpos p.1 (mem_cells_of_mem_formulas hp))
    (hpos q.1 (mem_cells_of_mem_constants hq)) hkq
  have hformula := mem_formulas.1 hp
  rw [heq, mem_constants.1 hq] at hformula
  cases hformula

theorem lookup_seeded_of_mem_constants (hpos : ∀ c ∈ s.cells, c.Positive)
    {p : Coordinate × Constant} (hp : p ∈ s.constants) {key : String}
    (hk : IsKeyOf s.name isDefault p.1 key) :
    (s.seeded isDefault r).lookup key = some p.2.value := by
  have hmem : (p.1, p.2.value) ∈ s.constants.map fun p => (p.1, p.2.value) :=
    List.mem_map_of_mem (f := fun p : Coordinate × Constant => (p.1, p.2.value)) hp
  rw [seeded, seed_eq_writeAll]
  refine Results.lookup_writeAll_of_mem ?_ ?_ hmem hk r
  · intro q hq
    obtain ⟨q', hq', rfl⟩ := List.mem_map.1 hq
    exact hpos q'.1 (mem_cells_of_mem_constants hq')
  · rw [List.map_map]
    exact s.nodup_constants

theorem lookup_seeded_of_mem_formulas (hpos : ∀ c ∈ s.cells, c.Positive) {p : Pending}
    (hp : p ∈ s.formulas) {key : String} (hk : IsKeyOf s.name isDefault p.1 key) :
    (s.seeded isDefault r).lookup key = r.lookup key := by
  rw [seeded, seed_eq_writeAll]
  refine Results.lookup_writeAll_of_not_isKeyOf r fun q hq => ?_
  obtain ⟨q', hq', rfl⟩ := List.mem_map.1 hq
  exact not_isKeyOf_of_mem_constants hpos hp hk hq'

variable {r}

/-- What each write of a cell of a sheet keeps, the calculation of the sheet keeps. -/
theorem calculate_induction {motive : Results → Prop} (hr : motive r)
    (hstep : ∀ r v, motive r → ∀ c ∈ s.cells, motive (r.write s.name isDefault c v)) :
    motive (s.calculate isDefault r).2 := by
  have hseeded : motive (s.seeded isDefault r) :=
    List.foldlRecOn s.constants _ (motive := motive) hr fun r hr p hp =>
      hstep r p.2.value hr p.1 (mem_cells_of_mem_constants hp)
  have hlast : motive (s.last isDefault r).results :=
    (run_last s isDefault r).keeps hseeded fun r v hr p hp =>
      hstep r v hr p.1 (mem_cells_of_mem_formulas (mem_formulas_of_mem_resolved hp))
  exact List.foldlRecOn (s.last isDefault r).pending _ (motive := motive) hlast fun r hr p hp =>
    hstep r .null hr p.1 (mem_cells_of_mem_formulas (mem_formulas_of_mem_pending hp))

variable (r) in
/-- The calculation of a sheet writes its own cells only. -/
theorem lookup_calculate {key : String} (h : ∀ c ∈ s.cells, ¬ IsKeyOf s.name isDefault c key) :
    (s.calculate isDefault r).2.lookup key = r.lookup key := by
  refine calculate_induction (motive := fun r' => r'.lookup key = r.lookup key) rfl ?_
  intro r' v hr' c hc
  rw [Results.lookup_write_of_not_isKeyOf r' v (h c hc), hr']

/-- It gives each of them a value, null if need be. -/
theorem mem_calculate {key : String} : key ∈ (s.calculate isDefault r).2 ↔
    key ∈ r ∨ ∃ c ∈ s.cells, IsKeyOf s.name isDefault c key := by
  refine ⟨?_, ?_⟩
  · refine calculate_induction (motive := fun r' => key ∈ r' → _) Or.inl ?_
    intro r' v hr' c hc hkey
    exact (Results.mem_write.1 hkey).elim hr' fun hk => Or.inr ⟨c, hc, hk⟩
  · rw [calculate_snd, settle_eq_writeAll, Results.mem_writeAll, (run_last s isDefault r).mem_iff,
      seeded, seed_eq_writeAll, Results.mem_writeAll]
    rintro (hr | ⟨c, hc, hk⟩)
    · exact Or.inl (Or.inl (Or.inl hr))
    · have hcell := Std.ExtTreeMap.getElem?_eq_some_getElem hc
      generalize s.cells[c] = cell at hcell
      cases cell with
      | constant k =>
        exact Or.inl (Or.inl (Or.inr ⟨_, List.mem_map_of_mem (mem_constants.2 hcell), hk⟩))
      | formula f =>
        rcases List.mem_append.1 ((perm_last s isDefault r).mem_iff.2 (mem_formulas.2 hcell))
          with hp | hp
        · exact Or.inl (Or.inr ⟨_, hp, hk⟩)
        · exact Or.inr ⟨_, List.mem_map_of_mem hp, hk⟩

end Sheet

/-! ## Sheet after sheet -/

namespace Workbook
variable (w : Workbook)

def isDefault (s : Sheet) : Bool :=
  w.defaultSheet? == some s.name

/-- The results once these sheets are calculated. -/
def resultsAfter (sheets : List Sheet) : Results :=
  sheets.foldl (fun r s => (s.calculate (w.isDefault s) r).2) ∅

theorem calculate_fst : w.calculate.1 = w.resultsAfter w.ordered :=
  (List.foldl_hom Prod.fst fun _ _ => rfl).symm

variable {w}

theorem exists_entry {s : Sheet} (hs : s ∈ w.ordered) :
    ∃ e ∈ w.entries, w.contents[e.name]? = some s :=
  List.mem_filterMap.1 hs

theorem OwnNames.getElem?_name (hw : w.OwnNames) {s : Sheet} (hs : s ∈ w.ordered) :
    w.contents[s.name]? = some s := by
  obtain ⟨e, -, he⟩ := exists_entry hs
  rw [hw e.name s he]
  exact he

theorem OwnNames.contains_name (hw : w.OwnNames) {s : Sheet} (hs : s ∈ w.ordered) :
    w.contents.contains s.name = true :=
  Std.ExtTreeMap.contains_iff_mem.2 (Std.ExtTreeMap.getElem?_eq_some_iff.1 (hw.getElem?_name hs)).1

/-- The loaded sheets have different names, none of them empty, and their cells have positive
columns and rows. -/
structure Regular (w : Workbook) : Prop where
  pairwise_name_ne : w.ordered.Pairwise fun s t => s.name ≠ t.name
  name_ne : ∀ s ∈ w.ordered, s.name ≠ ""
  positive : ∀ s ∈ w.ordered, ∀ c ∈ s.cells, c.Positive

theorem Sound.name_ne (hw : w.Sound) (hn : w.Named) {s : Sheet} (hs : s ∈ w.ordered) :
    s.name ≠ "" := by
  obtain ⟨e, hmem, he⟩ := exists_entry hs
  rw [(hw e.name s he).name_eq]
  exact hn.ne_empty e hmem

theorem Sound.pairwise_name_ne (hw : w.Sound) (hn : (w.entries.map SheetEntry.name).Nodup) :
    w.ordered.Pairwise fun s t => s.name ≠ t.name := by
  refine List.Pairwise.filterMap _ ?_ (List.pairwise_map.1 hn)
  intro e e' hne s hs t ht
  rw [(hw _ _ hs).name_eq, (hw _ _ ht).name_eq]
  exact hne

theorem Sound.regular (hw : w.Sound) (hn : w.Named) : w.Regular := by
  refine ⟨hw.pairwise_name_ne hn.nodup, fun s hs => hw.name_ne hn hs, fun s hs => ?_⟩
  exact (hw s.name s (hw.ownNames.getElem?_name hs)).positive

/-- The loaded sheets have different names, none of them empty. -/
structure DistinctNames (w : Workbook) : Prop where
  pairwise_name_ne : w.ordered.Pairwise fun s t => s.name ≠ t.name
  name_ne : ∀ s ∈ w.ordered, s.name ≠ ""

theorem Regular.distinctNames (hw : w.Regular) : w.DistinctNames :=
  ⟨hw.pairwise_name_ne, hw.name_ne⟩

/-- No cell of another sheet is written under a key of a cell of this one. -/
theorem not_isKeyOf_of_name_ne {s t : Sheet} (hs : s.name ≠ "") (ht : t.name ≠ "")
    (hne : s.name ≠ t.name) {c : Coordinate} {key : String}
    (hk : IsKeyOf s.name (w.isDefault s) c key) (d : Coordinate) :
    ¬ IsKeyOf t.name (w.isDefault t) d key := by
  rcases hk with rfl | ⟨hdefault, rfl⟩
  · rintro (hkey | ⟨-, hlabel⟩)
    · exact Coordinate.key_ne_key hne c d hkey
    · exact Coordinate.key_ne_label hs c d hlabel
  · rintro (hkey | ⟨hdefault', -⟩)
    · exact Coordinate.key_ne_label ht d c hkey.symm
    · rw [isDefault, beq_iff_eq] at hdefault hdefault'
      exact hne (Option.some.inj (hdefault.symm.trans hdefault'))

/-- The calculation of sheets keeps what is known of a key that none of their cells has. -/
theorem lookup_foldl_of_not_isKeyOf {sheets : List Sheet} {key : String}
    (h : ∀ t ∈ sheets, ∀ d ∈ t.cells, ¬ IsKeyOf t.name (w.isDefault t) d key) (r : Results) :
    Results.lookup (sheets.foldl (fun r t => (t.calculate (w.isDefault t) r).2) r) key =
      r.lookup key := by
  refine List.foldlRecOn sheets _ (motive := fun r' : Results => r'.lookup key = r.lookup key)
    rfl ?_
  intro r' hr' t ht
  rw [Sheet.lookup_calculate r' (h t ht), hr']

theorem mem_foldl_calculate (w : Workbook) {key : String} (sheets : List Sheet) (r : Results) :
    key ∈ sheets.foldl (fun r s => (s.calculate (w.isDefault s) r).2) r ↔
      key ∈ r ∨ ∃ s ∈ sheets, ∃ c ∈ s.cells, IsKeyOf s.name (w.isDefault s) c key := by
  induction sheets generalizing r with
  | nil => simp
  | cons s sheets ih =>
    rw [List.foldl_cons, ih, Sheet.mem_calculate, or_assoc, List.exists_mem_cons_iff]

/-- There is a value under each key of a stored cell, and under no other. -/
theorem mem_calculate (w : Workbook) (key : String) : key ∈ w.calculate.1 ↔
    ∃ s ∈ w.ordered, ∃ c ∈ s.cells, IsKeyOf s.name (w.isDefault s) c key := by
  rw [calculate_fst, resultsAfter, mem_foldl_calculate]
  exact or_iff_right Std.ExtTreeMap.not_mem_empty

theorem resultsAfter_append (w : Workbook) (earlier later : List Sheet) :
    w.resultsAfter (earlier ++ later) =
      later.foldl (fun r s => (s.calculate (w.isDefault s) r).2) (w.resultsAfter earlier) := by
  rw [resultsAfter, List.foldl_append]
  rfl

theorem resultsAfter_concat (w : Workbook) (earlier : List Sheet) (s : Sheet) :
    w.resultsAfter (earlier ++ [s]) = (s.calculate (w.isDefault s) (w.resultsAfter earlier)).2 :=
  w.resultsAfter_append earlier [s]

namespace DistinctNames
variable (hw : w.DistinctNames) {earlier later : List Sheet} (ho : w.ordered = earlier ++ later)
  {s t : Sheet} {c : Coordinate} {key : String}
include hw ho

theorem name_ne_of_mem (hs : s ∈ earlier) (ht : t ∈ later) :
    s.name ≠ "" ∧ t.name ≠ "" ∧ s.name ≠ t.name := by
  have hpairwise := hw.pairwise_name_ne
  rw [ho, List.pairwise_append] at hpairwise
  exact ⟨hw.name_ne s (ho ▸ List.mem_append_left _ hs),
    hw.name_ne t (ho ▸ List.mem_append_right _ ht), hpairwise.2.2 s hs t ht⟩

/-- No later sheet writes a key of an earlier one. -/
theorem not_isKeyOf_later (hs : s ∈ earlier) (hk : IsKeyOf s.name (w.isDefault s) c key) :
    ∀ t ∈ later, ∀ d, ¬ IsKeyOf t.name (w.isDefault t) d key := by
  intro t ht d
  obtain ⟨hs, ht, hne⟩ := hw.name_ne_of_mem ho hs ht
  exact not_isKeyOf_of_name_ne hs ht hne hk d

/-- No earlier sheet writes a key of a later one. -/
theorem not_isKeyOf_earlier (ht : t ∈ later) (hk : IsKeyOf t.name (w.isDefault t) c key) :
    ∀ s ∈ earlier, ∀ d, ¬ IsKeyOf s.name (w.isDefault s) d key := by
  intro s hs d
  obtain ⟨hs, ht, hne⟩ := hw.name_ne_of_mem ho hs ht
  exact not_isKeyOf_of_name_ne ht hs hne.symm hk d

/-- Before its turn nothing is known of the cells of a sheet. -/
theorem lookup_resultsAfter (ht : t ∈ later) (hk : IsKeyOf t.name (w.isDefault t) c key) :
    (w.resultsAfter earlier).lookup key = none := by
  rw [resultsAfter, lookup_foldl_of_not_isKeyOf fun s hs d _ =>
    hw.not_isKeyOf_earlier ho ht hk s hs d]
  exact Std.ExtTreeMap.getElem?_empty

/-- What a sheet leaves under its own keys stays there. -/
theorem lookup_calculate (hs : s ∈ earlier) (hk : IsKeyOf s.name (w.isDefault s) c key) :
    w.calculate.1.lookup key = (w.resultsAfter earlier).lookup key := by
  rw [calculate_fst, ho, resultsAfter_append]
  exact lookup_foldl_of_not_isKeyOf (fun t ht d _ => hw.not_isKeyOf_later ho hs hk t ht d) _

end DistinctNames

section Turn
variable {s : Sheet} {earlier later : List Sheet} (ho : w.ordered = earlier ++ s :: later)
include ho

theorem mem_ordered : s ∈ w.ordered :=
  ho ▸ List.mem_append_right _ (List.mem_cons_self ..)

variable (hw : w.Regular)
include hw

theorem Regular.ready : Ready s.name (w.isDefault s) s.formulas
    (s.seeded (w.isDefault s) (w.resultsAfter earlier)) := by
  have hpositive := hw.positive s (mem_ordered ho)
  refine ⟨hw.name_ne s (mem_ordered ho),
    fun p hp => hpositive p.1 (Sheet.mem_cells_of_mem_formulas hp), s.nodup_formulas,
    fun p hp key hk => ?_⟩
  rw [Sheet.lookup_seeded_of_mem_formulas _ hpositive hp hk]
  exact hw.distinctNames.lookup_resultsAfter ho (List.mem_cons_self ..) hk

/-- When its turn comes a sheet is calculated to the end. -/
theorem Regular.finished : Finished s.name (w.isDefault s) s.formulas
    (s.seeded (w.isDefault s) (w.resultsAfter earlier))
    (s.resolved (w.isDefault s) (w.resultsAfter earlier))
    (s.last (w.isDefault s) (w.resultsAfter earlier)).pending
    (s.last (w.isDefault s) (w.resultsAfter earlier)).results :=
  finished_iterate (s.length_pending_first _ _) (hw.ready ho)

end Turn

theorem Sound.finished (hw : w.Sound) (hn : w.Named) {s : Sheet} {earlier later : List Sheet}
    (ho : w.ordered = earlier ++ s :: later) : Finished s.name (w.isDefault s) s.formulas
      (s.seeded (w.isDefault s) (w.resultsAfter earlier))
      (s.resolved (w.isDefault s) (w.resultsAfter earlier))
      (s.last (w.isDefault s) (w.resultsAfter earlier)).pending
      (s.last (w.isDefault s) (w.resultsAfter earlier)).results :=
  (hw.regular hn).finished ho

end Workbook

end Recalc
