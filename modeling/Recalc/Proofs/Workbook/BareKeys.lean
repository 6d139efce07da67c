import Recalc.Proofs.Workbook.Overrides

/-!
# Bare keys

A key without an exclamation mark in the results of a run belongs to the default sheet: it is the
label of one of its cells, with the value of that cell, whatever the other sheets hold
(`bareKey_run_load`). This fails where a sheet without a name stores a cell of the same label and is
not the default sheet, as the key of such a cell is its label (`not_bareKey_nameless`).
-/

namespace Recalc

namespace IsKeyOf
variable {sheet key : String} {isDefault : Bool} {c d : Coordinate}

theorem eq_label_of_bare (h : IsKeyOf sheet isDefault c key) (hkey : '!' ∉ key.toList) :
    key = c.label := by
  by_cases hs : sheet = ""
  · subst hs
    exact h.eq_label_of_empty
  · refine (h.resolve_left ?_).2
    rintro rfl
    exact hkey (Coordinate.bang_mem_key hs c)

/-- Only a nameless sheet writes labels without being the default sheet. -/
theorem sheet_eq_of_bare (h : IsKeyOf sheet false c key) (hkey : '!' ∉ key.toList) :
    sheet = "" := by
  by_contra hs
  rcases h with rfl | ⟨hdefault, -⟩
  · exact hkey (Coordinate.bang_mem_key hs c)
  · cases hdefault

theorem label_iff : IsKeyOf sheet true d c.label ↔ d.label = c.label := by
  refine ⟨fun h => (h.eq_label_of_bare ?_).symm, fun h => Or.inr ⟨rfl, h.symm⟩⟩
  rw [Coordinate.toList_label]
  exact Coordinate.bang_not_mem_labelChars c

theorem key_iff : IsKeyOf sheet true d (c.key sheet) ↔ d.label = c.label := by
  by_cases hs : sheet = ""
  · subst hs
    exact label_iff
  · refine ⟨?_, fun h => Or.inl (by rw [Coordinate.key, Coordinate.key, h])⟩
    rintro (h | ⟨-, h⟩)
    · exact (Coordinate.key_inj_label hs hs h).2.symm
    · exact absurd h (Coordinate.key_ne_label hs c d)

end IsKeyOf

/-- On the default sheet a label and the key of the same cell stay alike. -/
theorem Results.lookup_label_write {r : Results} {sheet : String} {c : Coordinate}
    (h : r.lookup c.label = r.lookup (c.key sheet)) (d : Coordinate) (v : Value) :
    (r.write sheet true d v).lookup c.label = (r.write sheet true d v).lookup (c.key sheet) := by
  by_cases hd : d.label = c.label
  · rw [lookup_write_of_isKeyOf r v (IsKeyOf.label_iff.2 hd),
      lookup_write_of_isKeyOf r v (IsKeyOf.key_iff.2 hd)]
  · rw [lookup_write_of_not_isKeyOf r v (mt IsKeyOf.label_iff.1 hd),
      lookup_write_of_not_isKeyOf r v (mt IsKeyOf.key_iff.1 hd), h]

theorem Sheet.lookup_label_calculate (s : Sheet) (c : Coordinate) :
    (s.calculate true ∅).2.lookup c.label = (s.calculate true ∅).2.lookup (c.key s.name) :=
  calculate_induction (motive := fun r => r.lookup c.label = r.lookup (c.key s.name)) rfl
    fun _ v hr d _ => Results.lookup_label_write hr d v

namespace Workbook
variable {w v : Workbook} {o : Overrides} {key : String}

/-! ## Labels -/

/-- The labels of the cells of the default sheet. -/
def defaultLabels (w : Workbook) : List String :=
  w.ordered.head?.toList.flatMap fun s => s.cells.keys.map Coordinate.label

/-- The labels of the cells of nameless sheets, unless the default sheet is nameless. -/
def strayLabels (w : Workbook) : List String :=
  (w.ordered.filter fun s => s.name.isEmpty && !w.isDefault s).flatMap fun s =>
    s.cells.keys.map Coordinate.label

theorem mem_defaultLabels :
    key ∈ w.defaultLabels ↔ ∃ s ∈ w.ordered.head?, ∃ c ∈ s.cells, key = c.label := by
  simp only [defaultLabels, List.mem_flatMap, Option.mem_toList, Option.mem_def, List.mem_map,
    Std.ExtTreeMap.mem_keys, eq_comm (a := key)]

theorem mem_strayLabels : key ∈ w.strayLabels ↔
    ∃ s ∈ w.ordered, (s.name = "" ∧ w.isDefault s = false) ∧ ∃ c ∈ s.cells, key = c.label := by
  simp only [strayLabels, List.mem_flatMap, List.mem_filter, Bool.and_eq_true, String.isEmpty_iff,
    Bool.not_eq_true', List.mem_map, Std.ExtTreeMap.mem_keys, eq_comm (a := key), and_assoc]

theorem SameShape.mem_defaultLabels_iff (h : w.SameShape v) :
    key ∈ v.defaultLabels ↔ key ∈ w.defaultLabels := by
  rw [mem_defaultLabels, mem_defaultLabels]
  have hordered := h.ordered
  generalize w.ordered = sheets at hordered ⊢
  generalize v.ordered = sheets' at hordered ⊢
  cases hordered with
  | nil => exact Iff.rfl
  | cons hst _ => simp [hst.mem_iff]

theorem SameShape.mem_strayLabels (h : w.SameShape v) (hkey : key ∈ v.strayLabels) :
    key ∈ w.strayLabels := by
  obtain ⟨t, ht, ⟨hname, hdefault⟩, c, hc, hlabel⟩ := Workbook.mem_strayLabels.1 hkey
  obtain ⟨s, hs, hst⟩ := h.exists_of_mem_ordered ht
  refine Workbook.mem_strayLabels.2 ⟨s, hs, ⟨hst.name_eq.symm.trans hname, ?_⟩, c,
    (hst.mem_iff c).1 hc, hlabel⟩
  rw [← hdefault, isDefault, isDefault, h.defaultSheet?_eq, hst.name_eq]

/-! ## The default sheet -/

section Default
variable {s : Sheet} {later : List Sheet} (ho : w.ordered = s :: later)
  (hw : w.ordered.Pairwise fun s t => s.name ≠ t.name)
include ho

theorem isDefault_head : w.isDefault s = true := by
  rw [isDefault, defaultSheet?, ho]
  exact beq_self_eq_true _

include hw

theorem isDefault_later {t : Sheet} (ht : t ∈ later) : w.isDefault t = false := by
  rw [ho, List.pairwise_cons] at hw
  rw [isDefault, defaultSheet?, ho]
  exact beq_eq_false_iff_ne.2 fun heq => hw.1 t ht (Option.some.inj heq)

theorem lookup_calculate_of_head
    (h : ∀ t ∈ later, ∀ d ∈ t.cells, ¬ IsKeyOf t.name false d key) :
    w.calculate.1.lookup key = (s.calculate true ∅).2.lookup key := by
  have hlater : ∀ t ∈ later, ∀ d ∈ t.cells, ¬ IsKeyOf t.name (w.isDefault t) d key := by
    intro t ht
    rw [isDefault_later ho hw ht]
    exact h t ht
  rw [calculate_fst, ho, resultsAfter, List.foldl_cons, lookup_foldl_of_not_isKeyOf hlater,
    isDefault_head ho]

theorem lookup_calculate_key_of_head (c : Coordinate) :
    w.calculate.1.lookup (c.key s.name) = (s.calculate true ∅).2.lookup (c.key s.name) := by
  have hne := hw
  rw [ho, List.pairwise_cons] at hne
  refine lookup_calculate_of_head ho hw fun t ht d _ hk => ?_
  rcases hk with hk | ⟨hdefault, -⟩
  · exact Coordinate.key_ne_key (hne.1 t ht) c d hk
  · cases hdefault

variable (hkey : '!' ∉ key.toList) (hstray : key ∉ w.strayLabels)
include hkey hstray

theorem not_isKeyOf_later : ∀ t ∈ later, ∀ d ∈ t.cells, ¬ IsKeyOf t.name false d key := by
  intro t ht d hd hk
  have hmem : t ∈ w.ordered := ho ▸ List.mem_cons_of_mem s ht
  exact hstray (mem_strayLabels.2 ⟨t, hmem, ⟨hk.sheet_eq_of_bare hkey, isDefault_later ho hw ht⟩, d,
    hd, hk.eq_label_of_bare hkey⟩)

theorem lookup_calculate_bare :
    w.calculate.1.lookup key = (s.calculate true ∅).2.lookup key :=
  lookup_calculate_of_head ho hw (not_isKeyOf_later ho hw hkey hstray)

end Default

theorem mem_calculate_bare (hw : w.ordered.Pairwise fun s t => s.name ≠ t.name)
    (hkey : '!' ∉ key.toList) (hstray : key ∉ w.strayLabels) :
    key ∈ w.calculate.1 ↔ key ∈ w.defaultLabels := by
  rw [mem_calculate, mem_defaultLabels]
  cases ho : w.ordered with
  | nil => simp
  | cons s later =>
    refine ⟨?_, ?_⟩
    · rintro ⟨t, ht, c, hc, hk⟩
      rcases List.mem_cons.1 ht with rfl | ht
      · exact ⟨t, rfl, c, hc, hk.eq_label_of_bare hkey⟩
      · rw [isDefault_later ho hw ht] at hk
        exact absurd hk (not_isKeyOf_later ho hw hkey hstray t ht c hc)
    · rintro ⟨t, ht, c, hc, hlabel⟩
      obtain rfl := Option.some.inj ht
      exact ⟨s, List.mem_cons_self .., c, hc, Or.inr ⟨isDefault_head ho, hlabel⟩⟩

/-! ## Runs -/

/-- A key in the results of a run is the label of a cell of the default sheet, with the value of
that cell. -/
structure BareKey (w : Workbook) (o : Overrides) (key : String) : Prop where
  mem_iff : key ∈ (w.run o).1.cells ↔ key ∈ w.defaultLabels
  lookup_eq : ∀ name ∈ w.defaultSheet?, ∀ c, key = Coordinate.label c →
    (w.run o).1.cells.lookup key = (w.run o).1.cells.lookup (c.key name)
  /-- The other sheets do not count. -/
  alone : ∀ s ∈ (w.applyOverrides o).1.ordered.head?, ∀ c, key = Coordinate.label c →
    (w.run o).1.cells.lookup key =
      ((s.calculate true ∅).2.lookup (c.key s.name)).map Value.rounded

theorem Sound.bareKey (hw : w.Sound) (hn : (w.entries.map SheetEntry.name).Nodup)
    (o : Overrides) (hkey : '!' ∉ key.toList) (hstray : key ∉ w.strayLabels) :
    w.BareKey o key := by
  have hshape := w.sameShape_applyOverrides o
  have hne := (hw.applyOverrides o).pairwise_name_ne ((entries_applyOverrides w o).symm ▸ hn)
  have hstray' := mt hshape.mem_strayLabels hstray
  refine ⟨?_, ?_, ?_⟩
  · rw [cells_run, Results.mem_rounded, mem_calculate_bare hne hkey hstray',
      hshape.mem_defaultLabels_iff]
  · intro name hname c hlabel
    rw [← hshape.defaultSheet?_eq] at hname
    obtain ⟨s, hs, rfl⟩ := Option.map_eq_some_iff.1 hname
    obtain ⟨later, ho⟩ := List.head?_eq_some_iff.1 hs
    rw [cells_run, Results.lookup_rounded, Results.lookup_rounded,
      lookup_calculate_bare ho hne hkey hstray', lookup_calculate_key_of_head ho hne, hlabel,
      s.lookup_label_calculate]
  · intro s hs c hlabel
    obtain ⟨later, ho⟩ := List.head?_eq_some_iff.1 hs
    rw [cells_run, Results.lookup_rounded, lookup_calculate_bare ho hne hkey hstray', hlabel,
      s.lookup_label_calculate]

end Workbook

namespace Export

/-- In every run of a loaded workbook a bare key belongs to the default sheet, if no nameless sheet
behind the default sheet stores a cell with this label. -/
theorem bareKey_run_load (files : Files) (directory : String)
    (hn : ((load files directory).entries.map SheetEntry.name).Nodup) (o : Overrides) {key : String}
    (hkey : '!' ∉ key.toList) (hstray : key ∉ (load files directory).strayLabels) :
    (load files directory).BareKey o key :=
  (sound_load files directory).bareKey hn o hkey hstray

/-- An export of which the second sheet has no name. -/
def nameless : Files
  | "d" => some .directory
  | "d/_workbook.json" => some (manifestFile [("S", "s.json"), ("", "t.json")])
  | "d/s.json" => some (cellsFile
      [("A1", constantRecord (.text "x")), ("B1", constantRecord (.text "y"))])
  | "d/t.json" => some (cellsFile [("B1", constantRecord (.text "z"))])
  | _ => none

theorem bareKey_nameless : ((load nameless "d").entries.map SheetEntry.name).Nodup ∧
    '!' ∉ "A1".toList ∧ "A1" ∉ (load nameless "d").strayLabels ∧
    (load nameless "d").BareKey ∅ "A1" := by
  have hn : ((load nameless "d").entries.map SheetEntry.name).Nodup := by decide +kernel
  have hkey : '!' ∉ "A1".toList := by decide +kernel
  have hstray : "A1" ∉ (load nameless "d").strayLabels := by decide +kernel
  exact ⟨hn, hkey, hstray, bareKey_run_load nameless "d" hn ∅ hkey hstray⟩

/-- The label of a cell that both sheets store has the value of the nameless one. -/
theorem not_bareKey_nameless : ((load nameless "d").entries.map SheetEntry.name).Nodup ∧
    '!' ∉ "B1".toList ∧ ¬ (load nameless "d").BareKey ∅ "B1" := by
  refine ⟨by decide +kernel, by decide +kernel, fun h => ?_⟩
  have hsame := h.lookup_eq "S" (by decide +kernel) ⟨1, 2⟩ (by decide +kernel)
  exact absurd hsame (by decide +kernel)

end Export

end Recalc
