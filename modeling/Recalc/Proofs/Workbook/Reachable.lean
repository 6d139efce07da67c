import Recalc.Proofs.Workbook.Overrides

/-!
# Workbooks at any time

A workbook is empty or loaded at first; sheets are added to it and cells of it overridden, in any
order. Whatever the files hold and whichever names come again, each loaded sheet stands under its
own name and is listed, its cells are where labels name them, and what keys name is loaded
(`wellFormed_of_reachable`). Each operation keeps what is said of the sheets alone (`Consistent`);
the rest follows from this.
-/

namespace Recalc

/-! ## Proper sheets -/

/-- A cell that may stand at a coordinate: a label names the place, and a formula has an equals sign
in front and no blanks around it. -/
structure Cell.IsProperAt (cell : Cell) (c : Coordinate) : Prop where
  positive : c.Positive
  head?_eq : ∀ text, cell = .formula text → text.toList.head? = some '='
  trim_eq : ∀ text, cell = .formula text → Text.trim text.toList = text.toList

/-- A sheet whose cells may stand where they do. -/
def Sheet.Proper (s : Sheet) : Prop :=
  ∀ (c : Coordinate) (cell : Cell), s.cells[c]? = some cell → cell.IsProperAt c

namespace Cell
variable {c : Coordinate}

theorem isProperAt_constant (hc : c.Positive) (k : Constant) : (constant k).IsProperAt c := by
  refine ⟨hc, fun text h => ?_, fun text h => ?_⟩
  · cases h
  · cases h

theorem isProperAt_of_ofFormula? (hc : c.Positive) {text : String} {cell : Cell}
    (h : ofFormula? text = some cell) : cell.IsProperAt c := by
  unfold ofFormula? at h
  split at h
  · rename_i hhead
    obtain rfl := Option.some.inj h
    -- the equals sign is not blank, so something is left of the text
    have hmem : '=' ∈ Text.trim text.toList :=
      Text.mem_trim ((List.dropWhile_suffix _).mem (List.mem_of_mem_head? hhead)) (by decide)
    refine ⟨hc, ?_, ?_⟩
    · intro text' heq
      obtain rfl := Cell.formula.inj heq
      rw [Text.trimmed, String.toList_ofList, Text.head?_trim (List.ne_nil_of_mem hmem), hhead]
    · intro text' heq
      obtain rfl := Cell.formula.inj heq
      rw [Text.trimmed, String.toList_ofList, Text.trim_trim]
  · cases h

end Cell

namespace Sheet
variable {s : Sheet} {c : Coordinate} {cell : Cell}

theorem proper_of_empty (h : s.cells = ∅) : s.Proper := by
  intro c cell hcell
  rw [h, Std.ExtTreeMap.getElem?_empty] at hcell
  cases hcell

theorem Proper.set (hs : s.Proper) (hcell : cell.IsProperAt c) : (s.set c cell).Proper :=
  Coordinate.forall_getElem?_insert hs hcell

end Sheet

namespace Export
variable {c : Coordinate}

theorem CellRecord.isProperAt_toCell (hc : c.Positive) (r : CellRecord) :
    r.toCell.IsProperAt c := by
  unfold toCell
  split
  · rename_i text _
    split
    · cases htext : Cell.ofFormula? text with
      | none => exact Cell.isProperAt_constant hc _
      | some cell => exact Cell.isProperAt_of_ofFormula? hc htext
    · exact Cell.isProperAt_constant hc _
  · exact Cell.isProperAt_constant hc _

theorem SheetFile.proper_toSheet (f : SheetFile) (e : SheetEntry) : (f.toSheet e).Proper := by
  intro c cell hcell
  obtain ⟨key, r, hlast, rfl⟩ := getElem?_gridOf_eq_some_iff.1 hcell
  exact r.isProperAt_toCell (Coordinate.positive_of_parse? hlast.coordinateOf?_eq)

end Export

/-! ## What each operation keeps -/

namespace Workbook

/-- Each loaded sheet is proper and stands under its own name. -/
def ProperlyStored (w : Workbook) : Prop :=
  ∀ (name : String) (s : Sheet), w.contents[name]? = some s → s.name = name ∧ s.Proper

structure Consistent (w : Workbook) : Prop where
  properlyStored : w.ProperlyStored
  listed : w.Listed

theorem consistent_empty : Consistent { } := by
  refine ⟨fun name s hs => ?_, fun name hname => absurd hname Std.ExtTreeMap.not_mem_empty⟩
  rw [Std.ExtTreeMap.getElem?_empty] at hs
  cases hs

theorem consistent_load (files : Files) (directory : String) :
    (Export.load files directory).Consistent := by
  refine ⟨fun name s hs => ?_, Export.listed_load files directory⟩
  obtain ⟨e, -, f, rfl, rfl⟩ := Export.exists_entry_of_load files directory hs
  exact ⟨rfl, f.proper_toSheet e⟩

section Steps
variable {w : Workbook}

theorem Listed.addSheet (hw : w.Listed) (s : Sheet) : (w.addSheet s).Listed := by
  intro name hname
  rcases Std.ExtTreeMap.mem_insert.1 hname with heq | hname
  · refine ⟨⟨s.name, "", s.visibility⟩, List.mem_append_right _ (List.mem_singleton_self _), ?_⟩
    exact Std.LawfulEqCmp.eq_of_compare heq
  · obtain ⟨e, he, hname⟩ := hw name hname
    exact ⟨e, List.mem_append_left _ he, hname⟩

theorem ProperlyStored.override? (hw : w.ProperlyStored) {key : String} {x : Float}
    {w' : Workbook} (h : w.override? key x = some w') : w'.ProperlyStored := by
  obtain ⟨name, s, c, hs, hc, rfl⟩ := exists_of_override? h
  obtain ⟨hname, hproper⟩ := hw name s hs
  -- the place is not new: a cell stood there before
  have hpositive := (hproper c _ (Std.ExtTreeMap.getElem?_eq_some_getElem hc)).positive
  exact Coordinate.forall_getElem?_insert hw
    ⟨hname, hproper.set (Cell.isProperAt_constant hpositive _)⟩

theorem Consistent.addSheet (hw : w.Consistent) {s : Sheet} (hs : s.Proper) :
    (w.addSheet s).Consistent :=
  ⟨Coordinate.forall_getElem?_insert hw.properlyStored ⟨rfl, hs⟩, hw.listed.addSheet s⟩

theorem Consistent.applyOverrides (hw : w.Consistent) (o : Overrides) :
    (w.applyOverrides o).1.Consistent :=
  ⟨applyOverrides_induction hw.properlyStored (fun _ _ _ _ hv h => hv.override? h) o,
    hw.listed.applyOverrides o⟩

end Steps

/-! ## All workbooks -/

/-- The workbooks that come from nothing or from files, by adding proper sheets and overriding
cells. -/
inductive Reachable : Workbook → Prop
  | empty : Reachable { }
  | load (files : Files) (directory : String) : Reachable (Export.load files directory)
  | addSheet {w : Workbook} (hw : Reachable w) {s : Sheet} (hs : s.Proper) :
      Reachable (w.addSheet s)
  | applyOverrides {w : Workbook} (hw : Reachable w) (o : Overrides) :
      Reachable (w.applyOverrides o).1

theorem Reachable.consistent {w : Workbook} (hw : w.Reachable) : w.Consistent := by
  induction hw with
  | empty => exact consistent_empty
  | load files directory => exact consistent_load files directory
  | addSheet _ hs ih => exact ih.addSheet hs
  | applyOverrides _ o ih => exact ih.applyOverrides o

section Derived
variable {w : Workbook}

theorem Listed.ordered_eq_nil_iff (hw : w.Listed) : w.ordered = [] ↔ w.hasModel = false := by
  refine ⟨fun h => ?_, ordered_of_not_hasModel⟩
  rw [hasModel, Bool.not_eq_false', Std.ExtTreeMap.isEmpty_iff,
    Std.ExtTreeMap.eq_empty_iff_forall_not_mem]
  intro name hname
  have hmem := hw.mem_ordered (Std.ExtTreeMap.getElem?_eq_some_getElem hname)
  rw [h] at hmem
  cases hmem

theorem Listed.hasModel_iff (hw : w.Listed) :
    w.hasModel = true ↔ w.defaultSheet?.isSome = true := by
  rw [defaultSheet?, Option.isSome_map, List.isSome_head?, Ne, hw.ordered_eq_nil_iff,
    Bool.not_eq_false]

theorem mem_contents_of_locate? {key name : String} {c : Coordinate}
    (h : w.locate? key = some (name, c)) : name ∈ w.contents := by
  obtain ⟨⟨name', label⟩, -, h⟩ := Option.bind_eq_some_iff.1 h
  obtain ⟨c', -, h⟩ := Option.bind_eq_some_iff.1 h
  split at h
  · rename_i hname
    obtain rfl := congrArg Prod.fst (Option.some.inj h)
    exact Std.ExtTreeMap.contains_iff_mem.1 hname
  · cases h

end Derived

/-- What holds of a workbook at any time. -/
structure WellFormed (w : Workbook) : Prop where
  ownNames : w.OwnNames
  listed : w.Listed
  /-- Without loaded sheets there is no default one, and only then. -/
  hasModel_iff : w.hasModel = true ↔ w.defaultSheet?.isSome = true
  proper : ∀ (name : String) (s : Sheet), w.contents[name]? = some s → s.Proper
  /-- The sheet that a key names is loaded. -/
  mem_of_locate? : ∀ key name c, w.locate? key = some (name, c) → name ∈ w.contents

theorem wellFormed_of_reachable {w : Workbook} (hw : w.Reachable) : w.WellFormed := by
  obtain ⟨hstored, hlisted⟩ := hw.consistent
  refine ⟨fun name s hs => (hstored name s hs).1, hlisted, hlisted.hasModel_iff,
    fun name s hs => (hstored name s hs).2, fun key name c => mem_contents_of_locate?⟩

/-- A sheet with the name of one that is loaded. -/
def replacement : Sheet :=
  ({ name := "T" } : Sheet).set ⟨2, 3⟩ (.formula "=S!A1")

/-- A loaded workbook of which one sheet is replaced. -/
def replaced : Workbook :=
  (Export.load Export.twoSheets "d").addSheet replacement

theorem wellFormed_replaced : (replaced.applyOverrides Export.aliases).1.Reachable ∧
    (replaced.applyOverrides Export.aliases).1.WellFormed ∧
    (replaced.applyOverrides Export.aliases).1.locate? "T!c2" = some ("T", ⟨2, 3⟩) := by
  have hcell : (Cell.formula "=S!A1").IsProperAt ⟨2, 3⟩ :=
    Cell.isProperAt_of_ofFormula? ⟨by decide, by decide⟩ (by decide : Cell.ofFormula? "=S!A1" = _)
  have hproper : replacement.Proper := (Sheet.proper_of_empty rfl).set hcell
  have hreachable : (replaced.applyOverrides Export.aliases).1.Reachable :=
    ((Reachable.load Export.twoSheets "d").addSheet hproper).applyOverrides Export.aliases
  exact ⟨hreachable, wellFormed_of_reachable hreachable, by decide +kernel⟩

end Workbook

end Recalc
