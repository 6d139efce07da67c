import Recalc.Proofs.Reference.Written
import Recalc.Proofs.Workbook.Overrides

/-!
# Keys that lead back

The key under which the results hold a cell of a named sheet names this cell again, unless a reader
of keys takes the sheet's name for something else: blanks around it are dropped, and so are quotes
that enclose it (`SheetName.Plain`). In quotes every name leads back (`leadsBack_load`).
-/

namespace Recalc

namespace SheetName

open Reference.Qualifier (doubled)

/-! ## Names as keys hold them -/

/-- A name that is read as it stands: no blanks around it, and not in quotes. -/
structure Plain (name : List Char) : Prop where
  trim_eq : Text.trim name = name
  unquoted : ∀ inner, name ≠ '\'' :: (inner ++ ['\''])

theorem length_collapseQuotes_le (s : List Char) : (collapseQuotes s).length ≤ s.length := by
  fun_induction collapseQuotes s with
  | case1 r ih => simp only [List.length_cons]; omega
  | case2 c r _ ih => simp only [List.length_cons]; omega
  | case3 => exact Nat.le_refl _

theorem collapseQuotes_cons {c : Char} (hc : c ≠ '\'') (s : List Char) :
    collapseQuotes (c :: s) = c :: collapseQuotes s := by
  rw [collapseQuotes]
  rintro r rfl
  exact absurd rfl hc

theorem collapseQuotes_doubled (name : List Char) : collapseQuotes (doubled name) = name := by
  induction name with
  | nil => rfl
  | cons c name ih =>
    by_cases hc : c = '\''
    · rw [doubled, if_pos hc, collapseQuotes, ih, hc]
    · rw [doubled, if_neg hc, collapseQuotes_cons hc, ih]

theorem unquoteChars_of_quoted {name inner : List Char}
    (h : Text.trim name = '\'' :: (inner ++ ['\''])) :
    unquoteChars name = collapseQuotes inner := by
  rw [unquoteChars, h]
  simp

theorem unquoteChars_of_unquoted {name : List Char}
    (h : ∀ inner, Text.trim name ≠ '\'' :: (inner ++ ['\''])) :
    unquoteChars name = Text.trim name := by
  unfold unquoteChars
  split
  · rename_i r hr
    split
    · rename_i hlast
      obtain ⟨inner, rfl⟩ := List.getLast?_eq_some_iff.1 hlast
      exact absurd hr (h inner)
    · exact hr.symm
  · rfl

/-- The plain names are those that are read as they stand. -/
theorem unquoteChars_eq_self_iff {name : List Char} : unquoteChars name = name ↔ Plain name := by
  refine ⟨fun h => ?_, fun ⟨htrim, hq⟩ => ?_⟩
  · by_cases hq : ∃ inner, Text.trim name = '\'' :: (inner ++ ['\''])
    · obtain ⟨inner, hq⟩ := hq
      have hlength := Text.length_trim_le name
      have hcollapse := length_collapseQuotes_le inner
      -- a name that loses its quotes gets shorter
      rw [unquoteChars_of_quoted hq] at h
      rw [hq, ← h, List.length_cons, List.length_append, List.length_singleton] at hlength
      omega
    · rw [unquoteChars_of_unquoted fun inner hin => hq ⟨inner, hin⟩] at h
      exact ⟨h, fun inner hin => hq ⟨inner, h.trans hin⟩⟩
  · rw [unquoteChars_of_unquoted (by rw [htrim]; exact hq), htrim]

/-- Every name is read back from its quotes. -/
theorem unquoteChars_doubled (name : List Char) :
    unquoteChars ('\'' :: (doubled name ++ ['\''])) = name := by
  have hsolid : Text.Solid ('\'' :: (doubled name ++ ['\''])) := by
    refine ⟨List.cons_ne_nil _ _, ?_, ?_⟩
    · rintro c hc
      obtain rfl := Option.some.inj hc
      decide
    · intro c hc
      rw [← List.cons_append, List.getLast?_concat] at hc
      obtain rfl := Option.some.inj hc
      decide
  rw [unquoteChars_of_quoted hsolid.trim_eq, collapseQuotes_doubled]

end SheetName

/-- The key of a cell with the name of its sheet in quotes, each quote in the name twice. -/
def Coordinate.quotedKey (sheet : String) (c : Coordinate) : String :=
  String.ofList ('\'' :: (Reference.Qualifier.doubled sheet.toList ++ '\'' :: '!' :: c.labelChars))

theorem Text.trim_of_isAlphanum {text : List Char} (h : ∀ c ∈ text, c.isAlphanum = true) :
    trim text = text :=
  trim_of_forall fun c hc => Formula.isBlank_of_isDelimiter_eq_false
    (Formula.isDelimiter_of_isWord (isWord_of_isAlphanum (h c hc)))

theorem Coordinate.parse?_trim_labelChars {c : Coordinate} (hc : c.Positive) :
    parse? (Text.trim c.labelChars) = some c := by
  rw [Text.trim_of_isAlphanum isAlphanum_of_mem_labelChars, parse?_labelChars hc]

/-! ## Locating -/

namespace Workbook
variable {w : Workbook} {c : Coordinate}

theorem locate?_of_splitLast? {key : String} {name label : List Char}
    (h : Text.splitLast? '!' key.toList = some (name, label))
    (hc : Coordinate.parse? (Text.trim label) = some c) :
    w.locate? key =
      if w.contents.contains (String.ofList (SheetName.unquoteChars name)) then
        some (String.ofList (SheetName.unquoteChars name), c)
      else none := by
  rw [locate?, h]
  simp only [Option.bind_some, hc]

theorem locate?_of_bare {key : String} (h : '!' ∉ key.toList)
    (hc : Coordinate.parse? (Text.trim key.toList) = some c) :
    w.locate? key =
      w.defaultSheet?.bind fun name =>
        if w.contents.contains name then some (name, c) else none := by
  rw [locate?, Text.splitLast?_eq_none_iff.2 h]
  simp only [Option.bind_map, Function.comp_def, hc, Option.bind_some]

theorem locate?_label (hc : c.Positive) {name : String} (hdefault : w.defaultSheet? = some name)
    (hname : w.contents.contains name = true) : w.locate? c.label = some (name, c) := by
  have hparse : Coordinate.parse? (Text.trim c.label.toList) = some c := by
    rw [Coordinate.toList_label, Coordinate.parse?_trim_labelChars hc]
  have hbare : '!' ∉ c.label.toList := by
    rw [Coordinate.toList_label]
    exact Coordinate.bang_not_mem_labelChars c
  rw [locate?_of_bare hbare hparse, hdefault, Option.bind_some, if_pos hname]

section Loaded
variable {name : String} (hc : c.Positive) (hname : w.contents.contains name = true)
include hc hname

theorem locate?_quotedKey : w.locate? (c.quotedKey name) = some (name, c) := by
  have hsplit : Text.splitLast? '!' (c.quotedKey name).toList =
      some ('\'' :: (Reference.Qualifier.doubled name.toList ++ ['\'']), c.labelChars) := by
    rw [Coordinate.quotedKey, String.toList_ofList]
    rw [← Text.splitLast?_append (Coordinate.bang_not_mem_labelChars c), List.cons_append,
      List.append_assoc]
    rfl
  rw [locate?_of_splitLast? hsplit (Coordinate.parse?_trim_labelChars hc),
    SheetName.unquoteChars_doubled, String.ofList_toList, if_pos hname]

theorem locate?_key_iff (hne : name ≠ "") :
    w.locate? (c.key name) = some (name, c) ↔ SheetName.Plain name.toList := by
  have hparse := Coordinate.parse?_trim_labelChars hc
  rw [locate?_of_splitLast? (Coordinate.splitLast?_key hne c) hparse,
    ← SheetName.unquoteChars_eq_self_iff]
  refine ⟨fun h => ?_, fun h => ?_⟩
  · split at h
    · have heq : String.ofList (SheetName.unquoteChars name.toList) = name :=
        congrArg Prod.fst (Option.some.inj h)
      have hchars := congrArg String.toList heq
      rwa [String.toList_ofList] at hchars
    · cases h
  · rw [h, String.ofList_toList, if_pos hname]

end Loaded

/-- The keys that lead back to a cell of a sheet. -/
structure LeadsBack (w : Workbook) (s : Sheet) (c : Coordinate) : Prop where
  /-- The results hold the cell under its key. -/
  mem : c.key s.name ∈ w.calculate.1
  locate?_key_iff : s.name ≠ "" →
    (w.locate? (c.key s.name) = some (s.name, c) ↔ SheetName.Plain s.name.toList)
  locate?_key_of_default : s.name = "" → w.defaultSheet? = some s.name →
    w.locate? (c.key s.name) = some (s.name, c)
  locate?_quotedKey : w.locate? (c.quotedKey s.name) = some (s.name, c)
  /-- A key that names the place finds the cell. -/
  cell?_eq : ∀ key, w.locate? key = some (s.name, c) →
    w.cell? key = (s.cells[c]?).map fun cell => (s.name, c, cell)

theorem Sound.leadsBack (hw : w.Sound) {s : Sheet} (hs : s ∈ w.ordered) (hc : c ∈ s.cells) :
    w.LeadsBack s c := by
  have hsheet := hw.ownNames.getElem?_name hs
  have hcontains := hw.ownNames.contains_name hs
  have hpos := (hw s.name s hsheet).positive c hc
  refine ⟨?_, Workbook.locate?_key_iff hpos hcontains, fun hempty hdefault => ?_,
    Workbook.locate?_quotedKey hpos hcontains, fun key hl => ?_⟩
  · exact (w.mem_calculate _).2 ⟨s, hs, c, hc, IsKeyOf.self ..⟩
  · have hlabel : c.key s.name = c.label := by rw [hempty]; rfl
    rw [hlabel]
    exact locate?_label hpos hdefault hcontains
  · rw [cell?_of_locate? hl, hsheet]
    rfl

end Workbook

namespace Export

/-- In a loaded workbook the key of a cell leads back to it, if the name of its sheet is plain. -/
theorem leadsBack_load (files : Files) (directory : String) {s : Sheet} {c : Coordinate}
    (hs : s ∈ (load files directory).ordered) (hc : c ∈ s.cells) :
    (load files directory).LeadsBack s c :=
  (sound_load files directory).leadsBack hs hc

/-- An export of which the second sheet is called like the first one in quotes. -/
def quotedName : Files
  | "d" => some .directory
  | "d/_workbook.json" => some (manifestFile [("S", "s.json"), ("'S'", "t.json")])
  | "d/s.json" => some (cellsFile [("A1", numberRecord 1)])
  | "d/t.json" => some (cellsFile [("A1", numberRecord 2)])
  | _ => none

theorem leadsBack_quotedName : ∃ s c, s ∈ (load quotedName "d").ordered ∧ c ∈ s.cells ∧
    (load quotedName "d").LeadsBack s c := by
  have hfirst : ((load quotedName "d").ordered.head?.map fun s => s.cells.contains ⟨1, 1⟩) =
      some true := by
    decide +kernel
  obtain ⟨s, hs, hc⟩ := Option.map_eq_some_iff.1 hfirst
  have hmem := List.mem_of_mem_head? hs
  have hcell := Std.ExtTreeMap.contains_iff_mem.1 hc
  exact ⟨s, ⟨1, 1⟩, hmem, hcell, leadsBack_load quotedName "d" hmem hcell⟩

/-- The key of a cell of the second sheet names the first one. -/
theorem quotedName_not_leadsBack :
    ((load quotedName "d").entries.map SheetEntry.name).Nodup ∧
    ¬ ∀ s ∈ (load quotedName "d").ordered, ∀ c ∈ s.cells,
      (load quotedName "d").locate? (c.key s.name) = some (s.name, c) := by
  refine ⟨by decide +kernel, fun h => ?_⟩
  have hlost : (load quotedName "d").ordered.all (fun s => s.cells.keys.all fun c =>
      (load quotedName "d").locate? (c.key s.name) = some (s.name, c)) = false := by
    decide +kernel
  refine absurd ?_ (Bool.eq_false_iff.1 hlost)
  simpa using h

end Export

end Recalc
