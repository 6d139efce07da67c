import Recalc.Proofs.Reference.Whole
import Recalc.Proofs.Workbook.Locate

/-!
# References as keys

A text that the scanner reads as one reference to a cell names the same cell as a key
(`locate?_of_spans`). The scanner pairs the quotes of a sheet's name from the left and takes the
exclamation mark behind the last one; the reader of keys cuts at the last exclamation mark and drops
the quotes around the name. Both undo the same writing of the name (`exists_unquoteChars`).
-/

namespace Recalc

namespace Reference

namespace Label
variable (l : Label)

theorem parse?_text : Coordinate.parse? l.text = some l.place := by
  have hdigits := l.isAlpha_head_digits []
  rw [List.append_nil] at hdigits
  rw [Coordinate.parse?, text, Text.takeWhile_run l.isAlpha_of_mem _ hdigits,
    Text.dropWhile_run l.isAlpha_of_mem _ hdigits, l.ofParts?_eq]

theorem parse?_trim_text : Coordinate.parse? (Text.trim l.text) = some l.place := by
  rw [Text.trim_of_isAlphanum l.isAlphanum_of_mem_text, l.parse?_text]

theorem bang_not_mem_text : '!' ∉ l.text := by
  intro h
  cases l.isAlphanum_of_mem_text '!' h

end Label

/-- The sheet of a reference to a cell, and the label behind it. -/
theorem exists_label_of_spans {text : String} {sheet : Option String} {c : Coordinate}
    (h : spans text = [⟨0, text.utf8ByteSize, ⟨sheet, .cell c⟩⟩]) :
    ∃ front, ∃ l : Label, SheetText sheet front ∧ l.place = c ∧ text.toList = front ++ l.text := by
  obtain ⟨front, places, hfront, htext, ht⟩ :=
    exists_sheetText_of_read? (spans_eq_singleton_iff.1 h)
  obtain ⟨l, hl, hplaces⟩ := exists_label_of_readCoordinate? (readCoordinate?_of_readTarget? ht)
  exact ⟨front, l, hfront, hl, by rw [htext, hplaces, List.append_nil]⟩

theorem isNameChar_ne_quote {c : Char} (h : isNameChar c = true) : c ≠ '\'' := by
  rintro rfl
  cases h

theorem isBlank_of_isNameChar {c : Char} (h : isNameChar c = true) : Text.isBlank c = false := by
  rw [isNameChar, Bool.or_eq_true] at h
  rcases h with h | h
  · exact Formula.isBlank_of_isDelimiter_eq_false (Formula.isDelimiter_of_isWord h)
  · rw [beq_iff_eq.1 h]
    rfl

theorem plain_of_isNameChar {name : List Char} (h : ∀ c ∈ name, isNameChar c = true) :
    SheetName.Plain name := by
  refine ⟨Text.trim_of_forall fun c hc => isBlank_of_isNameChar (h c hc), ?_⟩
  rintro inner rfl
  exact isNameChar_ne_quote (h '\'' (List.mem_cons_self ..)) rfl

/-- The name of a sheet as it is written in front of a label is unquoted to the name. -/
theorem SheetText.exists_unquoteChars {name : String} {front : List Char}
    (h : SheetText (some name) front) :
    ∃ written, front = written ++ ['!'] ∧
      String.ofList (SheetName.unquoteChars written) = name := by
  cases h with
  | @plain name _ _ hchars =>
    exact ⟨name, rfl, by rw [SheetName.unquoteChars_eq_self_iff.2 (plain_of_isNameChar hchars)]⟩
  | @quoted name _ =>
    refine ⟨'\'' :: (Qualifier.doubled name ++ ['\'']), ?_, ?_⟩
    · rw [List.cons_append, List.append_assoc]
      rfl
    · rw [SheetName.unquoteChars_doubled]

end Reference

namespace Workbook

theorem OwnNames.contains_defaultSheet {w : Workbook} (hw : w.OwnNames) {name : String}
    (h : w.defaultSheet? = some name) : w.contents.contains name = true := by
  obtain ⟨s, hs, rfl⟩ := Option.map_eq_some_iff.1 h
  exact hw.contains_name (List.mem_of_mem_head? hs)

/-- A reference to a cell names, as a key, the cell on the sheet in front of it if this sheet is
loaded, and the cell on the default sheet if no sheet is named. -/
theorem locate?_of_spans {w : Workbook} (hw : w.OwnNames) {text : String} {sheet : Option String}
    {c : Coordinate} (h : Reference.spans text = [⟨0, text.utf8ByteSize, ⟨sheet, .cell c⟩⟩]) :
    w.locate? text =
      match sheet with
      | some name => if w.contents.contains name then some (name, c) else none
      | none => w.defaultSheet?.map fun name => (name, c) := by
  obtain ⟨front, l, hfront, rfl, htext⟩ := Reference.exists_label_of_spans h
  cases sheet with
  | some name =>
    obtain ⟨written, rfl, hname⟩ := hfront.exists_unquoteChars
    have hsplit : Text.splitLast? '!' text.toList = some (written, l.text) := by
      rw [htext, List.append_assoc]
      exact Text.splitLast?_append l.bang_not_mem_text
    rw [locate?_of_splitLast? hsplit l.parse?_trim_text, hname]
  | none =>
    cases hfront
    rw [List.nil_append] at htext
    have hbare : '!' ∉ text.toList := htext ▸ l.bang_not_mem_text
    rw [locate?_of_bare hbare (htext ▸ l.parse?_trim_text)]
    cases hdefault : w.defaultSheet? with
    | none => rfl
    | some name =>
      rw [Option.bind_some, if_pos (hw.contains_defaultSheet hdefault), Option.map_some]

/-- A reference that names the second of two sheets, one called like the other in quotes. -/
theorem locate?_of_spans_quotedName : (Export.load Export.quotedName "d").OwnNames ∧
    Reference.spans "'''S'''!a1" = [⟨0, 10, ⟨some "'S'", .cell ⟨1, 1⟩⟩⟩] ∧
    (Export.load Export.quotedName "d").locate? "'''S'''!a1" = some ("'S'", ⟨1, 1⟩) := by
  have hown := (Export.sound_load Export.quotedName "d").ownNames
  have hspans : Reference.spans "'''S'''!a1" = [⟨0, 10, ⟨some "'S'", .cell ⟨1, 1⟩⟩⟩] :=
    Reference.spans_eq_singleton_iff.2 (by decide +kernel)
  have hloaded : (Export.load Export.quotedName "d").contents.contains "'S'" = true := by
    decide +kernel
  refine ⟨hown, hspans, ?_⟩
  rw [locate?_of_spans hown hspans]
  exact if_pos hloaded

end Workbook

end Recalc
