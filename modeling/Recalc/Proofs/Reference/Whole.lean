import Recalc.Proofs.Coordinate.Label
import Recalc.Proofs.Reference.Boundary

/-!
# References that are a whole text

The scanner finds one reference that spans a text if and only if the reference is read from the
start of the text to its end (`spans_eq_singleton_iff`). What is read is the text of a sheet and a
target behind it (`exists_sheetText_of_read?`), and every reference is read back from the text that
it is written with, whatever its sheet is called (`spans_written`).
-/

namespace Recalc

namespace Reference

/-! ## What was read -/

section Read
variable {before : Option Char} {s rest : List Char}

theorem eq_doubled_of_readQuotedName? {name : List Char}
    (h : readQuotedName? s = some (name, rest)) : s = Qualifier.doubled name ++ '\'' :: rest := by
  fun_induction readQuotedName? s generalizing name rest with
  | case1 => cases h
  | case2 r ih =>
    obtain ⟨⟨n, t⟩, hr, he⟩ := Option.map_eq_some_iff.1 h
    cases he
    rw [ih hr, Qualifier.doubled, if_pos rfl]
    rfl
  | case3 r =>
    cases h
    rfl
  | case4 c r _ hquote ih =>
    obtain ⟨⟨n, t⟩, hr, he⟩ := Option.map_eq_some_iff.1 h
    cases he
    rw [ih hr, Qualifier.doubled, if_neg hquote]
    rfl

theorem exists_sheetText_of_readSheet? {name : List Char}
    (h : readSheet? before s = some (name, rest)) :
    ∃ front, SheetText (some (String.ofList name)) front ∧ s = front ++ rest := by
  cases s with
  | nil => cases h
  | cons c r =>
    by_cases hc : c = '\''
    · subst hc
      rw [readSheet?_quote] at h
      obtain ⟨⟨n, u⟩, hn, h⟩ := Option.bind_eq_some_iff.1 h
      obtain ⟨v, hv, h⟩ := Option.bind_eq_some_iff.1 h
      dsimp only at hv h
      split at h
      · cases h
      · rename_i hempty
        cases h
        refine ⟨_, .quoted (show name ≠ [] by simpa using hempty), ?_⟩
        rw [eq_doubled_of_readQuotedName? hn, eq_cons_of_behind? hv]
        simp
    · rw [readSheet?_plain before hc] at h
      split at h
      · cases h
      · rename_i hword
        obtain ⟨u, hu, he⟩ := Option.map_eq_some_iff.1 h
        cases he
        have hc : Text.isWord c = true := by simp at hword; exact hword.2
        have hname : (c :: r).takeWhile isNameChar = c :: r.takeWhile isNameChar :=
          List.takeWhile_cons_of_pos (by rw [isNameChar, hc]; rfl)
        refine ⟨_, .plain ?_ ?_ (List.all_eq_true.1 List.all_takeWhile), ?_⟩
        · rw [hname]
          exact List.cons_ne_nil _ _
        · rw [hname]
          rintro d ⟨⟩
          exact hc
        · rw [List.append_assoc, List.singleton_append, ← eq_cons_of_behind? hu,
            List.takeWhile_append_dropWhile]

theorem exists_sheetText_of_read? {r : Reference} (h : read? before s = some (r, rest)) :
    ∃ front places, SheetText r.sheet front ∧ s = front ++ places ∧
      readTarget? places = some (r.target, rest) := by
  unfold read? at h
  split at h
  · rename_i name t hs
    obtain ⟨⟨target, u⟩, ht, he⟩ := Option.map_eq_some_iff.1 h
    cases he
    obtain ⟨front, hfront, hs⟩ := exists_sheetText_of_readSheet? hs
    exact ⟨front, t, hfront, hs, ht⟩
  · split at h
    · cases h
    · obtain ⟨⟨target, u⟩, ht, he⟩ := Option.map_eq_some_iff.1 h
      cases he
      exact ⟨[], s, .none, rfl, ht⟩

theorem exists_label_of_readCoordinate? {c : Coordinate} (h : readCoordinate? s = some (c, rest)) :
    ∃ l : Label, l.place = c ∧ s = l.text ++ rest := by
  unfold readCoordinate? at h
  dsimp only at h
  split at h
  · cases h
  · obtain ⟨d, hd, he⟩ := Option.map_eq_some_iff.1 h
    cases he
    refine ⟨⟨_, _, c, hd⟩, rfl, ?_⟩
    rw [Label.text, List.append_assoc, List.takeWhile_append_dropWhile,
      List.takeWhile_append_dropWhile]

/-- A single cell is read where no range is. -/
theorem readCoordinate?_of_readTarget? {c : Coordinate}
    (h : readTarget? s = some (.cell c, rest)) : readCoordinate? s = some (c, rest) := by
  rw [readTarget?_eq] at h
  obtain ⟨⟨d, u⟩, hd, h⟩ := Option.map_eq_some_iff.1 h
  dsimp only at h
  cases hsecond : readSecond? u with
  | none =>
    rw [hsecond] at h
    cases h
    exact hd
  | some p =>
    rw [hsecond] at h
    cases h

end Read

/-! ## Spans -/

theorem start_le_of_mem_ofPieces {start : Nat} {ps : List Piece} {p : Span}
    (h : p ∈ Span.ofPieces start ps) : start ≤ p.start := by
  induction ps generalizing start with
  | nil => cases h
  | cons q ps ih =>
    have hnext : p ∈ Span.ofPieces (start + (String.ofList q.text).utf8ByteSize) ps →
        start ≤ p.start := fun h => Nat.le_trans (Nat.le_add_right ..) (ih h)
    rw [Span.ofPieces] at h
    split at h
    · rcases List.mem_cons.1 h with rfl | h
      · exact Nat.le_refl _
      · exact hnext h
    · exact hnext h

theorem utf8ByteSize_ofList_pos {s : List Char} (h : s ≠ []) :
    0 < (String.ofList s).utf8ByteSize := by
  rw [Nat.pos_iff_ne_zero, Ne, String.utf8ByteSize_eq_zero_iff]
  intro hempty
  exact h (String.ofList_injective hempty)

/-- One reference spans a text if it is read from the start of the text to its end. -/
theorem spans_eq_singleton_iff {text : String} {r : Reference} :
    spans text = [⟨0, text.utf8ByteSize, r⟩] ↔ read? none text.toList = some (r, []) := by
  obtain ⟨s, rfl⟩ := String.exists_eq_ofList text
  rw [spans, String.toList_ofList]
  refine ⟨fun h => ?_, fun h => ?_⟩
  · cases hread : read? none s with
    | none =>
      cases s with
      | nil =>
        rw [Piece.split, Piece.splitAfter] at h
        cases h
      | cons c s =>
        -- what follows a character that belongs to no reference starts behind it
        rw [Piece.split, Piece.splitAfter_gap hread] at h
        change Span.ofPieces (0 + (String.ofList [c]).utf8ByteSize) _ = _ at h
        have hstart : 0 + (String.ofList [c]).utf8ByteSize ≤ 0 :=
          start_le_of_mem_ofPieces (h ▸ List.mem_cons_self ..)
        have hpos := utf8ByteSize_ofList_pos (List.cons_ne_nil c [])
        omega
    | some p =>
      obtain ⟨ref, rest⟩ := p
      obtain ⟨t, ht, rfl⟩ := exists_append_of_read? hread
      rw [Piece.split, Piece.splitAfter_found ht hread] at h
      obtain ⟨hspan, -⟩ := List.cons.inj h
      injection hspan with _ hstop href
      rw [String.ofList_append, String.utf8ByteSize_append, Piece.text] at hstop
      by_cases hrest : rest = []
      · rw [href, hrest]
      · have hpos := utf8ByteSize_ofList_pos hrest
        omega
  · rw [split_of_read? h, Span.ofPieces]
    simp only [Piece.text, Piece.reference?, Nat.zero_add, Span.ofPieces]

end Reference

/-! ## What is written -/

namespace Target

/-- A cell is written as its label, and a range as those of its corners with a colon between. -/
def text : Target → List Char
  | cell c => c.labelChars
  | range r => r.first.labelChars ++ ':' :: r.second.labelChars

/-- The coordinates of a target have positive columns and rows. -/
def Positive : Target → Prop
  | cell c => c.Positive
  | range r => r.first.Positive ∧ r.second.Positive

end Target

namespace Reference

/-- The label that a coordinate is written with. -/
def Label.ofPlace {c : Coordinate} (hc : c.Positive) : Label :=
  ⟨Coordinate.columnLabel c.column, Decimal.Layout.natDigits c.row.toNat, c,
    Coordinate.ofParts?_label hc⟩

/-- A target as it is written, without a sheet. -/
theorem exists_places {t : Target} (ht : t.Positive) :
    ∃ w : Written, w.places = t.text ∧ w.target = t := by
  cases t with
  | cell c => exact ⟨⟨.none, .ofPlace ht, none⟩, rfl, rfl⟩
  | range r => exact ⟨⟨.none, .ofPlace ht.1, some (.ofPlace ht.2)⟩, rfl, rfl⟩

theorem read?_sheetText_append {r : Reference} {front : List Char} (h : SheetText r.sheet front)
    (ht : r.target.Positive) : read? none (front ++ r.target.text) = some (r, []) := by
  obtain ⟨w, hplaces, htarget⟩ := exists_places ht
  have hread := h.read?_append Formula.opened_none (w.readTarget?_places Formula.closed_nil)
    fun _ => w.readSheet?_places none Formula.closed_nil
  rwa [List.append_nil, hplaces, htarget] at hread

/-- A reference is read back from the text that it is written with, and spans it. -/
theorem spans_written {r : Reference} {front : List Char} (h : SheetText r.sheet front)
    (ht : r.target.Positive) :
    spans (String.ofList (front ++ r.target.text)) =
        [⟨0, (String.ofList (front ++ r.target.text)).utf8ByteSize, r⟩] ∧
      ofArgument? (front ++ r.target.text) = some r := by
  have hread := read?_sheetText_append h ht
  refine ⟨spans_eq_singleton_iff.2 ?_, ofArgument?_of_read? hread⟩
  rwa [String.toList_ofList]

/-- A range that is named from its last corner, on a sheet whose name holds a quote, an exclamation
mark and the beginning of another reference. -/
theorem spans_written_corners :
    SheetText (some "'!(B2") "'''!(B2'!".toList ∧
    (Target.range ⟨⟨12, 28⟩, ⟨3, 1⟩⟩).Positive ∧
    spans "'''!(B2'!AB12:A3" = [⟨0, 16, ⟨some "'!(B2", .range ⟨⟨12, 28⟩, ⟨3, 1⟩⟩⟩⟩] ∧
    ofArgument? "'''!(B2'!AB12:A3".toList = some ⟨some "'!(B2", .range ⟨⟨12, 28⟩, ⟨3, 1⟩⟩⟩ := by
  have hfront : SheetText (some "'!(B2") "'''!(B2'!".toList :=
    .quoted (List.cons_ne_nil '\'' ['!', '(', 'B', '2'])
  have hpositive : (Target.range ⟨⟨12, 28⟩, ⟨3, 1⟩⟩).Positive :=
    ⟨⟨by decide, by decide⟩, ⟨by decide, by decide⟩⟩
  have htext : "'''!(B2'!".toList ++ (Target.range ⟨⟨12, 28⟩, ⟨3, 1⟩⟩).text =
      "'''!(B2'!AB12:A3".toList := by
    decide +kernel
  obtain ⟨hspans, hargument⟩ :=
    spans_written (r := ⟨some "'!(B2", .range ⟨⟨12, 28⟩, ⟨3, 1⟩⟩⟩) hfront hpositive
  rw [htext] at hspans hargument
  exact ⟨hfront, hpositive, hspans, hargument⟩

end Reference

end Recalc
