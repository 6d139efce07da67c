import Mathlib.Data.String.Basic
import Recalc.Proofs.Reference.Spans

/-!
# References as slices of a text

What is read as a reference is read as the same one where it stands alone, with nothing in front of
it and nothing behind it (`read?_alone`). So each span cuts whole characters out of its text, and
the slice is a text that its reference spans (`exists_slice_of_mem_spans`). The spans of a text
stand one behind the other (`pairwise_spans`).
-/

namespace Recalc

/-! ## Slices of a text -/

namespace Text

/-- A place between two characters of a text, or at one of its ends. -/
def IsBoundary (text : String) (n : Nat) : Prop :=
  String.Pos.Raw.IsValid text ⟨n⟩

instance (text : String) (n : Nat) : Decidable (IsBoundary text n) :=
  inferInstanceAs (Decidable (String.Pos.Raw.IsValid text ⟨n⟩))

/-- The bytes of a text from `start` to `stop`, if these are boundaries and in this order. -/
def slice? (text : String) (start stop : Nat) : Option String :=
  if start ≤ stop ∧ IsBoundary text start ∧ IsBoundary text stop then
    some (String.Pos.Raw.extract text ⟨start⟩ ⟨stop⟩)
  else none

section Slice
variable {text : String} {front rest : List Char}

theorem byteSize_eq_utf8Len (s : List Char) : byteSize s = String.utf8Len s := by
  rw [byteSize, ← String.utf8Len_toList, String.toList_ofList]

theorem utf8ByteSize_eq (h : text.toList = front) : text.utf8ByteSize = byteSize front := by
  rw [byteSize, ← h, String.ofList_toList]

theorem isBoundary_byteSize (h : text.toList = front ++ rest) :
    IsBoundary text (byteSize front) := by
  refine String.Pos.Raw.isValid_iff_exists_append.2 ⟨String.ofList front, String.ofList rest, ?_, rfl⟩
  rw [← String.ofList_append, ← h, String.ofList_toList]

theorem slice?_eq {middle : List Char} (h : text.toList = front ++ (middle ++ rest)) :
    slice? text (byteSize front) (byteSize (front ++ middle)) = some (String.ofList middle) := by
  have hmiddle : text.toList = (front ++ middle) ++ rest := by rw [h, List.append_assoc]
  have hle : byteSize front ≤ byteSize (front ++ middle) := by
    rw [byteSize_append]
    exact Nat.le_add_right ..
  have hextract := String.extract_of_valid front middle rest
  rw [← byteSize_eq_utf8Len, ← byteSize_eq_utf8Len, ← byteSize_append, List.append_assoc, ← h,
    String.ofList_toList] at hextract
  rw [slice?, if_pos ⟨hle, isBoundary_byteSize h, isBoundary_byteSize hmiddle⟩, hextract]

end Slice

end Text

namespace Reference

/-! ## References alone -/

namespace TargetText
variable {t : Target} {text : List Char}

/-- No sheet is named in the text of a target. -/
theorem readSheet?_eq_none (h : TargetText t text) (before : Option Char) :
    readSheet? before text = none := by
  refine Reference.readSheet?_eq_none (fun hquote => ?_) (fun hbang => ?_)
  · exact h.not_mem rfl rfl (by decide) (List.mem_of_mem_head? hquote)
  · refine h.not_mem rfl rfl (by decide) (d := '!') ?_
    exact (List.dropWhile_suffix isNameChar).mem (List.mem_of_mem_head? hbang)

/-- A target is read back from its text. -/
theorem readTarget?_eq (h : TargetText t text) : readTarget? text = some (t, []) := by
  have hend : ∀ l : Label, readCoordinate? l.text = some (l.place, []) := fun l => by
    have hlabel : readCoordinate? (l.text ++ []) = some (l.place, []) :=
      l.readCoordinate?_text (by rintro c ⟨⟩)
    rwa [List.append_nil] at hlabel
  cases h with
  | cell l =>
    rw [Reference.readTarget?_eq, hend]
    rfl
  | @range first second left right hl hr =>
    have hword : ∀ c ∈ (left ++ ':' :: (right ++ second.text)).head?, Text.isWord c = false := by
      cases left with
      | nil =>
        rintro c ⟨⟩
        rfl
      | cons b left =>
        rintro c ⟨⟩
        exact Formula.isWord_of_isBlank (hl b (List.mem_cons_self ..))
    have hcolon : Text.trimStart (left ++ ':' :: (right ++ second.text)) =
        ':' :: (right ++ second.text) := by
      rw [Text.trimStart_append hl]
      exact Text.trimStart_cons_of_not_isBlank rfl
    have hsecond : Text.trimStart (right ++ second.text) = second.text := by
      obtain ⟨c, r, hc, ha⟩ := second.exists_text_eq_cons
      rw [Text.trimStart_append hr, hc]
      exact Text.trimStart_cons_of_not_isBlank (Formula.isBlank_of_isDelimiter_eq_false
        (Formula.isDelimiter_of_isWord (Formula.isWord_of_isAlpha ha)))
    have hread : readSecond? (left ++ ':' :: (right ++ second.text)) = some (second.place, []) := by
      rw [readSecond?, hcolon, behind?, if_pos rfl, Option.bind_some, hsecond, hend]
    rw [Reference.readTarget?_eq, first.readCoordinate?_text hword]
    simp only [Option.map_some, hread, Option.elim_some]

end TargetText

/-- Neither what stands in front of a reference nor what stands behind it changes how it is read. -/
theorem read?_alone {before : Option Char} {token rest : List Char} {r : Reference}
    (h : read? before (token ++ rest) = some (r, rest)) : read? none token = some (r, []) := by
  obtain ⟨front, places, hfront, hs, hplaces⟩ := exists_sheetText_of_read? h
  obtain ⟨text, htext, rfl, -⟩ := exists_targetText_of_readTarget? hplaces
  rw [← List.append_assoc] at hs
  obtain rfl := List.append_cancel_right hs
  exact hfront.read?_append Formula.opened_none htext.readTarget?_eq
    fun _ => htext.readSheet?_eq_none none

/-! ## Spans -/

/-- The pieces of a text put together are the text. -/
theorem flatMap_text_splitAfter (before : Option Char) (s : List Char) :
    (Piece.splitAfter before s).flatMap Piece.text = s := by
  induction before, s using read_induction with
  | hnil b =>
    rw [Piece.splitAfter]
    rfl
  | hgap b c r hread ih =>
    rw [Piece.splitAfter_gap hread, List.flatMap_cons, ih]
    rfl
  | hfound b t rest ref ht hread ih =>
    rw [Piece.splitAfter_found ht hread, List.flatMap_cons, ih]
    rfl

/-- A span takes at least one character, and whole ones, of the text. -/
structure Span.Within (p : Span) (text : String) : Prop where
  start_lt_stop : p.start < p.stop
  stop_le : p.stop ≤ text.utf8ByteSize
  isBoundary_start : Text.IsBoundary text p.start
  isBoundary_stop : Text.IsBoundary text p.stop

namespace Span.ReadAt
variable {p : Span} {text : String} {front token after : List Char}

theorem within (h : p.ReadAt front token after) (ht : text.toList = front ++ (token ++ after)) :
    p.Within text := by
  have hstop : text.toList = (front ++ token) ++ after := by rw [ht, List.append_assoc]
  have hpos : 0 < Text.byteSize token := utf8ByteSize_ofList_pos h.ne_nil
  refine ⟨?_, ?_, ?_, ?_⟩
  · rw [h.start_eq, h.stop_eq, Text.byteSize_append]
    omega
  · rw [h.stop_eq, Text.utf8ByteSize_eq hstop, Text.byteSize_append (front ++ token)]
    exact Nat.le_add_right ..
  · rw [h.start_eq]
    exact Text.isBoundary_byteSize ht
  · rw [h.stop_eq]
    exact Text.isBoundary_byteSize hstop

theorem slice?_eq (h : p.ReadAt front token after) (ht : text.toList = front ++ (token ++ after)) :
    Text.slice? text p.start p.stop = some (String.ofList token) := by
  rw [h.start_eq, h.stop_eq]
  exact Text.slice?_eq ht

end Span.ReadAt

theorem within_of_mem_spans {text : String} {p : Span} (h : p ∈ spans text) : p.Within text := by
  obtain ⟨front, token, after, ht, hp⟩ := exists_readAt_of_mem_spans h
  exact hp.within ht

/-- The reference of a span is the only one of the text that the span cuts out, and spans it. -/
theorem exists_slice_of_mem_spans {text : String} {p : Span} (h : p ∈ spans text) :
    ∃ token, Text.slice? text p.start p.stop = some token ∧
      spans token = [⟨0, token.utf8ByteSize, p.reference⟩] := by
  obtain ⟨front, token, after, ht, hp⟩ := exists_readAt_of_mem_spans h
  refine ⟨String.ofList token, hp.slice?_eq ht, spans_eq_singleton_iff.2 ?_⟩
  rw [String.toList_ofList]
  exact read?_alone hp.read

namespace Span

theorem ofPieces_gap (start : Nat) (c : Char) (ps : List Piece) :
    ofPieces start (.gap c :: ps) = ofPieces (start + Text.byteSize [c]) ps :=
  rfl

theorem ofPieces_found (start : Nat) (r : Reference) (token : List Char) (ps : List Piece) :
    ofPieces start (.found r token :: ps) =
      ⟨start, start + Text.byteSize token, r⟩ :: ofPieces (start + Text.byteSize token) ps :=
  rfl

end Span

theorem pairwise_ofPieces (start : Nat) (ps : List Piece) :
    (Span.ofPieces start ps).Pairwise fun p q => p.stop ≤ q.start := by
  induction ps generalizing start with
  | nil => exact .nil
  | cons q ps ih =>
    cases q with
    | gap c =>
      rw [Span.ofPieces_gap]
      exact ih _
    | found r token =>
      rw [Span.ofPieces_found]
      exact List.pairwise_cons.2 ⟨fun p hp => start_le_of_mem_ofPieces hp, ih _⟩

/-- Each span of a text starts at or behind the end of the ones before it. -/
theorem pairwise_spans (text : String) : (spans text).Pairwise fun p q => p.stop ≤ q.start :=
  pairwise_ofPieces 0 _

end Reference

end Recalc
