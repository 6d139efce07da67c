import Recalc.Proofs.Formula.Monotone
import Recalc.Proofs.Reference.Slices

/-!
# Numbers put in the place of references

The second phase of evaluation works on the pieces of a text. What it gives is the text itself with
each of its spans cut out and a number put in (`splice?`), and every cut is made between two
characters (`spans_splice`).
-/

namespace Recalc.Formula

open Reference (Piece Span spans)

/-! ## Texts in the place of spans -/

/-- The bytes of a text from `last` on, with the spans cut out and a text put in the place of each,
unless a cut goes through a character or the spans are out of order. -/
def splice? (text : String) (last : Nat) : List (Span × List Char) → Option String
  | [] => Text.slice? text last text.utf8ByteSize
  | (p, t) :: ps => do
    let kept ← Text.slice? text last p.start
    let rest ← splice? text p.stop ps
    return kept ++ String.ofList t ++ rest

/-- Pieces put together, with a text in the place of each reference. -/
def fill : List Piece → List (List Char) → List Char
  | [], _ => []
  | .gap c :: ps, ts => c :: fill ps ts
  | .found _ t :: ps, [] => t ++ fill ps []
  | .found _ _ :: ps, t :: ts => t ++ fill ps ts

/-- Cutting the spans out of a text is the same as exchanging its references. -/
theorem splice?_ofPieces {text : String} {front gaps : List Char} {ps : List Piece}
    {ts : List (List Char)} (ht : text.toList = front ++ (gaps ++ ps.flatMap Piece.text))
    (hl : ts.length = (Span.ofPieces (Text.byteSize (front ++ gaps)) ps).length) :
    splice? text (Text.byteSize front)
      ((Span.ofPieces (Text.byteSize (front ++ gaps)) ps).zip ts) =
        some (String.ofList (gaps ++ fill ps ts)) := by
  induction ps generalizing front gaps ts with
  | nil =>
    have hsize : text.utf8ByteSize = Text.byteSize (front ++ gaps) :=
      Text.utf8ByteSize_eq (ht.trans (by simp))
    rw [Span.ofPieces, List.zip_nil_left, splice?, hsize, Text.slice?_eq ht, fill, List.append_nil]
  | cons p ps ih =>
    cases p with
    | gap c =>
      have hnext : text.toList = front ++ ((gaps ++ [c]) ++ ps.flatMap Piece.text) := by
        rw [ht, List.append_assoc gaps]
        rfl
      rw [Span.ofPieces_gap, ← Text.byteSize_append, List.append_assoc] at hl ⊢
      rw [ih hnext hl, fill, List.append_assoc]
      rfl
    | found r token =>
      -- the text between the last span and this one is kept in one slice
      have hnext : text.toList = (front ++ gaps ++ token) ++ ([] ++ ps.flatMap Piece.text) := by
        rw [ht, List.append_assoc, List.append_assoc]
        rfl
      rw [Span.ofPieces_found, ← Text.byteSize_append] at hl ⊢
      cases ts with
      | nil => cases hl
      | cons t ts =>
        have hrest := ih hnext (by rw [List.append_nil]; exact Nat.succ.inj hl)
        rw [List.append_nil, List.nil_append] at hrest
        rw [List.zip_cons_cons, splice?, Text.slice?_eq ht, hrest, fill, String.ofList_append,
          String.ofList_append, ← String.append_assoc]
        rfl

theorem splice?_spans (text : String) {ts : List (List Char)}
    (hl : ts.length = (spans text).length) :
    splice? text 0 ((spans text).zip ts) =
      some (String.ofList (fill (Piece.split text.toList) ts)) := by
  have ht : text.toList = [] ++ ([] ++ (Piece.split text.toList).flatMap Piece.text) :=
    (Reference.flatMap_text_splitAfter none text.toList).symm
  exact splice?_ofPieces ht hl

/-! ## The second phase -/

theorem map_flatten_cons {ε : Type} {x y : Except ε (List (List Char))}
    {f : List (List Char) → List Char} (h : x.map List.flatten = y.map f) (t : List Char) :
    (x.map (t :: ·)).map List.flatten = y.map fun ts => t ++ f ts := by
  cases x with
  | error e =>
    cases y with
    | error e' => exact h
    | ok ts => cases h
  | ok us =>
    cases y with
    | error e' => cases h
    | ok ts =>
      have hflat : us.flatten = f ts := Except.ok.inj h
      exact congrArg (fun u => Except.ok (t ++ u)) hflat

section Substitute
variable (lookup : Lookup) (sheet : String)

/-- What the second phase puts in the place of a span, or why it has nothing to put there. -/
def spanText (p : Span) : Except FormulaError (List Char) :=
  referenceText lookup sheet (.found p.reference [])

theorem mapM_referenceText (start : Nat) (ps : List Piece) :
    (ps.mapM (referenceText lookup sheet)).map List.flatten =
      ((Span.ofPieces start ps).mapM (spanText lookup sheet)).map (fill ps) := by
  induction ps generalizing start with
  | nil => rfl
  | cons p ps ih =>
    rw [List.mapM_cons]
    cases p with
    | gap c => exact map_flatten_cons (ih (start + Text.byteSize [c])) [c]
    | found r token =>
      have hspan : spanText lookup sheet ⟨start, start + Text.byteSize token, r⟩ =
          referenceText lookup sheet (.found r token) := rfl
      rw [Span.ofPieces_found, List.mapM_cons, hspan]
      cases referenceText lookup sheet (.found r token) with
      | error e => rfl
      | ok t =>
        refine (map_flatten_cons (ih (start + Text.byteSize token)) t).trans ?_
        cases (Span.ofPieces (start + Text.byteSize token) ps).mapM (spanText lookup sheet) <;> rfl

/-- The second phase cuts the spans out of the text and puts their numbers in. -/
theorem substituteReferences_eq_splice? (text : String) :
    (substituteReferences lookup sheet text.toList).map (fun t => some (String.ofList t)) =
      ((spans text).mapM (spanText lookup sheet)).map fun ts =>
        splice? text 0 ((spans text).zip ts) := by
  have hphase : substituteReferences lookup sheet text.toList =
      ((spans text).mapM (spanText lookup sheet)).map (fill (Piece.split text.toList)) :=
    mapM_referenceText lookup sheet 0 (Piece.split text.toList)
  rw [hphase]
  cases hts : (spans text).mapM (spanText lookup sheet) with
  | error e => rfl
  | ok ts => exact congrArg Except.ok (splice?_spans text (length_of_mapM hts)).symm

end Substitute

/-- The spans of a text are whole characters, one behind the other, so that any texts can be put in
their places; the second phase puts their numbers there and leaves the rest as it is; and what a
span cuts out is read as its reference alone. -/
theorem spans_splice (text : String) :
    (∀ p ∈ spans text, p.Within text) ∧
    (spans text).Pairwise (fun p q => p.stop ≤ q.start) ∧
    (∀ ts : List (List Char), ts.length = (spans text).length →
      (splice? text 0 ((spans text).zip ts)).isSome = true) ∧
    (∀ lookup sheet,
      (substituteReferences lookup sheet text.toList).map (fun t => some (String.ofList t)) =
        ((spans text).mapM (spanText lookup sheet)).map fun ts =>
          splice? text 0 ((spans text).zip ts)) ∧
    ∀ p ∈ spans text, ∃ token, Text.slice? text p.start p.stop = some token ∧
      spans token = [⟨0, token.utf8ByteSize, p.reference⟩] := by
  refine ⟨fun p hp => Reference.within_of_mem_spans hp, Reference.pairwise_spans text,
    fun ts hl => ?_, fun lookup sheet => substituteReferences_eq_splice? lookup sheet text,
    fun p hp => Reference.exists_slice_of_mem_spans hp⟩
  rw [splice?_spans text hl]
  rfl

def mixedNames : String :=
  "Лист!B1 + 'a''b'!C2 : D4 - _E5"

/-- A plain name of wide characters, a quoted one with blanks around the colon, and a cell that is
the end of a longer name. -/
theorem spans_splice_mixedNames :
    spans mixedNames = [⟨0, 11, ⟨some "Лист", .cell ⟨1, 2⟩⟩⟩,
      ⟨14, 28, ⟨some "a'b", .range ⟨⟨2, 3⟩, ⟨4, 4⟩⟩⟩⟩, ⟨32, 34, ⟨none, .cell ⟨5, 5⟩⟩⟩] ∧
    Span.Within ⟨14, 28, ⟨some "a'b", .range ⟨⟨2, 3⟩, ⟨4, 4⟩⟩⟩⟩ mixedNames ∧
    (splice? mixedNames 0 ((spans mixedNames).zip [['1'], ['2'], ['3']])).isSome = true ∧
    splice? mixedNames 0 ((spans mixedNames).zip [['1'], ['2'], ['3']]) = some "1 + 2 - _3" ∧
    Text.slice? mixedNames 14 28 = some "'a''b'!C2 : D4" ∧
    spans "'a''b'!C2 : D4" = [⟨0, 14, ⟨some "a'b", .range ⟨⟨2, 3⟩, ⟨4, 4⟩⟩⟩⟩] := by
  have hspans : spans mixedNames = [⟨0, 11, ⟨some "Лист", .cell ⟨1, 2⟩⟩⟩,
      ⟨14, 28, ⟨some "a'b", .range ⟨⟨2, 3⟩, ⟨4, 4⟩⟩⟩⟩, ⟨32, 34, ⟨none, .cell ⟨5, 5⟩⟩⟩] := by
    decide +kernel
  have hslice : Text.slice? mixedNames 14 28 = some "'a''b'!C2 : D4" := by decide +kernel
  obtain ⟨hwithin, -, hsome, -, halone⟩ := spans_splice mixedNames
  have hmem : (⟨14, 28, ⟨some "a'b", .range ⟨⟨2, 3⟩, ⟨4, 4⟩⟩⟩⟩ : Span) ∈ spans mixedNames := by
    rw [hspans]
    exact List.mem_cons_of_mem _ (List.mem_cons_self ..)
  obtain ⟨token, htoken, hread⟩ := halone _ hmem
  obtain rfl := Option.some.inj (hslice.symm.trans htoken)
  exact ⟨hspans, hwithin _ hmem, hsome _ (by rw [hspans]; rfl), by decide +kernel, hslice, hread⟩

end Recalc.Formula
