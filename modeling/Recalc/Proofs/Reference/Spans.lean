import Recalc.Proofs.Reference.Whole

/-!
# What stands around a reference

Each span of a text is read where it stands, behind the character in front of it
(`exists_readAt_of_mem_spans`). So it ends where no word character follows, and no ASCII letter or
digit stands in front of it, unless it starts with the quote of a sheet name
(`bounded_of_mem_spans`). A sheet name that reads like a coordinate is taken for one only where no
sheet is looked for (`next_ne_bang_of_mem_spans`).
-/

namespace Recalc

/-! ## Bytes of a text -/

namespace Text

/-- The number of bytes that a text takes. -/
def byteSize (s : List Char) : Nat :=
  (String.ofList s).utf8ByteSize

theorem byteSize_append (s t : List Char) : byteSize (s ++ t) = byteSize s + byteSize t := by
  rw [byteSize, String.ofList_append, String.utf8ByteSize_append]
  rfl

theorem byteSize_cons (c : Char) (s : List Char) : byteSize (c :: s) = c.utf8Size + byteSize s := by
  rw [byteSize, String.ofList_cons, String.utf8ByteSize_append, String.utf8ByteSize_singleton]
  rfl

/-- The characters of a text that start in its first `n` bytes. -/
def takeBytes : (n : Nat) → List Char → List Char
  | _, [] => []
  | n, c :: s => if n = 0 then [] else c :: takeBytes (n - c.utf8Size) s

/-- The other ones. -/
def dropBytes : (n : Nat) → List Char → List Char
  | _, [] => []
  | n, c :: s => if n = 0 then c :: s else dropBytes (n - c.utf8Size) s

theorem takeBytes_zero (s : List Char) : takeBytes 0 s = [] := by
  cases s <;> rfl

theorem dropBytes_zero (s : List Char) : dropBytes 0 s = s := by
  cases s <;> rfl

theorem takeBytes_append (s t : List Char) : takeBytes (byteSize s) (s ++ t) = s := by
  induction s with
  | nil => exact takeBytes_zero t
  | cons c s ih =>
    have hpos := c.utf8Size_pos
    rw [byteSize_cons, List.cons_append, takeBytes, if_neg (by omega), Nat.add_sub_cancel_left, ih]

theorem dropBytes_append (s t : List Char) : dropBytes (byteSize s) (s ++ t) = t := by
  induction s with
  | nil => exact dropBytes_zero t
  | cons c s ih =>
    have hpos := c.utf8Size_pos
    rw [byteSize_cons, List.cons_append, dropBytes, if_neg (by omega), Nat.add_sub_cancel_left, ih]

end Text

namespace Reference

/-! ## The last coordinate of a reference -/

section Corner
variable {before : Option Char} {s rest : List Char}

theorem any_isWord_of_readCoordinate? {c : Coordinate} (h : readCoordinate? s = some (c, rest)) :
    rest.head?.any Text.isWord = false := by
  unfold readCoordinate? at h
  dsimp only at h
  split at h
  · cases h
  · rename_i hword
    obtain ⟨d, -, he⟩ := Option.map_eq_some_iff.1 h
    cases he
    simpa using hword

theorem SheetText.exists_eq_concat {sheet : Option String} {front : List Char}
    (h : SheetText sheet front) :
    sheet = Option.none ∧ front = [] ∨ ∃ name, front = name ++ ['!'] := by
  cases h with
  | none => exact Or.inl ⟨rfl, rfl⟩
  | @plain name => exact Or.inr ⟨name, rfl⟩
  | @quoted name =>
    refine Or.inr ⟨'\'' :: (Qualifier.doubled name ++ ['\'']), ?_⟩
    rw [List.cons_append, List.append_assoc]
    rfl

/-- A text ends with the colon of a range, blanks behind it or not. -/
def EndsWithColon (front : List Char) : Prop :=
  ∃ first blanks, front = first ++ ':' :: blanks ∧ ∀ c ∈ blanks, Text.isBlank c = true

theorem EndsWithColon.append_left {front : List Char} (h : EndsWithColon front)
    (t : List Char) : EndsWithColon (t ++ front) := by
  obtain ⟨first, blanks, rfl, hblanks⟩ := h
  exact ⟨t ++ first, blanks, (List.append_assoc ..).symm, hblanks⟩

/-- How a target is written: with a label, or with two and a colon between them, blanks around it or
not. -/
inductive TargetText : Target → List Char → Prop
  | cell (l : Label) : TargetText (.cell l.place) l.text
  | range (first second : Label) {left right : List Char}
      (hl : ∀ c ∈ left, Text.isBlank c = true) (hr : ∀ c ∈ right, Text.isBlank c = true) :
      TargetText (.range ⟨first.place, second.place⟩)
        (first.text ++ (left ++ ':' :: (right ++ second.text)))

/-- A target is written with letters, digits, blanks and colons. -/
theorem TargetText.not_mem {t : Target} {text : List Char} (h : TargetText t text) {d : Char}
    (ha : d.isAlphanum = false) (hb : Text.isBlank d = false) (hd : d ≠ ':') : d ∉ text := by
  have hlabel : ∀ l : Label, d ∉ l.text := fun l hmem => by
    rw [l.isAlphanum_of_mem_text d hmem] at ha
    cases ha
  have hblank : ∀ {blanks : List Char}, (∀ c ∈ blanks, Text.isBlank c = true) → d ∉ blanks :=
    fun hblanks hmem => by
      rw [hblanks d hmem] at hb
      cases hb
  cases h with
  | cell l => exact hlabel l
  | range first second hl hr =>
    simp only [List.mem_append, List.mem_cons, not_or]
    exact ⟨hlabel first, hblank hl, hd, hblank hr, hlabel second⟩

theorem exists_targetText_of_readTarget? {t : Target} (h : readTarget? s = some (t, rest)) :
    ∃ text, TargetText t text ∧ s = text ++ rest ∧ rest.head?.any Text.isWord = false := by
  rw [readTarget?_eq] at h
  obtain ⟨⟨c, u⟩, hc, he⟩ := Option.map_eq_some_iff.1 h
  dsimp only at he
  obtain ⟨first, rfl, rfl⟩ := exists_label_of_readCoordinate? hc
  cases hsecond : readSecond? u with
  | none =>
    rw [hsecond] at he
    cases he
    exact ⟨_, .cell first, rfl, any_isWord_of_readCoordinate? hc⟩
  | some q =>
    obtain ⟨d, rest'⟩ := q
    rw [hsecond] at he
    cases he
    obtain ⟨v, hv, hq⟩ := Option.bind_eq_some_iff.1 hsecond
    obtain ⟨second, rfl, hlabel⟩ := exists_label_of_readCoordinate? hq
    have hblanks : ∀ u : List Char, ∀ c ∈ u.takeWhile Text.isBlank, Text.isBlank c = true :=
      fun _ => List.all_eq_true.1 List.all_takeWhile
    have htrim : ∀ u : List Char, u = u.takeWhile Text.isBlank ++ Text.trimStart u :=
      fun _ => List.takeWhile_append_dropWhile.symm
    refine ⟨_, .range first second (hblanks u) (hblanks v), ?_,
      any_isWord_of_readCoordinate? hq⟩
    rw [List.append_assoc, List.append_assoc, List.cons_append, List.append_assoc, ← hlabel,
      ← htrim, ← eq_cons_of_behind? hv, ← htrim]

theorem exists_corner_of_readTarget? {t : Target} (h : readTarget? s = some (t, rest)) :
    ∃ front corner c, s = front ++ corner ∧ readCoordinate? corner = some (c, rest) ∧
      (front = [] ∨ EndsWithColon front) := by
  obtain ⟨text, htext, rfl, hrest⟩ := exists_targetText_of_readTarget? h
  have hword : ∀ c ∈ rest.head?, Text.isWord c = false := fun c hc => by
    rw [show rest.head? = some c from hc] at hrest
    exact hrest
  cases htext with
  | cell l => exact ⟨[], _, _, rfl, l.readCoordinate?_text hword, Or.inl rfl⟩
  | @range first second left right hl hr =>
    refine ⟨first.text ++ (left ++ ':' :: right), second.text ++ rest, _, ?_,
      second.readCoordinate?_text hword, Or.inr ⟨_, _, (List.append_assoc ..).symm, hr⟩⟩
    rw [List.append_assoc, List.append_assoc, List.append_assoc, List.append_assoc,
      List.cons_append, List.cons_append, List.append_assoc]

/-- No sheet is looked for where the last coordinate of a reference is read: it is the second one of
a range, or a sheet is named in front of it, or none was found there. -/
theorem exists_corner_of_read? {r : Reference} (h : read? before s = some (r, rest)) :
    ∃ front corner c, s = front ++ corner ∧ readCoordinate? corner = some (c, rest) ∧
      (EndsWithColon front ∨ (∃ name, front = name ++ ['!']) ∨
        front = [] ∧ readSheet? before s = none ∧ before.any Char.isAlphanum = false) := by
  unfold read? at h
  split at h
  · rename_i name u hs
    obtain ⟨⟨t, rest'⟩, ht, he⟩ := Option.map_eq_some_iff.1 h
    cases he
    obtain ⟨sheet, hsheet, rfl⟩ := exists_sheetText_of_readSheet? hs
    obtain ⟨front, corner, c, rfl, hc, hfront⟩ := exists_corner_of_readTarget? ht
    refine ⟨sheet ++ front, corner, c, (List.append_assoc ..).symm, hc, ?_⟩
    rcases hfront with rfl | hcolon
    · rw [List.append_nil]
      exact Or.inr (Or.inl (hsheet.exists_eq_concat.resolve_left fun hnone => nomatch hnone.1))
    · exact Or.inl (hcolon.append_left sheet)
  · rename_i hs
    split at h
    · cases h
    · rename_i hbefore
      obtain ⟨⟨t, rest'⟩, ht, he⟩ := Option.map_eq_some_iff.1 h
      cases he
      obtain ⟨front, corner, c, rfl, hc, hfront⟩ := exists_corner_of_readTarget? ht
      refine ⟨front, corner, c, rfl, hc, ?_⟩
      rcases hfront with rfl | hcolon
      · exact Or.inr (Or.inr ⟨rfl, hs, by simpa using hbefore⟩)
      · exact Or.inl hcolon

theorem any_isWord_of_read? {r : Reference} (h : read? before s = some (r, rest)) :
    rest.head?.any Text.isWord = false := by
  obtain ⟨_, _, _, -, hc, -⟩ := exists_corner_of_read? h
  exact any_isWord_of_readCoordinate? hc

/-- No reference is read behind an ASCII letter or digit, but one with a quoted sheet. -/
theorem any_isAlphanum_of_read? {r : Reference} (h : read? before s = some (r, rest))
    (hquote : s.head? ≠ some '\'') : before.any Char.isAlphanum = false := by
  unfold read? at h
  split at h
  · rename_i name u hs
    cases s with
    | nil => cases hs
    | cons c s =>
      have hc : c ≠ '\'' := fun hc => hquote (congrArg some hc)
      rw [readSheet?_plain before hc] at hs
      split at hs
      · cases hs
      · rename_i hword
        cases before with
        | none => rfl
        | some b =>
          have hb : Text.isWord b = false := by simp at hword; exact hword.1
          exact Formula.isAlphanum_of_isWord_eq_false hb
  · split at h
    · cases h
    · rename_i hbefore
      simpa using hbefore

end Corner

/-! ## Where a span stands -/

namespace Span
variable (p : Span) (text : String)

/-- The character in front of a span. -/
def previous? : Option Char :=
  (Text.takeBytes p.start text.toList).getLast?

/-- The characters of a span. -/
def chars : List Char :=
  Text.dropBytes p.start (Text.takeBytes p.stop text.toList)

/-- The character behind a span. -/
def next? : Option Char :=
  (Text.dropBytes p.stop text.toList).head?

/-- If a word that starts in `front` goes on in `s`, no reference was read where it starts. -/
def Unread (front s : List Char) : Prop :=
  ∀ d w, front = d ++ w → w ≠ [] → (∀ c ∈ w, Text.isWord c = true) →
    d.getLast?.any Text.isWord = false → s.head?.any Text.isWord = true →
    read? d.getLast? (w ++ s) = none

/-- A span takes `token` behind `front`, and its reference is read there. -/
structure ReadAt (front token after : List Char) : Prop where
  start_eq : p.start = Text.byteSize front
  stop_eq : p.stop = Text.byteSize (front ++ token)
  ne_nil : token ≠ []
  read : read? front.getLast? (token ++ after) = some (p.reference, after)
  unread : Unread front (token ++ after)

namespace ReadAt
variable {p text} {front token after : List Char}

theorem previous?_eq (h : p.ReadAt front token after)
    (ht : text.toList = front ++ (token ++ after)) : p.previous? text = front.getLast? := by
  rw [previous?, h.start_eq, ht, Text.takeBytes_append]

theorem chars_eq (h : p.ReadAt front token after)
    (ht : text.toList = front ++ (token ++ after)) : p.chars text = token := by
  rw [chars, h.start_eq, h.stop_eq, ht, ← List.append_assoc, Text.takeBytes_append,
    Text.dropBytes_append]

theorem next?_eq (h : p.ReadAt front token after)
    (ht : text.toList = front ++ (token ++ after)) : p.next? text = after.head? := by
  rw [next?, h.stop_eq, ht, ← List.append_assoc, Text.dropBytes_append]

end ReadAt

end Span

namespace Span.Unread
variable {front : List Char}

theorem nil (s : List Char) : Unread [] s := by
  intro d w hempty hne
  exact absurd (List.append_eq_nil_iff.1 hempty.symm).2 hne

theorem of_isWord_eq_false {s : List Char} (h : s.head?.any Text.isWord = false) :
    Unread front s := by
  intro d w _ _ _ _ hword
  rw [h] at hword
  cases hword

theorem concat {c : Char} {r : List Char} (h : Unread front (c :: r))
    (hread : read? front.getLast? (c :: r) = none) : Unread (front ++ [c]) r := by
  intro d w hfront hne hwords hd _
  obtain ⟨v, e, rfl⟩ : ∃ v e, w = v ++ [e] :=
    ⟨w.dropLast, w.getLast hne, (List.dropLast_concat_getLast hne).symm⟩
  rw [← List.append_assoc] at hfront
  obtain ⟨rfl, hlast⟩ := List.append_inj' hfront rfl
  obtain rfl : c = e := (List.cons.inj hlast).1
  rw [List.append_assoc, List.singleton_append]
  by_cases hv : v = []
  · rw [hv, List.append_nil] at hread
    rw [hv]
    exact hread
  · refine h d v rfl hv (fun a ha => hwords a (List.mem_append_left _ ha)) hd ?_
    exact hwords c (List.mem_append_right _ (List.mem_singleton_self c))

end Span.Unread

/-- The spans of what stands behind `front` are read behind it. -/
theorem exists_readAt_of_mem_ofPieces {before : Option Char} {s : List Char} {p : Span}
    (front : List Char) (hb : front.getLast? = before) (hu : Span.Unread front s)
    (h : p ∈ Span.ofPieces (Text.byteSize front) (Piece.splitAfter before s)) :
    ∃ front' token after, front ++ s = front' ++ (token ++ after) ∧
      p.ReadAt front' token after := by
  induction before, s using read_induction generalizing front with
  | hnil b =>
    rw [Piece.splitAfter] at h
    cases h
  | hgap b c r hread ih =>
    subst hb
    rw [Piece.splitAfter_gap hread] at h
    have hnext : p ∈ Span.ofPieces (Text.byteSize (front ++ [c]))
        (Piece.splitAfter (some c) r) := by
      rw [Text.byteSize_append]
      exact h
    have htext := ih (front ++ [c]) List.getLast?_concat (hu.concat hread) hnext
    rwa [List.append_assoc, List.singleton_append] at htext
  | hfound b t rest ref ht hread ih =>
    subst hb
    rw [Piece.splitAfter_found ht hread] at h
    rcases List.mem_cons.1 h with rfl | h
    · exact ⟨front, t, rest, rfl, rfl, (Text.byteSize_append front t).symm, ht, hread, hu⟩
    · have hlast : (front ++ t).getLast? = t.getLast? := by
        rw [List.getLast?_append, List.getLast?_eq_some_getLast ht]
        rfl
      have hnext : p ∈ Span.ofPieces (Text.byteSize (front ++ t))
          (Piece.splitAfter t.getLast? rest) := by
        rw [Text.byteSize_append]
        exact h
      have htext := ih (front ++ t) hlast
        (.of_isWord_eq_false (any_isWord_of_read? hread)) hnext
      rwa [List.append_assoc] at htext

theorem exists_readAt_of_mem_spans {text : String} {p : Span} (h : p ∈ spans text) :
    ∃ front token after, text.toList = front ++ (token ++ after) ∧ p.ReadAt front token after :=
  exists_readAt_of_mem_ofPieces [] rfl (.nil _) h

/-! ## Boundaries -/

/-- A reference ends where no word character follows, and no ASCII letter or digit stands in front
of it, unless it starts with the quote of a sheet name. -/
theorem bounded_of_mem_spans {text : String} {p : Span} (h : p ∈ spans text) :
    (p.next? text).any Text.isWord = false ∧
      ((p.chars text).head? ≠ some '\'' → (p.previous? text).any Char.isAlphanum = false) := by
  obtain ⟨front, token, after, ht, hp⟩ := exists_readAt_of_mem_spans h
  rw [hp.next?_eq ht, hp.chars_eq ht, hp.previous?_eq ht]
  refine ⟨any_isWord_of_read? hp.read, fun hquote => ?_⟩
  refine any_isAlphanum_of_read? hp.read ?_
  obtain ⟨c, t, rfl⟩ := List.exists_cons_of_ne_nil hp.ne_nil
  exact hquote

/-- A reference to a sheet whose name is longer in bytes than in characters. -/
theorem bounded_product :
    (⟨2, 13, ⟨some "Лист", .cell ⟨1, 2⟩⟩⟩ : Span) ∈ spans "2*Лист!B1-C2" ∧
    Span.chars ⟨2, 13, ⟨some "Лист", .cell ⟨1, 2⟩⟩⟩ "2*Лист!B1-C2" = "Лист!B1".toList ∧
    (Span.next? ⟨2, 13, ⟨some "Лист", .cell ⟨1, 2⟩⟩⟩ "2*Лист!B1-C2").any Text.isWord = false ∧
    (Span.previous? ⟨2, 13, ⟨some "Лист", .cell ⟨1, 2⟩⟩⟩ "2*Лист!B1-C2").any Char.isAlphanum =
      false := by
  have hmem : (⟨2, 13, ⟨some "Лист", .cell ⟨1, 2⟩⟩⟩ : Span) ∈ spans "2*Лист!B1-C2" := by
    decide +kernel
  have hchars : Span.chars ⟨2, 13, ⟨some "Лист", .cell ⟨1, 2⟩⟩⟩ "2*Лист!B1-C2" =
      "Лист!B1".toList := by
    decide +kernel
  obtain ⟨hnext, hprevious⟩ := bounded_of_mem_spans hmem
  exact ⟨hmem, hchars, hnext, hprevious (by rw [hchars]; decide)⟩

/-- A quoted sheet name is read behind a digit, so the digit and the value that is put in its place
make one number. -/
theorem not_bounded_quotedSheet :
    ∃ p ∈ spans "1'S'!A1", (p.previous? "1'S'!A1").any Char.isAlphanum = true := by
  decide +kernel

/-! ## Sheet names that read like coordinates -/

/-- Whether only a coordinate is read behind a text: it ends with the colon of a range, blanks or
not, or with the end of a sheet name. -/
def awaitsCell (front : List Char) : Bool :=
  (Text.trimEnd front).getLast? == some ':' || front.getLast? == some '!'

/-- Whether a text ends with a word character behind which a cell may be read, but no sheet. -/
def withinName (front : List Char) : Bool :=
  front.getLast?.any fun c => Text.isWord c && !c.isAlphanum

/-- What stands behind a sheet name that reads like a coordinate. -/
def behindSheet? (s : List Char) : Option (List Char) :=
  (readCoordinate? s).bind fun p => behind? '!' p.2

/-- No sheet name that reads like a coordinate stands where only a coordinate is read, and where it
is the end of a longer name, a coordinate follows. -/
structure SheetsFound (s : List Char) : Prop where
  corner : ∀ i < s.length, awaitsCell (s.take i) = true → behindSheet? (s.drop i) = none
  target : ∀ i < s.length, withinName (s.take i) = true →
    ∀ rest ∈ behindSheet? (s.drop i), readCoordinate? rest ≠ none

theorem sheetsFound_iff {s : List Char} : SheetsFound s ↔
    (∀ i < s.length, awaitsCell (s.take i) = true → behindSheet? (s.drop i) = none) ∧
      ∀ i < s.length, withinName (s.take i) = true →
        ∀ rest ∈ behindSheet? (s.drop i), readCoordinate? rest ≠ none :=
  ⟨fun ⟨hcorner, htarget⟩ => ⟨hcorner, htarget⟩, fun ⟨hcorner, htarget⟩ => ⟨hcorner, htarget⟩⟩

instance (s : List Char) : Decidable (SheetsFound s) :=
  decidable_of_iff _ sheetsFound_iff.symm

theorem EndsWithColon.awaitsCell {front : List Char} (h : EndsWithColon front) :
    awaitsCell front = true := by
  obtain ⟨first, blanks, rfl, hblanks⟩ := h
  have htrim : Text.trimEnd (first ++ ':' :: blanks) = first ++ [':'] := by
    rw [List.append_cons, Text.trimEnd_append hblanks]
    exact Text.trimEnd_concat_of_not_isBlank rfl
  rw [Reference.awaitsCell, htrim, List.getLast?_concat]
  rfl

theorem awaitsCell_bang (name : List Char) : awaitsCell (name ++ ['!']) = true := by
  rw [awaitsCell, List.getLast?_concat, beq_self_eq_true, Bool.or_true]

theorem withinName_of_isWord {front : List Char} (h : front.getLast?.any Text.isWord = true)
    (ha : front.getLast?.any Char.isAlphanum = false) : withinName front = true := by
  rw [withinName]
  cases hlast : front.getLast? with
  | none =>
    rw [hlast] at h
    cases h
  | some c =>
    rw [hlast] at h ha
    have hword : Text.isWord c = true := h
    have halphanum : c.isAlphanum = false := ha
    rw [Option.any_some, hword, halphanum]
    rfl

/-- A word with an exclamation mark behind it is a sheet name. -/
theorem readSheet?_word {before : Option Char} {w : List Char} (hne : w ≠ [])
    (hw : ∀ c ∈ w, Text.isWord c = true) (hb : before.any Text.isWord = false)
    (rest : List Char) : readSheet? before (w ++ '!' :: rest) = some (w, rest) := by
  have hname : ∀ c ∈ w, isNameChar c = true := fun c hc => by
    rw [isNameChar, hw c hc]
    rfl
  have hbang : ∀ c ∈ ('!' :: rest).head?, isNameChar c = false := by
    rintro c ⟨⟩
    rfl
  have hdrop := Text.dropWhile_run hname _ hbang
  have htake := Text.takeWhile_run hname _ hbang
  obtain ⟨c, t, rfl⟩ := List.exists_cons_of_ne_nil hne
  have hc : Text.isWord c = true := hw c (List.mem_cons_self ..)
  have hquote : c ≠ '\'' := by
    rintro rfl
    cases hc
  rw [List.cons_append] at hdrop htake ⊢
  rw [readSheet?_plain before hquote, hdrop, htake, hb, hc]
  rfl

/-- Where a cell is read that reads like a sheet name, a longer name ends, and no coordinate follows
it. -/
theorem withinName_of_unread {front s rest : List Char} {c : Coordinate}
    (hu : Span.Unread front s) (hc : readCoordinate? s = some (c, '!' :: rest))
    (hs : readSheet? front.getLast? s = none) (ha : front.getLast?.any Char.isAlphanum = false) :
    withinName front = true ∧ readCoordinate? rest = none := by
  obtain ⟨l, -, rfl⟩ := exists_label_of_readCoordinate? hc
  have hlabel : ∀ c ∈ l.text, Text.isWord c = true := fun c hc =>
    Text.isWord_of_isAlphanum (l.isAlphanum_of_mem_text c hc)
  obtain ⟨d, t, hd, halpha⟩ := l.exists_text_eq_cons
  have hne : l.text ≠ [] := by
    rw [hd]
    exact List.cons_ne_nil d t
  have hword : front.getLast?.any Text.isWord = true := by
    by_contra hword
    rw [readSheet?_word hne hlabel (by simpa using hword)] at hs
    cases hs
  refine ⟨?_, ?_⟩
  · exact withinName_of_isWord hword ha
  · obtain ⟨first, w, rfl, hw, hfirst⟩ := Text.exists_append_run Text.isWord front
    have hwne : w ≠ [] := by
      rintro rfl
      rw [List.append_nil, hfirst] at hword
      cases hword
    have hhead : (l.text ++ '!' :: rest).head?.any Text.isWord = true := by
      rw [hd]
      exact Formula.isWord_of_isAlpha halpha
    have hread := hu first w rfl hwne hw hfirst hhead
    have hwhole : ∀ c ∈ w ++ l.text, Text.isWord c = true := fun c hc =>
      (List.mem_append.1 hc).elim (hw c) (hlabel c)
    rw [← List.append_assoc, read?,
      readSheet?_word (List.append_ne_nil_of_left_ne_nil hwne _) hwhole hfirst] at hread
    have htarget : readTarget? rest = none := Option.map_eq_none_iff.1 hread
    rw [readTarget?_eq] at htarget
    exact Option.map_eq_none_iff.1 htarget

/-- If the sheets of a text are found where they are named, no reference ends with the name of a
sheet. -/
theorem next_ne_bang_of_mem_spans {text : String} (h : SheetsFound text.toList) {p : Span}
    (hp : p ∈ spans text) : p.next? text ≠ some '!' := by
  obtain ⟨before, token, after, ht, hread⟩ := exists_readAt_of_mem_spans hp
  rw [hread.next?_eq ht]
  intro hbang
  obtain ⟨rest, rfl⟩ := List.head?_eq_some_iff.1 hbang
  obtain ⟨front, corner, c, htoken, hc, hfront⟩ := exists_corner_of_read? hread.read
  rw [htoken, ← List.append_assoc] at ht
  have hbehind : behindSheet? corner = some rest := by
    rw [behindSheet?, hc]
    rfl
  have hlength : (before ++ front).length < text.toList.length := by
    have hcorner := length_readCoordinate? hc
    have htext := congrArg List.length ht
    rw [List.length_append] at htext
    omega
  have hcorner := h.corner _ hlength
  have htarget := h.target _ hlength
  rw [ht, List.take_left, List.drop_left, hbehind] at hcorner htarget
  rcases hfront with hcolon | ⟨name, rfl⟩ | ⟨rfl, hnone, halphanum⟩
  · cases hcorner (hcolon.append_left before).awaitsCell
  · rw [← List.append_assoc] at hcorner
    cases hcorner (awaitsCell_bang _)
  · rw [List.append_nil] at hcorner htarget
    rw [htoken, List.nil_append] at hnone
    have hunread := hread.unread
    rw [htoken, List.nil_append] at hunread
    obtain ⟨hwithin, hrest⟩ := withinName_of_unread hunread hc hnone halphanum
    exact htarget hwithin rest rfl hrest

/-- Names that read like coordinates, in front of a range, in front of a cell, and at the end of
another name. -/
theorem next_ne_bang_names : SheetsFound "Q1!A1:B2 - T2!C3 - _D4!E5".toList ∧
    (⟨0, 8, ⟨some "Q1", .range ⟨⟨1, 1⟩, ⟨2, 2⟩⟩⟩⟩ : Span) ∈ spans "Q1!A1:B2 - T2!C3 - _D4!E5" ∧
    Span.next? ⟨0, 8, ⟨some "Q1", .range ⟨⟨1, 1⟩, ⟨2, 2⟩⟩⟩⟩ "Q1!A1:B2 - T2!C3 - _D4!E5" ≠
      some '!' := by
  have h : SheetsFound "Q1!A1:B2 - T2!C3 - _D4!E5".toList := by decide +kernel
  have hmem : (⟨0, 8, ⟨some "Q1", .range ⟨⟨1, 1⟩, ⟨2, 2⟩⟩⟩⟩ : Span) ∈
      spans "Q1!A1:B2 - T2!C3 - _D4!E5" := by
    decide +kernel
  exact ⟨h, hmem, next_ne_bang_of_mem_spans h hmem⟩

/-- The sheet of a second corner is taken for the corner, and the range goes up to column `Q`. -/
theorem next_eq_bang_secondSheet :
    spans "Q1!A1:Q1!B2" =
      [⟨0, 8, ⟨some "Q1", .range ⟨⟨1, 1⟩, ⟨1, 17⟩⟩⟩⟩, ⟨9, 11, ⟨none, .cell ⟨2, 2⟩⟩⟩] ∧
    ∃ p ∈ spans "Q1!A1:Q1!B2", p.next? "Q1!A1:Q1!B2" = some '!' := by
  decide +kernel

end Reference

end Recalc
