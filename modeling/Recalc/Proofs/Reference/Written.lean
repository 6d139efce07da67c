import Recalc.Proofs.Coordinate.Label
import Recalc.Proofs.Formula.Delimiter
import Recalc.Reference.Scan

/-!
# Written references

A reference is written as a label or two with a colon between them, alone or behind the name of a
sheet and an exclamation mark. `read?` reads it back whole when a delimiter stands on either side
(`Written.read?_text`), and finds no reference in a text without exclamation marks whose letters
stand at its end (`Inert.read?_eq_none`), which is what numbers look like.
-/

namespace Recalc.Reference

open Formula (Opened Closed isDelimiter isWord_of_isAlpha isWord_of_isDigit
  isAlpha_of_isWord_eq_false isDigit_of_isWord_eq_false)

/-! ## Pieces -/

namespace Piece

theorem splitAfter_gap {before : Option Char} {c : Char} {r : List Char}
    (h : read? before (c :: r) = none) :
    splitAfter before (c :: r) = gap c :: splitAfter (some c) r := by
  rw [splitAfter]
  split
  · rename_i h'
    rw [h] at h'
    cases h'
  · rfl

theorem splitAfter_found {before : Option Char} {t rest : List Char} {ref : Reference} (ht : t ≠ [])
    (h : read? before (t ++ rest) = some (ref, rest)) :
    splitAfter before (t ++ rest) = found ref t :: splitAfter t.getLast? rest := by
  obtain ⟨c, r, rfl⟩ := List.exists_cons_of_ne_nil ht
  have htake : ((c :: r) ++ rest).take (((c :: r) ++ rest).length - rest.length) = c :: r := by
    rw [List.length_append, Nat.add_sub_cancel, List.take_left]
  rw [List.cons_append] at h htake ⊢
  rw [splitAfter]
  split
  · rename_i ref' rest' h'
    rw [h] at h'
    cases h'
    simp only [htake]
  · rename_i h'
    rw [h] at h'
    cases h'

end Piece

/-! ## References that are a whole text -/

section Whole
variable {text : List Char} {ref : Reference}

theorem split_of_read? (h : read? none text = some (ref, [])) :
    Piece.split text = [.found ref text] := by
  have hne : text ≠ [] := by
    rintro rfl
    cases h
  rw [← List.append_nil text] at h
  have hfound := Piece.splitAfter_found hne h
  rwa [List.append_nil, Piece.splitAfter] at hfound

theorem ofArgument?_of_read? (h : read? none text = some (ref, [])) :
    ofArgument? text = some ref := by
  rw [ofArgument?, all, split_of_read? h]
  cases ht : ref.target.isRange <;> simp [Piece.reference?, ht]

end Whole

/-! ## Labels -/

/-- The letters and digits of a label, and the cell that they name. -/
structure Label where
  letters : List Char
  digits : List Char
  place : Coordinate
  ofParts?_eq : Coordinate.ofParts? letters digits = some place

namespace Label
variable (l : Label)

def text : List Char :=
  l.letters ++ l.digits

theorem letters_ne_nil : l.letters ≠ [] := by
  intro h
  have := l.ofParts?_eq
  rw [h] at this
  cases this

theorem isAlpha_of_mem : ∀ c ∈ l.letters, c.isAlpha = true := by
  have h := l.ofParts?_eq
  obtain ⟨column, hc, -⟩ := Option.bind_eq_some_iff.1 h
  exact Coordinate.isAlpha_of_columnNumber? hc

theorem readDigits?_isSome : (Decimal.readDigits? l.digits).isSome = true := by
  have h := l.ofParts?_eq
  obtain ⟨column, -, hr⟩ := Option.bind_eq_some_iff.1 h
  obtain ⟨row, hr, -⟩ := Option.map_eq_some_iff.1 hr
  rw [Coordinate.rowNumber?] at hr
  split at hr
  · cases hr
  · obtain ⟨n, hn, -⟩ := Option.bind_eq_some_iff.1 hr
    rw [hn]; rfl

theorem digits_ne_nil : l.digits ≠ [] := by
  intro h
  have := l.readDigits?_isSome
  rw [h] at this
  cases this

theorem isDigit_of_mem : ∀ c ∈ l.digits, c.isDigit = true := by
  have h := l.readDigits?_isSome
  rw [Decimal.readDigits?] at h
  split at h
  · cases h
  · rename_i hd
    simp only [Bool.or_eq_true, Bool.not_eq_true', not_or, Bool.not_eq_false] at hd
    exact List.all_eq_true.1 hd.2

theorem exists_text_eq_cons : ∃ c r, l.text = c :: r ∧ c.isAlpha = true := by
  obtain ⟨c, r, h⟩ := List.exists_cons_of_ne_nil l.letters_ne_nil
  refine ⟨c, r ++ l.digits, by rw [text, h]; rfl, l.isAlpha_of_mem c ?_⟩
  rw [h]
  exact List.mem_cons_self ..

theorem exists_text_eq_concat : ∃ r c, l.text = r ++ [c] ∧ c.isDigit = true := by
  refine ⟨l.letters ++ l.digits.dropLast, l.digits.getLast l.digits_ne_nil, ?_,
    l.isDigit_of_mem _ (List.getLast_mem _)⟩
  rw [List.append_assoc, List.dropLast_concat_getLast]; rfl

theorem isAlphanum_of_mem_text : ∀ c ∈ l.text, c.isAlphanum = true := by
  intro c hc
  rw [Char.isAlphanum]
  rcases List.mem_append.1 hc with h | h
  · rw [l.isAlpha_of_mem c h]; rfl
  · rw [l.isDigit_of_mem c h, Bool.or_true]

theorem isAlpha_head_digits (rest : List Char) :
    ∀ c ∈ (l.digits ++ rest).head?, c.isAlpha = false := by
  obtain ⟨c, r, hc⟩ := List.exists_cons_of_ne_nil l.digits_ne_nil
  rw [hc]
  rintro d ⟨⟩
  exact Formula.isAlpha_of_isDigit (l.isDigit_of_mem c (hc ▸ List.mem_cons_self ..))

/-- A label ends where no word character follows. -/
theorem readCoordinate?_text {rest : List Char} (hr : ∀ c ∈ rest.head?, Text.isWord c = false) :
    readCoordinate? (l.text ++ rest) = some (l.place, rest) := by
  have hdigits := l.isAlpha_head_digits rest
  have hrest : ∀ c ∈ rest.head?, c.isDigit = false := by
    intro c hc
    by_contra hd
    have := isWord_of_isDigit (by simpa using hd)
    rw [hr c hc] at this
    cases this
  have hw : rest.head?.any Text.isWord = false := by
    cases rest with
    | nil => rfl
    | cons c r => exact hr c rfl
  rw [readCoordinate?, text, List.append_assoc, Text.takeWhile_run l.isAlpha_of_mem _ hdigits,
    Text.dropWhile_run l.isAlpha_of_mem _ hdigits, Text.takeWhile_run l.isDigit_of_mem _ hrest,
    Text.dropWhile_run l.isDigit_of_mem _ hrest, l.ofParts?_eq, hw]
  rfl

end Label

/-! ## Sheets in front of a label -/

theorem isNameChar_of_isDelimiter {c : Char} (h : isDelimiter c = true) : isNameChar c = false := by
  rw [isNameChar, Formula.isWord_of_isDelimiter h, Bool.false_or]
  exact beq_eq_false_iff_ne.2 (Formula.ne_of_isDelimiter h rfl)

/-- What stands behind the end of a number: no word character, and no end of a sheet name. -/
structure Ends (rest : List Char) : Prop where
  isWord_head : ∀ c ∈ rest.head?, Text.isWord c = false
  head_dropWhile : (rest.dropWhile isNameChar).head? ≠ some '!'

theorem ends_iff {rest : List Char} : Ends rest ↔
    rest.head?.any Text.isWord = false ∧ (rest.dropWhile isNameChar).head? ≠ some '!' := by
  constructor
  · rintro ⟨hword, hbang⟩
    refine ⟨?_, hbang⟩
    cases rest with
    | nil => rfl
    | cons c r => exact hword c rfl
  · rintro ⟨hword, hbang⟩
    refine ⟨fun c hc => ?_, hbang⟩
    rw [show rest.head? = some c from hc] at hword
    exact hword

instance (rest : List Char) : Decidable (Ends rest) :=
  decidable_of_iff _ ends_iff.symm

theorem ends_of_closed {rest : List Char} (hr : Closed rest) : Ends rest := by
  refine ⟨fun c hc => Formula.isWord_of_isDelimiter (hr.isDelimiter_head c hc), fun h => ?_⟩
  rw [Text.dropWhile_eq_self fun c hc => isNameChar_of_isDelimiter (hr.isDelimiter_head c hc)] at h
  cases hr.isDelimiter_head '!' h

theorem head_dropWhile_isNameChar_ne {s rest : List Char} (hs : '!' ∉ s)
    (hr : (rest.dropWhile isNameChar).head? ≠ some '!') :
    ((s ++ rest).dropWhile isNameChar).head? ≠ some '!' := by
  induction s with
  | nil => exact hr
  | cons c r ih =>
    rw [List.mem_cons, not_or] at hs
    rw [List.cons_append, List.dropWhile_cons]
    split
    · exact ih hs.2
    · intro h
      exact hs.1 (Option.some.inj h).symm

theorem readSheet?_eq_none {before : Option Char} {s : List Char}
    (hq : s.head? ≠ some '\'') (hs : (s.dropWhile isNameChar).head? ≠ some '!') :
    readSheet? before s = none := by
  cases s with
  | nil => rfl
  | cons c r =>
    rw [readSheet?]
    · split
      · rfl
      · split
        · rename_i t ht
          rw [ht] at hs
          exact absurd rfl hs
        · rfl
    · rintro rfl
      exact hq rfl

/-- What stands in front of a label: nothing, a plain name of word characters and points that starts
with a word character, or any name in quotes. -/
inductive Qualifier
  | none
  | plain (name : List Char) (ne_nil : name ≠ []) (head : ∀ c ∈ name.head?, Text.isWord c = true)
      (chars : ∀ c ∈ name, isNameChar c = true)
  | quoted (name : List Char) (ne_nil : name ≠ [])
      (noParens : ∀ c ∈ name, c ≠ '(' ∧ c ≠ ')')

namespace Qualifier

/-- The characters of a name in quotes: a quote is written twice. -/
def doubled : List Char → List Char
  | [] => []
  | c :: r => if c = '\'' then '\'' :: '\'' :: doubled r else c :: doubled r

def text : Qualifier → List Char
  | none => []
  | plain name _ _ _ => name ++ ['!']
  | quoted name _ _ => '\'' :: (doubled name ++ ['\'', '!'])

/-- The sheet that is named, if any. -/
def sheet : Qualifier → Option String
  | none => Option.none
  | plain name _ _ _ => some (String.ofList name)
  | quoted name _ _ => some (String.ofList name)

theorem readQuotedName?_doubled (name rest : List Char) :
    readQuotedName? (doubled name ++ '\'' :: '!' :: rest) = some (name, '!' :: rest) := by
  induction name with
  | nil => rfl
  | cons c r ih =>
    by_cases hc : c = '\''
    · rw [doubled, if_pos hc, List.cons_append, List.cons_append, readQuotedName?, ih, hc]
      rfl
    · rw [doubled, if_neg hc, List.cons_append, readQuotedName?, ih]
      · rfl
      · rintro s rfl
        exact absurd rfl hc
      · exact hc

theorem mem_of_mem_doubled {name : List Char} {c : Char} (h : c ∈ doubled name) : c ∈ name := by
  induction name with
  | nil => exact h
  | cons d r ih =>
    rw [doubled] at h
    split at h
    · rename_i hd
      rcases List.mem_cons.1 h with rfl | h
      · rw [hd]; exact List.mem_cons_self ..
      · rcases List.mem_cons.1 h with rfl | h
        · rw [hd]; exact List.mem_cons_self ..
        · exact List.mem_cons_of_mem _ (ih h)
    · rcases List.mem_cons.1 h with rfl | h
      · exact List.mem_cons_self ..
      · exact List.mem_cons_of_mem _ (ih h)

end Qualifier

/-- How the sheet of a reference is written: not at all, by a plain name, or by any name in quotes,
in which each quote is written twice. -/
inductive SheetText : Option String → List Char → Prop
  | none : SheetText none []
  | plain {name : List Char} (ne_nil : name ≠ []) (head : ∀ c ∈ name.head?, Text.isWord c = true)
      (chars : ∀ c ∈ name, isNameChar c = true) :
      SheetText (some (String.ofList name)) (name ++ ['!'])
  | quoted {name : List Char} (ne_nil : name ≠ []) :
      SheetText (some (String.ofList name)) ('\'' :: (Qualifier.doubled name ++ ['\'', '!']))

theorem Qualifier.sheetText (q : Qualifier) : SheetText q.sheet q.text := by
  cases q with
  | none => exact .none
  | plain name hne hhead hchars => exact .plain hne hhead hchars
  | quoted name hne _ => exact .quoted hne

namespace SheetText
variable {before : Option Char} {front : List Char}

theorem readSheet?_append {name : String} (h : SheetText (some name) front) (hb : Opened before)
    (rest : List Char) : readSheet? before (front ++ rest) = some (name.toList, rest) := by
  cases h with
  | @plain name hne hhead hchars =>
    have hbang : ∀ c ∈ ('!' :: rest).head?, isNameChar c = false := by
      rintro d ⟨⟩
      rfl
    have hdrop := Text.dropWhile_run hchars _ hbang
    have htake := Text.takeWhile_run hchars _ hbang
    obtain ⟨c, r, rfl⟩ := List.exists_cons_of_ne_nil hne
    rw [List.cons_append] at hdrop htake
    rw [List.append_assoc, List.singleton_append, List.cons_append, readSheet?, hdrop, htake,
      hb.any_isWord, hhead c rfl, String.toList_ofList]
    · rfl
    · rintro rfl
      cases hhead '\'' rfl
  | @quoted name hne =>
    have hemp : name.isEmpty = false := by simpa using hne
    rw [List.cons_append, List.append_assoc, List.cons_append, List.singleton_append,
      String.toList_ofList]
    simp only [readSheet?, Qualifier.readQuotedName?_doubled, hemp]
    rfl

/-- A target behind the text of its sheet. -/
theorem read?_append {sheet : Option String} (h : SheetText sheet front) (hb : Opened before)
    {s rest : List Char} {t : Target} (ht : readTarget? s = some (t, rest))
    (hs : sheet = Option.none → readSheet? before s = Option.none) :
    read? before (front ++ s) = some (⟨sheet, t⟩, rest) := by
  cases sheet with
  | none =>
    cases h
    rw [List.nil_append, read?, hs rfl]
    simp only [hb.any_isAlphanum, Bool.false_eq_true, if_false, ht]
    rfl
  | some name =>
    rw [read?, h.readSheet?_append hb]
    simp only [ht, Option.map_some, String.ofList_toList]

end SheetText

/-- A reference as it is written: a label or two, on the formula's sheet or on a named one. -/
structure Written where
  qualifier : Qualifier
  first : Label
  second : Option Label

namespace Written
variable (w : Written)

/-- The labels with a colon between them. -/
def places : List Char :=
  match w.second with
  | none => w.first.text
  | some l => w.first.text ++ ':' :: l.text

def text : List Char :=
  w.qualifier.text ++ w.places

def target : Target :=
  match w.second with
  | none => .cell w.first.place
  | some l => .range ⟨w.first.place, l.place⟩

def reference : Reference :=
  ⟨w.qualifier.sheet, w.target⟩

theorem readTarget?_places {rest : List Char} (hr : Closed rest) :
    readTarget? (w.places ++ rest) = some (w.target, rest) := by
  have hword : ∀ c ∈ rest.head?, Text.isWord c = false :=
    fun c hc => Formula.isWord_of_isDelimiter (hr.isDelimiter_head c hc)
  rw [readTarget?, places, target]
  cases w.second with
  | none =>
    simp only [w.first.readCoordinate?_text hword, Option.map_some]
    have hcolon : ∀ r, Text.trimStart rest ≠ ':' :: r := by
      intro r h
      have := hr ':' (by rw [h]; rfl)
      cases this
    split
    · rename_i r h
      exact absurd h (hcolon r)
    · rfl
  | some l =>
    obtain ⟨c, r, hc, ha⟩ := l.exists_text_eq_cons
    have hb : Text.isBlank c = false :=
      Formula.isBlank_of_isDelimiter_eq_false
        (Formula.isDelimiter_of_isWord (isWord_of_isAlpha ha))
    have htrim : Text.trimStart (l.text ++ rest) = l.text ++ rest := by
      rw [hc]
      exact Text.trimStart_cons_of_not_isBlank hb
    simp only [List.append_assoc, List.cons_append]
    rw [w.first.readCoordinate?_text (by rintro d ⟨⟩; rfl)]
    have hcolon : Text.isBlank ':' = false := rfl
    simp only [Option.map_some, Text.trimStart_cons_of_not_isBlank hcolon, htrim,
      l.readCoordinate?_text hword]

theorem exists_places_eq_cons : ∃ c r, w.places = c :: r ∧ c.isAlpha = true := by
  obtain ⟨c, r, hc, ha⟩ := w.first.exists_text_eq_cons
  cases hs : w.second with
  | none => exact ⟨c, r, by rw [places, hs, hc], ha⟩
  | some l => exact ⟨c, r ++ ':' :: l.text, by rw [places, hs, hc]; rfl, ha⟩

theorem isAlphanum_of_mem_places : ∀ c ∈ w.places, c.isAlphanum = true ∨ c = ':' := by
  intro c hc
  rw [places] at hc
  cases hs : w.second with
  | none =>
    rw [hs] at hc
    exact Or.inl (w.first.isAlphanum_of_mem_text c hc)
  | some l =>
    rw [hs] at hc
    rcases List.mem_append.1 hc with hc | hc
    · exact Or.inl (w.first.isAlphanum_of_mem_text c hc)
    · rcases List.mem_cons.1 hc with rfl | hc
      · exact Or.inr rfl
      · exact Or.inl (l.isAlphanum_of_mem_text c hc)

theorem not_mem_places {d : Char} (ha : d.isAlphanum = false) (hd : d ≠ ':') : d ∉ w.places := by
  intro h
  rcases w.isAlphanum_of_mem_places d h with h | h
  · rw [ha] at h
    cases h
  · exact hd h

theorem readSheet?_places (before : Option Char) {rest : List Char} (hr : Closed rest) :
    readSheet? before (w.places ++ rest) = none := by
  obtain ⟨c, r, hc, ha⟩ := w.exists_places_eq_cons
  refine readSheet?_eq_none ?_ (head_dropWhile_isNameChar_ne
    (w.not_mem_places rfl (by decide)) (ends_of_closed hr).head_dropWhile)
  rw [hc]
  rintro ⟨⟩
  cases ha

/-- A reference between delimiters is read back whole. -/
theorem read?_text {before : Option Char} {rest : List Char} (hb : Opened before)
    (hr : Closed rest) : read? before (w.text ++ rest) = some (w.reference, rest) := by
  rw [text, List.append_assoc, reference]
  exact w.qualifier.sheetText.read?_append hb (w.readTarget?_places hr)
    fun _ => w.readSheet?_places before hr

theorem exists_text_eq_concat : ∃ r c, w.text = r ++ [c] ∧ c.isDigit = true := by
  cases hs : w.second with
  | none =>
    obtain ⟨r, c, hc, hd⟩ := w.first.exists_text_eq_concat
    exact ⟨w.qualifier.text ++ r, c, by rw [text, places, hs, List.append_assoc, ← hc], hd⟩
  | some l =>
    obtain ⟨r, c, hc, hd⟩ := l.exists_text_eq_concat
    refine ⟨w.qualifier.text ++ (w.first.text ++ ':' :: r), c, ?_, hd⟩
    rw [text, places, hs]
    simp only [List.append_assoc, List.cons_append, ← hc]

theorem isBlank_head_text : ∀ c ∈ w.text.head?, Text.isBlank c = false := by
  have hword {c : Char} (h : Text.isWord c = true) : Text.isBlank c = false :=
    Formula.isBlank_of_isDelimiter_eq_false (Formula.isDelimiter_of_isWord h)
  rw [text]
  cases w.qualifier with
  | none =>
    obtain ⟨c, r, hc, ha⟩ := w.exists_places_eq_cons
    rw [hc]
    rintro d ⟨⟩
    exact hword (isWord_of_isAlpha ha)
  | plain name hne hhead hchars =>
    obtain ⟨c, r, rfl⟩ := List.exists_cons_of_ne_nil hne
    rintro d ⟨⟩
    exact hword (hhead c rfl)
  | quoted name hne hparens =>
    rintro d ⟨⟩
    rfl

theorem solid_text : Text.Solid w.text := by
  obtain ⟨r, c, hc, hd⟩ := w.exists_text_eq_concat
  refine ⟨by rw [hc]; simp, w.isBlank_head_text, ?_⟩
  rw [hc, List.getLast?_concat]
  rintro d ⟨⟩
  exact Formula.isBlank_of_isDelimiter_eq_false
    (Formula.isDelimiter_of_isWord (isWord_of_isDigit hd))

theorem not_mem_text {d : Char} (hd : d = '(' ∨ d = ')') : d ∉ w.text := by
  have hplaces : d ∉ w.places := by
    rcases hd with rfl | rfl
    · exact w.not_mem_places rfl (by decide)
    · exact w.not_mem_places rfl (by decide)
  have hname : isNameChar d = false := by rcases hd with rfl | rfl <;> rfl
  rw [text, List.mem_append, not_or]
  refine ⟨?_, hplaces⟩
  cases w.qualifier with
  | none => exact List.not_mem_nil
  | plain name hne hhead hchars =>
    intro h
    rcases List.mem_append.1 h with h | h
    · rw [hchars d h] at hname
      cases hname
    · rw [List.mem_singleton.1 h] at hd
      rcases hd with h | h <;> cases h
  | quoted name hne hparens =>
    intro h
    have hmem : d ∈ name := by
      rcases List.mem_cons.1 h with rfl | h
      · rcases hd with h | h <;> cases h
      · rcases List.mem_append.1 h with h | h
        · exact Qualifier.mem_of_mem_doubled h
        · rcases hd with rfl | rfl <;> simp at h
    rcases hd with rfl | rfl
    · exact (hparens _ hmem).1 rfl
    · exact (hparens _ hmem).2 rfl

/-- A reference alone is what an aggregate's argument points at. -/
theorem ofArgument?_text : ofArgument? w.text = some w.reference := by
  have hread := w.read?_text Formula.opened_none Formula.closed_nil
  rw [List.append_nil] at hread
  exact ofArgument?_of_read? hread

end Written

/-! ## Texts without references -/

/-- A text without quotes and exclamation marks whose letters, if any, stand at its end. -/
structure Inert (t : List Char) : Prop where
  noBang : '!' ∉ t
  noQuote : '\'' ∉ t
  shape : ∃ a b, t = a ++ b ∧ (∀ c ∈ a, c.isAlpha = false) ∧ ∀ c ∈ b, c.isAlpha = true

theorem Inert.tail {c : Char} {t : List Char} (h : Inert (c :: t)) : Inert t := by
  obtain ⟨hb, hq, a, b, heq, ha, hletters⟩ := h
  refine ⟨fun h => hb (List.mem_cons_of_mem c h), fun h => hq (List.mem_cons_of_mem c h), ?_⟩
  cases a with
  | nil =>
    rw [List.nil_append] at heq
    subst heq
    exact ⟨[], t, rfl, by simp, fun d hd => hletters d (List.mem_cons_of_mem c hd)⟩
  | cons e a =>
    cases heq
    exact ⟨a, b, rfl, fun d hd => ha d (List.mem_cons_of_mem _ hd), hletters⟩

theorem Inert.of_suffix {s t : List Char} (h : Inert t) (hs : s <:+ t) : Inert s := by
  obtain ⟨u, rfl⟩ := hs
  induction u with
  | nil => exact h
  | cons c u ih => exact ih h.tail

theorem ofParts?_nil_left (digits : List Char) : Coordinate.ofParts? [] digits = none := rfl

theorem ofParts?_nil_right (letters : List Char) : Coordinate.ofParts? letters [] = none := by
  rw [Coordinate.ofParts?]
  cases Coordinate.columnNumber? letters <;> rfl

theorem readCoordinate?_eq_none {s : List Char}
    (h : Coordinate.ofParts? (s.takeWhile Char.isAlpha)
      ((s.dropWhile Char.isAlpha).takeWhile Char.isDigit) = none) : readCoordinate? s = none := by
  rw [readCoordinate?, h]
  split <;> rfl

theorem Inert.readCoordinate?_eq_none {t : List Char} (h : Inert t) (hne : t ≠ [])
    {rest : List Char} (hr : ∀ c ∈ rest.head?, Text.isWord c = false) :
    readCoordinate? (t ++ rest) = none := by
  obtain ⟨-, -, a, b, rfl, ha, hletters⟩ := h
  refine Reference.readCoordinate?_eq_none ?_
  cases a with
  | cons c a =>
    rw [List.append_assoc, List.cons_append, List.takeWhile_cons_of_neg
      (by rw [ha c (List.mem_cons_self ..)]; decide)]
    exact ofParts?_nil_left _
  | nil =>
    have halpha : ∀ c ∈ rest.head?, c.isAlpha = false :=
      fun c hc => isAlpha_of_isWord_eq_false (hr c hc)
    have hdigit : ∀ c ∈ rest.head?, c.isDigit = false :=
      fun c hc => isDigit_of_isWord_eq_false (hr c hc)
    rw [List.nil_append, Text.dropWhile_run hletters _ halpha, Text.takeWhile_eq_nil hdigit]
    exact ofParts?_nil_right _

theorem read?_eq_none {before : Option Char} {s : List Char}
    (hs : readSheet? before s = none) (hc : readCoordinate? s = none) : read? before s = none := by
  rw [read?, hs]
  simp only [readTarget?, hc]
  split <;> rfl

theorem Inert.read?_eq_none {t : List Char} (h : Inert t) (hne : t ≠ []) {rest : List Char}
    (hr : Ends rest) (before : Option Char) : read? before (t ++ rest) = none := by
  refine Reference.read?_eq_none (readSheet?_eq_none ?_ ?_)
    (h.readCoordinate?_eq_none hne hr.isWord_head)
  · obtain ⟨c, r, rfl⟩ := List.exists_cons_of_ne_nil hne
    rintro ⟨⟩
    exact h.noQuote (List.mem_cons_self ..)
  · exact head_dropWhile_isNameChar_ne h.noBang hr.head_dropWhile

theorem read?_of_isDelimiter {c : Char} (h : isDelimiter c = true) (before : Option Char)
    (rest : List Char) : read? before (c :: rest) = none := by
  have hsheet : readSheet? before (c :: rest) = none := by
    rw [readSheet?]
    · rw [if_pos]
      rw [Formula.isWord_of_isDelimiter h, Bool.not_false, Bool.or_true]
    · exact Formula.ne_of_isDelimiter h rfl
  have hcoordinate : readCoordinate? (c :: rest) = none := by
    refine readCoordinate?_eq_none ?_
    rw [List.takeWhile_cons_of_neg (by rw [Formula.isAlpha_of_isDelimiter h]; decide)]
    exact ofParts?_nil_left _
  exact read?_eq_none hsheet hcoordinate

end Recalc.Reference
