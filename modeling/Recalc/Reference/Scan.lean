import Recalc.Reference.Basic
import Recalc.Text.Distinct
import Recalc.Text.Word

/-!
# References in a text

`Piece.split` cuts a text into references and single characters between them; the pieces put back
together are the text. A reference starts where no ASCII letter or digit stands before it (a
qualified one where no word character does), and its row number ends where no word character
follows.
-/

namespace Recalc

namespace Reference

/-- The characters of a quoted name behind its opening quote, two quotes standing for one, and what
follows the closing quote. -/
def readQuotedName? : List Char → Option (List Char × List Char)
  | [] => none
  | '\'' :: '\'' :: r => (readQuotedName? r).map fun (name, rest) => ('\'' :: name, rest)
  | '\'' :: r => some ([], r)
  | c :: r => (readQuotedName? r).map fun (name, rest) => (c :: name, rest)

/-- A character of an unquoted sheet name. -/
def isNameChar (c : Char) : Bool :=
  Text.isWord c || c == '.'

/-- A sheet name and the exclamation mark behind it. -/
def readSheet? (before : Option Char) (s : List Char) : Option (List Char × List Char) :=
  match s with
  | [] => none
  | '\'' :: r =>
    match readQuotedName? r with
    | some (name, '!' :: rest) => if name.isEmpty then none else some (name, rest)
    | _ => none
  | c :: _ =>
    if before.any Text.isWord || !Text.isWord c then none
    else
      match s.dropWhile isNameChar with
      | '!' :: rest => some (s.takeWhile isNameChar, rest)
      | _ => none

/-- A coordinate that ends at a word boundary. -/
def readCoordinate? (s : List Char) : Option (Coordinate × List Char) :=
  let digits := s.dropWhile Char.isAlpha
  let rest := digits.dropWhile Char.isDigit
  if rest.head?.any Text.isWord then none
  else
    (Coordinate.ofParts? (s.takeWhile Char.isAlpha) (digits.takeWhile Char.isDigit)).map
      fun c => (c, rest)

/-- A range if a colon and a second coordinate follow the first, else a cell. -/
def readTarget? (s : List Char) : Option (Target × List Char) :=
  (readCoordinate? s).map fun (first, rest) =>
    match Text.trimStart rest with
    | ':' :: r =>
      match readCoordinate? (Text.trimStart r) with
      | some (second, rest) => (.range ⟨first, second⟩, rest)
      | none => (.cell first, rest)
    | _ => (.cell first, rest)

/-- The reference at the start of `s`, when `before` stands in front of it, and what follows. -/
def read? (before : Option Char) (s : List Char) : Option (Reference × List Char) :=
  match readSheet? before s with
  | some (name, r) =>
    (readTarget? r).map fun (target, rest) => (⟨some (String.ofList name), target⟩, rest)
  | none =>
    if before.any Char.isAlphanum then none
    else (readTarget? s).map fun (target, rest) => (⟨none, target⟩, rest)

theorem length_readQuotedName? {s name rest : List Char}
    (h : readQuotedName? s = some (name, rest)) : rest.length < s.length := by
  fun_induction readQuotedName? s generalizing name rest with
  | case1 => simp at h
  | case2 r ih =>
    obtain ⟨⟨n, t⟩, hr, he⟩ := Option.map_eq_some_iff.1 h
    cases he
    have := ih hr
    simp only [List.length_cons]; omega
  | case3 r => simp_all
  | case4 c r _ _ ih =>
    obtain ⟨⟨n, t⟩, hr, he⟩ := Option.map_eq_some_iff.1 h
    cases he
    have := ih hr
    simp only [List.length_cons]; omega

theorem length_dropWhile_le {α : Type} (p : α → Bool) (s : List α) :
    (s.dropWhile p).length ≤ s.length :=
  (List.dropWhile_sublist p).length_le

theorem length_readSheet? {before : Option Char} {s name rest : List Char}
    (h : readSheet? before s = some (name, rest)) : rest.length < s.length := by
  unfold readSheet? at h
  split at h
  · simp at h
  · split at h
    · rename_i n t hn
      split at h
      · simp at h
      · cases h
        have := length_readQuotedName? hn
        simp only [List.length_cons] at *; omega
    · simp at h
  · split at h
    · simp at h
    · split at h
      · rename_i t ht
        cases h
        have := congrArg List.length ht
        grind [length_dropWhile_le]
      · simp at h

theorem length_readCoordinate? {s rest : List Char} {c : Coordinate}
    (h : readCoordinate? s = some (c, rest)) : rest.length < s.length := by
  unfold readCoordinate? at h
  dsimp only at h
  split at h
  · simp at h
  · obtain ⟨d, hd, he⟩ := Option.map_eq_some_iff.1 h
    cases he
    have h₁ := length_dropWhile_le Char.isDigit (s.dropWhile Char.isAlpha)
    cases s with
    | nil => simp [Coordinate.ofParts?, Coordinate.columnNumber?] at hd
    | cons x r =>
      by_cases hx : x.isAlpha = true
      · have h₂ := length_dropWhile_le Char.isAlpha r
        simp only [List.dropWhile_cons, hx, if_true, List.length_cons] at *; omega
      · simp [Coordinate.ofParts?, Coordinate.columnNumber?, List.takeWhile_cons, hx] at hd

theorem length_trimStart_le (s : List Char) : (Text.trimStart s).length ≤ s.length :=
  length_dropWhile_le _ s

theorem length_readTarget? {s rest : List Char} {t : Target}
    (h : readTarget? s = some (t, rest)) : rest.length < s.length := by
  unfold readTarget? at h
  obtain ⟨⟨first, r⟩, hf, he⟩ := Option.map_eq_some_iff.1 h
  have h₁ := length_readCoordinate? hf
  dsimp only at he
  split at he
  · rename_i r' hr
    have h₂ := length_trimStart_le r
    rw [hr] at h₂
    split at he
    · rename_i second t' hs
      cases he
      have h₃ := length_readCoordinate? hs
      have h₄ := length_trimStart_le r'
      simp only [List.length_cons] at *; omega
    · cases he; exact h₁
  · cases he; exact h₁

theorem length_read? {before : Option Char} {s rest : List Char} {r : Reference}
    (h : read? before s = some (r, rest)) : rest.length < s.length := by
  unfold read? at h
  split at h
  · rename_i name t hs
    obtain ⟨⟨target, u⟩, ht, he⟩ := Option.map_eq_some_iff.1 h
    cases he
    exact Nat.lt_trans (length_readTarget? ht) (length_readSheet? hs)
  · split at h
    · simp at h
    · obtain ⟨⟨target, u⟩, ht, he⟩ := Option.map_eq_some_iff.1 h
      cases he
      exact length_readTarget? ht

/-- A part of a text: a reference with the characters it is written with, or one character that
belongs to none. -/
inductive Piece
  | gap (c : Char)
  | found (reference : Reference) (text : List Char)
deriving Repr

namespace Piece

def text : Piece → List Char
  | gap c => [c]
  | found _ t => t

def reference? : Piece → Option Reference
  | gap _ => none
  | found r _ => some r

/-- The pieces of a text behind the character `before`. -/
def splitAfter (before : Option Char) (s : List Char) : List Piece :=
  match s with
  | [] => []
  | c :: r =>
    match h : read? before (c :: r) with
    | some (ref, rest) =>
      have := length_read? h
      let text := (c :: r).take ((c :: r).length - rest.length)
      found ref text :: splitAfter text.getLast? rest
    | none => gap c :: splitAfter (some c) r
termination_by s.length
decreasing_by
  · exact length_read? h
  · exact Nat.lt_succ_self r.length

def split (s : List Char) : List Piece :=
  splitAfter none s

end Piece

def all (s : List Char) : List Reference :=
  (Piece.split s).filterMap Piece.reference?

/-- A reference with the bytes that it takes in the text. -/
structure Span where
  start : Nat
  stop : Nat
  reference : Reference
deriving DecidableEq, Repr

/-- The spans of pieces that start at byte `start`. -/
def Span.ofPieces (start : Nat) : List Piece → List Span
  | [] => []
  | p :: ps =>
    let stop := start + (String.ofList p.text).utf8ByteSize
    match p.reference? with
    | some r => ⟨start, stop, r⟩ :: ofPieces stop ps
    | none => ofPieces stop ps

def spans (s : String) : List Span :=
  Span.ofPieces 0 (Piece.split s.toList)

/-- What the argument of an aggregate points at: its first range, else its first reference. -/
def ofArgument? (argument : List Char) : Option Reference :=
  let refs := all argument
  (refs.find? fun r => r.target.isRange).or refs.head?

/-- The text of a formula behind its equals sign. -/
def formulaText? (formula : String) : Option (List Char) :=
  match Text.trim formula.toList with
  | '=' :: r => some r
  | _ => none

/-- The keys of the cells that a formula on sheet `current` reads, each once, in the order of the
text. Ranges too large to list are left out. -/
def dependencies (formula current : String) : List String :=
  match formulaText? formula with
  | none => []
  | some text => Text.distinct ((all text).flatMap fun r => (r.keys? current).getD [])

end Reference

end Recalc
