import Recalc.Yaml.Scalar

/-!
# The layout of a YAML text

`Token.ofText?` finds the tokens of a text. Indentation opens and closes mappings: a key that stands
deeper than the mapping around it opens one, and a word that stands less deep closes those it has
left. That a word was a key shows at its colon only. So the place of a word that may be a key is
kept, and the marks of the key are put in front of it then. A list, which stands for no map and for
no number, is refused like text that is no YAML.
-/

namespace Recalc.Yaml

/-- A word that is a key if a colon follows. -/
structure Candidate where
  /-- It stands where its mapping's keys stand, so it has to be a key. -/
  isRequired : Bool
  /-- How many tokens are in front of it. -/
  number : Nat
  place : Cursor

/-- A place in a text, with what the text in front of it has left open. -/
structure Layout where
  place : Cursor
  /-- The tokens so far, the last one first. -/
  tokens : List Token := []
  count : Nat := 0
  /-- The column of the innermost mapping by indentation, or `-1`, and those around it. -/
  indent : Int := -1
  indents : List Int := []
  /-- Whether a key may start here. -/
  keyAllowed : Bool := true
  /-- The candidate within the innermost braces, and those outside of them. -/
  candidate : Option Candidate := none
  outer : List (Option Candidate) := []

namespace Layout

variable (s : Layout)

/-- Whether the place is between braces. -/
def inFlow : Bool :=
  !s.outer.isEmpty

/-! ### Tokens -/

def put (t : Token) : Layout :=
  { s with tokens := t :: s.tokens, count := s.count + 1 }

/-- Puts a token behind the first `number` ones. -/
def insert (number : Nat) (t : Token) : Layout :=
  let later := s.count - number
  { s with tokens := s.tokens.take later ++ t :: s.tokens.drop later, count := s.count + 1 }

/-- Puts a mark of one character. -/
def mark (t : Token) : Layout :=
  { s.put t with place := s.place.next }

/-- Opens a mapping by indentation behind the first `number` tokens, if `column` is deeper. -/
def openBlock (column number : Nat) : Layout :=
  if s.inFlow || (column : Int) ≤ s.indent then s
  else { s.insert number .blockStart with indent := column, indents := s.indent :: s.indents }

/-- Closes the mappings that stand deeper than `column`. -/
def closeBlocks (s : Layout) (column : Int) : Layout :=
  if s.inFlow then s else go s s.indents
where
  go (s : Layout) : List Int → Layout
    | [] => s
    | i :: is =>
      if s.indent ≤ column then s else go { s.put .blockEnd with indent := i, indents := is } is

/-! ### Candidates -/

/-- How many bytes a key and the blanks behind it can have. -/
def maxKeyBytes : Nat :=
  1024

/-- A key stands on one line, and its colon is near. -/
def isStale (c : Candidate) : Bool :=
  c.place.line < s.place.line || c.place.index + maxKeyBytes < s.place.index

/-- Drops the candidates that no colon can follow any more, unless a key is required. -/
def dropStale? : Option Layout :=
  if (s.candidate :: s.outer).any (·.any fun c => c.isRequired && s.isStale c) then none
  else
    let live (c : Option Candidate) := c.filter fun c => !s.isStale c
    some { s with candidate := live s.candidate, outer := s.outer.map live }

/-- Drops the innermost candidate, unless a key is required. -/
def drop? : Option Layout :=
  if s.candidate.any Candidate.isRequired then none else some { s with candidate := none }

/-- Makes the next word a candidate if a key may start here. -/
def save? : Option Layout :=
  if s.keyAllowed then
    let required := !s.inFlow && s.indent == (s.place.column : Int)
    s.drop?.map fun t => { t with candidate := some ⟨required, s.count, s.place⟩ }
  else some s

/-! ### Words and marks -/

/-- Skips blanks, line ends and comments, and a byte order mark at the start of a line, which counts
as a column. Outside of braces a line end allows a key, and a tab may stand only where no key is
allowed. -/
def skipFrom (s : Layout) : (fuel : Nat) → Layout
  | 0 => s
  | fuel + 1 =>
    match s.place.head? with
    | some ' ' => skipFrom { s with place := s.place.next } fuel
    | some '\t' =>
      if s.inFlow || !s.keyAllowed then skipFrom { s with place := s.place.next } fuel else s
    | some '\uFEFF' =>
      if s.place.column = 0 then skipFrom { s with place := s.place.next } fuel else s
    | some '#' => skipFrom { s with place := s.place.skipWhile fun x => !isBreak x } fuel
    | some x =>
      if isBreak x then
        skipFrom { s with place := s.place.nextLine, keyAllowed := s.keyAllowed || !s.inFlow } fuel
      else s
    | none => s

/-- A directive or a mark of a document, which close all mappings by indentation. -/
def document? (t : Token) (place : Cursor) : Option Layout := do
  let s ← (s.closeBlocks (-1)).drop?
  return { s.put t with place, keyAllowed := false }

def braceOpen? : Option Layout := do
  let s ← s.save?
  return { s.mark .braceOpen with
    keyAllowed := true, candidate := none, outer := s.candidate :: s.outer }

def braceClose? : Option Layout := do
  let s ← s.drop?
  let s := { s.mark .braceClose with keyAllowed := false }
  match s.outer with
  | c :: outer => return { s with candidate := c, outer }
  | [] => return s

def comma? : Option Layout := do
  return { (← s.drop?).mark .comma with keyAllowed := true }

/-- A question mark in front of a key. -/
def key? : Option Layout := do
  if !s.inFlow && !s.keyAllowed then none
  let s ← (s.openBlock s.place.column s.count).drop?
  return { s.mark .key with keyAllowed := !s.inFlow }

/-- The colon of a value. The candidate in front of it is a key. -/
def value? : Option Layout :=
  match s.candidate with
  | some c =>
    let s := (s.insert c.number .key).openBlock c.place.column c.number
    some { s.mark .value with candidate := none, keyAllowed := false }
  | none =>
    if s.inFlow then some { s.mark .value with keyAllowed := false }
    else if s.keyAllowed then some ((s.openBlock s.place.column s.count).mark .value)
    else none

/-- A word that may be a key or stand in front of one. -/
def word? (t : Token) (place : Cursor) (keyAllowed : Bool) : Option Layout := do
  return { (← s.save?).put t with place, keyAllowed }

/-- The scalar without quotes that starts here. Line ends behind it allow a key. -/
def plain? (fuel : Nat) : Option Layout := do
  let p ← Yaml.plain? s.inFlow s.indent s.place fuel
  s.word? (.scalar .plain p.text) p.place p.isBroken

/-- The text in quotes that starts here, by its reader. -/
def quoted? (read : Cursor → (fuel : Nat) → Option (List Char × Cursor)) (fuel : Nat) :
    Option Layout := do
  let (text, place) ← read s.place.next fuel
  s.word? (.scalar .quoted text) place false

/-- The block that starts here. A key may follow it, but it is none. -/
def block? (style : Style) : Option Layout := do
  let (text, place) ← Yaml.block? (style == .folded) s.indent s.place.next
  return { (← s.drop?).put (.scalar style text) with place, keyAllowed := true }

/-- Whether the mark here counts: between braces always, else in front of a gap. -/
def isMark : Bool :=
  s.inFlow || isGap s.place.second?

/-- The word or mark that starts here; `fuel` is more than the length of the text from here on. -/
def step? (fuel : Nat) : Option Layout := do
  let c := s.place
  let x ← c.head?
  if c.column = 0 ∧ x = '%' then
    let (t, place) ← directive? c
    s.document? t place
  else if c.isMark '-' then s.document? .documentStart (c.advance 3)
  else if c.isMark '.' then s.document? .documentEnd (c.advance 3)
  else if x = '\x7b' then s.braceOpen?
  else if x = '\x7d' then s.braceClose?
  else if x = ',' then s.comma?
  else if x = '-' ∧ isGap c.second? = true then none
  else if x = '?' ∧ s.isMark = true then s.key?
  else if x = ':' ∧ s.isMark = true then s.value?
  else if x = '*' then
    let (name, place) ← anchorName? c
    s.word? (.reference name) place false
  else if x = '&' then
    let (name, place) ← anchorName? c
    s.word? (.anchor name) place false
  else if x = '!' then
    let (t, place) ← tag? s.inFlow c
    s.word? t place false
  else if x = '|' ∧ s.inFlow = false then s.block? .literal
  else if x = '>' ∧ s.inFlow = false then s.block? .folded
  else if x = '\'' then s.quoted? singleQuoted? fuel
  else if x = '"' then s.quoted? doubleQuoted? fuel
  else if startsPlain s.inFlow c.rest then s.plain? fuel
  else none

/-- The tokens of the text, in order. Each step goes on in the text, so `fuel` stays more than the
length of what is left. -/
def run? (s : Layout) : (fuel : Nat) → Option (List Token)
  | 0 => none
  | fuel + 1 => do
    let s ← (s.skipFrom (fuel + 1)).dropStale?
    let s := s.closeBlocks s.place.column
    if s.place.rest.isEmpty then
      let s ← (s.closeBlocks (-1)).drop?
      return s.tokens.reverse
    else run? (← s.step? (fuel + 1)) fuel

end Layout

def Token.ofText? (text : List Char) : Option (List Token) :=
  if text.all isPrintable then
    let place : Cursor := ⟨text, 0, 0, 0⟩
    Layout.run? { place } place.fuel
  else none

end Recalc.Yaml
