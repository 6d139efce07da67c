/-!
# Places in a YAML text

A cursor is what follows a place in a text, with the place's index in bytes, its line and its
column. A document mark at the start of a line ends whatever stands open.
-/

namespace Recalc.Yaml

def isBreak (c : Char) : Bool :=
  c == '\n' || c == '\r' || c == '\x85' || c == '\u2028' || c == '\u2029'

def isSpace (c : Char) : Bool :=
  c == ' ' || c == '\t'

/-- Nothing, or a character that separates words. -/
def isGap (c : Option Char) : Bool :=
  c.all fun c => isSpace c || isBreak c

def isPrintable (c : Char) : Bool :=
  let n := c.toNat
  n == 9 || n == 10 || n == 13 || (0x20 ≤ n && n ≤ 0x7E) || n == 0x85 ||
    (0xA0 ≤ n && n != 0xFFFE && n != 0xFFFF)

/-- A character that may stand in the name of an anchor, a tag's handle or a directive. -/
def isNameChar (c : Char) : Bool :=
  c.isAlphanum || c == '-' || c == '_'

structure Cursor where
  rest : List Char
  index : Nat := 0
  line : Nat := 0
  column : Nat := 0

namespace Cursor

variable (c : Cursor)

def head? : Option Char :=
  c.rest.head?

def second? : Option Char :=
  (c.rest.drop 1).head?

/-- As far as recursion along the text can go. -/
def fuel : Nat :=
  c.rest.length + 1

/-- Behind the next character, which ends no line. -/
def next : Cursor :=
  match c.rest with
  | [] => c
  | x :: r => { c with rest := r, index := c.index + x.utf8Size, column := c.column + 1 }

/-- Behind the next `n` characters, which end no line. -/
def advance (c : Cursor) : Nat → Cursor
  | 0 => c
  | n + 1 => c.next.advance n

/-- The characters up to the first without the property `p`, and the cursor behind them. -/
def takeWhile (p : Char → Bool) : List Char × Cursor :=
  let word := c.rest.takeWhile p
  (word, c.advance word.length)

def skipWhile (p : Char → Bool) : Cursor :=
  (c.takeWhile p).2

/-- Whether a line ends here. -/
def isLineEnd : Bool :=
  c.head?.any isBreak

/-- Behind the line end that stands here. -/
def nextLine : Cursor :=
  match c.rest with
  | '\r' :: '\n' :: r => ⟨r, c.index + 2, c.line + 1, 0⟩
  | x :: r => ⟨r, c.index + x.utf8Size, c.line + 1, 0⟩
  | [] => c

/-- The text of the line end that stands here: a separator of lines or paragraphs is kept, any other
is a newline. -/
def lineEnd : List Char :=
  match c.head? with
  | none => []
  | some x => if x == '\u2028' || x == '\u2029' then [x] else ['\n']

/-- Behind the line, which holds nothing more but blanks and a comment. -/
def endLine? : Option Cursor :=
  let c := c.skipWhile isSpace
  let c := if c.head? == some '#' then c.skipWhile fun x => !isBreak x else c
  if c.isLineEnd then some c.nextLine else if c.rest.isEmpty then some c else none

/-- Whether a document mark stands here: three of `mark` at the start of a line. -/
def isMark (mark : Char) : Bool :=
  c.column == 0 && List.replicate 3 mark == c.rest.take 3 && isGap (c.rest.drop 3).head?

def isDocumentMark : Bool :=
  c.isMark '-' || c.isMark '.'

end Cursor

end Recalc.Yaml
