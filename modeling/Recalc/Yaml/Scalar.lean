import Recalc.Yaml.Name

/-!
# YAML scalars

A scalar stands in single quotes, in double quotes with escapes, without quotes, or as the lines of
a block. Without quotes it ends before a comment, before a colon that a gap follows, and before a
line that stands no deeper than its mapping. Lines are joined: a line end counts as a blank, and
further ones in a row as line ends. A literal block keeps its line ends.
-/

namespace Recalc.Yaml

/-! ### Gaps -/

/-- Blanks and line ends between the words of a scalar. The line ends but the first, or but an
escaped one, are `more`. -/
structure Gap where
  isBroken : Bool := false
  blanks : List Char := []
  first : List Char := []
  more : List Char := []

/-- The text of a gap: its blanks on one line, else one blank or the line ends but the first. -/
def Gap.text (g : Gap) : List Char :=
  if !g.isBroken then g.blanks
  else if g.first == ['\n'] then (if g.more.isEmpty then [' '] else g.more)
  else g.first ++ g.more

/-- The rest of the gap `g`. A tab in front of the first word of a line is refused before the column
`margin`. -/
def gapFrom? (margin : Int) (g : Gap) (c : Cursor) : (fuel : Nat) → Option (Gap × Cursor)
  | 0 => none
  | fuel + 1 =>
    match c.head? with
    | none => some (g, c)
    | some x =>
      if isSpace x then
        if g.isBroken && x == '\t' && (c.column : Int) < margin then none
        else
          let g := if g.isBroken then g else { g with blanks := g.blanks ++ [x] }
          gapFrom? margin g c.next fuel
      else if isBreak x then
        let g : Gap :=
          if g.isBroken then { g with more := g.more ++ c.lineEnd } else ⟨true, [], c.lineEnd, []⟩
        gapFrom? margin g c.nextLine fuel
      else some (g, c)

/-! ### Without quotes -/

/-- A character that separates the parts of a collection in braces or brackets. -/
def isFlowMark (c : Char) : Bool :=
  c == ',' || c == '[' || c == ']' || c == '\x7b' || c == '\x7d'

/-- A character that starts no scalar without quotes, or only before a word. -/
def isIndicator (c : Char) : Bool :=
  isFlowMark c || "-?:#&*!|>'\"%@".toList.contains c || c == '\x60'

/-- Whether a scalar without quotes starts here. -/
def startsPlain (flow : Bool) : List Char → Bool
  | [] => false
  | x :: r =>
    (!isIndicator x && !isGap (some x)) || (x == '-' && !r.head?.any isSpace) ||
      (!flow && (x == '?' || x == ':') && !isGap r.head?)

/-- The characters up to the next gap or mark. Between braces a colon has to be followed by a gap or
by a part of a word. -/
def plainWord? (flow : Bool) : List Char → Option (List Char)
  | [] => some []
  | x :: r =>
    if isGap (some x) || (x == ':' && isGap r.head?) || (flow && isFlowMark x) then some []
    else if flow && x == ':' && r.head?.any (fun y => isFlowMark y || y == '?') then none
    else (plainWord? flow r).map (x :: ·)

/-- A scalar without quotes, and whether line ends follow it, up to the next word. -/
structure Plain where
  text : List Char
  isBroken : Bool
  place : Cursor

/-- A scalar without quotes. Its further lines stand deeper than `indent`, unless it stands between
braces. -/
def plain? (flow : Bool) (indent : Int) (c : Cursor) : (fuel : Nat) → Option Plain
  | 0 => none
  | fuel + 1 => do
    let word ← plainWord? flow c.rest
    let (g, c) ← gapFrom? (indent + 1) {} (c.advance word.length) (fuel + 1)
    if (!flow && (c.column : Int) ≤ indent) || c.isDocumentMark || c.head? == some '#' ||
        (← plainWord? flow c.rest).isEmpty then
      return ⟨word, g.isBroken, c⟩
    else
      let p ← plain? flow indent c fuel
      return { p with text := word ++ g.text ++ p.text }

/-! ### In quotes -/

/-- The rest of a gap inside quotes; a document mark is refused behind it. -/
def quotedGap? (g : Gap) (c : Cursor) (fuel : Nat) : Option (Gap × Cursor) :=
  (gapFrom? 0 g c fuel).filter fun (_, c) => !c.isDocumentMark

/-- The text in single quotes behind the opening one; a quote inside is written twice. -/
def singleQuoted? (c : Cursor) : (fuel : Nat) → Option (List Char × Cursor)
  | 0 => none
  | fuel + 1 =>
    match c.rest with
    | [] => none
    | '\'' :: '\'' :: _ =>
      (singleQuoted? (c.advance 2) fuel).map fun (text, c) => ('\'' :: text, c)
    | '\'' :: _ => some ([], c.next)
    | x :: _ =>
      if isGap (some x) then do
        let (g, c) ← quotedGap? {} c (fuel + 1)
        let (text, c) ← singleQuoted? c fuel
        return (g.text ++ text, c)
      else (singleQuoted? c.next fuel).map fun (text, c) => (x :: text, c)

/-- The character of an escape with one letter. -/
def escaped? (c : Char) : Option Char :=
  match c with
  | '0' => some '\x00'
  | 'a' => some '\x07'
  | 'b' => some '\x08'
  | 't' | '\t' => some '\t'
  | 'n' => some '\n'
  | 'v' => some '\x0b'
  | 'f' => some '\x0c'
  | 'r' => some '\r'
  | 'e' => some '\x1b'
  | 'N' => some '\x85'
  | '_' => some '\xa0'
  | 'L' => some '\u2028'
  | 'P' => some '\u2029'
  | ' ' | '"' | '/' | '\\' => some c
  | _ => none

/-- The number of digits of an escape with a code point. -/
def codeLength? (c : Char) : Option Nat :=
  match c with
  | 'x' => some 2
  | 'u' => some 4
  | 'U' => some 8
  | _ => none

/-- The character with a code point in hexadecimal. -/
def codePoint? (digits : List Char) (length : Nat) : Option Char := do
  if digits.length ≠ length then none
  let n ← digits.foldlM (fun n d => (hexValue? d).map (16 * n + ·)) 0
  if n.isValidChar then return Char.ofNat n else none

/-- The character of the escape at a backslash, and the cursor behind it. -/
def escape? (c : Cursor) : Option (Char × Cursor) := do
  let x ← c.second?
  match codeLength? x with
  | some n => return (← codePoint? ((c.rest.drop 2).take n) n, c.advance (n + 2))
  | none => return (← escaped? x, c.advance 2)

/-- The text in double quotes behind the opening one. A backslash at the end of a line takes the
line end away. -/
def doubleQuoted? (c : Cursor) : (fuel : Nat) → Option (List Char × Cursor)
  | 0 => none
  | fuel + 1 =>
    match c.head? with
    | none => none
    | some '"' => some ([], c.next)
    | some x =>
      let gap? :=
        if x == '\\' && c.second?.any isBreak then
          some (quotedGap? ⟨true, [], [], []⟩ c.next.nextLine (fuel + 1))
        else if isGap (some x) then some (quotedGap? {} c (fuel + 1))
        else none
      match gap? with
      | some gap? => do
        let (g, c) ← gap?
        let (text, c) ← doubleQuoted? c fuel
        return (g.text ++ text, c)
      | none => do
        let (x, c) ← if x == '\\' then escape? c else some (x, c.next)
        let (text, c) ← doubleQuoted? c fuel
        return (x :: text, c)

/-! ### Blocks -/

/-- The first line of a block: how line ends behind its text are kept, how deep its lines stand, and
the cursor behind it. -/
structure Header where
  /-- A plus keeps all line ends, a minus none; else one is kept. -/
  chomp : Option Char
  depth : Option Nat
  place : Cursor

/-- A mark for line ends. -/
def chompHere (c : Cursor) : Option Char × Cursor :=
  match c.head? with
  | some '+' => (some '+', c.next)
  | some '-' => (some '-', c.next)
  | _ => (none, c)

/-- A digit for the depth, zero refused. -/
def depthHere? (c : Cursor) : Option (Option Nat × Cursor) :=
  match c.head? with
  | some '0' => none
  | some x => if x.isDigit then some (some (x.toNat - '0'.toNat), c.next) else some (none, c)
  | none => some (none, c)

/-- The first line of a block, behind its mark. -/
def header? (c : Cursor) : Option Header := do
  let (before, c) := chompHere c
  let (depth, c) ← depthHere? c
  let (chomp, c) := if before.isNone && depth.isSome then chompHere c else (before, c)
  return ⟨chomp, depth, ← c.endLine?⟩

/-- What stands in front of a line with text: the deepest column that blanks lead to, the line ends,
and the cursor at the text. A tab in place of a blank is refused. -/
def blockGap? (depth : Option Nat) (widest : Nat) (breaks : List Char) (c : Cursor) :
    (fuel : Nat) → Option (Nat × List Char × Cursor)
  | 0 => none
  | fuel + 1 =>
    let blanks := (c.rest.takeWhile (· == ' ')).length
    let c := c.advance (depth.elim blanks fun d => min blanks (d - c.column))
    let widest := max widest c.column
    if c.head? == some '\t' && depth.all fun d => decide (c.column < d) then none
    else if c.isLineEnd then blockGap? depth widest (breaks ++ c.lineEnd) c.nextLine fuel
    else some (widest, breaks, c)

/-- Lines of a block, with the line end behind the last, the further ones, and the cursor behind
them. -/
structure Lines where
  text : List Char := []
  ending : List Char := []
  breaks : List Char
  place : Cursor

/-- The line end between two lines of a block. A folded block has a blank in its place, or leaves it
to the further ones, unless one of the lines starts with a blank. -/
def joint (folds : Bool) (ending breaks : List Char) : List Char :=
  if folds && ending == ['\n'] then (if breaks.isEmpty then [' '] else []) else ending

/-- The lines of a block from the place of `l` on, joined to what `l` ends with; `indented` tells
whether the line in front of them starts with a blank. -/
def linesFrom? (folded : Bool) (depth : Nat) (indented : Bool) (l : Lines) : (fuel : Nat) →
    Option Lines
  | 0 => none
  | fuel + 1 =>
    if l.place.column ≠ depth ∨ l.place.rest = [] then some l
    else do
      let blank := l.place.head?.any isSpace
      let joined := joint (folded && !indented && !blank) l.ending l.breaks
      let (line, c) := l.place.takeWhile fun x => !isBreak x
      let (_, breaks, next) ← blockGap? (some depth) 0 [] c.nextLine (fuel + 1)
      let more ← linesFrom? folded depth blank ⟨[], c.lineEnd, breaks, next⟩ fuel
      return { more with text := joined ++ l.breaks ++ line ++ more.text }

/-- The text of a block behind its mark, in a mapping at `indent`. -/
def block? (folded : Bool) (indent : Int) (c : Cursor) : Option (List Char × Cursor) := do
  let h ← header? c
  let outer := (indent + 1).toNat
  let given := h.depth.map fun d => indent.toNat + d
  let (widest, breaks, c) ← blockGap? given 0 [] h.place h.place.fuel
  let depth := given.getD (max widest (max outer 1))
  let l ← linesFrom? folded depth false ⟨[], [], breaks, c⟩ c.fuel
  let ending := if h.chomp = some '-' then [] else l.ending
  let breaks := if h.chomp = some '+' then l.breaks else []
  return (l.text ++ ending ++ breaks, l.place)

end Recalc.Yaml
