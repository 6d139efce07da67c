/-!
# YAML tokens

The words and marks of a YAML text, in the order in which they are written. Mappings by indentation
have marks too, though none is written: `blockStart` in front of the first key, `blockEnd` behind
the last value, and `key` in front of each key.
-/

namespace Recalc.Yaml

/-- How a scalar is written: without quotes, in quotes, or as the lines of a block. -/
inductive Style
  | plain
  | quoted
  | literal
  | folded
deriving DecidableEq, Repr

inductive Token
  /-- The directive of a version. -/
  | version (major minor : Nat)
  /-- The directive that says what a handle of tags stands for. -/
  | handle (name start : List Char)
  | documentStart
  | documentEnd
  | blockStart
  | blockEnd
  | braceOpen
  | braceClose
  | comma
  | key
  | value
  | anchor (name : List Char)
  /-- The node of an anchor once more. -/
  | reference (name : List Char)
  /-- A tag; a tag in angle brackets has an empty handle. -/
  | tag (handle rest : List Char)
  | scalar (style : Style) (text : List Char)
deriving DecidableEq, Repr

end Recalc.Yaml
