import Recalc.Yaml.Cursor
import Recalc.Yaml.Token

/-!
# Names in a YAML text

Anchors and tags stand in front of a node, directives in front of a document. Each reader here
starts at the mark of what it reads, and fails if something else than a separator follows.
-/

namespace Recalc.Yaml

def hexValue? (c : Char) : Option Nat :=
  if c.isDigit then some (c.toNat - '0'.toNat)
  else if 'a' ≤ c ∧ c ≤ 'f' then some (c.toNat - 'a'.toNat + 10)
  else if 'A' ≤ c ∧ c ≤ 'F' then some (c.toNat - 'A'.toNat + 10)
  else none

/-! ### Anchors -/

def endsAnchor (c : Option Char) : Bool :=
  isGap c || c.any fun x => "?:,]%@".toList.contains x || x == '\x7d' || x == '\x60'

/-- The name of an anchor or of a reference to it. -/
def anchorName? (c : Cursor) : Option (List Char × Cursor) :=
  let (name, c) := c.next.takeWhile isNameChar
  if name.isEmpty || !endsAnchor c.head? then none else some (name, c)

/-! ### Tags -/

def octet? (c : Cursor) : Option (Nat × Cursor) :=
  match c.rest with
  | '%' :: a :: b :: _ => do
    let high ← hexValue? a
    let low ← hexValue? b
    return (16 * high + low, c.advance 3)
  | _ => none

/-- How many octets the character has that `octet` starts. -/
def octetCount? (octet : Nat) : Option Nat :=
  if octet < 0x80 then some 1
  else if octet < 0xC0 then none
  else if octet < 0xE0 then some 2
  else if octet < 0xF0 then some 3
  else if octet < 0xF8 then some 4
  else none

/-- The next `n` octets of a character. -/
def moreOctets? (c : Cursor) : Nat → Option (List Char × Cursor)
  | 0 => some ([], c)
  | n + 1 => do
    let (octet, c) ← octet? c
    if octet < 0x80 ∨ 0xC0 ≤ octet then none
    else
      let (octets, c) ← moreOctets? c n
      return (Char.ofNat octet :: octets, c)

/-- The octets of an escaped character in a tag, a character for each. -/
def escapedOctets? (c : Cursor) : Option (List Char × Cursor) := do
  let (octet, c) ← octet? c
  let (octets, c) ← moreOctets? c ((← octetCount? octet) - 1)
  return (Char.ofNat octet :: octets, c)

/-- A character that may stand in a tag; in angle brackets there are some more. -/
def isTagChar (bracketed : Bool) (c : Char) : Bool :=
  isNameChar c || ";/?:@&=+$.!~*'()".toList.contains c || (bracketed && ",[]".toList.contains c)

/-- The text of a tag or of the start of tags. -/
def tagText? (bracketed : Bool) (c : Cursor) : (fuel : Nat) → Option (List Char × Cursor)
  | 0 => none
  | fuel + 1 =>
    match c.head? with
    | some '%' => do
      let (octets, c) ← escapedOctets? c
      let (text, c) ← tagText? bracketed c fuel
      return (octets ++ text, c)
    | some x =>
      if isTagChar bracketed x then
        (tagText? bracketed c.next fuel).map fun (text, c) => (x :: text, c)
      else some ([], c)
    | none => some ([], c)

/-- The text of a tag, which has to have one. -/
def someTagText? (bracketed : Bool) (c : Cursor) : Option (List Char × Cursor) :=
  (tagText? bracketed c c.fuel).filter fun (text, _) => !text.isEmpty

/-- An exclamation mark with a name and, if there is one, the mark behind it. -/
def tagHandle? (c : Cursor) : Option (List Char × Cursor) :=
  if c.head? == some '!' then
    let (name, c) := c.next.takeWhile isNameChar
    if c.head? == some '!' then some ('!' :: name ++ ['!'], c.next) else some ('!' :: name, c)
  else none

/-- A tag: in angle brackets, behind a handle, or local. A lone mark is the tag `!`. -/
def bareTag? (c : Cursor) : Option (Token × Cursor) :=
  if c.second? == some '<' then do
    let (text, c) ← someTagText? true (c.advance 2)
    if c.head? == some '>' then return (.tag [] text, c.next) else none
  else do
    let (handle, c) ← tagHandle? c
    if 1 < handle.length ∧ handle.getLast? = some '!' then
      let (text, c) ← someTagText? false c
      return (.tag handle text, c)
    else
      let (text, c) ← tagText? false c c.fuel
      let text := handle.drop 1 ++ text
      return (if text.isEmpty then .tag [] ['!'] else .tag ['!'] text, c)

/-- A tag and what separates it from the next word: between braces a comma does so, too. -/
def tag? (flow : Bool) (c : Cursor) : Option (Token × Cursor) :=
  (bareTag? c).filter fun (_, c) => isGap c.head? || (flow && c.head? == some ',')

/-! ### Directives -/

/-- A number of at most nine digits. -/
def versionNumber? (c : Cursor) : Option (Nat × Cursor) :=
  let (digits, c) := c.takeWhile Char.isDigit
  if digits.isEmpty || 9 < digits.length then none
  else some (digits.foldl (fun n d => 10 * n + (d.toNat - '0'.toNat)) 0, c)

def version? (c : Cursor) : Option (Token × Cursor) := do
  let (major, c) ← versionNumber? (c.skipWhile isSpace)
  if c.head? == some '.' then
    let (minor, c) ← versionNumber? c.next
    return (.version major minor, c)
  else none

/-- A handle of tags and the start of tags that it stands for. -/
def handle? (c : Cursor) : Option (Token × Cursor) := do
  let (name, c) ← tagHandle? (c.skipWhile isSpace)
  if name.getLast? = some '!' ∧ c.head?.any isSpace = true then
    let (start, c) ← someTagText? true (c.skipWhile isSpace)
    if isGap c.head? then return (.handle name start, c) else none
  else none

/-- A directive, with the rest of its line. -/
def directive? (c : Cursor) : Option (Token × Cursor) := do
  let (name, c) := c.next.takeWhile isNameChar
  if !isGap c.head? then none
  let (t, c) ←
    if name = "YAML".toList then version? c else if name = "TAG".toList then handle? c else none
  return (t, ← c.endLine?)

end Recalc.Yaml
