import Recalc.Decimal.Layout
import Recalc.Decimal.Reader
import Recalc.Json.Reader

/-!
# Network addresses

An address is an IP address and a port: four decimal groups, or hexadecimal groups between square
brackets, and a number behind a colon. Names of hosts are no addresses.
-/

namespace Recalc.Address

/-- A part of an address at the front of a text: its value and what follows. -/
abbrev Part (α : Type) := List Char → Option (α × List Char)

/-- A character that has to stand here. -/
def mark (c : Char) : List Char → Option (List Char)
  | x :: r => if x = c then some r else none
  | [] => none

/-- A group of decimal digits up to 255, without leading zeros. -/
def readOctet : Part Nat := fun s =>
  let digits := s.takeWhile Char.isDigit
  let padded := digits.head? == some '0' && 1 < digits.length
  if digits.isEmpty || 3 < digits.length || padded then none
  else
    let n := Decimal.ofDigits digits
    if n ≤ 255 then some (n, s.drop digits.length) else none

/-- Whether four groups with points between them stand at the front, and what follows. -/
def readIPv4 (s : List Char) : Option (List Char) := do
  let (_, s) ← readOctet s
  let (_, s) ← readOctet (← mark '.' s)
  let (_, s) ← readOctet (← mark '.' s)
  let (_, s) ← readOctet (← mark '.' s)
  return s

/-- A group of up to four hexadecimal digits. -/
def readHexGroup (s : List Char) : Option (List Char) :=
  let digits := s.takeWhile fun c => (Json.Reader.hexValue? c).isSome
  if digits.isEmpty || 4 < digits.length then none else some (s.drop digits.length)

/-- The groups at the front of a text. -/
structure Groups where
  count : Nat
  /-- Whether the last two are written as four decimal groups. -/
  endsInIPv4 : Bool
  rest : List Char

/-- Reads up to `limit` groups with colons between them; `read` of them stand in front. -/
def readGroups (s : List Char) (read : Nat) : (limit : Nat) → Groups
  | 0 => ⟨read, false, s⟩
  | limit + 1 =>
    let start := if read = 0 then some s else mark ':' s
    match if limit = 0 then none else start.bind readIPv4 with
    | some rest => ⟨read + 2, true, rest⟩
    | none =>
      match start.bind readHexGroup with
      | some rest => readGroups rest (read + 1) limit
      | none => ⟨read, false, s⟩

/-- Whether eight groups stand at the front, and what follows; two colons stand for groups of zeros.
-/
def readIPv6 (s : List Char) : Option (List Char) := do
  let front := readGroups s 0 8
  if front.count = 8 then return front.rest
  if front.endsInIPv4 then none
  let s ← mark ':' (← mark ':' front.rest)
  return (readGroups s 0 (7 - front.count)).rest

/-- A number up to `bound`. -/
def readNumber (bound : Nat) (s : List Char) : Option (List Char) :=
  let digits := s.takeWhile Char.isDigit
  if digits.isEmpty || bound < Decimal.ofDigits digits then none else some (s.drop digits.length)

/-- The zone behind an address, if there is one. -/
def skipZone (s : List Char) : List Char :=
  ((mark '%' s).bind (readNumber 0xFFFFFFFF)).getD s

def isAddress (s : List Char) : Bool :=
  let plain := readIPv4 s
  let bracketed := do
    let s ← readIPv6 (← mark '[' s)
    mark ']' (skipZone s)
  let isPort (s : List Char) : Bool :=
    (mark ':' s).bind (readNumber 0xFFFF) == some []
  plain.any isPort || bracketed.any isPort

def ofHost (host : String) (port : UInt16) : String :=
  host ++ ":" ++ String.ofList (Decimal.Layout.natDigits port.toNat)

/-- The port that a text names: a 64-bit number with or without sign that fits 16 bits. -/
def readPort? (s : String) : Option UInt16 :=
  let port (digits : List Char) : Option Nat :=
    (Decimal.readDigits? digits).filter (· ≤ 0xFFFF)
  match s.toList with
  | '+' :: digits => (port digits).map UInt16.ofNat
  | '-' :: digits => ((port digits).filter (· == 0)).map UInt16.ofNat
  | digits => (port digits).map UInt16.ofNat

end Recalc.Address
