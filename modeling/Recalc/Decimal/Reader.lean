import Recalc.Decimal.Basic
import Recalc.Text.Blank

/-!
# Reading numbers

`readFloat?` reads a sign, digits with at most one point, and an exponent; it also takes the
spellings of infinity and of what is not a number. `readNumber?` is what cells and inputs use:
blanks around the text are dropped, a comma is a point, and only finite numbers count.
-/

namespace Recalc.Decimal

def digitValue (c : Char) : Nat :=
  c.toNat - '0'.toNat

def ofDigits (digits : List Char) : Nat :=
  digits.foldl (fun n c => 10 * n + digitValue c) 0

/-- A nonempty run of digits and nothing else. -/
def readDigits? (s : List Char) : Option Nat :=
  if s.isEmpty || !s.all Char.isDigit then none else some (ofDigits s)

/-- The exponent after the digits of a number: nothing, or `e` and a signed run of digits. -/
def readExponent? : List Char → Option Int
  | [] => some 0
  | c :: r =>
    if c = 'e' ∨ c = 'E' then
      match r with
      | '+' :: ds => (readDigits? ds).map fun n => (n : Int)
      | '-' :: ds => (readDigits? ds).map fun n => -(n : Int)
      | ds => (readDigits? ds).map fun n => (n : Int)
    else none

def read? (s : List Char) : Option Decimal :=
  let whole := s.takeWhile Char.isDigit
  let rest := s.dropWhile Char.isDigit
  let (fraction, rest) :=
    match rest with
    | '.' :: r => (r.takeWhile Char.isDigit, r.dropWhile Char.isDigit)
    | r => ([], r)
  if whole.isEmpty && fraction.isEmpty then none
  else (readExponent? rest).map fun e => ⟨ofDigits (whole ++ fraction), e - fraction.length⟩

/-- The magnitude of a text without sign, by digits or by name. -/
def readMagnitude? (s : List Char) : Option Nat :=
  let name := String.ofList (s.map Char.toLower)
  if name = "inf" ∨ name = "infinity" then some Binary64.infinity
  else if name = "nan" then some (Binary64.infinity + Binary64.binade / 2)
  else (read? s).map magnitude

def readFloat? (s : List Char) : Option Float :=
  match s with
  | '-' :: r => (readMagnitude? r).map (Binary64.ofMagnitude true)
  | '+' :: r => (readMagnitude? r).map (Binary64.ofMagnitude false)
  | r => (readMagnitude? r).map (Binary64.ofMagnitude false)

/-- A comma is read as a point. -/
def pointed (s : List Char) : List Char :=
  s.map fun c => if c = ',' then '.' else c

/-- A finite number, with blanks around it and either decimal mark. -/
def readNumber? (s : String) : Option Float :=
  (readFloat? (pointed (Text.trim s.toList))).filter Float.isFinite

end Recalc.Decimal
