import Recalc.Decimal.Layout
import Recalc.Decimal.Reader

/-!
# Numbers in JSON texts

A numeral is taken apart by `Numeral.scan?`. Without point and exponent, and within 64 bits, it is
an integer. Else it is a float: as many leading digits as fit 64 bits, scaled by powers of ten up to
`10 ^ 308` at a time. Each step rounds, so the result can be off in its last bit. A numeral that
leaves the range of floats is refused.
-/

namespace Recalc.Json

structure Numeral where
  negative : Bool
  whole : List Char
  fraction : List Char
  /-- The sign and the digits of the exponent. -/
  exponent : Option (Bool × List Char)
  /-- Neither point nor exponent. -/
  isWhole : Bool
deriving DecidableEq, Repr

inductive Number
  | natural (n : Nat)
  /-- The opposite of a positive number. -/
  | negative (n : Nat)
  | float (x : Float)
deriving DecidableEq, Repr

def Number.toFloat : Number → Float
  | natural n => Decimal.toFloat false ⟨n, 0⟩
  | negative n => Decimal.toFloat true ⟨n, 0⟩
  | float x => x

namespace Numeral

/-- A nonempty run of digits and what follows it. -/
def digits? (s : List Char) : Option (List Char × List Char) :=
  let ds := s.takeWhile Char.isDigit
  if ds.isEmpty then none else some (ds, s.dropWhile Char.isDigit)

/-- The digits before the point: a zero stands alone. -/
def scanWhole? (s : List Char) : Option (List Char × List Char) :=
  (digits? s).bind fun (ds, rest) =>
    if ds.head? = some '0' ∧ ds ≠ ['0'] then none else some (ds, rest)

/-- A point and digits, if there is a point. -/
def scanFraction? : List Char → Option (Option (List Char) × List Char)
  | '.' :: s => (digits? s).map fun (ds, rest) => (some ds, rest)
  | s => some (none, s)

/-- An exponent, if there is one. -/
def scanExponent? : List Char → Option (Option (Bool × List Char) × List Char)
  | [] => some (none, [])
  | c :: s =>
    if c = 'e' ∨ c = 'E' then
      match s with
      | '+' :: s => (digits? s).map fun (ds, rest) => (some (false, ds), rest)
      | '-' :: s => (digits? s).map fun (ds, rest) => (some (true, ds), rest)
      | s => (digits? s).map fun (ds, rest) => (some (false, ds), rest)
    else some (none, c :: s)

def scan? (s : List Char) : Option (Numeral × List Char) := do
  let (negative, s) :=
    match s with
    | '-' :: s => (true, s)
    | s => (false, s)
  let (whole, s) ← scanWhole? s
  let (fraction, s) ← scanFraction? s
  let (exponent, s) ← scanExponent? s
  let isWhole := fraction.isNone && exponent.isNone
  return (⟨negative, whole, fraction.getD [], exponent, isWhole⟩, s)

def maxWord : Nat :=
  0xFFFFFFFFFFFFFFFF

/-- Digits put behind `n` as long as 64 bits hold them, and the digits that remain. -/
def absorb (n : Nat) : List Char → Nat × List Char
  | [] => (n, [])
  | c :: ds =>
    let m := 10 * n + Decimal.digitValue c
    if maxWord < m then (n, c :: ds) else absorb m ds

/-- A power of ten as a float. -/
def power (k : Nat) : Float :=
  Decimal.toFloat false ⟨1, k⟩

/-- `x · 10 ^ e` in steps of at most `10 ^ 308`, unless it grows past the floats. -/
def scale? (x : Float) (e : Int) : Option Float :=
  if e.natAbs ≤ 308 then
    if 0 ≤ e then
      let y := x * power e.natAbs
      if y.isInf then none else some y
    else some (x / power e.natAbs)
  else if x == 0 then some x
  else if 0 ≤ e then none
  else scale? (x / power 308) (e + 308)
termination_by (-e).toNat
decreasing_by omega

def signed (negative : Bool) (x : Float) : Float :=
  if negative then -x else x

/-- Exponents from here on are not added up: they leave the range of any digits. -/
def maxExponent : Nat :=
  0x7FFFFFFF

/-- The float that a numeral is read as. -/
def toFloat? (n : Numeral) : Option Float :=
  let (m, dropped) := absorb 0 n.whole
  let (m, unread) := absorb m n.fraction
  let places : Int := (dropped.length : Int) - (n.fraction.length - unread.length : Nat)
  let size :=
    match n.exponent with
    | none => scale? (Decimal.toFloat false ⟨m, 0⟩) places
    | some (down, ds) =>
      let e := Decimal.ofDigits ds
      if maxExponent < e then if m ≠ 0 ∧ !down then none else some 0
      else scale? (Decimal.toFloat false ⟨m, 0⟩) (if down then places - e else places + e)
  size.map (signed n.negative)

/-- The number that a numeral stands for. A negative zero is a float. -/
def number? (n : Numeral) : Option Number :=
  let m := Decimal.ofDigits n.whole
  if n.isWhole ∧ !n.negative ∧ m ≤ maxWord then some (.natural m)
  else if n.isWhole ∧ n.negative ∧ 0 < m ∧ m ≤ 0x8000000000000000 then some (.negative m)
  else n.toFloat?.map .float

end Numeral

end Recalc.Json
