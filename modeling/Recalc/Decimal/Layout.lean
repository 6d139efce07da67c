import Recalc.Decimal.Shortest

/-!
# Written floats

A layout says how the shortest digits of a float are set out: which sizes are written with an
exponent, whether a whole number keeps a `.0`, and whether a positive exponent shows its sign.
-/

namespace Recalc.Decimal

/-- The choices that distinguish one written form of floats from another. -/
structure Layout where
  tie : Tie
  /-- Whether a number whose first digit stands at this power of ten is written with an exponent. -/
  withExponent : Int → Bool
  /-- What follows the digits of a whole number. -/
  wholeMark : List Char
  /-- What stands before a nonnegative exponent. -/
  exponentSign : List Char

namespace Layout

/-- Positional digits only, and a whole number has no point. -/
def plain : Layout where
  tie := .up
  withExponent _ := false
  wholeMark := []
  exponentSign := []

/-- Positional from `0.0001` up to `10 ^ 16`, and a whole number keeps one place. -/
def debug : Layout where
  tie := .up
  withExponent p := p < -4 || 16 ≤ p
  wholeMark := ['.', '0']
  exponentSign := []

def natDigits (n : Nat) : List Char :=
  Nat.toDigits 10 n

def intDigits (n : Int) : List Char :=
  if n < 0 then '-' :: natDigits n.natAbs else natDigits n.natAbs

variable (l : Layout)

/-- The digits with a point before place `point` (which may lie outside them). -/
def positional (digits : List Char) (point : Int) : List Char :=
  if point ≤ 0 then
    ['0', '.'] ++ List.replicate (-point).toNat '0' ++ digits
  else if digits.length ≤ point.toNat then
    digits ++ List.replicate (point.toNat - digits.length) '0' ++ l.wholeMark
  else
    digits.take point.toNat ++ '.' :: digits.drop point.toNat

/-- One digit before the point, then the power of ten. -/
def scientific (digits : List Char) (power : Int) : List Char :=
  let mantissa :=
    match digits with
    | d :: e :: r => d :: '.' :: e :: r
    | ds => ds
  mantissa ++ 'e' :: (if power < 0 then [] else l.exponentSign) ++ intDigits power

def decimal (d : Decimal) : List Char :=
  if d.coefficient = 0 then '0' :: l.wholeMark
  else
    let digits := natDigits d.coefficient
    let point := digits.length + d.exponent
    if l.withExponent (point - 1) then l.scientific digits (point - 1)
    else l.positional digits point

/-- The text of any float; what is not a number has no sign. -/
def float (x : Float) : List Char :=
  let m := Binary64.magnitude x
  if Binary64.infinity < m then ['N', 'a', 'N']
  else
    let size := if m = Binary64.infinity then ['i', 'n', 'f'] else l.decimal (shortest l.tie m)
    if Binary64.isNegative x then '-' :: size else size

end Layout

def plainText (x : Float) : String :=
  String.ofList (Layout.plain.float x)

def debugText (x : Float) : String :=
  String.ofList (Layout.debug.float x)

end Recalc.Decimal
