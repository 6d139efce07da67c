/-!
# Binary64 numbers as fractions

The magnitude of a finite float (its bits without the sign) stands for `significand · 2 ^ exponent`.
`nearest` gives the magnitude closest to a fraction, a half going to the even neighbour, and
infinity past the largest finite one. Magnitudes are ordered as the numbers they stand for, so a
carry out of the significand is already the next exponent.
-/

namespace Recalc.Binary64

/-- How many magnitudes share an exponent: `2 ^ 52`. -/
def binade : Nat :=
  0x10000000000000

/-- The sign of a float among its bits: `2 ^ 63`. -/
def signBit : Nat :=
  0x8000000000000000

/-- The magnitude of infinity; greater magnitudes are not numbers. -/
def infinity : Nat :=
  0x7FF * binade

def magnitude (x : Float) : Nat :=
  x.toBits.toNat % signBit

def isNegative (x : Float) : Bool :=
  signBit ≤ x.toBits.toNat

def ofMagnitude (negative : Bool) (magnitude : Nat) : Float :=
  Float.ofBits (UInt64.ofNat (if negative then signBit + magnitude else magnitude))

def significand (magnitude : Nat) : Nat :=
  if magnitude / binade = 0 then magnitude else magnitude % binade + binade

def exponent (magnitude : Nat) : Int :=
  max (magnitude / binade : Nat) 1 - 1075

/-- The quotient to the nearest natural number, a half to the even one. -/
def divNearest (num den : Nat) : Nat :=
  let q := num / den
  let r := 2 * (num % den)
  if r < den then q else if den < r then q + 1 else q + q % 2

/-- The exponent of the last place kept of `num / den`: the quotient has 53 binary digits there, or
fewer at the smallest exponent. -/
def lastPlace (num den : Nat) : Int :=
  let e : Int := num.log2 - den.log2 - 53
  let wide := 2 * binade * (den * Nat.pow 2 e.toNat) ≤ num * Nat.pow 2 (-e).toNat
  max (-1074) (if wide then e + 1 else e)

/-- The magnitude nearest to `num / den`. -/
def nearest (num den : Nat) : Nat :=
  if num = 0 then 0
  else
    let e := lastPlace num den
    let digits := divNearest (num * Nat.pow 2 (-e).toNat) (den * Nat.pow 2 e.toNat)
    min infinity ((e + 1074).toNat * binade + digits)

/-- The nearest whole number, a half away from zero; a zero keeps the sign of what was rounded. -/
def roundToWhole (x : Float) : Float :=
  let m := magnitude x
  let e := exponent m
  if infinity ≤ m ∨ 0 ≤ e then x
  else
    let unit := Nat.pow 2 (-e).toNat
    ofMagnitude (isNegative x) (nearest ((2 * significand m + unit) / (2 * unit)) 1)

end Recalc.Binary64
