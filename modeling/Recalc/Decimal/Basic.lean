import Recalc.Binary64

/-!
# Decimals

A decimal is a natural number times a power of ten. Every finite float is one exactly
(`ofMagnitude`), and every decimal has a nearest float (`magnitude`).
-/

namespace Recalc

/-- The number `coefficient · 10 ^ exponent`. -/
structure Decimal where
  coefficient : Nat
  exponent : Int
deriving DecidableEq, Repr

namespace Decimal

/-- The same number without zeros at the end of its coefficient. -/
def stripZeros (d : Decimal) : Decimal :=
  if 0 < d.coefficient ∧ d.coefficient % 10 = 0 then
    stripZeros ⟨d.coefficient / 10, d.exponent + 1⟩
  else d
termination_by d.coefficient
decreasing_by omega

def ofMagnitude (magnitude : Nat) : Decimal :=
  let m := Binary64.significand magnitude
  let e := Binary64.exponent magnitude
  if 0 ≤ e then ⟨m * Nat.pow 2 e.toNat, 0⟩ else ⟨m * Nat.pow 5 (-e).toNat, e⟩

/-- The magnitude nearest to a decimal. Powers of ten far outside the range of floats are settled
without being computed. -/
def magnitude (d : Decimal) : Nat :=
  if d.coefficient = 0 then 0
  else if 400 < d.exponent then Binary64.infinity
  else if d.exponent < -(401 + d.coefficient.log2) then 0
  else if 0 ≤ d.exponent then Binary64.nearest (d.coefficient * Nat.pow 10 d.exponent.toNat) 1
  else Binary64.nearest d.coefficient (Nat.pow 10 (-d.exponent).toNat)

def toFloat (negative : Bool) (d : Decimal) : Float :=
  Binary64.ofMagnitude negative d.magnitude

end Decimal

end Recalc
