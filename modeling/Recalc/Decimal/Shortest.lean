import Recalc.Decimal.Basic

/-!
# Shortest decimals

`shortest` is the decimal with the fewest digits that reads back as a given float, and among those
the nearest to it. It tries the two neighbours of the float on coarser to finer decimal grids, so
what it returns has been read back.
-/

namespace Recalc.Decimal

/-- Where a value halfway between two decimals goes. -/
inductive Tie
  | up
  | toEven
deriving DecidableEq, Repr

/-- The two neighbours of `d` with `cut` places dropped, the nearer first. -/
def neighbours (tie : Tie) (d : Decimal) (cut : Nat) : List Decimal :=
  let unit := Nat.pow 10 cut
  let q := d.coefficient / unit
  let r := 2 * (d.coefficient % unit)
  let low : Decimal := stripZeros ⟨q, d.exponent + cut⟩
  let high : Decimal := stripZeros ⟨q + 1, d.exponent + cut⟩
  let upward := unit < r || (r == unit && (tie == .up || q % 2 == 1))
  if upward then [high, low] else [low, high]

/-- The first neighbour on a grid that reads back as `magnitude`. -/
def onGrid? (tie : Tie) (magnitude : Nat) (d : Decimal) (cut : Nat) : Option Decimal :=
  (d.neighbours tie cut).find? fun c => c.magnitude == magnitude

def digitCount (n : Nat) : Nat :=
  (Nat.toDigits 10 n).length

/-- The shortest decimal that reads back as `magnitude`. Seventeen digits are always enough, and
the exact value stands behind them. -/
def shortest (tie : Tie) (magnitude : Nat) : Decimal :=
  let d := ofMagnitude magnitude
  let count := digitCount d.coefficient
  ((List.range 17).findSome? fun n => onGrid? tie magnitude d (count - (n + 1))).getD d

theorem magnitude_of_onGrid? {tie : Tie} {m cut : Nat} {d c : Decimal}
    (h : onGrid? tie m d cut = some c) : c.magnitude = m := by
  simpa using List.find?_some h

end Recalc.Decimal
