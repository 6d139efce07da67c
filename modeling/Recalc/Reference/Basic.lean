import Recalc.Coordinate

/-!
# References

What a formula points at: a cell or a rectangle, on a named sheet or on the formula's own.
-/

namespace Recalc

inductive Target
  | cell (place : Coordinate)
  | range (rectangle : Range)
deriving DecidableEq, Repr

structure Reference where
  sheet : Option String
  target : Target
deriving DecidableEq, Repr

namespace Target

/-- The covered cells, unless they are too many to list. -/
def cells? : Target → Option (List Coordinate)
  | cell c => some [c]
  | range r => r.cells?

def isRange : Target → Bool
  | cell _ => false
  | range _ => true

end Target

namespace Reference

variable (r : Reference)

/-- The sheet that is read when the formula stands on `current`. -/
def sheetFrom (current : String) : String :=
  r.sheet.getD current

def keys? (current : String) : Option (List String) :=
  r.target.cells?.map fun cells => cells.map (Coordinate.key (r.sheetFrom current))

end Reference

end Recalc
