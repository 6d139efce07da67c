import Recalc.Calculation
import Recalc.Text.Distinct

/-!
# Results by sheet

The qualified keys of results tell the sheet and the coordinate of a cell. `Results.bySheet` groups
the values by sheet, in the order in which the sheets first turn up among the keys, and puts the
cells of a sheet in row-major order. Keys without a sheet repeat those of the default sheet and are
left out.
-/

namespace Recalc.Results

/-- The sheet and the coordinate of a qualified key; the last exclamation mark divides them. -/
def place? (key : String) : Option (String × Coordinate) :=
  (Text.splitLast? '!' key.toList).bind fun (sheet, label) =>
    (Coordinate.parse? label).map fun c => (String.ofList sheet, c)

structure Placed where
  sheet : String
  coordinate : Coordinate
  value : Value

/-- The values whose keys tell a place, in the order of the keys. -/
def placed (r : Results) : List Placed :=
  r.toList.filterMap fun (key, v) => (place? key).map fun (sheet, c) => ⟨sheet, c, v⟩

structure Group where
  sheet : String
  cells : List (Coordinate × Value)

/-- The values of a sheet in row-major order; of one coordinate, in the order of the keys. -/
def Group.ofPlaced (sheet : String) (ps : List Placed) : Group where
  sheet := sheet
  cells :=
    ((ps.filter fun p => p.sheet == sheet).map fun p => (p.coordinate, p.value)).mergeSort
      fun a b => (compare a.1 b.1).isLE

def bySheet (r : Results) : List Group :=
  (Text.distinct (r.placed.map Placed.sheet)).map fun sheet => Group.ofPlaced sheet r.placed

end Recalc.Results
