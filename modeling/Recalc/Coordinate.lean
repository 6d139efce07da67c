import Std.Data.ExtTreeMap
import Recalc.Decimal.Layout
import Recalc.Decimal.Reader

/-!
# Cell coordinates

A coordinate is a column and a row, ordered row by row. Its label writes the column in letters
(bijective base 26, `A` is 1) and the row in digits; `parse?` reads a label in either case of
letters. Columns and rows fit 32 bits, and a label past that is no label.
-/

namespace Recalc

structure Coordinate where
  row : UInt32
  column : UInt32
deriving DecidableEq, Repr, Inhabited

namespace Coordinate

/-- Row-major order. -/
instance : Ord Coordinate :=
  ⟨compareLex (compareOn row) (compareOn column)⟩

instance : Std.TransOrd Coordinate :=
  inferInstanceAs (Std.TransCmp (compareLex (compareOn row) (compareOn column)))

instance : Std.LawfulEqOrd Coordinate where
  eq_of_compare {a b} h := by
    change compareLex (compareOn row) (compareOn column) a b = .eq at h
    rw [compareLex_eq_eq] at h
    have hr : a.row = b.row := Std.LawfulEqOrd.eq_of_compare (α := UInt32) h.1
    have hc : a.column = b.column := Std.LawfulEqOrd.eq_of_compare (α := UInt32) h.2
    cases a; cases b; simp_all

/-- The greatest column or row number. -/
def maxNumber : Nat :=
  0xFFFFFFFF

def letterValue (c : Char) : Nat :=
  c.toUpper.toNat - 'A'.toNat + 1

/-- One more letter behind the column number `n`, unless the number grows too large. -/
def pushLetter? (n : Nat) (c : Char) : Option Nat :=
  if c.isAlpha && 26 * n + letterValue c ≤ maxNumber then some (26 * n + letterValue c) else none

def columnNumber? (letters : List Char) : Option UInt32 :=
  if letters.isEmpty then none
  else (letters.foldlM pushLetter? 0).map UInt32.ofNat

def columnLetters (n : Nat) : List Char :=
  if n = 0 then []
  else columnLetters ((n - 1) / 26) ++ [Char.ofNat ('A'.toNat + (n - 1) % 26)]
termination_by n
decreasing_by omega

/-- The label of a column; the number zero has the label of the first column. -/
def columnLabel (column : UInt32) : List Char :=
  if column = 0 then ['A'] else columnLetters column.toNat

/-- The row that digits name: no leading zero. -/
def rowNumber? (digits : List Char) : Option UInt32 :=
  if digits.head? = some '0' then none
  else
    (Decimal.readDigits? digits).bind fun n =>
      if n ≤ maxNumber then some (UInt32.ofNat n) else none

def ofParts? (letters digits : List Char) : Option Coordinate :=
  (columnNumber? letters).bind fun column =>
    (rowNumber? digits).map fun row => ⟨row, column⟩

/-- A label and nothing else. -/
def parse? (text : List Char) : Option Coordinate :=
  ofParts? (text.takeWhile Char.isAlpha) (text.dropWhile Char.isAlpha)

def labelChars (c : Coordinate) : List Char :=
  columnLabel c.column ++ Decimal.Layout.natDigits c.row.toNat

def label (c : Coordinate) : String :=
  String.ofList c.labelChars

/-- The key of a cell: its label behind its sheet's name, or alone when the name is empty. -/
def key (sheet : String) (c : Coordinate) : String :=
  if sheet.isEmpty then c.label else sheet ++ "!" ++ c.label

end Coordinate

/-- A rectangle of cells between two corners, named in either order. -/
structure Range where
  first : Coordinate
  second : Coordinate
deriving DecidableEq, Repr

namespace Range

/-- The most cells that are ever listed. -/
def maxCells : Nat :=
  1048576

variable (r : Range)

def firstRow : Nat := min r.first.row.toNat r.second.row.toNat
def lastRow : Nat := max r.first.row.toNat r.second.row.toNat
def firstColumn : Nat := min r.first.column.toNat r.second.column.toNat
def lastColumn : Nat := max r.first.column.toNat r.second.column.toNat

/-- How many cells the rectangle covers, as a 64-bit number that stays at its maximum. -/
def cellCount : Nat :=
  min 0xFFFFFFFFFFFFFFFF ((r.lastRow - r.firstRow + 1) * (r.lastColumn - r.firstColumn + 1))

/-- The covered cells, row by row, unless they are too many to list. -/
def cells? : Option (List Coordinate) :=
  if maxCells < r.cellCount then none
  else
    some <| (List.range' r.firstRow (r.lastRow - r.firstRow + 1)).flatMap fun row =>
      (List.range' r.firstColumn (r.lastColumn - r.firstColumn + 1)).map fun column =>
        ⟨UInt32.ofNat row, UInt32.ofNat column⟩

end Range

end Recalc
