import Recalc.Formula.Evaluate
import Recalc.Workbook.Basic

/-!
# Calculation

A sheet is calculated in two phases. First its constants are written to the results. Then its
formulas are tried again and again, row by row; one that has a value is written at once and seen by
all that follow. A pass that resolves nothing is the last one, and so is the pass with number twice
the count of formulas. What is still pending then is null.

Sheets are calculated in their order, so a reference to a later sheet finds nothing.
-/

namespace Recalc

/-- Values by cell key. -/
abbrev Results := Std.ExtTreeMap String Value

namespace Results

def lookup (r : Results) : Lookup :=
  fun key => r[key]?

/-- Writes the value of a cell under its key, and under its label too on the default sheet. -/
def write (r : Results) (sheet : String) (isDefault : Bool) (c : Coordinate) (v : Value) :
    Results :=
  (if isDefault then r.insert c.label v else r).insert (c.key sheet) v

end Results

/-- A formula cell without a value. -/
abbrev Pending := Coordinate × String

structure Report where
  sheet : String
  constants : Nat
  formulas : Nat
  resolved : Nat
  passes : Nat
  unresolved : List Coordinate
deriving DecidableEq, Repr

def Report.converged (r : Report) : Bool :=
  r.unresolved.isEmpty

namespace Calculation

variable (sheet : String) (isDefault : Bool)

/-- The results with the constants of a sheet. -/
def seed (constants : List (Coordinate × Constant)) (results : Results) : Results :=
  constants.foldl (fun r (c, k) => r.write sheet isDefault c k.value) results

/-- Tries each pending formula once, in order. -/
def pass : List Pending → Results → List Pending × Results
  | [], results => ([], results)
  | (c, f) :: rest, results =>
    let v := Formula.evaluate results.lookup sheet f
    if v.isNull then
      let (still, results) := pass rest results
      ((c, f) :: still, results)
    else pass rest (results.write sheet isDefault c v)

/-- The state of a calculation between two passes. -/
structure State where
  passes : Nat
  pending : List Pending
  results : Results

def State.next (s : State) : State :=
  let (still, results) := pass sheet isDefault s.pending s.results
  ⟨s.passes + 1, still, results⟩

/-- Passes until nothing is pending, a pass resolves nothing, or `limit` passes are made. -/
def iterate : (limit : Nat) → State → State
  | 0, s => s
  | limit + 1, s =>
    if s.pending.isEmpty then s
    else
      let t := s.next sheet isDefault
      if t.pending.length < s.pending.length then iterate limit t else t

/-- The results with null for every pending cell. -/
def settle (pending : List Pending) (results : Results) : Results :=
  pending.foldl (fun r (c, _) => r.write sheet isDefault c .null) results

end Calculation

def Sheet.calculate (s : Sheet) (isDefault : Bool) (results : Results) : Report × Results :=
  let constants := s.constants
  let formulas := s.formulas
  let start : Calculation.State :=
    ⟨0, formulas, Calculation.seed s.name isDefault constants results⟩
  let final := Calculation.iterate s.name isDefault (max 1 (2 * formulas.length)) start
  let unresolved := final.pending.map Prod.fst
  (⟨s.name, constants.length, formulas.length, formulas.length - unresolved.length, final.passes,
      unresolved⟩,
    Calculation.settle s.name isDefault final.pending final.results)

def Workbook.calculate (w : Workbook) : Results × List Report :=
  w.ordered.foldl
    (fun (results, reports) s =>
      let (report, results) := s.calculate (w.defaultSheet? == some s.name) results
      (results, reports ++ [report]))
    (∅, [])

end Recalc
