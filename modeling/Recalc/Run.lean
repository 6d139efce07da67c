import Recalc.Calculation

/-!
# What-if runs

A run puts numbers in the place of cells, calculates the workbook and rounds what comes out.
-/

namespace Recalc

/-- Numbers by the key of the cell they replace. -/
abbrev Overrides := Std.ExtTreeMap String Float

namespace Workbook

/-- Puts a number in the place of the cell that a key names, if there is one. -/
def override? (w : Workbook) (key : String) (x : Float) : Option Workbook :=
  (w.locate? key).bind fun (name, c) =>
    (w.contents[name]?).bind fun s =>
      if s.cells.contains c then
        some { w with contents := w.contents.insert name (s.set c (.constant (.number x))) }
      else none

/-- Overrides in the order in which they are applied: qualified keys before bare ones, each by
key. -/
def inOrder (overrides : Overrides) : List (String × Float) :=
  let (qualified, bare) := overrides.toList.partition fun (key, _) => key.toList.contains '!'
  qualified ++ bare

/-- Applies overrides, and counts those that name a stored cell. -/
def applyOverrides (w : Workbook) (overrides : Overrides) : Workbook × Nat :=
  (inOrder overrides).foldl
    (fun (w, applied) (key, x) =>
      match w.override? key x with
      | some w => (w, applied + 1)
      | none => (w, applied))
    (w, 0)

end Workbook

/-- Decimal places of a result, as the power of ten that a number is scaled by. -/
def resultScale : Float :=
  1000000

/-- Rounds to six places, a half away from zero. A number too large to be scaled stays. -/
def roundNumber (x : Float) : Float :=
  let scaled := x * resultScale
  if scaled.isFinite then Binary64.roundToWhole scaled / resultScale else x

def Value.rounded : Value → Value
  | .number n => .number (roundNumber n)
  | v => v

def Results.rounded (r : Results) : Results :=
  r.map fun _ v => v.rounded

structure Outcome where
  cells : Results
  metadata : Metadata

/-- Calculates a workbook under overrides. A workbook without sheets has no results. -/
def Workbook.run (w : Workbook) (overrides : Overrides) : Outcome × List Report :=
  let metadata := Metadata.ofWorkbook w
  if w.hasModel then
    let (cells, reports) := (w.applyOverrides overrides).1.calculate
    (⟨cells.rounded, metadata⟩, reports)
  else (⟨∅, metadata⟩, [])

end Recalc
