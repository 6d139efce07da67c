import Recalc.Console.Page
import Recalc.Export
import Recalc.Grouping
import Recalc.Inputs
import Recalc.Interchange

/-!
# The results of a run

A run shows its results sheet by sheet, marks the cells that inputs replaced, and counts the
formulas without a value. It tells how each sheet was calculated if asked to, and it can show
everything as JSON instead.
-/

namespace Recalc.Console

structure RunOptions where
  inputs : List String := []
  inputsFile : Option String := none
  /-- The only sheet to show. -/
  sheet : Option String := none
  verbose : Bool := false
deriving DecidableEq, Repr

namespace Run

/-- Whether and how the calculation of a sheet came to an end. -/
def status (r : Report) : String :=
  if r.converged then "✅"
  else "⚠️  pending: " ++ String.intercalate ", " (r.unresolved.map Coordinate.label)

def reportLine (r : Report) : String :=
  "   " ++ left 20 r.sheet ++ " constants " ++ right 4 (count r.constants) ++ "  formulas " ++
    right 4 (count r.formulas) ++ "  resolved " ++ right 4 (count r.resolved) ++ "  passes " ++
    right 3 (count r.passes) ++ "  " ++ status r

def reportLines (reports : List Report) : List String :=
  "🔁 Convergence:" :: reports.map reportLine ++ [""]

/-- The lines of a sheet; `isInput` tells the cells that inputs replaced. -/
def groupLines (isInput : Coordinate → Bool) (g : Results.Group) : List String :=
  ("   📄 Sheet: " ++ g.sheet) :: g.cells.map fun (c, v) =>
    "      " ++ left 8 c.label ++ " = " ++ v.display ++ (if isInput c then " (input)" else "")

def unresolvedLines (reports : List Report) : List String :=
  let n := (reports.flatMap Report.unresolved).length
  if n = 0 then [] else ["⚠️  " ++ count n ++ " formula cell(s) did not resolve"]

def resultLines (sheet : Option String) (isInput : String → Coordinate → Bool) (r : Results) :
    List String :=
  let shown := r.bySheet.filter fun g => sheet.all fun name => name == g.sheet
  "✅ Results:" :: (shown.flatMap fun g => groupLines (isInput g.sheet) g) ++ [""]

/-- What a run shows below its heading. -/
def body (files : Files) (directory : String) (overrides : Overrides) (o : RunOptions) : Page :=
  let w := Export.load files directory
  let inputs := overrides.keys.filterMap w.locate?
  let (outcome, reports) := w.run overrides
  if !outcome.metadata.hasModel then ⟨["⚠️  No model found in " ++ directory], none⟩
  else
    Page.below (if o.verbose then reportLines reports else []) <|
      let names := reports.map Report.sheet
      match o.sheet.filter fun name => !names.contains name with
      | some name => Page.failed (.unknownSheet name names)
      | none =>
        ⟨resultLines o.sheet (fun name c => inputs.contains (name, c)) outcome.cells ++
          unresolvedLines reports, none⟩

def heading (directory : String) (overrides : Overrides) : List String :=
  ["🧮 Calc Model - Running", "   Export: " ++ directory] ++
    (if overrides.isEmpty then [] else ["   Inputs: " ++ count overrides.size]) ++ [""]

end Run

def run (files : Files) (directory : String) (json : Bool) (o : RunOptions) : Page :=
  match Inputs.collect files o.inputs o.inputsFile with
  | .error f => .failed f
  | .ok overrides =>
    if json then
      ⟨[((Export.load files directory).run overrides).1.toJson.pretty], none⟩
    else Page.below (Run.heading directory overrides) (Run.body files directory overrides o)

namespace Watch

def heading (directory : String) : List String :=
  ["👁️  Calc Model - Watch Mode", "   Watching: " ++ directory, "   Press Ctrl+C to stop", ""]

/-- A run whose failure is told and does not end the watch. -/
def rerun (files : Files) (directory : String) (o : RunOptions) : List String :=
  let page : Page :=
    match Inputs.collect files o.inputs o.inputsFile with
    | .error f => .failed f
    | .ok overrides => Run.body files directory overrides o
  page.lines ++ (page.failure.map fun f => "❌ Run failed: " ++ f.message).toList ++ [""]

end Watch

/-- What watching a directory shows up to the first change. -/
def watch (files : Files) (directory : String) (o : RunOptions) : Page :=
  Page.below (Watch.heading directory) <|
    if files.isDirectory directory then
      ⟨"🔄 Initial run..." :: Watch.rerun files directory o, none⟩
    else .failed (.noDirectory directory)

end Recalc.Console
