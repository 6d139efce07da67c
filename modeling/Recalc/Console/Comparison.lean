import Recalc.Comparison
import Recalc.Console.Page
import Recalc.Export
import Recalc.Inputs

/-!
# The comparison of scenarios

Scenarios are shown side by side: a row for each key, a column for each scenario. Without a choice
of keys, the rows are the keys that tell the scenarios apart.
-/

namespace Recalc.Console

namespace Compare

def keyWidth : Nat :=
  24

def valueWidth : Nat :=
  15

def row (key : String) (values : List String) : String :=
  String.join (left keyWidth key :: values.map (right valueWidth))

def keyRow (results : List Results) (key : String) : String :=
  row key (results.map fun r => (r[key]?.map Value.display).getD "-")

def rule (columns : Nat) : String :=
  String.ofList (List.replicate (keyWidth + valueWidth * columns) '─')

def table (names : List String) (results : List Results) (keys : List String) : List String :=
  let line := rule names.length
  ["📊 Scenario Comparison:", line, row "Cell" names, line] ++ keys.map (keyRow results) ++ [line] ++
    (if keys.isEmpty then ["   No differences"] else [])

def select (available : Scenarios) (names : List String) :
    Except Failure (List (String × Overrides)) :=
  if names.isEmpty then .ok available.toList
  else
    names.mapM fun name =>
      match available[name]? with
      | some overrides => .ok (name, overrides)
      | none => .error (.unknownScenario name available.keys)

end Compare

open Compare in
/-- The comparison of scenarios from a file. -/
def compare (files : Files) (directory file : String) (scenarios keys : List String) : Page :=
  match (Inputs.readScenarios files file).bind fun available => select available scenarios with
  | .error f => .failed f
  | .ok chosen =>
    let names := chosen.map Prod.fst
    let w := Export.load files directory
    let results := chosen.map fun (_, overrides) => (w.run overrides).1.cells
    let rows := if keys.isEmpty then Results.differingKeys results else keys
    ⟨["🧮 Calc Model - Scenario Comparison", "   Export: " ++ directory,
        "   Scenarios: " ++ String.intercalate ", " names, ""] ++
      table names results rows ++ ["", "✅ Comparison complete"], none⟩

end Recalc.Console
