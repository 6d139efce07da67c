import Recalc.Failure
import Recalc.Files
import Recalc.Json.Reader
import Recalc.Run
import Recalc.Text.Blank
import Recalc.Yaml.Document

/-!
# Inputs

Overrides come from inputs `KEY=VALUE` and from files. A file with the extension `yaml` or `yml` is
YAML, any other is JSON. Scenarios are overrides by name.
-/

namespace Recalc

abbrev Scenarios := Std.ExtTreeMap String Overrides

namespace Inputs

/-- The override of an input; the last equals sign divides key and value. -/
def readInput (input : String) : Except Failure (String × Float) :=
  match Text.splitLast? '=' input.toList with
  | none => .error (.invalidInput input .noEqualsSign)
  | some (key, value) =>
    let key := Text.trim key
    let value := String.ofList value
    if key.isEmpty then .error (.invalidInput input .emptyKey)
    else
      match Decimal.readNumber? value with
      | some x => .ok (String.ofList key, x)
      | none => .error (.invalidInput input (.notNumber value))

/-- Whether a file is read as YAML. -/
def isYaml (path : String) : Bool :=
  (Path.extension? path).any fun e =>
    let e := e.toList.map Char.toLower
    e == "yaml".toList || e == "yml".toList

def readFile {α : Type} (json : Json.Reader α) (yaml : Yaml.Document → Yaml.Node → Option α)
    (files : Files) (path : String) : Except Failure α :=
  match files.read? path with
  | none => .error .unreadable
  | some content =>
    if isYaml path then
      match (Yaml.Document.parse? content.toList).bind fun d => d.read? yaml with
      | some a => .ok a
      | none => .error .malformedYaml
    else
      match Json.Reader.whole json content with
      | .ok a => .ok a
      | .error _ => .error .malformedJson

/-- A YAML mapping; of a repeated key the last value counts. -/
def mapOf? {α : Type} (value : Yaml.Document → Yaml.Node → Option α) (d : Yaml.Document)
    (n : Yaml.Node) : Option (Std.ExtTreeMap String α) :=
  (d.mapOf? (value d) n).map fun es => Std.ExtTreeMap.ofList es compare

def readOverrides (files : Files) (path : String) : Except Failure Overrides :=
  readFile (Json.Reader.mapping Json.Reader.float) (mapOf? Yaml.Document.float?) files path

/-- The overrides of a file, if there is one, and of inputs. An input wins over the file, and a
later input over an earlier one. -/
def collect (files : Files) (inputs : List String) (path : Option String) :
    Except Failure Overrides := do
  let start ←
    match path with
    | some path => readOverrides files path
    | none => .ok ∅
  inputs.foldlM (fun overrides input => do
    let (key, x) ← readInput input
    return overrides.insert key x) start

/-- The scenarios of a file, at least one. -/
def readScenarios (files : Files) (path : String) : Except Failure Scenarios := do
  let scenarios ←
    readFile (Json.Reader.mapping (Json.Reader.mapping Json.Reader.float))
      (mapOf? (mapOf? Yaml.Document.float?)) files path
  if scenarios.isEmpty then .error (.noScenarios path) else return scenarios

end Inputs

end Recalc
