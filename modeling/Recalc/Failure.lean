import Recalc.Text.Quoted

/-!
# Failures

Why a command or a request ends without result, and how that is told.
-/

namespace Recalc

inductive InputFault
  | noEqualsSign
  | emptyKey
  | notNumber (value : String)
deriving DecidableEq, Repr

def InputFault.message : InputFault → String
  | noEqualsSign => "expected KEY=VALUE"
  | emptyKey => "empty key"
  | notNumber value => "'" ++ value ++ "' is not a number"

inductive Failure
  /-- A file that is missing or holds no text. -/
  | unreadable
  | malformedJson
  | malformedYaml
  | invalidInput (input : String) (fault : InputFault)
  | noScenarios (path : String)
  | unknownScenario (name : String) (available : List String)
  | unknownSheet (name : String) (available : List String)
  | unknownCell (key : String)
  | noDirectory (path : String)
deriving DecidableEq, Repr

namespace Failure

inductive Kind
  | file
  | json
  | yaml
  | input
  | validation
deriving DecidableEq, Repr

def kind : Failure → Kind
  | unreadable => .file
  | malformedJson => .json
  | malformedYaml => .yaml
  | invalidInput _ _ => .input
  | _ => .validation

def Kind.name : Kind → String
  | file => "Io"
  | json => "Json"
  | yaml => "Yaml"
  | input => "Parse"
  | validation => "Validation"

def Kind.title : Kind → String
  | file => "IO error"
  | json => "JSON error"
  | yaml => "YAML parsing error"
  | input => "Parse error"
  | validation => "Validation error"

/-- What is told beside the kind. -/
def detail? : Failure → Option String
  | unreadable | malformedJson | malformedYaml => none
  | invalidInput input fault => some ("Invalid input '" ++ input ++ "': " ++ fault.message)
  | noScenarios path => some ("No scenarios defined in " ++ path)
  | unknownScenario name available =>
    some ("Scenario '" ++ name ++ "' not found. Available: " ++ Text.quotedList available)
  | unknownSheet name available =>
    some ("Sheet '" ++ name ++ "' not found. Available: " ++ Text.quotedList available)
  | unknownCell key => some ("Cell '" ++ key ++ "' not found")
  | noDirectory path => some ("Export directory not found: " ++ path)

def message (f : Failure) : String :=
  match f.detail? with
  | some detail => f.kind.title ++ ": " ++ detail
  | none => f.kind.title

def lastLine (f : Failure) : String :=
  match f.detail? with
  | some detail => "Error: " ++ f.kind.name ++ "(" ++ Text.quoted detail ++ ")"
  | none => "Error: " ++ f.kind.name

end Failure

end Recalc
