import Recalc.CommandLine.Command
import Recalc.Service.Config

/-!
# Programs

How a program ends: its exit status and what it leaves on the two outputs. There are two programs,
the calculator and the service.
-/

namespace Recalc

structure Exit where
  status : Nat
  output : String := ""
  errors : String := ""
deriving DecidableEq, Repr

open CommandLine (Stop Invocation)

structure Program where
  name : String
  usage : String

namespace Program

def calculator : Program where
  name := "calc-model"
  usage :=
    "Usage: calc-model [-d DIR] [-v] COMMAND\n\n" ++
    "Commands:\n" ++
    "  run      recalculate with optional inputs\n" ++
    "  model    show the sheets in the export\n" ++
    "  deps     show the cells that a formula reads and their values\n" ++
    "  compare  compare results across named input sets\n" ++
    "  watch    recalculate whenever files in the export change\n"

def service : Program where
  name := "calc-model-server"
  usage := "Usage: calc-model-server [-H HOST] [-p PORT] [-d DIR]\n"

def stopped (p : Program) : Stop → Exit
  | .misuse => ⟨2, "", p.usage⟩
  | .help => ⟨0, p.usage, ""⟩
  | .version => ⟨0, p.name ++ " " ++ Service.version ++ "\n", ""⟩

end Program

def Exit.ofPage (p : Console.Page) : Exit :=
  match p.failure with
  | none => ⟨0, p.text, ""⟩
  | some f => ⟨1, p.text, f.lastLine ++ "\n"⟩

namespace Program

abbrev Environment := String → Option String

/-- Runs the calculator. -/
def calculate (files : Files) (environment : Environment) (words : List String) : Exit :=
  match Invocation.read environment words with
  | .ok i => .ofPage (i.page files)
  | .error stop => calculator.stopped stop

/-- Starts the service: where it listens, or how it ends. -/
def serve (environment : Environment) (words : List String) : Except Exit Service.Config :=
  match Service.Config.read environment words with
  | .ok c =>
    if c.hasAddress then .ok c
    else .error ⟨1, "", "Error: invalid socket address syntax\n"⟩
  | .error stop => .error (service.stopped stop)

end Program

end Recalc
