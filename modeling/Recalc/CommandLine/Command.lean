import Recalc.CommandLine.Options
import Recalc.Console.Comparison
import Recalc.Console.Listing
import Recalc.Console.Results

/-!
# Commands

The commands of the calculator with their options. The directory of the export and the verbose mode
may be given before or behind the command; behind it counts more, and the environment counts least.
-/

namespace Recalc.CommandLine

open Console (RunOptions Page)

inductive Command
  | run (options : RunOptions) (json : Bool)
  | model (json : Bool)
  | deps (key : String)
  | compare (file : String) (scenarios keys : List String)
  | watch (options : RunOptions)
deriving DecidableEq, Repr

structure Invocation where
  directory : String
  command : Command
deriving DecidableEq, Repr

def Invocation.page (i : Invocation) (files : Files) : Page :=
  match i.command with
  | .run o json => Console.run files i.directory json o
  | .model json => Console.model files i.directory json
  | .deps key => Console.dependencies files i.directory key
  | .compare file scenarios keys => Console.compare files i.directory file scenarios keys
  | .watch o => Console.watch files i.directory o

/-- The file that a command reads beside the export. -/
def Command.file? : Command → Option String
  | run o _ | watch o => o.inputsFile
  | compare file _ _ => some file
  | model _ | deps _ => none

namespace Switch

/-- The directory that holds the export. -/
def directory : Switch :=
  ⟨"export-dir", some 'd', .set .path, some "CALC_MODEL_EXPORT_DIR"⟩

def verbose : Switch :=
  ⟨"verbose", some 'v', .mark, none⟩

def help : Switch :=
  ⟨"help", some 'h', .stop .help, none⟩

def version : Switch :=
  ⟨"version", some 'V', .stop .version, none⟩

def input : Switch :=
  ⟨"input", some 'i', .add, none⟩

def inputsFile : Switch :=
  ⟨"inputs", none, .set .path, none⟩

def sheet : Switch :=
  ⟨"sheet", some 's', .set .text, none⟩

def json : Switch :=
  ⟨"json", none, .mark, none⟩

def scenarios : Switch :=
  ⟨"scenarios", some 's', .addParts, none⟩

def cells : Switch :=
  ⟨"cells", some 'c', .addParts, none⟩

end Switch

/-- The directory of an export when none is given. -/
def defaultDirectory : String :=
  "exported"

inductive Name
  | run
  | model
  | deps
  | compare
  | watch
deriving DecidableEq, Repr

namespace Name

def all : List Name :=
  [run, model, deps, compare, watch]

def word : Name → String
  | run => "run"
  | model => "model"
  | deps => "deps"
  | compare => "compare"
  | watch => "watch"

def ofWord? (word : String) : Option Name :=
  all.find? fun n => n.word == word

def grammar (n : Name) : Grammar :=
  let shared := [Switch.directory, Switch.verbose, Switch.help]
  match n with
  | run => ⟨[.input, .inputsFile, .sheet, .json] ++ shared, [], []⟩
  | model => ⟨.json :: shared, [], []⟩
  | deps => ⟨shared, [], [.text]⟩
  | compare => ⟨[.scenarios, .cells] ++ shared, [], [.path]⟩
  | watch => ⟨[.input, .inputsFile, .sheet] ++ shared, [], []⟩

def runOptions (verbose : Bool) (g : Given) : RunOptions where
  inputs := g.valuesOf .input
  inputsFile := g.value? .inputsFile
  sheet := g.value? .sheet
  verbose := verbose

def command (n : Name) (verbose : Bool) (g : Given) : Command :=
  let operand := g.operands.headD ""
  match n with
  | run => .run (runOptions verbose g) (g.has .json)
  | model => .model (g.has .json)
  | deps => .deps operand
  | compare => .compare operand (g.valuesOf .scenarios) (g.valuesOf .cells)
  | watch => .watch (runOptions verbose g)

end Name

def helpWord : String :=
  "help"

/-- What may stand before a command. -/
def outerGrammar : Grammar where
  switches := [.directory, .verbose, .help, .version]
  commands := helpWord :: Name.all.map Name.word

def helpOn : List String → Stop
  | [] => .help
  | [word] => if outerGrammar.commands.contains word then .help else .misuse
  | _ => .misuse

def Invocation.read (environment : String → Option String) (words : List String) :
    Except Stop Invocation := do
  let (outer, command) ← outerGrammar.read { } words
  let (word, words) ← command.elim (.error .misuse) .ok
  let name ← (Name.ofWord? word).elim (.error (helpOn words)) .ok
  let (inner, _) ← name.grammar.read { } words
  let inner ← name.grammar.finish inner
  let _ ← name.grammar.fromEnvironment environment inner
  let outer ← outerGrammar.finish outer
  let found ← outerGrammar.fromEnvironment environment outer
  let directory := ((inner.value? .directory).or (outer.value? .directory)).or
    (found.value? .directory)
  return {
    directory := directory.getD defaultDirectory
    command := name.command (inner.has .verbose || outer.has .verbose) inner }

end Recalc.CommandLine
