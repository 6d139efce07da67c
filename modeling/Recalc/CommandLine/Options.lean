import Recalc.Service.Address
import Recalc.Text.Split

/-!
# Options

How the words of a command line are read. `-o VALUE`, `-oVALUE`, `-o=VALUE`, `--option VALUE` and
`--option=VALUE` are alike, short options without values may share a word, and a word behind `--` is
never an option. A value is checked when the next option, the next operand or the end comes, and
reading stops at the first misuse or at a request for help or for the version.
-/

namespace Recalc.CommandLine

inductive Stop
  | misuse
  | help
  | version
deriving DecidableEq, Repr

inductive Kind
  | text
  | path
  | port
deriving DecidableEq, Repr

def Kind.allows : Kind → String → Bool
  | text, _ => true
  | path, s => !s.isEmpty
  | port, s => (Address.readPort? s).isSome

inductive Action
  /-- It is given, at most once. -/
  | mark
  /-- It has one value, and is given at most once. -/
  | set (kind : Kind)
  /-- Each time it is given it adds a value. -/
  | add
  /-- Each time it is given it adds the parts of its value between commas. -/
  | addParts
  | stop (how : Stop)
deriving DecidableEq, Repr

def Action.takesValue : Action → Bool
  | set _ | add | addParts => true
  | mark | stop _ => false

structure Switch where
  long : String
  short : Option Char := none
  action : Action
  /-- The environment variable that stands in where the option is not given. -/
  environmentName : Option String := none
deriving DecidableEq, Repr

structure Grammar where
  switches : List Switch
  /-- Words that end the options and start those of a command. -/
  commands : List String := []
  operands : List Kind := []

structure Given where
  /-- The values of each option, in the order in which it was first given. -/
  values : List (String × List String) := []
  operands : List String := []
  /-- The last option that takes a value, until its value is checked. -/
  waiting : Option (Switch × Option String) := none
  literal : Bool := false

namespace Given

variable (g : Given)

def valuesOf (s : Switch) : List String :=
  (g.values.lookup s.long).getD []

def value? (s : Switch) : Option String :=
  (g.valuesOf s).head?

def has (s : Switch) : Bool :=
  (g.values.lookup s.long).isSome

/-- Whether the next word is a value if it does not look like an option. -/
def wantsValue : Bool :=
  g.waiting.any fun (_, v) => v.isNone

def setValues (s : Switch) (values : List String) : Given :=
  { g with values := g.values.filter (fun (name, _) => name != s.long) ++ [(s.long, values)] }

def mark (s : Switch) : Except Stop Given :=
  match s.action with
  | .stop how => .error how
  | _ => if g.has s then .error .misuse else .ok (g.setValues s [])

def put (s : Switch) (value : String) : Except Stop Given :=
  match s.action with
  | .set kind =>
    if g.has s || !kind.allows value then .error .misuse else .ok (g.setValues s [value])
  | .addParts => .ok (g.setValues s (g.valuesOf s ++ Text.parts ',' value))
  | _ => .ok (g.setValues s (g.valuesOf s ++ [value]))

/-- Checks the option that waits. -/
def settle : Except Stop Given :=
  match g.waiting with
  | none => .ok g
  | some (_, none) => .error .misuse
  | some (s, some value) => put { g with waiting := none } s value

def await (s : Switch) : Except Stop Given :=
  g.settle.map fun g => { g with waiting := some (s, none) }

end Given

namespace Grammar

variable (grammar : Grammar)

/-- Short options in one word, the last of which may have its value there. -/
def readShort : List Char → Given → Except Stop Given
  | [], g => .ok g
  | c :: cs, g =>
    match grammar.switches.find? fun s => s.short == some c with
    | none => .error .misuse
    | some s =>
      if s.action.takesValue then
        match cs with
        | [] => g.await s
        | '=' :: value => g.settle.bind fun g => g.put s (String.ofList value)
        | value => g.settle.bind fun g => g.put s (String.ofList value)
      else (g.settle.bind fun g => g.mark s).bind (readShort cs)

def readLong (name : String) (value : Option String) (g : Given) : Except Stop Given :=
  match grammar.switches.find? fun s => s.long == name with
  | none => .error .misuse
  | some s =>
    match value with
    | some value =>
      if s.action.takesValue then g.settle.bind fun g => g.put s value else .error .misuse
    | none => if s.action.takesValue then g.await s else g.settle.bind fun g => g.mark s

def readOperand (word : String) (g : Given) : Except Stop Given :=
  g.settle.bind fun g =>
    match grammar.operands[g.operands.length]? with
    | some kind =>
      if kind.allows word then .ok { g with operands := g.operands ++ [word] } else .error .misuse
    | none => .error .misuse

def readPlain (word : String) (g : Given) : Except Stop Given :=
  match g.waiting with
  | some (s, none) => .ok { g with waiting := some (s, some word) }
  | _ => grammar.readOperand word g

/-- The name of a long option and the text behind its equals sign. -/
def cutLong (s : List Char) : String × Option String :=
  match s.dropWhile (· != '=') with
  | [] => (String.ofList s, none)
  | _ :: value => (String.ofList (s.takeWhile (· != '=')), some (String.ofList value))

def readWord (g : Given) (word : String) : Except Stop Given :=
  if g.literal then grammar.readOperand word g
  else
    match word.toList with
    | ['-', '-'] => .ok { g with literal := true }
    | '-' :: '-' :: s =>
      let (name, value) := cutLong s
      grammar.readLong name value g
    | ['-'] => grammar.readPlain word g
    | '-' :: s => grammar.readShort s g
    | _ => grammar.readPlain word g

/-- Reads up to the word of a command, which comes back with the words behind it. -/
def read (g : Given) : List String → Except Stop (Given × Option (String × List String))
  | [] => .ok (g, none)
  | word :: words =>
    if grammar.commands.contains word && !g.literal && !g.wantsValue then
      .ok (g, some (word, words))
    else (grammar.readWord g word).bind fun g => read g words

/-- The values that the environment has for options that are not given. -/
def fromEnvironment (environment : String → Option String) (g : Given) : Except Stop Given :=
  grammar.switches.foldlM (fun found s =>
    match s.environmentName.bind environment with
    | some value => if g.has s then .ok found else found.put s value
    | none => .ok found) { }

/-- Ends reading: nothing waits, and no operand is missing. -/
def finish (g : Given) : Except Stop Given :=
  g.settle.bind fun g =>
    if g.operands.length < grammar.operands.length then .error .misuse else .ok g

end Grammar

end Recalc.CommandLine
