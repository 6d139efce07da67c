import Recalc.Arithmetic.Parser
import Recalc.Formula.Aggregate

/-!
# Formulas

A text that starts with an equals sign is a formula; any other is a literal. A formula is evaluated
by rewriting its text: aggregate calls become numbers, then references do, then commas become
points; what is left may only hold arithmetic, and is evaluated as such.
-/

namespace Recalc

inductive FormulaError
  | unresolved (key : String)
  | tooManyCells (argument : List Char)
  | unsafeCharacter (c : Char)
  | grammar (error : Arithmetic.ParseError)
  | arithmetic (fault : Arithmetic.EvalFault)
deriving DecidableEq, Repr

def FormulaError.message : FormulaError → String
  | unresolved key => "reference " ++ key ++ " has no value yet"
  | tooManyCells argument => "range " ++ String.ofList argument ++ " covers too many cells"
  | unsafeCharacter c => "character '" ++ c.toString ++ "' is not allowed in arithmetic"
  | grammar e => e.message
  | arithmetic f => f.message

namespace Formula

/-- The text of a formula without its equals sign and the blanks around. -/
def body? (formula : String) : Option (List Char) :=
  (Reference.formulaText? formula).map Text.trim

variable (lookup : Lookup) (sheet : String)

/-- The numbers that an aggregate's argument covers, in order; what is no number is left out. -/
def numbers (argument : List Char) : Except FormulaError (List Float) :=
  match Reference.ofArgument? argument with
  | none => .ok []
  | some r =>
    match r.keys? sheet with
    | none => .error (.tooManyCells argument)
    | some keys => .ok (keys.filterMap fun k => (lookup k).bind Value.asNumber?)

/-- The characters that stand for a number in a formula. -/
def numberText (x : Float) : List Char :=
  Decimal.Layout.plain.float x

def callText : Call.Piece → Except FormulaError (List Char)
  | .call f argument _ => do
    let values ← numbers lookup sheet argument
    return numberText (f.apply values)
  | p => .ok p.text

/-- Every aggregate call replaced by its number. -/
def resolveAggregates (body : List Char) : Except FormulaError (List Char) := do
  let texts ← (Call.Piece.split body).mapM (callText lookup sheet)
  return texts.flatten

/-- The number that a reference to one cell stands for; a text that is no number counts as zero. -/
def cellNumber (key : String) : Except FormulaError Float :=
  match lookup key with
  | none | some .null => .error (.unresolved key)
  | some v => .ok (v.asNumber?.getD 0)

def referenceText : Reference.Piece → Except FormulaError (List Char)
  | .found r _ =>
    match r.target with
    | .range _ => .error (.unsafeCharacter ':')
    | .cell c => do
      let x ← cellNumber lookup (c.key (r.sheetFrom sheet))
      return numberText x
  | p => .ok p.text

/-- Every reference replaced by its number. -/
def substituteReferences (text : List Char) : Except FormulaError (List Char) := do
  let texts ← (Reference.Piece.split text).mapM (referenceText lookup sheet)
  return texts.flatten

def isAllowed (c : Char) : Bool :=
  c.isDigit || Text.isBlank c || Arithmetic.isOperator c || c == '(' || c == ')' || c == '.'

def checkAllowed (text : List Char) : Except FormulaError Unit :=
  match text.find? fun c => !isAllowed c with
  | some c => .error (.unsafeCharacter c)
  | none => .ok ()

def evalArithmetic (text : List Char) : Except FormulaError Float := do
  let tokens ← (Arithmetic.tokens text).mapError fun e => .grammar e.toParseError
  let expr ← (Arithmetic.parse tokens).mapError .grammar
  expr.eval.mapError .arithmetic

def evalBody (body : List Char) : Except FormulaError Float := do
  let text ← resolveAggregates lookup sheet body
  let text ← substituteReferences lookup sheet text
  let text := Decimal.pointed text
  checkAllowed text
  evalArithmetic text

/-- The value of a formula or literal, or why it has none. -/
def tryEvaluate (formula : String) : Except FormulaError Value :=
  match body? formula with
  | none => .ok (.literal formula)
  | some body => (evalBody lookup sheet body).map .number

/-- The value of a formula or literal, null if it has none. -/
def evaluate (formula : String) : Value :=
  match tryEvaluate lookup sheet formula with
  | .ok v => v
  | .error _ => .null

end Formula

end Recalc
