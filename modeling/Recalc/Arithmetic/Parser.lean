import Recalc.Arithmetic.Token
import Recalc.Arithmetic.Expr

/-!
# From tokens to expressions

Signs bind tightest, then `*` and `/`, then `+` and `-`; operators of one strength group to the
left. Each sign and each opening parenthesis uses up one level of a nesting budget, on which the
parser recurses, and no tree may grow higher than `maxHeight`.
-/

namespace Recalc.Arithmetic

/-- The most parentheses and signs that may stand around a number. -/
def maxNesting : Nat := 256

/-- The most levels that an expression may have. -/
def maxHeight : Nat := 1024

/-- Why tokens are no expression. -/
inductive ParseFault
  | empty
  | trailing (token : Token)
  | nestedTooDeep
  | tooHigh
  | unclosed
  | unexpected (token : Token)
  | endOfTokens
  | token (fault : TokenFault)
deriving DecidableEq, Repr

def ParseFault.message : ParseFault → String
  | empty => "Empty expression"
  | trailing t => "Unexpected token after expression: Some(" ++ t.debug ++ ")"
  | nestedTooDeep => "Expression nested deeper than " ++ toString maxNesting ++ " levels"
  | tooHigh => "Expression has more than " ++ toString maxHeight ++ " levels"
  | unclosed => "Expected ')' after expression"
  | unexpected t => "Unexpected token: " ++ t.debug
  | endOfTokens => "Unexpected end of expression"
  | token f => f.message

/-- A fault and its place: the tokens before it, or the characters before a faulty token. -/
structure ParseError where
  position : Nat
  fault : ParseFault
deriving DecidableEq, Repr

def ParseError.message (e : ParseError) : String :=
  "Parse error at position " ++ toString e.position ++ ": " ++ e.fault.message

def TokenError.toParseError (e : TokenError) : ParseError :=
  ⟨e.position, .token e.fault⟩

/-- A fault with the number of tokens that had not been read. -/
structure Stop where
  unread : Nat
  fault : ParseFault
deriving DecidableEq, Repr

/-- An expression read from the front of a token list, and the tokens behind it. -/
abbrev Reading := Except Stop (Expr × List Token)

def stop {α : Type} (rest : List Token) (fault : ParseFault) : Except Stop α :=
  .error ⟨rest.length, fault⟩

def grown (e : Expr) (rest : List Token) : Reading :=
  if maxHeight < e.height then stop rest .tooHigh else .ok (e, rest)

def isAdditive (c : Char) : Bool :=
  c == '+' || c == '-'

def isMultiplicative (c : Char) : Bool :=
  c == '*' || c == '/'

/-- As many operators of one strength as follow `left`, each with an operand. Every round reads at
least one token, so `fuel` is the number of tokens. -/
def chainFrom (op : Char → Bool) (operand : List Token → Reading) :
    Nat → Expr → List Token → Reading
  | fuel + 1, left, .operator c :: rest =>
    if op c then
      match operand rest with
      | .ok (right, rest) =>
        match grown (.binary c left right) rest with
        | .ok (e, rest) => chainFrom op operand fuel e rest
        | .error e => .error e
      | .error e => .error e
    else .ok (left, .operator c :: rest)
  | _, left, rest => .ok (left, rest)

def chain (op : Char → Bool) (operand : List Token → Reading) (tokens : List Token) : Reading :=
  match operand tokens with
  | .ok (left, rest) => chainFrom op operand rest.length left rest
  | .error e => .error e

/-- Sums of products of what `unary` reads. -/
def sum (unary : List Token → Reading) : List Token → Reading :=
  chain isAdditive (chain isMultiplicative unary)

/-- A signed number or parenthesis, with `budget` levels of nesting left. -/
def unary : (budget : Nat) → List Token → Reading
  | _, [] => stop [] .endOfTokens
  | _, .number n :: rest => .ok (.number n, rest)
  | _, .closeParen :: rest => stop (.closeParen :: rest) (.unexpected .closeParen)
  | budget, .operator c :: rest =>
    if isAdditive c then
      match budget with
      | 0 => stop rest .nestedTooDeep
      | budget + 1 =>
        match unary budget rest with
        | .ok (e, rest) => grown (.unary c e) rest
        | .error e => .error e
    else stop (.operator c :: rest) (.unexpected (.operator c))
  | 0, .openParen :: rest => stop rest .nestedTooDeep
  | budget + 1, .openParen :: rest =>
    match sum (unary budget) rest with
    | .ok (e, .closeParen :: rest) => .ok (e, rest)
    | .ok (_, rest) => stop rest .unclosed
    | .error e => .error e

def parse (tokens : List Token) : Except ParseError Expr :=
  if tokens.isEmpty then .error ⟨0, .empty⟩
  else
    match sum (unary maxNesting) tokens with
    | .ok (e, []) => .ok e
    | .ok (_, t :: rest) => .error ⟨tokens.length - (rest.length + 1), .trailing t⟩
    | .error s => .error ⟨tokens.length - s.unread, s.fault⟩

end Recalc.Arithmetic
