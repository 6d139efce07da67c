import Recalc.Decimal.Layout
import Recalc.Decimal.Reader
import Recalc.Text.Blank

/-!
# Tokens of arithmetic

Numbers, the four operators and parentheses, with blanks between them. A number is a longest run of
digits and points with at least one digit and at most one point.
-/

namespace Recalc.Arithmetic

inductive Token
  | number (n : Float)
  | operator (c : Char)
  | openParen
  | closeParen
deriving DecidableEq, Repr

namespace Token

def debug : Token → String
  | number n => "Number(" ++ Decimal.debugText n ++ ")"
  | operator c => "Operator('" ++ c.toString ++ "')"
  | openParen => "OpenParen"
  | closeParen => "CloseParen"

end Token

inductive TokenFault
  | unexpected (c : Char)
  | badNumber (run : List Char)
deriving DecidableEq, Repr

def TokenFault.message : TokenFault → String
  | unexpected c => "Unexpected character: '" ++ c.toString ++ "'"
  | badNumber run => "Invalid number: " ++ String.ofList run

structure TokenError where
  position : Nat
  fault : TokenFault
deriving DecidableEq, Repr

def TokenError.message (e : TokenError) : String :=
  "Tokenize error at position " ++ toString e.position ++ ": " ++ e.fault.message

def isOperator (c : Char) : Bool :=
  c == '+' || c == '-' || c == '*' || c == '/'

/-- A character of a run that is read as one number. -/
def isNumeric (c : Char) : Bool :=
  c.isDigit || c == '.'

/-- The tokens of a text behind `position` other characters. -/
def tokensFrom (position : Nat) (s : List Char) : Except TokenError (List Token) :=
  match s with
  | [] => .ok []
  | c :: r =>
    if Text.isBlank c then tokensFrom (position + 1) r
    else if c = '(' then (tokensFrom (position + 1) r).map (.openParen :: ·)
    else if c = ')' then (tokensFrom (position + 1) r).map (.closeParen :: ·)
    else if isOperator c then (tokensFrom (position + 1) r).map (.operator c :: ·)
    else if isNumeric c then
      let run := c :: r.takeWhile isNumeric
      match Decimal.read? run with
      | some d =>
        (tokensFrom (position + run.length) (r.dropWhile isNumeric)).map
          (.number (d.toFloat false) :: ·)
      | none => .error ⟨position, .badNumber run⟩
    else .error ⟨position, .unexpected c⟩
termination_by s.length
decreasing_by
  all_goals simp only [List.length_cons]
  all_goals have := (List.dropWhile_sublist isNumeric (l := r)).length_le
  all_goals omega

def tokens (s : List Char) : Except TokenError (List Token) :=
  tokensFrom 0 s

end Recalc.Arithmetic
