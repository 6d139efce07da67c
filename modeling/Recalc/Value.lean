import Recalc.Decimal.Layout
import Recalc.Decimal.Reader

/-!
# Values

What a cell holds once it is calculated. A text counts as a number where one is needed if it reads
as one.
-/

namespace Recalc

inductive Value
  | number (n : Float)
  | text (s : String)
  | null
deriving DecidableEq, Repr, Inhabited

namespace Value

def isNull : Value → Bool
  | null => true
  | _ => false

/-- The number that a reference or an aggregate sees. -/
def asNumber? : Value → Option Float
  | number n => some n
  | text s => Decimal.readNumber? s
  | null => none

/-- The value of a text that is no formula. -/
def literal (s : String) : Value :=
  match Decimal.readNumber? s with
  | some n => number n
  | none => text s

/-- The form for people; a zero shows no sign. -/
def display : Value → String
  | number n => if n == 0 then "0" else Decimal.plainText n
  | text s => s
  | null => "null"

/-- Equality of values, numbers as floats: both zeros are equal, what is not a number differs from
itself. -/
def same : Value → Value → Bool
  | number a, number b => a == b
  | text a, text b => a == b
  | null, null => true
  | _, _ => false

end Value

end Recalc
