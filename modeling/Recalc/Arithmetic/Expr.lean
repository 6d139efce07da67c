import Recalc.Decimal.Layout

/-!
# Expressions

Trees of signs and binary operators over numbers, and their value. Evaluation stops at the first
subtree, operands before operators, whose value is not finite or that has no value at all.
-/

namespace Recalc.Arithmetic

inductive Expr
  | number (n : Float)
  | unary (op : Char) (operand : Expr)
  | binary (op : Char) (left right : Expr)
deriving DecidableEq, Repr

/-- Why an expression has no value. -/
inductive EvalFault
  | divisionByZero
  | outOfRange (result : Float)
  | unknownSign (op : Char)
  | unknownOperator (op : Char)
deriving DecidableEq, Repr

namespace EvalFault

def message : EvalFault → String
  | divisionByZero => "Eval error: Division by zero"
  | outOfRange x => "Eval error: Result out of range: " ++ Decimal.plainText x
  | unknownSign c => "Eval error: Unknown unary operator: " ++ c.toString
  | unknownOperator c => "Eval error: Unknown operator: " ++ c.toString

end EvalFault

/-- A result that is finite. -/
def finite (x : Float) : Except EvalFault Float :=
  if x.isFinite then .ok x else .error (.outOfRange x)

def applySign (op : Char) (x : Float) : Except EvalFault Float :=
  if op = '-' then .ok (-x)
  else if op = '+' then .ok x
  else .error (.unknownSign op)

def applyOperator (op : Char) (x y : Float) : Except EvalFault Float :=
  if op = '+' then .ok (x + y)
  else if op = '-' then .ok (x - y)
  else if op = '*' then .ok (x * y)
  else if op = '/' then
    if y == 0 then .error .divisionByZero else .ok (x / y)
  else .error (.unknownOperator op)

namespace Expr

def height : Expr → Nat
  | number _ => 1
  | unary _ e => e.height + 1
  | binary _ l r => max l.height r.height + 1

def eval : Expr → Except EvalFault Float
  | number n => finite n
  | unary op e => do
    let x ← e.eval
    finite (← applySign op x)
  | binary op l r => do
    let x ← l.eval
    let y ← r.eval
    finite (← applyOperator op x y)

end Expr

end Recalc.Arithmetic
