import Recalc.Json.Number

/-!
# JSON values and their texts

`Value.compact` writes a value on one line, `Value.pretty` on several with two blanks of
indentation. Floats show their shortest digits and always a point or an exponent; those that are not
finite are written as null.
-/

namespace Recalc.Json

inductive Value
  | null
  | bool (b : Bool)
  | number (n : Number)
  | text (s : String)
  | array (items : List Value)
  | object (fields : List (String × Value))

/-- Positional from `0.00001` up to `10 ^ 16`; a positive exponent shows its sign. -/
def numberLayout : Decimal.Layout where
  tie := .toEven
  withExponent p := p < -5 || 16 ≤ p
  wholeMark := ['.', '0']
  exponentSign := ['+']

def Number.chars : Number → List Char
  | natural n => Decimal.Layout.natDigits n
  | negative n => '-' :: Decimal.Layout.natDigits n
  | float x => if x.isFinite then numberLayout.float x else "null".toList

def literalChar (c : Char) : List Char :=
  match c with
  | '"' => ['\\', '"']
  | '\\' => ['\\', '\\']
  | '\x08' => ['\\', 'b']
  | '\x0c' => ['\\', 'f']
  | '\n' => ['\\', 'n']
  | '\r' => ['\\', 'r']
  | '\t' => ['\\', 't']
  | c =>
    if c.toNat < 0x20 then
      ['\\', 'u', '0', '0'] ++ (if c.toNat < 16 then ['0'] else []) ++ Nat.toDigits 16 c.toNat
    else [c]

def literal (s : String) : List Char :=
  '"' :: s.toList.flatMap literalChar ++ ['"']

namespace Value

/-- Writes parts one behind the other with a comma between them. -/
def joined (separator : List Char) : List (List Char) → List Char
  | [] => []
  | [p] => p
  | p :: ps => p ++ ',' :: separator ++ joined separator ps

mutual

def compactChars : Value → List Char
  | null => "null".toList
  | bool b => (if b then "true" else "false").toList
  | number n => n.chars
  | text s => literal s
  | array items => '[' :: joined [] (compactItems items) ++ [']']
  | object fields => '\x7b' :: joined [] (compactFields fields) ++ ['\x7d']

def compactItems : List Value → List (List Char)
  | [] => []
  | v :: vs => compactChars v :: compactItems vs

def compactFields : List (String × Value) → List (List Char)
  | [] => []
  | (k, v) :: fs => (literal k ++ ':' :: compactChars v) :: compactFields fs

end

/-- A line break and the blanks in front of a line at `depth`. -/
def newline (depth : Nat) : List Char :=
  '\n' :: List.replicate (2 * depth) ' '

/-- Parts on lines of their own between brackets. -/
def block (opening closing : Char) (depth : Nat) (parts : List (List Char)) : List Char :=
  if parts.isEmpty then [opening, closing]
  else opening :: newline (depth + 1) ++ joined (newline (depth + 1)) parts ++ newline depth ++
    [closing]

mutual

def prettyChars (depth : Nat) : Value → List Char
  | array items => block '[' ']' depth (prettyItems (depth + 1) items)
  | object fields => block '\x7b' '\x7d' depth (prettyFields (depth + 1) fields)
  | null => compactChars null
  | bool b => compactChars (bool b)
  | number n => compactChars (number n)
  | text s => compactChars (text s)

def prettyItems (depth : Nat) : List Value → List (List Char)
  | [] => []
  | v :: vs => prettyChars depth v :: prettyItems depth vs

def prettyFields (depth : Nat) : List (String × Value) → List (List Char)
  | [] => []
  | (k, v) :: fs => (literal k ++ [':', ' '] ++ prettyChars depth v) :: prettyFields depth fs

end

def compact (v : Value) : String :=
  String.ofList v.compactChars

def pretty (v : Value) : String :=
  String.ofList (prettyChars 0 v)

/-- Puts a field among fields sorted by name; it replaces one of its name. -/
def insertField (key : String) (v : Value) : List (String × Value) → List (String × Value)
  | [] => [(key, v)]
  | (k, w) :: fs =>
    match compare key k with
    | .lt => (key, v) :: (k, w) :: fs
    | .eq => (key, v) :: fs
    | .gt => (k, w) :: insertField key v fs

def field (fields : List (String × Value)) (key : String) : Value :=
  (fields.lookup key).getD null

end Value

end Recalc.Json
