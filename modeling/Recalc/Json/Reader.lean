import Std.Data.ExtTreeMap
import Recalc.Json.Value

/-!
# Readers of JSON texts

A reader takes a value of one type from the front of a text. What stands there may be no JSON at all
(`malformed`) or JSON of another shape (`mismatched`); the first fault in the order of the text
counts, and nothing behind it is looked at. Parts that nobody asks for are read by `skip`, which
checks their syntax only.
-/

namespace Recalc.Json

inductive Fault
  | malformed
  | mismatched
deriving DecidableEq, Repr

abbrev Reader (α : Type) := List Char → Except Fault (α × List Char)

def isBlank (c : Char) : Bool :=
  c == ' ' || c == '\n' || c == '\t' || c == '\r'

def skipBlanks (s : List Char) : List Char :=
  s.dropWhile isBlank

namespace Reader

variable {α β σ : Type}

def malformed : Reader α :=
  fun _ => .error .malformed

def map (f : α → β) (read : Reader α) : Reader β :=
  fun s => (read s).map fun (a, rest) => (f a, rest)

/-- A fault if there is nothing, else the value itself. -/
def orMalformed : Option α → Except Fault α
  | some a => .ok a
  | none => .error .malformed

/-! ### Strings -/

/-- An element of a string literal: a character, or a code unit written in hexadecimal. -/
inductive Element
  | char (c : Char)
  | unit (n : Nat)
deriving DecidableEq, Repr

def hexValue? (c : Char) : Option Nat :=
  if c.isDigit then some (c.toNat - '0'.toNat)
  else if 'a' ≤ c ∧ c ≤ 'f' then some (c.toNat - 'a'.toNat + 10)
  else if 'A' ≤ c ∧ c ≤ 'F' then some (c.toNat - 'A'.toNat + 10)
  else none

def unit? (a b c d : Char) : Option Nat := do
  return ((← hexValue? a) * 16 + (← hexValue? b)) * 256 + (← hexValue? c) * 16 + (← hexValue? d)

def escaped? (c : Char) : Option Char :=
  match c with
  | '"' | '\\' | '/' => some c
  | 'b' => some '\x08'
  | 'f' => some '\x0c'
  | 'n' => some '\n'
  | 'r' => some '\r'
  | 't' => some '\t'
  | _ => none

/-- The elements of a literal behind its opening quote, and what follows the closing one. -/
def elements? : List Char → Option (List Element × List Char)
  | [] => none
  | '"' :: s => some ([], s)
  | '\\' :: 'u' :: a :: b :: c :: d :: s => do
    let n ← unit? a b c d
    let (es, rest) ← elements? s
    return (.unit n :: es, rest)
  | '\\' :: e :: s => do
    let c ← escaped? e
    let (es, rest) ← elements? s
    return (.char c :: es, rest)
  | c :: s =>
    if c.toNat < 0x20 ∨ c = '\\' then none
    else (elements? s).map fun (es, rest) => (.char c :: es, rest)

/-- The characters of elements; two surrogate units in a row make one, and alone they make none. -/
def chars? : List Element → Option (List Char)
  | [] => some []
  | .char c :: es => (chars? es).map (c :: ·)
  | .unit n :: es =>
    if n < 0xD800 ∨ 0xDFFF < n then (chars? es).map (Char.ofNat n :: ·)
    else
      match es with
      | .unit m :: es =>
        if n ≤ 0xDBFF ∧ 0xDC00 ≤ m ∧ m ≤ 0xDFFF then
          (chars? es).map (Char.ofNat (0x10000 + (n - 0xD800) * 1024 + (m - 0xDC00)) :: ·)
        else none
      | _ => none

/-- A string literal behind its opening quote. -/
def stringTail : Reader String := fun s => do
  let (es, rest) ← orMalformed (elements? s)
  let cs ← orMalformed (chars? es)
  return (String.ofList cs, rest)

/-! ### Values that do not fit -/

/-- A word that stands for a value. -/
def word (w : String) (a : α) : Reader α := fun s =>
  if w.toList.isPrefixOf s then .ok (a, s.drop w.length) else .error .malformed

/-- The fault of a value that does not fit. A scalar has to be read to know that it is one. -/
def mismatch : Reader α := fun s =>
  match s with
  | '"' :: r => do
    let _ ← stringTail r
    .error .mismatched
  | '[' :: _ | '\x7b' :: _ => .error .mismatched
  | 'n' :: _ => do
    let _ ← word "null" () s
    .error .mismatched
  | 't' :: _ => do
    let _ ← word "true" () s
    .error .mismatched
  | 'f' :: _ => do
    let _ ← word "false" () s
    .error .mismatched
  | s => do
    let (n, _) ← orMalformed (Numeral.scan? s)
    let _ ← orMalformed n.number?
    .error .mismatched

/-! ### Scalars -/

def string : Reader String := fun s =>
  match skipBlanks s with
  | '"' :: r => stringTail r
  | s => mismatch s

def startsNumber (s : List Char) : Bool :=
  s.head?.any fun c => c == '-' || c.isDigit

def number : Reader Number := fun s => do
  let (n, rest) ← orMalformed (Numeral.scan? s)
  return (← orMalformed n.number?, rest)

def float : Reader Float := fun s =>
  let s := skipBlanks s
  if startsNumber s then number.map Number.toFloat s else mismatch s

/-- A value or null. -/
def nullable (read : Reader α) : Reader (Option α) := fun s =>
  match skipBlanks s with
  | 'n' :: r => word "null" none ('n' :: r)
  | s => read.map some s

/-! ### Arrays and objects -/

/-- The start of an array's next item, or what follows the array's end. -/
inductive Next
  | item (s : List Char)
  | finished (rest : List Char)

/-- What comes next in an array: its end, or an item, with a comma in front unless it is the
first. -/
def nextItem (first : Bool) (s : List Char) : Except Fault Next :=
  match skipBlanks s with
  | ']' :: rest => .ok (.finished rest)
  | ',' :: r =>
    if first then .ok (.item (',' :: r))
    else
      match skipBlanks r with
      | [] | ']' :: _ => .error .malformed
      | r => .ok (.item r)
  | [] => .error .malformed
  | s => if first then .ok (.item s) else .error .malformed

/-- What comes next in an object: its end, or a name behind its opening quote. -/
def nextField (first : Bool) (s : List Char) : Except Fault Next :=
  match skipBlanks s with
  | '\x7d' :: rest => .ok (.finished rest)
  | '"' :: r => if first then .ok (.item r) else .error .malformed
  | ',' :: r =>
    if first then .error .malformed
    else
      match skipBlanks r with
      | '"' :: r => .ok (.item r)
      | _ => .error .malformed
  | _ => .error .malformed

def colon (s : List Char) : Except Fault (List Char) :=
  match skipBlanks s with
  | ':' :: r => .ok r
  | _ => .error .malformed

/-- The items of an array behind its bracket, folded into a state. `fuel` bounds their number. -/
def foldItems (read : σ → Reader σ) : (fuel : Nat) → (first : Bool) → σ → Reader σ
  | 0, _, _ => malformed
  | fuel + 1, first, state => fun s => do
    match ← nextItem first s with
    | .finished rest => return (state, rest)
    | .item s =>
      let (state, s) ← read state s
      foldItems read fuel false state s

/-- The fields of an object behind its brace, folded into a state; `read` takes what follows the
opening quote of a name. -/
def foldFields (read : σ → Reader σ) : (fuel : Nat) → (first : Bool) → σ → Reader σ
  | 0, _, _ => malformed
  | fuel + 1, first, state => fun s => do
    match ← nextField first s with
    | .finished rest => return (state, rest)
    | .item s =>
      let (state, s) ← read state s
      foldFields read fuel false state s

def array (read : Reader α) : Reader (List α) := fun s =>
  match skipBlanks s with
  | '[' :: r =>
    (foldItems (fun as s => (read s).map fun (a, rest) => (a :: as, rest)) s.length true [] r).map
      fun (as, rest) => (as.reverse, rest)
  | s => mismatch s

def entry (read : Reader α) : Reader (String × α) := fun s => do
  let (key, s) ← stringTail s
  let (a, rest) ← read (← colon s)
  return ((key, a), rest)

/-- An object of any names and values of one type; a name given twice has its last value. -/
def mapping (read : Reader α) : Reader (Std.ExtTreeMap String α) := fun s =>
  match skipBlanks s with
  | '\x7b' :: r =>
    foldFields (fun m => (entry read).map fun (key, a) => m.insert key a) s.length true ∅ r
  | s => mismatch s

/-! ### Parts that nobody asks for -/

/-- Checks the syntax of a value and drops it; `fuel` bounds how deep its parts are. -/
def skipWith : (fuel : Nat) → Reader Unit
  | 0 => malformed
  | fuel + 1 => fun s =>
    match skipBlanks s with
    | '"' :: r => do
      let (_, rest) ← orMalformed (elements? r)
      return ((), rest)
    | '[' :: r => foldItems (fun _ => skipWith fuel) s.length true () r
    | '\x7b' :: r =>
      let field (r : List Char) : Except Fault (Unit × List Char) := do
        let (_, r) ← orMalformed (elements? r)
        skipWith fuel (← colon r)
      foldFields (fun _ => field) s.length true () r
    | 'n' :: r => word "null" () ('n' :: r)
    | 't' :: r => word "true" () ('t' :: r)
    | 'f' :: r => word "false" () ('f' :: r)
    | r => do
      let (_, rest) ← orMalformed (Numeral.scan? r)
      return ((), rest)

def skip : Reader Unit := fun s =>
  skipWith (s.length + 1) s

/-! ### Any value -/

/-- The deepest nesting of arrays and objects in a text. -/
def maxLevels : Nat :=
  127

/-- A value of any shape whose items and fields are read by `inner`; without it, arrays and objects
are refused. Fields are sorted by name, and a name given twice has its last value. -/
def valueWith (inner : Option (Reader Value)) : Reader Value := fun s =>
  match skipBlanks s with
  | '"' :: r => stringTail.map .text r
  | '[' :: r => do
    let read ← orMalformed inner
    let (vs, rest) ← foldItems (fun vs => read.map (· :: vs)) s.length true [] r
    return (.array vs.reverse, rest)
  | '\x7b' :: r => do
    let read ← orMalformed inner
    let (fs, rest) ←
      foldFields (fun fs => (entry read).map fun (key, v) => Value.insertField key v fs) s.length
        true [] r
    return (.object fs, rest)
  | 'n' :: r => word "null" .null ('n' :: r)
  | 't' :: r => word "true" (.bool true) ('t' :: r)
  | 'f' :: r => word "false" (.bool false) ('f' :: r)
  | r => number.map .number r

/-- A value of any shape with arrays and objects nested no deeper than `levels`. -/
def value : (levels : Nat) → Reader Value
  | 0 => valueWith none
  | levels + 1 => valueWith (some (value levels))

/-! ### Records -/

/-- A field of a record: its name, whether it may be left out, and how its value changes the record
read so far. -/
structure Field (σ : Type) where
  name : String
  required : Bool
  read : σ → Reader σ

/-- A field that may be left out. -/
def Field.optional (name : String) (read : Reader α) (set : α → σ → σ) : Field σ where
  name := name
  required := false
  read state := read.map fun a => set a state

def Field.mandatory (name : String) (read : Reader α) (set : α → σ → σ) : Field σ where
  name := name
  required := true
  read state := read.map fun a => set a state

variable (fields : List (Field σ))

/-- One field of an object: a known one once, any other is skipped. -/
def recordField (state : σ × List String) : Reader (σ × List String) := fun s => do
  let (key, s) ← stringTail s
  match fields.find? fun f => f.name == key with
  | none =>
    let (_, rest) ← skip (← colon s)
    return (state, rest)
  | some f =>
    if state.2.contains key then .error .mismatched
    else
      let (a, rest) ← f.read state.1 (← colon s)
      return ((a, key :: state.2), rest)

/-- The fields of a record as the items of an array, in order. -/
def recordItems : List (Field σ) → (first : Bool) → σ → Reader σ
  | [], first, state => fun s => do
    match ← nextItem first s with
    | .finished rest => return (state, rest)
    | .item _ => .error .malformed
  | f :: fs, first, state => fun s => do
    match ← nextItem first s with
    | .finished _ =>
      if f.required then .error .mismatched else recordItems fs first state s
    | .item s =>
      let (state, s) ← f.read state s
      recordItems fs false state s

/-- A record: an object with its fields, or an array of them in order. -/
def record (start : σ) : Reader σ := fun s =>
  match skipBlanks s with
  | '\x7b' :: r => do
    let ((state, seen), rest) ← foldFields (recordField fields) s.length true (start, []) r
    if fields.all fun f => !f.required || seen.contains f.name then return (state, rest)
    else .error .mismatched
  | '[' :: r => recordItems fields true start r
  | s => mismatch s

/-- A value and nothing behind it. -/
def whole (read : Reader α) (s : String) : Except Fault α := do
  let (a, rest) ← read s.toList
  if (skipBlanks rest).isEmpty then return a else .error .malformed

end Reader

end Recalc.Json
