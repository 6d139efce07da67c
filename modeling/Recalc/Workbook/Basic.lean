import Recalc.Coordinate
import Recalc.Text.Blank
import Recalc.Text.Split
import Recalc.Value

/-!
# Workbooks

A workbook lists its sheets in order and holds the contents of those that were loaded. A cell is
named by a key: a sheet's name (in quotes or not), an exclamation mark and a label, or a label
alone, which names a cell of the default sheet.
-/

namespace Recalc

/-- What a cell holds that is no formula. -/
inductive Constant
  | number (n : Float)
  | text (s : String)
  | empty
deriving DecidableEq, Repr, Inhabited

/-- The value of a constant; its text is read as a literal. -/
def Constant.value : Constant → Value
  | number n => .number n
  | text s => .literal s
  | empty => .null

inductive Cell
  | constant (c : Constant)
  | formula (text : String)
deriving DecidableEq, Repr, Inhabited

namespace Cell

/-- A formula cell of a text that starts with an equals sign, blanks around it dropped. -/
def ofFormula? (text : String) : Option Cell :=
  if (Text.trimStart text.toList).head? = some '=' then some (formula (Text.trimmed text))
  else none

def formula? : Cell → Option String
  | constant _ => none
  | formula f => some f

def constant? : Cell → Option Constant
  | constant c => some c
  | formula _ => none

end Cell

/-- The cells of a sheet, row by row. -/
abbrev Grid := Std.ExtTreeMap Coordinate Cell

structure Sheet where
  name : String
  visibility : String := "visible"
  dimensions : String := ""
  cells : Grid := ∅

namespace Sheet

def set (s : Sheet) (c : Coordinate) (cell : Cell) : Sheet :=
  { s with cells := s.cells.insert c cell }

/-- The constants of a sheet, row by row. -/
def constants (s : Sheet) : List (Coordinate × Constant) :=
  s.cells.toList.filterMap fun (c, cell) => cell.constant?.map fun k => (c, k)

/-- The formulas of a sheet, row by row. -/
def formulas (s : Sheet) : List (Coordinate × String) :=
  s.cells.toList.filterMap fun (c, cell) => cell.formula?.map fun f => (c, f)

end Sheet

/-- A sheet as a workbook lists it. -/
structure SheetEntry where
  name : String
  file : String
  visibility : String
deriving DecidableEq, Repr, Inhabited

structure Workbook where
  /-- The sheets in order, whether they were loaded or not. -/
  entries : List SheetEntry := []
  activeSheet : String := ""
  /-- The loaded sheets by name. -/
  contents : Std.ExtTreeMap String Sheet := ∅

namespace SheetName

/-- Two quotes as one, from the left. -/
def collapseQuotes : List Char → List Char
  | '\'' :: '\'' :: r => '\'' :: collapseQuotes r
  | c :: r => c :: collapseQuotes r
  | [] => []

/-- A name without blanks around it and without the quotes that enclose it. -/
def unquoteChars (name : List Char) : List Char :=
  match Text.trim name with
  | '\'' :: r =>
    if r.getLast? = some '\'' then collapseQuotes r.dropLast else '\'' :: r
  | s => s

def unquote (name : String) : String :=
  String.ofList (unquoteChars name.toList)

end SheetName

namespace Workbook

variable (w : Workbook)

/-- The workbook with one more sheet; the first sheet becomes the active one. -/
def addSheet (s : Sheet) : Workbook where
  entries := w.entries ++ [⟨s.name, "", s.visibility⟩]
  activeSheet := if w.activeSheet.isEmpty then s.name else w.activeSheet
  contents := w.contents.insert s.name s

def hasModel : Bool :=
  !w.contents.isEmpty

/-- The loaded sheets in the order of the entries. -/
def ordered : List Sheet :=
  w.entries.filterMap fun e => w.contents[e.name]?

/-- The sheet whose cells are named by labels alone: the first loaded one. -/
def defaultSheet? : Option String :=
  w.ordered.head?.map Sheet.name

/-- The sheet and the coordinate that a key names. -/
def locate? (key : String) : Option (String × Coordinate) :=
  let place :=
    match Text.splitLast? '!' key.toList with
    | some (name, label) => some (String.ofList (SheetName.unquoteChars name), label)
    | none => w.defaultSheet?.map fun name => (name, key.toList)
  place.bind fun (name, label) =>
    (Coordinate.parse? (Text.trim label)).bind fun c =>
      if w.contents.contains name then some (name, c) else none

/-- The cell that a key names, with its place. -/
def cell? (key : String) : Option (String × Coordinate × Cell) :=
  (w.locate? key).bind fun (name, c) =>
    (w.contents[name]?).bind fun s =>
      (s.cells[c]?).map fun cell => (s.name, c, cell)

end Workbook

/-- What is told about a workbook without its cells. -/
structure Metadata where
  sheets : List SheetEntry
  activeSheet : String
  hasModel : Bool
deriving DecidableEq, Repr

namespace Metadata

def ofWorkbook (w : Workbook) : Metadata :=
  ⟨w.entries, w.activeSheet, w.hasModel⟩

/-- The entries that are shown to users. -/
def visible (m : Metadata) : List SheetEntry :=
  m.sheets.filter fun e => e.visibility == "visible"

end Metadata

end Recalc
