import Recalc.Files
import Recalc.Json.Reader
import Recalc.Workbook.Basic

/-!
# Exported workbooks

An export is a directory with a manifest, `_workbook.json`, and a file for each sheet that the
manifest lists. Loading never fails: without directory or manifest the workbook is empty, a sheet
whose file cannot be read is left out, and so is a cell whose record has the wrong shape.
-/

namespace Recalc.Export

open Json (Reader)

def manifestName : String :=
  "_workbook.json"

structure Manifest where
  sheets : List SheetEntry := []
  activeSheet : String := ""

def readEntry : Reader SheetEntry :=
  Reader.record
    [.optional "name" Reader.string fun a e => { e with name := a },
      .optional "file" Reader.string fun a e => { e with file := a },
      .optional "visibility" Reader.string fun a e => { e with visibility := a }]
    ⟨"", "", "visible"⟩

def readManifest : Reader Manifest :=
  Reader.record
    [.optional "sheets" (Reader.array readEntry) fun a m => { m with sheets := a },
      .optional "active_sheet" Reader.string fun a m => { m with activeSheet := a }]
    { }

/-- The file of a sheet, its cells by key and not yet converted. -/
structure SheetFile where
  visibility : Option String := none
  dimensions : Option String := none
  cells : Std.ExtTreeMap String Json.Value := ∅

/-- Two levels of nesting stand around a cell's record. -/
def readSheetFile : Reader SheetFile :=
  Reader.record
    [.optional "name" (Reader.nullable Reader.string) fun _ f => f,
      .optional "visibility" (Reader.nullable Reader.string) fun a f => { f with visibility := a },
      .optional "dimensions" (Reader.nullable Reader.string) fun a f => { f with dimensions := a },
      .optional "cells" (Reader.mapping (Reader.value (Reader.maxLevels - 2)))
        fun a f => { f with cells := a }]
    { }

/-- The constant of a stored value. Truth values are one and zero; a list or an object is its
text. -/
def constantOf : Json.Value → Constant
  | .null => .empty
  | .bool b => .number (if b then 1 else 0)
  | .number n => .number n.toFloat
  | .text s => .text s
  | .array items => .text (Json.Value.compact (.array items))
  | .object fields => .text (Json.Value.compact (.object fields))

def textOf? : Json.Value → Option (Option String)
  | .null => some none
  | .text s => some (some s)
  | _ => none

structure CellRecord where
  value : Json.Value
  formula : Option String
  dataType : Option String

/-- The record of a cell: an object whose formula and type are texts or null. -/
def CellRecord.ofJson? : Json.Value → Option CellRecord
  | .object fields =>
    (textOf? (Json.Value.field fields "formula")).bind fun formula =>
      (textOf? (Json.Value.field fields "data_type")).map fun dataType =>
        ⟨Json.Value.field fields "value", formula, dataType⟩
  | _ => none

/-- A cell of type `f` whose formula is not blank is a formula, or a text if no equals sign stands
in front. Any other cell is the constant of its value. -/
def CellRecord.toCell (r : CellRecord) : Cell :=
  match r.formula with
  | some f =>
    if r.dataType = some "f" ∧ Text.trim f.toList ≠ [] then
      (Cell.ofFormula? f).getD (.constant (.text f))
    else .constant (constantOf r.value)
  | none => .constant (constantOf r.value)

/-- The coordinate of a cell's key, blanks around it dropped. -/
def coordinateOf? (key : String) : Option Coordinate :=
  Coordinate.parse? (Text.trim key.toList)

/-- The cells of a sheet file. Keys are taken in order, so of keys that name one coordinate the last
with a sound record counts. -/
def gridOf (cells : Std.ExtTreeMap String Json.Value) : Grid :=
  cells.toList.foldl
    (fun grid (key, json) =>
      match coordinateOf? key, CellRecord.ofJson? json with
      | some c, some r => grid.insert c r.toCell
      | _, _ => grid)
    ∅

/-- The sheet of a file. The manifest has the say on its name, and on its visibility if the file is
silent. -/
def SheetFile.toSheet (f : SheetFile) (e : SheetEntry) : Sheet where
  name := e.name
  visibility := f.visibility.getD e.visibility
  dimensions := f.dimensions.getD ""
  cells := gridOf f.cells

def sheetOf? (files : Files) (directory : String) (e : SheetEntry) : Option Sheet :=
  if e.file.isEmpty then none
  else
    (files.read? (Path.join directory e.file)).bind fun content =>
      (Reader.whole readSheetFile content).toOption.map fun f => f.toSheet e

def manifest? (files : Files) (directory : String) : Option Manifest :=
  if files.isDirectory directory then
    (files.read? (Path.join directory manifestName)).bind fun content =>
      (Reader.whole readManifest content).toOption
  else none

/-- The workbook of a manifest. Of sheets with one name the last that can be read counts. -/
def Manifest.toWorkbook (m : Manifest) (files : Files) (directory : String) : Workbook where
  entries := m.sheets
  activeSheet := m.activeSheet
  contents :=
    m.sheets.foldl
      (fun contents e =>
        match sheetOf? files directory e with
        | some s => contents.insert e.name s
        | none => contents)
      ∅

def load (files : Files) (directory : String) : Workbook :=
  match manifest? files directory with
  | some m => m.toWorkbook files directory
  | none => { }

end Recalc.Export
