import Recalc.Console.Page
import Recalc.Export
import Recalc.Interchange
import Recalc.Reference.Scan

/-!
# Sheets and dependencies

Two pages about a model as it stands: the sheets of an export, and the cells that a formula reads
with their values.
-/

namespace Recalc.Console

def sheetLine (active : String) (e : SheetEntry) : String :=
  "   " ++ left 24 e.name ++ " " ++ left 12 e.visibility ++ " " ++ e.file ++
    (if e.name == active then " (active)" else "")

/-- The sheets of an export, as text or as JSON. -/
def model (files : Files) (directory : String) (json : Bool) : Page :=
  let m := Metadata.ofWorkbook (Export.load files directory)
  if json then ⟨[m.toJson.pretty], none⟩
  else
    Page.below ["📚 Calc Model - Model", "   Export: " ++ directory, ""] <|
      if m.hasModel then
        ⟨"📋 Sheets:" :: m.sheets.map (sheetLine m.activeSheet) ++ ["", "✅ Model loaded"], none⟩
      else ⟨["⚠️  No model found (" ++ Export.manifestName ++ " missing or empty)"], none⟩

def readLine (cells : Results) (key : String) : String :=
  "   " ++ left 24 key ++ " = " ++ (cells[key]?.map Value.display).getD "-"

/-- The formula of a cell and the cells that it reads. -/
def formulaLines (w : Workbook) (sheet own formula : String) : List String :=
  let cells := (w.run ∅).1.cells
  let keys := Reference.dependencies formula sheet
  let reads := if keys.isEmpty then ["   No cell references"] else keys.map (readLine cells)
  let result := cells[own]?.map fun v => ["", "   Result: " ++ v.display]
  ["   Formula: " ++ formula, "", "🌳 Reads:"] ++ reads ++ result.getD []

def dependencies (files : Files) (directory key : String) : Page :=
  let w := Export.load files directory
  match w.cell? key with
  | none => .failed (.unknownCell key)
  | some (sheet, c, cell) =>
    let own := sheet ++ "!" ++ c.label
    Page.below ["🔍 Calc Model - Dependencies", "   Cell: " ++ own, ""] <|
      match cell.formula? with
      | none => ⟨["   No dependencies (constant)"], none⟩
      | some f => ⟨formulaLines w sheet own f, none⟩

end Recalc.Console
