import Recalc.Json.Reader
import Recalc.Run

/-!
# Results in JSON

How values, metadata and results are written as JSON, and how a single value is read. A number is
always written as a float.
-/

namespace Recalc

def Value.toJson : Value → Json.Value
  | number n => .number (.float n)
  | text s => .text s
  | null => .null

def Value.ofJson? : Json.Value → Option Value
  | .number n => some (number n.toFloat)
  | .text s => some (text s)
  | .null => some null
  | _ => none

def Value.ofJsonText? (s : String) : Option Value :=
  (Json.Reader.whole (Json.Reader.value Json.Reader.maxLevels) s).toOption.bind ofJson?

def SheetEntry.toJson (e : SheetEntry) : Json.Value :=
  .object [("name", .text e.name), ("file", .text e.file), ("visibility", .text e.visibility)]

def Metadata.toJson (m : Metadata) : Json.Value :=
  .object [("sheets", .array (m.sheets.map SheetEntry.toJson)),
    ("active_sheet", .text m.activeSheet), ("has_model", .bool m.hasModel)]

def Results.toJson (r : Results) : Json.Value :=
  .object (r.toList.map fun (key, v) => (key, v.toJson))

def Outcome.toJson (o : Outcome) : Json.Value :=
  .object [("cells", o.cells.toJson), ("metadata", o.metadata.toJson)]

end Recalc
