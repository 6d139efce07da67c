import Recalc.Export
import Recalc.Interchange
import Recalc.Reference.Scan
import Recalc.Service.Config
import Recalc.Service.MediaType
import Recalc.Service.Target

/-!
# Requests and responses

The service answers questions about one export, which it loads anew for each request. An answer is
JSON in an envelope that tells whether the request succeeded and carries an id of its own. Requests
that the service cannot take are refused with a status alone.
-/

namespace Recalc.Service

structure Request where
  method : String
  /-- The path, with a query if there is one, or an absolute address. -/
  target : String
  contentType : Option String := none
  body : String := ""

structure Response where
  status : Nat
  content : Option String := none
deriving DecidableEq, Repr

inductive Endpoint
  | root
  | health
  | version
  | model
  | run
  | deps
deriving DecidableEq, Repr

namespace Endpoint

def all : List Endpoint :=
  [root, health, version, model, run, deps]

def path : Endpoint → String
  | root => "/"
  | health => "/health"
  | version => "/version"
  | model => "/api/v1/model"
  | run => "/api/v1/run"
  | deps => "/api/v1/deps"

def takesBody : Endpoint → Bool
  | run | deps => true
  | _ => false

def method (e : Endpoint) : String :=
  if e.takesBody then "POST" else "GET"

def description : Endpoint → String
  | root => "API documentation"
  | health => "Health check endpoint"
  | version => "Get server version"
  | model => "Sheets in the loaded export"
  | run => "Recalculate with input overrides"
  | deps => "Cells a formula reads"

def toJson (e : Endpoint) : Json.Value :=
  .object [("path", .text e.path), ("method", .text e.method), ("description", .text e.description)]

/-- The endpoint that a target names. -/
def ofTarget? (target : String) : Option Endpoint :=
  (Target.path? target.toList).bind fun path => all.find? fun e => e.path == String.ofList path

end Endpoint

namespace Response

/-- An answer to a request that succeeded. -/
def success (id : String) (data : Json.Value) : Response where
  status := 200
  content :=
    some (Json.Value.object
      [("success", .bool true), ("request_id", .text id), ("data", data)]).compact

def notFound (id message : String) : Response where
  status := 404
  content :=
    some (Json.Value.object
      [("success", .bool false), ("request_id", .text id), ("error", .text message)]).compact

def refused (status : Nat) : Response :=
  ⟨status, none⟩

/-- The status of a body that cannot be read. -/
def ofFault : Json.Fault → Response
  | .malformed => refused 400
  | .mismatched => refused 422

end Response

open Json (Reader)

/-- The overrides of a request for a run; it need not have any. -/
def readRun : Reader Overrides :=
  Reader.record [.optional "inputs" (Reader.mapping Reader.float) fun inputs _ => inputs] ∅

/-- The key of a request for dependencies. -/
def readDeps : Reader String :=
  Reader.record [.mandatory "cell" Reader.string fun key _ => key] ""

/-- What a body starts with. -/
def readBody {α : Type} (read : Reader α) (body : String) : Except Json.Fault α :=
  (read body.toList).map Prod.fst

def rootData : Json.Value :=
  .object [("name", .text "Calc Model API Server"), ("version", .text version),
    ("description", .text "What-if recalculation of an exported spreadsheet model"),
    ("endpoints", .array ((Endpoint.all.filter (· != .root)).map Endpoint.toJson))]

def healthData : Json.Value :=
  .object [("status", .text "healthy"), ("uptime_message", .text "Server is running")]

def versionData : Json.Value :=
  .object [("version", .text version),
    ("features", .array [.text "model", .text "run", .text "deps"])]

/-- The formula of a cell, the cells that it reads, and its value. -/
def depsData? (w : Workbook) (key : String) : Option Json.Value :=
  (w.cell? key).map fun (sheet, c, cell) =>
    let own := c.key sheet
    let formula := cell.formula?
    let reads := (formula.map fun f => Reference.dependencies f sheet).getD []
    let value := (w.run ∅).1.cells[own]?
    .object [("cell", .text own), ("formula", (formula.map Json.Value.text).getD .null),
      ("dependencies", .array (reads.map .text)), ("value", (value.map Value.toJson).getD .null)]

def Endpoint.answer (w : Workbook) (id : String) (e : Endpoint) (body : String) : Response :=
  match e with
  | root => .success id rootData
  | health => .success id healthData
  | version => .success id versionData
  | model => .success id (Metadata.ofWorkbook w).toJson
  | run =>
    match readBody readRun body with
    | .ok overrides => .success id (w.run overrides).1.toJson
    | .error fault => .ofFault fault
  | deps =>
    match readBody readDeps body with
    | .ok key =>
      match depsData? w key with
      | some data => .success id data
      | none => .notFound id "Cell not found"
    | .error fault => .ofFault fault

/-- Answers a request. `OPTIONS` is allowed everywhere, and `HEAD` is `GET` without the text of the
answer. -/
def respond (w : Workbook) (id : String) (r : Request) : Response :=
  if r.method == "OPTIONS" then .refused 200
  else
    match Endpoint.ofTarget? r.target with
    | none => .refused 404
    | some e =>
      if e.takesBody then
        if r.method != "POST" then .refused 405
        else if r.contentType.any MediaType.isJson then e.answer w id r.body
        else .refused 415
      else if r.method == "GET" then e.answer w id r.body
      else if r.method == "HEAD" then
        let response := e.answer w id r.body
        { response with content := response.content.map fun _ => "" }
      else .refused 405

end Recalc.Service
