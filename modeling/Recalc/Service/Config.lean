import Recalc.CommandLine.Command
import Recalc.Service.Address

/-!
# The configuration of the service

Where the service listens and which export it serves, as told by its options and the environment.
-/

namespace Recalc.Service

def version : String :=
  "0.3.0"

structure Config where
  host : String := "127.0.0.1"
  port : UInt16 := 8080
  directory : String := CommandLine.defaultDirectory
deriving DecidableEq, Repr

namespace Config

open CommandLine (Switch Grammar Stop)

def hostSwitch : Switch :=
  ⟨"host", some 'H', .set .text, some "CALC_MODEL_HOST"⟩

def portSwitch : Switch :=
  ⟨"port", some 'p', .set .port, some "CALC_MODEL_PORT"⟩

def grammar : Grammar where
  switches := [hostSwitch, portSwitch, .directory, .help, .version]

def read (environment : String → Option String) (words : List String) : Except Stop Config := do
  let (given, _) ← grammar.read { } words
  let given ← grammar.finish given
  let found ← grammar.fromEnvironment environment given
  let value? (s : Switch) : Option String := (given.value? s).or (found.value? s)
  let start : Config := { }
  return {
    host := (value? hostSwitch).getD start.host
    port := ((value? portSwitch).bind Address.readPort?).getD start.port
    directory := (value? .directory).getD start.directory }

/-- The address where the service listens. -/
def address (c : Config) : String :=
  Address.ofHost c.host c.port

def hasAddress (c : Config) : Bool :=
  Address.isAddress c.address.toList

end Config

end Recalc.Service
