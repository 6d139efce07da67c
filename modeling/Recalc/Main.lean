import Recalc.Program

/-!
# The programs

`main` reads the files that a command needs, runs it, and prints what it shows. Watching looks at
the files again and again, and runs the command anew when one of them has changed. Under the name of
the service, `main` checks the configuration only: requests are answered by `Service.respond`, and a
host has to bring them.
-/

namespace Recalc.Main

open CommandLine (Invocation Command)

/-- What stands at a path on the disk. -/
def look (path : String) : IO (String × Option Found) := do
  let place := (← IO.currentDir) / path
  if ← place.isDir then return (path, some .directory)
  try
    return (path, some (.text (← IO.FS.readFile place)))
  catch _ =>
    return (path, none)

def filesOf (found : List (String × Option Found)) : Files :=
  fun path => (found.lookup path).join

/-- The files that a command may read: first those that it names, then the sheets of the manifest.
-/
def filesFor (i : Invocation) : IO (List (String × Option Found)) := do
  let first := [i.directory, Path.join i.directory Export.manifestName] ++ i.command.file?.toList
  let found ← first.mapM look
  let entries := ((Export.manifest? (filesOf found) i.directory).map Export.Manifest.sheets).getD []
  let sheets ← (entries.map fun e => Path.join i.directory e.file).mapM look
  return found ++ sheets

/-- Milliseconds between two looks at the watched files. -/
def pause : UInt32 :=
  300

def put (text : String) : IO Unit := do
  let output ← IO.getStdout
  output.putStr text
  output.flush

/-- Runs a command anew whenever its files have changed. -/
partial def watch (i : Invocation) (o : Console.RunOptions) (seen : List (String × Option Found)) :
    IO Unit := do
  IO.sleep pause
  let found ← filesFor i
  if found != seen then
    let lines := "" :: "🔄 Change detected" :: Console.Watch.rerun (filesOf found) i.directory o
    put (Console.Page.text ⟨lines, none⟩)
  watch i o found

def finish (e : Exit) : IO UInt32 := do
  put e.output
  IO.eprint e.errors
  return e.status.toUInt32

def environment : IO Program.Environment := do
  let names := ["CALC_MODEL_EXPORT_DIR", "CALC_MODEL_HOST", "CALC_MODEL_PORT"]
  let values ← names.mapM fun name => return (name, ← IO.getEnv name)
  return fun name => (values.lookup name).join

def calculate (settings : Program.Environment) (words : List String) : IO UInt32 := do
  match Invocation.read settings words with
  | .error stop => finish (Program.calculator.stopped stop)
  | .ok i =>
    let found ← filesFor i
    let page := i.page (filesOf found)
    let status ← finish (.ofPage page)
    match i.command, page.failure with
    | .watch o, none =>
      watch i o found
      return status
    | _, _ => return status

def serve (settings : Program.Environment) (words : List String) : IO UInt32 := do
  match Program.serve settings words with
  | .error e => finish e
  | .ok c => finish ⟨1, "", "No host brings requests to " ++ c.address ++ "\n"⟩

end Recalc.Main

def main (words : List String) : IO UInt32 := do
  let settings ← Recalc.Main.environment
  let name := (← IO.appPath).fileName
  if name == some Recalc.Program.service.name then Recalc.Main.serve settings words
  else Recalc.Main.calculate settings words
