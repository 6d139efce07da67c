import Recalc.Text.Split

/-!
# Files

`Files` tells what stands at a path. `Folder` is a set of files kept in memory; `Folder.find?`
follows a path through it from the working directory, where every step but the last has to be a
directory.
-/

namespace Recalc

/-- What stands at a path: a directory, a file with text, or a file that is no text. -/
inductive Found
  | directory
  | text (content : String)
  | bytes
deriving DecidableEq, Repr

abbrev Files := String → Option Found

namespace Files

def isDirectory (files : Files) (path : String) : Bool :=
  files path == some .directory

def read? (files : Files) (path : String) : Option String :=
  match files path with
  | some (.text content) => some content
  | _ => none

end Files

namespace Path

/-- The path of a file as seen from a directory; a path from the root stays. -/
def join (directory file : String) : String :=
  if file.startsWith "/" then file
  else if directory.endsWith "/" then directory ++ file
  else directory ++ "/" ++ file

def steps (path : String) : List String :=
  (Text.parts '/' path).filter fun step => step != "" && step != "."

/-- What stands behind the last point of the last step, unless the point comes first. -/
def extension? (path : String) : Option String :=
  (steps path).getLast?.bind fun name =>
    if name = ".." then none
    else
      (Text.splitLast? '.' name.toList).bind fun (stem, extension) =>
        if stem.isEmpty then none else some (String.ofList extension)

end Path

/-- Files by the steps of their paths from the working directory. -/
structure Folder where
  entries : List (List String × Found)

namespace Folder

def empty : Folder :=
  ⟨[]⟩

/-- Puts a file or directory at a path, with the directories above it. -/
def insert (folder : Folder) (path : List String) (found : Found) : Folder :=
  let above := (List.range path.length).map fun n => (path.take n, Found.directory)
  ⟨(path, found) :: above ++ folder.entries⟩

/-- What stands at the end of these steps; the working directory is always there. -/
def at? (folder : Folder) (steps : List String) : Option Found :=
  if steps.isEmpty then some .directory else folder.entries.lookup steps

/-- Follows steps from a place. -/
def follow? (folder : Folder) : (place steps : List String) → Option Found
  | place, [] => folder.at? place
  | place, step :: steps =>
    if folder.at? place = some .directory then
      if step = ".." then
        if place.isEmpty then none else folder.follow? place.dropLast steps
      else folder.follow? (place ++ [step]) steps
    else none

/-- Whether a path can only lead to a directory: its last step is empty or stays where it is. -/
def endsInDirectory (path : String) : Bool :=
  (Text.parts '/' path).getLast?.any fun step => step == "" || step == "."

/-- What a path leads to. -/
def find? (folder : Folder) : Files := fun path =>
  if path.isEmpty || path.startsWith "/" then none
  else
    (folder.follow? [] (Path.steps path)).filter fun found =>
      !endsInDirectory path || found == .directory

end Folder

end Recalc
