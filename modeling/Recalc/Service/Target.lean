/-!
# Targets of requests

A target is a path, `/a/b`, or an absolute address with a scheme and a host, `http://host/a/b`. A
query behind a question mark and a fragment behind a hash are no part of the path.
-/

namespace Recalc.Service.Target

def isSchemeChar (c : Char) : Bool :=
  c.isAlphanum || "+-.~".toList.contains c

/-- A character in front of the path of an absolute address, its query or its fragment. -/
def isHostChar (c : Char) : Bool :=
  c != '/' && c != '?' && c != '#'

/-- What follows the host of an absolute address. -/
def afterHost? (s : List Char) : Option (List Char) :=
  match s.dropWhile isSchemeChar with
  | ':' :: '/' :: '/' :: r =>
    if r.head?.any isHostChar then some (r.dropWhile isHostChar) else none
  | _ => none

/-- A target up to its query or its fragment. -/
def upToQuery (s : List Char) : List Char :=
  s.takeWhile fun c => c != '?' && c != '#'

/-- The path of a target. An absolute address without a path stands for the root. -/
def path? (s : List Char) : Option (List Char) :=
  match s with
  | '/' :: _ => some (upToQuery s)
  | _ =>
    (afterHost? s).map fun r =>
      let path := upToQuery r
      if path.isEmpty then ['/'] else path

end Recalc.Service.Target
