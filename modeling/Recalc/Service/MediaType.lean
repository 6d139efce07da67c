import Recalc.Text.Split

/-!
# Media types

A media type is a type, a subtype and parameters, as the header of a request tells it. `isJson`
accepts those of JSON: `application/json`, and `application` with the suffix `+json`, in either case
of letters.
-/

namespace Recalc.MediaType

/-- A character that a name may hold. -/
def isTokenChar (c : Char) : Bool :=
  c.isAlphanum || "!#$%&'*+-.^_|~".toList.contains c || c == '\x60'

/-- A character that a text in quotes may hold. -/
def isQuotedChar (c : Char) : Bool :=
  c != '\x7f' && ' ' ≤ c && c.toNat < 0x80

/-- The value of a parameter in quotes, behind the opening one; what follows starts the next
parameter. The first character belongs to the value even if it is a quote. -/
def skipQuoted : List Char → Option (List Char)
  | [] => none
  | c :: r =>
    if isQuotedChar c then
      match r.dropWhile fun x => x != '"' && isQuotedChar x with
      | '"' :: rest =>
        match rest.dropWhile (· == ' ') with
        | [] => some []
        | ';' :: rest => some rest
        | _ => none
      | _ => none
    else none

/-- The value of a parameter; what follows starts the next one. -/
def skipValue (s : List Char) : Option (List Char) :=
  match s with
  | '"' :: r => skipQuoted r
  | s =>
    let value := s.takeWhile isTokenChar
    match s.drop value.length with
    | [] => some []
    | ';' :: rest => if value.isEmpty then none else some rest
    | _ => none

/-- Whether a text is a list of parameters; blanks may stand before a name. `fuel` bounds their
number. -/
def areParameters (s : List Char) : (fuel : Nat) → Bool
  | 0 => false
  | fuel + 1 =>
    match s.dropWhile (· == ' ') with
    | [] => true
    | s =>
      let name := s.takeWhile isTokenChar
      match s.drop name.length with
      | '=' :: r => !name.isEmpty && (skipValue r).any fun rest => areParameters rest fuel
      | _ => false

/-- The name of a subtype without its last suffix, and the suffix. A plus sign in front belongs to
the name. -/
def cutSuffix : List Char → List Char × Option (List Char)
  | [] => ([], none)
  | c :: r =>
    match Text.splitLast? '+' r with
    | some (name, suffix) => (c :: name, some suffix)
    | none => (c :: r, none)

def isJson (text : String) : Bool :=
  let s := text.toList.map Char.toLower
  let type := s.takeWhile isTokenChar
  match s.drop type.length with
  | '/' :: r =>
    let whole := r.takeWhile isTokenChar
    let sound :=
      match r.drop whole.length with
      | [] => true
      | ';' :: parameters => !whole.isEmpty && areParameters parameters (parameters.length + 1)
      | _ => false
    let (name, suffix) := cutSuffix whole
    let json := "json".toList
    sound && type == "application".toList && (name == json || suffix == some json)
  | _ => false

end Recalc.MediaType
