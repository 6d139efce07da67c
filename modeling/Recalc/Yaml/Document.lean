import Recalc.Yaml.Layout
import Recalc.Yaml.Node

/-!
# Reading YAML documents

`Document.parse?` reads a text with one document. Properties, an anchor and a tag, may stand in
front of a node or instead of one. A reference stands for a node whose anchor is written before it.
-/

namespace Recalc.Yaml

/-- The tokens that follow, and what those before them have settled. -/
structure Reading where
  rest : List Token
  /-- What the handles of tags stand for; the first of a name counts. -/
  handles : List (List Char × List Char) := []
  /-- The slots of the anchors' names, each name once. -/
  names : List (List Char × Nat) := []
  /-- The slots in the order in which they were taken, the last one first. -/
  taken : List Nat := []
  /-- The nodes with an anchor, by how many slots were taken before. -/
  nodes : List (Nat × Node) := []
  size : Nat := 0

namespace Reading

variable (s : Reading)

/-- Behind tokens that leave `rest`, with `n` parts more. -/
def behind (rest : List Token) (n : Nat) : Reading :=
  { s with rest, size := s.size + n }

/-- Takes the slot of an anchor for the node that starts. Slots are numbered by how many names are
known. A name that is given again takes a new slot and adds no name, so that the next new name takes
that slot as well. -/
def take (name : List Char) : Reading :=
  let slot := s.names.length
  { s with
    names := (name, slot) :: s.names.filter (·.1 != name)
    taken := slot :: s.taken }

/-- The node of each slot that was taken, the last one first. -/
def targets : List (Nat × Node) :=
  go s.taken
where
  go : List Nat → List (Nat × Node)
    | [] => []
    | slot :: earlier =>
      match s.nodes.lookup earlier.length with
      | some n => (slot, n) :: go earlier
      | none => go earlier

/-! ### Properties -/

structure Properties where
  anchor : Option (List Char) := none
  /-- Empty without a tag. -/
  tag : List Char := []

/-- A tag in full. A handle has to be known. -/
def fullTag? (handle rest : List Char) : Option (List Char) :=
  if handle.isEmpty then some rest else (s.handles.lookup handle).map (· ++ rest)

/-- The anchor and the tag that stand here, in either order. -/
def properties? : Option (Properties × List Token) :=
  match s.rest with
  | .anchor name :: .tag handle rest :: r
  | .tag handle rest :: .anchor name :: r =>
    (s.fullTag? handle rest).map fun tag => (⟨some name, tag⟩, r)
  | .anchor name :: r => some (⟨some name, []⟩, r)
  | .tag handle rest :: r => (s.fullTag? handle rest).map fun tag => (⟨none, tag⟩, r)
  | r => some (⟨none, []⟩, r)

/-- The node that has been read, entered for its anchor; `start` is the reading at its start. -/
def finish (start : Reading) (p : Properties) (n : Node) (s : Reading) : Node × Reading :=
  match p.anchor with
  | some _ => (n, { s with nodes := (start.taken.length, n) :: s.nodes })
  | none => (n, s)

/-! ### Nodes -/

/-- A token that ends a key or a value of a mapping by indentation where nothing is written. -/
def endsBlock (t : Token) : Bool :=
  t == .key || t == .value || t == .blockEnd

/-- A token that ends a key or a value between braces where nothing is written. -/
def endsFlow (t : Token) : Bool :=
  t == .value || t == .comma || t == .braceClose

mutual

/-- The node that starts here. -/
def node? (s : Reading) : (fuel : Nat) → Option (Node × Reading)
  | 0 => none
  | fuel + 1 =>
    match s.rest with
    | .reference name :: r => (s.names.lookup name).map fun slot => (.reference slot, s.behind r 1)
    | _ => do
      let (p, r) ← s.properties?
      let next := p.anchor.elim s s.take
      let (n, next) ←
        match r with
        | .scalar style text :: r => some (.scalar style p.tag text, next.behind r 1)
        | .braceOpen :: r => flowEntries? (next.behind r 2) [] fuel
        | .blockStart :: r => blockEntries? (next.behind r 2) [] fuel
        | r =>
          if p.anchor.isSome || !p.tag.isEmpty then
            some (.scalar .plain p.tag [], next.behind r 1)
          else none
      return finish s p n next

/-- The node that starts here, or nothing if a token stands here that ends it. -/
def nodeOr? (ends : Token → Bool) (s : Reading) : (fuel : Nat) → Option (Node × Reading)
  | 0 => none
  | fuel + 1 =>
    if s.rest.head?.any ends then some (.nothing, s.behind s.rest 1) else node? s fuel

/-- The value behind its mark, or nothing without one. -/
def value? (ends : Token → Bool) (s : Reading) : (fuel : Nat) → Option (Node × Reading)
  | 0 => none
  | fuel + 1 =>
    match s.rest with
    | .value :: r => nodeOr? ends { s with rest := r } fuel
    | r => some (.nothing, s.behind r 1)

/-- The entries of a mapping by indentation. -/
def blockEntries? (s : Reading) (entries : List (Node × Node)) : (fuel : Nat) →
    Option (Node × Reading)
  | 0 => none
  | fuel + 1 =>
    match s.rest with
    | .key :: r => do
      let (key, s) ← nodeOr? endsBlock { s with rest := r } fuel
      let (value, s) ← value? endsBlock s fuel
      blockEntries? s ((key, value) :: entries) fuel
    | .blockEnd :: r => some (.mapping entries.reverse, { s with rest := r })
    | _ => none

/-- The entries of a mapping between braces, with the commas between them. -/
def flowEntries? (s : Reading) (entries : List (Node × Node)) : (fuel : Nat) →
    Option (Node × Reading)
  | 0 => none
  | fuel + 1 =>
    match s.rest with
    | .braceClose :: r => some (.mapping entries.reverse, { s with rest := r })
    | _ => do
      let (key, value, s) ←
        match s.rest with
        | .key :: r => do
          let (key, s) ← nodeOr? endsFlow { s with rest := r } fuel
          let (value, s) ← value? (fun t => t == .comma || t == .braceClose) s fuel
          some (key, value, s)
        | _ => do
          let (key, s) ← node? s fuel
          some (key, .nothing, s.behind s.rest 1)
      let entries := (key, value) :: entries
      match s.rest with
      | .comma :: r => flowEntries? { s with rest := r } entries fuel
      | .braceClose :: _ => flowEntries? s entries fuel
      | _ => none

end

/-! ### Documents -/

/-- The handles that are known without a directive. -/
def commonHandles : List (List Char × List Char) :=
  [(['!'], ['!']), (['!', '!'], "tag:yaml.org,2002:".toList)]

/-- Takes the directives in front of a document, and tells whether there are any. A version comes at
most once, and is one of two; a handle is defined at most once. -/
def directives? (handles : List (List Char × List Char)) (versioned : Bool) :
    List Token → Option (List (List Char × List Char) × List Token)
  | .version major minor :: r =>
    if versioned || major != 1 || !(minor == 1 || minor == 2) then none
    else directives? handles true r
  | .handle name start :: r =>
    if (handles.lookup name).isSome then none
    else directives? (handles ++ [(name, start)]) versioned r
  | r => some (handles, r)

/-- Where the document's node starts, and whether the mark of a document is in front of it. The mark
may be left out if no directive stands there. -/
def start? (tokens : List Token) : Option (Reading × Bool) := do
  let (handles, r) ← directives? [] false tokens
  let handles := handles ++ commonHandles
  match r with
  | .documentStart :: r => return ({ rest := r, handles }, true)
  | _ => if r.length = tokens.length then return ({ rest := r, handles }, false) else none

/-- A token that follows a document without a node. -/
def endsDocument (t : Token) : Bool :=
  t == .documentStart || t == .documentEnd || (t matches .version .. | .handle ..)

end Reading

/-- The document of a text, which has one. A text with nothing but blanks and comments stands for
nothing. -/
def Document.ofTokens? (tokens : List Token) : Option Document := do
  if tokens.isEmpty then return ⟨.nothing, [], 1⟩
  let (start, marked) ← Reading.start? tokens
  let (root, s) ←
    if marked && start.rest.head?.all Reading.endsDocument then
      some (.nothing, start.behind start.rest 1)
    else start.node? (5 * tokens.length + 5)
  if s.rest.all (· == .documentEnd) then return ⟨root, s.targets, s.size⟩ else none

def Document.parse? (text : List Char) : Option Document :=
  (Token.ofText? text).bind ofTokens?

end Recalc.Yaml
