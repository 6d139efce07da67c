import Recalc.Decimal.Reader
import Recalc.Yaml.Token

/-!
# YAML nodes

The part of YAML that maps are written in: scalars, mappings, and references to the nodes of
anchors. A reference keeps the number of a slot; `Document.target` finds the node that took it.
-/

namespace Recalc.Yaml

inductive Node
  | scalar (style : Style) (tag text : List Char)
  | mapping (entries : List (Node × Node))
  | reference (slot : Nat)

/-- What stands where nothing is written. -/
def Node.nothing : Node :=
  scalar .plain [] []

/-- A node with the nodes that its references stand for. -/
structure Document where
  root : Node
  /-- The nodes with an anchor by their slots; of several in one slot the first counts. -/
  targets : List (Nat × Node)
  /-- The scalars and references, and each mapping twice. -/
  size : Nat

namespace Document

variable (d : Document)

/-- The node itself, or the node that a reference stands for. -/
def target (n : Node) : Node :=
  match n with
  | .reference slot => (d.targets.lookup slot).getD n
  | n => n

/-! ### Scalars -/

/-- The text of a scalar. -/
def text? (n : Node) : Option String :=
  match d.target n with
  | .scalar _ _ s => some (String.ofList s)
  | _ => none

/-- The number that a text stands for: decimal and finite, or a name of infinity or of what is not a
number. -/
def readFloat? (s : List Char) : Option Float :=
  let unsigned :=
    match s with
    | '+' :: r => r
    | r => r
  let name := String.ofList s
  let bare := String.ofList unsigned
  if unsigned.length < s.length ∧ (unsigned.head? = some '+' ∨ unsigned.head? = some '-') then none
  else if bare = ".inf" ∨ bare = ".Inf" ∨ bare = ".INF" then some (1.0 / 0.0)
  else if name = "-.inf" ∨ name = "-.Inf" ∨ name = "-.INF" then some (-1.0 / 0.0)
  else if name = ".nan" ∨ name = ".NaN" ∨ name = ".NAN" then some (0.0 / 0.0)
  else (Decimal.readFloat? unsigned).filter Float.isFinite

def floatTag : List Char :=
  "tag:yaml.org,2002:float".toList

/-- The number that a scalar without quotes stands for, or a literal block with the tag of such
numbers. -/
def float? (n : Node) : Option Float :=
  match d.target n with
  | .scalar .plain _ s => readFloat? s
  | .scalar .literal tag s => if tag = floatTag then readFloat? s else none
  | _ => none

/-! ### Mappings -/

/-- The entries of a mapping; nothing counts as a mapping without entries. -/
def entries? (n : Node) : Option (List (Node × Node)) :=
  match d.target n with
  | .mapping es => some es
  | .scalar .plain _ [] => some []
  | _ => none

/-- A mapping from texts to values of one type, in the order in which it is written. -/
def mapOf? {α : Type} (value : Node → Option α) (n : Node) : Option (List (String × α)) :=
  (d.entries? n).bind fun es => es.mapM fun (k, v) =>
    (d.text? k).bind fun key => (value v).map fun a => (key, a)

/-- How many references are followed in `depth` levels of a node. -/
def followed (n : Node) : (depth : Nat) → Nat
  | 0 => 0
  | depth + 1 =>
    let own :=
      match n with
      | .reference _ => 1
      | _ => 0
    match d.target n with
    | .mapping es =>
      es.foldl (fun count (k, v) => count + followed k depth + followed v depth) own
    | _ => own

/-- How often a document may be followed through its references, for each part of its size. -/
def maxRepetition : Nat :=
  100

/-- Reads the root by a reader of at most three levels: a mapping of mappings of scalars. A document
whose references blow it up is refused. -/
def read? {α : Type} (reader : Document → Node → Option α) : Option α :=
  if d.followed d.root 3 ≤ maxRepetition * d.size then reader d d.root else none

end Document

end Recalc.Yaml
