import Recalc.Calculation

/-!
# Comparing results

Two results are the same if they have the same keys with the same values. `differingKeys` finds the
qualified keys that tell several results apart: one of the results has another value there than the
first, or only one of the two has a value.
-/

namespace Recalc

def Value.sameOrMissing : Option Value → Option Value → Bool
  | some a, some b => a.same b
  | none, none => true
  | _, _ => false

namespace Results

def same (r s : Results) : Bool :=
  r.keys == s.keys && r.keys.all fun key => Value.sameOrMissing r[key]? s[key]?

def allKeys (rs : List Results) : List String :=
  (Std.ExtTreeMap.ofList (rs.flatMap fun r => r.toList) compare).keys

/-- The qualified keys at which the first results are not the same as all others. -/
def differingKeys : List Results → List String
  | [] => []
  | r :: rs =>
    (allKeys (r :: rs)).filter fun key =>
      key.toList.contains '!' && rs.any fun s => !Value.sameOrMissing r[key]? s[key]?

end Results

end Recalc
