import Std.Data.HashSet

/-!
# The distinct texts of a list

`distinct` keeps the first occurrence of each text, in order.
-/

namespace Recalc.Text

/-- The texts that were kept, the last one first, beside the set of them. -/
structure Kept where
  seen : Std.HashSet String := ∅
  reversed : List String := []

/-- Keeps one more text unless it was seen. -/
def Kept.add (k : Kept) (s : String) : Kept :=
  if k.seen.contains s then k else ⟨k.seen.insert s, s :: k.reversed⟩

def distinct (texts : List String) : List String :=
  (texts.foldl Kept.add { }).reversed.reverse

end Recalc.Text
