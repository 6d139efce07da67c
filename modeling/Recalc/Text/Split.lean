/-!
# Cutting a text at a character

`splitLast?` cuts at the last occurrence of a separator: what stands before it and what stands
behind it, which holds no further separator. `parts` cuts at every occurrence.
-/

namespace Recalc.Text

/-- The text before and behind the last `sep`. -/
def splitLast? (sep : Char) : List Char → Option (List Char × List Char)
  | [] => none
  | c :: r =>
    match splitLast? sep r with
    | some (a, b) => some (c :: a, b)
    | none => if c = sep then some ([], r) else none

theorem eq_append_of_splitLast? {sep : Char} {s a b : List Char}
    (h : splitLast? sep s = some (a, b)) : s = a ++ sep :: b := by
  induction s generalizing a with
  | nil => simp [splitLast?] at h
  | cons c r ih =>
    rw [splitLast?] at h
    split at h
    · rename_i a' b' hr
      cases h
      simp [ih hr]
    · split at h
      · cases h; simp_all
      · simp at h

theorem splitLast?_eq_none_iff {sep : Char} {s : List Char} :
    splitLast? sep s = none ↔ sep ∉ s := by
  induction s with
  | nil => simp [splitLast?]
  | cons c r ih =>
    rw [splitLast?]
    split
    · rename_i a b hr
      have := eq_append_of_splitLast? hr
      simp [this]
    · rename_i hr
      have := ih.1 hr
      by_cases hc : c = sep
      · simp [hc]
      · simp [hc, this, Ne.symm hc]

theorem not_mem_of_splitLast? {sep : Char} {s a b : List Char}
    (h : splitLast? sep s = some (a, b)) : sep ∉ b := by
  induction s generalizing a with
  | nil => simp [splitLast?] at h
  | cons c r ih =>
    rw [splitLast?] at h
    split at h
    · rename_i a' b' hr
      cases h
      exact ih hr
    · rename_i hr
      split at h
      · cases h
        exact splitLast?_eq_none_iff.1 hr
      · simp at h

theorem splitLast?_append {sep : Char} {a b : List Char} (h : sep ∉ b) :
    splitLast? sep (a ++ sep :: b) = some (a, b) := by
  induction a with
  | nil => simp [splitLast?, splitLast?_eq_none_iff.2 h]
  | cons c r ih => simp [splitLast?, ih]

/-- The texts between the occurrences of `sep`. -/
def parts (sep : Char) (s : String) : List String :=
  (s.toList.splitOn sep).map String.ofList

end Recalc.Text
