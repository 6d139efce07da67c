import Mathlib.Data.List.Induction
import Mathlib.Data.List.Nodup
import Recalc.Text.Distinct

/-!
# The distinct texts of a list

`distinct` adds the texts one by one, each unless it is there already (`distinct_concat`). So it
keeps every text once, in the order of their first occurrences (`pairwise_distinct`).
-/

namespace Recalc.Text

/-- The set holds what was kept. -/
def Kept.Consistent (k : Kept) : Prop :=
  ∀ s, k.seen.contains s = true ↔ s ∈ k.reversed

namespace Kept.Consistent
variable {k : Kept}

theorem reversed_add (hk : k.Consistent) (t : String) :
    (k.add t).reversed = if t ∈ k.reversed then k.reversed else t :: k.reversed := by
  rw [Kept.add, if_congr (hk t) rfl rfl]
  split <;> rfl

theorem add (hk : k.Consistent) (t : String) : (k.add t).Consistent := by
  rw [Kept.add]
  split
  · exact hk
  · intro s
    rw [Std.HashSet.contains_insert, Bool.or_eq_true, hk s, beq_iff_eq, List.mem_cons, eq_comm]

end Kept.Consistent

theorem consistent_foldl (texts : List String) : (texts.foldl Kept.add { }).Consistent :=
  List.foldlRecOn texts _ (fun s => by simp) fun _ hk t _ => hk.add t

theorem distinct_concat (texts : List String) (t : String) :
    distinct (texts ++ [t]) =
      if t ∈ distinct texts then distinct texts else distinct texts ++ [t] := by
  rw [distinct, distinct, List.foldl_concat, (consistent_foldl texts).reversed_add]
  simp only [List.mem_reverse]
  split
  · rfl
  · exact List.reverse_cons

theorem mem_distinct {s : String} {texts : List String} : s ∈ distinct texts ↔ s ∈ texts := by
  induction texts using List.reverseRecOn with
  | nil => rfl
  | append_singleton texts t ih =>
    rw [distinct_concat, List.mem_append, List.mem_singleton]
    split
    · rename_i ht
      rw [ih, or_iff_left_of_imp]
      rintro rfl
      exact ih.1 ht
    · rw [List.mem_append, List.mem_singleton, ih]

theorem nodup_distinct (texts : List String) : (distinct texts).Nodup := by
  induction texts using List.reverseRecOn with
  | nil => exact .nil
  | append_singleton texts t ih =>
    rw [distinct_concat]
    split
    · exact ih
    · rename_i ht
      rw [← List.concat_eq_append]
      exact ih.concat ht

/-- The names of the items of a list, each at the first item of this name, keep the order of the
items. -/
theorem pairwise_distinct {α : Type} {R : α → α → Prop} (name : α → String) {items : List α}
    (h : items.Pairwise R) : (distinct (items.map name)).Pairwise fun s t =>
      ∃ a ∈ items, name a = s ∧ ∀ b ∈ items, name b = t → R a b := by
  induction items using List.reverseRecOn with
  | nil => exact .nil
  | append_singleton items c ih =>
    obtain ⟨hitems, -, hlast⟩ := List.pairwise_append.1 h
    have hc : ∀ a ∈ items, R a c := fun a ha => hlast a ha c (List.mem_singleton_self c)
    have hold : (distinct (items.map name)).Pairwise fun s t =>
        ∃ a ∈ items ++ [c], name a = s ∧ ∀ b ∈ items ++ [c], name b = t → R a b := by
      refine (ih hitems).imp fun ⟨a, ha, hs, hb⟩ => ⟨a, List.mem_append_left _ ha, hs, ?_⟩
      intro b hmem ht
      rcases List.mem_append.1 hmem with hmem | hmem
      · exact hb b hmem ht
      · exact List.mem_singleton.1 hmem ▸ hc a ha
    rw [List.map_append, List.map_singleton, distinct_concat]
    split
    · exact hold
    · rename_i hnew
      refine List.pairwise_append.2 ⟨hold, List.pairwise_singleton _ _, fun s hs t ht => ?_⟩
      obtain ⟨a, ha, rfl⟩ := List.mem_map.1 (mem_distinct.1 hs)
      refine ⟨a, List.mem_append_left _ ha, rfl, fun b hmem hb => ?_⟩
      -- the last item is the only one of a new name
      rcases List.mem_append.1 hmem with hmem | hmem
      · rw [List.mem_singleton.1 ht] at hb
        exact absurd (mem_distinct.2 (List.mem_map.2 ⟨b, hmem, hb⟩)) hnew
      · exact List.mem_singleton.1 hmem ▸ hc a ha

end Recalc.Text
