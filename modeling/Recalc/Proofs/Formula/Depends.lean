import Recalc.Proofs.Formula.Covered

/-!
# What a formula depends on

A formula depends on a set of keys only if lookups that agree on the set give it the same value. It
is enough that the set holds the keys that the aggregates of the formula cover and those of the
cells that its text refers to once the aggregates are replaced (`dependsOn_of_keys`). On such a set
a key without value and a key that is null are the same (`DependsOn.evaluate_congr`).
-/

namespace Recalc

/-- Two lookups know the same of every key of a set. -/
def AgreeOn (K : Set String) (l l' : Lookup) : Prop :=
  ∀ k ∈ K, l k = l' k

namespace AgreeOn
variable {K : Set String} {l l' l'' : Lookup}

theorem refl (K : Set String) (l : Lookup) : AgreeOn K l l :=
  fun _ _ => rfl

theorem symm (h : AgreeOn K l l') : AgreeOn K l' l :=
  fun k hk => (h k hk).symm

theorem trans (h : AgreeOn K l l') (h' : AgreeOn K l' l'') : AgreeOn K l l'' :=
  fun k hk => (h k hk).trans (h' k hk)

end AgreeOn

namespace Formula
variable {K : Set String} {l l' : Lookup} {sheet : String}

/-- Lookups that agree on the set give the formula the same value. -/
def DependsOn (K : Set String) (sheet formula : String) : Prop :=
  ∀ l l' : Lookup, AgreeOn K l l' → evaluate l sheet formula = evaluate l' sheet formula

theorem DependsOn.mono {K' : Set String} {formula : String} (h : DependsOn K sheet formula)
    (hK : K ⊆ K') : DependsOn K' sheet formula :=
  fun l l' hagree => h l l' fun k hk => hagree k (hK hk)

/-- A formula depends on what its aggregates cover and on the cells that its text refers to. -/
theorem dependsOn_of_keys {formula : String} {body : List Char} (hb : body? formula = some body)
    (ha : ∀ k ∈ aggregateKeys sheet formula, k ∈ K)
    (hr : ∀ l text, resolveAggregates l sheet body = .ok text → ∀ r ∈ Reference.all text,
      ∀ c, r.target = .cell c → c.key (r.sheetFrom sheet) ∈ K) : DependsOn K sheet formula := by
  intro l l' h
  have hnumbers : resolveAggregates l sheet body = resolveAggregates l' sheet body :=
    resolveAggregates_congr_of_body? hb fun k hk => numberAt_eq (h k (ha k hk))
  have hbody : evalBody l sheet body = evalBody l' sheet body := by
    refine evalBody_congr hnumbers fun text ht => substituteReferences_congr fun r hmem c hc => ?_
    rw [cellNumber, cellNumber, h _ (hr l text ht r hmem c hc)]
  rw [evaluate, evaluate, tryEvaluate, tryEvaluate, hb]
  simp only [hbody]

/-- A formula depends on cells of named sheets and of its own sheet only. -/
theorem dependsOn_keysFrom (sheet formula : String) :
    DependsOn (Reference.keysFrom sheet) sheet formula := by
  cases hb : body? formula with
  | none =>
    intro l l' _
    rw [evaluate, evaluate, tryEvaluate, tryEvaluate, hb]
  | some body =>
    refine dependsOn_of_keys hb (fun k hk => mem_keysFrom_of_mem_aggregateKeys hk) ?_
    intro l text _ r hr c _
    exact Reference.key_mem_keysFrom (Reference.sheet_ne_of_mem_all hr) sheet c

/-- Lookups that give the same values on the set give the formula the same value. -/
theorem DependsOn.evaluate_congr {formula : String} (hK : DependsOn K sheet formula)
    (h : ∀ k ∈ K, ∀ v, v ≠ Value.null → (l k = some v ↔ l' k = some v)) :
    evaluate l sheet formula = evaluate l' sheet formula := by
  classical
  -- what is known elsewhere is forgotten first
  let known (l : Lookup) : Lookup := fun k => if k ∈ K then l k else none
  have hknown (l : Lookup) : AgreeOn K l (known l) := fun k hk => (if_pos hk).symm
  have hext {l l' : Lookup} (h : ∀ k ∈ K, ∀ v, v ≠ Value.null → l k = some v → l' k = some v) :
      Extends (known l) (known l') := by
    intro k v hv hk
    by_cases hmem : k ∈ K
    · rw [← hknown l' k hmem]
      exact h k hmem v hv ((hknown l k hmem).trans hk)
    · rw [show known l k = none from if_neg hmem] at hk
      cases hk
  rw [hK l _ (hknown l), hK l' _ (hknown l')]
  exact Formula.evaluate_congr (hext fun k hk v hv => (h k hk v hv).1)
    (hext fun k hk v hv => (h k hk v hv).2) formula

end Formula

end Recalc
