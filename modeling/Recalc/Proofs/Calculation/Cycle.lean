import Mathlib.Data.List.Nodup
import Mathlib.Logic.Relation
import Recalc.Proofs.Calculation.Solution

/-!
# Cycles

A formula reads a cell if its text refers to the cell once the aggregates are replaced. A cell that
is on a cycle of formula cells that read one another, or reads one that is, directly or not, is left
null (`Finished.lookup_of_cyclic`): of a set of cells each of which reads another one of the set,
none can be the first to be resolved.
-/

namespace Recalc.Calculation

/-- Once its aggregates are replaced, if they can be, the text of the formula refers to the cell. -/
def ReadsCell (sheet : String) (l : Lookup) (formula : String) (c : Coordinate) : Prop :=
  ∃ body, Formula.body? formula = some body ∧
    ∀ text, Formula.resolveAggregates l sheet body = .ok text →
      ∃ r ∈ Reference.all text, ∃ d, r.target = .cell d ∧ d.key (r.sheetFrom sheet) = c.key sheet

/-- The formula of one pending cell reads another one. -/
def Reads (sheet : String) (pending : List Pending) (start : Results) (c d : Coordinate) : Prop :=
  (∃ f, (c, f) ∈ pending ∧ ReadsCell sheet start.lookup f d) ∧ ∃ f, (d, f) ∈ pending

/-- A cell is on a cycle, or reads one that is, directly or by way of others. -/
def Cyclic (sheet : String) (pending : List Pending) (start : Results) (c : Coordinate) : Prop :=
  ∃ d, Relation.ReflTransGen (Reads sheet pending start) c d ∧
    Relation.TransGen (Reads sheet pending start) d d

variable {sheet : String} {isDefault : Bool} {pending : List Pending} {start : Results}

/-- Each cell that a cycle can be reached from reads another such cell. -/
theorem Cyclic.exists_reads {c : Coordinate} (h : Cyclic sheet pending start c) :
    ∃ d, Reads sheet pending start c d ∧ Cyclic sheet pending start d := by
  obtain ⟨e, hce, hee⟩ := h
  rcases Relation.ReflTransGen.cases_head hce with rfl | ⟨d, hcd, hde⟩
  · obtain ⟨d, hcd, hdc⟩ := Relation.TransGen.head'_iff.1 hee
    exact ⟨d, hcd, c, hdc, hee⟩
  · exact ⟨d, hcd, e, hde, hee⟩

/-! ## Formulas that read what is not known -/

theorem mapM_ne_ok {ε α β : Type} {f : α → Except ε β} {as : List α} {a : α} (ha : a ∈ as)
    {e : ε} (hf : f a = .error e) (bs : List β) : as.mapM f ≠ .ok bs := by
  intro h
  induction as generalizing bs with
  | nil => cases ha
  | cons b as ih =>
    obtain ⟨c, cs, hb, hcs, -⟩ := Formula.mapM_cons_eq_ok_iff.1 h
    rcases List.mem_cons.1 ha with rfl | ha
    · rw [hf] at hb
      cases hb
    · exact ih ha cs hcs

theorem substituteReferences_ne_ok {l : Lookup} {text : List Char} {r : Reference}
    (hr : r ∈ Reference.all text) {d : Coordinate} (hd : r.target = .cell d)
    (hl : l (d.key (r.sheetFrom sheet)) = none) (t : List Char) :
    Formula.substituteReferences l sheet text ≠ .ok t := by
  obtain ⟨p, hp, hpr⟩ := List.mem_filterMap.1 hr
  have herror : Formula.referenceText l sheet p =
      .error (.unresolved (d.key (r.sheetFrom sheet))) := by
    cases p with
    | gap c => cases hpr
    | found r' t' =>
      cases hpr
      rw [Formula.referenceText, hd]
      simp only [Formula.cellNumber, hl]
      rfl
  intro ht
  obtain ⟨ts, hts, -⟩ := Formula.bind_eq_ok_iff.1 ht
  exact mapM_ne_ok hp herror ts hts

/-- A formula that reads a cell of which nothing is known is null. -/
theorem ReadsCell.evaluate_eq_null {l l' : Lookup} {formula : String} {c : Coordinate}
    (h : ReadsCell sheet l formula c)
    (hk : ∀ k ∈ Formula.aggregateKeys sheet formula,
      Formula.numberAt l k = Formula.numberAt l' k)
    (hl : l' (c.key sheet) = none) : Formula.evaluate l' sheet formula = .null := by
  obtain ⟨body, hb, hreads⟩ := h
  rw [Formula.evaluate, Formula.tryEvaluate, hb]
  have herror : ∀ x, Formula.evalBody l' sheet body ≠ .ok x := by
    intro x hx
    obtain ⟨text, ht, hx⟩ := Formula.bind_eq_ok_iff.1 hx
    obtain ⟨t, hs, -⟩ := Formula.bind_eq_ok_iff.1 hx
    rw [← Formula.resolveAggregates_congr_of_body? hb hk] at ht
    obtain ⟨r, hr, d, hd, hkey⟩ := hreads text ht
    rw [← hkey] at hl
    exact substituteReferences_ne_ok hr hd hl t hs
  dsimp only
  cases he : Formula.evalBody l' sheet body with
  | error e => rfl
  | ok x => exact absurd he (herror x)

/-! ## Cells that are never resolved -/

/-- None of a set of cells that read one another is resolved. -/
theorem Run.not_mem_of_cyclic {order : List Pending} {r reached : Results}
    (h : Run sheet isDefault r order reached) (hstart : Ready sheet isDefault pending start)
    (hsep : Separate sheet isDefault pending) (hsub : ∀ p ∈ order, p ∈ pending)
    (hother : ∀ key, (∀ p ∈ pending, ¬ IsKeyOf sheet isDefault p.1 key) →
      r.lookup key = start.lookup key)
    (hunknown : ∀ p ∈ pending, Cyclic sheet pending start p.1 →
      r.lookup (p.1.key sheet) = none) :
    ∀ p ∈ order, ¬ Cyclic sheet pending start p.1 := by
  induction h with
  | nil r => intro p hp; cases hp
  | @cons r reached c f rest hv h ih =>
    have hc : (c, f) ∈ pending := hsub _ (List.mem_cons_self ..)
    have hnot : ¬ Cyclic sheet pending start c := by
      intro hcyclic
      obtain ⟨d, ⟨⟨f', hf', hreads⟩, g, hg⟩, hd⟩ := hcyclic.exists_reads
      obtain rfl : f' = f :=
        congrArg Prod.snd (List.inj_on_of_nodup_map hstart.nodup hf' hc rfl)
      refine hv (hreads.evaluate_eq_null (fun k hk => ?_) (hunknown (d, g) hg hd))
      exact (Formula.numberAt_eq (hother k (hsep _ hc k hk))).symm
    intro p hp
    rcases List.mem_cons.1 hp with rfl | hp
    · exact hnot
    · refine ih (fun q hq => hsub q (List.mem_cons_of_mem _ hq)) ?_ ?_ p hp
      · intro key hk
        rw [Results.lookup_write_of_not_isKeyOf _ _ (hk _ hc)]
        exact hother key hk
      · intro q hq hcyclic
        rw [Results.lookup_write_of_not_isKeyOf]
        · exact hunknown q hq hcyclic
        · intro hk
          have heq : c = q.1 := hk.unique (hstart.positive _ hc)
            (hstart.positive q hq) (IsKeyOf.self sheet isDefault q.1)
          exact hnot (heq ▸ hcyclic)

/-- A cell that a cycle can be reached from is left null. -/
theorem Finished.lookup_of_cyclic {order still : List Pending} {reached : Results}
    (h : Finished sheet isDefault pending start order still reached)
    (hsep : Separate sheet isDefault pending) {p : Pending} (hp : p ∈ pending)
    (hc : Cyclic sheet pending start p.1) :
    (settle sheet isDefault still reached).lookup (p.1.key sheet) = some .null := by
  have hself := IsKeyOf.self sheet isDefault p.1
  rcases List.mem_append.1 (h.perm.mem_iff.2 hp) with ho | hs
  · have hnot := h.run.not_mem_of_cyclic h.ready hsep
      (fun q hq => h.perm.mem_iff.1 (List.mem_append_left _ hq)) (fun _ _ => rfl)
      fun q hq _ => h.ready.fresh q hq _ (IsKeyOf.self sheet isDefault q.1)
    exact absurd hc (hnot p ho)
  · exact h.lookup_still hs hself

end Recalc.Calculation
