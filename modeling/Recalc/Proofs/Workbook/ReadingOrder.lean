import Recalc.Proofs.Formula.Dependencies
import Recalc.Proofs.Workbook.Passes

/-!
# Sheets in reading order

A sheet is laid out in reading order if no formula depends on its own cell or on a formula cell
behind it, row by row. The passes go row by row too, so what the first pass leaves, no later pass
resolves (`stuck_pass`), and what it resolves keeps the value that it was resolved to
(`Sheet.onePass_calculate`).
-/

namespace Recalc

namespace Calculation
variable {sheet : String} {isDefault : Bool} {pending order : List Pending} {p : Pending}
  {r r' : Results}

/-- The keys that no cell of a list is written under. -/
def keysOutside (sheet : String) (isDefault : Bool) (pending : List Pending) : Set String :=
  {k | ∀ p ∈ pending, ¬ IsKeyOf sheet isDefault p.1 k}

/-- No formula of a list depends on its own cell or on one behind it. -/
def InOrder (sheet : String) (isDefault : Bool) : List Pending → Prop
  | [] => True
  | p :: pending => Formula.DependsOn (keysOutside sheet isDefault (p :: pending)) sheet p.2 ∧
      InOrder sheet isDefault pending

theorem Run.agreeOn (h : Run sheet isDefault r order r') (hs : ∀ q ∈ order, q ∈ pending) :
    AgreeOn (keysOutside sheet isDefault pending) r'.lookup r.lookup :=
  fun _ hk => h.lookup_of_not_isKeyOf fun q hq => hk q (hs q hq)

/-- Resolving the cells behind a formula does not change its value. -/
theorem evaluate_pass_of_dependsOn
    (h : Formula.DependsOn (keysOutside sheet isDefault (p :: pending)) sheet p.2) (r : Results) :
    Formula.evaluate (pass sheet isDefault pending r).2.lookup sheet p.2 =
      Formula.evaluate r.lookup sheet p.2 := by
  have hrun := run_pass sheet isDefault pending r
  refine h _ _ (hrun.agreeOn fun q hq => List.mem_cons_of_mem p ?_)
  exact mem_of_mem_passOrder sheet isDefault pending r q hq

/-- A pass in order leaves no cell that has a value. -/
theorem stuck_pass (h : InOrder sheet isDefault pending) (r : Results) :
    Stuck sheet (pass sheet isDefault pending r).1 (pass sheet isDefault pending r).2 := by
  induction pending generalizing r with
  | nil => exact stuck_nil r
  | cons p pending ih =>
    obtain ⟨hp, hrest⟩ := h
    by_cases hv : Formula.evaluate r.lookup sheet p.2 = .null
    · rw [pass_cons_of_eq_null hv]
      intro q hq
      rcases List.mem_cons.1 hq with rfl | hq
      · rw [evaluate_pass_of_dependsOn hp r, hv]
      · exact ih hrest r q hq
    · rw [pass_cons_of_ne_null hv]
      exact ih hrest _

/-- What a pass in order resolves a cell to is what the formula of the cell gives after the pass. -/
theorem lookup_pass_of_inOrder (h : InOrder sheet isDefault pending)
    (hpos : ∀ q ∈ pending, q.1.Positive) (hd : (pending.map Prod.fst).Nodup)
    (hp : p ∈ passOrder sheet isDefault pending r) {key : String}
    (hk : IsKeyOf sheet isDefault p.1 key) :
    (pass sheet isDefault pending r).2.lookup key =
      some (Formula.evaluate (pass sheet isDefault pending r).2.lookup sheet p.2) := by
  induction pending generalizing r with
  | nil => cases hp
  | cons q pending ih =>
    obtain ⟨hq, hrest⟩ := h
    rw [List.map_cons, List.nodup_cons] at hd
    have hpos' : ∀ q ∈ pending, q.1.Positive := fun p hp => hpos p (List.mem_cons_of_mem q hp)
    by_cases hv : Formula.evaluate r.lookup sheet q.2 = .null
    · rw [passOrder_cons_of_eq_null hv] at hp
      rw [pass_cons_of_eq_null hv]
      exact ih hrest hpos' hd.2 hp
    · rw [passOrder_cons_of_ne_null hv] at hp
      rw [pass_cons_of_ne_null hv]
      rcases List.mem_cons.1 hp with rfl | hp
      · generalize hw : Formula.evaluate r.lookup sheet p.2 = v
        -- the cell itself is a key outside of what its formula depends on
        have hwrite : AgreeOn (keysOutside sheet isDefault (p :: pending))
            (r.write sheet isDefault p.1 v).lookup r.lookup := fun k hk =>
          Results.lookup_write_of_not_isKeyOf r v (hk p (List.mem_cons_self ..))
        rw [evaluate_pass_of_dependsOn hq, hq _ _ hwrite, hw,
          (run_pass sheet isDefault pending _).lookup_of_not_isKeyOf,
          Results.lookup_write_of_isKeyOf r v hk]
        intro q hq hkq
        have hmem := mem_of_mem_passOrder sheet isDefault pending _ q hq
        have heq : q.1 = p.1 :=
          hkq.unique (hpos' q hmem) (hpos p (List.mem_cons_self ..)) hk
        exact hd.1 (heq ▸ List.mem_map_of_mem hmem)
      · exact ih hrest hpos' hd.2 hp

variable (isDefault) in
/-- A pass over cells without a value is the last one. -/
theorem exists_iterate_of_stuck {s : State} (h : Stuck sheet s.pending s.results) (limit : Nat) :
    ∃ n ≤ 1, (s.pending = [] → n = 0) ∧
      iterate sheet isDefault limit s = ⟨s.passes + n, s.pending, s.results⟩ := by
  cases limit with
  | zero => exact ⟨0, Nat.zero_le 1, fun _ => rfl, rfl⟩
  | succ limit =>
    by_cases hp : s.pending = []
    · refine ⟨0, Nat.zero_le 1, fun _ => rfl, ?_⟩
      rw [iterate_of_eq_nil hp]
      rfl
    · have hnext : s.next sheet isDefault = ⟨s.passes + 1, s.pending, s.results⟩ := by
        rw [State.next, pass_of_stuck h]
      refine ⟨1, Nat.le_refl 1, fun hnil => absurd hnil hp, ?_⟩
      rw [iterate_succ hp, hnext, if_neg (Nat.lt_irrefl _)]

/-- Over cells in order there is one pass that resolves what can be resolved, and at most one that
finds nothing left to resolve. -/
theorem exists_iterate_of_inOrder {s : State} (h : InOrder sheet isDefault s.pending)
    {limit : Nat} (hl : 0 < limit) :
    ∃ n ≤ 2, ((pass sheet isDefault s.pending s.results).1 = [] → n ≤ 1) ∧
      iterate sheet isDefault limit s = ⟨s.passes + n,
        (pass sheet isDefault s.pending s.results).1,
        (pass sheet isDefault s.pending s.results).2⟩ := by
  obtain ⟨limit, rfl⟩ := Nat.exists_eq_succ_of_ne_zero (Nat.ne_of_gt hl)
  by_cases hp : s.pending = []
  · refine ⟨0, by omega, fun _ => by omega, ?_⟩
    rw [iterate_of_eq_nil hp, hp, pass, ← hp]
    rfl
  · rw [iterate_succ hp]
    split
    · have hstuck : Stuck sheet (s.next sheet isDefault).pending (s.next sheet isDefault).results :=
        stuck_pass h s.results
      obtain ⟨n, hn, hnil, heq⟩ := exists_iterate_of_stuck isDefault hstuck limit
      have hpasses : (s.next sheet isDefault).passes + n = s.passes + (n + 1) :=
        Nat.add_right_comm s.passes 1 n
      refine ⟨n + 1, by omega, fun hempty => ?_, ?_⟩
      · rw [hnil hempty]
      · rw [heq, hpasses]
        rfl
    · exact ⟨1, by omega, fun _ => Nat.le_refl 1, rfl⟩

theorem inOrder_of_pairwise
    (hlt : (pending.map Prod.fst).Pairwise fun c d => compare c d = .lt)
    (h : ∀ p ∈ pending, Formula.DependsOn {k | ∀ q ∈ pending, (compare p.1 q.1).isLE →
      ¬ IsKeyOf sheet isDefault q.1 k} sheet p.2) : InOrder sheet isDefault pending := by
  induction pending with
  | nil => trivial
  | cons p pending ih =>
    obtain ⟨hhead, htail⟩ := List.pairwise_cons.1 hlt
    refine ⟨(h p (List.mem_cons_self ..)).mono ?_, ih htail fun q hq => ?_⟩
    · intro k hk q hq
      refine hk q hq ?_
      rcases List.mem_cons.1 hq with rfl | hq'
      · have hself : compare q.1 q.1 = .eq := Std.ReflCmp.compare_self
        rw [hself]
        rfl
      · rw [hhead q.1 (List.mem_map_of_mem hq')]
        rfl
    · exact (h q (List.mem_cons_of_mem p hq)).mono fun k hk q' hq' =>
        hk q' (List.mem_cons_of_mem p hq')

end Calculation

open Calculation

namespace Sheet
variable {s : Sheet} {isDefault : Bool} {r : Results}

/-- No formula of a sheet depends on its own cell or on a formula cell behind it, row by row. -/
def InReadingOrder (s : Sheet) (isDefault : Bool) : Prop :=
  ∀ p ∈ s.formulas, Formula.DependsOn {k | ∀ q ∈ s.formulas, (compare p.1 q.1).isLE →
    ¬ IsKeyOf s.name isDefault q.1 k} s.name p.2

/-- What the first pass over a sheet leaves, and the results after it. -/
def firstPass (s : Sheet) (isDefault : Bool) (r : Results) : List Pending × Results :=
  pass s.name isDefault s.formulas (s.seeded isDefault r)

theorem exists_last_of_inReadingOrder (h : s.InReadingOrder isDefault) (r : Results) :
    ∃ n ≤ 2, ((s.firstPass isDefault r).1 = [] → n ≤ 1) ∧ s.last isDefault r =
      ⟨n, (s.firstPass isDefault r).1, (s.firstPass isDefault r).2⟩ := by
  have hinOrder : InOrder s.name isDefault (s.first isDefault r).pending :=
    inOrder_of_pairwise (s.pairwise_filterMap_cells Cell.formula?) h
  have hlimit : 0 < max 1 (2 * s.formulas.length) := by omega
  obtain ⟨n, hn, hnil, heq⟩ := exists_iterate_of_inOrder hinOrder hlimit
  refine ⟨n, hn, hnil, ?_⟩
  rw [last, heq, show (s.first isDefault r).passes + n = n from Nat.zero_add n]
  rfl

/-- The first pass over a sheet decides what its formula cells hold. -/
structure OnePass (s : Sheet) (isDefault : Bool) (r : Results) : Prop where
  /-- What the first pass leaves, no later one resolves. -/
  unresolved_eq : (s.calculate isDefault r).1.unresolved =
    (s.firstPass isDefault r).1.map Prod.fst
  passes_le : (s.calculate isDefault r).1.passes ≤ 2
  passes_le_one : (s.calculate isDefault r).1.unresolved = [] →
    (s.calculate isDefault r).1.passes ≤ 1
  null : ∀ p ∈ (s.firstPass isDefault r).1, ∀ key, IsKeyOf s.name isDefault p.1 key →
    (s.calculate isDefault r).2.lookup key = some .null
  /-- What it resolves keeps its value, which is the one that the formula gives in the end. -/
  value : ∀ p ∈ s.formulas, p ∉ (s.firstPass isDefault r).1 →
    ∀ key, IsKeyOf s.name isDefault p.1 key →
      (s.firstPass isDefault r).2.lookup key =
          some (Formula.evaluate (s.calculate isDefault r).2.lookup s.name p.2) ∧
        (s.calculate isDefault r).2.lookup key = (s.firstPass isDefault r).2.lookup key

variable (isDefault) in
/-- A sheet in reading order is decided in one pass, on results that hold nothing of its formula
cells. -/
theorem onePass_calculate (hpos : ∀ c ∈ s.cells, c.Positive)
    (hr : ∀ p ∈ s.formulas, r.lookup (p.1.key s.name) = none)
    (ho : s.InReadingOrder isDefault) : s.OnePass isDefault r := by
  obtain ⟨n, hn, hnil, hlast⟩ := exists_last_of_inReadingOrder ho r
  have hleft : (s.last isDefault r).pending = (s.firstPass isDefault r).1 := by rw [hlast]
  have hreached : (s.last isDefault r).results = (s.firstPass isDefault r).2 := by rw [hlast]
  have hpasses : (s.calculate isDefault r).1.passes = n := by
    show (s.last isDefault r).passes = n
    rw [hlast]
  have hunresolved : (s.calculate isDefault r).1.unresolved =
      (s.firstPass isDefault r).1.map Prod.fst := congrArg (List.map Prod.fst) hleft
  have hposFormula : ∀ p ∈ s.formulas, p.1.Positive :=
    fun p hp => hpos p.1 (mem_cells_of_mem_formulas hp)
  have hsub : ∀ p ∈ (s.firstPass isDefault r).1, p ∈ s.formulas :=
    fun p hp => mem_formulas_of_mem_pending (hleft ▸ hp)
  refine ⟨hunresolved, hpasses ▸ hn, fun hempty => ?_, ?_, ?_⟩
  · rw [hpasses]
    exact hnil (List.map_eq_nil_iff.1 (hunresolved ▸ hempty))
  · intro p hp key hk
    rw [calculate_snd, hleft]
    refine lookup_settle_of_mem (fun q hq => hposFormula q (hsub q hq)) ?_ hp hk _
    rw [← hleft]
    exact nodup_pending s isDefault r
  · intro p hp hresolved key hk
    have horder : p ∈ passOrder s.name isDefault s.formulas (s.seeded isDefault r) :=
      (List.mem_append.1 ((perm_pass s.name isDefault s.formulas
        (s.seeded isDefault r)).mem_iff.2 hp)).resolve_right hresolved
    refine ⟨?_, ?_⟩
    · rw [evaluate_calculate hpos hr, hreached]
      exact lookup_pass_of_inOrder
        (inOrder_of_pairwise (s.pairwise_filterMap_cells Cell.formula?) ho) hposFormula
        s.nodup_formulas horder hk
    · rw [calculate_snd, hleft, hreached]
      refine lookup_settle_of_not_isKeyOf fun q hq hkq => hresolved ?_
      have hformula := hsub q hq
      have heq : q.1 = p.1 := hkq.unique (hposFormula q hformula) (hposFormula p hp) hk
      exact eq_of_mem_formulas hformula hp heq ▸ hq

/-- A constant, a formula behind it, one that never has a value, an aggregate that leaves that one
out, and a formula that waits for it. -/
def rowsSheet : Sheet where
  name := "S"
  cells := (((((∅ : Grid).insert ⟨1, 1⟩ (.constant (.number 3))).insert ⟨1, 2⟩
    (.formula "=A1*2")).insert ⟨2, 1⟩ (.formula "=Z9")).insert ⟨2, 2⟩
    (.formula "=SUM(A1:A2)+B1")).insert ⟨3, 1⟩ (.formula "=A2+1")

theorem positive_rowsSheet : ∀ c ∈ rowsSheet.cells, c.Positive := by
  have hempty : ∀ c ∈ (∅ : Grid), c.Positive :=
    fun c hc => absurd hc Std.ExtTreeMap.not_mem_empty
  have hfirst := positive_of_mem_insert hempty (d := ⟨1, 1⟩) ⟨by decide, by decide⟩
    (.constant (.number 3))
  have hsecond := positive_of_mem_insert hfirst (d := ⟨1, 2⟩) ⟨by decide, by decide⟩
    (.formula "=A1*2")
  have hthird := positive_of_mem_insert hsecond (d := ⟨2, 1⟩) ⟨by decide, by decide⟩
    (.formula "=Z9")
  have hfourth := positive_of_mem_insert hthird (d := ⟨2, 2⟩) ⟨by decide, by decide⟩
    (.formula "=SUM(A1:A2)+B1")
  exact positive_of_mem_insert hfourth ⟨by decide, by decide⟩ _

theorem inReadingOrder_rowsSheet : rowsSheet.InReadingOrder true := by
  intro p hp
  have hdetached : ∀ p ∈ rowsSheet.formulas, ∀ c ∈ Formula.callSites p.2, c.Detached none := by
    decide +kernel
  have hcovered : ∀ p ∈ rowsSheet.formulas, ∀ k ∈ Formula.aggregateKeys "S" p.2,
      ∀ q ∈ rowsSheet.formulas, (compare p.1 q.1).isLE → ¬ IsKeyOf "S" true q.1 k := by
    decide +kernel
  have hread : ∀ p ∈ rowsSheet.formulas, ∀ body ∈ Formula.body? p.2, ∀ r ∈ Reference.all body,
      ∀ k ∈ (r.keys? "S").getD [],
      ∀ q ∈ rowsSheet.formulas, (compare p.1 q.1).isLE → ¬ IsKeyOf "S" true q.1 k := by
    decide +kernel
  exact Formula.dependsOn_of_detached (hdetached p hp) (hcovered p hp) (hread p hp)

/-- Two formulas have a value after the first pass; the others are null, one of them for good. -/
theorem onePass_rowsSheet : (∀ c ∈ rowsSheet.cells, c.Positive) ∧
    (∀ p ∈ rowsSheet.formulas,
      Results.lookup ((∅ : Results).insert "T!A1" (.number 4)) (p.1.key "S") = none) ∧
    rowsSheet.InReadingOrder true ∧
    rowsSheet.OnePass true ((∅ : Results).insert "T!A1" (.number 4)) := by
  have hr : ∀ p ∈ rowsSheet.formulas,
      Results.lookup ((∅ : Results).insert "T!A1" (.number 4)) (p.1.key "S") = none := by
    decide +kernel
  exact ⟨positive_rowsSheet, hr, inReadingOrder_rowsSheet,
    onePass_calculate true positive_rowsSheet hr inReadingOrder_rowsSheet⟩

end Sheet

end Recalc
