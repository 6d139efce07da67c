import Recalc.Proofs.Formula.Pipeline
import Recalc.Proofs.Workbook.LeastSolution

/-!
# Every cell has a result

The results of a workbook hold each stored cell of each loaded sheet under its keys and nothing
else: constants as they are, formula cells null if they are reported unresolved and a finite number
otherwise (`Regular.complete_calculate`). Sheet names may look like keys or hold quotes.
-/

namespace Recalc

open Calculation

/-! ## Values of formulas -/

theorem Arithmetic.finite_eq_ok {x y : Float} (h : finite x = .ok y) : y.isFinite = true := by
  unfold finite at h
  split at h
  · rename_i hx
    cases h
    exact hx
  · cases h

/-- Each operator checks its result, so what an expression evaluates to is finite. -/
theorem Arithmetic.Expr.isFinite_of_eval {e : Expr} {x : Float} (h : e.eval = .ok x) :
    x.isFinite = true := by
  cases e with
  | number n => exact finite_eq_ok h
  | unary op e =>
    obtain ⟨x, -, h⟩ := Formula.bind_eq_ok_iff.1 h
    obtain ⟨y, -, h⟩ := Formula.bind_eq_ok_iff.1 h
    exact finite_eq_ok h
  | binary op l r =>
    obtain ⟨x, -, h⟩ := Formula.bind_eq_ok_iff.1 h
    obtain ⟨y, -, h⟩ := Formula.bind_eq_ok_iff.1 h
    obtain ⟨z, -, h⟩ := Formula.bind_eq_ok_iff.1 h
    exact finite_eq_ok h

/-- What a formula cell holds in the end. -/
def Value.IsComputed (v : Value) : Prop :=
  v = .null ∨ ∃ x, x.isFinite = true ∧ v = .number x

namespace Formula
variable {lookup : Lookup} {sheet : String}

theorem isFinite_of_evalBody {s : List Char} {x : Float}
    (h : (evalBody lookup sheet s).toOption = some x) : x.isFinite = true := by
  rw [toOption_evalBody] at h
  obtain ⟨t, -, h⟩ := Option.bind_eq_some_iff.1 h
  obtain ⟨u, -, h⟩ := Option.bind_eq_some_iff.1 h
  obtain ⟨-, -, h⟩ := Option.bind_eq_some_iff.1 h
  rw [evalArithmetic, Arithmetic.toOption_bind] at h
  obtain ⟨tokens, -, h⟩ := Option.bind_eq_some_iff.1 h
  rw [Arithmetic.toOption_bind] at h
  obtain ⟨e, -, h⟩ := Option.bind_eq_some_iff.1 h
  cases he : e.eval with
  | error fault =>
    rw [he] at h
    cases h
  | ok y =>
    rw [he] at h
    cases h
    exact Arithmetic.Expr.isFinite_of_eval he

/-- A formula never gives a text or a number that is not finite. -/
theorem isComputed_evaluate {f : String} (h : (Text.trimStart f.toList).head? = some '=') :
    (evaluate lookup sheet f).IsComputed := by
  obtain ⟨s, hs⟩ := exists_body? h
  rw [evaluate_of_body? lookup sheet hs]
  cases hx : (evalBody lookup sheet s).toOption with
  | none => exact Or.inl rfl
  | some x => exact Or.inr ⟨x, isFinite_of_evalBody hx, rfl⟩

end Formula

/-! ## One sheet -/

namespace Sheet
variable {s : Sheet} {isDefault : Bool} {r : Results}

theorem length_constants_add_length_formulas (s : Sheet) :
    s.constants.length + s.formulas.length = s.cells.size := by
  rw [← Std.ExtTreeMap.length_toList, constants, formulas]
  induction s.cells.toList with
  | nil => rfl
  | cons p cells ih =>
    obtain ⟨c, cell⟩ := p
    cases cell with
    | constant k =>
      rw [List.length_cons, ← ih]
      exact Nat.add_right_comm _ 1 _
    | formula f =>
      rw [List.length_cons, ← ih]
      rfl

theorem sublist_unresolved (s : Sheet) (isDefault : Bool) (r : Results) :
    (s.calculate isDefault r).1.unresolved.Sublist (s.formulas.map Prod.fst) :=
  (sublist_iterate s.name isDefault _ (s.first isDefault r)).map Prod.fst

/-- What a finished sheet holds under the keys of a formula cell. -/
theorem exists_lookup_calculate (hready : Ready s.name isDefault s.formulas (s.seeded isDefault r))
    (hf : ∀ p ∈ s.formulas, (Text.trimStart p.2.toList).head? = some '=') {p : Pending}
    (hp : p ∈ s.formulas) :
    ∃ v : Value, (v = .null ↔ p.1 ∈ (s.calculate isDefault r).1.unresolved) ∧ v.IsComputed ∧
      ∀ key, IsKeyOf s.name isDefault p.1 key →
        (s.calculate isDefault r).2.lookup key = some v := by
  have hfinished := finished_iterate (s.length_pending_first isDefault r) hready
  rcases List.mem_append.1 ((perm_last s isDefault r).mem_iff.2 hp) with hresolved | hleft
  · obtain ⟨before, after, ho⟩ := List.append_of_mem hresolved
    obtain ⟨r', -, -, hv, hkeys⟩ := hfinished.lookup_resolved ho
    have hcomputed : (Formula.evaluate r'.lookup s.name p.2).IsComputed :=
      Formula.isComputed_evaluate (hf p hp)
    refine ⟨_, ⟨fun h => absurd h hv, fun hleft => ?_⟩, hcomputed, hkeys⟩
    have hnodup := nodup_last s isDefault r
    rw [List.map_append, List.nodup_append] at hnodup
    exact absurd rfl (hnodup.2.2 p.1 (List.mem_map_of_mem hresolved) p.1 hleft)
  · refine ⟨.null, ⟨fun _ => List.mem_map_of_mem hleft, fun _ => rfl⟩, Or.inl rfl, ?_⟩
    exact fun key hk => hfinished.lookup_still hleft hk

theorem lookup_calculate_of_mem_constants (hpos : ∀ c ∈ s.cells, c.Positive)
    (hready : Ready s.name isDefault s.formulas (s.seeded isDefault r))
    {p : Coordinate × Constant} (hp : p ∈ s.constants) {key : String}
    (hk : IsKeyOf s.name isDefault p.1 key) :
    (s.calculate isDefault r).2.lookup key = some p.2.value := by
  have hfinished := finished_iterate (s.length_pending_first isDefault r) hready
  rw [calculate_snd]
  refine (hfinished.lookup_other ?_).trans (lookup_seeded_of_mem_constants r hpos hp hk)
  exact fun q hq hkq => not_isKeyOf_of_mem_constants hpos hq hkq hp hk

/-- The report on a sheet counts every cell, lists the formula cells without a value in order, and
the results hold the values of the others. -/
structure Accounts (s : Sheet) (isDefault : Bool) (r : Results) (report : Report) : Prop where
  sheet_eq : report.sheet = s.name
  constants_eq : report.constants = s.constants.length
  cells_eq : report.constants + report.formulas = s.cells.size
  formulas_eq : report.resolved + report.unresolved.length = report.formulas
  pairwise_unresolved : report.unresolved.Pairwise fun c d => compare c d = .lt
  formula_of_unresolved : ∀ c ∈ report.unresolved, ∃ f, s.cells[c]? = some (.formula f)
  /-- A formula cell has one value, under its key and its label. -/
  lookup_formula : ∀ c f, s.cells[c]? = some (.formula f) →
    ∃ v : Value, (v = .null ↔ c ∈ report.unresolved) ∧ v.IsComputed ∧
      ∀ key, IsKeyOf s.name isDefault c key → r.lookup key = some v

end Sheet

/-! ## All sheets -/

namespace Workbook
variable (w : Workbook)

/-- The reports on these sheets, calculated from some results on. -/
def reportsFrom (r : Results) : List Sheet → List Report
  | [] => []
  | s :: sheets =>
    (s.calculate (w.isDefault s) r).1 :: reportsFrom (s.calculate (w.isDefault s) r).2 sheets

theorem calculate_snd : w.calculate.2 = w.reportsFrom ∅ w.ordered := by
  have hfold : ∀ (sheets : List Sheet) (r : Results) (reports : List Report),
      (sheets.foldl (fun (p : Results × List Report) s =>
        ((s.calculate (w.isDefault s) p.1).2, p.2 ++ [(s.calculate (w.isDefault s) p.1).1]))
          (r, reports)).2 = reports ++ w.reportsFrom r sheets := by
    intro sheets
    induction sheets with
    | nil => exact fun r reports => (List.append_nil reports).symm
    | cons s sheets ih =>
      intro r reports
      rw [List.foldl_cons, ih, reportsFrom, List.append_assoc]
      rfl
  exact hfold w.ordered ∅ []

variable {w}

/-- What holds of each report when its sheet has its turn holds of the list of reports. -/
theorem forall₂_reportsFrom {P : Sheet → Report → Prop}
    (h : ∀ earlier s later, w.ordered = earlier ++ s :: later →
      P s (s.calculate (w.isDefault s) (w.resultsAfter earlier)).1)
    {earlier later : List Sheet} (ho : w.ordered = earlier ++ later) :
    List.Forall₂ P later (w.reportsFrom (w.resultsAfter earlier) later) := by
  induction later generalizing earlier with
  | nil => exact .nil
  | cons s later ih =>
    rw [reportsFrom, ← resultsAfter_concat]
    refine .cons (h earlier s later ho) (ih ?_)
    rw [ho, List.append_assoc]
    rfl

theorem Regular.lookup_calculate (hw : w.Regular) {s : Sheet} {earlier later : List Sheet}
    (ho : w.ordered = earlier ++ s :: later) {c : Coordinate} {key : String}
    (hk : IsKeyOf s.name (w.isDefault s) c key) : w.calculate.1.lookup key =
      (s.calculate (w.isDefault s) (w.resultsAfter earlier)).2.lookup key := by
  have ho' : w.ordered = (earlier ++ [s]) ++ later := by rw [ho, List.append_cons]
  have hs : s ∈ earlier ++ [s] := List.mem_concat_self
  rw [hw.distinctNames.lookup_calculate ho' hs hk, resultsAfter_concat]

theorem Regular.accounts (hw : w.Regular)
    (hf : ∀ s ∈ w.ordered, ∀ p ∈ s.formulas, (Text.trimStart p.2.toList).head? = some '=')
    {s : Sheet} {earlier later : List Sheet} (ho : w.ordered = earlier ++ s :: later) :
    s.Accounts (w.isDefault s) w.calculate.1
      (s.calculate (w.isDefault s) (w.resultsAfter earlier)).1 := by
  have hsublist := s.sublist_unresolved (w.isDefault s) (w.resultsAfter earlier)
  have hlength := hsublist.length_le
  rw [List.length_map] at hlength
  refine ⟨rfl, rfl, s.length_constants_add_length_formulas, ?_, ?_, ?_, ?_⟩
  · exact Nat.sub_add_cancel hlength
  · exact (s.pairwise_filterMap_cells Cell.formula?).sublist hsublist
  · intro c hc
    obtain ⟨p, hp, rfl⟩ := List.mem_map.1 (hsublist.mem hc)
    exact ⟨p.2, Sheet.mem_formulas.1 hp⟩
  · intro c f hcell
    obtain ⟨v, hnull, hcomputed, hkeys⟩ := Sheet.exists_lookup_calculate (hw.ready ho)
      (hf s (mem_ordered ho)) (Sheet.mem_formulas.2 hcell)
    refine ⟨v, hnull, hcomputed, fun key hk => ?_⟩
    rw [hw.lookup_calculate ho hk]
    exact hkeys key hk

/-- The results hold every cell and nothing else, and the reports account for them. -/
structure Complete (w : Workbook) (r : Results) (reports : List Report) : Prop where
  /-- There is a value under each key of a stored cell, and under no other. -/
  mem_iff : ∀ key, key ∈ r ↔
    ∃ s ∈ w.ordered, ∃ c ∈ s.cells, IsKeyOf s.name (w.isDefault s) c key
  lookup_constant : ∀ s ∈ w.ordered, ∀ c k, s.cells[c]? = some (.constant k) →
    ∀ key, IsKeyOf s.name (w.isDefault s) c key → r.lookup key = some k.value
  reports : List.Forall₂ (fun s report => s.Accounts (w.isDefault s) r report) w.ordered reports

theorem Regular.lookup_constant (hw : w.Regular) {s : Sheet} (hs : s ∈ w.ordered)
    {c : Coordinate} {k : Constant} (hcell : s.cells[c]? = some (.constant k)) {key : String}
    (hk : IsKeyOf s.name (w.isDefault s) c key) : w.calculate.1.lookup key = some k.value := by
  obtain ⟨earlier, later, ho⟩ := List.append_of_mem hs
  rw [hw.lookup_calculate ho hk]
  exact Sheet.lookup_calculate_of_mem_constants (hw.positive s hs) (hw.ready ho)
    (Sheet.mem_constants.2 hcell) hk

/-- Nothing is lost and nothing is added, whatever the sheets are called. -/
theorem Regular.complete_calculate (hw : w.Regular)
    (hf : ∀ s ∈ w.ordered, ∀ p ∈ s.formulas, (Text.trimStart p.2.toList).head? = some '=') :
    w.Complete w.calculate.1 w.calculate.2 := by
  refine ⟨w.mem_calculate, fun s hs c k hcell key hk => hw.lookup_constant hs hcell hk, ?_⟩
  rw [calculate_snd]
  exact forall₂_reportsFrom (fun earlier s later ho => hw.accounts hf ho)
    (List.nil_append w.ordered).symm

/-- A sheet with a name that reads like a quoted key. -/
def keySheet : Sheet where
  name := "S'!'A1"
  cells := ((∅ : Grid).insert ⟨1, 1⟩ (.constant (.text "7"))).insert ⟨2, 1⟩ (.formula " =S!A1*A1")

theorem complete_keySheet :
    (addSheet (addSheet { } chainSheet) keySheet).Regular ∧
    (∀ s ∈ (addSheet (addSheet { } chainSheet) keySheet).ordered, ∀ p ∈ s.formulas,
      (Text.trimStart p.2.toList).head? = some '=') ∧
    (addSheet (addSheet { } chainSheet) keySheet).Complete
      (addSheet (addSheet { } chainSheet) keySheet).calculate.1
      (addSheet (addSheet { } chainSheet) keySheet).calculate.2 := by
  have hpos : ∀ c ∈ keySheet.cells, c.Positive := by
    have hempty : ∀ c ∈ (∅ : Grid), c.Positive :=
      fun c hc => absurd hc Std.ExtTreeMap.not_mem_empty
    have hfirst := Sheet.positive_of_mem_insert hempty (d := ⟨1, 1⟩) ⟨by decide, by decide⟩
      (.constant (.text "7"))
    exact Sheet.positive_of_mem_insert hfirst ⟨by decide, by decide⟩ _
  have hsound : (addSheet (addSheet { } chainSheet) keySheet).Sound :=
    SoundContents.insert sound_chain ⟨rfl, hpos⟩
  have hw := hsound.regular ⟨by decide +kernel, by decide +kernel⟩
  have hf : ∀ s ∈ (addSheet (addSheet { } chainSheet) keySheet).ordered, ∀ p ∈ s.formulas,
      (Text.trimStart p.2.toList).head? = some '=' := by
    decide +kernel
  exact ⟨hw, hf, hw.complete_calculate hf⟩

end Workbook

end Recalc
