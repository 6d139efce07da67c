import Recalc.Proofs.Formula.Depends
import Recalc.Proofs.Workbook.LeastSolution

/-!
# How the passes over a sheet end

A sheet takes no more passes than it has formulas, so the passes end before their limit: because
nothing is pending, or because the last one resolved nothing. A cell that is left then stays null
for good, whether it is absent from the results or null in them (`Sheet.exhausts_calculate`).
-/

namespace Recalc

open Calculation

namespace Sheet
variable {s : Sheet} {isDefault : Bool} {r : Results}

section Left
variable (hpos : ∀ c ∈ s.cells, c.Positive)
  (hr : ∀ p ∈ s.formulas, r.lookup (p.1.key s.name) = none)
include hpos hr

/-- A cell that the passes leave has no value until the sheet settles. -/
theorem lookup_last_of_mem_pending {p : Pending} (hp : p ∈ (s.last isDefault r).pending) :
    (s.last isDefault r).results.lookup (p.1.key s.name) = none := by
  have hformula := mem_formulas_of_mem_pending hp
  have hself := IsKeyOf.self s.name isDefault p.1
  have hnodup := nodup_last s isDefault r
  rw [List.map_append, List.nodup_append] at hnodup
  rw [(run_last s isDefault r).lookup_of_not_isKeyOf,
    lookup_seeded_of_mem_formulas r hpos hformula hself]
  · exact hr p hformula
  · intro q hq hkq
    have hq' : q ∈ s.formulas := mem_formulas_of_mem_resolved hq
    have heq : q.1 = p.1 := hkq.unique (hpos _ (mem_cells_of_mem_formulas hq'))
      (hpos _ (mem_cells_of_mem_formulas hformula)) hself
    exact hnodup.2.2 q.1 (List.mem_map_of_mem hq) p.1 (List.mem_map_of_mem hp) heq

/-- Null in the results of a sheet is the same to a formula as no value in those of its passes. -/
theorem evaluate_calculate (f : String) :
    Formula.evaluate (s.calculate isDefault r).2.lookup s.name f =
      Formula.evaluate (s.last isDefault r).results.lookup s.name f := by
  rw [calculate_snd]
  refine (Formula.dependsOn_keysFrom s.name f).evaluate_congr ?_
  intro k hk v hv
  by_cases hleft : ∃ q ∈ (s.last isDefault r).pending, IsKeyOf s.name isDefault q.1 k
  · obtain ⟨q, hq, hkq⟩ := hleft
    have hnull : (settle s.name isDefault (s.last isDefault r).pending
        (s.last isDefault r).results).lookup k = some .null := by
      refine lookup_settle_of_mem ?_ (nodup_pending s isDefault r) hq hkq _
      exact fun q hq => hpos _ (mem_cells_of_mem_formulas (mem_formulas_of_mem_pending hq))
    rw [hnull, hkq.eq_key_of_mem_keysFrom hk, lookup_last_of_mem_pending hpos hr hq]
    constructor
    · intro h
      exact absurd (Option.some.inj h).symm hv
    · intro h
      cases h
  · rw [lookup_settle_of_not_isKeyOf fun q hq hkq => hleft ⟨q, hq, hkq⟩]

theorem evaluate_calculate_of_mem_pending {p : Pending}
    (hp : p ∈ (s.last isDefault r).pending) :
    Formula.evaluate (s.calculate isDefault r).2.lookup s.name p.2 = .null := by
  have hstuck : Stuck s.name (s.last isDefault r).pending (s.last isDefault r).results :=
    stuck_iterate (s.length_pending_first isDefault r)
  rw [evaluate_calculate hpos hr, hstuck p hp]

end Left

/-- The passes over a sheet end by themselves, and nothing that they leave could be resolved. -/
structure Exhausts (s : Sheet) (isDefault : Bool) (r : Results) : Prop where
  passes_le : (s.calculate isDefault r).1.passes ≤ (s.calculate isDefault r).1.formulas
  /-- The limit is not reached. -/
  passes_lt : (s.calculate isDefault r).1.passes < max 1 (2 * (s.calculate isDefault r).1.formulas)
  /-- They end because nothing is pending or because the last pass resolved nothing. -/
  ends : EndsAfter s.name isDefault (s.calculate isDefault r).1.passes (s.first isDefault r)
    (s.last isDefault r)
  null : ∀ p ∈ s.formulas, p.1 ∈ (s.calculate isDefault r).1.unresolved →
    Formula.evaluate (s.calculate isDefault r).2.lookup s.name p.2 = .null
  /-- One more pass resolves nothing. -/
  pass_eq : pass s.name isDefault (s.last isDefault r).pending (s.calculate isDefault r).2 =
    ((s.last isDefault r).pending, (s.calculate isDefault r).2)

variable (isDefault) in
/-- The limit of passes does not decide what a sheet leaves, on results that hold nothing of its
formula cells. -/
theorem exhausts_calculate (hpos : ∀ c ∈ s.cells, c.Positive)
    (hr : ∀ p ∈ s.formulas, r.lookup (p.1.key s.name) = none) : s.Exhausts isDefault r := by
  obtain ⟨n, hn, hends⟩ :=
    exists_endsAfter_iterate s.name isDefault (s.length_pending_first isDefault r)
  have hpasses : (s.calculate isDefault r).1.passes = n := by
    show (s.last isDefault r).passes = n
    rw [last, hends.passes_eq]
    exact Nat.zero_add n
  have hformulas : n ≤ (s.calculate isDefault r).1.formulas := hn
  refine ⟨?_, ?_, ?_, ?_, ?_⟩
  · rw [hpasses]
    exact hformulas
  · rw [hpasses]
    omega
  · rw [hpasses]
    exact hends
  · intro p hp hleft
    exact evaluate_calculate_of_mem_pending hpos hr (mem_pending_of_mem_map hp hleft)
  · exact pass_of_stuck fun p hp => evaluate_calculate_of_mem_pending hpos hr hp

/-- A chain and a cell that reads itself, after a sheet of which one value is known. -/
theorem exhausts_chain : (∀ c ∈ Workbook.chainSheet.cells, c.Positive) ∧
    (∀ p ∈ Workbook.chainSheet.formulas,
      Results.lookup ((∅ : Results).insert "T!A1" (.number 4)) (p.1.key "S") = none) ∧
    Workbook.chainSheet.Exhausts true ((∅ : Results).insert "T!A1" (.number 4)) := by
  have hpos : ∀ c ∈ Workbook.chainSheet.cells, c.Positive :=
    (Workbook.sound_chain "S" Workbook.chainSheet rfl).positive
  have hr : ∀ p ∈ Workbook.chainSheet.formulas,
      Results.lookup ((∅ : Results).insert "T!A1" (.number 4)) (p.1.key "S") = none := by
    decide +kernel
  exact ⟨hpos, hr, exhausts_calculate true hpos hr⟩

end Sheet

end Recalc
