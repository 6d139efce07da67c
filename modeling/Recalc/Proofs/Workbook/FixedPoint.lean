import Recalc.Proofs.Workbook.Calculate

/-!
# Totals that come too early

A cell is written once. Its value is that of its formula when the cell is resolved, and an aggregate
skips the cells that are still pending then. So a sheet is not always a fixed point of its formulas
(`totalFirst_not_fixed`): a total keeps the value it had if a cell that it covers is resolved after
it. This is the only way for a cell to differ from its formula in the end
(`settledBy_calculate_load`).
-/

namespace Recalc

namespace Calculation
variable {sheet : String} {isDefault : Bool} {pending order still : List Pending}
  {start reached : Results}

/-- What is left of the pending cells when those of `order` are resolved one after the other and
those of `still` are not. -/
structure SettledBy (sheet : String) (isDefault : Bool) (pending order still : List Pending)
    (start final : Results) : Prop where
  perm : (order ++ still).Perm pending
  /-- A resolved cell has the value that its formula had at that moment. -/
  resolved : ∀ before c f after, order = before ++ (c, f) :: after →
    ∃ r, Run sheet isDefault start before r ∧
      final.lookup (c.key sheet) = some (Formula.evaluate r.lookup sheet f)
  /-- It has the value of its formula in the end too, unless an aggregate covers the cell itself or
  one that is resolved later. -/
  fixed : ∀ before c f after, order = before ++ (c, f) :: after →
    (∀ q ∈ (c, f) :: after, q.1.key sheet ∉ Formula.aggregateKeys sheet f) →
      final.lookup (c.key sheet) = some (Formula.evaluate final.lookup sheet f)
  /-- A cell that is not resolved is null, and so is its formula. -/
  left : ∀ p ∈ still, final.lookup (p.1.key sheet) = some .null ∧
    Formula.evaluate final.lookup sheet p.2 = .null

theorem Finished.settledBy (h : Finished sheet isDefault pending start order still reached) :
    SettledBy sheet isDefault pending order still start
      (settle sheet isDefault still reached) where
  perm := h.perm
  resolved before c f after ho := by
    obtain ⟨r, hrun, -, -, hval⟩ := h.lookup_resolved ho
    exact ⟨r, hrun, hval _ (IsKeyOf.self sheet isDefault c)⟩
  fixed before c f after ho hk := by
    obtain ⟨r, -, hfrom, hv, hval⟩ := h.lookup_resolved ho
    rw [hval _ (IsKeyOf.self sheet isDefault c), hfrom.evaluate_final hv]
    intro k hmem q hq hkey
    refine hk q hq ?_
    rwa [← hkey.eq_key_of_mem_aggregateKeys h.ready.sheet_ne hmem]
  left p hp := ⟨h.lookup_still hp (IsKeyOf.self sheet isDefault p.1), h.evaluate_still hp⟩

end Calculation

namespace Export

/-- Each formula cell of a loaded workbook has the value of its formula when its sheet is finished,
unless it was resolved before a cell that one of its aggregates covers. -/
theorem settledBy_calculate_load (files : Files) (directory : String)
    (hn : (load files directory).Named) {s : Sheet} {earlier later : List Sheet}
    (ho : (load files directory).ordered = earlier ++ s :: later) :
    Calculation.SettledBy s.name ((load files directory).isDefault s) s.formulas
      (s.resolved ((load files directory).isDefault s)
        ((load files directory).resultsAfter earlier))
      (s.last ((load files directory).isDefault s)
        ((load files directory).resultsAfter earlier)).pending
      (s.seeded ((load files directory).isDefault s) ((load files directory).resultsAfter earlier))
      (s.calculate ((load files directory).isDefault s)
        ((load files directory).resultsAfter earlier)).2 := by
  have hfinished := (sound_load files directory).finished hn ho
  rw [Sheet.calculate_snd]
  exact hfinished.settledBy

/-- An export of one sheet with a total above the cell that it covers. -/
def totalFirst : Files
  | "d" => some .directory
  | "d/_workbook.json" => some (manifestFile [("S", "s.json")])
  | "d/s.json" => some (cellsFile [("A1", formulaRecord "=SUM(A2)"), ("A2", formulaRecord "=1")])
  | _ => none

theorem named_totalFirst : (load totalFirst "d").Named :=
  ⟨by decide +kernel, by decide +kernel⟩

theorem exists_ordered_totalFirst : ∃ s, (load totalFirst "d").ordered = [] ++ s :: [] :=
  List.length_eq_one_iff.1 (by decide +kernel)

theorem settledBy_totalFirst : ∃ s, (load totalFirst "d").ordered = [] ++ s :: [] ∧
    Calculation.SettledBy s.name ((load totalFirst "d").isDefault s) s.formulas
      (s.resolved ((load totalFirst "d").isDefault s) ((load totalFirst "d").resultsAfter []))
      (s.last ((load totalFirst "d").isDefault s) ((load totalFirst "d").resultsAfter [])).pending
      (s.seeded ((load totalFirst "d").isDefault s) ((load totalFirst "d").resultsAfter []))
      (s.calculate ((load totalFirst "d").isDefault s)
        ((load totalFirst "d").resultsAfter [])).2 := by
  obtain ⟨s, hs⟩ := exists_ordered_totalFirst
  exact ⟨s, hs, settledBy_calculate_load totalFirst "d" named_totalFirst hs⟩

/-- The total is left at zero, where its formula gives one in the end. -/
theorem totalFirst_not_fixed : (load totalFirst "d").Named ∧
    ¬ ∀ s earlier later, (load totalFirst "d").ordered = earlier ++ s :: later →
      ∀ p ∈ s.formulas,
        (s.calculate ((load totalFirst "d").isDefault s)
            ((load totalFirst "d").resultsAfter earlier)).2.lookup (p.1.key s.name) =
          some (Formula.evaluate (s.calculate ((load totalFirst "d").isDefault s)
            ((load totalFirst "d").resultsAfter earlier)).2.lookup s.name p.2) := by
  refine ⟨named_totalFirst, fun h => ?_⟩
  obtain ⟨s, hs⟩ := exists_ordered_totalFirst
  have hstale : (load totalFirst "d").ordered.all (fun s => s.formulas.all fun p =>
      (s.calculate ((load totalFirst "d").isDefault s)
          ((load totalFirst "d").resultsAfter [])).2.lookup (p.1.key s.name) =
        some (Formula.evaluate (s.calculate ((load totalFirst "d").isDefault s)
          ((load totalFirst "d").resultsAfter [])).2.lookup s.name p.2)) = false := by
    decide +kernel
  rw [hs] at hstale
  refine absurd ?_ (Bool.eq_false_iff.1 hstale)
  simpa using h s [] [] hs

end Export

end Recalc
