import Recalc.Proofs.Calculation.Cycle
import Recalc.Proofs.Workbook.Calculate

/-!
# The least solution of a sheet

Where no aggregate covers a formula cell of its own sheet, the values of a sheet are the least
solution of its formulas on top of its constants and the earlier sheets, in whatever order the
cells are tried (`Sound.isLeastSolution_calculate`).
-/

namespace Recalc

namespace Calculation
variable {sheet : String} {isDefault : Bool} {pending : List Pending} {start : Results}

/-- These results are what the formulas of the pending cells determine from `start`. -/
structure IsLeastSolution (sheet : String) (isDefault : Bool) (pending : List Pending)
    (start final : Results) : Prop where
  /-- Each cell has the value of its formula. -/
  fixed : ∀ p ∈ pending,
    final.lookup (p.1.key sheet) = some (Formula.evaluate final.lookup sheet p.2)
  /-- Every assignment with this property agrees wherever there is a value. -/
  least : ∃ σ, final = assign sheet isDefault pending σ start ∧
    Least sheet isDefault pending start σ
  /-- They are reached by resolving cells one after the other, no matter which, until none can be
  resolved. -/
  eq_of_run : ∀ order still reached, Run sheet isDefault start order reached →
    (order ++ still).Perm pending → Stuck sheet still reached →
      settle sheet isDefault still reached = final
  /-- They are reached by passes in any order. -/
  eq_of_perm : ∀ pending', pending.Perm pending' → ∀ limit, pending.length ≤ limit →
    settle sheet isDefault (iterate sheet isDefault limit ⟨0, pending', start⟩).pending
      (iterate sheet isDefault limit ⟨0, pending', start⟩).results = final
  /-- A cell on a cycle, or that reads one that is, is null. -/
  null_of_cyclic : ∀ p ∈ pending, Cyclic sheet pending start p.1 →
    final.lookup (p.1.key sheet) = some .null

theorem separate_of_not_mem (hs : sheet ≠ "")
    (h : ∀ p ∈ pending, ∀ q ∈ pending, q.1.key sheet ∉ Formula.aggregateKeys sheet p.2) :
    Separate sheet isDefault pending := by
  intro p hp k hk q hq hkey
  refine h p hp q hq ?_
  rwa [← hkey.eq_key_of_mem_aggregateKeys hs hk]

theorem Finished.isLeastSolution {order still : List Pending} {reached : Results}
    (h : Finished sheet isDefault pending start order still reached)
    (hsep : Separate sheet isDefault pending) :
    IsLeastSolution sheet isDefault pending start (settle sheet isDefault still reached) where
  fixed p hp := h.evaluate_eq_of_separate hsep hp
  least := h.exists_least hsep
  eq_of_run order' still' reached' hrun hperm hstuck :=
    h.final_unique hsep (.refl _) ⟨h.ready, hrun, hperm, hstuck⟩
  eq_of_perm pending' hp limit hl := by
    have hlength : pending'.length ≤ limit := hp.length_eq ▸ hl
    exact h.final_unique hsep hp
      (finished_iterate (s := ⟨0, pending', start⟩) hlength (h.ready.perm hp))
  null_of_cyclic p hp hc := h.lookup_of_cyclic hsep hp hc

end Calculation

namespace Workbook
variable {w : Workbook}

/-- The values of a sheet whose aggregates cover no formula cell of the sheet are the least solution
of its formulas. -/
theorem Sound.isLeastSolution_calculate (hw : w.Sound) (hn : w.Named) {s : Sheet}
    {earlier later : List Sheet} (ho : w.ordered = earlier ++ s :: later)
    (hs : ∀ p ∈ s.formulas, ∀ q ∈ s.formulas,
      q.1.key s.name ∉ Formula.aggregateKeys s.name p.2) :
    Calculation.IsLeastSolution s.name (w.isDefault s) s.formulas
      (s.seeded (w.isDefault s) (w.resultsAfter earlier))
      (s.calculate (w.isDefault s) (w.resultsAfter earlier)).2 := by
  have hname : s.name ≠ "" :=
    hw.name_ne hn (ho ▸ List.mem_append_right _ (List.mem_cons_self ..))
  rw [Sheet.calculate_snd]
  exact (hw.finished hn ho).isLeastSolution (Calculation.separate_of_not_mem hname hs)

/-- A chain with its last cell first, an aggregate of constants, and a cell that reads itself. -/
def chainSheet : Sheet where
  name := "S"
  cells := ((((∅ : Grid).insert ⟨1, 1⟩ (.formula "=B1+1")).insert ⟨1, 2⟩
    (.formula "=2*SUM(C1:C2)")).insert ⟨1, 3⟩ (.constant (.number 3))).insert ⟨2, 1⟩
    (.formula "=A2")

theorem sound_chain : (addSheet { } chainSheet).Sound := by
  refine SoundContents.empty.insert ⟨rfl, ?_⟩
  have hempty : ∀ c ∈ (∅ : Grid), c.Positive :=
    fun c hc => absurd hc Std.ExtTreeMap.not_mem_empty
  have hfirst := Sheet.positive_of_mem_insert hempty (d := ⟨1, 1⟩) ⟨by decide, by decide⟩
    (.formula "=B1+1")
  have hsecond := Sheet.positive_of_mem_insert hfirst (d := ⟨1, 2⟩) ⟨by decide, by decide⟩
    (.formula "=2*SUM(C1:C2)")
  have hthird := Sheet.positive_of_mem_insert hsecond (d := ⟨1, 3⟩) ⟨by decide, by decide⟩
    (.constant (.number 3))
  exact Sheet.positive_of_mem_insert hthird ⟨by decide, by decide⟩ _

theorem isLeastSolution_chain :
    Calculation.IsLeastSolution "S" true chainSheet.formulas (chainSheet.seeded true ∅)
      (chainSheet.calculate true ∅).2 := by
  have hnamed : (addSheet { } chainSheet).Named := ⟨by decide +kernel, by decide +kernel⟩
  have hordered : (addSheet { } chainSheet).ordered = [] ++ chainSheet :: [] := rfl
  exact sound_chain.isLeastSolution_calculate hnamed hordered (by decide +kernel)

end Workbook

end Recalc
