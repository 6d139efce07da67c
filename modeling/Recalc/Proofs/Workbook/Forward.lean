import Recalc.Proofs.Workbook.Complete

/-!
# Later sheets

Sheets are calculated in their order, and a sheet writes its own cells only. So whenever a formula
is tried, nothing is known of a later sheet, whatever the sheets are called and whatever the formula
says; and the calculation of a later sheet keeps what an earlier one left (`Forward`). The first
sheets of a workbook come out the same whatever follows them (`forward_calculate`).
-/

namespace Recalc

open Calculation

/-! ## Formulas that see nothing of a sheet -/

namespace Formula

/-- Formulas of a sheet see no value of another sheet. -/
structure Blind (lookup : Lookup) (sheet other : String) : Prop where
  lookup_eq : ∀ c, lookup (Coordinate.key other c) = none
  /-- A reference to one of its cells has no value. -/
  referenceText_eq : ∀ (r : Reference) (text : List Char) (c : Coordinate), r.target = .cell c →
    r.sheetFrom sheet = other →
      referenceText lookup sheet (.found r text) = .error (.unresolved (c.key other))
  /-- An aggregate over its cells gathers no number. -/
  numbers_eq : ∀ (argument : List Char) (r : Reference) (keys : List String),
    Reference.ofArgument? argument = some r → r.sheetFrom sheet = other →
      r.keys? sheet = some keys → numbers lookup sheet argument = .ok []

theorem blind_of_lookup {lookup : Lookup} {other : String} (sheet : String)
    (h : ∀ c, lookup (Coordinate.key other c) = none) : Blind lookup sheet other := by
  refine ⟨h, ?_, ?_⟩
  · intro r text c hc hr
    simp only [referenceText, hc, cellNumber, hr, h c]
    rfl
  · intro argument r keys ha hr hkeys
    have hnone : keys.filterMap (fun k => (lookup k).bind Value.asNumber?) = [] := by
      refine List.filterMap_eq_nil_iff.2 fun k hk => ?_
      obtain ⟨cells, -, rfl⟩ := Option.map_eq_some_iff.1 hkeys
      obtain ⟨c, -, rfl⟩ := List.mem_map.1 hk
      rw [hr, h c]
      rfl
    simp only [numbers, ha, hkeys, hnone]

end Formula

/-! ## Tries -/

namespace Calculation

variable {sheet : String} {isDefault : Bool}

section Lookup
variable {key : String} {r r' : Results} {p : Pending} {pending : List Pending}

theorem lookup_of_mem_passTries (hp : (p, r') ∈ passTries sheet isDefault pending r)
    (h : ∀ q ∈ pending, ¬ IsKeyOf sheet isDefault q.1 key) : r'.lookup key = r.lookup key := by
  induction pending generalizing r with
  | nil => cases hp
  | cons q pending ih =>
    rw [List.forall_mem_cons] at h
    by_cases hv : Formula.evaluate r.lookup sheet q.2 = .null
    · rw [passTries_cons_of_eq_null hv] at hp
      rcases List.mem_cons.1 hp with heq | hp
      · rw [(Prod.mk.inj heq).2]
      · exact ih hp h.2
    · rw [passTries_cons_of_ne_null hv] at hp
      rcases List.mem_cons.1 hp with heq | hp
      · rw [(Prod.mk.inj heq).2]
      · exact (ih hp h.2).trans (Results.lookup_write_of_not_isKeyOf r _ h.1)

theorem lookup_pass (h : ∀ q ∈ pending, ¬ IsKeyOf sheet isDefault q.1 key) :
    (pass sheet isDefault pending r).2.lookup key = r.lookup key := by
  refine (run_pass sheet isDefault pending r).lookup_of_not_isKeyOf fun q hq => h q ?_
  exact mem_of_mem_passOrder sheet isDefault pending r q hq

/-- Nothing is written between two tries under a key that no pending cell has. -/
theorem lookup_of_mem_tries {limit : Nat} {s : State}
    (hp : (p, r') ∈ tries sheet isDefault limit s)
    (h : ∀ q ∈ s.pending, ¬ IsKeyOf sheet isDefault q.1 key) :
    r'.lookup key = s.results.lookup key := by
  induction limit generalizing s with
  | zero => cases hp
  | succ limit ih =>
    rw [tries] at hp
    split at hp
    · cases hp
    · rcases List.mem_append.1 hp with hp | hp
      · exact lookup_of_mem_passTries hp h
      · split at hp
        · have hnext : ∀ q ∈ (s.next sheet isDefault).pending, ¬ IsKeyOf sheet isDefault q.1 key :=
            fun q hq => h q ((sublist_pass sheet isDefault s.pending s.results).mem hq)
          rw [ih hp hnext]
          exact lookup_pass h
        · cases hp

end Lookup

end Calculation

/-- Every try of a formula of a sheet. -/
def Sheet.tries (s : Sheet) (isDefault : Bool) (r : Results) : List (Pending × Results) :=
  Calculation.tries s.name isDefault (max 1 (2 * s.formulas.length)) (s.first isDefault r)

theorem Sheet.lookup_of_mem_tries {s : Sheet} {isDefault : Bool} {r r' : Results} {p : Pending}
    {key : String} (hp : (p, r') ∈ s.tries isDefault r)
    (h : ∀ c ∈ s.cells, ¬ IsKeyOf s.name isDefault c key) : r'.lookup key = r.lookup key :=
  (Calculation.lookup_of_mem_tries hp fun q hq => h q.1 (mem_cells_of_mem_formulas hq)).trans
    (lookup_seeded r h)

/-! ## Sheet after sheet -/

namespace Workbook
variable {w w' : Workbook}

/-- No sheet sees a later one, and no sheet changes what an earlier one left. -/
structure Forward (w : Workbook) : Prop where
  blind : ∀ earlier s later, w.ordered = earlier ++ s :: later → ∀ p r,
    (p, r) ∈ s.tries (w.isDefault s) (w.resultsAfter earlier) →
      ∀ t ∈ later, Formula.Blind r.lookup s.name t.name
  kept : ∀ earlier t later, w.ordered = earlier ++ t :: later → ∀ s ∈ earlier, ∀ c key,
    IsKeyOf s.name (w.isDefault s) c key →
      (t.calculate (w.isDefault t) (w.resultsAfter earlier)).2.lookup key =
        (w.resultsAfter earlier).lookup key

theorem DistinctNames.forward (hw : w.DistinctNames) : w.Forward := by
  refine ⟨?_, ?_⟩
  · intro earlier s later ho p r hp t ht
    have ht' : t ∈ s :: later := List.mem_cons_of_mem s ht
    have ho' : w.ordered = (earlier ++ [s]) ++ later := by rw [ho, List.append_cons]
    have hs : s ∈ earlier ++ [s] := List.mem_concat_self
    refine Formula.blind_of_lookup s.name fun c => ?_
    -- neither this sheet nor an earlier one has written the key
    have hk := IsKeyOf.self t.name (w.isDefault t) c
    rw [Sheet.lookup_of_mem_tries hp fun d _ => hw.not_isKeyOf_earlier ho' ht hk s hs d]
    exact hw.lookup_resultsAfter ho ht' hk
  · intro earlier t later ho s hs c key hk
    exact Sheet.lookup_calculate _ fun d _ =>
      hw.not_isKeyOf_later ho hs hk t (List.mem_cons_self ..) d

/-! ## Two workbooks that start alike -/

theorem take_reportsFrom (w : Workbook) (r : Results) (earlier later : List Sheet) :
    (w.reportsFrom r (earlier ++ later)).take earlier.length = w.reportsFrom r earlier := by
  induction earlier generalizing r with
  | nil => rfl
  | cons s earlier ih => exact congrArg _ (ih _)

theorem resultsAfter_congr (h : w.isDefault = w'.isDefault) :
    w.resultsAfter = w'.resultsAfter := by
  funext sheets
  rw [resultsAfter, resultsAfter, h]

theorem reportsFrom_congr (h : w.isDefault = w'.isDefault) :
    w.reportsFrom = w'.reportsFrom := by
  funext r sheets
  induction sheets generalizing r with
  | nil => rfl
  | cons s sheets ih => rw [reportsFrom, reportsFrom, h, ih]

theorem isDefault_congr {first later later' : List Sheet} (hf : first ≠ [])
    (ho : w.ordered = first ++ later) (ho' : w'.ordered = first ++ later') :
    w.isDefault = w'.isDefault := by
  obtain ⟨s, first, rfl⟩ := List.exists_cons_of_ne_nil hf
  funext t
  rw [isDefault, isDefault, defaultSheet?, defaultSheet?, ho, ho']
  rfl

/-- Two workbooks have the same reports on these sheets and the same values under their keys. -/
structure AlikeOn (first : List Sheet) (w w' : Workbook) : Prop where
  reports_eq : w.calculate.2.take first.length = w'.calculate.2.take first.length
  isKeyOf_iff : ∀ s ∈ first, ∀ c key,
    IsKeyOf s.name (w.isDefault s) c key ↔ IsKeyOf s.name (w'.isDefault s) c key
  lookup_eq : ∀ s ∈ first, ∀ c key, IsKeyOf s.name (w.isDefault s) c key →
    w.calculate.1.lookup key = w'.calculate.1.lookup key

/-- The first sheets do not depend on those that follow. -/
theorem forward_calculate (hw : w.DistinctNames) (hw' : w'.DistinctNames)
    {first later later' : List Sheet} (hf : first ≠ []) (ho : w.ordered = first ++ later)
    (ho' : w'.ordered = first ++ later') : AlikeOn first w w' ∧ w.Forward := by
  have hdefault := isDefault_congr hf ho ho'
  refine ⟨⟨?_, fun s _ c key => by rw [hdefault], fun s hs c key hk => ?_⟩, hw.forward⟩
  · rw [calculate_snd, calculate_snd, ho, ho', take_reportsFrom, take_reportsFrom,
      reportsFrom_congr hdefault]
  · rw [hw.lookup_calculate ho hs hk, resultsAfter_congr hdefault]
    rw [hdefault] at hk
    exact (hw'.lookup_calculate ho' hs hk).symm

/-- A sheet that refers to a later one. -/
def readerSheet : Sheet where
  name := "S"
  cells := ((∅ : Grid).insert ⟨1, 1⟩ (.formula "=T!A1+1")).insert ⟨2, 1⟩ (.formula "=SUM(T!A1)")

def readSheet : Sheet where
  name := "T"
  cells := (∅ : Grid).insert ⟨1, 1⟩ (.constant (.number 9))

/-- With or without the sheet that it refers to, the first one comes out the same. -/
theorem forward_reader :
    (addSheet (addSheet { } readerSheet) readSheet).DistinctNames ∧
    (addSheet { } readerSheet).DistinctNames ∧
    AlikeOn [readerSheet] (addSheet (addSheet { } readerSheet) readSheet)
      (addSheet { } readerSheet) ∧
    (addSheet (addSheet { } readerSheet) readSheet).Forward := by
  have hw : (addSheet (addSheet { } readerSheet) readSheet).DistinctNames :=
    ⟨by decide +kernel, by decide +kernel⟩
  have hw' : (addSheet { } readerSheet).DistinctNames := ⟨by decide +kernel, by decide +kernel⟩
  have ho : (addSheet (addSheet { } readerSheet) readSheet).ordered =
      [readerSheet] ++ [readSheet] := rfl
  have ho' : (addSheet { } readerSheet).ordered = [readerSheet] ++ [] := rfl
  exact ⟨hw, hw', forward_calculate hw hw' (List.cons_ne_nil _ _) ho ho'⟩

end Workbook

end Recalc
