import Mathlib.Data.List.Forall2
import Recalc.Proofs.Calculation.Restrict
import Recalc.Proofs.Formula.Dependencies
import Recalc.Proofs.Workbook.Calculate

/-!
# Locality of overrides

Take a set of cells such that the formulas in it depend on the set only. If two override maps leave
the same cells stored there, the two runs give the same values there (`agreeOn_calculate_load`):
whatever else they change, and however many passes the sheets then take, shows elsewhere only.
-/

namespace Recalc

open Calculation

/-! ## One sheet -/

namespace Sheet
variable {K : Set String} {s t : Sheet} {isDefault : Bool}

section Restrict
variable [DecidablePred (· ∈ K)]

/-- The sheet with its cells at keys of the set and no others. -/
def restrict (K : Set String) [DecidablePred (· ∈ K)] (s : Sheet) : Sheet :=
  { s with cells := s.cells.filter fun c _ => c.key s.name ∈ K }

theorem toList_restrict : (s.restrict K).cells.toList = within K s.name s.cells.toList :=
  Std.ExtTreeMap.toList_filter

theorem formulas_restrict : (s.restrict K).formulas = within K s.name s.formulas := by
  rw [formulas, toList_restrict]
  exact (within_filterMap Cell.formula? s.cells.toList).symm

theorem constants_restrict : (s.restrict K).constants = within K s.name s.constants := by
  rw [constants, toList_restrict]
  exact (within_filterMap Cell.constant? s.cells.toList).symm

variable (isDefault) in
/-- The calculation of the cells of a closed set gives them the values that they have in the whole
sheet. -/
theorem agreeOn_calculate_restrict (hK : Qualified K) (hs : IsClosed K s.name s.formulas)
    {r r' : Results} (h : AgreeOn K r.lookup r'.lookup) :
    AgreeOn K (s.calculate isDefault r).2.lookup
      ((s.restrict K).calculate isDefault r').2.lookup := by
  have hseed : AgreeOn K (s.seeded isDefault r).lookup
      ((s.restrict K).seeded isDefault r').lookup := by
    rw [seeded, seeded, constants_restrict]
    exact agreeOn_seed_within hK h s.constants
  obtain ⟨hstill, hagree⟩ : within K s.name (s.last isDefault r).pending =
        ((s.restrict K).last isDefault r').pending ∧
      AgreeOn K (s.last isDefault r).results.lookup
        ((s.restrict K).last isDefault r').results.lookup :=
    agreeOn_iterate_within (s := s.first isDefault r) (t := (s.restrict K).first isDefault r') hK hs
      formulas_restrict hseed (s.length_pending_first isDefault r)
      ((s.restrict K).length_pending_first isDefault r')
  rw [calculate_snd, calculate_snd, ← hstill]
  exact agreeOn_settle_within hK hagree _

end Restrict

/-- Two sheets of one name that store the same cells in the set, whose formulas there depend on the
set only. -/
structure Alike (K : Set String) (s t : Sheet) : Prop where
  name_eq : s.name = t.name
  cells_eq : ∀ c, Coordinate.key s.name c ∈ K → s.cells[c]? = t.cells[c]?
  closed : IsClosed K s.name s.formulas

theorem Alike.closed_right (h : Alike K s t) : IsClosed K t.name t.formulas := by
  intro p hp hk
  rw [← h.name_eq] at hk ⊢
  refine h.closed p ?_ hk
  rw [mem_formulas, h.cells_eq p.1 hk]
  exact mem_formulas.1 hp

variable (isDefault) in
theorem calculate_congr (hname : s.name = t.name) (hcells : s.cells = t.cells) :
    s.calculate isDefault = t.calculate isDefault := by
  obtain ⟨name, visibility, dimensions, cells⟩ := s
  cases hname
  cases hcells
  rfl

variable (isDefault) in
theorem Alike.agreeOn_calculate (hK : Qualified K) (h : Alike K s t) {r r' : Results}
    (hr : AgreeOn K r.lookup r'.lookup) :
    AgreeOn K (s.calculate isDefault r).2.lookup (t.calculate isDefault r').2.lookup := by
  classical
  have hcells : (s.restrict K).cells = (t.restrict K).cells := by
    refine Std.ExtTreeMap.ext_getElem? fun c => ?_
    rw [restrict, restrict, Std.ExtTreeMap.getElem?_filter', Std.ExtTreeMap.getElem?_filter',
      ← h.name_eq]
    by_cases hc : Coordinate.key s.name c ∈ K
    · rw [h.cells_eq c hc]
    · simp [hc]
  have hs := agreeOn_calculate_restrict isDefault hK h.closed (AgreeOn.refl K r.lookup)
  have ht := agreeOn_calculate_restrict isDefault hK h.closed_right hr.symm
  rw [← calculate_congr (s := s.restrict K) (t := t.restrict K) isDefault h.name_eq hcells] at ht
  exact hs.trans ht.symm

end Sheet

/-! ## Sheet after sheet -/

namespace Workbook

/-- The cell that is stored on a sheet. -/
def stored (w : Workbook) (name : String) (c : Coordinate) : Option Cell :=
  (w.contents[name]?).bind fun s => s.cells[c]?

variable {w w' : Workbook} {K : Set String}

/-- Where the sheets have the same names, so have the default sheets. -/
theorem defaultSheet?_congr {R : Sheet → Sheet → Prop} (hR : ∀ s t, R s t → s.name = t.name)
    (h : List.Forall₂ R w.ordered w'.ordered) : w.defaultSheet? = w'.defaultSheet? := by
  rw [defaultSheet?, defaultSheet?]
  generalize w.ordered = sheets at h ⊢
  generalize w'.ordered = sheets' at h ⊢
  cases h with
  | nil => rfl
  | cons hst _ => exact congrArg some (hR _ _ hst)

/-- Calculating alike sheets one after the other keeps results alike. -/
theorem agreeOn_calculate_of_forall₂ (hK : Qualified K)
    (h : List.Forall₂ (Sheet.Alike K) w.ordered w'.ordered) :
    AgreeOn K w.calculate.1.lookup w'.calculate.1.lookup := by
  have hdefault := defaultSheet?_congr (fun _ _ hst => hst.name_eq) h
  rw [calculate_fst, calculate_fst]
  refine List.rel_foldl (R := Sheet.Alike K)
    (P := fun r r' : Results => AgreeOn K r.lookup r'.lookup) ?_ (AgreeOn.refl K _) h
  intro r r' hr s t hst
  have hisDefault : w.isDefault s = w'.isDefault t := by
    rw [isDefault, isDefault, hdefault, hst.name_eq]
  show AgreeOn K (s.calculate (w.isDefault s) r).2.lookup
    (t.calculate (w'.isDefault t) r').2.lookup
  rw [hisDefault]
  exact hst.agreeOn_calculate _ hK hr

/-- The loaded sheets of two workbooks that store the same cells in a set are alike. -/
theorem Sound.alike_ordered (hw : w.Sound) (hw' : w'.Sound) (he : w.entries = w'.entries)
    (hm : ∀ name, name ∈ w.contents ↔ name ∈ w'.contents)
    (hcells : ∀ name c, Coordinate.key name c ∈ K → w.stored name c = w'.stored name c)
    (hclosed : ∀ name c f, Coordinate.key name c ∈ K → w.stored name c = some (.formula f) →
      Formula.DependsOn K name f) :
    List.Forall₂ (Sheet.Alike K) w.ordered w'.ordered := by
  rw [ordered, ordered, ← he]
  refine List.rel_filterMap (R := Eq) ?_ (List.forall₂_refl w.entries)
  rintro e _ rfl
  have hmem := hm e.name
  rw [Std.ExtTreeMap.mem_iff_isSome_getElem?, Std.ExtTreeMap.mem_iff_isSome_getElem?] at hmem
  show Option.Rel (Sheet.Alike K) w.contents[e.name]? w'.contents[e.name]?
  cases hs : w.contents[e.name]? with
  | none =>
    cases ht : w'.contents[e.name]? with
    | none => exact .none
    | some t =>
      rw [hs, ht] at hmem
      cases hmem.2 rfl
  | some s =>
    cases ht : w'.contents[e.name]? with
    | none =>
      rw [hs, ht] at hmem
      cases hmem.1 rfl
    | some t =>
      have hstored (c : Coordinate) : w.stored e.name c = s.cells[c]? := by
        rw [stored, hs, Option.bind_some]
      have hstored' (c : Coordinate) : w'.stored e.name c = t.cells[c]? := by
        rw [stored, ht, Option.bind_some]
      have hname := (hw e.name s hs).name_eq
      refine .some ⟨hname.trans (hw' e.name t ht).name_eq.symm, fun c hc => ?_, fun p hp hk => ?_⟩
      · rw [hname] at hc
        rw [← hstored, ← hstored', hcells e.name c hc]
      · rw [hname] at hk ⊢
        refine hclosed e.name p.1 p.2 hk ?_
        rw [hstored]
        exact Sheet.mem_formulas.1 hp

end Workbook

namespace Export

/-- Overrides that leave the same cells stored in a closed set give the same values there. -/
theorem agreeOn_calculate_load (files : Files) (directory : String) (o o' : Overrides)
    {K : Set String} (hK : Qualified K)
    (hcells : ∀ name c, Coordinate.key name c ∈ K →
      ((load files directory).applyOverrides o).1.stored name c =
        ((load files directory).applyOverrides o').1.stored name c)
    (hclosed : ∀ name c f, Coordinate.key name c ∈ K →
      ((load files directory).applyOverrides o).1.stored name c = some (.formula f) →
        Formula.DependsOn K name f) :
    AgreeOn K ((load files directory).applyOverrides o).1.calculate.1.lookup
      ((load files directory).applyOverrides o').1.calculate.1.lookup := by
  have hsound := sound_load files directory
  have hentries : ((load files directory).applyOverrides o).1.entries =
      ((load files directory).applyOverrides o').1.entries := by
    rw [Workbook.entries_applyOverrides, Workbook.entries_applyOverrides]
  refine Workbook.agreeOn_calculate_of_forall₂ hK ?_
  refine (hsound.applyOverrides o).alike_ordered (hsound.applyOverrides o') hentries ?_ hcells
    hclosed
  intro name
  rw [Workbook.mem_contents_applyOverrides, Workbook.mem_contents_applyOverrides]

/-- An export of two sheets, each with a constant and a formula that reads it. -/
def twoSheets : Files
  | "d" => some .directory
  | "d/_workbook.json" => some (manifestFile [("S", "s.json"), ("T", "t.json")])
  | "d/s.json" => some (cellsFile [("A1", numberRecord 1), ("B1", formulaRecord "=A1*2")])
  | "d/t.json" => some (cellsFile [("A1", numberRecord 5), ("B1", formulaRecord "=A1+1")])
  | _ => none

/-- The keys of the cells of the second sheet. -/
def secondKeys : Set String :=
  fun k => ∃ c, k = Coordinate.key "T" c

def cellsOf (w : Workbook) (name : String) : Option (List (Coordinate × Cell)) :=
  (w.contents[name]?).map fun s => s.cells.toList

theorem stored_eq_some_iff {w : Workbook} {name : String} {cells : List (Coordinate × Cell)}
    (h : cellsOf w name = some cells) {c : Coordinate} {cell : Cell} :
    w.stored name c = some cell ↔ (c, cell) ∈ cells := by
  obtain ⟨s, hs, rfl⟩ := Option.map_eq_some_iff.1 h
  rw [Workbook.stored, hs, Option.bind_some, Std.ExtTreeMap.mem_toList_iff_getElem?_eq_some]

theorem qualified_secondKeys : Qualified secondKeys := by
  rintro k ⟨c, rfl⟩
  exact ⟨"T", c, by decide, rfl⟩

theorem eq_of_mem_secondKeys {name : String} {c : Coordinate}
    (h : Coordinate.key name c ∈ secondKeys) : name = "T" := by
  obtain ⟨d, hd⟩ := h
  have hne : name ≠ "" := by
    rintro rfl
    exact Coordinate.key_ne_label (by decide : "T" ≠ "") d c hd.symm
  exact (Coordinate.key_inj_label hne (by decide) hd).1

theorem dependsOn_secondKeys : Formula.DependsOn secondKeys "T" "=A1+1" := by
  have hdetached : ∀ c ∈ Formula.callSites "=A1+1", c.Detached none := by decide +kernel
  have hcovered : Formula.aggregateKeys "T" "=A1+1" = [] := by decide +kernel
  have hread : ∀ body ∈ Formula.body? "=A1+1", ∀ r ∈ Reference.all body,
      ∀ k ∈ (r.keys? "T").getD [], k = Coordinate.key "T" ⟨1, 1⟩ := by
    decide +kernel
  refine Formula.dependsOn_of_detached hdetached ?_ fun body hb r hr k hk => ?_
  · rw [hcovered]
    intro k hk
    cases hk
  · exact ⟨⟨1, 1⟩, hread body hb r hr k hk⟩

/-- Overrides on the first sheet, be it of a constant or of a formula, do not show on the second. -/
theorem agreeOn_secondKeys :
    AgreeOn secondKeys
      (((load twoSheets "d").applyOverrides
        ((∅ : Overrides).insert "S!A1" 9)).1.calculate.1.lookup)
      (((load twoSheets "d").applyOverrides
        ((∅ : Overrides).insert "B1" 3)).1.calculate.1.lookup) := by
  have hfirst : cellsOf ((load twoSheets "d").applyOverrides ((∅ : Overrides).insert "S!A1" 9)).1
      "T" = some [(⟨1, 1⟩, .constant (.number 5)), (⟨1, 2⟩, .formula "=A1+1")] := by
    decide +kernel
  have hsecond : cellsOf ((load twoSheets "d").applyOverrides ((∅ : Overrides).insert "B1" 3)).1
      "T" = some [(⟨1, 1⟩, .constant (.number 5)), (⟨1, 2⟩, .formula "=A1+1")] := by
    decide +kernel
  refine agreeOn_calculate_load twoSheets "d" _ _ qualified_secondKeys ?_ ?_
  · intro name c hc
    obtain rfl := eq_of_mem_secondKeys hc
    refine Option.ext fun cell => ?_
    rw [stored_eq_some_iff hfirst, stored_eq_some_iff hsecond]
  · intro name c f hc hf
    obtain rfl := eq_of_mem_secondKeys hc
    rw [stored_eq_some_iff hfirst] at hf
    have hformula : c = ⟨1, 2⟩ ∧ f = "=A1+1" := by simpa using hf
    rw [hformula.2]
    exact dependsOn_secondKeys

end Export

end Recalc
