import Recalc.Proofs.Workbook.Locality

/-!
# The shape of a workbook

Workbooks have the same shape if they differ in nothing but what their cells hold: they list the
same sheets, loaded the same of them, and store cells at the same places. So a key names the same
place in both (`SameShape.locate?_eq`). An override keeps the shape (`SameShape.override?`).
-/

namespace Recalc

/-! ## Sheets -/

/-- Two sheets that differ in nothing but what their cells hold. -/
structure Sheet.SameShape (s t : Sheet) : Prop where
  name_eq : t.name = s.name
  visibility_eq : t.visibility = s.visibility
  dimensions_eq : t.dimensions = s.dimensions
  mem_iff : ∀ c, c ∈ t.cells ↔ c ∈ s.cells

namespace Sheet
variable {s t u : Sheet}

theorem SameShape.refl (s : Sheet) : s.SameShape s :=
  ⟨rfl, rfl, rfl, fun _ => Iff.rfl⟩

theorem SameShape.trans (h : s.SameShape t) (h' : t.SameShape u) : s.SameShape u :=
  ⟨h'.name_eq.trans h.name_eq, h'.visibility_eq.trans h.visibility_eq,
    h'.dimensions_eq.trans h.dimensions_eq, fun c => (h'.mem_iff c).trans (h.mem_iff c)⟩

theorem SameShape.symm (h : s.SameShape t) : t.SameShape s :=
  ⟨h.name_eq.symm, h.visibility_eq.symm, h.dimensions_eq.symm, fun c => (h.mem_iff c).symm⟩

theorem getElem?_cells_set (s : Sheet) (c d : Coordinate) (cell : Cell) :
    (s.set c cell).cells[d]? = if c = d then some cell else s.cells[d]? :=
  Coordinate.getElem?_insert_key s.cells c d cell

/-- What is written over a stored cell keeps the shape. -/
theorem sameShape_set {c : Coordinate} (hc : c ∈ s.cells) (cell : Cell) :
    s.SameShape (s.set c cell) := by
  refine ⟨rfl, rfl, rfl, fun d => ?_⟩
  rw [Std.ExtTreeMap.mem_iff_isSome_getElem?, Std.ExtTreeMap.mem_iff_isSome_getElem?,
    getElem?_cells_set]
  split
  · rename_i heq
    rw [← heq, Std.ExtTreeMap.mem_iff_isSome_getElem?.1 hc]
    exact iff_of_true rfl rfl
  · exact Iff.rfl

theorem eq_of_sameShape (h : s.SameShape t)
    (hcells : ∀ c : Coordinate, t.cells[c]? = s.cells[c]?) : t = s := by
  obtain ⟨name, visibility, dimensions, cells⟩ := s
  obtain ⟨name', visibility', dimensions', cells'⟩ := t
  obtain ⟨rfl, rfl, rfl, -⟩ := h
  obtain rfl : cells' = cells := Std.ExtTreeMap.ext_getElem? hcells
  rfl

end Sheet

/-! ## Workbooks -/

namespace Workbook

/-- Two workbooks that differ in nothing but what their cells hold. -/
structure SameShape (w v : Workbook) : Prop where
  entries_eq : v.entries = w.entries
  activeSheet_eq : v.activeSheet = w.activeSheet
  contents : ∀ name : String, Option.Rel Sheet.SameShape w.contents[name]? v.contents[name]?

namespace SameShape
variable {w v u : Workbook}

theorem refl (w : Workbook) : w.SameShape w := by
  refine ⟨rfl, rfl, fun name => ?_⟩
  cases w.contents[name]? with
  | none => exact .none
  | some s => exact .some (Sheet.SameShape.refl s)

theorem contents_cases (h : w.SameShape v) (name : String) :
    (w.contents[name]? = none ∧ v.contents[name]? = none) ∨
      ∃ s t, w.contents[name]? = some s ∧ v.contents[name]? = some t ∧ s.SameShape t := by
  have hrel := h.contents name
  generalize w.contents[name]? = a at hrel ⊢
  generalize v.contents[name]? = b at hrel ⊢
  cases hrel with
  | none => exact Or.inl ⟨rfl, rfl⟩
  | some hst => exact Or.inr ⟨_, _, rfl, rfl, hst⟩

theorem trans (h : w.SameShape v) (h' : v.SameShape u) : w.SameShape u := by
  refine ⟨h'.entries_eq.trans h.entries_eq, h'.activeSheet_eq.trans h.activeSheet_eq,
    fun name => ?_⟩
  have hvu := h'.contents name
  rcases h.contents_cases name with ⟨hw, hv⟩ | ⟨s, t, hs, ht, hst⟩
  · rwa [hw, ← hv]
  · rw [ht] at hvu
    rw [hs]
    generalize u.contents[name]? = c at hvu ⊢
    cases hvu with
    | some htu => exact .some (hst.trans htu)

theorem symm (h : w.SameShape v) : v.SameShape w := by
  refine ⟨h.entries_eq.symm, h.activeSheet_eq.symm, fun name => ?_⟩
  rcases h.contents_cases name with ⟨hw, hv⟩ | ⟨s, t, hs, ht, hst⟩
  · rw [hw, hv]
    exact .none
  · rw [hs, ht]
    exact .some hst.symm

theorem override? {key : String} {x : Float} (h : w.override? key x = some v) : w.SameShape v := by
  obtain ⟨name, s, c, hs, hc, rfl⟩ := exists_of_override? h
  refine ⟨rfl, rfl, fun name' => ?_⟩
  rw [Coordinate.getElem?_insert_key]
  split
  · rename_i heq
    rw [← heq, hs]
    exact .some (Sheet.sameShape_set hc _)
  · exact (refl w).contents name'

theorem contains_eq (h : w.SameShape v) (name : String) :
    v.contents.contains name = w.contents.contains name := by
  rw [Std.ExtTreeMap.contains_eq_isSome_getElem?, Std.ExtTreeMap.contains_eq_isSome_getElem?]
  rcases h.contents_cases name with ⟨hw, hv⟩ | ⟨s, t, hs, ht, -⟩
  · rw [hw, hv]
  · rw [hs, ht]
    rfl

theorem ordered (h : w.SameShape v) : List.Forall₂ Sheet.SameShape w.ordered v.ordered := by
  rw [Workbook.ordered, Workbook.ordered, h.entries_eq]
  refine List.rel_filterMap (R := Eq) ?_ (List.forall₂_refl w.entries)
  rintro e _ rfl
  exact h.contents e.name

theorem exists_of_mem_ordered (h : w.SameShape v) {t : Sheet} (ht : t ∈ v.ordered) :
    ∃ s ∈ w.ordered, s.SameShape t := by
  obtain ⟨e, he, ht⟩ := exists_entry ht
  rcases h.contents_cases e.name with ⟨-, hv⟩ | ⟨s, t', hs, ht', hst⟩
  · rw [hv] at ht
    cases ht
  · obtain rfl := Option.some.inj (ht'.symm.trans ht)
    exact ⟨s, List.mem_filterMap.2 ⟨e, h.entries_eq ▸ he, hs⟩, hst⟩

theorem exists_mem_ordered (h : w.SameShape v) {s : Sheet} (hs : s ∈ w.ordered) :
    ∃ t ∈ v.ordered, s.SameShape t := by
  obtain ⟨t, ht, hts⟩ := h.symm.exists_of_mem_ordered hs
  exact ⟨t, ht, hts.symm⟩

theorem defaultSheet?_eq (h : w.SameShape v) : v.defaultSheet? = w.defaultSheet? :=
  (defaultSheet?_congr (fun _ _ hst => hst.name_eq.symm) h.ordered).symm

theorem locate?_eq (h : w.SameShape v) (key : String) : v.locate? key = w.locate? key := by
  rw [Workbook.locate?, Workbook.locate?, h.defaultSheet?_eq]
  simp only [h.contains_eq]

theorem isSome_stored (h : w.SameShape v) (name : String) (c : Coordinate) :
    (v.stored name c).isSome = (w.stored name c).isSome := by
  rw [stored, stored]
  rcases h.contents_cases name with ⟨hw, hv⟩ | ⟨s, t, hs, ht, hst⟩
  · rw [hw, hv]
  · have hmem := hst.mem_iff c
    rw [Std.ExtTreeMap.mem_iff_isSome_getElem?, Std.ExtTreeMap.mem_iff_isSome_getElem?] at hmem
    rw [hs, ht]
    exact Bool.eq_iff_iff.2 hmem

/-- Workbooks of one shape with the same cells are equal. -/
theorem eq_of_stored (h : w.SameShape v) (hcells : ∀ name c, v.stored name c = w.stored name c) :
    v = w := by
  have hcontents : v.contents = w.contents := by
    refine Std.ExtTreeMap.ext_getElem? fun name => ?_
    rcases h.contents_cases name with ⟨hw, hv⟩ | ⟨s, t, hs, ht, hst⟩
    · rw [hw, hv]
    · have hstored := hcells name
      simp only [stored, hs, ht, Option.bind_some] at hstored
      rw [hs, ht, Sheet.eq_of_sameShape hst hstored]
  obtain ⟨entries, activeSheet, contents⟩ := w
  obtain ⟨entries', activeSheet', contents'⟩ := v
  obtain ⟨rfl, rfl, -⟩ := h
  obtain rfl : contents' = contents := hcontents
  rfl

end SameShape

end Workbook

end Recalc
