import Recalc.Proofs.Text.Order
import Recalc.Proofs.Workbook.Complete
import Recalc.Proofs.Workbook.Shape

/-!
# What overrides change

Overrides keep the shape of a workbook, so a key names the same place before and after them. A cell
that keys name holds the number of the last of them, qualified keys first, each group by bytes, and
every other cell stays (`overridden_applyOverrides`). The number survives the run
(`overridden_run_load`).
-/

namespace Recalc

/-- The order in which overrides are applied: qualified keys before bare ones, each by bytes. -/
def Precedes (a b : String) : Prop :=
  '!' ∈ a.toList ∧ '!' ∉ b.toList ∨
    ('!' ∈ a.toList ↔ '!' ∈ b.toList) ∧ Text.bytes a < Text.bytes b

namespace Precedes
variable {a b : String}

theorem asymm (h : Precedes a b) : ¬ Precedes b a := by
  rcases h with ⟨ha, hb⟩ | ⟨hiff, hlt⟩
  · rintro (⟨hb', -⟩ | ⟨hiff, -⟩)
    · exact hb hb'
    · exact hb (hiff.2 ha)
  · rintro (⟨hb, ha⟩ | ⟨-, hlt'⟩)
    · exact ha (hiff.2 hb)
    · exact List.lt_asymm hlt hlt'

end Precedes

namespace Workbook

/-! ## One override -/

section Override
variable {w v : Workbook} {key : String} {x : Float} {name : String} {c : Coordinate}

theorem cell?_of_locate? (h : w.locate? key = some (name, c)) :
    w.cell? key =
      (w.contents[name]?).bind fun s => (s.cells[c]?).map fun cell => (s.name, c, cell) := by
  rw [cell?, h]
  rfl

theorem cell?_of_locate?_eq_none (h : w.locate? key = none) : w.cell? key = none := by
  rw [cell?, h]
  rfl

theorem isSome_cell? (h : w.locate? key = some (name, c)) :
    (w.cell? key).isSome = (w.stored name c).isSome := by
  rw [cell?_of_locate? h, stored]
  cases w.contents[name]? with
  | none => rfl
  | some s => exact Option.isSome_map

theorem SameShape.isSome_cell? (h : w.SameShape v) (key : String) :
    (v.cell? key).isSome = (w.cell? key).isSome := by
  cases hl : w.locate? key with
  | none =>
    rw [cell?_of_locate?_eq_none hl, cell?_of_locate?_eq_none ((h.locate?_eq key).trans hl)]
  | some place =>
    obtain ⟨name, c⟩ := place
    rw [Workbook.isSome_cell? hl, Workbook.isSome_cell? ((h.locate?_eq key).trans hl),
      h.isSome_stored]

theorem isSome_override? (w : Workbook) (key : String) (x : Float) :
    (w.override? key x).isSome = (w.cell? key).isSome := by
  cases hl : w.locate? key with
  | none =>
    rw [cell?_of_locate?_eq_none hl, Workbook.override?, hl]
    rfl
  | some place =>
    obtain ⟨name, c⟩ := place
    rw [cell?_of_locate? hl, Workbook.override?, hl, Option.bind_some]
    dsimp only
    cases w.contents[name]? with
    | none => rfl
    | some s =>
      rw [Option.bind_some, Option.bind_some, Option.isSome_map,
        ← Std.ExtTreeMap.contains_eq_isSome_getElem?]
      cases s.cells.contains c <;> rfl

/-- An override changes the place that its key names, and no other. -/
theorem stored_override? (h : w.override? key x = some v) (name : String) (c : Coordinate) :
    v.stored name c =
      if w.locate? key = some (name, c) then some (.constant (.number x)) else w.stored name c := by
  obtain ⟨⟨name', c'⟩, hl, h⟩ := Option.bind_eq_some_iff.1 h
  obtain ⟨s, hs, h⟩ := Option.bind_eq_some_iff.1 h
  split at h
  · obtain rfl := Option.some.inj h
    rw [hl, stored, Coordinate.getElem?_insert_key]
    by_cases hname : name' = name
    · subst hname
      rw [if_pos rfl, Option.bind_some, Sheet.getElem?_cells_set, stored, hs, Option.bind_some]
      by_cases hc : c' = c
      · rw [if_pos hc, if_pos (by rw [hc])]
      · rw [if_neg hc, if_neg fun heq => hc (congrArg Prod.snd (Option.some.inj heq))]
    · rw [if_neg hname, if_neg fun heq => hname (congrArg Prod.fst (Option.some.inj heq))]
      rfl
  · cases h

end Override

/-! ## Many overrides -/

/-- One more override, counted if it names a stored cell. -/
def applyOne (s : Workbook × Nat) (p : String × Float) : Workbook × Nat :=
  match s.1.override? p.1 p.2 with
  | some w => (w, s.2 + 1)
  | none => s

def applyAll (overrides : List (String × Float)) (s : Workbook × Nat) : Workbook × Nat :=
  overrides.foldl applyOne s

theorem applyOverrides_eq (w : Workbook) (o : Overrides) :
    w.applyOverrides o = applyAll (inOrder o) (w, 0) :=
  rfl

/-- The number of the last override in a list whose key names a place. -/
def lastNumber? (w : Workbook) (place : String × Coordinate) :
    List (String × Float) → Option Float
  | [] => none
  | (key, x) :: overrides =>
    (w.lastNumber? place overrides).or (if w.locate? key = some place then some x else none)

section ApplyAll
variable (s : Workbook × Nat) (p : String × Float)

theorem sameShape_applyOne : s.1.SameShape (applyOne s p).1 := by
  rw [applyOne]
  split
  · rename_i w h
    exact SameShape.override? h
  · exact SameShape.refl s.1

theorem applyOne_snd : (applyOne s p).2 = s.2 + if (s.1.cell? p.1).isSome then 1 else 0 := by
  rw [applyOne, ← isSome_override? s.1 p.1 p.2]
  split <;> simp [*]

theorem stored_applyOne (name : String) (c : Coordinate) :
    (applyOne s p).1.stored name c = (s.1.stored name c).map fun cell =>
      if s.1.locate? p.1 = some (name, c) then .constant (.number p.2) else cell := by
  have hsome := isSome_override? s.1 p.1 p.2
  rw [applyOne]
  split
  · rename_i w h
    rw [stored_override? h]
    split
    · rename_i hl
      rw [h, isSome_cell? hl] at hsome
      obtain ⟨cell, hcell⟩ := Option.isSome_iff_exists.1 hsome.symm
      rw [hcell]
      rfl
    · exact Option.map_id_apply.symm
  · rename_i h
    split
    · rename_i hl
      rw [h, isSome_cell? hl] at hsome
      rw [Option.isNone_iff_eq_none.1 (Option.isSome_eq_false_iff.1 hsome.symm)]
      rfl
    · exact Option.map_id_apply.symm

variable (overrides : List (String × Float))

theorem sameShape_applyAll : s.1.SameShape (applyAll overrides s).1 := by
  induction overrides generalizing s with
  | nil => exact SameShape.refl s.1
  | cons p overrides ih => exact (sameShape_applyOne s p).trans (ih (applyOne s p))

theorem applyAll_snd :
    (applyAll overrides s).2 = s.2 + overrides.countP fun p => (s.1.cell? p.1).isSome := by
  induction overrides generalizing s with
  | nil => rfl
  | cons p overrides ih =>
    show (applyAll overrides (applyOne s p)).2 = _
    rw [ih, applyOne_snd, List.countP_cons]
    simp only [(sameShape_applyOne s p).isSome_cell?]
    omega

theorem SameShape.lastNumber?_eq {w v : Workbook} (h : w.SameShape v)
    (place : String × Coordinate) :
    v.lastNumber? place overrides = w.lastNumber? place overrides := by
  induction overrides with
  | nil => rfl
  | cons p overrides ih => rw [lastNumber?, lastNumber?, ih, h.locate?_eq]

/-- A stored cell holds the number of the last override that names it, if any does. -/
theorem stored_applyAll (name : String) (c : Coordinate) :
    (applyAll overrides s).1.stored name c = (s.1.stored name c).map fun cell =>
      ((s.1.lastNumber? (name, c) overrides).map fun x => Cell.constant (.number x)).getD cell := by
  induction overrides generalizing s with
  | nil => exact Option.map_id_apply.symm
  | cons p overrides ih =>
    show (applyAll overrides (applyOne s p)).1.stored name c = _
    rw [ih, stored_applyOne, (sameShape_applyOne s p).lastNumber?_eq, lastNumber?, Option.map_map]
    congr 1
    funext cell
    cases s.1.lastNumber? (name, c) overrides with
    | some x => rfl
    | none =>
      -- no later override names the cell, so this one decides
      by_cases hl : s.1.locate? p.1 = some (name, c)
      · simp only [Function.comp_apply, if_pos hl]
        rfl
      · simp only [Function.comp_apply, if_neg hl]
        rfl

end ApplyAll

/-! ## The order of overrides -/

theorem perm_inOrder (o : Overrides) : (inOrder o).Perm o.toList := by
  rw [inOrder, List.partition_eq_filter_filter]
  exact List.filter_append_perm _ _

theorem mem_inOrder {o : Overrides} {key : String} {x : Float} :
    (key, x) ∈ inOrder o ↔ o[key]? = some x :=
  (perm_inOrder o).mem_iff.trans Std.ExtTreeMap.mem_toList_iff_getElem?_eq_some

theorem pairwise_inOrder (o : Overrides) : (inOrder o).Pairwise fun p q => Precedes p.1 q.1 := by
  have hsorted := Text.pairwise_bytes_lt_toList o
  have hqualified : ∀ p ∈ o.toList.filter fun p => p.1.toList.contains '!', '!' ∈ p.1.toList :=
    fun p hp => List.contains_iff_mem.1 (List.mem_filter.1 hp).2
  have hbare : ∀ p ∈ o.toList.filter (not ∘ fun p => p.1.toList.contains '!'),
      '!' ∉ p.1.toList := by
    intro p hp hmem
    have hnot : (!p.1.toList.contains '!') = true := (List.mem_filter.1 hp).2
    rw [List.contains_iff_mem.2 hmem] at hnot
    cases hnot
  rw [inOrder, List.partition_eq_filter_filter]
  refine List.pairwise_append.2 ⟨?_, ?_, fun p hp q hq => Or.inl ⟨hqualified p hp, hbare q hq⟩⟩
  · exact (hsorted.filter _).imp_of_mem fun hp hq hlt =>
      Or.inr ⟨iff_of_true (hqualified _ hp) (hqualified _ hq), hlt⟩
  · exact (hsorted.filter _).imp_of_mem fun hp hq hlt =>
      Or.inr ⟨iff_of_false (hbare _ hp) (hbare _ hq), hlt⟩

section Last
variable {w : Workbook} {place : String × Coordinate} {overrides : List (String × Float)}

theorem lastNumber?_eq_none_iff :
    w.lastNumber? place overrides = none ↔ ∀ p ∈ overrides, w.locate? p.1 ≠ some place := by
  induction overrides with
  | nil => simp [lastNumber?]
  | cons p overrides ih =>
    rw [lastNumber?, Option.or_eq_none_iff, ih, List.forall_mem_cons, and_comm]
    simp

theorem exists_of_lastNumber? (ho : overrides.Pairwise fun p q => Precedes p.1 q.1) {x : Float}
    (h : w.lastNumber? place overrides = some x) :
    ∃ key, (key, x) ∈ overrides ∧ w.locate? key = some place ∧
      ∀ p ∈ overrides, w.locate? p.1 = some place → p.1 = key ∨ Precedes p.1 key := by
  induction overrides with
  | nil => cases h
  | cons p overrides ih =>
    rw [List.pairwise_cons] at ho
    rcases Option.or_eq_some_iff.1 h with h | ⟨hnone, h⟩
    · obtain ⟨key, hmem, hl, hlast⟩ := ih ho.2 h
      refine ⟨key, List.mem_cons_of_mem p hmem, hl, List.forall_mem_cons.2 ⟨fun _ => ?_, hlast⟩⟩
      -- the head comes before all others, whether it names the place or not
      exact Or.inr (ho.1 _ hmem)
    · split at h
      · rename_i hl
        obtain rfl := Option.some.inj h
        refine ⟨p.1, List.mem_cons_self .., hl, List.forall_mem_cons.2 ⟨fun _ => Or.inl rfl, ?_⟩⟩
        exact fun q hq hlq => absurd hlq (lastNumber?_eq_none_iff.1 hnone q hq)
      · cases h

/-- The override that is applied last of those whose keys name a place. -/
structure IsLastFor (w : Workbook) (o : Overrides) (place : String × Coordinate) (key : String)
    (x : Float) : Prop where
  getElem?_eq : o[key]? = some x
  locate?_eq : w.locate? key = some place
  last : ∀ key' ∈ o, w.locate? key' = some place → key' = key ∨ Precedes key' key

variable {o : Overrides}

theorem IsLastFor.unique {key key' : String} {x x' : Float} (h : w.IsLastFor o place key x)
    (h' : w.IsLastFor o place key' x') : x = x' := by
  obtain ⟨hmem, -⟩ := Std.ExtTreeMap.getElem?_eq_some_iff.1 h.getElem?_eq
  obtain ⟨hmem', -⟩ := Std.ExtTreeMap.getElem?_eq_some_iff.1 h'.getElem?_eq
  have hkey : key = key' := by
    rcases h'.last key hmem h.locate?_eq with heq | hlt
    · exact heq
    · exact (h.last key' hmem' h'.locate?_eq).elim Eq.symm fun hgt => absurd hgt hlt.asymm
  have hx := h.getElem?_eq
  rw [hkey, h'.getElem?_eq] at hx
  exact (Option.some.inj hx).symm

theorem exists_isLastFor {x : Float} (h : w.lastNumber? place (inOrder o) = some x) :
    ∃ key, w.IsLastFor o place key x := by
  obtain ⟨key, hmem, hl, hlast⟩ := exists_of_lastNumber? (pairwise_inOrder o) h
  refine ⟨key, mem_inOrder.1 hmem, hl, fun key' hkey' hl' => ?_⟩
  exact hlast (key', o[key']) (mem_inOrder.2 (Std.ExtTreeMap.getElem?_eq_some_getElem hkey')) hl'

theorem lastNumber?_ne_none {key : String} (hkey : key ∈ o) (hl : w.locate? key = some place) :
    w.lastNumber? place (inOrder o) ≠ none := by
  have hmem : (key, o[key]) ∈ inOrder o :=
    mem_inOrder.2 (Std.ExtTreeMap.getElem?_eq_some_getElem hkey)
  exact fun h => lastNumber?_eq_none_iff.1 h _ hmem hl

end Last

/-! ## A map of overrides -/

/-- What overrides make of a workbook, and how many of them name a stored cell. -/
structure Overridden (w : Workbook) (o : Overrides) (w' : Workbook) (count : Nat) : Prop where
  /-- The list of sheets, the active sheet, and all of the loaded sheets but what their cells
  hold. -/
  sameShape : w.SameShape w'
  exists_last : ∀ place key, key ∈ o → w.locate? key = some place →
    ∃ key' x, w.IsLastFor o place key' x
  number : ∀ name c key x, w.IsLastFor o (name, c) key x → (w.stored name c).isSome →
    w'.stored name c = some (.constant (.number x))
  other : ∀ name c, (∀ key ∈ o, w.locate? key ≠ some (name, c)) →
    w'.stored name c = w.stored name c
  count_eq : count = (o.keys.filter fun key => (w.cell? key).isSome).length
  /-- A second time they change nothing. -/
  again : w'.applyOverrides o = (w', count)

section Overridden
variable (w : Workbook) (o : Overrides)

theorem sameShape_applyOverrides : w.SameShape (w.applyOverrides o).1 := by
  rw [applyOverrides_eq]
  exact sameShape_applyAll (w, 0) (inOrder o)

theorem stored_applyOverrides (name : String) (c : Coordinate) :
    (w.applyOverrides o).1.stored name c = (w.stored name c).map fun cell =>
      ((w.lastNumber? (name, c) (inOrder o)).map fun x => Cell.constant (.number x)).getD cell := by
  rw [applyOverrides_eq]
  exact stored_applyAll (w, 0) (inOrder o) name c

theorem applyOverrides_snd :
    (w.applyOverrides o).2 = (inOrder o).countP fun p => (w.cell? p.1).isSome := by
  rw [applyOverrides_eq, applyAll_snd, Nat.zero_add]

variable {w o}

theorem SameShape.applyOverrides_snd {v : Workbook} (h : w.SameShape v) (o : Overrides) :
    (v.applyOverrides o).2 = (w.applyOverrides o).2 := by
  rw [Workbook.applyOverrides_snd, Workbook.applyOverrides_snd]
  simp only [h.isSome_cell?]

theorem stored_of_isLastFor {name : String} {c : Coordinate} {key : String} {x : Float}
    (h : w.IsLastFor o (name, c) key x) (hcell : (w.stored name c).isSome) :
    (w.applyOverrides o).1.stored name c = some (.constant (.number x)) := by
  obtain ⟨hmem, -⟩ := Std.ExtTreeMap.getElem?_eq_some_iff.1 h.getElem?_eq
  obtain ⟨y, hy⟩ := Option.ne_none_iff_exists'.1 (lastNumber?_ne_none hmem h.locate?_eq)
  obtain ⟨key', hlast⟩ := exists_isLastFor hy
  obtain ⟨cell, hcell⟩ := Option.isSome_iff_exists.1 hcell
  rw [stored_applyOverrides, hy, hcell, ← h.unique hlast]
  rfl

variable (w o) in
/-- Overrides change the cells that they name, and nothing else. -/
theorem overridden_applyOverrides :
    w.Overridden o (w.applyOverrides o).1 (w.applyOverrides o).2 := by
  have hshape := w.sameShape_applyOverrides o
  refine ⟨hshape, ?_, fun name c key x => stored_of_isLastFor, ?_, ?_, ?_⟩
  · intro place key hkey hl
    obtain ⟨x, hx⟩ := Option.ne_none_iff_exists'.1 (lastNumber?_ne_none hkey hl)
    obtain ⟨key', hlast⟩ := exists_isLastFor hx
    exact ⟨key', x, hlast⟩
  · intro name c hnone
    have hlast : w.lastNumber? (name, c) (inOrder o) = none := by
      refine lastNumber?_eq_none_iff.2 fun p hp => ?_
      obtain ⟨hmem, -⟩ := Std.ExtTreeMap.getElem?_eq_some_iff.1 (mem_inOrder.1 hp)
      exact hnone p.1 hmem
    rw [stored_applyOverrides, hlast]
    exact Option.map_id_apply
  · rw [applyOverrides_snd, (perm_inOrder o).countP_eq, ← Std.ExtTreeMap.map_fst_toList_eq_keys,
      ← List.countP_eq_length_filter, List.countP_map]
    rfl
  · refine Prod.ext ((sameShape_applyOverrides _ o).eq_of_stored fun name c => ?_)
      (hshape.applyOverrides_snd o)
    rw [stored_applyOverrides, stored_applyOverrides, hshape.lastNumber?_eq, Option.map_map]
    congr 1
    funext cell
    cases w.lastNumber? (name, c) (inOrder o) <;> rfl

end Overridden

/-! ## Runs -/

theorem ordered_of_not_hasModel {w : Workbook} (h : w.hasModel = false) : w.ordered = [] := by
  rw [hasModel, Bool.not_eq_false', Std.ExtTreeMap.isEmpty_iff] at h
  rw [ordered, h, List.filterMap_eq_nil_iff]
  exact fun e _ => Std.ExtTreeMap.getElem?_empty

end Workbook

theorem Results.lookup_rounded (r : Results) (key : String) :
    r.rounded.lookup key = (r.lookup key).map Value.rounded :=
  Std.ExtTreeMap.getElem?_map

theorem Results.mem_rounded {r : Results} {key : String} : key ∈ r.rounded ↔ key ∈ r :=
  Std.ExtTreeMap.mem_map

namespace Workbook

/-- A run rounds what is calculated under the overrides. -/
theorem cells_run (w : Workbook) (o : Overrides) :
    (w.run o).1.cells = (w.applyOverrides o).1.calculate.1.rounded := by
  rw [run]
  split
  · rfl
  · rename_i h
    have hshape := (w.sameShape_applyOverrides o).ordered
    rw [ordered_of_not_hasModel (Bool.eq_false_iff.2 h), List.forall₂_nil_left_iff] at hshape
    refine Results.ext fun key => ?_
    rw [Results.lookup_rounded, calculate_fst, hshape]
    rfl

/-- Every loaded sheet is listed. -/
def Listed (w : Workbook) : Prop :=
  ∀ name ∈ w.contents, ∃ e ∈ w.entries, e.name = name

variable {w : Workbook} {o : Overrides} {name : String} {c : Coordinate}

theorem Listed.applyOverrides (h : w.Listed) (o : Overrides) : (w.applyOverrides o).1.Listed := by
  intro name hname
  rw [entries_applyOverrides]
  exact h name ((mem_contents_applyOverrides w o name).1 hname)

theorem Named.applyOverrides (h : w.Named) (o : Overrides) : (w.applyOverrides o).1.Named := by
  refine ⟨?_, ?_⟩
  · rw [entries_applyOverrides]
    exact h.nodup
  · rw [entries_applyOverrides]
    exact h.ne_empty

theorem Listed.mem_ordered (h : w.Listed) {s : Sheet} (hs : w.contents[name]? = some s) :
    s ∈ w.ordered := by
  obtain ⟨hmem, -⟩ := Std.ExtTreeMap.getElem?_eq_some_iff.1 hs
  obtain ⟨e, he, rfl⟩ := h name hmem
  exact List.mem_filterMap.2 ⟨e, he, hs⟩

theorem Listed.exists_of_stored (h : w.Listed) {cell : Cell}
    (hcell : w.stored name c = some cell) :
    ∃ s ∈ w.ordered, w.contents[name]? = some s ∧ s.cells[c]? = some cell := by
  obtain ⟨s, hs, hcell'⟩ := Option.bind_eq_some_iff.1 hcell
  exact ⟨s, h.mem_ordered hs, hs, hcell'⟩

/-- The number that a cell is overridden with survives the calculation. -/
theorem Sound.lookup_run (hw : w.Sound) (hn : w.Named) (hl : w.Listed) {key : String} {x : Float}
    (hlast : w.IsLastFor o (name, c) key x) (hcell : (w.stored name c).isSome) :
    (w.run o).1.cells.lookup (c.key name) = some (.number (roundNumber x)) := by
  have hsound := hw.applyOverrides o
  obtain ⟨s, hs, hname, hconstant⟩ :=
    (hl.applyOverrides o).exists_of_stored (stored_of_isLastFor hlast hcell)
  obtain rfl := (hsound name s hname).name_eq
  rw [cells_run, Results.lookup_rounded,
    (hsound.regular (hn.applyOverrides o)).lookup_constant hs hconstant (IsKeyOf.self ..)]
  rfl

end Workbook

namespace Export

theorem listed_load (files : Files) (directory : String) : (load files directory).Listed := by
  intro name hname
  obtain ⟨e, he, -, hname, -⟩ :=
    exists_entry_of_load files directory (Std.ExtTreeMap.getElem?_eq_some_getElem hname)
  exact ⟨e, he, hname⟩

/-- Overrides of a loaded workbook change the cells that they name and nothing else, and a run shows
each of these cells with its number, rounded. -/
theorem overridden_run_load (files : Files) (directory : String)
    (hn : (load files directory).Named) (o : Overrides) :
    (load files directory).Overridden o ((load files directory).applyOverrides o).1
      ((load files directory).applyOverrides o).2 ∧
    ∀ name c key x, (load files directory).IsLastFor o (name, c) key x →
      ((load files directory).stored name c).isSome →
        ((load files directory).run o).1.cells.lookup (c.key name) =
          some (.number (roundNumber x)) :=
  ⟨Workbook.overridden_applyOverrides _ o, fun _ _ _ _ hlast hcell =>
    (sound_load files directory).lookup_run hn (listed_load files directory) hlast hcell⟩

/-- Three keys of one cell; the bare one counts. -/
def aliases : Overrides :=
  (((∅ : Overrides).insert " a1" 3).insert "'S'!A1" 2).insert "S!A1" 9

theorem overridden_aliases : (load twoSheets "d").Named ∧
    (load twoSheets "d").Overridden aliases ((load twoSheets "d").applyOverrides aliases).1
      ((load twoSheets "d").applyOverrides aliases).2 ∧
    ((load twoSheets "d").run aliases).1.cells.lookup "S!A1" = some (.number (roundNumber 3)) := by
  have hn : (load twoSheets "d").Named := ⟨by decide +kernel, by decide +kernel⟩
  obtain ⟨hoverridden, hrun⟩ := overridden_run_load twoSheets "d" hn aliases
  obtain ⟨key, hlast⟩ : ∃ key, (load twoSheets "d").IsLastFor aliases ("S", ⟨1, 1⟩) key 3 :=
    Workbook.exists_isLastFor (by decide +kernel)
  have hkey : Coordinate.key "S" ⟨1, 1⟩ = "S!A1" := by decide +kernel
  refine ⟨hn, hoverridden, ?_⟩
  rw [← hkey]
  exact hrun "S" ⟨1, 1⟩ key 3 hlast (by decide +kernel)

end Export

end Recalc
