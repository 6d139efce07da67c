import Mathlib.Data.List.Perm.Basic
import Mathlib.Data.List.Sort
import Recalc.Grouping
import Recalc.Proofs.Text.Distinct
import Recalc.Proofs.Workbook.Overrides

/-!
# Grouped results

Grouping by sheet puts every value whose key tells a sheet and a coordinate into the group of this
sheet, once, and nothing else anywhere (`grouped_bySheet`). Keys tell back what they were built
from, so the groups of a run are the sheets of the workbook with all of their cells
(`Sound.listsCells_run`). The names of sheets may hold exclamation marks.
-/

namespace Recalc

namespace Results

/-! ## Parts of a list -/

/-- The items of a list are those under each of their names. -/
theorem perm_flatMap_filter {α κ : Type} [BEq κ] [LawfulBEq κ] (name : α → κ) {names : List κ}
    (hn : names.Nodup) {items : List α} (hitems : ∀ a ∈ items, name a ∈ names) :
    (names.flatMap fun n => items.filter fun a => name a == n).Perm items := by
  induction names generalizing items with
  | nil =>
    rw [List.eq_nil_iff_forall_not_mem.2 fun a ha => List.not_mem_nil (hitems a ha)]
    exact .nil
  | cons n names ih =>
    obtain ⟨hnew, hn⟩ := List.nodup_cons.1 hn
    have hrest : ∀ a ∈ items.filter (fun a => !(name a == n)), name a ∈ names := by
      intro a ha
      obtain ⟨ha, hne⟩ := List.mem_filter.1 ha
      refine (List.mem_cons.1 (hitems a ha)).resolve_left fun h => ?_
      rw [h, beq_self_eq_true] at hne
      cases hne
    have hparts : ∀ m ∈ names, (items.filter fun a => name a == m) =
        (items.filter fun a => !(name a == n)).filter fun a => name a == m := by
      intro m hm
      rw [List.filter_filter]
      refine List.filter_congr fun a _ => ?_
      by_cases h : name a = m
      · have hne : (name a == n) = false := beq_false_of_ne fun hna => hnew (hna ▸ h ▸ hm)
        rw [hne, Bool.not_false, Bool.and_true]
      · rw [beq_false_of_ne h, Bool.false_and]
    rw [List.flatMap_cons, List.flatMap_congr hparts]
    exact ((ih hn hrest).append_left _).trans (List.filter_append_perm _ items)

/-! ## Keys -/

/-- A key with the name of a sheet before its last exclamation mark and the label of a coordinate
behind it. -/
def Tells (key sheet : String) (c : Coordinate) : Prop :=
  ∃ label, '!' ∉ label ∧ key.toList = sheet.toList ++ '!' :: label ∧
    Coordinate.parse? label = some c

theorem place?_eq_some_iff {key sheet : String} {c : Coordinate} :
    place? key = some (sheet, c) ↔ Tells key sheet c := by
  constructor
  · intro h
    obtain ⟨⟨name, label⟩, hsplit, h⟩ := Option.bind_eq_some_iff.1 h
    obtain ⟨c', hc, h⟩ := Option.map_eq_some_iff.1 h
    obtain ⟨rfl, rfl⟩ := Prod.mk.inj h
    refine ⟨label, Text.not_mem_of_splitLast? hsplit, ?_, hc⟩
    rw [String.toList_ofList]
    exact Text.eq_append_of_splitLast? hsplit
  · rintro ⟨label, hlabel, hkey, hc⟩
    rw [place?, hkey, Text.splitLast?_append hlabel]
    simp only [Option.bind_some, hc, Option.map_some, String.ofList_toList]

theorem tells_key {sheet : String} {c : Coordinate} (hs : sheet ≠ "") (hc : c.Positive) :
    Tells (c.key sheet) sheet c :=
  ⟨c.labelChars, Coordinate.bang_not_mem_labelChars c, Coordinate.toList_key hs c,
    Coordinate.parse?_labelChars hc⟩

namespace Tells
variable {key sheet sheet' : String} {isDefault : Bool} {c c' : Coordinate}

theorem unique (h : Tells key sheet c) (h' : Tells key sheet' c') : sheet = sheet' ∧ c = c' := by
  have heq := place?_eq_some_iff.2 h
  rw [place?_eq_some_iff.2 h'] at heq
  exact (Prod.mk.inj (Option.some.inj heq)).imp Eq.symm Eq.symm

/-- Of the two keys of a cell the label tells nothing, and the other one tells the cell. -/
theorem of_isKeyOf (h : Tells key sheet c) (hs : sheet' ≠ "") (hc : c'.Positive)
    (hk : IsKeyOf sheet' isDefault c' key) : sheet = sheet' ∧ c = c' ∧ key = c.key sheet := by
  rcases hk with rfl | ⟨-, rfl⟩
  · obtain ⟨rfl, rfl⟩ := h.unique (tells_key hs hc)
    exact ⟨rfl, rfl, rfl⟩
  · obtain ⟨label, -, hkey, -⟩ := h
    rw [Coordinate.toList_label] at hkey
    exact absurd (hkey ▸ by simp) (Coordinate.bang_not_mem_labelChars c')

end Tells

/-! ## Placed values -/

section Placed
variable (r : Results)

/-- The placed values with their keys. -/
def keyed : List (String × Placed) :=
  r.toList.filterMap fun (key, v) => (place? key).map fun (sheet, c) => (key, ⟨sheet, c, v⟩)

theorem placed_eq : r.placed = r.keyed.map Prod.snd := by
  rw [placed, keyed, List.map_filterMap]
  simp only [Option.map_map]
  rfl

theorem pairwise_keyed : r.keyed.Pairwise fun p q => Text.bytes p.1 < Text.bytes q.1 := by
  refine List.Pairwise.filterMap _ ?_ (Text.pairwise_bytes_lt_toList r)
  rintro ⟨key, v⟩ ⟨key', v'⟩ hlt p hp q hq
  obtain ⟨place, -, rfl⟩ := Option.map_eq_some_iff.1 hp
  obtain ⟨place', -, rfl⟩ := Option.map_eq_some_iff.1 hq
  exact hlt

variable {r}

theorem mem_keyed {key : String} {p : Placed} :
    (key, p) ∈ r.keyed ↔ r.lookup key = some p.value ∧ Tells key p.sheet p.coordinate := by
  rw [keyed, List.mem_filterMap]
  constructor
  · rintro ⟨⟨key', v⟩, hmem, h⟩
    obtain ⟨⟨sheet, c⟩, hplace, h⟩ := Option.map_eq_some_iff.1 h
    obtain ⟨rfl, rfl⟩ := Prod.mk.inj h
    exact ⟨Std.ExtTreeMap.mem_toList_iff_getElem?_eq_some.1 hmem, place?_eq_some_iff.1 hplace⟩
  · rintro ⟨hv, htells⟩
    refine ⟨(key, p.value), Std.ExtTreeMap.mem_toList_iff_getElem?_eq_some.2 hv, ?_⟩
    simp only [place?_eq_some_iff.2 htells, Option.map_some]

theorem mem_placed {p : Placed} :
    p ∈ r.placed ↔ ∃ key, r.lookup key = some p.value ∧ Tells key p.sheet p.coordinate := by
  rw [placed_eq, List.mem_map]
  constructor
  · rintro ⟨⟨key, p⟩, hmem, rfl⟩
    exact ⟨key, mem_keyed.1 hmem⟩
  · rintro ⟨key, h⟩
    exact ⟨(key, p), mem_keyed.2 h, rfl⟩

end Placed

/-! ## Groups -/

namespace Group
variable {sheet : String} {ps : List Placed}

/-- The values of a group, each with the sheet of the group. -/
def placed (g : Group) : List Placed :=
  g.cells.map fun (c, v) => ⟨g.sheet, c, v⟩

theorem mem_cells_ofPlaced {c : Coordinate} {v : Value} :
    (c, v) ∈ (ofPlaced sheet ps).cells ↔ ⟨sheet, c, v⟩ ∈ ps := by
  rw [ofPlaced, List.mem_mergeSort, List.mem_map]
  constructor
  · rintro ⟨p, hp, h⟩
    obtain ⟨hmem, hsheet⟩ := List.mem_filter.1 hp
    obtain ⟨rfl, rfl⟩ := Prod.mk.inj h
    obtain rfl := beq_iff_eq.1 hsheet
    exact hmem
  · exact fun h => ⟨_, List.mem_filter.2 ⟨h, beq_self_eq_true sheet⟩, rfl⟩

theorem perm_placed_ofPlaced (sheet : String) (ps : List Placed) :
    (ofPlaced sheet ps).placed.Perm (ps.filter fun p => p.sheet == sheet) := by
  refine ((List.mergeSort_perm _ _).map _).trans (.of_eq ?_)
  rw [List.map_map]
  refine (List.map_congr_left fun p hp => ?_).trans (List.map_id _)
  show (⟨sheet, p.coordinate, p.value⟩ : Placed) = p
  rw [← beq_iff_eq.1 (List.mem_filter.1 hp).2]

theorem isLE_ofPlaced (sheet : String) (ps : List Placed) :
    ((ofPlaced sheet ps).cells.map Prod.fst).Pairwise fun c d => (compare c d).isLE = true := by
  rw [List.pairwise_map]
  refine List.pairwise_mergeSort (fun a b c => Std.TransCmp.isLE_trans) (fun a b => ?_) _
  rw [Std.OrientedOrd.eq_swap (a := b.1)]
  cases compare a.1 b.1 <;> rfl

/-- A group holds no coordinate twice if no two values have the same place. -/
theorem pairwise_ofPlaced
    (hps : ps.Pairwise fun p q => p.sheet = q.sheet → p.coordinate ≠ q.coordinate) :
    ((ofPlaced sheet ps).cells.map Prod.fst).Pairwise fun c d => compare c d = .lt := by
  have hnodup : ((ofPlaced sheet ps).cells.map Prod.fst).Nodup := by
    refine ((List.mergeSort_perm _ _).map Prod.fst).nodup_iff.2 ?_
    rw [List.map_map, List.Nodup, List.pairwise_map]
    refine (hps.filter _).imp_of_mem fun hp hq h => h ?_
    rw [beq_iff_eq.1 (List.mem_filter.1 hp).2, beq_iff_eq.1 (List.mem_filter.1 hq).2]
  refine ((isLE_ofPlaced sheet ps).and hnodup).imp fun {c d} ⟨hle, hne⟩ => ?_
  cases h : compare c d with
  | lt => rfl
  | eq => exact absurd (Std.LawfulEqOrd.eq_of_compare h) hne
  | gt =>
    rw [h] at hle
    cases hle

end Group

/-- The groups of some results: each value with a place is in the group of its sheet. -/
structure Grouped (r : Results) (groups : List Group) : Prop where
  perm : (groups.flatMap Group.placed).Perm r.placed
  ne_nil : ∀ g ∈ groups, g.cells ≠ []
  nodup : (groups.map Group.sheet).Nodup
  /-- The first key of a group precedes all keys of the groups behind it. -/
  in_order : (groups.map Group.sheet).Pairwise fun s t =>
    ∃ key ∈ r, (∃ c, Tells key s c) ∧
      ∀ key' ∈ r, (∃ c, Tells key' t c) → Text.bytes key < Text.bytes key'
  row_major : ∀ g ∈ groups, (g.cells.map Prod.fst).Pairwise fun c d => (compare c d).isLE = true

section Grouped
variable {r : Results} {g : Group}

theorem mem_bySheet : g ∈ r.bySheet ↔
    (∃ p ∈ r.placed, p.sheet = g.sheet) ∧ g = Group.ofPlaced g.sheet r.placed := by
  rw [bySheet, List.mem_map]
  constructor
  · rintro ⟨sheet, hsheet, rfl⟩
    exact ⟨List.mem_map.1 (Text.mem_distinct.1 hsheet), rfl⟩
  · rintro ⟨hsheet, hg⟩
    exact ⟨g.sheet, Text.mem_distinct.2 (List.mem_map.2 hsheet), hg.symm⟩

variable (r)

theorem map_sheet_bySheet :
    r.bySheet.map Group.sheet = Text.distinct (r.keyed.map fun p => p.2.sheet) := by
  rw [bySheet, List.map_map, placed_eq, List.map_map]
  exact List.map_id _

theorem perm_bySheet : (r.bySheet.flatMap Group.placed).Perm r.placed := by
  rw [bySheet, List.flatMap_map]
  refine (List.Perm.flatMap_left _ fun sheet _ =>
    Group.perm_placed_ofPlaced sheet r.placed).trans ?_
  refine perm_flatMap_filter Placed.sheet (Text.nodup_distinct _) fun p hp => ?_
  exact Text.mem_distinct.2 (List.mem_map_of_mem hp)

theorem grouped_bySheet : r.Grouped r.bySheet := by
  refine ⟨perm_bySheet r, fun g hg => ?_, ?_, ?_, fun g hg => ?_⟩
  · obtain ⟨⟨p, hp, hsheet⟩, hg⟩ := mem_bySheet.1 hg
    rw [hg, ← hsheet]
    exact List.ne_nil_of_mem (Group.mem_cells_ofPlaced.2 hp)
  · rw [map_sheet_bySheet]
    exact Text.nodup_distinct _
  · rw [map_sheet_bySheet]
    refine (Text.pairwise_distinct _ (pairwise_keyed r)).imp ?_
    rintro s t ⟨⟨key, p⟩, hmem, rfl, hfirst⟩
    obtain ⟨hv, htells⟩ := mem_keyed.1 hmem
    refine ⟨key, (Std.ExtTreeMap.getElem?_eq_some_iff.1 hv).1, ⟨_, htells⟩, ?_⟩
    rintro key' hkey' ⟨c, htells'⟩
    have hv' : r.lookup key' = some r[key'] := Std.ExtTreeMap.getElem?_eq_some_getElem hkey'
    exact hfirst (key', ⟨t, c, r[key']⟩) (mem_keyed.2 ⟨hv', htells'⟩) rfl
  · obtain ⟨-, hg⟩ := mem_bySheet.1 hg
    exact hg ▸ Group.isLE_ofPlaced _ _

end Grouped

/-- A group that holds each cell of a sheet once, row by row, with the value that the results have
for it. -/
structure ListsSheet (r : Results) (s : Sheet) (g : Group) : Prop where
  sheet_eq : g.sheet = s.name
  increasing : (g.cells.map Prod.fst).Pairwise fun c d => compare c d = .lt
  mem_iff : ∀ c, c ∈ g.cells.map Prod.fst ↔ c ∈ s.cells
  lookup_eq : ∀ p ∈ g.cells, r.lookup (p.1.key s.name) = some p.2

theorem ListsSheet.map_fst_cells {r : Results} {s : Sheet} {g : Group} (h : r.ListsSheet s g) :
    g.cells.map Prod.fst = s.cells.keys := by
  have : Std.Irrefl fun c d : Coordinate => compare c d = .lt :=
    ⟨fun c => by rw [Std.ReflOrd.compare_self]; decide⟩
  have : Std.Antisymm fun c d : Coordinate => compare c d = .lt :=
    ⟨fun c d h h' => by rw [Std.OrientedOrd.eq_swap, h'] at h; cases h⟩
  exact h.increasing.eq_of_mem_iff Std.ExtTreeMap.ordered_keys fun c =>
    (h.mem_iff c).trans Std.ExtTreeMap.mem_keys.symm

end Results

/-! ## Runs -/

namespace Workbook

/-- The groups are the sheets of a workbook that have any cells. -/
structure ListsCells (w : Workbook) (r : Results) (groups : List Results.Group) : Prop where
  nodup : (groups.map Results.Group.sheet).Nodup
  exists_group : ∀ s ∈ w.ordered, (∃ c, c ∈ s.cells) → ∃ g ∈ groups, r.ListsSheet s g
  exists_sheet : ∀ g ∈ groups, ∃ s ∈ w.ordered, r.ListsSheet s g

section Run
variable {w : Workbook} {o : Overrides} {s : Sheet} {key : String} {c : Coordinate}
  {p : Results.Placed}

/-- The keys of a run are those of the cells of the workbook. -/
theorem mem_run : key ∈ (w.run o).1.cells ↔ ∃ s ∈ (w.applyOverrides o).1.ordered, ∃ c ∈ s.cells,
    IsKeyOf s.name ((w.applyOverrides o).1.isDefault s) c key := by
  rw [cells_run, Results.mem_rounded, mem_calculate]

/-- A placed value of a run is that of a cell of the workbook, under the key of the cell. -/
theorem exists_sheet_of_mem_keyed (hw : w.Sound) (hn : w.Named)
    (hp : (key, p) ∈ (w.run o).1.cells.keyed) :
    ∃ s ∈ w.ordered, s.name = p.sheet ∧ p.coordinate ∈ s.cells ∧
      key = p.coordinate.key p.sheet := by
  obtain ⟨hv, htells⟩ := Results.mem_keyed.1 hp
  obtain ⟨hmem, -⟩ := Std.ExtTreeMap.getElem?_eq_some_iff.1 hv
  have hregular := (hw.applyOverrides o).regular (hn.applyOverrides o)
  obtain ⟨t, ht, d, hd, hk⟩ := mem_run.1 hmem
  obtain ⟨hsheet, hc, hkey⟩ :=
    htells.of_isKeyOf (hregular.name_ne t ht) (hregular.positive t ht d hd) hk
  obtain ⟨s, hs, hst⟩ := (w.sameShape_applyOverrides o).exists_of_mem_ordered ht
  exact ⟨s, hs, hst.name_eq.symm.trans hsheet.symm, (hst.mem_iff _).1 (hc ▸ hd), hkey⟩

theorem exists_sheet_of_mem_placed (hw : w.Sound) (hn : w.Named)
    (hp : p ∈ (w.run o).1.cells.placed) :
    ∃ s ∈ w.ordered, s.name = p.sheet ∧ p.coordinate ∈ s.cells ∧
      (w.run o).1.cells.lookup (p.coordinate.key p.sheet) = some p.value := by
  obtain ⟨key, hv, htells⟩ := Results.mem_placed.1 hp
  obtain ⟨s, hs, hname, hc, rfl⟩ :=
    exists_sheet_of_mem_keyed hw hn (Results.mem_keyed.2 ⟨hv, htells⟩)
  exact ⟨s, hs, hname, hc, hv⟩

theorem key_mem_run (hs : s ∈ w.ordered) (hc : c ∈ s.cells) :
    c.key s.name ∈ (w.run o).1.cells := by
  obtain ⟨t, ht, hst⟩ := (w.sameShape_applyOverrides o).exists_mem_ordered hs
  exact mem_run.2 ⟨t, ht, c, (hst.mem_iff c).2 hc, hst.name_eq ▸ IsKeyOf.self ..⟩

theorem exists_mem_placed_run (hw : w.Sound) (hn : w.Named) (hs : s ∈ w.ordered) :
    (∃ v, ⟨s.name, c, v⟩ ∈ (w.run o).1.cells.placed) ↔ c ∈ s.cells := by
  have hsheet := hw.ownNames.getElem?_name hs
  constructor
  · rintro ⟨v, hv⟩
    obtain ⟨s', hs', hname, hc, -⟩ := exists_sheet_of_mem_placed hw hn hv
    have hsheet' := hw.ownNames.getElem?_name hs'
    rw [show s'.name = s.name from hname, hsheet] at hsheet'
    exact Option.some.inj hsheet' ▸ hc
  · intro hc
    have hpositive := (hw s.name s hsheet).positive c hc
    exact ⟨_, Results.mem_placed.2 ⟨c.key s.name,
      Std.ExtTreeMap.getElem?_eq_some_getElem (key_mem_run hs hc),
      Results.tells_key (hw.name_ne hn hs) hpositive⟩⟩

/-- No two values of a run have the same place. -/
theorem pairwise_placed_run (hw : w.Sound) (hn : w.Named) (o : Overrides) :
    (w.run o).1.cells.placed.Pairwise fun p q =>
      p.sheet = q.sheet → p.coordinate ≠ q.coordinate := by
  have hkey : ∀ p ∈ (w.run o).1.cells.keyed, p.1 = p.2.coordinate.key p.2.sheet := by
    rintro ⟨key, p⟩ hp
    obtain ⟨-, -, -, -, hkey⟩ := exists_sheet_of_mem_keyed hw hn hp
    exact hkey
  rw [Results.placed_eq, List.pairwise_map]
  refine (Results.pairwise_keyed _).imp_of_mem fun {p q} hp hq hlt hsheet hc => ?_
  rw [hkey p hp, hkey q hq, hsheet, hc] at hlt
  exact List.lt_irrefl _ hlt

theorem listsSheet_run (hw : w.Sound) (hn : w.Named) (hs : s ∈ w.ordered) :
    (w.run o).1.cells.ListsSheet s (.ofPlaced s.name (w.run o).1.cells.placed) := by
  refine ⟨rfl, Results.Group.pairwise_ofPlaced (pairwise_placed_run hw hn o), fun c => ?_, ?_⟩
  · rw [← exists_mem_placed_run hw hn hs (o := o), List.mem_map]
    constructor
    · rintro ⟨⟨c, v⟩, hmem, rfl⟩
      exact ⟨v, Results.Group.mem_cells_ofPlaced.1 hmem⟩
    · rintro ⟨v, hv⟩
      exact ⟨(c, v), Results.Group.mem_cells_ofPlaced.2 hv, rfl⟩
  · rintro ⟨c, v⟩ hmem
    obtain ⟨-, -, -, -, hv⟩ :=
      exists_sheet_of_mem_placed hw hn (Results.Group.mem_cells_ofPlaced.1 hmem)
    exact hv

theorem Sound.listsCells_run (hw : w.Sound) (hn : w.Named) (o : Overrides) :
    w.ListsCells (w.run o).1.cells (w.run o).1.cells.bySheet := by
  refine ⟨(Results.grouped_bySheet _).nodup, ?_, ?_⟩
  · rintro s hs ⟨c, hc⟩
    obtain ⟨v, hv⟩ := (exists_mem_placed_run hw hn hs (o := o)).2 hc
    exact ⟨_, Results.mem_bySheet.2 ⟨⟨_, hv, rfl⟩, rfl⟩, listsSheet_run hw hn hs⟩
  · intro g hg
    obtain ⟨⟨p, hp, hsheet⟩, hg⟩ := Results.mem_bySheet.1 hg
    obtain ⟨s, hs, hname, -, -⟩ := exists_sheet_of_mem_placed hw hn hp
    refine ⟨s, hs, ?_⟩
    rw [hg, ← hsheet, ← hname]
    exact listsSheet_run hw hn hs

end Run

end Workbook

namespace Export

/-- Every value whose key tells a place is in the group of its sheet, and the groups of a run are
the sheets of the workbook, each with all of its cells. -/
theorem bySheet_exact :
    (∀ key sheet c, Results.place? key = some (sheet, c) ↔ Results.Tells key sheet c) ∧
    (∀ r : Results, r.Grouped r.bySheet) ∧
    ∀ files directory, (load files directory).Named → ∀ o : Overrides,
      (load files directory).ListsCells ((load files directory).run o).1.cells
        ((load files directory).run o).1.cells.bySheet :=
  ⟨fun _ _ _ => Results.place?_eq_some_iff, Results.grouped_bySheet, fun files directory hn o =>
    (sound_load files directory).listsCells_run hn o⟩

/-- Two sheets, one with an exclamation mark in its name. Its key comes between those of the other
sheet. -/
def interleaved : Files
  | "d" => some .directory
  | "d/_workbook.json" => some (manifestFile [("S", "s.json"), ("S!B", "t.json")])
  | "d/s.json" => some (cellsFile
      [("A2", numberRecord 2), ("A10", numberRecord 3), ("B1", formulaRecord "=A2*2")])
  | "d/t.json" => some (cellsFile [("A1", numberRecord 5)])
  | _ => none

theorem bySheet_interleaved : (load interleaved "d").Named ∧
    ∃ g ∈ ((load interleaved "d").run ∅).1.cells.bySheet,
      g.sheet = "S" ∧ g.cells.map Prod.fst = [⟨1, 2⟩, ⟨2, 1⟩, ⟨10, 1⟩] := by
  have hn : (load interleaved "d").Named := ⟨by decide +kernel, by decide +kernel⟩
  have hlists := bySheet_exact.2.2 interleaved "d" hn ∅
  obtain ⟨s, hs, hname, hcells⟩ : ∃ s ∈ (load interleaved "d").ordered,
      s.name = "S" ∧ s.cells.keys = [⟨1, 2⟩, ⟨2, 1⟩, ⟨10, 1⟩] := by
    decide +kernel
  have hne : ∃ c, c ∈ s.cells := ⟨⟨1, 2⟩, Std.ExtTreeMap.mem_keys.1 (hcells ▸ by decide)⟩
  obtain ⟨g, hg, hsheet⟩ := hlists.exists_group s hs hne
  exact ⟨hn, g, hg, hsheet.sheet_eq.trans hname, hsheet.map_fst_cells.trans hcells⟩

end Export

end Recalc
