import Mathlib.Data.List.Basic
import Recalc.Proofs.Workbook.Loaded
import Recalc.Run

/-!
# Sound workbooks

In a workbook that was loaded each sheet is stored under its own name and each cell under a
coordinate that some label names (`sound_load`), and overrides keep it so
(`Sound.applyOverrides`). They also keep the list of sheets and which of them are loaded.
-/

namespace Recalc

/-- A sheet of this name whose cells have positive columns and rows. -/
structure Sheet.IsStoredAs (s : Sheet) (name : String) : Prop where
  name_eq : s.name = name
  positive : ∀ c ∈ s.cells, c.Positive

theorem Sheet.positive_of_mem_insert {grid : Grid} (h : ∀ c ∈ grid, c.Positive) {d : Coordinate}
    (hd : d.Positive) (cell : Cell) : ∀ c ∈ grid.insert d cell, c.Positive := by
  intro c hc
  rcases Std.ExtTreeMap.mem_insert.1 hc with heq | hc
  · exact Std.LawfulEqCmp.eq_of_compare heq ▸ hd
  · exact h c hc

namespace Workbook

/-- Each sheet is stored under its own name, and its cells have positive columns and rows. -/
def SoundContents (contents : Std.ExtTreeMap String Sheet) : Prop :=
  ∀ (name : String) (s : Sheet), contents[name]? = some s → s.IsStoredAs name

def Sound (w : Workbook) : Prop :=
  SoundContents w.contents

/-- The listed sheets have different names, none of them empty. -/
structure Named (w : Workbook) : Prop where
  nodup : (w.entries.map SheetEntry.name).Nodup
  ne_empty : ∀ e ∈ w.entries, e.name ≠ ""

theorem SoundContents.empty : SoundContents ∅ := by
  intro name s h
  rw [Std.ExtTreeMap.getElem?_empty] at h
  cases h

theorem SoundContents.insert {contents : Std.ExtTreeMap String Sheet}
    (h : SoundContents contents) {name : String} {s : Sheet} (hs : s.IsStoredAs name) :
    SoundContents (contents.insert name s) :=
  Coordinate.forall_getElem?_insert h hs

/-- Each sheet is stored under its own name. -/
def OwnNames (w : Workbook) : Prop :=
  ∀ (name : String) (s : Sheet), w.contents[name]? = some s → s.name = name

theorem Sound.ownNames {w : Workbook} (hw : w.Sound) : w.OwnNames :=
  fun name s hs => (hw name s hs).name_eq

end Workbook

/-! ## Loading -/

namespace Export

theorem positive_of_mem_gridOf (cells : Std.ExtTreeMap String Json.Value) :
    ∀ c ∈ gridOf cells, c.Positive := by
  intro c hc
  obtain ⟨key, r, hlast, -⟩ :=
    getElem?_gridOf_eq_some_iff.1 (Std.ExtTreeMap.getElem?_eq_some_getElem hc)
  exact Coordinate.positive_of_parse? hlast.coordinateOf?_eq

/-- Every workbook that is loaded is sound. -/
theorem sound_load (files : Files) (directory : String) : (load files directory).Sound := by
  intro name s hs
  obtain ⟨e, -, f, rfl, rfl⟩ := exists_entry_of_load files directory hs
  exact ⟨rfl, positive_of_mem_gridOf f.cells⟩

end Export

/-! ## Overrides -/

namespace Workbook
variable {w : Workbook}

/-- An override writes over a stored cell of a loaded sheet. -/
theorem exists_of_override? {key : String} {x : Float} {w' : Workbook}
    (h : w.override? key x = some w') :
    ∃ name s c, w.contents[name]? = some s ∧ c ∈ s.cells ∧
      w' = { w with contents := w.contents.insert name (s.set c (.constant (.number x))) } := by
  obtain ⟨⟨name, c⟩, -, h⟩ := Option.bind_eq_some_iff.1 h
  obtain ⟨s, hs, h⟩ := Option.bind_eq_some_iff.1 h
  split at h
  · rename_i hc
    exact ⟨name, s, c, hs, hc, (Option.some.inj h).symm⟩
  · cases h

/-- What each override keeps, all of them keep. -/
theorem applyOverrides_induction {motive : Workbook → Prop} (hw : motive w)
    (hstep : ∀ w key x w', motive w → override? w key x = some w' → motive w') (o : Overrides) :
    motive (w.applyOverrides o).1 := by
  refine List.foldlRecOn (inOrder o) _ (motive := fun s : Workbook × Nat => motive s.1) hw ?_
  rintro ⟨w, applied⟩ hmotive ⟨key, x⟩ -
  dsimp only
  split
  · rename_i w' h
    exact hstep w key x w' hmotive h
  · exact hmotive

theorem Sound.override? (hw : w.Sound) {key : String} {x : Float} {w' : Workbook}
    (h : w.override? key x = some w') : w'.Sound := by
  obtain ⟨name, s, c, hs, hc, rfl⟩ := exists_of_override? h
  obtain ⟨hname, hpositive⟩ := hw name s hs
  exact SoundContents.insert hw
    ⟨hname, Sheet.positive_of_mem_insert hpositive (hpositive c hc) _⟩

theorem Sound.applyOverrides (hw : w.Sound) (o : Overrides) : (w.applyOverrides o).1.Sound :=
  applyOverrides_induction hw (fun _ _ _ _ hw h => hw.override? h) o

theorem entries_applyOverrides (w : Workbook) (o : Overrides) :
    (w.applyOverrides o).1.entries = w.entries := by
  refine applyOverrides_induction (motive := fun v => v.entries = w.entries) rfl ?_ o
  intro v key x v' hv h
  obtain ⟨name, s, c, -, -, rfl⟩ := exists_of_override? h
  exact hv

theorem mem_contents_applyOverrides (w : Workbook) (o : Overrides) (name : String) :
    name ∈ (w.applyOverrides o).1.contents ↔ name ∈ w.contents := by
  refine applyOverrides_induction (motive := fun v => name ∈ v.contents ↔ name ∈ w.contents)
    Iff.rfl ?_ o
  intro v key x v' hv h
  obtain ⟨name', s, c, hs, -, rfl⟩ := exists_of_override? h
  rw [← hv, Std.ExtTreeMap.mem_insert]
  constructor
  · rintro (heq | hname)
    · rw [← Std.LawfulEqCmp.eq_of_compare heq, Std.ExtTreeMap.mem_iff_isSome_getElem?, hs]
      rfl
    · exact hname
  · exact Or.inr

end Workbook

end Recalc
