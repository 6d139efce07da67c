import Mathlib.Data.List.Forall2
import Recalc.Inputs
import Recalc.Proofs.Workbook.Overrides

/-!
# Which input counts

An input wins over the file, and a later input over an earlier one, where their keys are the same
text (`collected_putAll`). Keys that name one cell may be spelled in many ways, and of these the one
counts that is applied last, be it from the file or from an input. So the last input that names a
cell has the last word on it unless another spelling comes behind its key in the order of
application (`lastWord_collect`). The key `a1` of a file comes behind the `A1` of an input
(`smallLetter_wins`).
-/

namespace Recalc

namespace Inputs

/-! ## What is collected -/

/-- The overrides of a file, if there is one. -/
def fromFile (files : Files) : Option String → Except Failure Overrides
  | some path => readOverrides files path
  | none => .ok ∅

/-- Overrides with more of them put over them, one after the other. -/
def putAll (given : List (String × Float)) (o : Overrides) : Overrides :=
  given.foldl (fun o p => o.insert p.1 p.2) o

/-- The overrides of inputs, in order. -/
def Reads (inputs : List String) (given : List (String × Float)) : Prop :=
  List.Forall₂ (fun input p => readInput input = .ok p) inputs given

theorem Reads.unique {inputs : List String} {given given' : List (String × Float)}
    (h : Reads inputs given) (h' : Reads inputs given') : given = given' := by
  refine List.right_unique_forall₂' (fun input p q hp hq => ?_) h h'
  rw [hp] at hq
  exact Except.ok.inj hq

section Collect
variable {files : Files} {inputs : List String} {path : Option String} {o start : Overrides}

theorem foldlM_eq_ok_iff :
    inputs.foldlM (fun overrides input => do
      let (key, x) ← readInput input
      return overrides.insert key x) start = .ok o ↔
    ∃ given, Reads inputs given ∧ putAll given start = o := by
  induction inputs generalizing start with
  | nil => simp [Reads, putAll, pure, Except.pure]
  | cons input inputs ih =>
    rw [List.foldlM_cons]
    simp only [Reads, List.forall₂_cons_left_iff]
    cases hread : readInput input with
    | error e =>
      constructor
      · intro h
        cases h
      · rintro ⟨-, ⟨p, -, hp, -⟩, -⟩
        cases hp
    | ok p =>
      refine (@ih (start.insert p.1 p.2)).trans ?_
      constructor
      · rintro ⟨given, hgiven, rfl⟩
        exact ⟨p :: given, ⟨p, given, rfl, hgiven, rfl⟩, rfl⟩
      · rintro ⟨-, ⟨p', given, hp, hgiven, rfl⟩, rfl⟩
        cases hp
        exact ⟨given, hgiven, rfl⟩

theorem collect_eq_ok_iff : collect files inputs path = .ok o ↔
    ∃ start given, fromFile files path = .ok start ∧ Reads inputs given ∧
      putAll given start = o := by
  have hcollect : collect files inputs path = (fromFile files path).bind fun start =>
      inputs.foldlM (fun overrides input => do
        let (key, x) ← readInput input
        return overrides.insert key x) start := by
    cases path <;> rfl
  rw [hcollect]
  cases fromFile files path with
  | error e => simp [Except.bind]
  | ok start =>
    refine foldlM_eq_ok_iff.trans ?_
    simp

end Collect

/-- What becomes of the overrides of a file when others are put over them. -/
structure Collected (start : Overrides) (given : List (String × Float)) (o : Overrides) :
    Prop where
  mem_iff : ∀ key, key ∈ o ↔ key ∈ start ∨ key ∈ given.map Prod.fst
  /-- Of those with one key the last counts. -/
  of_given : ∀ earlier key x later, given = earlier ++ (key, x) :: later →
    key ∉ later.map Prod.fst → o[key]? = some x
  of_file : ∀ key, key ∉ given.map Prod.fst → o[key]? = start[key]?

section PutAll
variable {given : List (String × Float)} {start : Overrides} {key : String}

theorem mem_putAll : key ∈ putAll given start ↔ key ∈ start ∨ key ∈ given.map Prod.fst := by
  induction given generalizing start with
  | nil => simp [putAll]
  | cons p given ih =>
    show key ∈ putAll given (start.insert p.1 p.2) ↔ _
    rw [ih, Std.ExtTreeMap.mem_insert, Std.LawfulEqOrd.compare_eq_iff_eq, List.map_cons,
      List.mem_cons, or_assoc, or_left_comm, eq_comm]

theorem getElem?_putAll_of_notMem (h : key ∉ given.map Prod.fst) :
    (putAll given start)[key]? = start[key]? := by
  induction given generalizing start with
  | nil => rfl
  | cons p given ih =>
    obtain ⟨hne, h⟩ := not_or.1 fun hor => h (List.mem_cons.2 hor)
    show (putAll given (start.insert p.1 p.2))[key]? = _
    rw [ih h, Std.ExtTreeMap.getElem?_insert,
      if_neg fun heq => hne (Std.LawfulEqOrd.eq_of_compare heq).symm]

theorem collected_putAll (start : Overrides) (given : List (String × Float)) :
    Collected start given (putAll given start) := by
  refine ⟨fun key => mem_putAll, ?_, fun key => getElem?_putAll_of_notMem⟩
  rintro earlier key x later rfl hlater
  show (List.foldl _ start _)[key]? = _
  rw [List.foldl_append]
  exact (getElem?_putAll_of_notMem hlater).trans Std.ExtTreeMap.getElem?_insert_self

end PutAll

end Inputs

/-! ## What counts for a cell -/

namespace Workbook

/-- Who has the last word on a cell when the overrides `o` are collected from a file and from
`given`. -/
structure LastWord (w : Workbook) (given : List (String × Float)) (o : Overrides) (name : String)
    (c : Coordinate) : Prop where
  /-- The key that is applied last of those that name the cell. -/
  of_last : ∀ key ∈ o, w.locate? key = some (name, c) → ∃ key' x,
    w.IsLastFor o (name, c) key' x ∧
      (w.applyOverrides o).1.stored name c = some (.constant (.number x))
  /-- The last of `given` that names the cell, unless another spelling is applied behind it. -/
  of_given : ∀ earlier key x later, given = earlier ++ (key, x) :: later →
    w.locate? key = some (name, c) → (∀ p ∈ later, w.locate? p.1 ≠ some (name, c)) →
    (∀ key' ∈ o, w.locate? key' = some (name, c) → key' = key ∨ Precedes key' key) →
      (w.applyOverrides o).1.stored name c = some (.constant (.number x))

theorem lastWord_of_collected {w : Workbook} {start o : Overrides} {given : List (String × Float)}
    (h : Inputs.Collected start given o) {name : String} {c : Coordinate}
    (hcell : (w.stored name c).isSome) : w.LastWord given o name c := by
  have hoverridden := w.overridden_applyOverrides o
  constructor
  · intro key hkey hl
    obtain ⟨key', x, hlast⟩ := hoverridden.exists_last (name, c) key hkey hl
    exact ⟨key', x, hlast, hoverridden.number name c key' x hlast hcell⟩
  · intro earlier key x later hgiven hl hlater hlast
    -- an input behind this one does not name the cell, so it has another key
    have hkey : key ∉ later.map Prod.fst := by
      intro hmem
      obtain ⟨p, hp, rfl⟩ := List.mem_map.1 hmem
      exact hlater p hp hl
    have hx := h.of_given earlier key x later hgiven hkey
    exact hoverridden.number name c key x ⟨hx, hl, hlast⟩ hcell

end Workbook

namespace Inputs

/-- Of keys that are the same text the last input counts, or else the file; of keys that name one
cell the one counts that is applied last. -/
theorem lastWord_collect {files : Files} {inputs : List String} {path : Option String}
    {o : Overrides} (h : collect files inputs path = .ok o) :
    ∃ start given, fromFile files path = .ok start ∧ Reads inputs given ∧
      Collected start given o ∧
      ∀ (w : Workbook) name c, (w.stored name c).isSome → w.LastWord given o name c := by
  obtain ⟨start, given, hstart, hgiven, rfl⟩ := collect_eq_ok_iff.1 h
  have hcollected := collected_putAll start given
  exact ⟨start, given, hstart, hgiven, hcollected, fun w name c hcell =>
    Workbook.lastWord_of_collected hcollected hcell⟩

/-- An export of one cell beside a file that has its key in a small letter. -/
def smallLetter : Files
  | "d" => some .directory
  | "d/_workbook.json" => some (Export.manifestFile [("S", "s.json")])
  | "d/s.json" => some (Export.cellsFile [("A1", Export.numberRecord 1)])
  | "in.json" => some (.text (Json.Value.object [("a1", .number (.natural 5))]).compact)
  | _ => none

theorem lastWord_smallLetter : ∃ o,
    collect smallLetter ["A1=3", " a1 =4"] (some "in.json") = .ok o ∧
    ((Export.load smallLetter "d").applyOverrides o).1.stored "S" ⟨1, 1⟩ =
      some (.constant (.number 4)) := by
  have hkeys : (collect smallLetter ["A1=3", " a1 =4"] (some "in.json")).map Std.ExtTreeMap.keys =
      .ok ["A1", "a1"] := by
    decide +kernel
  cases ho : collect smallLetter ["A1=3", " a1 =4"] (some "in.json") with
  | error e =>
    rw [ho] at hkeys
    cases hkeys
  | ok o =>
    rw [ho] at hkeys
    obtain ⟨start, given, -, hgiven, -, hlast⟩ := lastWord_collect ho
    have hread : readInput "A1=3" = .ok ("A1", 3) ∧ readInput " a1 =4" = .ok ("a1", 4) := by
      decide +kernel
    obtain rfl := hgiven.unique (.cons hread.1 (.cons hread.2 .nil))
    refine ⟨o, rfl, (hlast (Export.load smallLetter "d") "S" ⟨1, 1⟩ (by decide +kernel)).of_given
      [("A1", 3)] "a1" 4 [] rfl (by decide +kernel) (fun p hp => absurd hp (by simp)) ?_⟩
    have hbehind : Precedes "A1" "a1" := Or.inr (by decide)
    rintro key hkey -
    rw [← Std.ExtTreeMap.mem_keys, Except.ok.inj hkeys, List.mem_pair] at hkey
    rcases hkey with rfl | rfl
    · exact Or.inr hbehind
    · exact Or.inl rfl

/-- The input names the cell too, but the file has the last word on it. -/
theorem smallLetter_wins :
    (Export.load smallLetter "d").locate? "A1" = some ("S", ⟨1, 1⟩) ∧
    ((Export.load smallLetter "d").stored "S" ⟨1, 1⟩).isSome ∧
    readInput "A1=3" = .ok ("A1", 3) ∧
    (collect smallLetter ["A1=3"] (some "in.json")).map Std.ExtTreeMap.toList =
      .ok [("A1", 3), ("a1", 5)] ∧
    (collect smallLetter ["A1=3"] (some "in.json")).map (fun o =>
        ((Export.load smallLetter "d").applyOverrides o).1.stored "S" ⟨1, 1⟩) ≠
      .ok (some (.constant (.number 3))) := by
  decide +kernel

end Inputs

end Recalc
