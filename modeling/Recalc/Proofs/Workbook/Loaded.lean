import Recalc.Export
import Recalc.Proofs.Coordinate.Label
import Recalc.Proofs.Text.Order

/-!
# What is loaded

Of the entries with one name the last whose file can be read gives the sheet, and of the keys that
name one coordinate the greatest with a sound record gives the cell (`loadsReadable_load`). What
cannot be read writes nothing, so it neither takes away what was there before it nor stands in the
way of what comes behind it. Both are folds of insertions, of which the last one counts
(`getElem?_foldl`).
-/

namespace Recalc.Export

/-! ## The last insertion -/

section Last
variable {α β κ : Type}

theorem findSome?_reverse_eq_some_iff {f : α → Option β} {l : List α} {b : β} :
    l.reverse.findSome? f = some b ↔
      ∃ earlier a later, l = earlier ++ a :: later ∧ f a = some b ∧ ∀ x ∈ later, f x = none := by
  rw [List.findSome?_eq_some_iff]
  constructor
  · rintro ⟨later, a, earlier, hl, ha, hlater⟩
    refine ⟨earlier.reverse, a, later.reverse, ?_, ha, fun x hx => hlater x (List.mem_reverse.1 hx)⟩
    rw [← List.reverse_reverse l, hl]
    simp
  · rintro ⟨earlier, a, later, rfl, ha, hlater⟩
    refine ⟨later.reverse, a, earlier.reverse, by simp, ha, fun x hx => ?_⟩
    exact hlater x (List.mem_reverse.1 hx)

theorem findSome?_filter (p : α → Bool) (f : α → Option β) (l : List α) :
    (l.filter p).findSome? f = l.findSome? fun a => if p a then f a else none := by
  induction l with
  | nil => rfl
  | cons a l ih =>
    by_cases h : p a = true
    · rw [List.filter_cons_of_pos h, List.findSome?_cons, List.findSome?_cons, if_pos h, ih]
    · rw [List.filter_cons_of_neg h, List.findSome?_cons, if_neg h, ih]

/-- The value at a key behind a fold in which each element may write one is that of the last element
that does. -/
theorem getElem?_foldl [Ord κ] [Std.TransOrd κ] (write : α → Option β) (k : κ)
    {step : Std.ExtTreeMap κ β → α → Std.ExtTreeMap κ β}
    (hstep : ∀ m a, (step m a)[k]? = (write a).or m[k]?) (l : List α) (m : Std.ExtTreeMap κ β) :
    (l.foldl step m)[k]? = (l.reverse.findSome? write).or m[k]? := by
  induction l generalizing m with
  | nil => rfl
  | cons a l ih =>
    rw [List.foldl_cons, ih, hstep, List.reverse_cons, List.findSome?_append,
      List.findSome?_singleton, Option.or_assoc]

end Last

/-! ## Cells -/

/-- The sound record of a key. -/
def record? (cells : Std.ExtTreeMap String Json.Value) (key : String) : Option CellRecord :=
  cells[key]?.bind CellRecord.ofJson?

/-- The record that counts for a coordinate: of the sound ones whose keys name it, the one with the
greatest key by bytes. -/
structure IsLastRecord (cells : Std.ExtTreeMap String Json.Value) (c : Coordinate) (key : String)
    (r : CellRecord) : Prop where
  coordinateOf?_eq : coordinateOf? key = some c
  record?_eq : record? cells key = some r
  last : ∀ key', coordinateOf? key' = some c → (record? cells key').isSome →
    key' = key ∨ Text.bytes key' < Text.bytes key

/-- The cell that a record writes at a coordinate. -/
def cellAt? (c : Coordinate) (p : String × Json.Value) : Option Cell :=
  if coordinateOf? p.1 = some c then (CellRecord.ofJson? p.2).map CellRecord.toCell else none

section Cells
variable {cells cells' : Std.ExtTreeMap String Json.Value} {c : Coordinate} {key : String}
  {r : CellRecord} {cell : Cell}

theorem getElem?_gridOf (cells : Std.ExtTreeMap String Json.Value) (c : Coordinate) :
    (gridOf cells)[c]? = cells.toList.reverse.findSome? (cellAt? c) := by
  rw [gridOf, getElem?_foldl (cellAt? c) c ?_, Std.ExtTreeMap.getElem?_empty, Option.or_none]
  rintro grid ⟨key, json⟩
  dsimp only [cellAt?]
  cases hkey : coordinateOf? key with
  | none => simp
  | some d =>
    cases hrecord : CellRecord.ofJson? json with
    | none => simp
    | some r =>
      dsimp only [Option.map_some]
      rw [Coordinate.getElem?_insert_key]
      by_cases hd : d = c
      · simp [hd]
      · simp [hd]

/-- A sound record writes its cell at the coordinate of its key. -/
theorem exists_cellAt? (hkey : coordinateOf? key = some c) (hr : record? cells key = some r) :
    ∃ json, (key, json) ∈ cells.toList ∧ cellAt? c (key, json) = some r.toCell := by
  obtain ⟨json, hjson, hr⟩ := Option.bind_eq_some_iff.1 hr
  refine ⟨json, Std.ExtTreeMap.mem_toList_iff_getElem?_eq_some.2 hjson, ?_⟩
  rw [cellAt?, if_pos hkey, hr]
  rfl

/-- Nothing but a sound record writes a cell. -/
theorem exists_record? {json : Json.Value} (hmem : (key, json) ∈ cells.toList)
    (h : cellAt? c (key, json) = some cell) :
    ∃ r, coordinateOf? key = some c ∧ record? cells key = some r ∧ cell = r.toCell := by
  rw [cellAt?] at h
  split at h
  · rename_i hkey
    obtain ⟨r, hr, rfl⟩ := Option.map_eq_some_iff.1 h
    refine ⟨r, hkey, ?_, rfl⟩
    rw [record?, Std.ExtTreeMap.mem_toList_iff_getElem?_eq_some.1 hmem]
    exact hr
  · cases h

theorem IsLastRecord.unique {key' : String} {r' : CellRecord} (h : IsLastRecord cells c key r)
    (h' : IsLastRecord cells c key' r') : r = r' := by
  have hkey : key = key' := by
    rcases h'.last key h.coordinateOf?_eq (by rw [h.record?_eq]; rfl) with heq | hlt
    · exact heq
    · rcases h.last key' h'.coordinateOf?_eq (by rw [h'.record?_eq]; rfl) with heq | hgt
      · exact heq.symm
      · exact absurd hgt (List.lt_asymm hlt)
  have hr := h.record?_eq
  rw [hkey, h'.record?_eq] at hr
  exact (Option.some.inj hr).symm

theorem exists_isLastRecord (h : (gridOf cells)[c]? = some cell) :
    ∃ key r, IsLastRecord cells c key r ∧ cell = r.toCell := by
  rw [getElem?_gridOf] at h
  obtain ⟨earlier, ⟨key, json⟩, later, hl, hcell, hlater⟩ := findSome?_reverse_eq_some_iff.1 h
  have hmem : (key, json) ∈ cells.toList := hl ▸ List.mem_append_right _ (List.mem_cons_self ..)
  obtain ⟨r, hkey, hr, rfl⟩ := exists_record? hmem hcell
  have hsorted := Text.pairwise_bytes_lt_toList cells
  rw [hl, List.pairwise_append] at hsorted
  refine ⟨key, r, ⟨hkey, hr, fun key' hkey' hsome => ?_⟩, rfl⟩
  obtain ⟨r', hr'⟩ := Option.isSome_iff_exists.1 hsome
  obtain ⟨json', hmem', hwrites⟩ := exists_cellAt? hkey' hr'
  rw [hl, List.mem_append, List.mem_cons] at hmem'
  rcases hmem' with hearlier | heq | hmem'
  · exact Or.inr (hsorted.2.2 _ hearlier _ (List.mem_cons_self ..))
  · exact Or.inl (congrArg Prod.fst heq)
  · -- behind the last record that writes, none does
    rw [hlater _ hmem'] at hwrites
    cases hwrites

theorem getElem?_gridOf_eq_none_iff :
    (gridOf cells)[c]? = none ↔ ∀ key, coordinateOf? key = some c → record? cells key = none := by
  rw [getElem?_gridOf, List.findSome?_eq_none_iff]
  constructor
  · intro h key hkey
    by_contra hne
    obtain ⟨r, hr⟩ := Option.ne_none_iff_exists'.1 hne
    obtain ⟨json, hmem, hwrites⟩ := exists_cellAt? hkey hr
    rw [h _ (List.mem_reverse.2 hmem)] at hwrites
    cases hwrites
  · rintro h ⟨key, json⟩ hmem
    by_contra hne
    obtain ⟨cell, hcell⟩ := Option.ne_none_iff_exists'.1 hne
    obtain ⟨r, hkey, hr, -⟩ := exists_record? (List.mem_reverse.1 hmem) hcell
    rw [h key hkey] at hr
    cases hr

theorem getElem?_gridOf_eq_some_iff :
    (gridOf cells)[c]? = some cell ↔ ∃ key r, IsLastRecord cells c key r ∧ cell = r.toCell := by
  refine ⟨exists_isLastRecord, ?_⟩
  rintro ⟨key, r, hlast, rfl⟩
  have hsome : (gridOf cells)[c]? ≠ none := by
    intro hnone
    have hrecord := getElem?_gridOf_eq_none_iff.1 hnone key hlast.coordinateOf?_eq
    rw [hlast.record?_eq] at hrecord
    cases hrecord
  obtain ⟨cell, hcell⟩ := Option.ne_none_iff_exists'.1 hsome
  obtain ⟨key', r', hlast', rfl⟩ := exists_isLastRecord hcell
  rw [hcell, hlast.unique hlast']

/-- The cell at a coordinate depends on the sound records of its keys, and on nothing else. -/
theorem getElem?_gridOf_congr
    (h : ∀ key, coordinateOf? key = some c → record? cells' key = record? cells key) :
    (gridOf cells')[c]? = (gridOf cells)[c]? := by
  have hlast : ∀ key r, IsLastRecord cells' c key r ↔ IsLastRecord cells c key r := by
    intro key r
    constructor
    · rintro ⟨hkey, hr, hlast⟩
      exact ⟨hkey, h key hkey ▸ hr, fun key' hkey' hr' => hlast key' hkey' (h key' hkey' ▸ hr')⟩
    · rintro ⟨hkey, hr, hlast⟩
      exact ⟨hkey, (h key hkey).trans hr, fun key' hkey' hr' =>
        hlast key' hkey' (by rwa [h key' hkey'] at hr')⟩
  refine Option.ext fun cell => ?_
  rw [getElem?_gridOf_eq_some_iff, getElem?_gridOf_eq_some_iff]
  simp only [hlast]

end Cells

/-! ## Sheets -/

section Sheets
variable (files : Files) (directory : String)

/-- What the file of an entry holds, if the entry has a file and it can be read. -/
def sheetFile? (e : SheetEntry) : Option SheetFile :=
  if e.file.isEmpty then none
  else
    (files.read? (Path.join directory e.file)).bind fun content =>
      (Json.Reader.whole readSheetFile content).toOption

theorem sheetOf?_eq (e : SheetEntry) :
    sheetOf? files directory e = (sheetFile? files directory e).map fun f => f.toSheet e := by
  rw [sheetOf?, sheetFile?]
  split
  · rfl
  · rw [Option.map_bind]
    rfl

/-- The entries of a name. -/
def named (entries : List SheetEntry) (name : String) : List SheetEntry :=
  entries.filter fun e => e.name == name

/-- The entry that counts for a name: the last one whose file can be read. -/
structure IsLastEntry (entries : List SheetEntry) (name : String) (e : SheetEntry)
    (f : SheetFile) : Prop where
  sheetFile?_eq : sheetFile? files directory e = some f
  last : ∃ earlier later, named entries name = earlier ++ e :: later ∧
    ∀ e' ∈ later, sheetFile? files directory e' = none

variable {files directory} in
theorem IsLastEntry.mem_entries {entries : List SheetEntry} {name : String} {e : SheetEntry}
    {f : SheetFile} (h : IsLastEntry files directory entries name e f) :
    e ∈ entries ∧ e.name = name := by
  obtain ⟨earlier, later, hnamed, -⟩ := h.last
  have hmem : e ∈ named entries name :=
    hnamed ▸ List.mem_append_right _ (List.mem_cons_self ..)
  obtain ⟨hmem, hname⟩ := List.mem_filter.1 hmem
  exact ⟨hmem, beq_iff_eq.1 hname⟩

theorem getElem?_toWorkbook (m : Manifest) (name : String) :
    (m.toWorkbook files directory).contents[name]? =
      (named m.sheets name).reverse.findSome? (sheetOf? files directory) := by
  change (List.foldl _ ∅ m.sheets)[name]? = _
  rw [getElem?_foldl (fun e => if e.name == name then sheetOf? files directory e else none) name ?_,
    Std.ExtTreeMap.getElem?_empty, Option.or_none, named, ← List.filter_reverse, findSome?_filter]
  intro contents e
  cases sheetOf? files directory e with
  | none => simp
  | some s =>
    dsimp only
    rw [Coordinate.getElem?_insert_key]
    by_cases hname : e.name = name
    · simp [hname]
    · simp [hname]

theorem getElem?_toWorkbook_eq_some_iff {m : Manifest} {name : String} {s : Sheet} :
    (m.toWorkbook files directory).contents[name]? = some s ↔
      ∃ e f, IsLastEntry files directory m.sheets name e f ∧ s = f.toSheet e := by
  have hnone : ∀ e, sheetOf? files directory e = none ↔ sheetFile? files directory e = none := by
    intro e
    rw [sheetOf?_eq, Option.map_eq_none_iff]
  rw [getElem?_toWorkbook, findSome?_reverse_eq_some_iff]
  constructor
  · rintro ⟨earlier, e, later, hl, hs, hlater⟩
    rw [sheetOf?_eq] at hs
    obtain ⟨f, hf, rfl⟩ := Option.map_eq_some_iff.1 hs
    exact ⟨e, f, ⟨hf, earlier, later, hl, fun e' he' => (hnone e').1 (hlater e' he')⟩, rfl⟩
  · rintro ⟨e, f, ⟨hf, earlier, later, hl, hlater⟩, rfl⟩
    refine ⟨earlier, e, later, hl, ?_, fun e' he' => (hnone e').2 (hlater e' he')⟩
    rw [sheetOf?_eq, hf]
    rfl

theorem getElem?_toWorkbook_eq_none_iff {m : Manifest} {name : String} :
    (m.toWorkbook files directory).contents[name]? = none ↔
      ∀ e ∈ m.sheets, e.name = name → sheetFile? files directory e = none := by
  rw [getElem?_toWorkbook, List.findSome?_eq_none_iff]
  simp only [List.mem_reverse, named, List.mem_filter, beq_iff_eq, and_imp, sheetOf?_eq,
    Option.map_eq_none_iff]

theorem sheetOf?_congr {files' : Files} {e : SheetEntry}
    (h : files'.read? (Path.join directory e.file) = files.read? (Path.join directory e.file)) :
    sheetOf? files' directory e = sheetOf? files directory e := by
  rw [sheetOf?, sheetOf?, h]

theorem getElem?_toWorkbook_congr {files' : Files} {m m' : Manifest} {name : String}
    (hentries : named m'.sheets name = named m.sheets name)
    (hread : ∀ e ∈ named m.sheets name,
      files'.read? (Path.join directory e.file) = files.read? (Path.join directory e.file)) :
    (m'.toWorkbook files' directory).contents[name]? =
      (m.toWorkbook files directory).contents[name]? := by
  have hsheets : (named m.sheets name).reverse.map (sheetOf? files' directory) =
      (named m.sheets name).reverse.map (sheetOf? files directory) :=
    List.map_congr_left fun e he => sheetOf?_congr files directory (hread e (List.mem_reverse.1 he))
  have hsome := congrArg (List.findSome? id) hsheets
  rw [List.findSome?_map, List.findSome?_map] at hsome
  rw [getElem?_toWorkbook, getElem?_toWorkbook, hentries]
  exact hsome

theorem load_of_manifest? {m : Manifest} (h : manifest? files directory = some m) :
    load files directory = m.toWorkbook files directory := by
  rw [load, h]

/-- A loaded sheet comes from a file, and an entry of its name lists it. -/
theorem exists_entry_of_load {name : String} {s : Sheet}
    (h : (load files directory).contents[name]? = some s) :
    ∃ e ∈ (load files directory).entries, ∃ f : SheetFile, e.name = name ∧ s = f.toSheet e := by
  rw [load] at h ⊢
  split at h
  · obtain ⟨e, f, hlast, rfl⟩ := (getElem?_toWorkbook_eq_some_iff files directory).1 h
    obtain ⟨hmem, hname⟩ := hlast.mem_entries
    exact ⟨e, hmem, f, hname, rfl⟩
  · rw [Std.ExtTreeMap.getElem?_empty] at h
    cases h

end Sheets

/-- What is loaded of an export is what can be read of it. -/
structure LoadsReadable (files : Files) (directory : String) (m : Manifest) : Prop where
  /-- The sheet of a name is that of its last entry whose file can be read. -/
  sheet_iff : ∀ (name : String) (s : Sheet), (load files directory).contents[name]? = some s ↔
    ∃ e f, IsLastEntry files directory m.sheets name e f ∧ s = f.toSheet e
  sheet_eq_none_iff : ∀ name : String, (load files directory).contents[name]? = none ↔
    ∀ e ∈ m.sheets, e.name = name → sheetFile? files directory e = none
  /-- Entries of other names and the files that they alone refer to have no say. -/
  sheet_congr : ∀ (files' : Files) (m' : Manifest), manifest? files' directory = some m' →
    ∀ name : String, named m'.sheets name = named m.sheets name →
      (∀ e ∈ named m.sheets name,
        files'.read? (Path.join directory e.file) = files.read? (Path.join directory e.file)) →
      (load files' directory).contents[name]? = (load files directory).contents[name]?
  /-- The cell at a coordinate is that of the greatest of its keys with a sound record. -/
  cell_iff : ∀ (f : SheetFile) (e : SheetEntry) (c : Coordinate) (cell : Cell),
    (f.toSheet e).cells[c]? = some cell ↔
      ∃ key r, IsLastRecord f.cells c key r ∧ cell = r.toCell
  cell_eq_none_iff : ∀ (f : SheetFile) (e : SheetEntry) (c : Coordinate),
    (f.toSheet e).cells[c]? = none ↔
      ∀ key, coordinateOf? key = some c → record? f.cells key = none
  /-- Records of other coordinates and records that are not sound have no say. -/
  cell_congr : ∀ (f f' : SheetFile) (e : SheetEntry) (c : Coordinate),
    (∀ key, coordinateOf? key = some c → record? f'.cells key = record? f.cells key) →
      (f'.toSheet e).cells[c]? = (f.toSheet e).cells[c]?

/-- Loading loses what cannot be read, and nothing else. -/
theorem loadsReadable_load {files : Files} {directory : String} {m : Manifest}
    (h : manifest? files directory = some m) : LoadsReadable files directory m := by
  have hload := load_of_manifest? files directory h
  refine ⟨fun name s => ?_, fun name => ?_, fun files' m' h' name hentries hread => ?_,
    fun f e c cell => getElem?_gridOf_eq_some_iff, fun f e c => getElem?_gridOf_eq_none_iff,
    fun f f' e c => getElem?_gridOf_congr⟩
  · rw [hload, getElem?_toWorkbook_eq_some_iff]
  · rw [hload, getElem?_toWorkbook_eq_none_iff]
  · rw [hload, load_of_manifest? files' directory h']
    exact getElem?_toWorkbook_congr files directory hentries hread

/-! ## Written exports -/

/-- A file with a manifest of sheets, each with the name of its file. -/
def manifestFile (sheets : List (String × String)) : Found :=
  .text (Json.Value.object [("sheets", .array (sheets.map fun (name, file) =>
    .object [("name", .text name), ("file", .text file)]))]).compact

/-- A sheet file with the records of cells by their keys. -/
def cellsFile (records : List (String × Json.Value)) : Found :=
  .text (Json.Value.object [("cells", .object records)]).compact

def constantRecord (value : Json.Value) : Json.Value :=
  .object [("value", value)]

def numberRecord (n : Nat) : Json.Value :=
  constantRecord (.number (.natural n))

def formulaRecord (formula : String) : Json.Value :=
  .object [("formula", .text formula), ("data_type", .text "f")]

/-- An export in which entries and records that cannot be read stand before and behind those that
can. -/
def patchy : Files
  | "d" => some .directory
  | "d/_workbook.json" => some (manifestFile
      [("S", "t.json"), ("S", "s.json"), ("T", "t.json"), ("S", "u.json"), ("S", "")])
  | "d/s.json" => some (cellsFile
      [(" A1", numberRecord 1), ("A1", numberRecord 2), ("a1", .number (.natural 3))])
  | "d/t.json" => some (.text (Json.Value.object []).compact)
  | "d/u.json" => some (.text "[")
  | _ => none

theorem loadsReadable_patchy : ∃ m, manifest? patchy "d" = some m ∧ LoadsReadable patchy "d" m ∧
    (load patchy "d").contents["S"]?.bind (fun s => s.cells[(⟨1, 1⟩ : Coordinate)]?) =
      some (.constant (.number 2)) := by
  have hsome : (manifest? patchy "d").isSome = true := by decide +kernel
  obtain ⟨m, hm⟩ := Option.isSome_iff_exists.1 hsome
  exact ⟨m, hm, loadsReadable_load hm, by decide +kernel⟩

end Recalc.Export
