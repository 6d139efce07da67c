import Recalc.Formula.Evaluate
import Recalc.Proofs.Coordinate.Label

/-!
# The cells of a rectangle

A rectangle between two corners with positive columns and rows has as many cells as its height times
its width; the 64-bit count never stays at its maximum. Up to `2 ^ 20` of them are listed, in
row-major order and each once, and the list is the same whichever two opposite corners name the
rectangle (`cells?_rectangle`). So an aggregate takes the same numbers, in the same order.
-/

namespace Recalc.Range

variable (r : Range)

/-! ## Rectangles -/

/-- How many rows lie between the corners, both of them counted. -/
def height : Nat := ((r.first.row.toNat : Int) - r.second.row.toNat).natAbs + 1

/-- How many columns lie between the corners, both of them counted. -/
def width : Nat := ((r.first.column.toNat : Int) - r.second.column.toNat).natAbs + 1

/-- A cell lies between the corners, in its row and in its column. -/
structure Covers (c : Coordinate) : Prop where
  row_ge : min r.first.row.toNat r.second.row.toNat ≤ c.row.toNat
  row_le : c.row.toNat ≤ max r.first.row.toNat r.second.row.toNat
  column_ge : min r.first.column.toNat r.second.column.toNat ≤ c.column.toNat
  column_le : c.column.toNat ≤ max r.first.column.toNat r.second.column.toNat

/-- The same rectangle between its other two corners. -/
def mirrored : Range :=
  ⟨⟨r.first.row, r.second.column⟩, ⟨r.second.row, r.first.column⟩⟩

def swapped : Range :=
  ⟨r.second, r.first⟩

/-- The ways to name a rectangle by opposite corners. -/
def namings : List Range :=
  [r, r.swapped, r.mirrored, r.mirrored.swapped]

/-- One cell comes before another, row by row. -/
def RowMajor (c d : Coordinate) : Prop :=
  c.row < d.row ∨ c.row = d.row ∧ c.column < d.column

/-! ## From one end to the other -/

section Between
variable {m n : UInt32} {k : Nat}

/-- The numbers from one of two ends to the other. -/
def between (m n : UInt32) : List Nat :=
  List.range' (min m.toNat n.toNat) (max m.toNat n.toNat - min m.toNat n.toNat + 1)

theorem span_eq (m n : UInt32) : max m.toNat n.toNat - min m.toNat n.toNat + 1 =
    ((m.toNat : Int) - n.toNat).natAbs + 1 := by
  omega

theorem length_between (m n : UInt32) :
    (between m n).length = ((m.toNat : Int) - n.toNat).natAbs + 1 := by
  rw [between, List.length_range', span_eq]

/-- No side is longer than the greatest 32-bit number. -/
theorem span_le (hm : m ≠ 0) (hn : n ≠ 0) :
    ((m.toNat : Int) - n.toNat).natAbs + 1 ≤ 0xFFFFFFFF := by
  have hpos (n : UInt32) (hn : n ≠ 0) : 0 < n.toNat :=
    Nat.pos_of_ne_zero fun h => hn (UInt32.toNat_inj.1 h)
  have := hpos m hm
  have := hpos n hn
  have := m.toNat_lt
  have := n.toNat_lt
  omega

theorem mem_between_iff :
    k ∈ between m n ↔ min m.toNat n.toNat ≤ k ∧ k ≤ max m.toNat n.toNat := by
  have hle : min m.toNat n.toNat ≤ max m.toNat n.toNat := min_le_max
  rw [between, List.mem_range'_1]
  omega

theorem toNat_ofNat_of_mem_between (hk : k ∈ between m n) : (UInt32.ofNat k).toNat = k :=
  UInt32.toNat_ofNat_of_lt' ((mem_between_iff.1 hk).2.trans_lt (max_lt m.toNat_lt n.toNat_lt))

theorem pairwise_between (m n : UInt32) :
    (between m n).Pairwise fun j k => UInt32.ofNat j < UInt32.ofNat k := by
  refine List.Pairwise.imp_of_mem (fun hj hk hlt => ?_) (List.pairwise_lt_range' 1)
  rwa [UInt32.lt_iff_toNat_lt, toNat_ofNat_of_mem_between hj, toNat_ofNat_of_mem_between hk]

end Between

/-! ## Counting and listing -/

variable {r}

theorem cellCount_eq (h₁ : r.first.Positive) (h₂ : r.second.Positive) :
    r.cellCount = r.height * r.width := by
  have hheight : r.height ≤ 0xFFFFFFFF := span_le h₁.row_ne h₂.row_ne
  have hwidth : r.width ≤ 0xFFFFFFFF := span_le h₁.column_ne h₂.column_ne
  rw [cellCount, lastRow, firstRow, lastColumn, firstColumn, span_eq, span_eq]
  exact Nat.min_eq_right ((Nat.mul_le_mul hheight hwidth).trans (by decide))

theorem covers_iff {c : Coordinate} : r.Covers c ↔
    c.row.toNat ∈ between r.first.row r.second.row ∧
      c.column.toNat ∈ between r.first.column r.second.column := by
  rw [mem_between_iff, mem_between_iff]
  constructor
  · rintro ⟨hrow, hrow', hcolumn, hcolumn'⟩
    exact ⟨⟨hrow, hrow'⟩, hcolumn, hcolumn'⟩
  · rintro ⟨⟨hrow, hrow'⟩, hcolumn, hcolumn'⟩
    exact ⟨hrow, hrow', hcolumn, hcolumn'⟩

section Listing
variable {cells : List Coordinate} {c : Coordinate}

theorem cells?_eq_none_iff : r.cells? = none ↔ maxCells < r.cellCount := by
  rw [cells?]
  split
  · rename_i h
    exact iff_of_true rfl h
  · rename_i h
    exact iff_of_false (Option.some_ne_none _) h

theorem cells_eq (h : r.cells? = some cells) :
    cells = (between r.first.row r.second.row).flatMap fun row =>
      (between r.first.column r.second.column).map fun column =>
        ⟨UInt32.ofNat row, UInt32.ofNat column⟩ := by
  rw [cells?] at h
  split at h
  · cases h
  · exact (Option.some.inj h).symm

theorem pairwise_cells (h : r.cells? = some cells) : cells.Pairwise RowMajor := by
  rw [cells_eq h, List.pairwise_flatMap]
  constructor
  · intro row _
    rw [List.pairwise_map]
    exact (pairwise_between _ _).imp fun hlt => Or.inr ⟨rfl, hlt⟩
  · refine (pairwise_between _ _).imp fun hlt c hc d hd => Or.inl ?_
    obtain ⟨_, -, rfl⟩ := List.mem_map.1 hc
    obtain ⟨_, -, rfl⟩ := List.mem_map.1 hd
    exact hlt

theorem length_cells (h : r.cells? = some cells) : cells.length = r.height * r.width := by
  rw [cells_eq h, List.length_flatMap]
  simp only [List.length_map, List.map_const', List.sum_replicate_nat, length_between]
  rfl

theorem mem_cells_iff (h : r.cells? = some cells) : c ∈ cells ↔ r.Covers c := by
  rw [cells_eq h, List.mem_flatMap, covers_iff]
  constructor
  · rintro ⟨row, hrow, hc⟩
    obtain ⟨column, hcolumn, rfl⟩ := List.mem_map.1 hc
    exact ⟨by rwa [toNat_ofNat_of_mem_between hrow],
      by rwa [toNat_ofNat_of_mem_between hcolumn]⟩
  · rintro ⟨hrow, hcolumn⟩
    refine ⟨_, hrow, List.mem_map.2 ⟨_, hcolumn, ?_⟩⟩
    rw [UInt32.ofNat_toNat, UInt32.ofNat_toNat]

end Listing

/-! ## Naming a rectangle -/

section Naming
variable {r' : Range} {lookup : Lookup} {sheet : String} {name : Option String}
  {argument : List Char}

/-- A rectangle's rows and columns do not depend on the corners that name it. -/
theorem sides_of_mem_namings (h : r' ∈ r.namings) :
    r'.firstRow = r.firstRow ∧ r'.lastRow = r.lastRow ∧
      r'.firstColumn = r.firstColumn ∧ r'.lastColumn = r.lastColumn := by
  simp only [namings, List.mem_cons, List.not_mem_nil, or_false] at h
  rcases h with rfl | rfl | rfl | rfl
  · exact ⟨rfl, rfl, rfl, rfl⟩
  · exact ⟨Nat.min_comm .., Nat.max_comm .., Nat.min_comm .., Nat.max_comm ..⟩
  · exact ⟨rfl, rfl, Nat.min_comm .., Nat.max_comm ..⟩
  · exact ⟨Nat.min_comm .., Nat.max_comm .., rfl, rfl⟩

theorem cells?_of_mem_namings (h : r' ∈ r.namings) : r'.cells? = r.cells? := by
  obtain ⟨hfirstRow, hlastRow, hfirstColumn, hlastColumn⟩ := sides_of_mem_namings h
  rw [cells?, cells?, cellCount, cellCount, hfirstRow, hlastRow, hfirstColumn, hlastColumn]

theorem numbers_of_ofArgument? (h : Reference.ofArgument? argument = some ⟨name, .range r⟩) :
    Formula.numbers lookup sheet argument =
      match r.cells? with
      | none => .error (.tooManyCells argument)
      | some cells => .ok (cells.filterMap fun c =>
          (lookup (c.key (name.getD sheet))).bind Value.asNumber?) := by
  have hkeys : (Reference.mk name (.range r)).keys? sheet =
      r.cells?.map fun cells => cells.map (Coordinate.key (name.getD sheet)) := rfl
  rw [Formula.numbers, h]
  simp only [hkeys]
  cases r.cells? with
  | none => rfl
  | some cells => exact congrArg _ List.filterMap_map

end Naming

/-- The cells of a rectangle are counted and listed exactly, and alike whichever opposite corners
name it. -/
theorem cells?_rectangle (r : Range) (h₁ : r.first.Positive) (h₂ : r.second.Positive) :
    r.cellCount = r.height * r.width ∧
    (r.cells? = none ↔ 2 ^ 20 < r.height * r.width) ∧
    (∀ cells, r.cells? = some cells → cells.Pairwise RowMajor ∧ cells.length = r.cellCount ∧
      ∀ c, c ∈ cells ↔ r.Covers c) ∧
    (∀ r' ∈ r.namings, r'.cells? = r.cells? ∧
      ∀ (lookup : Lookup) (sheet : String) (name : Option String) (argument argument' : List Char),
        Reference.ofArgument? argument = some ⟨name, .range r⟩ →
        Reference.ofArgument? argument' = some ⟨name, .range r'⟩ →
        Formula.numbers lookup sheet argument' =
          (Formula.numbers lookup sheet argument).mapError fun _ => .tooManyCells argument') := by
  have hcount := cellCount_eq h₁ h₂
  refine ⟨hcount, ?_, fun cells h => ?_, fun r' hr' => ?_⟩
  · rw [cells?_eq_none_iff, hcount]
    rfl
  · exact ⟨pairwise_cells h, (length_cells h).trans hcount.symm, fun c => mem_cells_iff h⟩
  · have hcells := cells?_of_mem_namings hr'
    refine ⟨hcells, fun lookup sheet name argument argument' h h' => ?_⟩
    rw [numbers_of_ofArgument? h, numbers_of_ofArgument? h', hcells]
    cases r.cells? with
    | none => rfl
    | some cells => rfl

/-- Six cells between the lower left and the upper right corner, named the other way round. -/
theorem cells?_rectangle_six :
    (Range.mk ⟨3, 1⟩ ⟨1, 2⟩).cellCount = 3 * 2 ∧
    (Range.mk ⟨3, 2⟩ ⟨1, 1⟩).cells? = (Range.mk ⟨3, 1⟩ ⟨1, 2⟩).cells? ∧
    (Formula.numbers (fun key => if key = "S!B1" then some (.number 2) else none) "S"
      "b3:A1".toList).toOption = some [2] := by
  obtain ⟨hcount, -, -, hnamings⟩ :=
    cells?_rectangle ⟨⟨3, 1⟩, ⟨1, 2⟩⟩ ⟨by decide, by decide⟩ ⟨by decide, by decide⟩
  obtain ⟨hcells, hnumbers⟩ := hnamings ⟨⟨3, 2⟩, ⟨1, 1⟩⟩ (by decide)
  refine ⟨hcount, hcells, ?_⟩
  rw [hnumbers _ "S" none "A3:B1".toList "b3:A1".toList (by decide +kernel) (by decide +kernel)]
  decide +kernel

end Recalc.Range
