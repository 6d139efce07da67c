import Mathlib.Tactic.ByContra
import Recalc.Coordinate
import Recalc.Proofs.Decimal.Numeral
import Recalc.Proofs.Formula.Delimiter
import Recalc.Text.Split

/-!
# Labels and keys

A coordinate with a positive column and row is read back from its label (`parse?_labelChars`), so no
two of them share a label, and no two cells share a key, be they on one sheet or on two
(`key_inj`). A key of a named sheet holds an exclamation mark, which no label does. All coordinates
that are read are of this kind (`positive_of_parse?`).
-/

namespace Recalc.Coordinate

/-! ## Columns -/

theorem isAlpha_letter : ∀ k < 26, (Char.ofNat ('A'.toNat + k)).isAlpha = true ∧
    letterValue (Char.ofNat ('A'.toNat + k)) = k + 1 := by
  decide

theorem isAlpha_of_mem_columnLetters {n : Nat} : ∀ c ∈ columnLetters n, c.isAlpha = true := by
  fun_induction columnLetters n with
  | case1 => simp
  | case2 n hn ih =>
    intro c hc
    rcases List.mem_append.1 hc with hc | hc
    · exact ih c hc
    · rw [List.mem_singleton.1 hc]
      exact (isAlpha_letter _ (Nat.mod_lt _ (by decide))).1

theorem columnLetters_ne_nil {n : Nat} (hn : n ≠ 0) : columnLetters n ≠ [] := by
  rw [columnLetters, if_neg hn]
  exact List.append_ne_nil_of_right_ne_nil _ (by simp)

theorem foldlM_pushLetter?_columnLetters {n : Nat} (hn : n ≤ maxNumber) :
    (columnLetters n).foldlM pushLetter? 0 = some n := by
  fun_induction columnLetters n with
  | case1 => rfl
  | case2 n h ih =>
    obtain ⟨ha, hv⟩ := isAlpha_letter ((n - 1) % 26) (Nat.mod_lt _ (by decide))
    have hq : 26 * ((n - 1) / 26) + ((n - 1) % 26 + 1) = n := by omega
    rw [List.foldlM_append, ih (by omega)]
    show (List.foldlM pushLetter? ((n - 1) / 26) [_]) = some n
    rw [List.foldlM_cons, pushLetter?, ha, hv, hq, Bool.true_and, decide_eq_true hn, if_pos rfl]
    rfl

theorem columnNumber?_columnLabel {column : UInt32} (h : column ≠ 0) :
    columnNumber? (columnLabel column) = some column := by
  have hn : column.toNat ≠ 0 := fun h0 => h (UInt32.toNat_inj.1 h0)
  have hmax : column.toNat ≤ maxNumber := Nat.le_of_lt_succ column.toNat_lt
  have hne : (columnLetters column.toNat).isEmpty = false := by
    simpa using columnLetters_ne_nil hn
  rw [columnLabel, if_neg h, columnNumber?, hne, foldlM_pushLetter?_columnLetters hmax]
  show some (UInt32.ofNat column.toNat) = some column
  rw [UInt32.ofNat_toNat]

theorem isAlpha_of_mem_columnLabel {column : UInt32} :
    ∀ c ∈ columnLabel column, c.isAlpha = true := by
  rw [columnLabel]
  split
  · exact List.all_eq_true.1 rfl
  · exact isAlpha_of_mem_columnLetters

/-! ## Rows -/

theorem head?_natDigits_ne {n : Nat} (hn : n ≠ 0) :
    (Decimal.Layout.natDigits n).head? ≠ some '0' := by
  induction n using Nat.strongRecOn with
  | ind n ih =>
    rw [Decimal.Layout.natDigits, Nat.toDigits_eq_if (by decide)]
    split
    · rename_i hlt
      have : ∀ k < 10, k ≠ 0 → [k.digitChar].head? ≠ some '0' := by decide
      exact this n hlt hn
    · have hdiv : n / 10 ≠ 0 := by omega
      rw [List.head?_append, Option.or_of_isSome]
      · exact ih (n / 10) (by omega) hdiv
      · rw [List.isSome_head?]
        exact Nat.toDigits_ne_nil

theorem readDigits?_natDigits (n : Nat) :
    Decimal.readDigits? (Decimal.Layout.natDigits n) = some n := by
  have hne : (Decimal.Layout.natDigits n).isEmpty = false := by
    rw [List.isEmpty_eq_false_iff]
    exact Nat.toDigits_ne_nil
  have hall : (Decimal.Layout.natDigits n).all Char.isDigit = true :=
    List.all_eq_true.2 Decimal.isDigit_of_mem_natDigits
  rw [Decimal.readDigits?, hne, hall, Decimal.ofDigits_natDigits]
  rfl

theorem rowNumber?_natDigits {row : UInt32} (h : row ≠ 0) :
    rowNumber? (Decimal.Layout.natDigits row.toNat) = some row := by
  have hn : row.toNat ≠ 0 := fun h0 => h (UInt32.toNat_inj.1 h0)
  have hmax : row.toNat ≤ maxNumber := Nat.le_of_lt_succ row.toNat_lt
  rw [rowNumber?, if_neg (head?_natDigits_ne hn), readDigits?_natDigits, Option.bind_some,
    if_pos hmax, UInt32.ofNat_toNat]

/-! ## Labels -/

/-- A coordinate whose column and row are positive. -/
structure Positive (c : Coordinate) : Prop where
  column_ne : c.column ≠ 0
  row_ne : c.row ≠ 0

theorem ofParts?_label {c : Coordinate} (hc : c.Positive) :
    ofParts? (columnLabel c.column) (Decimal.Layout.natDigits c.row.toNat) = some c := by
  rw [ofParts?, columnNumber?_columnLabel hc.column_ne, rowNumber?_natDigits hc.row_ne]
  rfl

theorem parse?_labelChars {c : Coordinate} (hc : c.Positive) : parse? c.labelChars = some c := by
  have hdigit : ∀ d ∈ (Decimal.Layout.natDigits c.row.toNat).head?, d.isAlpha = false :=
    fun d hd => Formula.isAlpha_of_isDigit
      (Decimal.isDigit_of_mem_natDigits d (List.mem_of_mem_head? hd))
  rw [parse?, labelChars, Text.takeWhile_run isAlpha_of_mem_columnLabel _ hdigit,
    Text.dropWhile_run isAlpha_of_mem_columnLabel _ hdigit, ofParts?_label hc]

theorem label_inj {c d : Coordinate} (hc : c.Positive) (hd : d.Positive) (h : c.label = d.label) :
    c = d := by
  have hchars : c.labelChars = d.labelChars := String.ofList_injective h
  have hparse := parse?_labelChars hc
  rw [hchars, parse?_labelChars hd] at hparse
  exact (Option.some.inj hparse).symm

theorem isAlphanum_of_mem_labelChars {c : Coordinate} :
    ∀ d ∈ c.labelChars, d.isAlphanum = true := by
  intro d hd
  rw [Char.isAlphanum]
  rcases List.mem_append.1 hd with hd | hd
  · rw [isAlpha_of_mem_columnLabel d hd]
    rfl
  · rw [Decimal.isDigit_of_mem_natDigits d hd, Bool.or_true]

theorem bang_not_mem_labelChars (c : Coordinate) : '!' ∉ c.labelChars := by
  intro h
  cases isAlphanum_of_mem_labelChars '!' h

theorem toList_label (c : Coordinate) : c.label.toList = c.labelChars :=
  String.toList_ofList

/-! ## Parsed coordinates -/

theorem pushLetter?_bounds {n m : Nat} {c : Char} (h : pushLetter? n c = some m) :
    0 < m ∧ m ≤ maxNumber := by
  unfold pushLetter? at h
  split at h
  · rename_i hc
    rw [Bool.and_eq_true, decide_eq_true_eq] at hc
    obtain rfl := Option.some.inj h
    refine ⟨?_, hc.2⟩
    rw [letterValue]
    omega
  · cases h

theorem foldlM_pushLetter?_bounds {letters : List Char} {n m : Nat}
    (h : letters.foldlM pushLetter? n = some m)
    (hn : letters ≠ [] ∨ 0 < n ∧ n ≤ maxNumber) : 0 < m ∧ m ≤ maxNumber := by
  induction letters generalizing n with
  | nil =>
    obtain rfl := Option.some.inj h
    exact hn.resolve_left fun hne => hne rfl
  | cons c letters ih =>
    rw [List.foldlM_cons] at h
    obtain ⟨k, hk, h⟩ := Option.bind_eq_some_iff.1 h
    exact ih h (Or.inr (pushLetter?_bounds hk))

theorem ofNat_ne_zero {n : Nat} (h : 0 < n) (hn : n ≤ maxNumber) : UInt32.ofNat n ≠ 0 := by
  intro h0
  have hto := congrArg UInt32.toNat h0
  rw [UInt32.toNat_ofNat_of_lt' (Nat.lt_succ_of_le hn)] at hto
  exact Nat.ne_of_gt h hto

theorem columnNumber?_ne_zero {letters : List Char} {column : UInt32}
    (h : columnNumber? letters = some column) : column ≠ 0 := by
  unfold columnNumber? at h
  split at h
  · cases h
  · rename_i hne
    obtain ⟨n, hn, rfl⟩ := Option.map_eq_some_iff.1 h
    obtain ⟨hpos, hmax⟩ := foldlM_pushLetter?_bounds hn (Or.inl (by simpa using hne))
    exact ofNat_ne_zero hpos hmax

theorem isAlpha_of_foldlM_pushLetter? {letters : List Char} {n m : Nat}
    (h : letters.foldlM pushLetter? n = some m) : ∀ c ∈ letters, c.isAlpha = true := by
  induction letters generalizing n with
  | nil => simp
  | cons c r ih =>
    rw [List.foldlM_cons] at h
    obtain ⟨k, hk, hr⟩ := Option.bind_eq_some_iff.1 h
    rw [pushLetter?] at hk
    split at hk
    · rename_i hc
      rw [Bool.and_eq_true] at hc
      exact List.forall_mem_cons.2 ⟨hc.1, ih hr⟩
    · cases hk

theorem isAlpha_of_columnNumber? {letters : List Char} {column : UInt32}
    (h : columnNumber? letters = some column) : ∀ c ∈ letters, c.isAlpha = true := by
  unfold columnNumber? at h
  split at h
  · cases h
  · obtain ⟨n, hn, -⟩ := Option.map_eq_some_iff.1 h
    exact isAlpha_of_foldlM_pushLetter? hn

theorem ofDigitChars_pos {digits : List Char} {n : Nat} (h : 0 < n) :
    0 < Nat.ofDigitChars 10 digits n := by
  induction digits generalizing n with
  | nil => exact h
  | cons c digits ih => exact ih (Nat.add_pos_left (Nat.mul_pos (by decide) h) _)

theorem readDigits?_pos {digits : List Char} {n : Nat} (hz : digits.head? ≠ some '0')
    (h : Decimal.readDigits? digits = some n) : 0 < n := by
  unfold Decimal.readDigits? at h
  split at h
  · cases h
  · rename_i hd
    obtain rfl := Option.some.inj h
    cases digits with
    | nil => simp at hd
    | cons c digits =>
      have hc : c.isDigit = true := by
        simp only [List.isEmpty_cons, Bool.false_or, Bool.not_eq_true', Bool.not_eq_false,
          List.all_cons, Bool.and_eq_true] at hd
        exact hd.1
      have hzero : c ≠ '0' := fun h0 => hz (congrArg some h0)
      have hvalue : '0'.toNat < c.toNat := by
        refine Nat.lt_of_le_of_ne ?_ fun he => hzero (Char.toNat_inj.1 he.symm)
        rw [Char.isDigit, Bool.and_eq_true, decide_eq_true_eq] at hc
        exact hc.1
      show 0 < Nat.ofDigitChars 10 digits (10 * 0 + (c.toNat - '0'.toNat))
      exact ofDigitChars_pos (Nat.add_pos_right _ (Nat.sub_pos_of_lt hvalue))

theorem rowNumber?_ne_zero {digits : List Char} {row : UInt32}
    (h : rowNumber? digits = some row) : row ≠ 0 := by
  unfold rowNumber? at h
  split at h
  · cases h
  · rename_i hz
    obtain ⟨n, hn, h⟩ := Option.bind_eq_some_iff.1 h
    split at h
    · rename_i hmax
      obtain rfl := Option.some.inj h
      exact ofNat_ne_zero (readDigits?_pos hz hn) hmax
    · cases h

/-- Every coordinate that is read has a positive column and row. -/
theorem positive_of_parse? {text : List Char} {c : Coordinate} (h : parse? text = some c) :
    c.Positive := by
  obtain ⟨column, hcolumn, h⟩ := Option.bind_eq_some_iff.1 h
  obtain ⟨row, hrow, rfl⟩ := Option.map_eq_some_iff.1 h
  exact ⟨columnNumber?_ne_zero hcolumn, rowNumber?_ne_zero hrow⟩

/-! ## Keys -/

theorem toList_key {sheet : String} (h : sheet ≠ "") (c : Coordinate) :
    (c.key sheet).toList = sheet.toList ++ '!' :: c.labelChars := by
  have he : sheet.isEmpty = false := by simpa using h
  rw [key, he, if_neg Bool.false_ne_true, String.toList_append, String.toList_append, toList_label]
  simp

theorem splitLast?_key {sheet : String} (h : sheet ≠ "") (c : Coordinate) :
    Text.splitLast? '!' (c.key sheet).toList = some (sheet.toList, c.labelChars) := by
  rw [toList_key h]
  exact Text.splitLast?_append (bang_not_mem_labelChars c)

/-- The key of a cell on a named sheet names its sheet and its label. -/
theorem key_inj_label {s t : String} (hs : s ≠ "") (ht : t ≠ "") {c d : Coordinate}
    (h : c.key s = d.key t) : s = t ∧ c.label = d.label := by
  have hsplit := splitLast?_key hs c
  rw [h, splitLast?_key ht d] at hsplit
  have hpair := Option.some.inj hsplit
  refine ⟨(String.toList_inj.1 (congrArg Prod.fst hpair)).symm, ?_⟩
  exact (congrArg String.ofList (congrArg Prod.snd hpair)).symm

/-- No two cells share a key. -/
theorem key_inj {s t : String} (hs : s ≠ "") (ht : t ≠ "") {c d : Coordinate} (hc : c.Positive)
    (hd : d.Positive) (h : c.key s = d.key t) : s = t ∧ c = d := by
  obtain ⟨hst, hl⟩ := key_inj_label hs ht h
  exact ⟨hst, label_inj hc hd hl⟩

theorem bang_mem_key {s : String} (hs : s ≠ "") (c : Coordinate) : '!' ∈ (c.key s).toList := by
  rw [toList_key hs]
  simp

theorem key_ne_label {s : String} (hs : s ≠ "") (c d : Coordinate) : c.key s ≠ d.label := by
  intro h
  have hmem := bang_mem_key hs c
  rw [h, toList_label] at hmem
  exact bang_not_mem_labelChars d hmem

/-- Cells of different sheets have different keys, also where a sheet has no name. -/
theorem key_ne_key {s t : String} (h : s ≠ t) (c d : Coordinate) : c.key s ≠ d.key t := by
  intro hkey
  by_cases hs : s = ""
  · subst hs
    exact key_ne_label h.symm d c hkey.symm
  · by_cases ht : t = ""
    · subst ht
      exact key_ne_label hs c d hkey
    · exact h (key_inj_label hs ht hkey).1

section Insert
variable {κ α : Type} [Ord κ] [Std.TransOrd κ] [Std.LawfulEqOrd κ] [DecidableEq κ]

theorem getElem?_insert_key (m : Std.ExtTreeMap κ α) (k key : κ) (v : α) :
    (m.insert k v)[key]? = if k = key then some v else m[key]? := by
  by_cases h : k = key
  · rw [if_pos h, h, Std.ExtTreeMap.getElem?_insert_self]
  · rw [if_neg h, Std.ExtTreeMap.getElem?_insert,
      if_neg fun hc => h (Std.LawfulEqCmp.eq_of_compare hc)]

/-- What holds of all that a map holds and of what is written holds of all that it holds then. -/
theorem forall_getElem?_insert {p : κ → α → Prop} {m : Std.ExtTreeMap κ α}
    (hm : ∀ key u, m[key]? = some u → p key u) {k : κ} {v : α} (hv : p k v) :
    ∀ key u, (m.insert k v)[key]? = some u → p key u := by
  intro key u hu
  rw [getElem?_insert_key] at hu
  split at hu
  · rename_i heq
    obtain rfl := Option.some.inj hu
    exact heq ▸ hv
  · exact hm key u hu

end Insert

end Recalc.Coordinate
