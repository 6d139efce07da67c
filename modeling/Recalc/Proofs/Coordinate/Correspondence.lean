import Mathlib.Data.List.Induction
import Mathlib.Tactic.Ring
import Recalc.Proofs.Coordinate.Label
import Recalc.Proofs.Text.Case

/-!
# Coordinates and labels

The letters of a column are its number in base 26 with the digits 1 to 26 (`lettersValue`). Reading
letters gives up only where this number exceeds 32 bits, never because of what it meets on the way,
and writing a column undoes the reading up to the case of the letters. Rows are decimal numbers
without leading zeros. So coordinates and labels in capitals correspond one to one
(`label_correspondence`).
-/

namespace Recalc

open Text (upper)

/-! ## Digits -/

namespace Decimal

theorem readDigits?_eq_some_iff {digits : List Char} {n : Nat} :
    readDigits? digits = some n ↔
      digits ≠ [] ∧ (∀ c ∈ digits, c.isDigit = true) ∧ ofDigits digits = n := by
  simp [readDigits?, and_assoc]

theorem ofDigits_concat (digits : List Char) (c : Char) :
    ofDigits (digits ++ [c]) = 10 * ofDigits digits + digitValue c := by
  rw [ofDigits, List.foldl_concat]
  rfl

theorem digitValue_spec {c : Char} (hc : c.isDigit = true) :
    digitValue c < 10 ∧ (digitValue c).digitChar = c := by
  have hchar : ∀ k < 10, k.digitChar = Char.ofNat ('0'.toNat + k) := by decide
  have hwidth : '9'.toNat = '0'.toNat + 9 := rfl
  rw [Char.isDigit, Bool.and_eq_true, decide_eq_true_eq, decide_eq_true_eq] at hc
  have hle : '0'.toNat ≤ c.toNat := hc.1
  have hge : c.toNat ≤ '9'.toNat := hc.2
  have hlt : digitValue c < 10 := by rw [digitValue]; omega
  refine ⟨hlt, ?_⟩
  rw [hchar _ hlt, digitValue, Nat.add_sub_cancel' hle, Char.ofNat_toNat]

/-- Digits without a leading zero are the digits of the number that they write. -/
theorem natDigits_ofDigits {digits : List Char} (hne : digits ≠ [])
    (hd : ∀ c ∈ digits, c.isDigit = true) (hz : digits.head? ≠ some '0') :
    Layout.natDigits (ofDigits digits) = digits := by
  induction digits using List.reverseRecOn with
  | nil => exact absurd rfl hne
  | append_singleton digits c ih =>
    obtain ⟨hlt, hchar⟩ := digitValue_spec (hd c (by simp))
    rw [ofDigits_concat, Layout.natDigits]
    by_cases hnil : digits = []
    · rw [hnil, ofDigits, List.foldl_nil, Nat.mul_zero, Nat.zero_add, Nat.toDigits_of_lt_base hlt,
        hchar]
      rfl
    · have hdigits : ∀ d ∈ digits, d.isDigit = true :=
        fun d hmem => hd d (List.mem_append_left _ hmem)
      have hhead : digits.head? ≠ some '0' := fun h => hz (by rw [List.head?_append, h]; rfl)
      have hpos : 0 < ofDigits digits :=
        Coordinate.readDigits?_pos hhead (readDigits?_eq_some_iff.2 ⟨hnil, hdigits, rfl⟩)
      have hih : Nat.toDigits 10 (ofDigits digits) = digits := ih hnil hdigits hhead
      rw [← Nat.toDigits_append_toDigits (by decide) hpos hlt, Nat.toDigits_of_lt_base hlt, hchar,
        hih]

end Decimal

namespace Coordinate

/-! ## Columns -/

/-- The number that letters write in base 26, where `A` is the digit 1 and `Z` the digit 26. -/
def lettersValue : List Char → Nat
  | [] => 0
  | c :: letters => letterValue c * 26 ^ letters.length + lettersValue letters

theorem lettersValue_concat (letters : List Char) (c : Char) :
    lettersValue (letters ++ [c]) = 26 * lettersValue letters + letterValue c := by
  induction letters with
  | nil => simp [lettersValue]
  | cons d letters ih =>
    rw [List.cons_append, lettersValue, lettersValue, ih, List.length_append, List.length_singleton]
    ring

/-- A letter is a digit from 1 to 26, and its capital is found from the digit. -/
theorem letterValue_spec {c : Char} (hc : c.isAlpha = true) :
    0 < letterValue c ∧ letterValue c ≤ 26 ∧
      Char.ofNat ('A'.toNat + (letterValue c - 1)) = c.toUpper := by
  have hupper : c.toUpper.isUpper = true := (Text.toUpper_of_isAlpha hc).1
  unfold Char.isUpper at hupper
  rw [decide_eq_true_eq] at hupper
  have hle : 'A'.toNat ≤ c.toUpper.toNat := hupper.1
  have hge : c.toUpper.toNat ≤ 'Z'.toNat := hupper.2
  have hwidth : 'Z'.toNat = 'A'.toNat + 25 := rfl
  refine ⟨Nat.succ_pos _, by rw [letterValue]; omega, ?_⟩
  rw [letterValue, Nat.add_sub_cancel, Nat.add_sub_cancel' hle, Char.ofNat_toNat]

section Letters
variable {letters : List Char} (hl : ∀ c ∈ letters, c.isAlpha = true)
include hl

/-- A number that grows too large on the way is too large in the end. -/
theorem foldlM_pushLetter?_eq {n : Nat} (hn : n ≤ maxNumber) :
    letters.foldlM pushLetter? n =
      if n * 26 ^ letters.length + lettersValue letters ≤ maxNumber then
        some (n * 26 ^ letters.length + lettersValue letters)
      else none := by
  induction letters generalizing n with
  | nil => simp [lettersValue, hn]
  | cons c letters ih =>
    obtain ⟨hc, hl⟩ := List.forall_mem_cons.1 hl
    have hvalue : n * 26 ^ (c :: letters).length + lettersValue (c :: letters) =
        (26 * n + letterValue c) * 26 ^ letters.length + lettersValue letters := by
      rw [lettersValue, List.length_cons]
      ring
    rw [List.foldlM_cons, pushLetter?, hc, Bool.true_and, hvalue]
    by_cases hmax : 26 * n + letterValue c ≤ maxNumber
    · rw [decide_eq_true hmax, if_pos rfl, Option.bind_eq_bind, Option.bind_some, ih hl hmax]
    · have hgrows := Nat.le_mul_of_pos_right (26 * n + letterValue c)
        (Nat.pow_pos (n := letters.length) (show 0 < 26 by decide))
      rw [decide_eq_false hmax, if_neg Bool.false_ne_true, if_neg (by omega)]
      rfl

theorem columnNumber?_eq (hne : letters ≠ []) : columnNumber? letters =
    if lettersValue letters ≤ maxNumber then some (UInt32.ofNat (lettersValue letters))
    else none := by
  have hempty : letters.isEmpty = false := by simpa using hne
  rw [columnNumber?, hempty, foldlM_pushLetter?_eq hl (Nat.zero_le _), Nat.zero_mul, Nat.zero_add,
    if_neg Bool.false_ne_true]
  split <;> rfl

theorem columnNumber?_eq_none_iff (hne : letters ≠ []) :
    columnNumber? letters = none ↔ maxNumber < lettersValue letters := by
  rw [columnNumber?_eq hl hne]
  split <;> simp <;> omega

/-- The letters of the number that letters write are these letters in capitals. -/
theorem columnLetters_lettersValue : columnLetters (lettersValue letters) = upper letters := by
  induction letters using List.reverseRecOn with
  | nil =>
    rw [lettersValue, columnLetters]
    rfl
  | append_singleton letters c ih =>
    obtain ⟨hpos, hle, hletter⟩ := letterValue_spec (hl c (by simp))
    have hquot : (26 * lettersValue letters + letterValue c - 1) / 26 = lettersValue letters := by
      omega
    have hrem : (26 * lettersValue letters + letterValue c - 1) % 26 = letterValue c - 1 := by
      omega
    rw [lettersValue_concat, columnLetters, if_neg (by omega), hquot, hrem, hletter,
      ih fun d hd => hl d (List.mem_append_left _ hd), Text.upper_append]
    rfl

end Letters

theorem toNat_of_columnNumber? {letters : List Char} {column : UInt32}
    (h : columnNumber? letters = some column) : column.toNat = lettersValue letters := by
  have hl := isAlpha_of_columnNumber? h
  have hne : letters ≠ [] := by
    rintro rfl
    cases h
  rw [columnNumber?_eq hl hne] at h
  split at h
  · rename_i hmax
    obtain rfl := Option.some.inj h
    exact UInt32.toNat_ofNat_of_lt' (Nat.lt_succ_of_le hmax)
  · cases h

theorem columnLabel_of_columnNumber? {letters : List Char} {column : UInt32}
    (h : columnNumber? letters = some column) : columnLabel column = upper letters := by
  rw [columnLabel, if_neg (columnNumber?_ne_zero h), toNat_of_columnNumber? h,
    columnLetters_lettersValue (isAlpha_of_columnNumber? h)]

/-! ## Rows -/

theorem natDigits_of_rowNumber? {digits : List Char} {row : UInt32}
    (h : rowNumber? digits = some row) : Decimal.Layout.natDigits row.toNat = digits := by
  unfold rowNumber? at h
  split at h
  · cases h
  · rename_i hz
    obtain ⟨n, hn, h⟩ := Option.bind_eq_some_iff.1 h
    obtain ⟨hne, hd, rfl⟩ := Decimal.readDigits?_eq_some_iff.1 hn
    split at h
    · rename_i hmax
      obtain rfl := Option.some.inj h
      rw [UInt32.toNat_ofNat_of_lt' (Nat.lt_succ_of_le hmax), Decimal.natDigits_ofDigits hne hd hz]
    · cases h

theorem isDigit_of_rowNumber? {digits : List Char} {row : UInt32}
    (h : rowNumber? digits = some row) : ∀ c ∈ digits, c.isDigit = true := by
  rw [← natDigits_of_rowNumber? h]
  exact Decimal.isDigit_of_mem_natDigits

/-! ## Labels -/

/-- The label of what is read is what was read, in capitals. -/
theorem labelChars_of_parse? {text : List Char} {c : Coordinate} (h : parse? text = some c) :
    c.labelChars = upper text := by
  obtain ⟨column, hcolumn, h⟩ := Option.bind_eq_some_iff.1 h
  obtain ⟨row, hrow, rfl⟩ := Option.map_eq_some_iff.1 h
  have hdigits : upper (text.dropWhile Char.isAlpha) = text.dropWhile Char.isAlpha :=
    Text.upper_eq_self fun d hd => Formula.isAlpha_of_isDigit (isDigit_of_rowNumber? hrow d hd)
  rw [labelChars, columnLabel_of_columnNumber? hcolumn, natDigits_of_rowNumber? hrow, ← hdigits,
    ← Text.upper_append, List.takeWhile_append_dropWhile]

/-- Coordinates and labels in capitals are two forms of one thing, and so are columns and letters;
letters are no column only if their number is too large. -/
theorem label_correspondence :
    (∀ c : Coordinate, c.Positive → parse? c.labelChars = some c) ∧
    (∀ text c, parse? text = some c → c.Positive ∧ c.labelChars = upper text) ∧
    (∀ letters, letters ≠ [] → (∀ c ∈ letters, c.isAlpha = true) →
      (columnNumber? letters = none ↔ maxNumber < lettersValue letters)) ∧
    (∀ letters column, columnNumber? letters = some column →
      column.toNat = lettersValue letters ∧ columnLabel column = upper letters) ∧
    ∀ column, column ≠ 0 → columnNumber? (columnLabel column) = some column := by
  refine ⟨fun c => parse?_labelChars, fun text c h => ?_, fun letters hne hl => ?_,
    fun letters column h => ?_, fun column => columnNumber?_columnLabel⟩
  · exact ⟨positive_of_parse? h, labelChars_of_parse? h⟩
  · exact columnNumber?_eq_none_iff hl hne
  · exact ⟨toNat_of_columnNumber? h, columnLabel_of_columnNumber? h⟩

/-- The last cell of all, and the first letters past the last column. -/
theorem label_correspondence_last :
    (⟨4294967295, 4294967295⟩ : Coordinate).Positive ∧
    parse? (labelChars ⟨4294967295, 4294967295⟩) = some ⟨4294967295, 4294967295⟩ ∧
    labelChars ⟨4294967295, 4294967295⟩ = "MWLQKWU4294967295".toList ∧
    columnNumber? "MWLQKWV".toList = none := by
  obtain ⟨hparse, hlabel, hnone, -, -⟩ := label_correspondence
  have hread : parse? "mwlqkwu4294967295".toList = some ⟨4294967295, 4294967295⟩ := by
    decide +kernel
  obtain ⟨hpositive, hchars⟩ := hlabel _ _ hread
  refine ⟨hpositive, hparse _ hpositive, hchars.trans (by decide +kernel), ?_⟩
  exact (hnone _ (by decide +kernel) (List.all_eq_true.1 (by decide +kernel))).2
    (by decide +kernel)

end Coordinate

end Recalc
