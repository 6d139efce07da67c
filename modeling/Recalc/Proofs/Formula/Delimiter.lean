import Mathlib.Tactic.ByContra
import Recalc.Arithmetic.Parser
import Recalc.Proofs.Text.Run
import Recalc.Text.Word

/-!
# Delimiters

The operands of a formula end where a delimiter stands: a blank, an operator or a parenthesis. No
delimiter belongs to a name, a number or a reference. `Opened` and `Closed` say what surrounds an
operand.
-/

namespace Recalc.Formula

/-- An operator or a parenthesis. -/
def isMark (c : Char) : Bool :=
  Arithmetic.isOperator c || c == '(' || c == ')'

/-- A character that may stand between operands. -/
def isDelimiter (c : Char) : Bool :=
  Text.isBlank c || isMark c

/-- What stands behind an operand: nothing, or a mark as the first character that is no blank. -/
def Closed (rest : List Char) : Prop :=
  ∀ c ∈ (Text.trimStart rest).head?, isMark c = true

/-- What stands in front of an operand: nothing or a delimiter. -/
def Opened (before : Option Char) : Prop :=
  ∀ c ∈ before, isDelimiter c = true

theorem isMark_cases {c : Char} (h : isMark c = true) :
    c = '+' ∨ c = '-' ∨ c = '*' ∨ c = '/' ∨ c = '(' ∨ c = ')' := by
  simpa [isMark, Arithmetic.isOperator, or_assoc] using h

theorem isDelimiter_of_isBlank {c : Char} (h : Text.isBlank c = true) : isDelimiter c = true := by
  rw [isDelimiter, h]; rfl

theorem isDelimiter_of_isMark {c : Char} (h : isMark c = true) : isDelimiter c = true := by
  rw [isDelimiter, h, Bool.or_true]

theorem isMark_of_isAdditive {c : Char} (h : Arithmetic.isAdditive c = true) : isMark c = true := by
  simp only [Arithmetic.isAdditive, Bool.or_eq_true, beq_iff_eq] at h
  rcases h with rfl | rfl <;> rfl

theorem isMark_of_isMultiplicative {c : Char} (h : Arithmetic.isMultiplicative c = true) :
    isMark c = true := by
  simp only [Arithmetic.isMultiplicative, Bool.or_eq_true, beq_iff_eq] at h
  rcases h with rfl | rfl <;> rfl

theorem closed_nil : Closed [] := by
  intro c h
  cases h

theorem Closed.isDelimiter_head {rest : List Char} (h : Closed rest) :
    ∀ c ∈ rest.head?, isDelimiter c = true := by
  intro c hc
  obtain ⟨r, rfl⟩ : ∃ r, rest = c :: r := by
    cases rest <;> cases hc
    exact ⟨_, rfl⟩
  by_cases hb : Text.isBlank c = true
  · exact isDelimiter_of_isBlank hb
  · rw [Closed, Text.trimStart_cons_of_not_isBlank (by simpa using hb)] at h
    exact isDelimiter_of_isMark (h c rfl)

/-! ## Classes of characters -/

theorem isWord_of_isBlank {c : Char} (h : Text.isBlank c = true) : Text.isWord c = false := by
  have hcontrol : ∀ n ≤ 13, 9 ≤ n → Text.isWord (Char.ofNat n) = false := by decide +kernel
  have hspace : ∀ k ≤ 10, Text.isWord (Char.ofNat (0x2000 + k)) = false := by decide +kernel
  rw [← Char.ofNat_toNat c]
  simp only [Text.isBlank, Bool.or_eq_true, Bool.and_eq_true, decide_eq_true_eq, beq_iff_eq] at h
  generalize c.toNat = n at h
  rcases h with (((((((((h | rfl) | rfl) | rfl) | rfl) | h) | rfl) | rfl) | rfl) | rfl) | rfl
  · exact hcontrol n h.2 h.1
  case inl.inl.inl.inl.inl.inr =>
    have := hspace (n - 0x2000) (by omega)
    rwa [Nat.add_sub_cancel' h.1] at this
  all_goals decide +kernel

theorem isWord_of_isMark {c : Char} (h : isMark c = true) : Text.isWord c = false := by
  rcases isMark_cases h with rfl | rfl | rfl | rfl | rfl | rfl <;> rfl

theorem isWord_of_isDelimiter {c : Char} (h : isDelimiter c = true) : Text.isWord c = false := by
  rcases Bool.or_eq_true_iff.1 h with h | h
  · exact isWord_of_isBlank h
  · exact isWord_of_isMark h

theorem ne_of_isDelimiter {c : Char} (h : isDelimiter c = true) {d : Char}
    (hd : isDelimiter d = false) : c ≠ d := by
  rintro rfl
  rw [h] at hd
  cases hd

theorem isDelimiter_of_isWord {c : Char} (h : Text.isWord c = true) : isDelimiter c = false := by
  by_contra hd
  rw [isWord_of_isDelimiter (by simpa using hd)] at h
  cases h

theorem isBlank_of_isDelimiter_eq_false {c : Char} (h : isDelimiter c = false) :
    Text.isBlank c = false :=
  (Bool.or_eq_false_iff.1 h).1

theorem isWord_of_isAlpha {c : Char} (h : c.isAlpha = true) : Text.isWord c = true :=
  Text.isWord_of_isAlphanum (by rw [Char.isAlphanum, h]; rfl)

theorem isWord_of_isDigit {c : Char} (h : c.isDigit = true) : Text.isWord c = true :=
  Text.isWord_of_isAlphanum (by rw [Char.isAlphanum, h, Bool.or_true])

theorem isAlphanum_of_isWord_eq_false {c : Char} (h : Text.isWord c = false) :
    c.isAlphanum = false := by
  by_contra ha
  rw [Text.isWord_of_isAlphanum (by simpa using ha)] at h
  cases h

theorem isAlpha_of_isWord_eq_false {c : Char} (h : Text.isWord c = false) : c.isAlpha = false :=
  (Bool.or_eq_false_iff.1 (isAlphanum_of_isWord_eq_false h)).1

theorem isDigit_of_isWord_eq_false {c : Char} (h : Text.isWord c = false) : c.isDigit = false :=
  (Bool.or_eq_false_iff.1 (isAlphanum_of_isWord_eq_false h)).2

theorem isAlphanum_of_isDelimiter {c : Char} (h : isDelimiter c = true) : c.isAlphanum = false :=
  isAlphanum_of_isWord_eq_false (isWord_of_isDelimiter h)

theorem isAlpha_of_isDelimiter {c : Char} (h : isDelimiter c = true) : c.isAlpha = false :=
  isAlpha_of_isWord_eq_false (isWord_of_isDelimiter h)

theorem isDigit_of_isDelimiter {c : Char} (h : isDelimiter c = true) : c.isDigit = false :=
  isDigit_of_isWord_eq_false (isWord_of_isDelimiter h)

theorem isAlpha_of_isDigit {c : Char} (h : c.isDigit = true) : c.isAlpha = false := by
  by_contra ha
  unfold Char.isDigit at h
  unfold Char.isAlpha Char.isUpper Char.isLower at ha
  simp only [Bool.not_eq_false, ge_iff_le, Bool.or_eq_true, Bool.and_eq_true, decide_eq_true_eq,
    UInt32.le_iff_toNat_le] at h ha
  have h₁ : ('9'.val).toNat = 57 := rfl
  have h₂ : ('A'.val).toNat = 65 := rfl
  have h₃ : ('a'.val).toNat = 97 := rfl
  omega

theorem isDigit_of_isAlpha {c : Char} (h : c.isAlpha = true) : c.isDigit = false := by
  by_contra hdigit
  rw [isAlpha_of_isDigit (by simpa using hdigit)] at h
  cases h

theorem opened_none : Opened none := by
  intro c hc
  cases hc

theorem opened_some {c : Char} (h : isDelimiter c = true) : Opened (some c) := by
  rintro d ⟨⟩
  exact h

theorem Opened.any_isWord {before : Option Char} (h : Opened before) :
    before.any Text.isWord = false := by
  cases before with
  | none => rfl
  | some c => exact isWord_of_isDelimiter (h c rfl)

theorem Opened.any_isAlphanum {before : Option Char} (h : Opened before) :
    before.any Char.isAlphanum = false := by
  cases before with
  | none => rfl
  | some c => exact isAlphanum_of_isDelimiter (h c rfl)

end Recalc.Formula
