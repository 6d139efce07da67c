import Mathlib.Data.List.Forall2
import Recalc.Proofs.Formula.Delimiter

/-!
# The case of letters

Two texts that differ in the case of their ASCII letters are the same text in capitals
(`Recased.upper_eq`). What is one for all letters does not change with the case: the classes of
characters, and so the runs of such a class and the blanks around a text.
-/

namespace Recalc.Text

/-- The text with its ASCII letters as capitals. -/
def upper (s : List Char) : List Char :=
  s.map Char.toUpper

/-- A text with any of its ASCII letters in the other case. -/
def Recased (s t : List Char) : Prop :=
  List.Forall₂ (fun c d => d = c ∨ c.isAlpha = true ∧ (d = c.toUpper ∨ d = c.toLower)) s t

/-! ## Classes of characters -/

section Class
variable {c d : Char}

/-- The capital of a letter is a capital, and the same from either case. -/
theorem toUpper_of_isAlpha (h : c.isAlpha = true) :
    c.toUpper.isUpper = true ∧ c.toUpper.toUpper = c.toUpper ∧ c.toLower.toUpper = c.toUpper := by
  have hascii : ∀ n < 0x80, (Char.ofNat n).isAlpha = true →
      (Char.ofNat n).toUpper.isUpper = true ∧
        (Char.ofNat n).toUpper.toUpper = (Char.ofNat n).toUpper ∧
        (Char.ofNat n).toLower.toUpper = (Char.ofNat n).toUpper := by
    decide +kernel
  have hlt : c.toNat < 0x80 := toNat_lt_of_isAlphanum (by rw [Char.isAlphanum, h]; rfl)
  have hletter := hascii c.toNat hlt
  rw [Char.ofNat_toNat] at hletter
  exact hletter h

/-- A letter becomes a letter, and any other character stays as it is. -/
theorem toUpper_cases (c : Char) :
    c.toUpper = c ∨ c.isAlpha = true ∧ c.toUpper.isAlpha = true := by
  by_cases h : c.isAlpha = true
  · exact Or.inr ⟨h, Bool.or_eq_true_iff.2 (Or.inl (toUpper_of_isAlpha h).1)⟩
  · have hlower : ¬ c.isLower = true := fun hl => h (Bool.or_eq_true_iff.2 (Or.inr hl))
    unfold Char.isLower at hlower
    rw [Bool.and_eq_true, decide_eq_true_eq, decide_eq_true_eq] at hlower
    exact Or.inl (dif_neg hlower)

theorem toUpper_toUpper (c : Char) : c.toUpper.toUpper = c.toUpper := by
  rcases toUpper_cases c with h | ⟨h, -⟩
  · rw [h, h]
  · exact (toUpper_of_isAlpha h).2.1

/-- A class that all letters belong to, or none, does not depend on the case. -/
theorem class_toUpper {p : Char → Bool} {b : Bool} (hp : ∀ c, c.isAlpha = true → p c = b)
    (c : Char) : p c.toUpper = p c := by
  rcases toUpper_cases c with h | ⟨h, hupper⟩
  · rw [h]
  · rw [hp c h, hp _ hupper]

theorem isAlpha_toUpper (c : Char) : c.toUpper.isAlpha = c.isAlpha :=
  class_toUpper (fun _ h => h) c

theorem isDigit_toUpper (c : Char) : c.toUpper.isDigit = c.isDigit :=
  class_toUpper (fun _ => Formula.isDigit_of_isAlpha) c

theorem isAlphanum_toUpper (c : Char) : c.toUpper.isAlphanum = c.isAlphanum := by
  unfold Char.isAlphanum
  rw [isAlpha_toUpper, isDigit_toUpper]

theorem isWord_toUpper (c : Char) : isWord c.toUpper = isWord c :=
  class_toUpper (fun _ => Formula.isWord_of_isAlpha) c

theorem isBlank_toUpper (c : Char) : isBlank c.toUpper = isBlank c := by
  refine class_toUpper (b := false) (fun d hd => ?_) c
  exact Formula.isBlank_of_isDelimiter_eq_false
    (Formula.isDelimiter_of_isWord (Formula.isWord_of_isAlpha hd))

theorem any_isAlphanum_toUpper (before : Option Char) :
    (before.map Char.toUpper).any Char.isAlphanum = before.any Char.isAlphanum := by
  cases before with
  | none => rfl
  | some c => exact isAlphanum_toUpper c

/-- A character that is no letter is that of no letter in another case. -/
theorem toUpper_eq_iff (hd : d.isAlpha = false) : c.toUpper = d ↔ c = d := by
  rcases toUpper_cases c with h | ⟨h, hupper⟩
  · rw [h]
  · refine iff_of_false ?_ ?_
    · rintro rfl
      rw [hd] at hupper
      cases hupper
    · rintro rfl
      rw [hd] at h
      cases h

end Class

/-! ## Texts in capitals -/

section Upper
variable {c : Char} {s t : List Char} {p : Char → Bool}

theorem mem_upper_iff (hc : c.isAlpha = false) : c ∈ upper s ↔ c ∈ s := by
  rw [upper, List.mem_map]
  constructor
  · rintro ⟨d, hd, h⟩
    rwa [← (toUpper_eq_iff hc).1 h]
  · exact fun h => ⟨c, h, (toUpper_eq_iff hc).2 rfl⟩

theorem not_mem_of_upper_eq (hc : c.isAlpha = false) (h : upper s = upper t) (ht : c ∉ t) :
    c ∉ s := by
  rwa [← mem_upper_iff hc, h, mem_upper_iff hc]

theorem upper_ne_nil (hs : s ≠ []) : upper s ≠ [] :=
  fun h => hs (List.map_eq_nil_iff.1 h)

theorem getLast?_upper (s : List Char) : (upper s).getLast? = s.getLast?.map Char.toUpper :=
  List.getLast?_map

theorem upper_cons (c : Char) (s : List Char) : upper (c :: s) = c.toUpper :: upper s :=
  rfl

theorem upper_append (s t : List Char) : upper (s ++ t) = upper s ++ upper t :=
  List.map_append

theorem upper_upper (s : List Char) : upper (upper s) = upper s := by
  rw [upper, upper, List.map_map]
  exact List.map_congr_left fun c _ => toUpper_toUpper c

theorem upper_eq_self (hs : ∀ c ∈ s, c.isAlpha = false) : upper s = s := by
  refine (List.map_congr_left fun c hc => ?_).trans (List.map_id' s)
  exact (toUpper_eq_iff (hs c hc)).2 rfl

theorem Recased.upper_eq {s t : List Char} (h : Recased s t) : upper s = upper t := by
  induction h with
  | nil => rfl
  | cons hc _ ih =>
    refine congrArg₂ List.cons ?_ ih
    rcases hc with rfl | ⟨hletter, rfl | rfl⟩
    · rfl
    · exact (toUpper_toUpper _).symm
    · exact (toUpper_of_isAlpha hletter).2.2.symm

theorem takeWhile_upper (hp : ∀ c, p c.toUpper = p c) (s : List Char) :
    (upper s).takeWhile p = upper (s.takeWhile p) := by
  rw [upper, List.takeWhile_map, show p ∘ Char.toUpper = p from funext hp]
  rfl

theorem dropWhile_upper (hp : ∀ c, p c.toUpper = p c) (s : List Char) :
    (upper s).dropWhile p = upper (s.dropWhile p) := by
  rw [upper, List.dropWhile_map, show p ∘ Char.toUpper = p from funext hp]
  rfl

theorem trimStart_upper (s : List Char) : trimStart (upper s) = upper (trimStart s) :=
  dropWhile_upper isBlank_toUpper s

theorem trimEnd_upper (s : List Char) : trimEnd (upper s) = upper (trimEnd s) := by
  rw [trimEnd, trimEnd, upper, ← List.map_reverse]
  show ((upper s.reverse).dropWhile isBlank).reverse = _
  rw [dropWhile_upper isBlank_toUpper]
  exact List.map_reverse.symm

theorem trim_upper (s : List Char) : trim (upper s) = upper (trim s) := by
  rw [trim, trimStart_upper, trimEnd_upper]
  rfl

end Upper

end Recalc.Text
