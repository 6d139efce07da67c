import Recalc.Decimal.Layout
import Recalc.Decimal.Reader
import Recalc.Proofs.Binary64.Bits
import Recalc.Proofs.Binary64.Nearest
import Recalc.Proofs.Text.Run

/-!
# Numerals

A `Numeral` is a number as it is written: digits with at most one decimal mark. `read?` reads every
numeral as the decimal that it writes (`Numeral.read?_pointed_text`). The plain text of a finite
float is a numeral behind an optional minus sign, and reads back as the size of the float
(`Layout.plain_float_eq`): the shortest decimal reads back because it was tried, and
the exact one that stands behind it because a float needs no rounding.
-/

namespace Recalc.Decimal

open Binary64 (infinity significand)

/-! ## Decimals that are floats -/

theorem le_log2_mul_five_pow {s : Nat} (hs : 0 < s) (k : Nat) : k ≤ (s * 5 ^ k).log2 := by
  refine (Nat.le_log2 (by positivity)).2 ?_
  calc 2 ^ k ≤ 5 ^ k := Nat.pow_le_pow_left (by decide) k
    _ ≤ s * 5 ^ k := Nat.le_mul_of_pos_left _ hs

theorem magnitude_of_coefficient_eq_zero {d : Decimal} (h : d.coefficient = 0) :
    d.magnitude = 0 := by
  rw [magnitude, if_pos h]

theorem magnitude_of_nonneg {c : Nat} {e : Int} (hc : c ≠ 0) (h₀ : 0 ≤ e) (h : e ≤ 400) :
    magnitude ⟨c, e⟩ = Binary64.nearest (c * 10 ^ e.toNat) 1 := by
  rw [magnitude, if_neg hc, if_neg (by simp only; omega), if_neg (by simp only; omega), if_pos h₀]
  rfl

theorem magnitude_of_neg {c : Nat} {e : Int} (hc : c ≠ 0) (h₀ : e < 0) (h : -(401 + c.log2) ≤ e) :
    magnitude ⟨c, e⟩ = Binary64.nearest c (10 ^ (-e).toNat) := by
  rw [magnitude, if_neg hc, if_neg (by simp only; omega), if_neg (by simp only; omega),
    if_neg (by simp only; omega)]
  rfl

theorem magnitude_ofMagnitude {m : Nat} (h : m < infinity) : (ofMagnitude m).magnitude = m := by
  rcases Nat.eq_zero_or_pos (significand m) with h0 | hs
  · have hm : m = 0 := by
      have he := (Binary64.le_significand_or_exponent_eq m).resolve_left (by rw [h0]; decide)
      rw [← Binary64.exponent_add_significand m, h0, he]; rfl
    have hc : (ofMagnitude m).coefficient = 0 := by
      simp only [ofMagnitude, h0, Nat.zero_mul]; split <;> rfl
    rw [magnitude_of_coefficient_eq_zero hc, hm]
  rw [ofMagnitude]
  generalize he : Binary64.exponent m = e
  split
  · rename_i h₀
    show magnitude ⟨significand m * 2 ^ e.toNat, 0⟩ = m
    rw [magnitude_of_nonneg (by positivity) (le_refl 0) (by decide)]
    refine Binary64.nearest_eq_of_exact Nat.one_pos h ?_
    rw [Binary64.Exactly, he, show (-e).toNat = 0 by omega]
    show significand m * 2 ^ e.toNat * 10 ^ 0 * 2 ^ 0 = _
    ring
  · rename_i h₀
    have hlog := le_log2_mul_five_pow hs (-e).toNat
    have hne : significand m * 5 ^ (-e).toNat ≠ 0 := by positivity
    show magnitude ⟨significand m * 5 ^ (-e).toNat, e⟩ = m
    rw [magnitude_of_neg hne (by omega) (by omega)]
    refine Binary64.nearest_eq_of_exact (Nat.pow_pos (by decide)) h ?_
    rw [Binary64.Exactly, he, show e.toNat = 0 by omega, show (10 : Nat) = 5 * 2 from rfl,
      Nat.mul_pow]
    ring

theorem magnitude_shortest (tie : Tie) {m : Nat} (h : m < infinity) :
    (shortest tie m).magnitude = m := by
  unfold shortest
  dsimp only
  cases hf : (List.range 17).findSome? _ with
  | none => exact magnitude_ofMagnitude h
  | some d =>
    obtain ⟨n, -, hn⟩ := List.exists_of_findSome?_eq_some hf
    exact magnitude_of_onGrid? hn

/-! ## Digits -/

theorem ofDigits_natDigits (n : Nat) : ofDigits (Layout.natDigits n) = n :=
  Nat.ofDigitChars_ten_toDigits

theorem isDigit_of_mem_natDigits {n : Nat} : ∀ c ∈ Layout.natDigits n, c.isDigit = true :=
  fun _ => Nat.isDigit_of_mem_toDigits (by decide) (by decide)

theorem ofDigits_zeros_append (k : Nat) (ds : List Char) :
    ofDigits (List.replicate k '0' ++ ds) = ofDigits ds := by
  induction k with
  | zero => rfl
  | succ k ih => rw [List.replicate_succ, List.cons_append, ← ih]; rfl

theorem ofDigits_append_zeros (ds : List Char) (k : Nat) :
    ofDigits (ds ++ List.replicate k '0') = ofDigits ds * 10 ^ k := by
  induction k with
  | zero => simp
  | succ k ih =>
    rw [List.replicate_succ', ← List.append_assoc, ofDigits, List.foldl_append, ← ofDigits, ih]
    show 10 * _ + 0 = _
    ring

/-! ## Reading digits -/

theorem pointed_of_isDigit {ds : List Char} (h : ∀ c ∈ ds, c.isDigit = true) : pointed ds = ds := by
  refine (List.map_congr_left fun c hc => if_neg ?_).trans (List.map_id ds)
  rintro rfl
  exact absurd (h _ hc) (by decide)

theorem read?_whole {w : List Char} (hw : ∀ c ∈ w, c.isDigit = true) (hne : w ≠ []) :
    read? w = some ⟨ofDigits w, 0⟩ := by
  have ht := Text.takeWhile_run hw [] (by simp)
  have hd := Text.dropWhile_run hw [] (by simp)
  rw [List.append_nil] at ht hd
  simp [read?, ht, hd, hne, readExponent?]

theorem read?_fraction {w f : List Char} (hw : ∀ c ∈ w, c.isDigit = true)
    (hf : ∀ c ∈ f, c.isDigit = true) (hne : w ≠ [] ∨ f ≠ []) :
    read? (w ++ '.' :: f) = some ⟨ofDigits (w ++ f), -f.length⟩ := by
  have ht := Text.takeWhile_run hw ('.' :: f) (by simp)
  have hd := Text.dropWhile_run hw ('.' :: f) (by simp)
  have ht' := Text.takeWhile_run hf [] (by simp)
  have hd' := Text.dropWhile_run hf [] (by simp)
  rw [List.append_nil] at ht' hd'
  have hne' : w = [] → f ≠ [] := fun h => hne.resolve_left (not_not_intro h)
  simpa [read?, ht, hd, ht', hd', readExponent?] using hne'

/-! ## Numbers as they are written -/

/-- Digits, with a point or a comma before the last of them or not. -/
structure Numeral where
  whole : List Char
  mark : Option Char
  fraction : List Char
  isDigit_whole : ∀ c ∈ whole, c.isDigit = true
  isDigit_fraction : ∀ c ∈ fraction, c.isDigit = true
  mark_eq : ∀ c ∈ mark, c = '.' ∨ c = ','
  fraction_eq_nil : mark = none → fraction = []
  ne_nil : whole ≠ [] ∨ fraction ≠ []

namespace Numeral
variable (n : Numeral)

def text : List Char :=
  n.whole ++ n.mark.toList ++ n.fraction

def decimal : Decimal :=
  ⟨ofDigits (n.whole ++ n.fraction), -n.fraction.length⟩

/-- The float nearest to what is written. -/
def value : Float :=
  n.decimal.toFloat false

theorem pointed_text :
    pointed n.text = n.whole ++ (n.mark.map fun _ => '.').toList ++ n.fraction := by
  have hm : pointed n.mark.toList = (n.mark.map fun _ => '.').toList := by
    cases hm : n.mark with
    | none => rfl
    | some c => rcases n.mark_eq c hm with rfl | rfl <;> rfl
  have happ (a b : List Char) : pointed (a ++ b) = pointed a ++ pointed b := List.map_append
  rw [text, happ, happ, hm, pointed_of_isDigit n.isDigit_whole,
    pointed_of_isDigit n.isDigit_fraction]

theorem read?_pointed_text : read? (pointed n.text) = some n.decimal := by
  rw [pointed_text, decimal]
  cases hm : n.mark with
  | none =>
    have hf := n.fraction_eq_nil hm
    have hw : n.whole ≠ [] := n.ne_nil.resolve_right (not_not_intro hf)
    simpa [hf] using read?_whole n.isDigit_whole hw
  | some c => simpa using read?_fraction n.isDigit_whole n.isDigit_fraction n.ne_nil

end Numeral

/-! ## The plain text of a float -/

namespace Layout

/-- The plain text of a decimal is a numeral that reads back to the same float. -/
theorem exists_numeral_of_decimal {d : Decimal} (h : d.magnitude < infinity) :
    ∃ n : Numeral, n.text = plain.decimal d ∧ n.mark ≠ some ',' ∧
      n.decimal.magnitude = d.magnitude := by
  by_cases hc : d.coefficient = 0
  · refine ⟨⟨['0'], none, [], List.all_eq_true.1 rfl, by simp, by simp, by simp, by simp⟩, ?_,
      by simp, ?_⟩
    · rw [decimal, if_pos hc]; rfl
    · rw [magnitude_of_coefficient_eq_zero hc]; rfl
  have he : d.exponent ≤ 400 := by
    by_contra hlt
    rw [magnitude, if_neg hc, if_pos (by omega)] at h
    exact Nat.lt_irrefl _ h
  have hdig := @isDigit_of_mem_natDigits d.coefficient
  have hval := ofDigits_natDigits d.coefficient
  have hne : natDigits d.coefficient ≠ [] := Nat.toDigits_ne_nil
  have htext : plain.decimal d = plain.positional (natDigits d.coefficient)
      ((natDigits d.coefficient).length + d.exponent) := by
    rw [decimal, if_neg hc]; rfl
  rw [htext, positional]
  generalize natDigits d.coefficient = ds at *
  have hzeros (k : Nat) : ∀ c ∈ List.replicate k '0', c.isDigit = true := by
    intro c h; rw [List.eq_of_mem_replicate h]; rfl
  split
  · -- all digits stand behind the point
    rename_i hp
    refine ⟨⟨['0'], some '.', List.replicate (-(ds.length + d.exponent)).toNat '0' ++ ds,
      List.all_eq_true.1 rfl,
      ?_, by simp, by simp, by simp⟩, by simp [Numeral.text], by simp, congrArg magnitude ?_⟩
    · simpa only [List.forall_mem_append] using ⟨hzeros _, hdig⟩
    · rw [Numeral.decimal]
      congr 1
      · rw [← List.append_assoc]
        exact (ofDigits_zeros_append (_ + 1) ds).trans hval
      · simp only [List.length_append, List.length_replicate]
        omega
  split
  · -- a whole number, filled up with zeros
    rename_i hp hl
    have hk : (ds.length + d.exponent).toNat - ds.length = d.exponent.toNat := by omega
    refine ⟨⟨ds ++ List.replicate d.exponent.toNat '0', none, [], ?_, by simp, by simp, by simp,
      by simp [hne]⟩, by simp [Numeral.text, hk, plain], by simp, ?_⟩
    · simpa only [List.forall_mem_append] using ⟨hdig, hzeros _⟩
    · have hm := magnitude_of_nonneg hc (e := d.exponent) (by omega) he
      rw [Numeral.decimal, List.append_nil, ofDigits_append_zeros, hval]
      refine (magnitude_of_nonneg (by positivity) (le_refl 0) (by decide)).trans
        (Eq.trans ?_ hm.symm)
      show Binary64.nearest (_ * 10 ^ 0) 1 = _
      rw [Nat.pow_zero, Nat.mul_one]
  · -- the point stands between the digits
    rename_i hp hl
    refine ⟨⟨ds.take (ds.length + d.exponent).toNat, some '.',
      ds.drop (ds.length + d.exponent).toNat,
      fun c h => hdig c (List.mem_of_mem_take h), fun c h => hdig c (List.mem_of_mem_drop h),
      by simp, by simp, ?_⟩, by simp [Numeral.text], by simp, congrArg magnitude ?_⟩
    · right
      rw [Ne, List.drop_eq_nil_iff]
      omega
    · rw [Numeral.decimal, List.take_append_drop, hval]
      congr 1
      simp only [List.length_drop]
      omega

/-- The plain text of a finite float is a numeral of its size behind its sign. -/
theorem plain_float_eq {x : Float} (h : x.isFinite = true) :
    ∃ n : Numeral, plain.float x = (if Binary64.isNegative x then ['-'] else []) ++ n.text ∧
      n.mark ≠ some ',' ∧ n.value = Binary64.ofMagnitude false (Binary64.magnitude x) := by
  rw [Binary64.isFinite_iff] at h
  have hs := magnitude_shortest .up h
  obtain ⟨n, ht, hm, hv⟩ := exists_numeral_of_decimal (hs.symm ▸ h)
  refine ⟨n, ?_, hm, by rw [Numeral.value, toFloat, hv, hs]⟩
  rw [float, if_neg (by omega), ht]
  simp only [if_neg (Nat.ne_of_lt h)]
  split <;> rfl

end Layout

end Recalc.Decimal
