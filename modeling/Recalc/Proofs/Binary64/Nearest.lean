import Mathlib.Algebra.Order.Field.Power
import Mathlib.Data.Rat.Cast.Order
import Mathlib.Tactic.Linarith
import Mathlib.Tactic.Ring
import Recalc.Binary64

/-!
# Rounding a number that is a float

`nearest` leaves alone what needs no rounding: of a fraction that is exactly `significand m · 2 ^
exponent m` it gives `m` (`nearest_eq_of_exact`). The last place that it keeps is found from the
binary logarithms of numerator and denominator, and is the exponent of `m`
(`lastPlace_eq_of_exact`).
-/

namespace Recalc.Binary64

/-- `num / den` is `s · 2 ^ e`, said without fractions. -/
def Exactly (num den s : Nat) (e : Int) : Prop :=
  num * 2 ^ (-e).toNat = s * (den * 2 ^ e.toNat)

theorem divNearest_mul {s d : Nat} (hd : 0 < d) : divNearest (s * d) d = s := by
  simp [divNearest, Nat.mul_div_cancel _ hd, hd]

theorem significand_lt (m : Nat) : significand m < 2 * binade := by
  unfold significand
  have h := Nat.mod_lt m (show 0 < binade by decide)
  split
  · rename_i h0
    have := (Nat.div_eq_zero_iff.1 h0).resolve_left (by decide)
    omega
  · omega

theorem le_significand_or_exponent_eq (m : Nat) :
    binade ≤ significand m ∨ exponent m = -1074 := by
  unfold significand exponent
  split
  · rename_i h0
    right; rw [h0]; rfl
  · left; omega

theorem le_exponent (m : Nat) : -1074 ≤ exponent m := by
  unfold exponent; omega

theorem exponent_add_significand (m : Nat) :
    (exponent m + 1074).toNat * binade + significand m = m := by
  have h := Nat.div_add_mod m binade
  unfold significand exponent
  split
  · rename_i h0
    rw [h0]; simp
  · rename_i h0
    have hle : binade ≤ binade * (m / binade) := Nat.le_mul_of_pos_right _ (Nat.pos_of_ne_zero h0)
    generalize m / binade = q at *
    have hq : (((max q 1 : Nat) : Int) - 1075 + 1074).toNat = q - 1 := by omega
    rw [hq, Nat.sub_one_mul, Nat.mul_comm]
    omega

theorem zpow_toNat (e : Int) : (2 : ℚ) ^ e.toNat = 2 ^ e * 2 ^ (-e).toNat := by
  rw [← zpow_natCast, ← zpow_natCast, ← zpow_add₀ two_ne_zero]
  congr 1
  omega

theorem mul_pow_le_iff {x y : Nat} (e : Int) :
    x * 2 ^ e.toNat ≤ y * 2 ^ (-e).toNat ↔ (x : ℚ) * 2 ^ e ≤ y := by
  have hpos : (0 : ℚ) < 2 ^ (-e).toNat := by positivity
  rw [← Nat.cast_le (α := ℚ)]
  push_cast
  rw [zpow_toNat, ← mul_assoc, mul_le_mul_iff_of_pos_right hpos]

theorem Exactly.cast_eq {num den s : Nat} {e : Int} (h : Exactly num den s e) :
    (num : ℚ) = s * den * 2 ^ e := by
  have hpos : (2 : ℚ) ^ (-e).toNat ≠ 0 := by positivity
  refine mul_right_cancel₀ hpos ?_
  rw [mul_assoc, ← zpow_toNat, mul_assoc]
  exact_mod_cast h

/-- The exponent that `lastPlace` tries first. The quotient has 53 or 54 binary digits there. -/
def firstPlace (num den : Nat) : Int :=
  num.log2 - den.log2 - 53

theorem quotient_bounds {num den : Nat} (hn : 0 < num) (hd : 0 < den) :
    (binade : ℚ) * (den * 2 ^ firstPlace num den) < num ∧
      (num : ℚ) < 4 * binade * (den * 2 ^ firstPlace num den) := by
  have hn₁ : (2 : ℚ) ^ num.log2 ≤ num := by exact_mod_cast Nat.log2_self_le (by omega)
  have hn₂ : (num : ℚ) < 2 ^ (num.log2 + 1) := by exact_mod_cast Nat.lt_log2_self
  have hd₁ : (2 : ℚ) ^ den.log2 ≤ den := by exact_mod_cast Nat.log2_self_le (by omega)
  have hd₂ : (den : ℚ) < 2 ^ (den.log2 + 1) := by exact_mod_cast Nat.lt_log2_self
  have hp : (0 : ℚ) < 2 ^ firstPlace num den := by positivity
  have hb : (binade : ℚ) = 2 ^ (52 : Int) := by norm_num [binade]
  have hpow (a b : Int) : (2 : ℚ) ^ a * 2 ^ b = 2 ^ (a + b) := (zpow_add₀ two_ne_zero a b).symm
  constructor
  · calc (binade : ℚ) * (den * 2 ^ firstPlace num den)
        < binade * (2 ^ (den.log2 + 1) * 2 ^ firstPlace num den) := by rw [hb]; gcongr
      _ = 2 ^ num.log2 := by
          rw [hb, ← zpow_natCast, ← zpow_natCast, hpow, hpow, firstPlace]
          congr 1; push_cast; ring
      _ ≤ num := hn₁
  · calc (num : ℚ) < 2 ^ (num.log2 + 1) := hn₂
      _ = 4 * binade * (2 ^ den.log2 * 2 ^ firstPlace num den) := by
          rw [hb, show (4 : ℚ) = 2 ^ (2 : Int) by norm_num, ← zpow_natCast, ← zpow_natCast, hpow,
            hpow, hpow, firstPlace]
          congr 1; push_cast; ring
      _ ≤ 4 * binade * (den * 2 ^ firstPlace num den) := by gcongr

theorem lastPlace_eq_of_exact {num den s : Nat} {e : Int} (hd : 0 < den) (hs : 0 < s)
    (h : Exactly num den s e) (hlt : s < 2 * binade) (hle : binade ≤ s ∨ e = -1074)
    (he : -1074 ≤ e) : lastPlace num den = e := by
  have hn : 0 < num := by
    refine Nat.pos_of_ne_zero fun hz => ?_
    have hpos : 0 < s * (den * 2 ^ e.toNat) := by positivity
    rw [← h, hz, Nat.zero_mul] at hpos
    exact Nat.lt_irrefl 0 hpos
  obtain ⟨hlow, hhigh⟩ := quotient_bounds hn hd
  show max (-1074) (if 2 * binade * (den * 2 ^ (firstPlace num den).toNat) ≤
    num * 2 ^ (-firstPlace num den).toNat then firstPlace num den + 1 else firstPlace num den) = e
  generalize firstPlace num den = p at *
  -- `k` is how far the exponent lies above the first place
  obtain ⟨k, hk⟩ : ∃ k, e = p + k := ⟨e - p, by ring⟩
  have hu : (0 : ℚ) < den * 2 ^ p := by positivity
  have hnum : (num : ℚ) = s * 2 ^ k * (den * 2 ^ p) := by
    rw [h.cast_eq, hk, zpow_add₀ two_ne_zero]; ring
  rw [hnum] at hlow hhigh
  have hlow := lt_of_mul_lt_mul_right hlow hu.le
  have hhigh := lt_of_mul_lt_mul_right hhigh hu.le
  have hwide : 2 * binade * (den * 2 ^ p.toNat) ≤ num * 2 ^ (-p).toNat ↔
      (2 : ℚ) * binade ≤ s * 2 ^ k := by
    rw [← mul_le_mul_iff_of_pos_right hu, ← hnum, ← mul_assoc, mul_pow_le_iff]
    push_cast
    rw [mul_assoc]
  have hs₂ : (s : ℚ) < 2 * binade := by exact_mod_cast hlt
  have hk₀ : 0 ≤ k := by
    by_contra hneg
    have h₁ : (2 : ℚ) ^ k ≤ 2 ^ (-1 : Int) := zpow_le_zpow_right₀ one_le_two (by omega)
    have h₂ : (s : ℚ) * 2 ^ k ≤ s * 2 ^ (-1 : Int) := by gcongr
    rw [zpow_neg_one] at h₂
    linarith
  rcases Nat.lt_or_ge s binade with hsub | hfull
  · -- a subnormal number: the first place lies below the smallest exponent
    have hs₁ : (s : ℚ) < binade := by exact_mod_cast hsub
    have hk₁ : k ≠ 0 := by
      rintro rfl
      rw [zpow_zero, mul_one] at hlow
      linarith
    have he' := hle.resolve_left (Nat.not_le.2 hsub)
    split <;> omega
  · have hs₁ : (binade : ℚ) ≤ s := by exact_mod_cast hfull
    have hk₁ : k < 2 := by
      by_contra hbig
      have h₁ : (2 : ℚ) ^ (2 : Int) ≤ 2 ^ k := zpow_le_zpow_right₀ one_le_two (by omega)
      have h₂ : (s : ℚ) * 2 ^ (2 : Int) ≤ s * 2 ^ k := by gcongr
      norm_num at h₂
      linarith
    obtain rfl | rfl : k = 0 ∨ k = 1 := by omega
    · rw [if_neg (by rw [hwide]; norm_num; linarith)]; omega
    · rw [if_pos (by rw [hwide]; norm_num; linarith)]; omega

/-- A fraction that is a float is its own nearest float. -/
theorem nearest_eq_of_exact {num den m : Nat} (hd : 0 < den) (hm : m < infinity)
    (h : Exactly num den (significand m) (exponent m)) : nearest num den = m := by
  have hsum := exponent_add_significand m
  have hden : 0 < den * 2 ^ (exponent m).toNat := by positivity
  rcases Nat.eq_zero_or_pos (significand m) with hz | hs
  · have hn : num = 0 := by
      rw [Exactly, hz, Nat.zero_mul] at h
      exact (Nat.mul_eq_zero.1 h).resolve_right (by positivity)
    have he : exponent m = -1074 :=
      (le_significand_or_exponent_eq m).resolve_left (by rw [hz]; decide)
    rw [hz, he] at hsum
    rw [hn, ← hsum]; rfl
  · have hn : num ≠ 0 := by
      rintro rfl
      rw [Exactly, Nat.zero_mul] at h
      exact absurd h.symm (by positivity)
    have hp := lastPlace_eq_of_exact hd hs h (significand_lt m) (le_significand_or_exponent_eq m)
      (le_exponent m)
    have hq : divNearest (num * 2 ^ (-exponent m).toNat) (den * 2 ^ (exponent m).toNat) =
        significand m := by rw [h, divNearest_mul hden]
    show (if num = 0 then 0 else min infinity ((lastPlace num den + 1074).toNat * binade +
      divNearest (num * 2 ^ (-lastPlace num den).toNat) (den * 2 ^ (lastPlace num den).toNat))) = m
    rw [if_neg hn, hp, hq, hsum]
    omega

end Recalc.Binary64
