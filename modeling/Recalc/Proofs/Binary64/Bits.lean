import Mathlib.Tactic.Ring
import Recalc.Binary64

/-!
# Sign and magnitude of a float

A finite float is its sign and its magnitude: `ofMagnitude` puts the two together, `isNegative` and
`magnitude` take them apart, and negation turns the sign alone. The facts about the bit pattern come
first: unpacking a finite pattern and packing it again changes at most the sign that was changed
between the two.
-/

namespace Recalc.Binary64

open Float.Model (Format UnpackedFloat)
open Float.Model.UnpackedFloat

/-! ## The fields of a bit pattern -/

abbrev exponentField (b : BitVec 64) : BitVec 11 := @unpackExponent Format.binary64 b

abbrev fractionField (b : BitVec 64) : BitVec 52 := @unpackMantissa Format.binary64 b

abbrev signField (b : BitVec 64) : Sign := .ofBitVec (@unpackSign Format.binary64 b)

/-- The pattern with these fields. -/
abbrev join (s : Sign) (e : BitVec 11) (f : BitVec 52) : BitVec 64 :=
  packComponents Format.binary64 s e f

theorem toNat_join (s : Sign) (e : BitVec 11) (f : BitVec 52) :
    (join s e f).toNat = s.toBitVec.toNat * 2 ^ 63 + e.toNat * 2 ^ 52 + f.toNat := by
  have he := e.isLt
  have hf := f.isLt
  simp only [join, packComponents, BitVec.toNat_append]
  rw [← Nat.shiftLeft_add_eq_or_of_lt hf, ← Nat.shiftLeft_add_eq_or_of_lt he]
  simp only [Nat.shiftLeft_eq]
  ring

theorem toNat_fractionField (b : BitVec 64) : (fractionField b).toNat = b.toNat % 2 ^ 52 := by
  simp [unpackMantissa]

theorem toNat_exponentField (b : BitVec 64) :
    (exponentField b).toNat = b.toNat / 2 ^ 52 % 2 ^ 11 := by
  simp [unpackExponent, Nat.shiftRight_eq_div_pow]

theorem toNat_signField (b : BitVec 64) : (signField b).toBitVec.toNat = b.toNat / 2 ^ 63 := by
  have h := b.isLt
  have hs : (@unpackSign Format.binary64 b).toNat = b.toNat / 2 ^ 63 := by
    unfold unpackSign
    simp [Nat.shiftRight_eq_div_pow]
    omega
  rw [← hs, signField, Sign.ofBitVec]
  split
  · rename_i h0
    rw [h0]; rfl
  · rename_i h0
    have h1 : (@unpackSign Format.binary64 b).toNat ≠ 0 := fun hz => h0 (BitVec.eq_of_toNat_eq hz)
    show 1 = _
    omega

theorem toNat_neg (s : Sign) : (-s).toBitVec.toNat = 1 - s.toBitVec.toNat := by
  cases s <;> rfl

theorem exponentField_ne_iff (b : BitVec 64) :
    exponentField b ≠ -1#_ ↔ b.toNat % signBit < infinity := by
  have hb := b.isLt
  have he := toNat_exponentField b
  have h : exponentField b = -1#_ ↔ (exponentField b).toNat = 2 ^ 11 - 1 :=
    ⟨fun h => by rw [h]; rfl, fun h => BitVec.eq_of_toNat_eq h⟩
  rw [Ne, h, he]
  simp only [signBit, infinity, binade]
  omega

/-! ## Unpacking and packing -/

/-- What a pattern unpacks to. -/
inductive Unpacks (b : BitVec 64) : UnpackedFloat → Prop
  | infinity (he : exponentField b = -1#_) : Unpacks b (.infinity (signField b))
  | notANumber (he : exponentField b = -1#_) : Unpacks b .notANumber
  | zero (he : exponentField b = 0#_) (hf : fractionField b = 0#_) : Unpacks b (.zero (signField b))
  | subnormal (he : exponentField b = 0#_) (hf : fractionField b ≠ 0#_) (h) :
    Unpacks b (.finite (signField b) (fractionField b).toNat
      ((exponentField b).toNat - ((1023 : Nat) + (52 : Nat)) + 1) h)
  | normal (he : exponentField b ≠ -1#_) (h0 : exponentField b ≠ 0#_) (h) :
    Unpacks b (.finite (signField b) (1#1 ++ fractionField b).toNat
      ((exponentField b).toNat - ((1023 : Nat) + (52 : Nat))) h)

theorem unpacks (b : BitVec 64) : Unpacks b (unpack Format.binary64 b) := by
  unfold unpack
  dsimp only
  by_cases he : exponentField b = -1#_
  · rw [if_pos he]
    by_cases hf : fractionField b = 0#_
    · rw [if_pos hf]
      exact .infinity he
    · rw [if_neg hf]
      exact .notANumber he
  · rw [if_neg he]
    by_cases h0 : exponentField b = 0#_
    · rw [if_pos h0]
      by_cases hf : fractionField b = 0#_
      · rw [dif_pos hf]
        exact .zero h0 hf
      · rw [dif_neg hf]
        exact .subnormal h0 hf _
    · rw [if_neg h0]
      exact .normal he h0 _

/-- An unpacked float with another sign. -/
def withSign (s : Sign) : UnpackedFloat → UnpackedFloat
  | .notANumber => .notANumber
  | .infinity _ => .infinity s
  | .zero _ => .zero s
  | .finite _ m e h => .finite s m e h

theorem withSign_unpack (b : BitVec 64) :
    withSign (signField b) (unpack Format.binary64 b) = unpack Format.binary64 b := by
  have h := unpacks b
  generalize unpack Format.binary64 b = u at h ⊢
  cases h <;> rfl

theorem neg_unpack (b : BitVec 64) :
    (unpack Format.binary64 b).neg = withSign (-signField b) (unpack Format.binary64 b) := by
  have h := unpacks b
  generalize unpack Format.binary64 b = u at h ⊢
  cases h <;> rfl

theorem isFinite_unpack (b : BitVec 64) :
    (unpack Format.binary64 b).isFinite = true ↔ exponentField b ≠ -1#_ := by
  have h := unpacks b
  generalize unpack Format.binary64 b = u at h ⊢
  cases h with
  | infinity he => exact ⟨fun h => absurd h Bool.false_ne_true, fun h => absurd he h⟩
  | notANumber he => exact ⟨fun h => absurd h Bool.false_ne_true, fun h => absurd he h⟩
  | zero he hf => exact ⟨fun _ => he ▸ by decide, fun _ => rfl⟩
  | subnormal he hf _ => exact ⟨fun _ => he ▸ by decide, fun _ => rfl⟩
  | normal he h0 _ => exact ⟨fun _ => he, fun _ => rfl⟩

theorem pack_withSign {s : Sign} {b : BitVec 64} (h : exponentField b ≠ -1#_) :
    pack Format.binary64 (withSign s (unpack Format.binary64 b)) =
      join s (exponentField b) (fractionField b) := by
  have hf : (fractionField b).toNat < 2 ^ 52 := (fractionField b).isLt
  have he : (exponentField b).toNat < 2 ^ 11 := (exponentField b).isLt
  have hmax : (exponentField b).toNat ≠ 2 ^ 11 - 1 := fun hz => h (BitVec.eq_of_toNat_eq hz)
  have hbias : Format.binary64.exponentBias = 1023 := rfl
  have hbits : Format.binary64.mantissaBits = 53 := rfl
  have hu := unpacks b
  generalize unpack Format.binary64 b = u at hu ⊢
  cases hu with
  | infinity he => exact absurd he h
  | notANumber he => exact absurd he h
  | zero h0 hf0 =>
    rw [h0, hf0]
    rfl
  | subnormal h0 hf0 _ =>
    -- the fraction is the significand
    have hpos : (fractionField b).toNat ≠ 0 := fun hz => hf0 (BitVec.eq_of_toNat_eq hz)
    have hlog : (fractionField b).toNat.log2 + 1 ≠ 53 := by
      have := (Nat.log2_lt hpos).2 hf
      omega
    have hexp : (((exponentField b).toNat : Int) - ((1023 : Nat) + (52 : Nat)) + 1 +
        (1023 : Nat) + (52 : Nat)).toNat = 1 := by
      rw [h0]
      rfl
    unfold withSign pack
    dsimp only
    rw [hbias, hbits, if_neg hlog, hexp, if_neg (by decide), h0, BitVec.ofNat_toNat,
      BitVec.setWidth_eq]
  | normal _ h0 _ =>
    -- one bit stands in front of the fraction
    have hv : (1#1 ++ fractionField b).toNat = 2 ^ 52 + (fractionField b).toNat := by
      rw [BitVec.toNat_append, ← Nat.shiftLeft_add_eq_or_of_lt hf, Nat.shiftLeft_eq]
      rfl
    have hlog : (1#1 ++ fractionField b).toNat.log2 + 1 = 53 := by
      rw [hv, Nat.succ_inj, Nat.log2_eq_iff (by omega)]
      omega
    have hexp : (((exponentField b).toNat : Int) - ((1023 : Nat) + (52 : Nat)) + (1023 : Nat) +
        (52 : Nat)).toNat = (exponentField b).toNat := by omega
    unfold withSign pack
    dsimp only
    rw [hbias, hbits, if_pos hlog, hexp, if_neg (by show ¬ 2 ^ 11 ≤ _; omega), BitVec.ofNat_toNat,
      hv, BitVec.setWidth_eq]
    congr 1
    refine BitVec.eq_of_toNat_eq ?_
    rw [BitVec.toNat_ofNat]
    show (2 ^ 52 + _) % 2 ^ 52 = _
    omega

/-! ## Floats -/

theorem isFinite_iff (x : Float) : x.isFinite = true ↔ magnitude x < infinity :=
  (isFinite_unpack x.toBits.toBitVec).trans (exponentField_ne_iff x.toBits.toBitVec)

theorem toBits_ofBits {b : UInt64} (h : b.toNat % signBit < infinity) :
    (Float.ofBits b).toBits = b := by
  have hb := b.toBitVec.isLt
  show UInt64.ofBitVec (pack Format.binary64 (unpack Format.binary64 b.toBitVec)) = b
  rw [← withSign_unpack, pack_withSign ((exponentField_ne_iff _).2 h)]
  refine UInt64.toBitVec_inj.1 (BitVec.eq_of_toNat_eq ?_)
  rw [UInt64.toBitVec_ofBitVec, toNat_join, toNat_signField, toNat_exponentField,
    toNat_fractionField]
  omega

theorem ext_toBits {x y : Float} (h : x.toBits = y.toBits) : x = y := by
  obtain ⟨⟨a, _⟩⟩ := x
  obtain ⟨⟨b, _⟩⟩ := y
  cases (show a = b from h)
  rfl

theorem isFinite_neg_eq_false {x : Float} (h : x.isFinite = false) : (-x).isFinite = false := by
  have hu : (unpack Format.binary64 x.toBits.toBitVec).isFinite = false := h
  show (unpack Format.binary64
    (pack Format.binary64 (unpack Format.binary64 x.toBits.toBitVec).neg)).isFinite = false
  cases hx : unpack Format.binary64 x.toBits.toBitVec with
  | notANumber => rfl
  | infinity s => cases s <;> rfl
  | zero s =>
    rw [hx] at hu
    cases hu
  | finite s m e hm =>
    rw [hx] at hu
    cases hu

theorem toNat_toBits_neg {x : Float} (h : magnitude x < infinity) :
    (-x).toBits.toNat = (1 - x.toBits.toNat / signBit) * signBit + magnitude x := by
  have hb := x.toBits.toBitVec.isLt
  show (pack Format.binary64 (unpack Format.binary64 x.toBits.toBitVec).neg).toNat = _
  rw [neg_unpack, pack_withSign ((exponentField_ne_iff _).2 h), toNat_join, toNat_neg,
    toNat_signField, toNat_exponentField, toNat_fractionField]
  simp only [magnitude, signBit, UInt64.toNat_toBitVec]
  omega

theorem toNat_toBits_ofMagnitude (negative : Bool) {m : Nat} (h : m < infinity) :
    (ofMagnitude negative m).toBits.toNat = if negative then signBit + m else m := by
  have hm : m < signBit := Nat.lt_trans h (by decide)
  have hs : (if negative then signBit + m else m) < 2 ^ 64 := by
    simp only [signBit] at *; split <;> omega
  have hn : (UInt64.ofNat (if negative then signBit + m else m)).toNat =
      if negative then signBit + m else m := UInt64.toNat_ofNat_of_lt hs
  rw [ofMagnitude, toBits_ofBits, hn]
  rw [hn]
  cases negative <;> simp [Nat.mod_eq_of_lt hm, h]

theorem magnitude_ofMagnitude (negative : Bool) {m : Nat} (h : m < infinity) :
    magnitude (ofMagnitude negative m) = m := by
  have hm : m < signBit := Nat.lt_trans h (by decide)
  rw [magnitude, toNat_toBits_ofMagnitude negative h]
  cases negative <;> simp [Nat.mod_eq_of_lt hm]

theorem isNegative_ofMagnitude (negative : Bool) {m : Nat} (h : m < infinity) :
    isNegative (ofMagnitude negative m) = negative := by
  have hm : m < signBit := Nat.lt_trans h (by decide)
  rw [isNegative, toNat_toBits_ofMagnitude negative h]
  cases negative
  · simpa using hm
  · simp

theorem toNat_toBits (x : Float) :
    x.toBits.toNat = if isNegative x then signBit + magnitude x else magnitude x := by
  have hb : x.toBits.toNat < 2 ^ 64 := x.toBits.toBitVec.isLt
  by_cases h : signBit ≤ x.toBits.toNat <;> simp only [isNegative, magnitude, h, decide_true,
    decide_false, if_true, Bool.false_eq_true, if_false] <;> simp only [signBit] at * <;> omega

theorem ofMagnitude_magnitude {x : Float} (h : magnitude x < infinity) :
    ofMagnitude (isNegative x) (magnitude x) = x :=
  ext_toBits (UInt64.toNat_inj.1 (by rw [toNat_toBits_ofMagnitude _ h, ← toNat_toBits]))

theorem neg_ofMagnitude (negative : Bool) {m : Nat} (h : m < infinity) :
    -ofMagnitude negative m = ofMagnitude (!negative) m := by
  have hm : m < signBit := Nat.lt_trans h (by decide)
  refine ext_toBits (UInt64.toNat_inj.1 ?_)
  rw [toNat_toBits_neg (by rw [magnitude_ofMagnitude _ h]; exact h), magnitude_ofMagnitude _ h,
    toNat_toBits_ofMagnitude _ h, toNat_toBits_ofMagnitude _ h]
  simp only [signBit] at *
  cases negative
  · simp
    omega
  · simp

end Recalc.Binary64
