import Mathlib.Data.List.Sort
import Mathlib.Tactic.ByContra
import Recalc.Comparison
import Recalc.Proofs.Text.Order

/-!
# Where results differ

Every result is compared with the first one only. That is enough: equality of values is symmetric
and transitive, so if any two results disagree on a key then one of them disagrees with the first
(`exists_disagree`), and as long as all numbers are numbers this is not the first itself. Which
result comes first does not matter (`differingKeys_exact`).
-/

namespace Recalc

/-! ## Equality of floats -/

namespace Binary64

open Float.Model (UnpackedFloat)
open Float.Model.UnpackedFloat (Sign)

/-- What an unpacked float stands for, if it is a number: a sign, and a significand and an exponent
unless it is infinite. Both zeros stand for the same number. -/
def meaning? : UnpackedFloat → Option (Sign × Option (Nat × Int))
  | .notANumber => none
  | .infinity s => some (s, none)
  | .zero _ => some (.positive, some (0, 0))
  | .finite s m e _ => some (s, some (m, e))

theorem exists_meaning {x : Float} (h : x.isNaN = false) :
    ∃ n, meaning? x.toModel.unpack = some n := by
  change x.toModel.unpack.isNaN = false at h
  cases hx : x.toModel.unpack with
  | notANumber =>
    rw [hx] at h
    cases h
  | infinity s => exact ⟨_, rfl⟩
  | zero s => exact ⟨_, rfl⟩
  | finite s m e hm => exact ⟨_, rfl⟩

theorem unpacked_beq_iff (u v : UnpackedFloat) :
    u.beq v = true ↔ ∃ n, meaning? u = some n ∧ meaning? v = some n := by
  show (u.compare v == some .eq) = true ↔ _
  rw [beq_iff_eq]
  -- the order looks at the kind of both, at their signs, and then at exponents and significands
  rcases u with (_ | _) | _ | _ | ⟨_ | _, m, e, hm⟩ <;>
    rcases v with (_ | _) | _ | _ | ⟨_ | _, m', e', hm'⟩ <;>
    dsimp only [UnpackedFloat.compare, meaning?] <;>
    simp <;> first | decide | omega

theorem beq_iff {x y : Float} : (x == y) = true ↔
    ∃ n, meaning? x.toModel.unpack = some n ∧ meaning? y.toModel.unpack = some n :=
  unpacked_beq_iff x.toModel.unpack y.toModel.unpack

end Binary64

/-! ## Equality of values -/

namespace Value

/-- A value that is not the float which is no number. -/
def IsProper : Value → Prop
  | number x => x.isNaN = false
  | _ => True

instance : DecidablePred IsProper
  | number x => inferInstanceAs (Decidable (x.isNaN = false))
  | text _ => .isTrue trivial
  | null => .isTrue trivial

variable {v u w : Value}

theorem same_self (h : v.IsProper) : v.same v = true := by
  cases v with
  | number x =>
    obtain ⟨n, hx⟩ := Binary64.exists_meaning h
    exact Binary64.beq_iff.2 ⟨n, hx, hx⟩
  | text s => exact beq_self_eq_true s
  | null => rfl

theorem same_cases (h : v.same u = true) :
    (∃ x y, v = .number x ∧ u = .number y ∧ (x == y) = true) ∨ v = u := by
  unfold same at h
  split at h
  · exact Or.inl ⟨_, _, rfl, rfl, h⟩
  · exact Or.inr (congrArg text (beq_iff_eq.1 h))
  · exact Or.inr rfl
  · cases h

theorem same_symm (h : v.same u = true) : u.same v = true := by
  rcases same_cases h with ⟨x, y, rfl, rfl, hxy⟩ | rfl
  · obtain ⟨n, hx, hy⟩ := Binary64.beq_iff.1 hxy
    exact Binary64.beq_iff.2 ⟨n, hy, hx⟩
  · exact h

theorem same_trans (h : v.same u = true) (h' : u.same w = true) : v.same w = true := by
  rcases same_cases h with ⟨x, y, rfl, rfl, hxy⟩ | rfl
  · rcases same_cases h' with ⟨y', z, hy, rfl, hyz⟩ | rfl
    · cases hy
      obtain ⟨n, hx, hy⟩ := Binary64.beq_iff.1 hxy
      obtain ⟨n', hy', hz⟩ := Binary64.beq_iff.1 hyz
      cases hy.symm.trans hy'
      exact Binary64.beq_iff.2 ⟨n, hx, hz⟩
    · exact h
  · exact h'

end Value

/-! ## Equality of values that may be missing -/

namespace Value
variable {v u w : Option Value}

theorem sameOrMissing_iff : sameOrMissing v u = true ↔
    (v = none ∧ u = none) ∨ ∃ a b, v = some a ∧ u = some b ∧ a.same b = true := by
  cases v <;> cases u <;> simp [sameOrMissing]

theorem sameOrMissing_self (h : ∀ a ∈ v, a.IsProper) : sameOrMissing v v = true := by
  cases v with
  | none => rfl
  | some a => exact same_self (h a rfl)

theorem sameOrMissing_symm (h : sameOrMissing v u = true) : sameOrMissing u v = true := by
  rcases sameOrMissing_iff.1 h with ⟨rfl, rfl⟩ | ⟨a, b, rfl, rfl, hab⟩
  · rfl
  · exact same_symm hab

theorem sameOrMissing_trans (h : sameOrMissing v u = true) (h' : sameOrMissing u w = true) :
    sameOrMissing v w = true := by
  rcases sameOrMissing_iff.1 h with ⟨rfl, rfl⟩ | ⟨a, b, rfl, rfl, hab⟩
  · exact h'
  · obtain ⟨hb, -⟩ | ⟨b', c, hb, rfl, hbc⟩ := sameOrMissing_iff.1 h'
    · cases hb
    · cases hb
      exact same_trans hab hbc

end Value

/-! ## Differing keys -/

namespace Results
variable {r s : Results} {rs : List Results} {key : String}

def IsProper (r : Results) : Prop :=
  ∀ (key : String) (v : Value), r[key]? = some v → v.IsProper

theorem isProper_iff : r.IsProper ↔ ∀ p ∈ r.toList, p.2.IsProper :=
  ⟨fun h p hp => h p.1 p.2 (Std.ExtTreeMap.mem_toList_iff_getElem?_eq_some.1 hp),
    fun h key v hv => h (key, v) (Std.ExtTreeMap.mem_toList_iff_getElem?_eq_some.2 hv)⟩

instance : Decidable r.IsProper :=
  decidable_of_iff _ isProper_iff.symm

/-- One of two results has a value that the other lacks, or they have different values. -/
def Disagree (r s : Results) (key : String) : Prop :=
  (key ∈ r ∧ key ∉ s) ∨ (key ∉ r ∧ key ∈ s) ∨
    ∃ v u, r[key]? = some v ∧ s[key]? = some u ∧ v.same u = false

theorem disagree_iff : r.Disagree s key ↔ Value.sameOrMissing r[key]? s[key]? = false := by
  simp only [Disagree, Std.ExtTreeMap.mem_iff_isSome_getElem?]
  cases r[key]? <;> cases s[key]? <;> simp [Value.sameOrMissing]

theorem Disagree.mem_or_mem (h : r.Disagree s key) : key ∈ r ∨ key ∈ s := by
  rcases h with ⟨h, -⟩ | ⟨-, h⟩ | ⟨v, u, h, -⟩
  · exact Or.inl h
  · exact Or.inr h
  · exact Or.inl (Std.ExtTreeMap.getElem?_eq_some_iff.1 h).1

theorem mem_allKeys : key ∈ allKeys rs ↔ ∃ r ∈ rs, key ∈ r := by
  rw [allKeys, Std.ExtTreeMap.mem_keys, Std.ExtTreeMap.mem_ofList, List.contains_iff_mem,
    List.map_flatMap, List.mem_flatMap]
  simp only [Std.ExtTreeMap.map_fst_toList_eq_keys, Std.ExtTreeMap.mem_keys]

theorem pairwise_allKeys (rs : List Results) :
    (allKeys rs).Pairwise fun k l => Text.bytes k < Text.bytes l :=
  have hsorted : (allKeys rs).Pairwise fun k l => compare k l = .lt := Std.ExtTreeMap.ordered_keys
  hsorted.imp fun h => Text.lt_iff_bytes_lt.1 (compareOfLessAndEq_eq_lt.1 h)

theorem pairwise_differingKeys (rs : List Results) :
    (differingKeys rs).Pairwise fun k l => Text.bytes k < Text.bytes l := by
  cases rs with
  | nil => exact .nil
  | cons r rs => exact (pairwise_allKeys (r :: rs)).filter _

theorem mem_differingKeys_cons : key ∈ differingKeys (r :: rs) ↔
    key ∈ allKeys (r :: rs) ∧ '!' ∈ key.toList ∧ ∃ s ∈ rs, r.Disagree s key := by
  simp [differingKeys, disagree_iff]

/-- If two results disagree, one of them disagrees with a third. -/
theorem exists_disagree (r : Results) {t u : Results} (h : t.Disagree u key) :
    r.Disagree t key ∨ r.Disagree u key := by
  rw [disagree_iff] at h
  rw [disagree_iff, disagree_iff]
  by_contra hsame
  rw [not_or, Bool.not_eq_false, Bool.not_eq_false] at hsame
  rw [Value.sameOrMissing_trans (Value.sameOrMissing_symm hsame.1) hsame.2] at h
  cases h

theorem not_disagree_self (hr : r.IsProper) : ¬ r.Disagree r key := by
  rw [disagree_iff, Value.sameOrMissing_self (hr key)]
  exact Bool.noConfusion

/-- A qualified key is listed if and only if two results disagree on it. -/
theorem mem_differingKeys (hrs : ∀ r ∈ rs, r.IsProper) : key ∈ differingKeys rs ↔
    '!' ∈ key.toList ∧ ∃ r ∈ rs, ∃ s ∈ rs, r.Disagree s key := by
  cases rs with
  | nil => simp [differingKeys]
  | cons r rs =>
    have hr := hrs r (List.mem_cons_self ..)
    rw [mem_differingKeys_cons]
    constructor
    · rintro ⟨-, hbang, s, hs, h⟩
      exact ⟨hbang, r, List.mem_cons_self .., s, List.mem_cons_of_mem r hs, h⟩
    · rintro ⟨hbang, t, ht, u, hu, h⟩
      have hmem : key ∈ allKeys (r :: rs) := mem_allKeys.2 (h.mem_or_mem.elim
        (fun hk => ⟨t, ht, hk⟩) fun hk => ⟨u, hu, hk⟩)
      -- whichever disagrees with the first is not the first
      obtain ⟨s, hs, hrs⟩ : ∃ s ∈ r :: rs, r.Disagree s key :=
        (exists_disagree r h).elim (fun h => ⟨t, ht, h⟩) fun h => ⟨u, hu, h⟩
      refine ⟨hmem, hbang, s, (List.mem_cons.1 hs).resolve_left ?_, hrs⟩
      rintro rfl
      exact not_disagree_self hr hrs

/-- The keys that tell results apart, in order, and the same whatever the order of the results. -/
theorem differingKeys_exact (hrs : ∀ r ∈ rs, r.IsProper) :
    (differingKeys rs).Pairwise (fun k l => Text.bytes k < Text.bytes l) ∧
    (∀ key, key ∈ differingKeys rs ↔
      '!' ∈ key.toList ∧ ∃ r ∈ rs, ∃ s ∈ rs, r.Disagree s key) ∧
    ∀ rs', rs'.Perm rs → differingKeys rs' = differingKeys rs := by
  refine ⟨pairwise_differingKeys rs, fun key => mem_differingKeys hrs, fun rs' hperm => ?_⟩
  have hrs' : ∀ r ∈ rs', r.IsProper := fun r hr => hrs r (hperm.mem_iff.1 hr)
  refine (pairwise_differingKeys rs').eq_of_mem_iff (pairwise_differingKeys rs) fun key => ?_
  simp only [mem_differingKeys hrs, mem_differingKeys hrs', hperm.mem_iff]

/-- The results of three scenarios. The first two differ in the sign of a zero and in a bare key. -/
def scenarios : List Results :=
  [((∅ : Results).insert "S!A1" (.number 0)).insert "A1" (.number 0),
    ((∅ : Results).insert "S!A1" (.number (-0))).insert "A1" (.number 2),
    (((∅ : Results).insert "S!A1" (.number 0)).insert "A1" (.number 0)).insert "S!B1" .null]

theorem differingKeys_scenarios : (∀ r ∈ scenarios, r.IsProper) ∧
    differingKeys scenarios = ["S!B1"] ∧
    (∃ r ∈ scenarios, ∃ s ∈ scenarios, r.Disagree s "S!B1") ∧
    differingKeys scenarios.reverse = ["S!B1"] := by
  have hproper : ∀ r ∈ scenarios, r.IsProper := by decide +kernel
  have hkeys : differingKeys scenarios = ["S!B1"] := by decide +kernel
  obtain ⟨-, hmem, hperm⟩ := differingKeys_exact hproper
  have hlisted : "S!B1" ∈ differingKeys scenarios := hkeys ▸ List.mem_singleton_self _
  exact ⟨hproper, hkeys, ((hmem _).1 hlisted).2, (hperm _ scenarios.reverse_perm).trans hkeys⟩

end Results

end Recalc
