import Mathlib.Data.String.Basic
import Mathlib.Tactic.SplitIfs
import Std.Data.ExtTreeMap

/-!
# The order of texts

Texts are ordered by their characters, and their bytes are in the same order (`lt_iff_bytes_lt`): at
the first byte in which the codes of two characters differ, the greater character has the greater
one, and no code is the beginning of another.
-/

namespace Recalc.Text

/-- The bytes of a text in UTF-8. -/
def bytes (s : String) : List UInt8 :=
  s.toByteArray.data.toList

theorem bytes_eq (s : String) : bytes s = s.toList.flatMap String.utf8EncodeChar := by
  obtain ⟨l, rfl⟩ := String.exists_eq_ofList s
  rw [bytes, String.toByteArray_ofList, List.utf8Encode, List.toList_data_toByteArray,
    String.toList_ofList]

theorem cons_ofNat_lt {m n : Nat} {r r' : List UInt8} (h : m ≤ n) (hn : n < 256)
    (ht : m = n → r < r') : UInt8.ofNat m :: r < UInt8.ofNat n :: r' := by
  rw [List.cons_lt_cons_iff]
  rcases Nat.lt_or_eq_of_le h with h | rfl
  · refine Or.inl (UInt8.lt_iff_toNat_lt.2 ?_)
    rwa [UInt8.toNat_ofNat_of_lt' (Nat.lt_trans h hn), UInt8.toNat_ofNat_of_lt' hn]
  · exact Or.inr ⟨rfl, ht rfl⟩

/-- The codes of two characters decide, whatever follows them. -/
theorem utf8EncodeChar_append_lt {c d : Char} (h : c < d) (r r' : List UInt8) :
    String.utf8EncodeChar c ++ r < String.utf8EncodeChar d ++ r' := by
  have hlt : c.val.toNat < d.val.toNat := h
  have hd : d.val.toNat < 0x110000 := by
    rcases d.valid with hv | ⟨-, hv⟩
    · exact Nat.lt_trans hv (by decide)
    · exact hv
  unfold String.utf8EncodeChar
  dsimp only
  split_ifs
  all_goals
    -- each byte is at most its counterpart, and they are not all equal
    repeat refine cons_ofNat_lt (by omega) (by omega) fun _ => ?_
    omega

theorem flatMap_utf8EncodeChar_lt {s t : List Char} (h : s < t) :
    s.flatMap String.utf8EncodeChar < t.flatMap String.utf8EncodeChar := by
  induction h with
  | @nil d t =>
    obtain ⟨b, u, hb⟩ := List.exists_cons_of_ne_nil (String.utf8EncodeChar_ne_nil (c := d))
    rw [List.flatMap_nil, List.flatMap_cons, hb]
    exact List.nil_lt_cons b _
  | cons h ih =>
    rw [List.flatMap_cons, List.flatMap_cons]
    exact List.append_left_lt ih
  | rel h =>
    rw [List.flatMap_cons, List.flatMap_cons]
    exact utf8EncodeChar_append_lt h _ _

/-- The order of texts is the order of their bytes. -/
theorem lt_iff_bytes_lt {s t : String} : s < t ↔ bytes s < bytes t := by
  have hmono : ∀ {s t : String}, s < t → bytes s < bytes t := by
    intro s t h
    rw [bytes_eq, bytes_eq]
    exact flatMap_utf8EncodeChar_lt h
  refine ⟨hmono, fun h => ?_⟩
  rcases lt_trichotomy s t with hlt | rfl | hlt
  · exact hlt
  · exact absurd h (List.lt_irrefl _)
  · exact absurd h (List.lt_asymm (hmono hlt))

/-- A map lists its entries in the order of the bytes of their keys. -/
theorem pairwise_bytes_lt_toList {α : Type} (m : Std.ExtTreeMap String α) :
    m.toList.Pairwise fun p q => bytes p.1 < bytes q.1 :=
  (Std.ExtTreeMap.ordered_keys_toList (t := m)).imp fun h =>
    lt_iff_bytes_lt.1 (compareOfLessAndEq_eq_lt.1 h)

end Recalc.Text
