import Recalc.Formula.Evaluate
import Recalc.Proofs.Decimal.Numeral
import Recalc.Proofs.Formula.Calls
import Recalc.Proofs.Formula.Spelling

/-!
# Operands of a formula

An `Operand` is a numeral, a reference to one cell or an aggregate call. The first two phases of
evaluation replace calls by numbers, which leaves a `Term`, and then references, which leaves a
`Figure`. What these look like decides that a phase finds nothing to read in what it leaves alone.
-/

namespace Recalc

namespace Formula

open Arithmetic (Symbol Phrase)
open Decimal (Numeral)
open Reference (Label Qualifier)

/-! ## Operands -/

/-- What stands for a number: digits as they are written, or a float in its plain form. -/
inductive Figure
  | numeral (n : Numeral)
  | number (x : Float)

/-- A figure or a reference to one cell. -/
inductive Term
  | figure (f : Figure)
  | cell (qualifier : Qualifier) (label : Label)

/-- An operand of a formula. -/
inductive Operand
  | numeral (n : Numeral)
  | cell (qualifier : Qualifier) (label : Label)
  | call (c : Call.Written)

def Figure.text : Figure → List Char
  | numeral n => n.text
  | number x => numberText x

def cellText (qualifier : Qualifier) (label : Label) : List Char :=
  Reference.Written.text ⟨qualifier, label, none⟩

def Term.text : Term → List Char
  | figure f => f.text
  | cell q l => cellText q l

def Operand.text : Operand → List Char
  | numeral n => n.text
  | cell q l => cellText q l
  | call c => c.text

section Worth
variable (lookup : Lookup) (sheet : String)

/-- The number that a cell is worth in arithmetic, if it has a value. -/
def cellWorth? (qualifier : Qualifier) (label : Label) : Option Float :=
  (lookup (label.place.key (qualifier.sheet.getD sheet))).bind fun v =>
    if v.isNull then none else some (v.asNumber?.getD 0)

/-- The aggregate of the numbers among the cells that a call covers, unless they are too many. -/
def callWorth? (c : Call.Written) : Option Float :=
  (c.argument.reference.keys? sheet).map fun keys =>
    c.function.apply (keys.filterMap fun k => (lookup k).bind Value.asNumber?)

/-- What the first phase leaves of an operand. -/
def Operand.resolve? : Operand → Option Term
  | numeral n => some (.figure (.numeral n))
  | cell q l => some (.cell q l)
  | call c => (callWorth? lookup sheet c).map fun x => .figure (.number x)

/-- What the second phase leaves of a term. -/
def Term.substitute? : Term → Option Figure
  | figure f => some f
  | cell q l => (cellWorth? lookup sheet q l).map .number

/-- The number that an operand is worth. -/
def Operand.worth? : Operand → Option Float
  | numeral n => some n.value
  | cell q l => cellWorth? lookup sheet q l
  | call c => callWorth? lookup sheet c

end Worth

/-! ## What operands look like -/

theorem isDigit_or_mark_of_mem_numeral {n : Numeral} {c : Char} (h : c ∈ n.text) :
    c.isDigit = true ∨ c = '.' ∨ c = ',' := by
  rw [Numeral.text, List.append_assoc] at h
  rcases List.mem_append.1 h with h | h
  · exact Or.inl (n.isDigit_whole c h)
  · rcases List.mem_append.1 h with h | h
    · exact Or.inr (n.mark_eq c (Option.mem_toList.1 h))
    · exact Or.inl (n.isDigit_fraction c h)

theorem numeral_text_ne_nil (n : Numeral) : n.text ≠ [] := by
  intro h
  rw [Numeral.text, List.append_assoc, List.append_eq_nil_iff, List.append_eq_nil_iff] at h
  rcases n.ne_nil with hw | hf
  · exact hw h.1
  · exact hf h.2.2

/-- A class of characters that holds of no digit and no decimal mark holds of nothing in a
numeral. -/
theorem class_of_mem_numeral {p : Char → Bool} (hd : ∀ c, c.isDigit = true → p c = false)
    (hpoint : p '.' = false) (hcomma : p ',' = false) {n : Numeral} {c : Char} (h : c ∈ n.text) :
    p c = false := by
  rcases isDigit_or_mark_of_mem_numeral h with h | rfl | rfl
  · exact hd c h
  · exact hpoint
  · exact hcomma

theorem isBlank_of_isDigit {c : Char} (h : c.isDigit = true) : Text.isBlank c = false :=
  isBlank_of_isDelimiter_eq_false (isDelimiter_of_isWord (isWord_of_isDigit h))

theorem isLetter_of_isDigit {c : Char} (h : c.isDigit = true) : Call.isLetter c = false := by
  rw [Call.isLetter, isAlpha_of_isDigit h, Bool.false_or, beq_eq_false_iff_ne]
  rintro rfl
  cases h

theorem solid_numeral (n : Numeral) : Text.Solid n.text := by
  have h : ∀ c ∈ n.text, Text.isBlank c = false :=
    fun c hc => class_of_mem_numeral (fun _ => isBlank_of_isDigit) rfl rfl hc
  exact ⟨numeral_text_ne_nil n, fun c hc => h c (List.mem_of_mem_head? hc),
    fun c hc => h c (List.mem_of_mem_getLast? hc)⟩

theorem Operand.solid_text (a : Operand) : Text.Solid a.text := by
  cases a with
  | numeral n => exact solid_numeral n
  | cell q l => exact Reference.Written.solid_text _
  | call c =>
    refine ⟨c.ne_nil, ?_, ?_⟩
    · obtain ⟨d, r, hd⟩ : ∃ d r, c.name = d :: r := by
        refine List.exists_cons_of_ne_nil fun h => ?_
        have := c.name_eq
        rw [h] at this
        cases hf : c.function <;> rw [hf] at this <;> cases this
      have hname : d.isAlpha = true := by
        have heq := c.name_eq
        rw [hd, List.map_cons] at heq
        rw [← Text.isAlpha_toUpper]
        exact Call.isAlpha_of_mem_name c.function _ (heq ▸ List.mem_cons_self ..)
      rw [text, Call.Written.text, hd]
      rintro e ⟨⟩
      exact isBlank_of_isDelimiter_eq_false (isDelimiter_of_isWord (isWord_of_isAlpha hname))
    · rw [text, Call.Written.text, ← List.cons_append, ← List.append_assoc, ← List.append_assoc,
        List.getLast?_concat]
      rintro e ⟨⟩
      rfl

theorem inert_call_numeral (n : Numeral) : Call.Inert n.text := by
  refine ⟨fun h => ?_, fun c hc => ?_, (solid_numeral n).last⟩
  · rcases isDigit_or_mark_of_mem_numeral h with h | h | h <;> cases h
  · exact class_of_mem_numeral (fun _ => isLetter_of_isDigit) rfl rfl (List.mem_of_mem_getLast? hc)

theorem inert_call_cell (q : Qualifier) (l : Label) : Call.Inert (cellText q l) := by
  refine ⟨Reference.Written.not_mem_text _ (Or.inl rfl), fun c hc => ?_,
    (Reference.Written.solid_text _).last⟩
  obtain ⟨r, d, hd, hdigit⟩ := Reference.Written.exists_text_eq_concat ⟨q, l, none⟩
  rw [cellText, hd, List.getLast?_concat] at hc
  cases hc
  exact isLetter_of_isDigit hdigit

theorem inert_reference_numeral (n : Numeral) : Reference.Inert n.text := by
  refine ⟨fun h => ?_, fun h => ?_, n.text, [], (List.append_nil _).symm, fun c hc => ?_, by simp⟩
  · rcases isDigit_or_mark_of_mem_numeral h with h | h | h <;> cases h
  · rcases isDigit_or_mark_of_mem_numeral h with h | h | h <;> cases h
  · exact class_of_mem_numeral (fun _ => isAlpha_of_isDigit) rfl rfl hc

/-- The plain form of a float is a numeral or a word, behind a sign or not. -/
theorem numberText_cases (x : Float) :
    (x.isFinite = true ∧ ∃ n : Numeral,
      numberText x = (if Binary64.isNegative x then ['-'] else []) ++ n.text ∧ n.mark ≠ some ',' ∧
        n.value = Binary64.ofMagnitude false (Binary64.magnitude x)) ∨
    (x.isFinite = false ∧ (numberText x = ['N', 'a', 'N'] ∨ numberText x = ['i', 'n', 'f'] ∨
      numberText x = ['-', 'i', 'n', 'f'])) := by
  by_cases hx : x.isFinite = true
  · exact Or.inl ⟨hx, Decimal.Layout.plain_float_eq hx⟩
  · refine Or.inr ⟨by simpa using hx, ?_⟩
    rw [Binary64.isFinite_iff, Nat.not_lt] at hx
    rw [numberText, Decimal.Layout.float]
    split
    · exact Or.inl rfl
    · rename_i h
      rw [if_pos (Nat.le_antisymm (Nat.not_lt.1 h) hx)]
      cases Binary64.isNegative x
      · exact Or.inr (Or.inl rfl)
      · exact Or.inr (Or.inr rfl)

theorem inert_reference_number (x : Float) : Reference.Inert (numberText x) := by
  rcases numberText_cases x with ⟨-, n, hn, -, -⟩ | ⟨-, h | h | h⟩
  · obtain ⟨hb, hq, -⟩ := inert_reference_numeral n
    rw [hn]
    refine ⟨fun h => ?_, fun h => ?_, _, [], (List.append_nil _).symm, fun c hc => ?_, by simp⟩
    · rcases List.mem_append.1 h with h | h
      · split at h <;> simp at h
      · exact hb h
    · rcases List.mem_append.1 h with h | h
      · split at h <;> simp at h
      · exact hq h
    · rcases List.mem_append.1 hc with h | h
      · split at h
        · rw [List.mem_singleton.1 h]
          rfl
        · cases h
      · exact class_of_mem_numeral (fun _ => isAlpha_of_isDigit) rfl rfl h
  · rw [h]
    exact ⟨by decide, by decide, [], _, rfl, by simp, List.all_eq_true.1 rfl⟩
  · rw [h]
    exact ⟨by decide, by decide, [], _, rfl, by simp, List.all_eq_true.1 rfl⟩
  · rw [h]
    exact ⟨by decide, by decide, ['-'], ['i', 'n', 'f'], rfl, by simp,
      List.all_eq_true.1 rfl⟩

theorem numberText_ne_nil (x : Float) : numberText x ≠ [] := by
  rcases numberText_cases x with ⟨-, n, hn, -, -⟩ | ⟨-, h | h | h⟩
  · rw [hn]
    exact List.append_ne_nil_of_right_ne_nil _ (numeral_text_ne_nil n)
  all_goals rw [h]; simp

end Formula

end Recalc
