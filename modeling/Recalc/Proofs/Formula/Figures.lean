import Recalc.Proofs.Arithmetic.Parse
import Recalc.Proofs.Formula.Operand

/-!
# Arithmetic on figures

What the two replacing phases leave is a phrase of figures. Its commas become points, its characters
are checked, and it is read as tokens and parsed. A negative number is read as a minus sign and a
number (`Phrase.signs`), which does not change what the phrase is worth
(`Phrase.toOption_eval_signs`) but counts towards the limits. `toOption_evalFigures` puts these
phases together.
-/

namespace Recalc.Arithmetic

/-! ## Minus signs of negative numbers -/

/-- A number as it is written: a minus sign in front of what is negative. -/
def signed (x : Float) : Phrase Float :=
  if Binary64.isNegative x then .sign '-' (.operand (-x)) else .operand x

theorem isFinite_ofMagnitude (negative : Bool) {m : Nat} (h : m < Binary64.infinity) :
    (Binary64.ofMagnitude negative m).isFinite = true := by
  rwa [Binary64.isFinite_iff, Binary64.magnitude_ofMagnitude _ h]

theorem neg_of_isFinite {x : Float} (h : x.isFinite = true) :
    -x = Binary64.ofMagnitude (!Binary64.isNegative x) (Binary64.magnitude x) := by
  rw [Binary64.isFinite_iff] at h
  rw [← Binary64.neg_ofMagnitude _ h, Binary64.ofMagnitude_magnitude h]

theorem neg_neg_of_isFinite {x : Float} (h : x.isFinite = true) : - -x = x := by
  have hm := (Binary64.isFinite_iff x).1 h
  rw [neg_of_isFinite h, Binary64.neg_ofMagnitude _ hm, Bool.not_not,
    Binary64.ofMagnitude_magnitude hm]

theorem isFinite_neg (x : Float) : (-x).isFinite = x.isFinite := by
  by_cases h : x.isFinite = true
  · rw [neg_of_isFinite h, h]
    exact isFinite_ofMagnitude _ ((Binary64.isFinite_iff x).1 h)
  · rw [Bool.not_eq_true] at h
    rw [h]
    exact Binary64.isFinite_neg_eq_false h

theorem rank_signed (x : Float) : (signed x).rank = 0 := by
  rw [signed]
  split <;> rfl

theorem wellFormed_signed (x : Float) : (signed x).WellFormed := by
  rw [signed]
  split
  · exact ⟨rfl, rfl, trivial⟩
  · trivial

theorem toOption_bind {ε α β : Type} (e : Except ε α) (f : α → Except ε β) :
    (e >>= f).toOption = e.toOption.bind fun a => (f a).toOption := by
  cases e <;> rfl

theorem exists_of_map_eq_ok {ε α β : Type} {f : α → β} {e : Except ε α} {b : β}
    (h : e.map f = .ok b) : ∃ a, e = .ok a ∧ f a = b := by
  cases e with
  | error _ => cases h
  | ok a => exact ⟨a, rfl, Except.ok.inj h⟩

/-- A non-finite number has no value, whatever stands around it. -/
theorem Phrase.toOption_eval_eq_none {q : Phrase Float} {x : Float} (hx : x ∈ q.operands)
    (h : x.isFinite = false) : q.tree.eval.toOption = none := by
  induction q with
  | operand y =>
    rw [operands, List.mem_singleton] at hx
    subst hx
    rw [tree, Expr.eval, finite, h]
    rfl
  | sign c e ih =>
    rw [tree, Expr.eval, toOption_bind, ih hx]
    rfl
  | binary c l r ihl ihr =>
    rw [tree, Expr.eval, toOption_bind]
    rcases List.mem_append.1 hx with hx | hx
    · rw [ihl hx]
      rfl
    · cases l.tree.eval with
      | error e => rfl
      | ok y =>
        show (r.tree.eval >>= _).toOption = none
        rw [toOption_bind, ihr hx]
        rfl
  | group e ih => exact ih hx

theorem toOption_eval_signed_operand (x : Float) :
    (signed x).tree.eval.toOption = (Phrase.operand x).tree.eval.toOption := by
  rw [signed]
  split
  · rw [Phrase.tree, Phrase.tree, Phrase.tree, Expr.eval, Expr.eval, Expr.eval, finite, finite,
      isFinite_neg]
    by_cases hx : x.isFinite = true
    · rw [if_pos hx, if_pos hx]
      show (finite (- -x)).toOption = _
      rw [neg_neg_of_isFinite hx, finite, if_pos hx]
    · rw [if_neg hx, if_neg hx]
      rfl
  · rfl

namespace Phrase

def signs (q : Phrase Float) : Phrase Float :=
  q.bind signed

theorem WellFormed.signs {q : Phrase Float} (hq : q.WellFormed) : q.signs.WellFormed :=
  hq.bind rank_signed wellFormed_signed

/-- Minus signs of negative numbers do not change what a phrase is worth. -/
theorem toOption_eval_signs (q : Phrase Float) :
    q.signs.tree.eval.toOption = q.tree.eval.toOption := by
  induction q with
  | operand x => exact toOption_eval_signed_operand x
  | sign c e ih =>
    show ((e.bind signed).tree.eval >>= _).toOption = (e.tree.eval >>= _).toOption
    rw [toOption_bind, toOption_bind, show (e.bind signed).tree.eval.toOption = _ from ih]
  | binary c l r ihl ihr =>
    show ((l.bind signed).tree.eval >>= _).toOption = (l.tree.eval >>= _).toOption
    rw [toOption_bind, toOption_bind, show (l.bind signed).tree.eval.toOption = _ from ihl]
    congr 1
    funext x
    show ((r.bind signed).tree.eval >>= _).toOption = (r.tree.eval >>= _).toOption
    rw [toOption_bind, toOption_bind, show (r.bind signed).tree.eval.toOption = _ from ihr]
  | group e ih => exact ih

end Phrase

end Recalc.Arithmetic

namespace Recalc.Formula

open Arithmetic (Symbol Phrase Token tokensFrom isNumeric)
open Decimal (Numeral pointed)

/-! ## Figures as numbers -/

def Figure.value : Figure → Float
  | numeral n => n.value
  | number x => x

def Figure.isDigits : Figure → Bool
  | numeral _ => true
  | number x => x.isFinite

def Figure.pointedText (f : Figure) : List Char :=
  pointed f.text

theorem magnitude_le_infinity (d : Decimal) : d.magnitude ≤ Binary64.infinity := by
  have hnearest (num den : Nat) : Binary64.nearest num den ≤ Binary64.infinity := by
    rw [Binary64.nearest]
    split
    · exact Nat.zero_le _
    · exact Nat.min_le_left _ _
  rw [Decimal.magnitude]
  split
  · exact Nat.zero_le _
  split
  · exact Nat.le_refl _
  split
  · exact Nat.zero_le _
  split
  · exact hnearest _ _
  · exact hnearest _ _

theorem isNegative_numeral (n : Numeral) : Binary64.isNegative n.value = false := by
  rw [Numeral.value, Decimal.toFloat]
  rcases Nat.lt_or_eq_of_le (magnitude_le_infinity n.decimal) with h | h
  · exact Binary64.isNegative_ofMagnitude false h
  · rw [h]
    decide +kernel

theorem signed_numeral (n : Numeral) : Arithmetic.signed n.value = .operand n.value := by
  rw [Arithmetic.signed, isNegative_numeral]
  rfl

/-! ## Commas and the characters of arithmetic -/

theorem pointed_append (s t : List Char) : pointed (s ++ t) = pointed s ++ pointed t :=
  List.map_append

theorem pointed_of_isDelimiter {c : Char} (h : isDelimiter c = true) : pointed [c] = [c] := by
  have hc : c ≠ ',' := ne_of_isDelimiter h rfl
  rw [pointed, List.map_singleton, if_neg hc]

theorem pointed_spell {l : List (Symbol Figure)} (hl : Spaced l) :
    pointed (spell Figure.text l) = spell Figure.pointedText l := by
  induction l with
  | nil => rfl
  | cons s l ih =>
    show pointed (symbolText Figure.text s ++ spell Figure.text l) = _
    rw [pointed_append, ih hl.tail]
    cases s with
    | mark c =>
      rw [symbolText, pointed_of_isDelimiter (hl.delimits _ (List.mem_cons_self ..))]
      rfl
    | operand f => rfl

theorem isAllowed_of_isDelimiter {c : Char} (h : isDelimiter c = true) : isAllowed c = true := by
  rw [isAllowed]
  rcases Bool.or_eq_true_iff.1 h with h | h
  · rw [h, Bool.or_true]
    rfl
  · rcases isMark_cases h with rfl | rfl | rfl | rfl | rfl | rfl <;> rfl

theorem isDigit_or_point_of_mem_pointed {n : Numeral} {c : Char} (h : c ∈ pointed n.text) :
    c.isDigit = true ∨ c = '.' := by
  obtain ⟨d, hd, rfl⟩ := List.mem_map.1 h
  split
  · exact Or.inr rfl
  · rename_i hcomma
    rcases isDigit_or_mark_of_mem_numeral hd with hd | rfl | rfl
    · exact Or.inl hd
    · exact Or.inr rfl
    · exact absurd rfl hcomma

/-- A figure is written in the characters of arithmetic if and only if it is written with digits. -/
theorem all_isAllowed_pointedText (f : Figure) :
    f.pointedText.all isAllowed = f.isDigits := by
  have hnumeral (n : Numeral) : (pointed n.text).all isAllowed = true := by
    refine List.all_eq_true.2 fun c hc => ?_
    rcases isDigit_or_point_of_mem_pointed hc with hc | rfl
    · rw [isAllowed, hc]
      rfl
    · rfl
  cases f with
  | numeral n => exact hnumeral n
  | number x =>
    rw [Figure.pointedText, Figure.text, Figure.isDigits]
    rcases numberText_cases x with ⟨hx, n, hn, -, -⟩ | ⟨hx, h | h | h⟩
    · rw [hn, hx, pointed_append, List.all_append, hnumeral, Bool.and_true]
      split <;> rfl
    all_goals rw [h, hx]; rfl

theorem all_isAllowed_spell {l : List (Symbol Figure)} (hl : Spaced l) :
    (spell Figure.pointedText l).all isAllowed = true ↔
      ∀ f, .operand f ∈ l → f.isDigits = true := by
  induction l with
  | nil => simp [spell]
  | cons s l ih =>
    have hall : (spell Figure.pointedText (s :: l)).all isAllowed = true ↔
        (symbolText Figure.pointedText s).all isAllowed = true ∧
          (spell Figure.pointedText l).all isAllowed = true := by
      rw [← Bool.and_eq_true_iff, ← List.all_append]
      rfl
    rw [hall, ih hl.tail]
    cases s with
    | mark c =>
      have hc := isAllowed_of_isDelimiter (hl.delimits (.mark c) (List.mem_cons_self ..))
      simp [symbolText, hc]
    | operand f => simp [symbolText, all_isAllowed_pointedText]

theorem toOption_checkAllowed (s : List Char) :
    (checkAllowed s).toOption = if s.all isAllowed then some () else none := by
  rw [checkAllowed]
  split
  · rename_i c hc
    rw [if_neg]
    · rfl
    · intro hall
      have := List.all_eq_true.1 hall c (List.mem_of_find?_eq_some hc)
      have hnot := List.find?_some hc
      rw [this] at hnot
      cases hnot
  · rename_i hnone
    rw [if_pos]
    · rfl
    · refine List.all_eq_true.2 fun c hc => ?_
      simpa using List.find?_eq_none.1 hnone c hc

/-! ## Tokens -/

theorem isNumeric_of_isDelimiter {c : Char} (h : isDelimiter c = true) : isNumeric c = false := by
  rw [isNumeric, isDigit_of_isDelimiter h, Bool.false_or]
  exact beq_eq_false_iff_ne.2 (ne_of_isDelimiter h rfl)

theorem tokensFrom_numeric (position : Nat) {c : Char} {r rest : List Char} {d : Decimal}
    (hn : ∀ e ∈ c :: r, isNumeric e = true) (hd : Decimal.read? (c :: r) = some d)
    (hr : Closed rest) : ∃ behind, tokensFrom position (c :: r ++ rest) =
      (tokensFrom behind rest).map (.number (d.toFloat false) :: ·) := by
  have hc : isNumeric c = true := hn c (List.mem_cons_self ..)
  have hdelimiter : isDelimiter c = false := by
    by_contra h
    rw [isNumeric_of_isDelimiter (by simpa using h)] at hc
    cases hc
  obtain ⟨hblank, hmark⟩ := Bool.or_eq_false_iff.1 hdelimiter
  simp only [isMark, Bool.or_eq_false_iff, beq_eq_false_iff_ne] at hmark
  obtain ⟨⟨hoperator, hopen⟩, hclose⟩ := hmark
  have htail : ∀ e ∈ r, isNumeric e = true := fun e he => hn e (List.mem_cons_of_mem c he)
  have hrest : ∀ e ∈ rest.head?, isNumeric e = false :=
    fun e he => isNumeric_of_isDelimiter (hr.isDelimiter_head e he)
  rw [List.cons_append, tokensFrom.eq_def]
  simp only
  rw [Text.takeWhile_run htail _ hrest,
    Text.dropWhile_run htail _ hrest]
  simp only [hblank, hopen, hclose, hoperator, hc, Bool.false_eq_true, if_false, if_true, hd]
  exact ⟨_, rfl⟩

theorem tokensFrom_numeral (position : Nat) (n : Numeral) {rest : List Char} (hr : Closed rest) :
    ∃ behind, tokensFrom position (pointed n.text ++ rest) =
      (tokensFrom behind rest).map (.number n.value :: ·) := by
  have hread := n.read?_pointed_text
  have hnumeric : ∀ c ∈ pointed n.text, isNumeric c = true := by
    intro c hc
    rw [isNumeric]
    rcases isDigit_or_point_of_mem_pointed hc with h | rfl
    · rw [h]
      rfl
    · rfl
  have hne : pointed n.text ≠ [] := by
    rw [pointed, Ne, List.map_eq_nil_iff]
    exact numeral_text_ne_nil n
  obtain ⟨c, r, hcr⟩ := List.exists_cons_of_ne_nil hne
  rw [hcr] at hread hnumeric ⊢
  exact tokensFrom_numeric position hnumeric hread hr

theorem tokensFrom_minus (position : Nat) (rest : List Char) :
    tokensFrom position ('-' :: rest) =
      (tokensFrom (position + 1) rest).map (.operator '-' :: ·) := by
  rw [tokensFrom.eq_def]
  rfl

/-- A figure written with digits is read as its number, behind a minus sign if it is negative. -/
theorem tokensFrom_figure (position : Nat) {f : Figure} (hf : f.isDigits = true)
    {rest : List Char} (hr : Closed rest) : ∃ behind, tokensFrom position (f.pointedText ++ rest) =
      (tokensFrom behind rest).map ((Arithmetic.signed f.value).tokens ++ ·) := by
  cases f with
  | numeral n =>
    obtain ⟨behind, h⟩ := tokensFrom_numeral position n hr
    refine ⟨behind, ?_⟩
    rw [Figure.value, signed_numeral]
    exact h
  | number x =>
    have hx : x.isFinite = true := hf
    obtain ⟨-, n, htext, -, hvalue⟩ | ⟨h, -⟩ := numberText_cases x
    · rw [Figure.pointedText, Figure.text, htext, pointed_append, Figure.value, Arithmetic.signed,
        Arithmetic.neg_of_isFinite hx]
      by_cases hneg : Binary64.isNegative x = true
      · obtain ⟨behind, h⟩ := tokensFrom_numeral (position + 1) n hr
        refine ⟨behind, ?_⟩
        rw [if_pos hneg, if_pos hneg, hneg, Bool.not_true, ← hvalue]
        show tokensFrom position ('-' :: (pointed n.text ++ rest)) = _
        rw [tokensFrom_minus, h]
        cases tokensFrom behind rest <;> rfl
      · obtain ⟨behind, h⟩ := tokensFrom_numeral position n hr
        refine ⟨behind, ?_⟩
        have hvalue' : n.value = x := by
          rw [hvalue, ← Bool.eq_false_iff.2 hneg]
          exact Binary64.ofMagnitude_magnitude ((Binary64.isFinite_iff x).1 hx)
        rw [if_neg hneg, if_neg hneg, ← hvalue']
        exact h
    · rw [hx] at h
      cases h

theorem tokensFrom_mark (position : Nat) {c : Char} (h : isMark c = true) (rest : List Char) :
    tokensFrom position (c :: rest) =
      (tokensFrom (position + 1) rest).map ((Symbol.mark c).token :: ·) := by
  rcases isMark_cases h with rfl | rfl | rfl | rfl | rfl | rfl <;> (rw [tokensFrom.eq_def]; rfl)

theorem tokensFrom_blank (position : Nat) {c : Char} (h : Text.isBlank c = true)
    (rest : List Char) : tokensFrom position (c :: rest) = tokensFrom (position + 1) rest := by
  rw [tokensFrom.eq_def]
  exact if_pos h

/-- The tokens of a spelled phrase of figures are those of its numbers with their signs. -/
theorem tokensFrom_spell {l : List (Symbol Figure)} (hl : Spaced l)
    (hd : ∀ f, .operand f ∈ l → f.isDigits = true) (position : Nat) :
    (tokensFrom position (spell Figure.pointedText l)).toOption =
      some (((unspaced l).flatMap
        (Symbol.expand fun f => (Arithmetic.signed f.value).symbols)).map Symbol.token) := by
  induction l generalizing position with
  | nil => rw [spell, List.flatMap_nil, tokensFrom.eq_def]; rfl
  | cons s l ih =>
    have ih := ih hl.tail fun f hf => hd f (List.mem_cons_of_mem s hf)
    cases s with
    | mark c =>
      show (tokensFrom position (c :: spell Figure.pointedText l)).toOption = _
      by_cases hb : Text.isBlank c = true
      · rw [tokensFrom_blank position hb, ih, unspaced_space hb]
      · have hc : isMark c = true := by
          have := hl.delimits _ (List.mem_cons_self ..)
          rwa [Delimits, isDelimiter, Bool.eq_false_iff.2 hb, Bool.false_or] at this
        have hrest := ih (position + 1)
        rw [tokensFrom_mark position hc, unspaced_mark (by simpa using hb)]
        cases ht : tokensFrom (position + 1) (spell Figure.pointedText l) with
        | error e =>
          rw [ht] at hrest
          cases hrest
        | ok ts =>
          rw [ht] at hrest
          cases hrest
          rfl
    | operand f =>
      obtain ⟨behind, h⟩ := tokensFrom_figure position (hd f (List.mem_cons_self ..))
        hl.closed
      have hrest := ih behind
      show (tokensFrom position (f.pointedText ++ spell Figure.pointedText l)).toOption = _
      rw [h, unspaced_operand]
      cases ht : tokensFrom behind (spell Figure.pointedText l) with
      | error e =>
        rw [ht] at hrest
        cases hrest
      | ok ts =>
        rw [ht] at hrest
        cases hrest
        simp [Symbol.expand, Arithmetic.Phrase.tokens, Except.toOption, Except.map]

/-! ## The value of a phrase of figures -/

theorem toOption_mapError {ε δ α : Type} (f : ε → δ) (e : Except ε α) :
    (e.mapError f).toOption = e.toOption := by
  cases e <;> rfl

theorem toOption_evalArithmetic (s : List Char) :
    (evalArithmetic s).toOption = (Arithmetic.tokens s).toOption.bind fun ts =>
      (Arithmetic.parse ts).toOption.bind fun e => e.eval.toOption := by
  rw [evalArithmetic, Arithmetic.toOption_bind, toOption_mapError]
  congr 1
  funext ts
  rw [Arithmetic.toOption_bind, toOption_mapError]
  congr 1
  funext e
  exact toOption_mapError _ _

def numbersOf (q : Phrase Figure) : Phrase Float :=
  q.bind fun f => .operand f.value

theorem mem_of_spells {α : Type} {l : List (Symbol α)} {p : Phrase α} (hl : Spells l p) {a : α} :
    .operand a ∈ l ↔ a ∈ p.operands := by
  rw [← Phrase.operand_mem_symbols, ← show unspaced l = _ from hl, unspaced, List.mem_filter]
  simp [isSpace]

theorem WellFormed.numbersOf {q : Phrase Figure} (hq : q.WellFormed) :
    (numbersOf q).WellFormed :=
  Phrase.WellFormed.bind (f := fun f : Figure => .operand f.value) (fun _ => rfl)
    (fun _ => trivial) hq

/-- The last phases compute a spelled phrase of figures if it fits, and nothing if not. -/
theorem toOption_evalFigures {q : Phrase Figure} (hq : q.WellFormed) {l : List (Symbol Figure)}
    (hl : Spells l q) :
    ((checkAllowed (pointed (spell Figure.text l))).toOption.bind fun _ =>
      (evalArithmetic (pointed (spell Figure.text l))).toOption) =
      if (numbersOf q).signs.Fits Arithmetic.maxNesting then (numbersOf q).tree.eval.toOption
      else none := by
  have hspaced := hl.spaced hq
  rw [pointed_spell hspaced, toOption_checkAllowed]
  by_cases hd : ∀ f, .operand f ∈ l → f.isDigits = true
  · have hsymbols : (numbersOf q).signs.symbols =
        (unspaced l).flatMap (Symbol.expand fun f => (Arithmetic.signed f.value).symbols) := by
      rw [show unspaced l = _ from hl, Phrase.signs, numbersOf, Phrase.bind_bind,
        Phrase.symbols_bind]
      rfl
    have htokens : (Arithmetic.tokens (spell Figure.pointedText l)).toOption =
        some (numbersOf q).signs.tokens := by
      rw [Arithmetic.tokens, tokensFrom_spell hspaced hd, ← hsymbols]
      rfl
    rw [if_pos ((all_isAllowed_spell hspaced).2 hd), Option.bind_some, toOption_evalArithmetic,
      htokens, Option.bind_some, Phrase.parse_tokens (WellFormed.numbersOf hq).signs]
    split
    · exact Phrase.toOption_eval_signs _
    · rfl
  · rw [if_neg fun h => hd ((all_isAllowed_spell hspaced).1 h), Option.bind_none]
    obtain ⟨f, hf⟩ := not_forall.1 hd
    obtain ⟨hmem, hdigits⟩ := Classical.not_imp.1 hf
    -- a number that is not written with digits is not finite
    have hvalue : f.value.isFinite = false := by
      cases f with
      | numeral n => exact absurd rfl hdigits
      | number x => exact Bool.eq_false_iff.2 hdigits
    have hoperand : f.value ∈ (numbersOf q).operands := by
      rw [numbersOf, Phrase.operands_bind]
      exact List.mem_map_of_mem ((mem_of_spells hl).1 hmem)
    rw [Phrase.toOption_eval_eq_none hoperand hvalue]
    split <;> rfl

end Recalc.Formula
