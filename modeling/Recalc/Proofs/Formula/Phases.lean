import Recalc.Proofs.Formula.Operand

/-!
# The phases of evaluation that replace operands

`resolveAggregates` and `substituteReferences` cut a text into pieces and put the texts that the
pieces lead to one behind the other. Behind any character both are scans that leave delimiters alone
and replace each operand by what it is worth (`replaces_resolveFrom`, `replaces_substituteFrom`): an
operand is read whole if the phase is about it, and left alone if not.
-/

namespace Recalc.Formula

open Arithmetic (Symbol Phrase)
open Reference (Label Qualifier)

/-! ## Texts of pieces -/

section Joined
variable {π : Type} (text? : π → Except FormulaError (List Char))

/-- The texts of pieces one behind the other, if every piece has one. -/
def joined (pieces : List π) : Option (List Char) :=
  (pieces.mapM text?).toOption.map List.flatten

theorem joined_cons (p : π) (pieces : List π) :
    joined text? (p :: pieces) =
      (text? p).toOption.bind fun t => (joined text? pieces).map (t ++ ·) := by
  rw [joined, joined, List.mapM_cons]
  cases text? p with
  | error e => rfl
  | ok t =>
    cases pieces.mapM text? with
    | error e => rfl
    | ok ts => rfl

theorem joined_cons_of_ok {p : π} {t : List Char} (h : text? p = .ok t) (pieces : List π) :
    joined text? (p :: pieces) = (joined text? pieces).map (t ++ ·) := by
  rw [joined_cons, h]
  rfl

end Joined

variable (lookup : Lookup) (sheet : String)

/-! ## Aggregate calls -/

/-- The first phase on a text behind a character. -/
def resolveFrom (before : Option Char) (s : List Char) : Option (List Char) :=
  joined (callText lookup sheet) (Call.Piece.splitAfter before s)

theorem toOption_resolveAggregates (s : List Char) :
    (resolveAggregates lookup sheet s).toOption = resolveFrom lookup sheet none s := by
  rw [resolveAggregates, resolveFrom, joined, Call.Piece.split]
  cases (Call.Piece.splitAfter none s).mapM (callText lookup sheet) <;> rfl

theorem resolveFrom_char {before : Option Char} {c : Char} {r : List Char}
    (h : Call.read? (c :: r) = none) :
    resolveFrom lookup sheet before (c :: r) =
      (resolveFrom lookup sheet (some c) r).map (c :: ·) := by
  rw [resolveFrom, Call.Piece.splitAfter_char h,
    joined_cons_of_ok _ (show callText lookup sheet (.char c) = .ok [c] from rfl)]
  rfl

theorem resolveFrom_inert {t : List Char} (ht : Call.Inert t) (hne : t ≠ [])
    (before : Option Char) (rest : List Char) :
    resolveFrom lookup sheet before (t ++ rest) =
      (resolveFrom lookup sheet t.getLast? rest).map (t ++ ·) := by
  induction t generalizing before with
  | nil => exact absurd rfl hne
  | cons c r ih =>
    have hread := ht.read?_eq_none hne rest
    rw [List.cons_append] at hread ⊢
    rw [resolveFrom_char lookup sheet hread]
    cases r with
    | nil => rfl
    | cons d r =>
      rw [ih (ht.tail (List.cons_ne_nil d r)) (List.cons_ne_nil d r), List.getLast?_cons_cons,
        Option.map_map]
      rfl

theorem resolveFrom_read {before : Option Char} {t rest name argument : List Char} (ht : t ≠ [])
    (h : Call.read? (t ++ rest) = some (name, argument, rest)) :
    resolveFrom lookup sheet before (t ++ rest) =
      (callText lookup sheet (Call.Piece.ofCall before name argument t)).toOption.bind fun u =>
        (resolveFrom lookup sheet t.getLast? rest).map (u ++ ·) := by
  rw [resolveFrom, Call.Piece.splitAfter_call ht h, joined_cons]
  rfl

theorem toOption_callText (c : Call.Written) :
    (callText lookup sheet (.call c.function c.argument.text c.text)).toOption =
      (callWorth? lookup sheet c).map numberText := by
  rw [callText, numbers, c.argument.ofArgument?_text, callWorth?]
  cases hk : c.argument.reference.keys? sheet with
  | none => simp only [hk]; rfl
  | some keys => simp only [hk]; rfl

theorem resolveFrom_call (c : Call.Written) {before : Option Char} (hb : Opened before)
    (rest : List Char) :
    resolveFrom lookup sheet before (c.text ++ rest) =
      ((callWorth? lookup sheet c).map numberText).bind fun t =>
        (resolveFrom lookup sheet c.text.getLast? rest).map (t ++ ·) := by
  have hpiece : Call.Piece.ofCall before c.name c.argument.text c.text =
      .call c.function c.argument.text c.text := by
    rw [Call.Piece.ofCall, hb.any_isAlphanum, c.ofName?_name]
    rfl
  rw [resolveFrom_read lookup sheet c.ne_nil (c.read?_text rest), hpiece, toOption_callText]

/-- The first phase replaces the operands of a spelled phrase. -/
theorem replaces_resolveFrom :
    Replaces Operand.text Term.text (Operand.resolve? lookup sheet) (resolveFrom lookup sheet) where
  nil before := by rw [resolveFrom, Call.Piece.splitAfter]; rfl
  delimiter before c rest hc := by
    refine resolveFrom_char lookup sheet (Call.read?_cons_of_not_isLetter ?_ rest)
    rw [Call.isLetter, isAlpha_of_isDelimiter hc, Bool.false_or, beq_eq_false_iff_ne]
    exact ne_of_isDelimiter hc (by decide +kernel)
  operand before a rest hb hr := by
    cases a with
    | numeral n =>
      exact resolveFrom_inert lookup sheet (inert_call_numeral n) (numeral_text_ne_nil n) before
        rest
    | cell q l =>
      exact resolveFrom_inert lookup sheet (inert_call_cell q l)
        (Reference.Written.solid_text _).ne_nil before rest
    | call c =>
      show resolveFrom lookup sheet before (c.text ++ rest) = _
      rw [resolveFrom_call lookup sheet c hb, Operand.resolve?]
      cases callWorth? lookup sheet c <;> rfl

/-! ## References -/

/-- The second phase on a text behind a character. -/
def substituteFrom (before : Option Char) (s : List Char) : Option (List Char) :=
  joined (referenceText lookup sheet) (Reference.Piece.splitAfter before s)

theorem toOption_substituteReferences (s : List Char) :
    (substituteReferences lookup sheet s).toOption = substituteFrom lookup sheet none s := by
  rw [substituteReferences, substituteFrom, joined, Reference.Piece.split]
  cases (Reference.Piece.splitAfter none s).mapM (referenceText lookup sheet) <;> rfl

theorem substituteFrom_gap {before : Option Char} {c : Char} {r : List Char}
    (h : Reference.read? before (c :: r) = none) :
    substituteFrom lookup sheet before (c :: r) =
      (substituteFrom lookup sheet (some c) r).map (c :: ·) := by
  rw [substituteFrom, Reference.Piece.splitAfter_gap h,
    joined_cons_of_ok _ (show referenceText lookup sheet (.gap c) = .ok [c] from rfl)]
  rfl

theorem substituteFrom_read {before : Option Char} {t rest : List Char} {r : Reference}
    (ht : t ≠ []) (h : Reference.read? before (t ++ rest) = some (r, rest)) :
    substituteFrom lookup sheet before (t ++ rest) =
      (referenceText lookup sheet (.found r t)).toOption.bind fun u =>
        (substituteFrom lookup sheet t.getLast? rest).map (u ++ ·) := by
  rw [substituteFrom, Reference.Piece.splitAfter_found ht h, joined_cons]
  rfl

theorem substituteFrom_inert {t : List Char} (ht : Reference.Inert t) (hne : t ≠ [])
    (before : Option Char) {rest : List Char} (hr : Closed rest) :
    substituteFrom lookup sheet before (t ++ rest) =
      (substituteFrom lookup sheet t.getLast? rest).map (t ++ ·) := by
  induction t generalizing before with
  | nil => exact absurd rfl hne
  | cons c r ih =>
    have hread := ht.read?_eq_none hne (Reference.ends_of_closed hr) before
    rw [List.cons_append] at hread ⊢
    rw [substituteFrom_gap lookup sheet hread]
    cases r with
    | nil => rfl
    | cons d r =>
      rw [ih ht.tail (List.cons_ne_nil d r), List.getLast?_cons_cons, Option.map_map]
      rfl

theorem toOption_referenceText (q : Qualifier) (l : Label) :
    (referenceText lookup sheet (.found (Reference.Written.reference ⟨q, l, none⟩)
      (cellText q l))).toOption = (cellWorth? lookup sheet q l).map numberText := by
  show (do let x ← cellNumber lookup (l.place.key (q.sheet.getD sheet)); return numberText x :
    Except FormulaError (List Char)).toOption = _
  rw [cellNumber, cellWorth?]
  cases lookup (l.place.key (q.sheet.getD sheet)) with
  | none => rfl
  | some v => cases v <;> rfl

theorem substituteFrom_cell (q : Qualifier) (l : Label) {before : Option Char} (hb : Opened before)
    {rest : List Char} (hr : Closed rest) :
    substituteFrom lookup sheet before (cellText q l ++ rest) =
      ((cellWorth? lookup sheet q l).map numberText).bind fun t =>
        (substituteFrom lookup sheet (cellText q l).getLast? rest).map (t ++ ·) := by
  have hread := Reference.Written.read?_text ⟨q, l, none⟩ hb hr
  have hne := (Reference.Written.solid_text ⟨q, l, none⟩).ne_nil
  rw [← toOption_referenceText]
  exact substituteFrom_read lookup sheet hne hread

/-- The second phase replaces the terms of a spelled phrase. -/
theorem replaces_substituteFrom :
    Replaces Term.text Figure.text (Term.substitute? lookup sheet)
      (substituteFrom lookup sheet) where
  nil before := by rw [substituteFrom, Reference.Piece.splitAfter]; rfl
  delimiter before c rest hc :=
    substituteFrom_gap lookup sheet (Reference.read?_of_isDelimiter hc before rest)
  operand before a rest hb hr := by
    cases a with
    | figure f =>
      cases f with
      | numeral n =>
        exact substituteFrom_inert lookup sheet (inert_reference_numeral n) (numeral_text_ne_nil n)
          before hr
      | number x =>
        exact substituteFrom_inert lookup sheet (inert_reference_number x) (numberText_ne_nil x)
          before hr
    | cell q l =>
      show substituteFrom lookup sheet before (cellText q l ++ rest) = _
      rw [substituteFrom_cell lookup sheet q l hb hr, Term.substitute?]
      cases cellWorth? lookup sheet q l <;> rfl

end Recalc.Formula
