import Recalc.Proofs.Formula.Figures
import Recalc.Proofs.Formula.Phases

/-!
# Formulas compute the expression they are written as

`evaluate_spell`: the value of a formula that spells a phrase of numerals, references and aggregate
calls is the value of the phrase in which each operand is the number that it is worth, or null if an
operand is worth nothing, the phrase passes a limit, or its value is not defined. Rewriting the text
phase by phase neither joins nor splits what the phrase is made of.
-/

namespace Recalc.Formula

open Arithmetic (Symbol Phrase maxNesting)
open Reference (Label Qualifier)

variable (lookup : Lookup) (sheet : String)

theorem worth?_eq (a : Operand) :
    a.worth? lookup sheet = ((a.resolve? lookup sheet).bind (Term.substitute? lookup sheet)).bind
      fun f => some f.value := by
  cases a with
  | numeral n => rfl
  | cell q l =>
    show cellWorth? lookup sheet q l = ((cellWorth? lookup sheet q l).map Figure.number).bind _
    cases cellWorth? lookup sheet q l <;> rfl
  | call c =>
    show callWorth? lookup sheet c = ((callWorth? lookup sheet c).map _ |>.bind _).bind _
    cases callWorth? lookup sheet c <;> rfl

/-- What a phrase of operands is worth, by way of the two phases that replace operands. -/
theorem traverse_worth? (p : Phrase Operand) :
    p.traverse (Operand.worth? lookup sheet) =
      ((p.traverse (Operand.resolve? lookup sheet)).bind
        (Phrase.traverse (Term.substitute? lookup sheet))).map numbersOf := by
  rw [show Operand.worth? lookup sheet = _ from funext (worth?_eq lookup sheet),
    ← Phrase.traverse_traverse, ← Phrase.traverse_traverse]
  cases (p.traverse (Operand.resolve? lookup sheet)).bind
    (Phrase.traverse (Term.substitute? lookup sheet)) with
  | none => rfl
  | some q => exact Phrase.traverse_some Figure.value q

theorem toOption_evalBody (s : List Char) :
    (evalBody lookup sheet s).toOption = (resolveFrom lookup sheet none s).bind fun t =>
      (substituteFrom lookup sheet none t).bind fun t =>
        (checkAllowed (Decimal.pointed t)).toOption.bind fun _ =>
          (evalArithmetic (Decimal.pointed t)).toOption := by
  rw [evalBody, Arithmetic.toOption_bind, toOption_resolveAggregates]
  congr 1
  funext t
  rw [Arithmetic.toOption_bind, toOption_substituteReferences]
  congr 1
  funext t
  exact Arithmetic.toOption_bind _ _

/-- The value of the body of a formula that spells a phrase. -/
theorem toOption_evalBody_spell {p : Phrase Operand} (hp : p.WellFormed)
    {l : List (Symbol Operand)} (hl : Spells l p) :
    (evalBody lookup sheet (spell Operand.text l)).toOption =
      (p.traverse (Operand.worth? lookup sheet)).bind fun q =>
        if q.signs.Fits maxNesting then q.tree.eval.toOption else none := by
  rw [toOption_evalBody, traverse_worth?]
  cases hresolve : p.traverse (Operand.resolve? lookup sheet) with
  | none =>
    rw [hl.scan_eq_none (replaces_resolveFrom lookup sheet) hp hresolve]
    rfl
  | some p₁ =>
    have hp₁ := hp.traverse hresolve
    obtain ⟨l₁, hl₁, hscan₁⟩ := hl.exists_scan (replaces_resolveFrom lookup sheet) hp hresolve
    rw [hscan₁, Option.bind_some, Option.bind_some]
    cases hsubstitute : p₁.traverse (Term.substitute? lookup sheet) with
    | none =>
      rw [hl₁.scan_eq_none (replaces_substituteFrom lookup sheet) hp₁ hsubstitute]
      rfl
    | some p₂ =>
      obtain ⟨l₂, hl₂, hscan₂⟩ :=
        hl₁.exists_scan (replaces_substituteFrom lookup sheet) hp₁ hsubstitute
      rw [hscan₂, Option.bind_some, Option.map_some, Option.bind_some]
      exact toOption_evalFigures (hp₁.traverse hsubstitute) hl₂

theorem trim_eq_cons {s : List Char} : Text.trim ('=' :: s) = '=' :: Text.trimEnd s := by
  have hb : Text.isBlank '=' = false := rfl
  rw [Text.trim, Text.trimStart_cons_of_not_isBlank hb, Text.trimEnd, Text.trimEnd,
    List.reverse_cons, List.dropWhile_append]
  split
  · rename_i h
    rw [List.isEmpty_iff.1 h]
    rfl
  · rw [List.reverse_append]
    rfl

/-- A text whose first character that is not blank is an equals sign is a formula. -/
theorem exists_body? {formula : String}
    (h : (Text.trimStart formula.toList).head? = some '=') : ∃ s, body? formula = some s := by
  obtain ⟨r, hr⟩ := List.head?_eq_some_iff.1 h
  have htrim : Text.trim formula.toList = '=' :: Text.trimEnd r := by
    rw [← trim_eq_cons, Text.trim, Text.trim, hr, Text.trimStart_cons_of_not_isBlank rfl]
  rw [body?, Reference.formulaText?, htrim]
  exact ⟨_, rfl⟩

theorem exists_trim_of_body? {formula : String} {body : List Char}
    (h : body? formula = some body) :
    ∃ text, Text.trim formula.toList = '=' :: text ∧ body = Text.trim text := by
  obtain ⟨text, ht, rfl⟩ := Option.map_eq_some_iff.1 h
  rw [Reference.formulaText?] at ht
  split at ht
  · rename_i r hr
    cases ht
    exact ⟨_, hr, rfl⟩
  · cases ht

theorem mem_of_mem_body? {formula : String} {body : List Char} (h : body? formula = some body)
    {c : Char} (hc : c ∈ body) : c ∈ formula.toList := by
  obtain ⟨text, ht, rfl⟩ := exists_trim_of_body? h
  refine Text.mem_of_mem_trim ?_
  rw [ht]
  exact List.mem_cons_of_mem '=' (Text.mem_of_mem_trim hc)

theorem exists_body?_spell {p : Phrase Operand} {l : List (Symbol Operand)} (hl : Spells l p) :
    ∃ l', Spells l' p ∧ body? (String.ofList ('=' :: spell Operand.text l)) =
      some (spell Operand.text l') := by
  obtain ⟨l₁, hu, h₁⟩ := exists_trimEnd_spell Operand.solid_text l
  obtain ⟨l₂, hl₂, h₂⟩ := Spells.trim Operand.solid_text (show Spells l₁ p from hu.trans hl)
  refine ⟨l₂, hl₂, ?_⟩
  rw [body?, Reference.formulaText?, String.toList_ofList, trim_eq_cons, h₁]
  exact congrArg some h₂

theorem evaluate_of_body? {formula : String} {s : List Char} (h : body? formula = some s) :
    evaluate lookup sheet formula =
      match (evalBody lookup sheet s).toOption with
      | some x => .number x
      | none => .null := by
  rw [evaluate, tryEvaluate, h]
  simp only
  cases evalBody lookup sheet s <;> rfl

theorem cellWorth?_eq_none_iff {q : Qualifier} {l : Label} :
    cellWorth? lookup sheet q l = none ↔
      lookup (l.place.key (q.sheet.getD sheet)) = none ∨
        lookup (l.place.key (q.sheet.getD sheet)) = some .null := by
  rw [cellWorth?]
  cases lookup (l.place.key (q.sheet.getD sheet)) with
  | none => simp
  | some v => cases v <;> simp [Value.isNull]

theorem callWorth?_eq_none_iff {c : Call.Written} :
    callWorth? lookup sheet c = none ↔
      ∃ r, c.argument.target = .range r ∧ Range.maxCells < r.cellCount := by
  rw [callWorth?, Option.map_eq_none_iff, Reference.keys?, Option.map_eq_none_iff]
  show c.argument.target.cells? = none ↔ _
  cases c.argument.target with
  | cell d => simp [Target.cells?]
  | range r => simp [Target.cells?, Range.cells?]

/-- A formula computes the phrase that it spells: references stand for the numbers that are looked
up, calls for the aggregates of the numbers in their ranges. It is null exactly if a reference has
no value, a range is too large, a limit is passed, or arithmetic has no result. -/
theorem evaluate_spell {p : Phrase Operand} (hp : p.WellFormed) {l : List (Symbol Operand)}
    (hl : Spells l p) :
    (evaluate lookup sheet (String.ofList ('=' :: spell Operand.text l)) =
      match p.traverse (Operand.worth? lookup sheet) with
      | none => .null
      | some q =>
        if q.signs.Fits maxNesting then
          match q.tree.eval with
          | .ok x => .number x
          | .error _ => .null
        else .null) ∧
    (evaluate lookup sheet (String.ofList ('=' :: spell Operand.text l)) = .null ↔
      (∃ q l, .cell q l ∈ p.operands ∧
        (lookup (l.place.key (q.sheet.getD sheet)) = none ∨
          lookup (l.place.key (q.sheet.getD sheet)) = some .null)) ∨
      (∃ c r, .call c ∈ p.operands ∧ c.argument.target = .range r ∧
        Range.maxCells < r.cellCount) ∨
      ∃ q, p.traverse (Operand.worth? lookup sheet) = some q ∧
        (¬ q.signs.Fits maxNesting ∨ ∃ fault, q.tree.eval = .error fault)) := by
  obtain ⟨l', hl', hbody⟩ := exists_body?_spell hl
  rw [evaluate_of_body? lookup sheet hbody, toOption_evalBody_spell lookup sheet hp hl']
  cases hq : p.traverse (Operand.worth? lookup sheet) with
  | none =>
    refine ⟨rfl, fun _ => ?_, fun _ => rfl⟩
    obtain ⟨a, ha, hnone⟩ := Phrase.traverse_eq_none_iff.1 hq
    cases a with
    | numeral n => cases hnone
    | cell q l => exact Or.inl ⟨q, l, ha, (cellWorth?_eq_none_iff lookup sheet).1 hnone⟩
    | call c =>
      obtain ⟨r, hr, hsize⟩ := (callWorth?_eq_none_iff lookup sheet).1 hnone
      exact Or.inr (Or.inl ⟨c, r, ha, hr, hsize⟩)
  | some q =>
    have hworth : ∀ a ∈ p.operands, a.worth? lookup sheet ≠ none := by
      intro a ha hnone
      rw [Phrase.traverse_eq_none_iff.2 ⟨a, ha, hnone⟩] at hq
      cases hq
    rw [Option.bind_some]
    constructor
    · by_cases hf : q.signs.Fits maxNesting
      · rw [if_pos hf]
        simp only [if_pos hf]
        cases q.tree.eval <;> rfl
      · rw [if_neg hf]
        simp only [if_neg hf]
    · constructor
      · intro hnull
        refine Or.inr (Or.inr ⟨q, rfl, ?_⟩)
        by_cases hf : q.signs.Fits maxNesting
        · rw [if_pos hf] at hnull
          cases he : q.tree.eval with
          | error fault => exact Or.inr ⟨fault, rfl⟩
          | ok x =>
            rw [he] at hnull
            cases hnull
        · exact Or.inl hf
      · rintro (⟨s, l, ha, hnone⟩ | ⟨c, r, ha, hr, hsize⟩ | ⟨q', hq', hfault⟩)
        · exact absurd ((cellWorth?_eq_none_iff lookup sheet).2 hnone) (hworth _ ha)
        · exact absurd ((callWorth?_eq_none_iff lookup sheet).2 ⟨r, hr, hsize⟩) (hworth _ ha)
        · cases hq'
          rcases hfault with hf | ⟨fault, he⟩
          · rw [if_neg hf]
          · rw [he]
            by_cases hf : q.signs.Fits maxNesting
            · rw [if_pos hf]
              rfl
            · rw [if_neg hf]

/-- A sum over a range on a quoted sheet, multiplied by a negative number behind a minus sign. -/
theorem evaluate_spell_sum :
    ∃ (p : Phrase Operand) (l : List (Symbol Operand)), p.WellFormed ∧ Spells l p ∧
      String.ofList ('=' :: spell Operand.text l) = "= 2,5 - Sum ('a''b'!A1:B2 )* -c3" ∧
      evaluate (fun key => if key = "a'b!B1" then some (.text "4") else
          if key = "S!C3" then some (.number (-3)) else none) "S"
        "= 2,5 - Sum ('a''b'!A1:B2 )* -c3" = .number (-9.5) := by
  let two : Operand := .numeral ⟨['2'], some ',', ['5'], List.all_eq_true.1 rfl,
    List.all_eq_true.1 rfl, by simp, by simp, by simp⟩
  let total : Operand := .call ⟨.sum, ['S', 'u', 'm'], rfl,
    ⟨.quoted ['a', '\'', 'b'] (by simp) (by simp), ⟨['A'], ['1'], ⟨1, 1⟩, rfl⟩,
      some ⟨['B'], ['2'], ⟨2, 2⟩, rfl⟩⟩, [' '], [], [' '], List.all_eq_true.1 rfl,
    List.all_eq_true.1 rfl, List.all_eq_true.1 rfl⟩
  let cell : Operand := .cell .none ⟨['c'], ['3'], ⟨3, 3⟩, rfl⟩
  let p : Phrase Operand :=
    .binary '-' (.operand two) (.binary '*' (.operand total) (.sign '-' (.operand cell)))
  let l : List (Symbol Operand) := [.mark ' ', .operand two, .mark ' ', .mark '-', .mark ' ',
    .operand total, .mark '*', .mark ' ', .mark '-', .operand cell]
  have hp : p.WellFormed := by
    refine ⟨Or.inr ⟨rfl, by decide⟩, trivial, Or.inl ⟨rfl, by decide, rfl⟩, trivial, rfl, rfl, ?_⟩
    exact trivial
  have hl : Spells l p := rfl
  have htext : String.ofList ('=' :: spell Operand.text l) =
      "= 2,5 - Sum ('a''b'!A1:B2 )* -c3" := by
    decide +kernel
  refine ⟨p, l, hp, hl, htext, ?_⟩
  rw [← htext, (evaluate_spell _ "S" hp hl).1]
  decide +kernel

end Recalc.Formula
