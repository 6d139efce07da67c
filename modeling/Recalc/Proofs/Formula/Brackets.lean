import Recalc.Proofs.Arithmetic.Grammar
import Recalc.Proofs.Formula.Dependencies
import Recalc.Proofs.Formula.Pipeline
import Recalc.Proofs.Reference.Spans
import Recalc.Proofs.Text.Parens

/-!
# Parentheses of formulas with a value

The parser closes every parenthesis that it opens (`openParens?_of_evalArithmetic`), and the phases
in front of it keep the parentheses of a text, but for those of the calls that they replace. The
argument of a call ends at the first closing parenthesis, and what it opens itself is never looked
at. So a formula with a value closes nothing that it did not open, and leaves open what the
arguments of its calls open (`nested_of_evaluate_eq_number`).
-/

namespace Recalc

open Text (parens openParens? isParen)

/-! ## Arithmetic -/

namespace Arithmetic

/-- The parenthesis of a token. -/
def Token.parens : Token → List Char
  | openParen => ['(']
  | closeParen => [')']
  | _ => []

/-- The tokens of a text have its parentheses. -/
theorem parens_of_tokensFrom {position : Nat} {s : List Char} {ts : List Token}
    (h : tokensFrom position s = .ok ts) : ts.flatMap Token.parens = parens s := by
  fun_induction tokensFrom position s generalizing ts with
  | case1 =>
    cases h
    rfl
  | case2 position c s hc ih =>
    rw [ih h, Text.parens_cons_of_not_isParen (Text.not_isParen_of_class rfl rfl hc)]
  | case3 position s _ ih =>
    obtain ⟨ts, hs, rfl⟩ := exists_of_map_eq_ok h
    exact congrArg ('(' :: ·) (ih hs)
  | case4 position s _ _ ih =>
    obtain ⟨ts, hs, rfl⟩ := exists_of_map_eq_ok h
    exact congrArg (')' :: ·) (ih hs)
  | case5 position c s _ _ _ hc ih =>
    obtain ⟨ts, hs, rfl⟩ := exists_of_map_eq_ok h
    rw [Text.parens_cons_of_not_isParen (Text.not_isParen_of_class rfl rfl hc), ← ih hs]
    rfl
  | case6 =>
    rename_i position c s _ _ _ _ hc run _ _ ih
    obtain ⟨ts, hs, rfl⟩ := exists_of_map_eq_ok h
    have hrun : parens (s.takeWhile isNumeric) = [] :=
      Text.parens_of_class rfl rfl (List.all_eq_true.1 List.all_takeWhile)
    have hwhole := Text.parens_append (s.takeWhile isNumeric) (s.dropWhile isNumeric)
    rw [List.takeWhile_append_dropWhile, hrun, List.nil_append] at hwhole
    rw [Text.parens_cons_of_not_isParen (Text.not_isParen_of_class rfl rfl hc), hwhole, ← ih hs]
    rfl
  | case7 => cases h
  | case8 => cases h

/-- A phrase closes what it opens. -/
theorem Phrase.WellFormed.openParens?_tokens {p : Phrase Float} (hp : p.WellFormed) (n : Nat) :
    openParens? n (p.tokens.flatMap Token.parens) = some n := by
  induction p generalizing n with
  | operand x => rfl
  | sign c e ih =>
    obtain ⟨hc, -, he⟩ := hp
    rw [Phrase.tokens_sign (Symbol.token_mark_of_isAdditive hc), List.flatMap_cons]
    exact ih he n
  | binary c l r ihl ihr =>
    obtain ⟨hc, hl, hr⟩ := hp
    have htoken : (Symbol.mark c).token = .operator c := by
      rcases hc with ⟨hc, -⟩ | ⟨hc, -⟩
      · exact Symbol.token_mark_of_isMultiplicative hc
      · exact Symbol.token_mark_of_isAdditive hc
    rw [Phrase.tokens_binary htoken, List.flatMap_append, List.flatMap_cons,
      Text.openParens?_append, ihl hl]
    exact ihr hr n
  | group e ih =>
    rw [Phrase.tokens_group, List.flatMap_cons, List.flatMap_append]
    show openParens? (n + 1) (e.tokens.flatMap Token.parens ++ [')']) = some n
    rw [Text.openParens?_append, ih hp]
    rfl

end Arithmetic

namespace Formula
variable {lookup : Lookup} {sheet : String}

/-- A text closes what it opens if it is arithmetic with a value. -/
theorem openParens?_of_evalArithmetic {s : List Char} {x : Float}
    (h : (evalArithmetic s).toOption = some x) (n : Nat) : openParens? n s = some n := by
  rw [toOption_evalArithmetic] at h
  obtain ⟨ts, hts, h⟩ := Option.bind_eq_some_iff.1 h
  obtain ⟨e, he, -⟩ := Option.bind_eq_some_iff.1 h
  obtain ⟨p, hp, rfl⟩ := Arithmetic.exists_wellFormed_of_parse (Arithmetic.eq_ok_of_toOption he)
  have hparens := Arithmetic.parens_of_tokensFrom (Arithmetic.eq_ok_of_toOption hts)
  rw [← Text.openParens?_parens, ← hparens]
  exact hp.openParens?_tokens n

/-! ## Numbers and references -/

theorem parens_numberText (x : Float) : parens (numberText x) = [] := by
  rcases numberText_cases x with ⟨-, n, hn, -, -⟩ | ⟨-, h | h | h⟩
  · have hsign : parens (if Binary64.isNegative x then ['-'] else []) = [] := by
      split <;> rfl
    have hdigits : parens n.text = [] := Text.parens_eq_nil fun c hc =>
      class_of_mem_numeral (fun d hd => Text.not_isParen_of_class rfl rfl hd) rfl rfl hc
    rw [hn, Text.parens_append, hsign, hdigits]
    rfl
  all_goals
    rw [h]
    rfl

theorem parens_targetText {t : Target} {text : List Char} (h : Reference.TargetText t text) :
    parens text = [] := by
  refine Text.parens_eq_nil fun c hc => Text.not_isParen_iff.2 ⟨?_, ?_⟩
  · rintro rfl
    exact h.not_mem rfl rfl (by decide) hc
  · rintro rfl
    exact h.not_mem rfl rfl (by decide) hc

/-- A reference without quotes is written without parentheses. -/
theorem parens_of_read? {before : Option Char} {t rest : List Char} {r : Reference}
    (h : Reference.read? before (t ++ rest) = some (r, rest)) (hq : '\'' ∉ t) :
    parens t = [] := by
  obtain ⟨front, places, hfront, hs, hplaces⟩ := Reference.exists_sheetText_of_read? h
  obtain ⟨text, htext, rfl, -⟩ := Reference.exists_targetText_of_readTarget? hplaces
  rw [← List.append_assoc] at hs
  obtain rfl := List.append_cancel_right hs
  rw [Text.parens_append, parens_targetText htext, List.append_nil]
  generalize r.sheet = sheet at hfront
  cases hfront with
  | none => rfl
  | @plain name _ _ hchars =>
    rw [Text.parens_append, Text.parens_of_class rfl rfl hchars]
    rfl
  | quoted => exact absurd (List.mem_append_left _ (List.mem_cons_self ..)) hq

theorem exists_numberText_of_referenceText {r : Reference} {text t : List Char}
    (h : (referenceText lookup sheet (.found r text)).toOption = some t) :
    ∃ x, t = numberText x := by
  rw [referenceText] at h
  split at h
  · cases h
  · rename_i c _
    rw [Arithmetic.toOption_bind] at h
    obtain ⟨x, -, h⟩ := Option.bind_eq_some_iff.1 h
    exact ⟨x, (Option.some.inj h).symm⟩

/-- Numbers in the place of references leave the parentheses of a text as they are. -/
theorem parens_substituteFrom {before : Option Char} {s t : List Char}
    (h : substituteFrom lookup sheet before s = some t) (hq : '\'' ∉ s) :
    parens t = parens s := by
  induction before, s using Reference.read_induction generalizing t with
  | hnil b =>
    rw [substituteFrom, Reference.Piece.splitAfter] at h
    cases h
    rfl
  | hgap b c r hread ih =>
    rw [List.mem_cons, not_or] at hq
    rw [substituteFrom_gap lookup sheet hread] at h
    obtain ⟨u, hu, rfl⟩ := Option.map_eq_some_iff.1 h
    rw [Text.parens_cons, ih hu hq.2, ← Text.parens_cons]
  | hfound b u rest ref hu hread ih =>
    rw [List.mem_append, not_or] at hq
    rw [substituteFrom, Reference.Piece.splitAfter_found hu hread, joined_cons] at h
    obtain ⟨number, hnumber, h⟩ := Option.bind_eq_some_iff.1 h
    obtain ⟨v, hv, rfl⟩ := Option.map_eq_some_iff.1 h
    obtain ⟨x, rfl⟩ := exists_numberText_of_referenceText hnumber
    rw [Text.parens_append, Text.parens_append, parens_numberText,
      parens_of_read? hread hq.1, ih hv hq.2]

/-! ## Calls -/

/-- A call opens what its argument opens and does not close. -/
theorem openParens?_isCall {argument text : List Char} (h : Call.IsCall argument text) (n : Nat) :
    openParens? n text = some (n + argument.count '(') := by
  cases h with
  | @intro name outer inner _ hname hblank hclose =>
    have hfront : parens (name ++ (outer ++ '(' :: (inner ++ [')']))) =
        parens ('(' :: (inner ++ [')'])) := by
      rw [Text.parens_append, Text.parens_append, Text.parens_of_class rfl rfl hname,
        Text.parens_of_class rfl rfl hblank]
      rfl
    have hcount : (Text.trim inner).count '(' = inner.count '(' := by
      rw [← Text.count_open_parens, Text.parens_trim, Text.count_open_parens]
    rw [Text.openParens?_congr hfront, hcount, Text.openParens?_cons]
    show openParens? (n + 1) (inner ++ [')']) = _
    rw [Text.openParens?_append, Text.openParens?_of_not_mem hclose, Nat.add_right_comm]
    rfl

/-- The parentheses that the arguments of calls open and do not close. -/
def unclosed (sites : List Call.Site) : Nat :=
  (sites.map fun c => c.argument.count '(').sum

namespace Resolved
variable {pieces : List Call.Piece} {t v : List Char}

/-- With its calls, a text leaves open what their arguments open. -/
theorem openParens? (h : Resolved pieces t)
    (hs : ∀ c ∈ Call.Site.ofPieces v pieces, Call.IsCall c.argument c.text) {n m : Nat}
    (ht : Text.openParens? n t = some m) :
    Text.openParens? n (pieces.flatMap Call.Piece.text) =
      some (m + unclosed (Call.Site.ofPieces v pieces)) := by
  induction h generalizing v n m with
  | nil => exact ht
  | @kept p pieces t hp _ ih =>
    rw [Call.Site.ofPieces_kept hp] at hs ⊢
    rw [Text.openParens?_append] at ht
    obtain ⟨k, hk, ht⟩ := Option.bind_eq_some_iff.1 ht
    rw [List.flatMap_cons, Text.openParens?_append, hk]
    exact ih hs ht
  | @call f argument text pieces t x _ ih =>
    obtain ⟨hcall, hs⟩ := List.forall_mem_cons.1 hs
    have hnumber : parens (numberText x ++ t) = parens t := by
      rw [Text.parens_append, parens_numberText]
      rfl
    rw [Text.openParens?_congr hnumber] at ht
    have htext : Text.openParens? n (Call.Piece.call f argument text).text =
        some (n + argument.count '(') :=
      openParens?_isCall hcall n
    have hunclosed : unclosed (Call.Site.ofPieces v (.call f argument text :: pieces)) =
        argument.count '(' + unclosed (Call.Site.ofPieces (v ++ text) pieces) :=
      List.sum_cons
    rw [List.flatMap_cons, Text.openParens?_append, htext, Option.bind_some,
      Text.openParens?_add (ih hs ht), hunclosed, Nat.add_comm (argument.count '('),
      Nat.add_assoc]

end Resolved

/-! ## Formulas -/

theorem parens_pointed (s : List Char) : parens (Decimal.pointed s) = parens s := by
  induction s with
  | nil => rfl
  | cons c s ih =>
    have hc : parens [if c = ',' then '.' else c] = parens [c] := by
      split
      · rename_i h
        rw [h]
        rfl
      · rfl
    rw [Decimal.pointed, List.map_cons, Text.parens_cons, hc, Text.parens_cons c s]
    exact congrArg _ ih

/-- A body with a value leaves open what the arguments of its calls open and do not close. -/
theorem openParens?_of_evalBody {body : List Char} {x : Float}
    (h : (evalBody lookup sheet body).toOption = some x) (hq : '\'' ∉ body) :
    openParens? 0 body = some (unclosed (Call.sites body)) := by
  rw [toOption_evalBody] at h
  obtain ⟨t, ht, h⟩ := Option.bind_eq_some_iff.1 h
  obtain ⟨u, hu, h⟩ := Option.bind_eq_some_iff.1 h
  obtain ⟨-, -, h⟩ := Option.bind_eq_some_iff.1 h
  rw [← toOption_resolveAggregates] at ht
  have hresolved := resolved_of_resolveAggregates (Arithmetic.eq_ok_of_toOption ht)
  have hquote : '\'' ∉ t := hresolved.not_mem
    (fun x => (inert_reference_number x).noQuote) (by rwa [flatMap_text_split])
  have hparens : parens (Decimal.pointed u) = parens t :=
    (parens_pointed u).trans (parens_substituteFrom hu hquote)
  have hcalls : ∀ c ∈ Call.Site.ofPieces [] (Call.Piece.split body),
      Call.IsCall c.argument c.text := fun c hc => ((Call.splitAfter_spec body []).2 c hc).1
  have hopen : openParens? 0 t = some 0 := by
    rw [← Text.openParens?_congr hparens]
    exact openParens?_of_evalArithmetic h 0
  have hbody := hresolved.openParens? hcalls hopen
  rwa [flatMap_text_split, Nat.zero_add] at hbody

theorem parens_of_body? {formula : String} {body : List Char} (h : body? formula = some body) :
    parens body = parens formula.toList := by
  obtain ⟨text, ht, rfl⟩ := exists_trim_of_body? h
  rw [Text.parens_trim, ← Text.parens_trim formula.toList, ht]
  rfl

/-- If a formula without quotes has a value, no beginning of it closes a parenthesis that was not
opened, and all that it leaves open is what the arguments of its calls open. -/
theorem nested_of_evaluate_eq_number {formula : String} {x : Float}
    (hf : (Text.trimStart formula.toList).head? = some '=') (hq : '\'' ∉ formula.toList)
    (hv : evaluate lookup sheet formula = .number x) :
    (∀ t, t <+: formula.toList → t.count ')' ≤ t.count '(') ∧
      formula.toList.count '(' = formula.toList.count ')' + unclosed (callSites formula) := by
  obtain ⟨body, hb⟩ := exists_body? hf
  rw [evaluate_of_body? lookup sheet hb] at hv
  cases hvalue : (evalBody lookup sheet body).toOption with
  | none =>
    rw [hvalue] at hv
    cases hv
  | some y =>
    have hquote : '\'' ∉ body := fun hmem => hq (mem_of_mem_body? hb hmem)
    have hopen := openParens?_of_evalBody hvalue hquote
    rw [Text.openParens?_congr (parens_of_body? hb)] at hopen
    obtain ⟨hle, heq⟩ := Text.count_le_of_openParens? hopen
    have hsites : callSites formula = Call.sites body := by
      rw [callSites, hb]
    rw [hsites]
    refine ⟨fun t ht => ?_, ?_⟩
    · have ht := hle t ht
      rwa [Nat.zero_add] at ht
    · omega

/-- A group around two calls, the argument of one of which opens a parenthesis. -/
theorem nested_average :
    (Text.trimStart "=(SUM(A1:A2) - AVERAGE( (B1 ))*2".toList).head? = some '=' ∧
    '\'' ∉ "=(SUM(A1:A2) - AVERAGE( (B1 ))*2".toList ∧
    evaluate (fun _ => some (.number 4)) "S" "=(SUM(A1:A2) - AVERAGE( (B1 ))*2" = .number 8 ∧
    unclosed (callSites "=(SUM(A1:A2) - AVERAGE( (B1 ))*2") = 1 ∧
    (∀ t, t <+: "=(SUM(A1:A2) - AVERAGE( (B1 ))*2".toList → t.count ')' ≤ t.count '(') ∧
    "=(SUM(A1:A2) - AVERAGE( (B1 ))*2".toList.count '(' =
      "=(SUM(A1:A2) - AVERAGE( (B1 ))*2".toList.count ')' +
        unclosed (callSites "=(SUM(A1:A2) - AVERAGE( (B1 ))*2") := by
  have hf : (Text.trimStart "=(SUM(A1:A2) - AVERAGE( (B1 ))*2".toList).head? = some '=' := by
    decide +kernel
  have hq : '\'' ∉ "=(SUM(A1:A2) - AVERAGE( (B1 ))*2".toList := by decide +kernel
  have hv : evaluate (fun _ => some (.number 4)) "S" "=(SUM(A1:A2) - AVERAGE( (B1 ))*2" =
      .number 8 := by
    decide +kernel
  exact ⟨hf, hq, hv, by decide +kernel, nested_of_evaluate_eq_number hf hq hv⟩

/-- The argument of a call may open a parenthesis that nothing closes. -/
theorem not_balanced_openArgument :
    '\'' ∉ "=SUM((A1)".toList ∧
    evaluate (fun _ => none) "S" "=SUM((A1)" = .number 0 ∧
    "=SUM((A1)".toList.count '(' ≠ "=SUM((A1)".toList.count ')' := by
  decide +kernel

end Formula

end Recalc
