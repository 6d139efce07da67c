import Recalc.Proofs.Formula.Depends
import Recalc.Proofs.Formula.Operand
import Recalc.Proofs.Formula.Sites
import Recalc.Proofs.Text.Distinct

/-!
# Reported dependencies

The dependencies of a formula are read off its text, but its references are replaced only after its
calls are. A call between quotes, or in front of digits or a sheet name, so becomes part of a
reference that the text does not hold (`not_dependsOn_quotedCall`). Where each call is `Detached`
from what stands around it, no reference appears that was not there, and the formula depends on its
reported dependencies only (`dependsOn_dependencies`).
-/

namespace Recalc

open Reference (Parted Ends allAfter)

theorem Reference.mem_dependencies_iff {formula sheet k : String} {text : List Char}
    (ht : formulaText? formula = some text) : k ∈ dependencies formula sheet ↔
      ∃ r ∈ all text, k ∈ (r.keys? sheet).getD [] := by
  rw [dependencies, ht, Text.mem_distinct, List.mem_flatMap]

/-! ## Cuts around a number -/

namespace Formula

theorem exists_numberText_eq_cons (x : Float) :
    ∃ c r, numberText x = c :: r ∧ Text.isBlank c = false ∧ c ≠ ':' := by
  rcases numberText_cases x with ⟨-, n, hn, -, -⟩ | ⟨-, h | h | h⟩
  · by_cases hx : Binary64.isNegative x = true
    · rw [if_pos hx] at hn
      exact ⟨'-', n.text, hn, rfl, by decide⟩
    · rw [if_neg hx] at hn
      obtain ⟨c, r, hc⟩ := List.exists_cons_of_ne_nil (numeral_text_ne_nil n)
      have hmem : c ∈ n.text := hc ▸ List.mem_cons_self ..
      have hblank := class_of_mem_numeral (fun _ => isBlank_of_isDigit) rfl rfl hmem
      refine ⟨c, r, hn.trans hc, hblank, ?_⟩
      rintro rfl
      rcases isDigit_or_mark_of_mem_numeral hmem with h | h | h <;> cases h
  · exact ⟨'N', _, h, rfl, by decide⟩
  · exact ⟨'i', _, h, rfl, by decide⟩
  · exact ⟨'-', _, h, rfl, by decide⟩

theorem parted_numberText {last : Option Char} (hlast : ∀ c ∈ last, c.isAlphanum = false)
    (x : Float) {rest : List Char} (hr : Ends rest) : Parted last (numberText x ++ rest) := by
  have hinert := inert_reference_number x
  have hne := numberText_ne_nil x
  obtain ⟨c, r, hcons, hblank, hcolon⟩ := exists_numberText_eq_cons x
  have htrim : Text.trimStart (numberText x ++ rest) = numberText x ++ rest := by
    rw [hcons]
    exact Text.trimStart_cons_of_not_isBlank hblank
  have hhead : (numberText x ++ rest).head? = some c := by
    rw [hcons]
    rfl
  refine ⟨Or.inl hlast, ?_, ?_, ?_, ?_⟩
  · rw [htrim, hhead]
    rintro ⟨⟩
    exact hcolon rfl
  · rw [htrim]
    exact hinert.readCoordinate?_eq_none hne hr.isWord_head
  · rw [hhead]
    rintro ⟨⟩
    exact hinert.noQuote (hcons ▸ List.mem_cons_self ..)
  · exact Reference.head_dropWhile_isNameChar_ne hinert.noBang hr.head_dropWhile

/-! ## References of the text with numbers for calls -/

/-- What the pieces of a text become when some number stands for each call. -/
inductive Resolved : List Call.Piece → List Char → Prop
  | nil : Resolved [] []
  | kept {p : Call.Piece} {pieces : List Call.Piece} {t : List Char}
      (hp : ∀ f argument text, p ≠ .call f argument text) (h : Resolved pieces t) :
      Resolved (p :: pieces) (p.text ++ t)
  | call {f : Aggregate} {argument text : List Char} {pieces : List Call.Piece} {t : List Char}
      (x : Float) (h : Resolved pieces t) :
      Resolved (.call f argument text :: pieces) (numberText x ++ t)

variable {lookup : Lookup} {sheet : String}

theorem resolved_of_mapM {pieces : List Call.Piece} {ts : List (List Char)}
    (h : pieces.mapM (callText lookup sheet) = .ok ts) : Resolved pieces ts.flatten := by
  induction pieces generalizing ts with
  | nil =>
    cases h
    exact .nil
  | cons p pieces ih =>
    obtain ⟨t, ts', hp, hs, rfl⟩ := mapM_cons_eq_ok_iff.1 h
    have hrest := ih hs
    cases p with
    | char c =>
      cases hp
      exact .kept (fun _ _ _ h => by cases h) hrest
    | lookalike u =>
      cases hp
      exact .kept (fun _ _ _ h => by cases h) hrest
    | call f argument text =>
      obtain ⟨values, -, hp⟩ := bind_eq_ok_iff.1 hp
      cases hp
      exact .call _ hrest

theorem resolved_of_resolveAggregates {body t : List Char}
    (h : resolveAggregates lookup sheet body = .ok t) : Resolved (Call.Piece.split body) t := by
  obtain ⟨ts, hts, h⟩ := bind_eq_ok_iff.1 h
  cases h
  exact resolved_of_mapM hts

namespace Resolved
variable {pieces : List Call.Piece} {t v : List Char} {before before' : Option Char}

/-- A character that no number is written with does not come in with the numbers. -/
theorem not_mem (h : Resolved pieces t) {d : Char} (hd : ∀ x, d ∉ numberText x)
    (hp : d ∉ pieces.flatMap Call.Piece.text) : d ∉ t := by
  induction h with
  | nil => exact hp
  | kept _ _ ih =>
    rw [List.flatMap_cons, List.mem_append, not_or] at hp
    rw [List.mem_append, not_or]
    exact ⟨hp.1, ih hp.2⟩
  | call x _ ih =>
    rw [List.flatMap_cons, List.mem_append, not_or] at hp
    rw [List.mem_append, not_or]
    exact ⟨hd x, ih hp.2⟩

/-- What may stand behind a call may stand there with numbers for the calls. -/
theorem ends (h : Resolved pieces t) (hs : ∀ c ∈ Call.Site.ofPieces v pieces, c.Apart before)
    (he : Ends (v ++ pieces.flatMap Call.Piece.text)) : Ends (v ++ t) := by
  induction h generalizing v before with
  | nil => exact he
  | @kept p pieces t hp h ih =>
    rw [Call.Site.ofPieces_kept hp] at hs
    rw [← List.append_assoc]
    refine ih hs ?_
    rwa [List.append_assoc, ← List.flatMap_cons]
  | @call f argument text pieces t x h ih =>
    have hcall := hs _ (List.mem_cons_self ..)
    have ht : Ends t := ih (v := []) (Call.Site.Apart.behind hs) hcall.ends
    have hbang := Reference.head_dropWhile_isNameChar_ne (inert_reference_number x).noBang
      ht.head_dropWhile
    by_cases hv : v = []
    · subst hv
      obtain ⟨d, r, htext, hletter⟩ := hcall.isCall.head
      have hhead : ([] ++ (text ++ pieces.flatMap Call.Piece.text)).head? = some d := by
        rw [show text = d :: r from htext]
        rfl
      have hword := he.isWord_head d hhead
      rw [Call.isWord_of_isLetter hletter] at hword
      cases hword
    · exact he.exchange hv hbang

/-- A reference that is there once numbers stand for the calls was there before. -/
theorem mem_allAfter (h : Resolved pieces t)
    (hs : ∀ c ∈ Call.Site.ofPieces v pieces, c.Apart before)
    (hb : before' = before ∨ Ends (v ++ pieces.flatMap Call.Piece.text)) {r : Reference}
    (hr : r ∈ allAfter before' (v ++ t)) :
    r ∈ allAfter before (v ++ pieces.flatMap Call.Piece.text) := by
  induction h generalizing v before before' with
  | nil =>
    rw [List.append_nil] at hr
    rwa [List.flatMap_nil, List.append_nil, allAfter,
      ← Reference.Piece.splitAfter_of_eq_or_ends hb]
  | @kept p pieces t hp h ih =>
    rw [Call.Site.ofPieces_kept hp] at hs
    rw [List.flatMap_cons, ← List.append_assoc] at hb ⊢
    rw [← List.append_assoc] at hr
    exact ih hs hb hr
  | @call f argument text pieces t x h ih =>
    have hcall := hs _ (List.mem_cons_self ..)
    have hbehind := Call.Site.Apart.behind hs
    have hends : Ends t := h.ends (v := []) hbehind hcall.ends
    have hparted := parted_numberText hcall.isAlphanum_last x hends
    have hv := Reference.Piece.splitAfter_of_eq_or_ends hb
    have hquoted : Reference.Piece.Quoted before' v := by
      rw [Reference.Piece.Quoted, hv]
      exact hcall.front
    rw [Reference.mem_allAfter_append hparted (Or.inr hquoted),
      Reference.mem_allAfter_inert (inert_reference_number x) hends, allAfter, hv] at hr
    rcases hr with hr | hr
    · exact hcall.mem_of_front hr
    · exact hcall.mem_of_after (ih (v := []) hbehind (Or.inr hcall.ends) hr)

end Resolved

/-! ## Formulas -/

/-- The calls of a formula. -/
def callSites (formula : String) : List Call.Site :=
  match body? formula with
  | some body => Call.sites body
  | none => []

theorem apart_of_detached {body : List Char} (h : ∀ c ∈ Call.sites body, c.Detached none) :
    ∀ c ∈ Call.sites body, c.Apart none := by
  intro c hc
  obtain ⟨hcall, hlast⟩ := (Call.splitAfter_spec body []).2 c hc
  exact ⟨h c hc, hcall, hlast⟩

theorem flatMap_text_split (body : List Char) :
    (Call.Piece.split body).flatMap Call.Piece.text = body :=
  (Call.splitAfter_spec body []).1

/-- If no call of a formula mixes with the text around it, the formula depends on what its
aggregates cover and on the cells that it refers to itself. -/
theorem dependsOn_of_detached {K : Set String} {formula : String}
    (h : ∀ c ∈ callSites formula, c.Detached none)
    (ha : ∀ k ∈ aggregateKeys sheet formula, k ∈ K)
    (hr : ∀ body ∈ body? formula, ∀ r ∈ Reference.all body, ∀ k ∈ (r.keys? sheet).getD [], k ∈ K) :
    DependsOn K sheet formula := by
  cases hb : body? formula with
  | none =>
    intro l l' _
    rw [evaluate, evaluate, tryEvaluate, tryEvaluate, hb]
  | some body =>
    rw [callSites, hb] at h
    refine dependsOn_of_keys hb ha fun l t ht r hmem c hc => ?_
    have hall := (resolved_of_resolveAggregates ht).mem_allAfter (v := []) (apart_of_detached h)
      (Or.inl rfl) hmem
    rw [List.nil_append, flatMap_text_split] at hall
    refine hr body hb r hall _ ?_
    rw [Reference.keys?, hc]
    exact List.mem_singleton_self _

/-- If no call of a formula mixes with the text around it, the formula depends on no cell but its
reported dependencies. -/
theorem dependsOn_dependencies {formula : String} (h : ∀ c ∈ callSites formula, c.Detached none)
    (sheet : String) :
    DependsOn {k | k ∈ Reference.dependencies formula sheet} sheet formula := by
  cases hb : body? formula with
  | none =>
    intro l l' _
    rw [evaluate, evaluate, tryEvaluate, tryEvaluate, hb]
  | some body =>
    obtain ⟨text, ht, rfl⟩ := Option.map_eq_some_iff.1 hb
    rw [callSites, hb] at h
    have hapart := apart_of_detached h
    -- what the body refers to, the text behind the equals sign refers to
    have hmem : ∀ r ∈ Reference.all (Text.trim text), ∀ keys, r.keys? sheet = some keys →
        ∀ k ∈ keys, k ∈ Reference.dependencies formula sheet := by
      intro r hr keys hkeys k hk
      refine (Reference.mem_dependencies_iff ht).2
        ⟨r, Reference.mem_allAfter_of_mem_all_trim opened_none hr, ?_⟩
      rw [hkeys]
      exact hk
    refine dependsOn_of_keys hb ?_ ?_
    · intro k hk
      rw [aggregateKeys, hb] at hk
      obtain ⟨p, hp, hk⟩ := List.mem_flatMap.1 hk
      cases p with
      | char c => cases hk
      | lookalike t => cases hk
      | call f argument t =>
        obtain ⟨c, hc, rfl⟩ := Call.Site.exists_mem_ofPieces hp []
        obtain ⟨r, keys, hr, hkeys, hk⟩ := exists_keys_of_mem_argumentKeys hk
        have hall := (hapart c hc).mem_of_argument (Reference.mem_all_of_ofArgument? hr)
        rw [Call.Site.append_eq_of_mem_ofPieces hc, flatMap_text_split] at hall
        exact hmem r hall keys hkeys k hk
    · intro l t ht r hr c hc
      have hresolved := resolved_of_resolveAggregates ht
      have hall := hresolved.mem_allAfter (v := []) hapart (Or.inl rfl) hr
      rw [List.nil_append, flatMap_text_split] at hall
      refine hmem r hall [c.key (r.sheetFrom sheet)] ?_ _ (List.mem_singleton_self _)
      rw [Reference.keys?, hc]
      rfl

/-- A reference to a quoted sheet, a call about another one, and a call behind it. -/
theorem dependsOn_dependencies_sums :
    (∀ c ∈ callSites "='A''B'!A1 - SUM('x'!B1:B2)*2 + Average( C1 )", c.Detached none) ∧
    DependsOn
      {k | k ∈ Reference.dependencies "='A''B'!A1 - SUM('x'!B1:B2)*2 + Average( C1 )" "S"} "S"
      "='A''B'!A1 - SUM('x'!B1:B2)*2 + Average( C1 )" := by
  have h : ∀ c ∈ callSites "='A''B'!A1 - SUM('x'!B1:B2)*2 + Average( C1 )",
      c.Detached none := by
    decide +kernel
  exact ⟨h, dependsOn_dependencies h "S"⟩

/-- A call between the quotes of a sheet name is replaced all the same, so a cell of the sheet `0`
is read that is no reported dependency. -/
theorem not_dependsOn_quotedCall :
    ¬ DependsOn {k | k ∈ Reference.dependencies "='SUM(B1)'!A1" "S"} "S" "='SUM(B1)'!A1" := by
  intro h
  let zero : Lookup := fun k => if k = "0!A1" then some (.number 7) else none
  have hagree : AgreeOn {k | k ∈ Reference.dependencies "='SUM(B1)'!A1" "S"} (fun _ => none)
      zero := by
    intro k hk
    have htext : Reference.formulaText? "='SUM(B1)'!A1" = some "'SUM(B1)'!A1".toList := by
      decide +kernel
    obtain ⟨r, hr, hkeys⟩ := (Reference.mem_dependencies_iff htext).1 hk
    have hnone : ∀ r ∈ Reference.all "'SUM(B1)'!A1".toList, ∀ k ∈ (r.keys? "S").getD [],
        zero k = none := by
      decide +kernel
    exact (hnone r hr k hkeys).symm
  have hequal := h _ zero hagree
  revert hequal
  decide +kernel

end Formula

end Recalc
