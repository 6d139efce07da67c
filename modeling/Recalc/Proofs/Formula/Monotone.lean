import Mathlib.Data.List.Basic
import Recalc.Formula.Evaluate

/-!
# Evaluation under growing knowledge

A lookup that knows more gives a formula the value that it has already, as long as the cells that
its aggregates cover hold the same numbers, and a key without value and a key that is null are the
same to every formula (`evaluate_monotone`). The first phase reads numbers only
(`resolveAggregates_of_sameNumbers`), so both lookups leave the second one the same text.
-/

namespace Recalc

/-- `l'` gives every value that `l` gives. -/
def Extends (l l' : Lookup) : Prop :=
  ∀ key v, v ≠ Value.null → l key = some v → l' key = some v

namespace Extends
variable {l l' l'' : Lookup}

theorem refl (l : Lookup) : Extends l l :=
  fun _ _ _ h => h

theorem trans (h : Extends l l') (h' : Extends l' l'') : Extends l l'' :=
  fun key v hv hk => h' key v hv (h key v hv hk)

end Extends

namespace Call

/-- What stands between the parentheses of a call. -/
def Piece.argument? : Piece → Option (List Char)
  | call _ argument _ => some argument
  | _ => none

end Call

namespace Formula

/-- The arguments of the calls of a formula. -/
def callArguments (formula : String) : List (List Char) :=
  match body? formula with
  | some body => (Call.Piece.split body).filterMap Call.Piece.argument?
  | none => []

/-- Both lookups hold the same numbers in the cells that each call of a formula covers. -/
def SameNumbers (l l' : Lookup) (sheet formula : String) : Prop :=
  ∀ argument ∈ callArguments formula, numbers l sheet argument = numbers l' sheet argument

/-- The keys that a call covers. -/
def argumentKeys (sheet : String) : Call.Piece → List String
  | .call _ argument _ =>
    ((Reference.ofArgument? argument).bind fun r => r.keys? sheet).getD []
  | _ => []

/-- The keys that the aggregates of a formula cover. -/
def aggregateKeys (sheet formula : String) : List String :=
  match body? formula with
  | some body => (Call.Piece.split body).flatMap (argumentKeys sheet)
  | none => []

/-- The number that an aggregate sees under a key. -/
def numberAt (l : Lookup) (key : String) : Option Float :=
  (l key).bind Value.asNumber?

/-- What a lookup knows of a key: null if it has no value. -/
def valueAt (l : Lookup) (key : String) : Value :=
  (l key).getD .null

variable {l l' : Lookup} {sheet : String}

theorem numberAt_eq {key : String} (h : l key = l' key) : numberAt l key = numberAt l' key := by
  rw [numberAt, numberAt, h]

/-! ## Steps that may fail -/

theorem mapM_congr {ε α β : Type} {f g : α → Except ε β} {as : List α}
    (h : ∀ a ∈ as, f a = g a) : as.mapM f = as.mapM g := by
  induction as with
  | nil => rfl
  | cons a as ih =>
    rw [List.mapM_cons, List.mapM_cons, h a (List.mem_cons_self ..),
      ih fun b hb => h b (List.mem_cons_of_mem a hb)]

theorem bind_eq_ok_iff {ε α β : Type} {x : Except ε α} {f : α → Except ε β} {b : β} :
    (x >>= f) = .ok b ↔ ∃ a, x = .ok a ∧ f a = .ok b := by
  cases x with
  | error e =>
    refine ⟨fun h => ?_, ?_⟩
    · cases h
    · rintro ⟨a, ⟨⟩, -⟩
  | ok a =>
    refine ⟨fun h => ⟨a, rfl, h⟩, ?_⟩
    rintro ⟨a', ⟨⟩, h⟩
    exact h

theorem mapM_cons_eq_ok_iff {ε α β : Type} {f : α → Except ε β} {a : α} {as : List α}
    {bs : List β} : (a :: as).mapM f = .ok bs ↔
      ∃ b cs, f a = .ok b ∧ as.mapM f = .ok cs ∧ bs = b :: cs := by
  rw [List.mapM_cons]
  constructor
  · intro h
    obtain ⟨b, hb, h⟩ := bind_eq_ok_iff.1 h
    obtain ⟨cs, hcs, h⟩ := bind_eq_ok_iff.1 h
    exact ⟨b, cs, hb, hcs, (Except.ok.inj h).symm⟩
  · rintro ⟨b, cs, hb, hcs, rfl⟩
    rw [hb, hcs]
    rfl

theorem mapM_eq_ok {ε α β : Type} {f g : α → Except ε β} {as : List α} {bs : List β}
    (h : ∀ a b, f a = .ok b → g a = .ok b) (hf : as.mapM f = .ok bs) : as.mapM g = .ok bs := by
  induction as generalizing bs with
  | nil => exact hf
  | cons a as ih =>
    obtain ⟨b, cs, hb, hcs, rfl⟩ := mapM_cons_eq_ok_iff.1 hf
    exact mapM_cons_eq_ok_iff.2 ⟨b, cs, h a b hb, ih hcs, rfl⟩

theorem length_of_mapM {ε α β : Type} {f : α → Except ε β} {as : List α} {bs : List β}
    (h : as.mapM f = .ok bs) : bs.length = as.length := by
  induction as generalizing bs with
  | nil =>
    cases h
    rfl
  | cons a as ih =>
    obtain ⟨b, cs, -, hcs, rfl⟩ := mapM_cons_eq_ok_iff.1 h
    exact congrArg Nat.succ (ih hcs)

/-! ## The two phases that look cells up -/

theorem numbers_congr {argument : List Char}
    (h : ∀ r keys, Reference.ofArgument? argument = some r → r.keys? sheet = some keys →
      ∀ k ∈ keys, numberAt l k = numberAt l' k) :
    numbers l sheet argument = numbers l' sheet argument := by
  rw [numbers, numbers]
  cases hr : Reference.ofArgument? argument with
  | none => rfl
  | some r =>
    simp only
    cases hk : r.keys? sheet with
    | none => rfl
    | some keys =>
      exact congrArg Except.ok (List.filterMap_congr (h r keys hr hk))

theorem callText_congr {p : Call.Piece}
    (h : ∀ argument ∈ p.argument?, numbers l sheet argument = numbers l' sheet argument) :
    callText l sheet p = callText l' sheet p := by
  cases p with
  | char c => rfl
  | lookalike t => rfl
  | call f argument t => rw [callText, callText, h argument rfl]

/-- The first phase reads no more than the numbers that calls cover. -/
theorem resolveAggregates_of_sameNumbers {formula : String} {body : List Char}
    (hb : body? formula = some body) (h : SameNumbers l l' sheet formula) :
    resolveAggregates l sheet body = resolveAggregates l' sheet body := by
  rw [SameNumbers, callArguments, hb] at h
  rw [resolveAggregates, resolveAggregates, mapM_congr]
  intro p hp
  exact callText_congr fun argument ha => h argument (List.mem_filterMap.2 ⟨p, hp, ha⟩)

/-- It is enough that the lookups hold the same number under each key that a call covers. -/
theorem sameNumbers_of_numberAt {formula : String}
    (h : ∀ k ∈ aggregateKeys sheet formula, numberAt l k = numberAt l' k) :
    SameNumbers l l' sheet formula := by
  intro argument ha
  rw [callArguments] at ha
  rw [aggregateKeys] at h
  cases hb : body? formula with
  | none =>
    rw [hb] at ha
    cases ha
  | some body =>
    rw [hb] at h ha
    obtain ⟨p, hp, ha⟩ := List.mem_filterMap.1 ha
    cases p with
    | char c => cases ha
    | lookalike t => cases ha
    | call f argument t =>
      cases ha
      refine numbers_congr fun r keys hr hkeys k hk => h k (List.mem_flatMap.2 ⟨_, hp, ?_⟩)
      rw [argumentKeys, hr, Option.bind_some, hkeys]
      exact hk

theorem resolveAggregates_congr_of_body? {formula : String} {body : List Char}
    (hb : body? formula = some body)
    (h : ∀ k ∈ aggregateKeys sheet formula, numberAt l k = numberAt l' k) :
    resolveAggregates l sheet body = resolveAggregates l' sheet body :=
  resolveAggregates_of_sameNumbers hb (sameNumbers_of_numberAt h)

theorem referenceText_congr {p : Reference.Piece}
    (h : ∀ r ∈ p.reference?, ∀ c, r.target = .cell c →
      cellNumber l (c.key (r.sheetFrom sheet)) = cellNumber l' (c.key (r.sheetFrom sheet))) :
    referenceText l sheet p = referenceText l' sheet p := by
  cases p with
  | gap c => rfl
  | found r t =>
    cases ht : r.target with
    | range _ => simp only [referenceText, ht]
    | cell c => simp only [referenceText, ht, h r rfl c ht]

/-- The second phase reads no more than the cells that the text refers to. -/
theorem substituteReferences_congr {text : List Char}
    (h : ∀ r ∈ Reference.all text, ∀ c, r.target = .cell c →
      cellNumber l (c.key (r.sheetFrom sheet)) = cellNumber l' (c.key (r.sheetFrom sheet))) :
    substituteReferences l sheet text = substituteReferences l' sheet text := by
  rw [substituteReferences, substituteReferences, mapM_congr]
  intro p hp
  exact referenceText_congr fun r hr => h r (List.mem_filterMap.2 ⟨p, hp, hr⟩)

theorem cellNumber_of_extends (h : Extends l l') {key : String} {x : Float}
    (hx : cellNumber l key = .ok x) : cellNumber l' key = .ok x := by
  rw [cellNumber] at hx ⊢
  split at hx
  · cases hx
  · cases hx
  · rename_i v hv hk
    rw [h key v hv hk]
    cases v with
    | null => exact absurd rfl hv
    | number y => exact hx
    | text s => exact hx

theorem referenceText_of_extends (h : Extends l l') {p : Reference.Piece} {t : List Char}
    (ht : referenceText l sheet p = .ok t) : referenceText l' sheet p = .ok t := by
  cases p with
  | gap c => exact ht
  | found r text =>
    rw [referenceText] at ht ⊢
    split at ht
    · cases ht
    · obtain ⟨x, hx, ht⟩ := bind_eq_ok_iff.1 ht
      exact bind_eq_ok_iff.2 ⟨x, cellNumber_of_extends h hx, ht⟩

/-- What the second phase gives, it gives under every lookup that knows more. -/
theorem substituteReferences_of_extends (h : Extends l l') {text t : List Char}
    (ht : substituteReferences l sheet text = .ok t) :
    substituteReferences l' sheet text = .ok t := by
  obtain ⟨ts, hts, ht⟩ := bind_eq_ok_iff.1 ht
  exact bind_eq_ok_iff.2 ⟨ts, mapM_eq_ok (fun _ _ => referenceText_of_extends h) hts, ht⟩

/-! ## More knowledge -/

theorem evalBody_of_extends (h : Extends l l') {body : List Char}
    (htext : resolveAggregates l sheet body = resolveAggregates l' sheet body)
    {x : Float} (hx : evalBody l sheet body = .ok x) : evalBody l' sheet body = .ok x := by
  obtain ⟨text, hr, hx⟩ := bind_eq_ok_iff.1 hx
  obtain ⟨t, hs, hx⟩ := bind_eq_ok_iff.1 hx
  refine bind_eq_ok_iff.2 ⟨text, htext ▸ hr, ?_⟩
  exact bind_eq_ok_iff.2 ⟨t, substituteReferences_of_extends h hs, hx⟩

theorem evaluate_of_sameNumbers (h : Extends l l') {formula : String}
    (hn : SameNumbers l l' sheet formula) (hv : evaluate l sheet formula ≠ .null) :
    evaluate l' sheet formula = evaluate l sheet formula := by
  rw [evaluate, tryEvaluate] at hv ⊢
  rw [evaluate, tryEvaluate]
  cases hb : body? formula with
  | none => rfl
  | some body =>
    rw [hb] at hv
    simp only at hv ⊢
    cases hx : evalBody l sheet body with
    | error e =>
      rw [hx] at hv
      exact absurd rfl hv
    | ok x =>
      rw [evalBody_of_extends h (resolveAggregates_of_sameNumbers hb hn) hx]

/-- A value that a formula has already stays when more is known, as long as its aggregates cover the
same numbers. -/
theorem evaluate_of_extends (h : Extends l l') {formula : String}
    (hk : ∀ k ∈ aggregateKeys sheet formula, numberAt l k = numberAt l' k)
    (hv : evaluate l sheet formula ≠ .null) :
    evaluate l' sheet formula = evaluate l sheet formula :=
  evaluate_of_sameNumbers h (sameNumbers_of_numberAt hk) hv

/-! ## The same knowledge -/

theorem numberAt_eq_asNumber? (l : Lookup) (key : String) :
    numberAt l key = (valueAt l key).asNumber? := by
  rw [numberAt, valueAt]
  cases l key <;> rfl

theorem cellNumber_eq (l : Lookup) (key : String) : cellNumber l key =
    if valueAt l key = .null then .error (.unresolved key)
    else .ok ((valueAt l key).asNumber?.getD 0) := by
  rw [cellNumber, valueAt]
  cases l key with
  | none => rfl
  | some v => cases v <;> rfl

theorem evalBody_congr {body : List Char}
    (hr : resolveAggregates l sheet body = resolveAggregates l' sheet body)
    (hs : ∀ text, resolveAggregates l sheet body = .ok text →
      substituteReferences l sheet text = substituteReferences l' sheet text) :
    evalBody l sheet body = evalBody l' sheet body := by
  rw [evalBody, evalBody, ← hr]
  cases ht : resolveAggregates l sheet body with
  | error e => rfl
  | ok text =>
    show (substituteReferences l sheet text >>= _) = (substituteReferences l' sheet text >>= _)
    rw [hs text ht]

/-- Lookups that know the same give every formula the same value, or the same reason why it has
none. -/
theorem tryEvaluate_congr (h : ∀ key, valueAt l key = valueAt l' key) (formula : String) :
    tryEvaluate l sheet formula = tryEvaluate l' sheet formula := by
  have hnumber : ∀ key, numberAt l key = numberAt l' key := fun key => by
    rw [numberAt_eq_asNumber?, numberAt_eq_asNumber?, h]
  have hcell : ∀ key, cellNumber l key = cellNumber l' key := fun key => by
    rw [cellNumber_eq, cellNumber_eq, h]
  rw [tryEvaluate, tryEvaluate]
  cases hb : body? formula with
  | none => rfl
  | some body =>
    refine congrArg (Except.map Value.number) (evalBody_congr ?_ fun text _ => ?_)
    · exact resolveAggregates_congr_of_body? hb fun k _ => hnumber k
    · exact substituteReferences_congr fun r _ c _ => hcell _

theorem valueAt_eq_iff {key : String} {v : Value} (hv : v ≠ .null) :
    valueAt l key = v ↔ l key = some v := by
  rw [valueAt]
  cases l key with
  | none => exact ⟨fun h => absurd h.symm hv, fun h => nomatch h⟩
  | some w => exact ⟨congrArg some, Option.some.inj⟩

/-- Lookups of which each knows more than the other know the same. -/
theorem valueAt_of_extends (h : Extends l l') (h' : Extends l' l) (key : String) :
    valueAt l key = valueAt l' key := by
  by_cases hl : valueAt l key = .null
  · by_cases hl' : valueAt l' key = .null
    · rw [hl, hl']
    · exact (valueAt_eq_iff hl').2 (h' key _ hl' ((valueAt_eq_iff hl').1 rfl))
  · exact ((valueAt_eq_iff hl).2 (h key _ hl ((valueAt_eq_iff hl).1 rfl))).symm

theorem numberAt_congr (h : Extends l l') (h' : Extends l' l) (key : String) :
    numberAt l key = numberAt l' key := by
  rw [numberAt_eq_asNumber?, numberAt_eq_asNumber?, valueAt_of_extends h h']

/-- Lookups that give the same values give every formula the same value. -/
theorem evaluate_congr (h : Extends l l') (h' : Extends l' l) (formula : String) :
    evaluate l sheet formula = evaluate l' sheet formula := by
  rw [evaluate, evaluate, tryEvaluate_congr (valueAt_of_extends h h')]

/-! ## Evaluation -/

/-- A formula that has a value keeps it when more is known, as long as its calls cover the same
numbers; and whether a key has no value or is null changes neither the value of a formula nor the
reason why it has none. -/
theorem evaluate_monotone (sheet formula : String) :
    (∀ l l', Extends l l' → SameNumbers l l' sheet formula → evaluate l sheet formula ≠ .null →
      evaluate l' sheet formula = evaluate l sheet formula) ∧
    ∀ l l', (∀ key, valueAt l key = valueAt l' key) →
      tryEvaluate l sheet formula = tryEvaluate l' sheet formula ∧
        evaluate l sheet formula = evaluate l' sheet formula := by
  refine ⟨fun l l' h hn hv => evaluate_of_sameNumbers h hn hv, fun l l' h => ?_⟩
  have hresult : tryEvaluate l sheet formula = tryEvaluate l' sheet formula :=
    tryEvaluate_congr h formula
  refine ⟨hresult, ?_⟩
  rw [evaluate, evaluate, hresult]

/-- A total, a factor and nothing else. -/
def partlyKnown : Lookup := fun key =>
  if key = "S!A1" then some (.number 3) else if key = "S!B1" then some (.text "2,5") else none

/-- The next cell of the total holds a text, and another one is null. -/
def betterKnown : Lookup := fun key =>
  if key = "S!A2" then some (.text "open") else if key = "S!C1" then some .null
  else partlyKnown key

/-- A total over a cell without value, which turns out to be a text, and the same total where all
that is unknown is null. -/
theorem evaluate_monotone_total : Extends partlyKnown betterKnown ∧
    SameNumbers partlyKnown betterKnown "S" "=SUM(A1:A2)*B1" ∧
    evaluate partlyKnown "S" "=SUM(A1:A2)*B1" = .number 7.5 ∧
    evaluate betterKnown "S" "=SUM(A1:A2)*B1" = .number 7.5 ∧
    (∀ key, valueAt partlyKnown key = valueAt (fun k => (partlyKnown k).or (some .null)) key) ∧
    tryEvaluate (fun k => (partlyKnown k).or (some .null)) "S" "=SUM(A1:A2)*B1+C1" =
      .error (.unresolved "S!C1") := by
  have hext : Extends partlyKnown betterKnown := by
    intro key v _ hk
    have hA : key ≠ "S!A2" := by
      rintro rfl
      cases hk
    have hC : key ≠ "S!C1" := by
      rintro rfl
      cases hk
    rw [betterKnown, if_neg hA, if_neg hC]
    exact hk
  have hnumbers : SameNumbers partlyKnown betterKnown "S" "=SUM(A1:A2)*B1" :=
    sameNumbers_of_numberAt (by decide +kernel)
  have hvalue : evaluate partlyKnown "S" "=SUM(A1:A2)*B1" = .number 7.5 := by decide +kernel
  have hnull : ∀ key, valueAt partlyKnown key =
      valueAt (fun k => (partlyKnown k).or (some .null)) key := by
    intro key
    rw [valueAt, valueAt]
    cases partlyKnown key <;> rfl
  have hopen : tryEvaluate partlyKnown "S" "=SUM(A1:A2)*B1+C1" = .error (.unresolved "S!C1") := by
    decide +kernel
  have hmore := (evaluate_monotone "S" "=SUM(A1:A2)*B1").1 _ _ hext hnumbers (by simp [hvalue])
  have hsame := (evaluate_monotone "S" "=SUM(A1:A2)*B1+C1").2 _ _ hnull
  exact ⟨hext, hnumbers, hvalue, hmore.trans hvalue, hnull, hsame.1.symm.trans hopen⟩

end Formula

end Recalc
