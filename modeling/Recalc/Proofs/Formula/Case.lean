import Recalc.Proofs.Formula.Dependencies
import Recalc.Proofs.Formula.Pipeline
import Recalc.Proofs.Reference.Case

/-!
# Formulas in either case

The letters of a formula are those of functions and columns, unless it names sheets: a formula
without exclamation marks has the same value and the same dependencies whatever the case of its
ASCII letters (`evaluate_recased`). Each phase leaves texts that are alike in capitals, and a text
that passes the whitelist has no letters.
-/

namespace Recalc

open Text (upper)

/-! ## Calls -/

namespace Call

/-- What a reader of calls finds, all of it in capitals. -/
def bothUpper (p : List Char × List Char) : List Char × List Char :=
  (upper p.1, upper p.2)

theorem foldsTo_toUpper (u c : Char) : foldsTo u c.toUpper = foldsTo u c := by
  have hlong : (c.toUpper == 'ſ') = (c == 'ſ') := by
    rw [Bool.eq_iff_iff, beq_iff_eq, beq_iff_eq]
    exact Text.toUpper_eq_iff rfl
  rw [foldsTo, foldsTo, Text.toUpper_toUpper, hlong]

theorem readName?_upper (name s : List Char) :
    readName? name (upper s) = (readName? name s).map bothUpper := by
  induction name generalizing s with
  | nil =>
    rw [readName?, readName?]
    rfl
  | cons u name ih =>
    cases s with
    | nil => rfl
    | cons c s =>
      show readName? (u :: name) (c.toUpper :: upper s) = _
      rw [readName?, readName?, foldsTo_toUpper, ih]
      split
      · rw [Option.map_map, Option.map_map]
        rfl
      · rfl

/-- A parenthesis, what it holds, and what follows the closing one. -/
theorem readArgument?_eq (s : List Char) :
    readArgument? s = (Reference.behind? '(' (Text.trimStart s)).bind fun r =>
      (Reference.behind? ')' (r.dropWhile (· != ')'))).bind fun rest =>
        if (r.takeWhile (· != ')')).isEmpty then none
        else some (Text.trim (r.takeWhile (· != ')')), rest) := by
  rw [readArgument?]
  split
  · rename_i r hr
    rw [hr, show Reference.behind? '(' ('(' :: r) = some r from rfl, Option.bind_some]
    split
    · rename_i rest hrest
      rw [hrest]
      rfl
    · rename_i h
      rw [Reference.behind?_of_ne_cons h]
      rfl
  · rename_i h
    rw [Reference.behind?_of_ne_cons h]
    rfl

theorem readArgument?_upper (s : List Char) :
    readArgument? (upper s) = (readArgument? s).map bothUpper := by
  have hclose (c : Char) : (c.toUpper != ')') = (c != ')') := by
    rw [Bool.eq_iff_iff, bne_iff_ne, bne_iff_ne]
    exact not_congr (Text.toUpper_eq_iff rfl)
  rw [readArgument?_eq, readArgument?_eq, Text.trimStart_upper, Reference.behind?_upper rfl]
  cases Reference.behind? '(' (Text.trimStart s) with
  | none => rfl
  | some r =>
    rw [Option.map_some, Option.bind_some, Option.bind_some, Text.dropWhile_upper hclose,
      Text.takeWhile_upper hclose, Reference.behind?_upper rfl, Text.trim_upper]
    cases Reference.behind? ')' (r.dropWhile (· != ')')) with
    | none => rfl
    | some rest =>
      rw [Option.map_some, Option.bind_some, Option.bind_some, show
        (upper (r.takeWhile (· != ')'))).isEmpty = (r.takeWhile (· != ')')).isEmpty from
          List.isEmpty_map]
      split <;> rfl

theorem read?_upper (s : List Char) :
    read? (upper s) = (read? s).map fun p => (upper p.1, bothUpper p.2) := by
  rw [read?, read?, readName?_upper, readName?_upper, ← Option.map_or]
  cases (readName? Aggregate.sum.name s).or (readName? Aggregate.average.name s) with
  | none => rfl
  | some p =>
    obtain ⟨name, r⟩ := p
    simp only [Option.map_some, Option.bind_some, bothUpper, readArgument?_upper, Option.map_map]
    rfl

theorem ofName?_upper (name : List Char) :
    Aggregate.ofName? (upper name) = Aggregate.ofName? name := by
  have hupper : (upper name).map Char.toUpper = name.map Char.toUpper := Text.upper_upper name
  rw [Aggregate.ofName?, Aggregate.ofName?, hupper]

theorem IsCall.subset {argument text : List Char} (h : IsCall argument text) :
    argument ⊆ text := by
  cases h with
  | @intro name outer inner _ _ _ _ =>
    intro c hc
    have hinner : c ∈ inner := Text.mem_of_mem_trim hc
    exact List.mem_append_right name (List.mem_append_right outer
      (List.mem_cons_of_mem '(' (List.mem_append_left [')'] hinner)))

end Call

namespace Formula

variable (lookup : Lookup) (sheet : String) {s : List Char}

/-! ## The phases that replace operands -/

theorem toOption_numbers_upper {argument : List Char} (h : '!' ∉ argument) :
    (numbers lookup sheet (upper argument)).toOption =
      (numbers lookup sheet argument).toOption := by
  rw [numbers, numbers, Reference.ofArgument?_upper h]
  cases Reference.ofArgument? argument with
  | none => rfl
  | some r =>
    simp only
    cases r.keys? sheet <;> rfl

/-- A call leads to its number, and what only looks like one to itself in capitals. -/
theorem map_upper_callText (before : Option Char) (name text : List Char) {argument : List Char}
    (h : '!' ∉ argument) :
    (callText lookup sheet (Call.Piece.ofCall (before.map Char.toUpper) (upper name)
      (upper argument) (upper text))).toOption.map upper =
      (callText lookup sheet (Call.Piece.ofCall before name argument text)).toOption.map upper := by
  rw [Call.Piece.ofCall, Call.Piece.ofCall, Call.ofName?_upper, Text.any_isAlphanum_toUpper]
  split
  · exact congrArg some (Text.upper_upper text)
  · cases Aggregate.ofName? name with
    | none => exact congrArg some (Text.upper_upper text)
    | some f =>
      simp only [callText]
      rw [Arithmetic.toOption_bind, Arithmetic.toOption_bind, toOption_numbers_upper lookup sheet h]

theorem map_upper_append (x y : Option (List Char)) :
    (x.bind fun t => y.map (t ++ ·)).map upper =
      (x.map upper).bind fun t => (y.map upper).map (t ++ ·) := by
  cases x with
  | none => rfl
  | some t =>
    cases y with
    | none => rfl
    | some u => exact congrArg some (Text.upper_append t u)

theorem map_upper_cons (c : Char) (y : Option (List Char)) :
    (y.map (c :: ·)).map upper = (y.map upper).map (c.toUpper :: ·) := by
  cases y <;> rfl

/-- In capitals, the first phase leaves the same of a text and of the text in capitals. -/
theorem map_upper_resolveFrom (before : Option Char) (s : List Char) (hs : '!' ∉ s) :
    (resolveFrom lookup sheet (before.map Char.toUpper) (upper s)).map upper =
      (resolveFrom lookup sheet before s).map upper := by
  induction before, s using Call.read_induction with
  | hnil b =>
    rw [resolveFrom, resolveFrom, upper, List.map_nil, Call.Piece.splitAfter,
      Call.Piece.splitAfter]
  | hchar b c r hread ih =>
    have hupper := Call.read?_upper (c :: r)
    rw [hread, Text.upper_cons] at hupper
    rw [resolveFrom_char lookup sheet hread, map_upper_cons,
      ← ih fun h => hs (List.mem_cons_of_mem c h), Text.upper_cons,
      resolveFrom_char lookup sheet hupper, map_upper_cons, Text.toUpper_toUpper]
    rfl
  | hcall b t rest name argument hcall hread ih =>
    -- the number of a call is not in capitals, so only the texts in capitals can be compared
    have hupper := Call.read?_upper (t ++ rest)
    rw [hread, Text.upper_append] at hupper
    have hne := Text.upper_ne_nil hcall.ne_nil
    have hargument : '!' ∉ argument := fun h => hs (List.mem_append_left rest (hcall.subset h))
    rw [Text.upper_append, resolveFrom_read lookup sheet hne hupper,
      resolveFrom_read lookup sheet hcall.ne_nil hread, map_upper_append, map_upper_append,
      Text.getLast?_upper, ih fun h => hs (List.mem_append_right t h),
      ← map_upper_callText lookup sheet b name t hargument]

/-- In capitals, the second phase leaves the same of a text and of the text in capitals. -/
theorem map_upper_substituteFrom (before : Option Char) (s : List Char) (hs : '!' ∉ s) :
    (substituteFrom lookup sheet (before.map Char.toUpper) (upper s)).map upper =
      (substituteFrom lookup sheet before s).map upper := by
  induction before, s using Reference.read_induction with
  | hnil b =>
    rw [substituteFrom, substituteFrom, upper, List.map_nil, Reference.Piece.splitAfter,
      Reference.Piece.splitAfter]
  | hgap b c r hread ih =>
    have hupper := Reference.read?_upper b hs
    rw [hread, Text.upper_cons] at hupper
    rw [substituteFrom_gap lookup sheet hread, map_upper_cons,
      ← ih fun h => hs (List.mem_cons_of_mem c h), Text.upper_cons,
      substituteFrom_gap lookup sheet hupper, map_upper_cons, Text.toUpper_toUpper]
    rfl
  | hfound b t rest ref ht hread ih =>
    have hupper := Reference.read?_upper b hs
    rw [hread, Text.upper_append] at hupper
    rw [Text.upper_append, substituteFrom_read lookup sheet (Text.upper_ne_nil ht) hupper,
      substituteFrom_read lookup sheet ht hread, map_upper_append, map_upper_append,
      Text.getLast?_upper, ih fun h => hs (List.mem_append_right t h)]
    rfl

/-! ## The phases that compute -/

theorem isAllowed_of_isAlpha {c : Char} (h : c.isAlpha = true) : isAllowed c = false := by
  have hdelimiter := isDelimiter_of_isWord (isWord_of_isAlpha h)
  rw [isDelimiter, isMark, Bool.or_eq_false_iff] at hdelimiter
  have hpoint : (c == '.') = false := by
    rw [beq_eq_false_iff_ne]
    rintro rfl
    cases h
  rw [isAllowed, isDigit_of_isAlpha h, hpoint]
  grind

theorem isAllowed_toUpper (c : Char) : isAllowed c.toUpper = isAllowed c :=
  Text.class_toUpper (fun _ => isAllowed_of_isAlpha) c

theorem pointed_upper (s : List Char) : Decimal.pointed (upper s) = upper (Decimal.pointed s) := by
  rw [Decimal.pointed, Decimal.pointed, upper, upper, List.map_map, List.map_map]
  refine List.map_congr_left fun c _ => ?_
  show (if c.toUpper = ',' then '.' else c.toUpper) = (if c = ',' then '.' else c).toUpper
  rw [if_congr (Text.toUpper_eq_iff rfl) rfl rfl]
  split <;> rfl

/-- What the last phases make of a text whose operands are replaced. -/
def computed? (s : List Char) : Option Float :=
  (checkAllowed (Decimal.pointed s)).toOption.bind fun _ =>
    (evalArithmetic (Decimal.pointed s)).toOption

theorem computed?_upper (s : List Char) : computed? (upper s) = computed? s := by
  rw [computed?, computed?, pointed_upper, toOption_checkAllowed, toOption_checkAllowed]
  have hall : (upper (Decimal.pointed s)).all isAllowed = (Decimal.pointed s).all isAllowed := by
    rw [upper, List.all_map]
    exact congrArg _ (funext isAllowed_toUpper)
  rw [hall]
  by_cases h : (Decimal.pointed s).all isAllowed = true
  · rw [Text.upper_eq_self]
    intro c hc
    by_contra halpha
    have hc := List.all_eq_true.1 h c hc
    rw [isAllowed_of_isAlpha (by simpa using halpha)] at hc
    cases hc
  · rw [if_neg h]
    rfl

/-! ## The whole formula -/

theorem exists_of_map_upper_eq {x y : Option (List Char)} {t : List Char}
    (h : x.map upper = y.map upper) (hy : y = some t) : ∃ u, x = some u ∧ upper u = upper t := by
  rw [hy] at h
  exact Option.map_eq_some_iff.1 h

/-- What goes on alike from texts that are alike in capitals ends alike. -/
theorem bind_eq_of_map_upper_eq {x y : Option (List Char)} {f : List Char → Option Float}
    (h : x.map upper = y.map upper) (hf : ∀ t ∈ y, ∀ u, upper u = upper t → f u = f t) :
    x.bind f = y.bind f := by
  cases hy : y with
  | none =>
    rw [hy, Option.map_none, Option.map_eq_none_iff] at h
    rw [h]
  | some t =>
    obtain ⟨u, hu, hupper⟩ := exists_of_map_upper_eq h hy
    rw [hu]
    exact hf t hy u hupper

theorem substituted_upper (hs : '!' ∉ s) :
    (substituteFrom lookup sheet none (upper s)).bind computed? =
      (substituteFrom lookup sheet none s).bind computed? := by
  refine bind_eq_of_map_upper_eq (map_upper_substituteFrom lookup sheet none s hs) ?_
  intro t _ u hupper
  rw [← computed?_upper u, hupper, computed?_upper]

theorem bang_not_mem_resolveFrom {t : List Char} (hs : '!' ∉ s)
    (h : resolveFrom lookup sheet none s = some t) : '!' ∉ t := by
  rw [← toOption_resolveAggregates] at h
  have hresolved := resolved_of_resolveAggregates (Arithmetic.eq_ok_of_toOption h)
  exact hresolved.not_mem (fun x => (inert_reference_number x).noBang)
    (by rwa [flatMap_text_split])

theorem toOption_evalBody_upper (hs : '!' ∉ s) :
    (evalBody lookup sheet (upper s)).toOption = (evalBody lookup sheet s).toOption := by
  rw [toOption_evalBody, toOption_evalBody]
  refine bind_eq_of_map_upper_eq (map_upper_resolveFrom lookup sheet none s hs) ?_
  intro t ht u hupper
  have hbang : '!' ∉ t := bang_not_mem_resolveFrom lookup sheet hs ht
  have hbang' : '!' ∉ u := Text.not_mem_of_upper_eq rfl hupper hbang
  show (substituteFrom lookup sheet none u).bind computed? =
    (substituteFrom lookup sheet none t).bind computed?
  rw [← substituted_upper lookup sheet hbang', hupper, substituted_upper lookup sheet hbang]

theorem formulaText?_eq (formula : String) :
    Reference.formulaText? formula = Reference.behind? '=' (Text.trim formula.toList) := by
  rw [Reference.formulaText?]
  split
  · rename_i r hr
    rw [hr]
    rfl
  · rename_i h
    exact (Reference.behind?_of_ne_cons h).symm

/-- Two formulas that are alike in capitals have texts that are alike in capitals. -/
theorem map_upper_formulaText? {f g : String} (h : upper f.toList = upper g.toList) :
    (Reference.formulaText? f).map upper = (Reference.formulaText? g).map upper := by
  rw [formulaText?_eq, formulaText?_eq, ← Reference.behind?_upper rfl,
    ← Reference.behind?_upper rfl, ← Text.trim_upper, ← Text.trim_upper, h]

theorem map_upper_body? {f g : String} (h : upper f.toList = upper g.toList) :
    (body? f).map upper = (body? g).map upper := by
  have htrim : upper ∘ Text.trim = Text.trim ∘ upper := funext fun s => (Text.trim_upper s).symm
  rw [body?, body?, Option.map_map, Option.map_map, htrim, ← Option.map_map, ← Option.map_map,
    map_upper_formulaText? h]

/-- The case of its ASCII letters changes neither the value nor the dependencies of a formula
without exclamation marks. -/
theorem evaluate_recased {formula formula' : String}
    (hcase : Text.Recased formula.toList formula'.toList)
    (hequals : (Text.trimStart formula.toList).head? = some '=') (hbang : '!' ∉ formula.toList) :
    evaluate lookup sheet formula' = evaluate lookup sheet formula ∧
      Reference.dependencies formula' sheet = Reference.dependencies formula sheet := by
  have hupper : upper formula'.toList = upper formula.toList := hcase.upper_eq.symm
  obtain ⟨s, hs⟩ := exists_body? hequals
  constructor
  · obtain ⟨s', hs', hbody⟩ := exists_of_map_upper_eq (map_upper_body? hupper) hs
    have hbang_s : '!' ∉ s := fun h => hbang (mem_of_mem_body? hs h)
    have hbang_s' : '!' ∉ s' := Text.not_mem_of_upper_eq rfl hbody hbang_s
    rw [evaluate_of_body? lookup sheet hs, evaluate_of_body? lookup sheet hs',
      ← toOption_evalBody_upper lookup sheet hbang_s', hbody,
      toOption_evalBody_upper lookup sheet hbang_s]
  · obtain ⟨r, hr, -⟩ := Option.map_eq_some_iff.1 hs
    obtain ⟨r', hr', htext⟩ := exists_of_map_upper_eq (map_upper_formulaText? hupper) hr
    have hbang_r : '!' ∉ r := by
      rw [formulaText?_eq] at hr
      refine fun h => hbang (Text.mem_of_mem_trim ?_)
      rw [Reference.eq_cons_of_behind? hr]
      exact List.mem_cons_of_mem '=' h
    have hbang_r' : '!' ∉ r' := Text.not_mem_of_upper_eq rfl htext hbang_r
    rw [Reference.dependencies, Reference.dependencies, hr, hr']
    simp only
    rw [← Reference.all_upper hbang_r', htext, Reference.all_upper hbang_r]

/-- The name of a function, a range and a cell, each in the other case. -/
theorem evaluate_recased_sum :
    Text.Recased "=Sum(a1:B2)*c3".toList "=sUM(A1:b2)*C3".toList ∧
    evaluate (fun key => if key = "S!B1" then some (.text "4") else
      if key = "S!C3" then some (.number 3) else none) "S" "=sUM(A1:b2)*C3" = .number 12 ∧
    Reference.dependencies "=sUM(A1:b2)*C3" "S" = Reference.dependencies "=Sum(a1:B2)*c3" "S" := by
  have hcase : Text.Recased "=Sum(a1:B2)*c3".toList "=sUM(A1:b2)*C3".toList := by
    unfold Text.Recased
    decide +kernel
  have hrecased := evaluate_recased (fun key => if key = "S!B1" then some (.text "4") else
    if key = "S!C3" then some (.number 3) else none) "S" hcase (by decide +kernel)
    (by decide +kernel)
  refine ⟨hcase, ?_, hrecased.2⟩
  rw [hrecased.1]
  decide +kernel

end Formula

end Recalc
