import Mathlib.Data.List.Basic
import Recalc.Proofs.Formula.Figures

/-!
# The tokens of a checked text

The whitelist and the tokens are drawn up over the same characters: a text has tokens if and only if
it passes the whitelist and each longest run of digits and points in it is a numeral. Each operator,
each parenthesis and each of these runs is then one token, in the order of the text, and a text that
passes the whitelist fails at the first run that is no numeral (`tokens_eq_ok_iff`).
-/

namespace Recalc

namespace Arithmetic

open Formula (isMark isMark_cases)

/-! ## Runs of digits and points -/

/-- A text of digits and points, cut out where neither goes on. -/
structure IsRun (before run after : List Char) : Prop where
  ne_nil : run ≠ []
  numeric : ∀ c ∈ run, isNumeric c = true
  start : ∀ c ∈ before.getLast?, isNumeric c = false
  stop : ∀ c ∈ after.head?, isNumeric c = false

/-- A longest run of digits and points stands behind `i` characters of a text. -/
def RunAt (s : List Char) (i : Nat) (run : List Char) : Prop :=
  ∃ before after, s = before ++ (run ++ after) ∧ before.length = i ∧ IsRun before run after

/-- Digits, at least one of them, with at most one point. -/
def IsNumeral (run : List Char) : Prop :=
  (∃ c ∈ run, c.isDigit = true) ∧ run.count '.' ≤ 1

/-- A token stands behind `i` characters of a text: that of an operator or a parenthesis, or the
number that a longest run is read as. -/
inductive TokenAt (s : List Char) (i : Nat) : Token → Prop
  | mark {c : Char} (h : s[i]? = some c) (hc : isMark c = true) : TokenAt s i (Symbol.mark c).token
  | number {run : List Char} {x : Float} (h : RunAt s i run)
      (hx : Decimal.readFloat? run = some x) : TokenAt s i (.number x)

/-- The tokens that stand in a text, in the order of their places. -/
def TokensOf (s : List Char) (ts : List Token) : Prop :=
  ∃ placed : List (Nat × Token), placed.Pairwise (fun p q => p.1 < q.1) ∧
    (∀ i t, (i, t) ∈ placed ↔ TokenAt s i t) ∧ ts = placed.map Prod.snd

/-- The first run of a text that is no numeral. -/
structure FirstBadRun (s : List Char) (i : Nat) (run : List Char) : Prop where
  runAt : RunAt s i run
  not_isNumeral : ¬ IsNumeral run
  first : ∀ j r, RunAt s j r → j < i → IsNumeral r

/-! ## What is read as a number -/

theorem isDigit_or_point_of_isNumeric {c : Char} (h : isNumeric c = true) :
    c.isDigit = true ∨ c = '.' := by
  simpa [isNumeric] using h

theorem count_point_of_isDigit {s : List Char} (h : ∀ c ∈ s, c.isDigit = true) :
    s.count '.' = 0 := by
  refine List.count_eq_zero.2 fun hmem => ?_
  cases h '.' hmem

theorem exists_split_digits {run : List Char} (h : ∀ c ∈ run, isNumeric c = true) :
    ∃ whole rest, run = whole ++ rest ∧ (∀ c ∈ whole, c.isDigit = true) ∧
      (rest = [] ∨ ∃ r, rest = '.' :: r ∧ ∀ c ∈ r, isNumeric c = true) := by
  induction run with
  | nil => exact ⟨[], [], rfl, List.forall_mem_nil _, Or.inl rfl⟩
  | cons c run ih =>
    rw [List.forall_mem_cons] at h
    rcases isDigit_or_point_of_isNumeric h.1 with hc | rfl
    · obtain ⟨whole, rest, rfl, hwhole, hrest⟩ := ih h.2
      exact ⟨c :: whole, rest, rfl, List.forall_mem_cons.2 ⟨hc, hwhole⟩, hrest⟩
    · exact ⟨[], _, rfl, List.forall_mem_nil _, Or.inr ⟨run, rfl, h.2⟩⟩

theorem read?_two_points {w f r : List Char} (hw : ∀ c ∈ w, c.isDigit = true)
    (hf : ∀ c ∈ f, c.isDigit = true) : Decimal.read? (w ++ '.' :: (f ++ '.' :: r)) = none := by
  have hpoint : ∀ (u : List Char), ∀ c ∈ ('.' :: u).head?, c.isDigit = false := by
    rintro u d ⟨⟩
    rfl
  simp only [Decimal.read?, Text.takeWhile_run hw _ (hpoint _), Text.dropWhile_run hw _ (hpoint _),
    Text.takeWhile_run hf _ (hpoint _), Text.dropWhile_run hf _ (hpoint _)]
  split
  · rfl
  · rfl

/-- Of the runs of digits and points, the numerals are those that are read. -/
theorem isSome_read?_iff {run : List Char} (h : ∀ c ∈ run, isNumeric c = true) :
    (Decimal.read? run).isSome = true ↔ IsNumeral run := by
  obtain ⟨w, rest, rfl, hw, rfl | ⟨r, rfl, hr⟩⟩ := exists_split_digits h
  · rw [List.append_nil, IsNumeral, count_point_of_isDigit hw]
    cases w with
    | nil => simp [Decimal.read?]
    | cons c w =>
      rw [Decimal.read?_whole hw (List.cons_ne_nil c w)]
      exact ⟨fun _ => ⟨⟨c, List.mem_cons_self .., hw c (List.mem_cons_self ..)⟩, Nat.zero_le 1⟩,
        fun _ => rfl⟩
  · obtain ⟨f, rest, rfl, hf, rfl | ⟨r, rfl, -⟩⟩ := exists_split_digits hr
    · rw [List.append_nil, IsNumeral, List.count_append, List.count_cons_self,
        count_point_of_isDigit hw, count_point_of_isDigit hf]
      by_cases hne : w ≠ [] ∨ f ≠ []
      · rw [Decimal.read?_fraction hw hf hne]
        refine ⟨fun _ => ⟨?_, Nat.le_refl 1⟩, fun _ => rfl⟩
        have hmem : ∃ c, c ∈ w ++ f :=
          List.exists_mem_of_ne_nil _ (by simpa [imp_iff_not_or] using hne)
        obtain ⟨c, hc⟩ := hmem
        rcases List.mem_append.1 hc with hc | hc
        · exact ⟨c, List.mem_append_left _ hc, hw c hc⟩
        · exact ⟨c, List.mem_append_right w (List.mem_cons_of_mem _ hc), hf c hc⟩
      · rw [not_or, not_not, not_not] at hne
        obtain ⟨rfl, rfl⟩ := hne
        simp [Decimal.read?]
    · rw [read?_two_points hw hf]
      refine ⟨fun h => absurd h Bool.false_ne_true, fun h => ?_⟩
      have hcount := h.2
      rw [List.count_append, List.count_cons_self, List.count_append,
        List.count_cons_self] at hcount
      omega

theorem toLower_of_isNumeric {c : Char} (h : isNumeric c = true) : c.toLower = c := by
  rcases isDigit_or_point_of_isNumeric h with hc | rfl
  · have hupper : ¬ (c.val ≥ 'A'.val ∧ c.val ≤ 'Z'.val) := by
      intro hupper
      have halpha := Formula.isAlpha_of_isDigit hc
      unfold Char.isAlpha Char.isUpper at halpha
      rw [decide_eq_true hupper, Bool.true_or] at halpha
      cases halpha
    unfold Char.toLower
    rw [dif_neg hupper]
  · rfl

/-- A run has no sign and is no name, so it is read by its digits. -/
theorem readFloat?_of_isNumeric {run : List Char} (hne : run ≠ [])
    (h : ∀ c ∈ run, isNumeric c = true) :
    Decimal.readFloat? run = (Decimal.read? run).map (Decimal.toFloat false) := by
  have hlower : run.map Char.toLower = run :=
    (List.map_congr_left fun c hc => toLower_of_isNumeric (h c hc)).trans (List.map_id' run)
  obtain ⟨c, r, rfl⟩ := List.exists_cons_of_ne_nil hne
  have hc := h c (List.mem_cons_self ..)
  have hname (d : Char) (name : List Char) (hd : isNumeric d = false) :
      String.ofList (c :: r) ≠ String.ofList (d :: name) := by
    intro heq
    rw [(List.cons.inj (String.ofList_injective heq)).1, hd] at hc
    cases hc
  have hread : Decimal.readMagnitude? (c :: r) =
      (Decimal.read? (c :: r)).map Decimal.magnitude := by
    rw [Decimal.readMagnitude?, hlower, if_neg (not_or.2 ⟨hname 'i' _ rfl, hname 'i' _ rfl⟩),
      if_neg (hname 'n' _ rfl)]
  rw [Decimal.readFloat?, hread]
  · rw [Option.map_map]
    rfl
  · rintro s ⟨⟩
    cases hc
  · rintro s ⟨⟩
    cases hc

/-! ## Places behind the beginning of a text -/

section Front
variable {front s before run after : List Char} {i : Nat} {t : Token} {ts : List Token}

/-- No run goes on from one text into the next. -/
def Apart (front s : List Char) : Prop :=
  (∀ c ∈ front.getLast?, isNumeric c = false) ∨ ∀ c ∈ s.head?, isNumeric c = false

theorem IsRun.append_left (h : IsRun before run after)
    (hfront : Apart front (before ++ (run ++ after))) : IsRun (front ++ before) run after := by
  refine ⟨h.ne_nil, h.numeric, fun c hc => ?_, h.stop⟩
  cases before with
  | cons d before =>
    rw [List.getLast?_append_of_ne_nil _ (List.cons_ne_nil d before)] at hc
    exact h.start c hc
  | nil =>
    rw [List.append_nil] at hc
    obtain ⟨d, r, rfl⟩ := List.exists_cons_of_ne_nil h.ne_nil
    rcases hfront with hfront | hfront
    · exact hfront c hc
    · have hd := h.numeric d (List.mem_cons_self ..)
      rw [hfront d rfl] at hd
      cases hd

theorem IsRun.of_append_left (h : IsRun (front ++ before) run after) : IsRun before run after := by
  refine ⟨h.ne_nil, h.numeric, fun c hc => h.start c ?_, h.stop⟩
  rw [List.getLast?_append, show before.getLast? = some c from hc]
  rfl

theorem runAt_append_iff (hfront : Apart front s) :
    RunAt (front ++ s) (front.length + i) run ↔ RunAt s i run := by
  constructor
  · rintro ⟨before, after, heq, hlength, hrun⟩
    obtain ⟨before, rfl⟩ : front <+: before :=
      List.prefix_of_prefix_length_le ⟨s, rfl⟩ ⟨run ++ after, heq.symm⟩ (by omega)
    rw [List.length_append] at hlength
    rw [List.append_assoc] at heq
    exact ⟨before, after, List.append_cancel_left heq, by omega, hrun.of_append_left⟩
  · rintro ⟨before, after, rfl, rfl, hrun⟩
    exact ⟨front ++ before, after, (List.append_assoc ..).symm, List.length_append,
      hrun.append_left hfront⟩

theorem tokenAt_append_iff (hfront : Apart front s) :
    TokenAt (front ++ s) (front.length + i) t ↔ TokenAt s i t := by
  have hget : (front ++ s)[front.length + i]? = s[i]? := by
    rw [List.getElem?_append_right (by omega), Nat.add_sub_cancel_left]
  constructor
  · rintro (⟨h, hc⟩ | ⟨h, hx⟩)
    · exact .mark (hget ▸ h) hc
    · exact .number ((runAt_append_iff hfront).1 h) hx
  · rintro (⟨h, hc⟩ | ⟨h, hx⟩)
    · exact .mark (hget.trans h) hc
    · exact .number ((runAt_append_iff hfront).2 h) hx

theorem RunAt.exists_getElem? (h : RunAt s i run) : ∃ c, s[i]? = some c ∧ isNumeric c = true := by
  obtain ⟨before, after, rfl, rfl, hrun⟩ := h
  obtain ⟨c, r, rfl⟩ := List.exists_cons_of_ne_nil hrun.ne_nil
  refine ⟨c, ?_, hrun.numeric c (List.mem_cons_self ..)⟩
  rw [List.getElem?_append_right (Nat.le_refl _), Nat.sub_self]
  rfl

/-- A run that starts within another one is that run. -/
theorem RunAt.eq_of_lt (h : RunAt (front ++ s) i run) (hfront : IsRun [] front s)
    (hi : i < front.length) : i = 0 ∧ run = front := by
  obtain ⟨before, after, heq, rfl, hrun⟩ := h
  -- what stands before the run lies in the other one, so a run would go on there
  obtain rfl : before = [] := by
    obtain ⟨r, rfl⟩ : before <+: front :=
      List.prefix_of_prefix_length_le ⟨run ++ after, heq.symm⟩ ⟨s, rfl⟩ (by omega)
    cases hlast : before.getLast? with
    | none => exact List.getLast?_eq_none_iff.1 hlast
    | some c =>
      have hc := hfront.numeric c (List.mem_append_left r (List.mem_of_getLast? hlast))
      rw [hrun.start c hlast] at hc
      cases hc
  refine ⟨rfl, ?_⟩
  rw [← Text.takeWhile_run hrun.numeric after hrun.stop,
    ← Text.takeWhile_run hfront.numeric s hfront.stop]
  exact congrArg _ heq.symm

/-! ## The first blank or token of a text -/

theorem isNumeric_of_isMark {c : Char} (h : isMark c = true) : isNumeric c = false := by
  rcases isMark_cases h with rfl | rfl | rfl | rfl | rfl | rfl <;> rfl

theorem isNumeric_of_isBlank {c : Char} (h : Text.isBlank c = true) : isNumeric c = false := by
  rw [isNumeric, Formula.isDigit_of_isDelimiter (Formula.isDelimiter_of_isBlank h), Bool.false_or,
    beq_eq_false_iff_ne]
  rintro rfl
  cases h

theorem isMark_of_isNumeric {c : Char} (h : isNumeric c = true) : isMark c = false := by
  by_contra hc
  rw [isNumeric_of_isMark (by simpa using hc)] at h
  cases h

theorem isMark_of_isBlank {c : Char} (h : Text.isBlank c = true) : isMark c = false := by
  by_contra hc
  rcases isMark_cases (by simpa using hc) with rfl | rfl | rfl | rfl | rfl | rfl <;> cases h

/-- A text starts with characters that are at most one token, and no run goes beyond them. -/
structure Starts (front s : List Char) (token : Option Token) : Prop where
  ne_nil : front ≠ []
  apart : Apart front s
  isNumeral : ∀ i run, i < front.length → RunAt (front ++ s) i run → IsNumeral run
  tokenAt_iff : ∀ i t, i < front.length → (TokenAt (front ++ s) i t ↔ i = 0 ∧ t ∈ token)

theorem starts_char {c : Char} {token : Option Token} (hc : isNumeric c = false)
    (ht : ∀ t, t ∈ token ↔ isMark c = true ∧ t = (Symbol.mark c).token) (s : List Char) :
    Starts [c] s token := by
  have hlast : ∀ d ∈ [c].getLast?, isNumeric d = false := by
    rintro d ⟨⟩
    exact hc
  have hrun (run : List Char) : ¬ RunAt ([c] ++ s) 0 run := by
    intro h
    obtain ⟨d, hd, hnumeric⟩ := h.exists_getElem?
    cases hd
    rw [hc] at hnumeric
    cases hnumeric
  refine ⟨List.cons_ne_nil c [], Or.inl hlast, fun i run hi h => ?_, fun i t hi => ?_⟩
  · obtain rfl : i = 0 := Nat.lt_one_iff.1 hi
    exact absurd h (hrun run)
  · obtain rfl : i = 0 := Nat.lt_one_iff.1 hi
    rw [ht]
    constructor
    · rintro (⟨h, hmark⟩ | ⟨h, -⟩)
      · cases h
        exact ⟨rfl, hmark, rfl⟩
      · exact absurd h (hrun _)
    · rintro ⟨-, hmark, rfl⟩
      exact .mark rfl hmark

theorem starts_blank {c : Char} (h : Text.isBlank c = true) (s : List Char) :
    Starts [c] s none := by
  refine starts_char (isNumeric_of_isBlank h) (fun t => ?_) s
  rw [isMark_of_isBlank h]
  simp

theorem starts_mark {c : Char} (h : isMark c = true) (s : List Char) :
    Starts [c] s (some (Symbol.mark c).token) := by
  refine starts_char (isNumeric_of_isMark h) (fun t => ?_) s
  rw [h]
  simp [eq_comm]

theorem starts_run (h : IsRun [] run s) {d : Decimal} (hd : Decimal.read? run = some d) :
    Starts run s (some (.number (d.toFloat false))) := by
  have hx : Decimal.readFloat? run = some (d.toFloat false) := by
    rw [readFloat?_of_isNumeric h.ne_nil h.numeric, hd]
    rfl
  refine ⟨h.ne_nil, Or.inr h.stop, fun i r hi hr => ?_, fun i t hi => ⟨?_, ?_⟩⟩
  · rw [(hr.eq_of_lt h hi).2, ← isSome_read?_iff h.numeric, hd]
    rfl
  · rintro (⟨hget, hmark⟩ | ⟨hr, hy⟩)
    · rename_i c
      rw [List.getElem?_append_left hi] at hget
      rw [isMark_of_isNumeric (h.numeric c (List.mem_of_getElem? hget))] at hmark
      cases hmark
    · obtain ⟨rfl, rfl⟩ := hr.eq_of_lt h hi
      rw [hx] at hy
      cases hy
      exact ⟨rfl, rfl⟩
  · rintro ⟨rfl, ⟨⟩⟩
    exact .number ⟨[], s, rfl, rfl, h⟩ hx

namespace Starts
variable {token : Option Token}

theorem forall_isNumeral (h : Starts front s token) (hs : ∀ i run, RunAt s i run → IsNumeral run) :
    ∀ i run, RunAt (front ++ s) i run → IsNumeral run := by
  intro i run hrun
  by_cases hi : i < front.length
  · exact h.isNumeral i run hi hrun
  · obtain ⟨j, rfl⟩ := Nat.exists_eq_add_of_le (Nat.not_lt.1 hi)
    exact hs j run ((runAt_append_iff h.apart).1 hrun)

theorem firstBadRun (h : Starts front s token) (hs : FirstBadRun s i run) :
    FirstBadRun (front ++ s) (front.length + i) run := by
  refine ⟨(runAt_append_iff h.apart).2 hs.runAt, hs.not_isNumeral, fun j r hr hj => ?_⟩
  by_cases hlt : j < front.length
  · exact h.isNumeral j r hlt hr
  · obtain ⟨k, rfl⟩ := Nat.exists_eq_add_of_le (Nat.not_lt.1 hlt)
    exact hs.first k r ((runAt_append_iff h.apart).1 hr) (by omega)

theorem tokensOf (h : Starts front s token) (hs : TokensOf s ts) :
    TokensOf (front ++ s) (token.toList ++ ts) := by
  obtain ⟨placed, hpairwise, hmem, rfl⟩ := hs
  have hpos := List.length_pos_iff.2 h.ne_nil
  refine ⟨token.toList.map (fun t => (0, t)) ++
    placed.map fun p => (front.length + p.1, p.2), ?_, fun i t => ?_, ?_⟩
  · rw [List.pairwise_append]
    refine ⟨?_, ?_, ?_⟩
    · cases token with
      | none => exact List.Pairwise.nil
      | some t => exact List.pairwise_singleton ..
    · exact List.pairwise_map.2 (hpairwise.imp fun hlt => Nat.add_lt_add_left hlt _)
    · rintro p hp q hq
      obtain ⟨t, -, rfl⟩ := List.mem_map.1 hp
      obtain ⟨r, -, rfl⟩ := List.mem_map.1 hq
      exact Nat.add_pos_left hpos _
  · by_cases hi : i < front.length
    · rw [h.tokenAt_iff i t hi]
      simp only [List.mem_append, List.mem_map, Option.mem_toList, Prod.mk.injEq, Prod.exists]
      constructor
      · rintro (⟨u, hu, rfl, rfl⟩ | ⟨j, u, -, rfl, -⟩)
        · exact ⟨rfl, hu⟩
        · omega
      · rintro ⟨rfl, ht⟩
        exact Or.inl ⟨t, ht, rfl, rfl⟩
    · obtain ⟨j, rfl⟩ := Nat.exists_eq_add_of_le (Nat.not_lt.1 hi)
      rw [tokenAt_append_iff h.apart, ← hmem]
      simp only [List.mem_append, List.mem_map, Prod.mk.injEq, Prod.exists]
      constructor
      · rintro (⟨u, -, h0, -⟩ | ⟨k, u, hu, hk, rfl⟩)
        · omega
        · rwa [show j = k by omega]
      · exact fun ht => Or.inr ⟨j, t, ht, rfl, rfl⟩
  · rw [List.map_append, List.map_map, List.map_map]
    simp [Function.comp_def]

end Starts

end Front

/-! ## Reading a text -/

section Read
variable {front s : List Char} {token : Option Token} {ts : List Token} {position : Nat}

/-- A text that is all tokens and blanks, and the tokens that stand in it. -/
structure Lexed (s : List Char) (ts : List Token) : Prop where
  allowed : ∀ c ∈ s, Formula.isAllowed c = true
  isNumeral : ∀ i run, RunAt s i run → IsNumeral run
  tokensOf : TokensOf s ts

/-- Why a text has no tokens: a character that is none of theirs, or a run that is no numeral. -/
inductive Unlexed (s : List Char) (position : Nat) : TokenError → Prop
  | unexpected {i : Nat} {c : Char} (h : c ∈ s) (hc : Formula.isAllowed c = false) :
      Unlexed s position ⟨i, .unexpected c⟩
  | badNumber {i : Nat} {run : List Char} (h : FirstBadRun s i run) :
      Unlexed s position ⟨position + i, .badNumber run⟩

/-- What reading a text tells of it. -/
def ReadAs (s : List Char) (position : Nat) : Except TokenError (List Token) → Prop
  | .ok ts => Lexed s ts
  | .error e => Unlexed s position e

theorem lexed_nil : Lexed [] [] := by
  have hrun (i : Nat) (run : List Char) : ¬ RunAt [] i run := by
    intro h
    obtain ⟨c, hc, -⟩ := h.exists_getElem?
    cases hc
  refine ⟨List.forall_mem_nil _, fun i run h => absurd h (hrun i run),
    [], List.Pairwise.nil, fun i t => ⟨fun h => (List.not_mem_nil h).elim, ?_⟩, rfl⟩
  rintro (⟨h, -⟩ | ⟨h, -⟩)
  · cases h
  · exact absurd h (hrun i _)

/-- One blank or token more in front of what is read. -/
theorem Starts.readAs (h : Starts front s token) (hc : ∀ c ∈ front, Formula.isAllowed c = true)
    {result : Except TokenError (List Token)} (hs : ReadAs s (position + front.length) result) :
    ReadAs (front ++ s) position (result.map (token.toList ++ ·)) := by
  cases result with
  | ok ts =>
    exact ⟨List.forall_mem_append.2 ⟨hc, hs.allowed⟩, h.forall_isNumeral hs.isNumeral,
      h.tokensOf hs.tokensOf⟩
  | error e =>
    cases hs with
    | unexpected hmem hc => exact .unexpected (List.mem_append_right front hmem) hc
    | badNumber hbad =>
      rw [Nat.add_assoc]
      exact .badNumber (h.firstBadRun hbad)

theorem isAllowed_eq (c : Char) : Formula.isAllowed c =
    (Text.isBlank c || isMark c || isNumeric c) := by
  rw [Formula.isAllowed, isMark, isNumeric]
  grind

theorem readAs_mark {c : Char} (hc : isMark c = true)
    {result : Except TokenError (List Token)} (hs : ReadAs s (position + 1) result) :
    ReadAs (c :: s) position (result.map ((Symbol.mark c).token :: ·)) := by
  refine (starts_mark hc s).readAs (List.forall_mem_singleton.2 ?_) hs
  rw [isAllowed_eq, hc, Bool.or_true, Bool.true_or]

theorem isRun_cons {c : Char} (hc : isNumeric c = true) (s : List Char) :
    IsRun [] (c :: s.takeWhile isNumeric) (s.dropWhile isNumeric) := by
  refine ⟨List.cons_ne_nil _ _, List.forall_mem_cons.2 ⟨hc, List.all_eq_true.1 List.all_takeWhile⟩,
    ?_, fun d hd => ?_⟩
  · rintro d ⟨⟩
  · have hhead := List.head?_dropWhile_not isNumeric s
    rw [show (s.dropWhile isNumeric).head? = some d from hd] at hhead
    exact hhead

/-- What is read of a text is what stands in it. -/
theorem readAs_tokensFrom (position : Nat) (s : List Char) :
    ReadAs s position (tokensFrom position s) := by
  fun_induction tokensFrom position s with
  | case1 => exact lexed_nil
  | case2 position c s hc ih =>
    have hs := (starts_blank hc s).readAs
      (List.forall_mem_singleton.2 (by rw [isAllowed_eq, hc]; rfl)) ih
    cases hr : tokensFrom (position + 1) s with
    | ok ts => rwa [hr] at hs
    | error e => rwa [hr] at hs
  | case3 position s _ ih => exact readAs_mark (c := '(') rfl ih
  | case4 position s _ _ ih => exact readAs_mark (c := ')') rfl ih
  | case5 position c s _ hopen hclose hc ih =>
    have hs := readAs_mark (c := c) (by rw [isMark, hc]; rfl) ih
    rwa [Symbol.token, if_neg hopen, if_neg hclose] at hs
  | case6 position c s _ _ _ _ hc run d hd ih =>
    have hrun := isRun_cons hc s
    have hs := (starts_run hrun hd).readAs
      (fun c hc => by rw [isAllowed_eq, hrun.numeric c hc, Bool.or_true]) ih
    rwa [List.cons_append, List.takeWhile_append_dropWhile] at hs
  | case7 position c s _ _ _ _ hc run hd =>
    have hrun := isRun_cons hc s
    refine .badNumber (i := 0)
      ⟨⟨[], _, ?_, rfl, hrun⟩, ?_, fun j r _ hj => (Nat.not_lt_zero j hj).elim⟩
    · exact congrArg (c :: ·) List.takeWhile_append_dropWhile.symm
    · rw [← isSome_read?_iff hrun.numeric, show Decimal.read? _ = none from hd]
      exact Bool.false_ne_true
  | case8 position c s hblank hopen hclose hop hnumeric =>
    refine .unexpected (List.mem_cons_self ..) ?_
    rw [isAllowed_eq, isMark]
    simp [hblank, hopen, hclose, hop, hnumeric]

theorem checkAllowed_eq_ok_iff :
    Formula.checkAllowed s = .ok () ↔ ∀ c ∈ s, Formula.isAllowed c = true := by
  rw [← List.all_eq_true]
  constructor
  · intro h
    have hall := Formula.toOption_checkAllowed s
    rw [h] at hall
    by_contra hnone
    rw [if_neg hnone] at hall
    cases hall
  · intro h
    exact eq_ok_of_toOption (by rw [Formula.toOption_checkAllowed, if_pos h])

theorem FirstBadRun.not_forall {i : Nat} {run : List Char} (h : FirstBadRun s i run) :
    ¬ ∀ j r, RunAt s j r → IsNumeral r :=
  fun hall => h.not_isNumeral (hall i run h.runAt)

theorem message_badNumber (position : Nat) (run : List Char) :
    TokenError.message ⟨position, .badNumber run⟩ =
      "Tokenize error at position " ++ toString position ++ ": Invalid number: " ++
        String.ofList run := by
  have htext : ": " ++ "Invalid number: " = ": Invalid number: " := by decide +kernel
  have hfront (place : String) :
      place ++ ": " ++ "Invalid number: " = place ++ ": Invalid number: " :=
    String.append_assoc.trans (congrArg (place ++ ·) htext)
  rw [← hfront]
  exact String.append_assoc.symm

/-- The whitelist and the tokens agree: a text has tokens if and only if it passes the whitelist and
every longest run of digits and points in it is a numeral. The tokens are then those of its
operators, parentheses and runs, one each and in order. A text that passes the whitelist and has no
tokens fails at the place of its first run that is no numeral. -/
theorem tokens_eq_ok_iff (s : List Char) :
    ((∃ ts, tokens s = .ok ts) ↔
      Formula.checkAllowed s = .ok () ∧ ∀ i run, RunAt s i run → IsNumeral run) ∧
    (∀ ts, tokens s = .ok ts → TokensOf s ts) ∧
    (∀ e, Formula.checkAllowed s = .ok () → tokens s = .error e →
      ∃ run, FirstBadRun s e.position run ∧ e.fault = .badNumber run ∧
        e.message = "Tokenize error at position " ++ toString e.position ++
          ": Invalid number: " ++ String.ofList run) := by
  have hread : ReadAs s 0 (tokens s) := readAs_tokensFrom 0 s
  rw [checkAllowed_eq_ok_iff]
  cases hs : tokens s with
  | ok ts =>
    rw [hs] at hread
    refine ⟨⟨fun _ => ⟨hread.allowed, hread.isNumeral⟩, fun _ => ⟨ts, rfl⟩⟩, ?_, ?_⟩
    · rintro _ ⟨⟩
      exact hread.tokensOf
    · rintro e - ⟨⟩
  | error e =>
    rw [hs] at hread
    refine ⟨⟨?_, fun h => ?_⟩, ?_, ?_⟩
    · rintro ⟨ts, ⟨⟩⟩
    · cases hread with
      | unexpected hmem hc => exact absurd (h.1 _ hmem) (Bool.eq_false_iff.1 hc)
      | badNumber hbad => exact absurd h.2 hbad.not_forall
    · rintro ts ⟨⟩
    · rintro e' hallowed he
      cases he
      cases hread with
      | unexpected hmem hc => exact absurd (hallowed _ hmem) (Bool.eq_false_iff.1 hc)
      | badNumber hbad =>
        rw [Nat.zero_add]
        exact ⟨_, hbad, rfl, message_badNumber _ _⟩

/-- A text of three tokens, and one that passes the whitelist and fails at the run behind its sign,
which has two points. -/
theorem tokens_product_two_points :
    TokensOf " 2*.5".toList [.number 2, .operator '*', .number 0.5] ∧
    Formula.checkAllowed "1+2.3.4".toList = .ok () ∧
    tokens "1+2.3.4".toList = .error ⟨2, .badNumber "2.3.4".toList⟩ ∧
    FirstBadRun "1+2.3.4".toList 2 "2.3.4".toList := by
  have hproduct : TokensOf " 2*.5".toList [.number 2, .operator '*', .number 0.5] :=
    (tokens_eq_ok_iff " 2*.5".toList).2.1 _ (by decide +kernel)
  have hallowed : Formula.checkAllowed "1+2.3.4".toList = .ok () := rfl
  have htokens : tokens "1+2.3.4".toList = .error ⟨2, .badNumber "2.3.4".toList⟩ := by
    decide +kernel
  obtain ⟨run, hbad, hfault, -⟩ := (tokens_eq_ok_iff "1+2.3.4".toList).2.2 _ hallowed htokens
  cases hfault
  exact ⟨hproduct, hallowed, htokens, hbad⟩

end Read

end Arithmetic

end Recalc
