import Recalc.Proofs.Arithmetic.Phrase

/-!
# Parsing phrases

`parse` reads the tokens of a well-formed phrase as its tree when the phrase keeps to the limits of
nesting and height, and as nothing otherwise (`Phrase.parse_tokens`). A phrase is read as far as its
rank allows (`ReadsByRank`): alone what binds tightest, as the first part of a chain what is one
step weaker. The chain is followed in the direction in which it grows, with whatever stands behind
the phrase.
-/

namespace Recalc.Arithmetic

/-! ## Operators -/

theorem isMultiplicative_eq_false_of_isAdditive {c : Char} (h : isAdditive c = true) :
    isMultiplicative c = false := by
  simp only [isAdditive, Bool.or_eq_true, beq_iff_eq] at h
  rcases h with rfl | rfl <;> rfl

theorem Symbol.token_mark_of_isAdditive {c : Char} (h : isAdditive c = true) :
    (mark c).token = .operator c := by
  simp only [isAdditive, Bool.or_eq_true, beq_iff_eq] at h
  rcases h with rfl | rfl <;> rfl

theorem Symbol.token_mark_of_isMultiplicative {c : Char} (h : isMultiplicative c = true) :
    (mark c).token = .operator c := by
  simp only [isMultiplicative, Bool.or_eq_true, beq_iff_eq] at h
  rcases h with rfl | rfl <;> rfl

/-! ## Reading parts of a token list -/

/-- The operators that may not follow, for a chain of strength `op` to end. -/
def Ends (op : Char → Bool) (rest : List Token) : Prop :=
  ∀ c, op c = true → rest.head? ≠ some (.operator c)

/-- In front of `rest`, a phrase is read as its tree if it fits, and refused if not. -/
structure Reads (operand : List Token → Reading) (budget : Nat) (p : Phrase Float)
    (rest : List Token) : Prop where
  of_fits : p.Fits budget → operand (p.tokens ++ rest) = .ok (p.tree, rest)
  of_not_fits : ¬ p.Fits budget → ∃ e, operand (p.tokens ++ rest) = .error e

/-- In front of `rest`, a phrase that fits is the first part of a chain; any other is refused. -/
structure Begins (op : Char → Bool) (operand : List Token → Reading) (budget : Nat)
    (p : Phrase Float) (rest : List Token) : Prop where
  of_fits : p.Fits budget → ∃ fuel, rest.length ≤ fuel ∧
    chain op operand (p.tokens ++ rest) = chainFrom op operand fuel p.tree rest
  of_not_fits : ¬ p.Fits budget → ∃ e, chain op operand (p.tokens ++ rest) = .error e

theorem ends_closeParen (op : Char → Bool) (rest : List Token) : Ends op (.closeParen :: rest) := by
  intro c _ h
  cases h

theorem ends_nil (op : Char → Bool) : Ends op [] := by
  intro c _ h
  cases h

theorem ends_operator {op : Char → Bool} {c : Char} (hc : op c = false) (rest : List Token) :
    Ends op (.operator c :: rest) := by
  intro d hd h
  cases h
  rw [hc] at hd
  cases hd

namespace Phrase

theorem fits_operand (budget : Nat) (x : Float) : (operand x).Fits budget := by
  refine ⟨Nat.zero_le _, ?_⟩
  show 1 ≤ maxHeight
  decide

theorem fits_binary {budget : Nat} {c : Char} {l r : Phrase Float} :
    (binary c l r).Fits budget ↔
      l.Fits budget ∧ r.Fits budget ∧ (Expr.binary c l.tree r.tree).height ≤ maxHeight := by
  simp only [Fits, depth, tree, Expr.height]
  omega

theorem fits_sign {budget : Nat} {c : Char} {e : Phrase Float} :
    (sign c e).Fits (budget + 1) ↔ e.Fits budget ∧ (Expr.unary c e.tree).height ≤ maxHeight := by
  simp only [Fits, depth, tree, Expr.height]
  omega

theorem fits_group {budget : Nat} {e : Phrase Float} :
    (group e).Fits (budget + 1) ↔ e.Fits budget := by
  simp only [Fits, depth, tree]
  omega

theorem tokens_binary {c : Char} (hc : (Symbol.mark c).token = .operator c) (l r : Phrase Float) :
    (binary c l r).tokens = l.tokens ++ .operator c :: r.tokens := by
  rw [tokens, symbols, List.map_append, List.map_cons, hc]; rfl

theorem tokens_sign {c : Char} (hc : (Symbol.mark c).token = .operator c) (e : Phrase Float) :
    (sign c e).tokens = .operator c :: e.tokens := by
  rw [tokens, symbols, List.map_cons, hc]; rfl

theorem tokens_group (e : Phrase Float) :
    (group e).tokens = .openParen :: (e.tokens ++ [.closeParen]) := by
  rw [tokens, symbols, List.map_cons, List.map_append]; rfl

end Phrase

section Chain
variable {op : Char → Bool} {operand : List Token → Reading} {budget : Nat} {p l r : Phrase Float}
  {rest : List Token}

theorem chainFrom_eq_ok {fuel : Nat} {left : Expr} (h : Ends op rest) :
    chainFrom op operand fuel left rest = .ok (left, rest) := by
  fun_cases chainFrom op operand fuel left rest with
  | case1 fuel left c rest hc => exact absurd rfl (h c hc)
  | case2 fuel left c rest hc => exact absurd rfl (h c hc)
  | case3 fuel left c rest hc => exact absurd rfl (h c hc)
  | case4 => rfl
  | case5 => rfl

theorem Reads.begins (h : Reads operand budget p rest) : Begins op operand budget p rest := by
  constructor
  · intro hf
    refine ⟨rest.length, Nat.le_refl _, ?_⟩
    rw [chain, h.of_fits hf]
  · intro hf
    obtain ⟨e, he⟩ := h.of_not_fits hf
    exact ⟨e, by rw [chain, he]⟩

theorem Begins.reads (h : Begins op operand budget p rest) (hr : Ends op rest) :
    Reads (chain op operand) budget p rest := by
  refine ⟨fun hf => ?_, h.of_not_fits⟩
  obtain ⟨fuel, -, hc⟩ := h.of_fits hf
  rw [hc, chainFrom_eq_ok hr]

theorem Begins.binary {c : Char} (hc : op c = true) (ht : (Symbol.mark c).token = .operator c)
    (hl : Begins op operand budget l (.operator c :: (r.tokens ++ rest)))
    (hr : Reads operand budget r rest) : Begins op operand budget (.binary c l r) rest := by
  have htokens : (Phrase.binary c l r).tokens ++ rest =
      l.tokens ++ .operator c :: (r.tokens ++ rest) := by
    rw [Phrase.tokens_binary ht, List.append_assoc, List.cons_append]
  by_cases hfl : l.Fits budget
  · obtain ⟨fuel, hfuel, hchain⟩ := hl.of_fits hfl
    rw [List.length_cons, List.length_append] at hfuel
    obtain ⟨fuel, rfl⟩ : ∃ n, fuel = n + 1 := ⟨fuel - 1, by omega⟩
    rw [chainFrom, if_pos hc] at hchain
    constructor
    · intro hf
      obtain ⟨-, hfr, hheight⟩ := Phrase.fits_binary.1 hf
      refine ⟨fuel, by omega, ?_⟩
      rw [htokens, hchain, hr.of_fits hfr]
      simp only [grown, if_neg (Nat.not_lt.2 hheight)]
      rfl
    · intro hf
      rw [htokens, hchain]
      by_cases hfr : r.Fits budget
      · have hheight : maxHeight < (Expr.binary c l.tree r.tree).height :=
          Nat.lt_of_not_le fun h => hf (Phrase.fits_binary.2 ⟨hfl, hfr, h⟩)
        rw [hr.of_fits hfr]
        simp only [grown, if_pos hheight]
        exact ⟨_, rfl⟩
      · obtain ⟨e, he⟩ := hr.of_not_fits hfr
        rw [he]
        exact ⟨e, rfl⟩
  · have hf : ¬ (Phrase.binary c l r).Fits budget := fun h => hfl (Phrase.fits_binary.1 h).1
    refine ⟨fun h => absurd h hf, fun _ => ?_⟩
    rw [htokens]
    exact hl.of_not_fits hfl

end Chain

/-! ## The parser -/

theorem reads_operand (budget : Nat) (x : Float) (rest : List Token) :
    Reads (unary budget) budget (.operand x) rest := by
  refine ⟨fun _ => ?_, fun h => absurd (Phrase.fits_operand budget x) h⟩
  show unary budget (.number x :: rest) = .ok (.number x, rest)
  rw [unary]

theorem reads_sign {c : Char} (hc : isAdditive c = true) {e : Phrase Float} {rest : List Token}
    (h : ∀ budget, Reads (unary budget) budget e rest) (budget : Nat) :
    Reads (unary budget) budget (.sign c e) rest := by
  have ht := Phrase.tokens_sign (Symbol.token_mark_of_isAdditive hc) e
  cases budget with
  | zero =>
    refine ⟨fun hf => absurd hf.1 (Nat.not_succ_le_zero _), fun _ => ?_⟩
    rw [ht, List.cons_append, unary, if_pos hc]
    exact ⟨_, rfl⟩
  | succ budget =>
    constructor
    · intro hf
      obtain ⟨hfe, hheight⟩ := Phrase.fits_sign.1 hf
      rw [ht, List.cons_append, unary, if_pos hc, (h budget).of_fits hfe]
      simp only [grown, if_neg (Nat.not_lt.2 hheight)]
      rfl
    · intro hf
      rw [ht, List.cons_append, unary, if_pos hc]
      by_cases hfe : e.Fits budget
      · have hheight : maxHeight < (Expr.unary c e.tree).height :=
          Nat.lt_of_not_le fun h => hf (Phrase.fits_sign.2 ⟨hfe, h⟩)
        rw [(h budget).of_fits hfe]
        simp only [grown, if_pos hheight]
        exact ⟨_, rfl⟩
      · obtain ⟨s, hs⟩ := (h budget).of_not_fits hfe
        rw [hs]
        exact ⟨s, rfl⟩

theorem reads_group {e : Phrase Float} {rest : List Token}
    (h : ∀ budget, Reads (sum (unary budget)) budget e (.closeParen :: rest)) (budget : Nat) :
    Reads (unary budget) budget (.group e) rest := by
  have ht : (Phrase.group e).tokens ++ rest = .openParen :: (e.tokens ++ .closeParen :: rest) := by
    rw [Phrase.tokens_group, List.cons_append, List.append_assoc]; rfl
  cases budget with
  | zero =>
    refine ⟨fun hf => absurd hf.1 (Nat.not_succ_le_zero _), fun _ => ?_⟩
    rw [ht, unary]
    exact ⟨_, rfl⟩
  | succ budget =>
    constructor
    · intro hf
      rw [ht, unary, (h budget).of_fits (Phrase.fits_group.1 hf)]
      rfl
    · intro hf
      obtain ⟨s, hs⟩ := (h budget).of_not_fits fun hfe => hf (Phrase.fits_group.2 hfe)
      rw [ht, unary, hs]
      exact ⟨s, rfl⟩

/-- A phrase is read as far as its rank allows: alone, as a product, or as a sum. -/
structure ReadsByRank (budget : Nat) (p : Phrase Float) (rest : List Token) : Prop where
  alone : p.rank = 0 → Reads (unary budget) budget p rest
  product : p.rank ≤ 1 → Begins isMultiplicative (unary budget) budget p rest
  sum : Ends isMultiplicative rest →
    Begins isAdditive (chain isMultiplicative (unary budget)) budget p rest

theorem Begins.readsByRank {budget : Nat} {p : Phrase Float} {rest : List Token}
    (h : Begins isMultiplicative (unary budget) budget p rest) (hp : p.rank ≠ 0) :
    ReadsByRank budget p rest :=
  ⟨fun h0 => absurd h0 hp, fun _ => h, fun he => (h.reads he).begins⟩

theorem Reads.readsByRank {budget : Nat} {p : Phrase Float} {rest : List Token}
    (h : Reads (unary budget) budget p rest) : ReadsByRank budget p rest :=
  ⟨fun _ => h, fun _ => h.begins, fun he => (h.begins.reads he).begins⟩

theorem readsByRank {p : Phrase Float} (hp : p.WellFormed) (budget : Nat) (rest : List Token) :
    ReadsByRank budget p rest := by
  induction p generalizing budget rest with
  | operand x => exact (reads_operand budget x rest).readsByRank
  | sign c e ih =>
    obtain ⟨hc, hr, he⟩ := hp
    exact (reads_sign hc (fun b => (ih he b rest).alone hr) budget).readsByRank
  | group e ih =>
    refine (reads_group (fun b => ?_) budget).readsByRank
    exact ((ih hp b _).sum (ends_closeParen _ rest)).reads (ends_closeParen _ rest)
  | binary c l r ihl ihr =>
    obtain ⟨⟨hc, hl, hr⟩ | ⟨hc, hr⟩, hwl, hwr⟩ := hp
    · have hrank : (Phrase.binary c l r).rank = 1 := by rw [Phrase.rank, if_pos hc]
      refine Begins.readsByRank ?_ (by omega)
      exact ((ihl hwl budget _).product hl).binary hc (Symbol.token_mark_of_isMultiplicative hc)
        ((ihr hwr budget rest).alone hr)
    · have hm := isMultiplicative_eq_false_of_isAdditive hc
      have hrank : (Phrase.binary c l r).rank = 2 := by
        rw [Phrase.rank, hm]; rfl
      refine ⟨by omega, by omega, fun he => ?_⟩
      exact ((ihl hwl budget _).sum (ends_operator hm _)).binary hc
        (Symbol.token_mark_of_isAdditive hc) (((ihr hwr budget rest).product hr).reads he)

theorem Phrase.symbols_ne_nil {α : Type} (p : Phrase α) : p.symbols ≠ [] := by
  cases p <;> simp [symbols]

/-- A well-formed phrase is parsed as its tree if it fits, and refused if not. -/
theorem Phrase.parse_tokens {p : Phrase Float} (hp : p.WellFormed) :
    (parse p.tokens).toOption = if p.Fits maxNesting then some p.tree else none := by
  have hne : p.tokens.isEmpty = false := by simpa [tokens] using p.symbols_ne_nil
  have hr := ((readsByRank hp maxNesting []).sum (ends_nil _)).reads (ends_nil _)
  rw [parse, hne]
  by_cases hf : p.Fits maxNesting
  · have ht : Arithmetic.sum (unary maxNesting) p.tokens = .ok (p.tree, []) := by
      rw [← hr.of_fits hf, List.append_nil]; rfl
    rw [ht, if_pos hf]
    rfl
  · obtain ⟨s, hs⟩ := hr.of_not_fits hf
    have ht : Arithmetic.sum (unary maxNesting) p.tokens = .error s := by
      rw [← hs, List.append_nil]; rfl
    rw [ht, if_neg hf]
    rfl

theorem eq_ok_of_toOption {ε α : Type} {e : Except ε α} {a : α} (h : e.toOption = some a) :
    e = .ok a := by
  cases e with
  | error _ => cases h
  | ok b => exact congrArg _ (Option.some.inj h)

theorem Phrase.parse_tokens_eq_ok_iff {p : Phrase Float} (hp : p.WellFormed) {e : Expr} :
    parse p.tokens = .ok e ↔ p.tree = e ∧ p.depth ≤ maxNesting ∧ e.height ≤ maxHeight := by
  have hparse := parse_tokens hp
  constructor
  · intro h
    rw [h] at hparse
    split at hparse
    · rename_i hfits
      obtain rfl := Option.some.inj hparse
      exact ⟨rfl, hfits.1, hfits.2⟩
    · cases hparse
  · rintro ⟨rfl, hdepth, hheight⟩
    rw [if_pos ⟨hdepth, hheight⟩] at hparse
    exact eq_ok_of_toOption hparse

end Recalc.Arithmetic
