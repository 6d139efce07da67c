import Recalc.Proofs.Arithmetic.Parse

/-!
# The grammar of arithmetic

`Phrase.Derives` is the grammar that the parser reads, and a phrase is a derivation: it keeps the
parentheses that its tree drops. The phrases that derive are the well-formed ones
(`Phrase.derives_expr_iff`), and these are what the parser accepts. So `parse` gives the tree of a
token list that has a derivation within the limits of nesting and height, and no token list has two
derivations (`parse_eq_ok_iff_derives`).
-/

namespace Recalc.Arithmetic

inductive Nonterminal
  | expr
  | term
  | unary
  | primary

/-- The greatest rank of what derives from a nonterminal. -/
def Nonterminal.maxRank : Nonterminal → Nat
  | expr => 2
  | term => 1
  | unary => 0
  | primary => 0

namespace Phrase
variable {α : Type}

/-- A chain of operators, grouped to the left. -/
def chained (first : Phrase α) (links : List (Char × Phrase α)) : Phrase α :=
  links.foldl (fun l q => binary q.1 l q.2) first

/-- The derivations from each nonterminal:
`expr := term (('+'|'-') term)*`, `term := unary (('*'|'/') unary)*`,
`unary := ('+'|'-') unary | primary` and `primary := number | '(' expr ')'`. -/
inductive Derives : Nonterminal → Phrase α → Prop
  | number (a : α) : Derives .primary (operand a)
  | group {p : Phrase α} (h : Derives .expr p) : Derives .primary (group p)
  | primary {p : Phrase α} (h : Derives .primary p) : Derives .unary p
  | sign {c : Char} {p : Phrase α} (hc : isAdditive c = true) (h : Derives .unary p) :
      Derives .unary (sign c p)
  | term {first : Phrase α} {links : List (Char × Phrase α)} (h : Derives .unary first)
      (hc : ∀ q ∈ links, isMultiplicative q.1 = true) (hl : ∀ q ∈ links, Derives .unary q.2) :
      Derives .term (chained first links)
  | expr {first : Phrase α} {links : List (Char × Phrase α)} (h : Derives .term first)
      (hc : ∀ q ∈ links, isAdditive q.1 = true) (hl : ∀ q ∈ links, Derives .term q.2) :
      Derives .expr (chained first links)

variable {p q : Phrase α} {first : Phrase α} {links : List (Char × Phrase α)}

/-! ## Derivations are the well-formed phrases -/

theorem chained_concat (first : Phrase α) (links : List (Char × Phrase α)) (c : Char)
    (p : Phrase α) : chained first (links ++ [(c, p)]) = binary c (chained first links) p := by
  rw [chained, List.foldl_append]
  rfl

theorem Derives.times {c : Char} (hp : Derives .term p) (hc : isMultiplicative c = true)
    (hq : Derives .unary q) : Derives .term (binary c p q) := by
  cases hp with
  | @term first links h hcs hl =>
    rw [← chained_concat]
    exact .term h (List.forall_mem_append.2 ⟨hcs, List.forall_mem_singleton.2 hc⟩)
      (List.forall_mem_append.2 ⟨hl, List.forall_mem_singleton.2 hq⟩)

theorem Derives.plus {c : Char} (hp : Derives .expr p) (hc : isAdditive c = true)
    (hq : Derives .term q) : Derives .expr (binary c p q) := by
  cases hp with
  | @expr first links h hcs hl =>
    rw [← chained_concat]
    exact .expr h (List.forall_mem_append.2 ⟨hcs, List.forall_mem_singleton.2 hc⟩)
      (List.forall_mem_append.2 ⟨hl, List.forall_mem_singleton.2 hq⟩)

theorem Derives.single_term (h : Derives .unary p) : Derives .term p := by
  show Derives .term (chained p [])
  exact .term h (fun _ hq => by cases hq) (fun _ hq => by cases hq)

theorem Derives.single_expr (h : Derives .term p) : Derives .expr p := by
  show Derives .expr (chained p [])
  exact .expr h (fun _ hq => by cases hq) (fun _ hq => by cases hq)

/-- A phrase derives from each nonterminal that its rank allows. -/
structure DerivesByRank (p : Phrase α) : Prop where
  unary : p.rank = 0 → Derives .unary p
  term : p.rank ≤ 1 → Derives .term p
  expr : Derives .expr p

theorem Derives.byRank (h : Derives .unary p) : DerivesByRank p :=
  ⟨fun _ => h, fun _ => h.single_term, h.single_term.single_expr⟩

theorem WellFormed.derivesByRank (hp : p.WellFormed) : DerivesByRank p := by
  induction p with
  | operand a => exact (Derives.primary (.number a)).byRank
  | sign c e ih =>
    obtain ⟨hc, hr, he⟩ := hp
    exact (Derives.sign hc ((ih he).unary hr)).byRank
  | group e ih => exact (Derives.primary (.group (ih hp).expr)).byRank
  | binary c l r ihl ihr =>
    obtain ⟨⟨hc, hl, hr⟩ | ⟨hc, hr⟩, hwl, hwr⟩ := hp
    · have hrank : (binary c l r).rank = 1 := by rw [rank, if_pos hc]
      have hterm := ((ihl hwl).term hl).times hc ((ihr hwr).unary hr)
      exact ⟨by omega, fun _ => hterm, hterm.single_expr⟩
    · have hrank : (binary c l r).rank = 2 := by
        rw [rank, isMultiplicative_eq_false_of_isAdditive hc]
        rfl
      exact ⟨by omega, by omega, (ihl hwl).expr.plus hc ((ihr hwr).term hr)⟩

/-- A well-formed phrase that binds no more weakly than a rank allows. -/
def WellFormedWithin (rank : Nat) (p : Phrase α) : Prop :=
  p.WellFormed ∧ p.rank ≤ rank

theorem WellFormedWithin.product {c : Char} (hc : isMultiplicative c = true)
    (hp : p.WellFormedWithin 1) (hq : q.WellFormedWithin 0) :
    (binary c p q).WellFormedWithin 1 := by
  refine ⟨⟨Or.inl ⟨hc, hp.2, Nat.le_zero.1 hq.2⟩, hp.1, hq.1⟩, ?_⟩
  exact Nat.le_of_eq (by rw [rank, if_pos hc])

theorem WellFormedWithin.sum {c : Char} (hc : isAdditive c = true)
    (hp : p.WellFormedWithin 2) (hq : q.WellFormedWithin 1) :
    (binary c p q).WellFormedWithin 2 := by
  refine ⟨⟨Or.inr ⟨hc, hq.2⟩, hp.1, hq.1⟩, ?_⟩
  rw [rank]
  split <;> decide

/-- A chain is well formed if a link that is put behind a well-formed phrase keeps it so. -/
theorem WellFormedWithin.chained {op : Char → Bool} {k : Nat}
    (hop : ∀ (c : Char) (p q : Phrase α), op c = true → p.WellFormedWithin (k + 1) →
      q.WellFormedWithin k → (binary c p q).WellFormedWithin (k + 1))
    (h : first.WellFormedWithin k) (hc : ∀ q ∈ links, op q.1 = true)
    (hl : ∀ q ∈ links, q.2.WellFormedWithin k) :
    (Phrase.chained first links).WellFormedWithin (k + 1) :=
  List.foldlRecOn links _ ⟨h.1, Nat.le_succ_of_le h.2⟩
    fun p hp q hq => hop q.1 p q.2 (hc q hq) hp (hl q hq)

theorem Derives.wellFormedWithin {n : Nonterminal} (h : Derives n p) :
    p.WellFormedWithin n.maxRank := by
  induction h with
  | number a => exact ⟨trivial, Nat.le_refl 0⟩
  | group _ ih => exact ⟨ih.1, Nat.le_refl 0⟩
  | primary _ ih => exact ih
  | sign hc _ ih => exact ⟨⟨hc, Nat.le_zero.1 ih.2, ih.1⟩, Nat.le_refl 0⟩
  | term _ hc _ ihf ihl => exact .chained (fun _ _ _ => .product) ihf hc ihl
  | expr _ hc _ ihf ihl => exact .chained (fun _ _ _ => .sum) ihf hc ihl

/-- The grammar derives exactly the phrases that are well formed. -/
theorem derives_expr_iff : Derives .expr p ↔ p.WellFormed :=
  ⟨fun h => h.wellFormedWithin.1, fun hp => hp.derivesByRank.expr⟩

end Phrase

/-! ## No token list has two derivations -/

namespace Phrase
variable {p q : Phrase Float} {first : Phrase Float} {links links' : List (Char × Phrase Float)}
  {op : Char → Bool} {rest rest' : List Token}

/-- The tokens of the operators and operands behind the first one of a chain. -/
def linkTokens (links : List (Char × Phrase Float)) : List Token :=
  links.flatMap fun q => .operator q.1 :: q.2.tokens

theorem tokens_chained (hc : ∀ q ∈ links, (Symbol.mark q.1).token = .operator q.1) :
    (chained first links).tokens = first.tokens ++ linkTokens links := by
  induction links generalizing first with
  | nil => exact (List.append_nil _).symm
  | cons q links ih =>
    show (chained (binary q.1 first q.2) links).tokens = _
    rw [ih fun r hr => hc r (List.mem_cons_of_mem q hr),
      tokens_binary (hc q (List.mem_cons_self ..)), linkTokens, linkTokens, List.flatMap_cons,
      List.append_assoc]

/-- What may follow a phrase that derives from a nonterminal, for it to end there. -/
def Follows : Nonterminal → List Token → Prop
  | .expr, rest => Ends isAdditive rest ∧ Ends isMultiplicative rest
  | .term, rest => Ends isMultiplicative rest
  | .unary, _ => True
  | .primary, _ => True

/-- A phrase is the only one that derives from a nonterminal at the front of its tokens. -/
def Only (n : Nonterminal) (p : Phrase Float) : Prop :=
  ∀ q rest rest', Derives n q → Follows n rest → Follows n rest' →
    p.tokens ++ rest = q.tokens ++ rest' → p = q ∧ rest = rest'

theorem linkTokens_cons_append (q : Char × Phrase Float) (links : List (Char × Phrase Float))
    (rest : List Token) : linkTokens (q :: links) ++ rest =
      .operator q.1 :: (q.2.tokens ++ (linkTokens links ++ rest)) := by
  rw [linkTokens, List.flatMap_cons, List.append_assoc, List.cons_append]
  rfl

section Links
variable {n : Nonterminal}
  (hf : ∀ c rest, op c = true → Follows n (.operator c :: rest))
include hf

theorem follows_linkTokens (hc : ∀ q ∈ links, op q.1 = true) (hr : Follows n rest) :
    Follows n (linkTokens links ++ rest) := by
  cases links with
  | nil => exact hr
  | cons q links =>
    rw [linkTokens_cons_append]
    exact hf q.1 _ (hc q (List.mem_cons_self ..))

/-- The links of a chain are the only ones at the front of their tokens. -/
theorem links_unique (hc : ∀ q ∈ links, op q.1 = true) (hc' : ∀ q ∈ links', op q.1 = true)
    (hl : ∀ q ∈ links, Only n q.2) (hl' : ∀ q ∈ links', Derives n q.2)
    (he : Ends op rest) (he' : Ends op rest') (hr : Follows n rest) (hr' : Follows n rest')
    (h : linkTokens links ++ rest = linkTokens links' ++ rest') :
    links = links' ∧ rest = rest' := by
  induction links generalizing links' with
  | nil =>
    cases links' with
    | nil => exact ⟨rfl, h⟩
    | cons q' links' =>
      rw [linkTokens_cons_append] at h
      have hhead : rest.head? = some (.operator q'.1) := congrArg List.head? h
      exact absurd hhead (he q'.1 (hc' q' (List.mem_cons_self ..)))
  | cons q links ih =>
    cases links' with
    | nil =>
      rw [linkTokens_cons_append] at h
      have hhead : rest'.head? = some (.operator q.1) := (congrArg List.head? h).symm
      exact absurd hhead (he' q.1 (hc q (List.mem_cons_self ..)))
    | cons q' links' =>
      have hct : ∀ r ∈ links, op r.1 = true := fun r hr => hc r (List.mem_cons_of_mem q hr)
      have hct' : ∀ r ∈ links', op r.1 = true := fun r hr => hc' r (List.mem_cons_of_mem q' hr)
      rw [linkTokens_cons_append, linkTokens_cons_append] at h
      obtain ⟨hop, htail⟩ := List.cons.inj h
      obtain ⟨hq, hrest⟩ := hl q (List.mem_cons_self ..) q'.2 _ _ (hl' q' (List.mem_cons_self ..))
        (follows_linkTokens hf hct hr) (follows_linkTokens hf hct' hr') htail
      obtain ⟨rfl, rfl⟩ := ih hct hct' (fun r hr => hl r (List.mem_cons_of_mem q hr))
        (fun r hr => hl' r (List.mem_cons_of_mem q' hr)) hrest
      exact ⟨by rw [Prod.ext (Token.operator.inj hop) hq], rfl⟩

end Links

theorem follows_term_of_isAdditive (c : Char) (rest : List Token) (hc : isAdditive c = true) :
    Follows .term (.operator c :: rest) :=
  ends_operator (isMultiplicative_eq_false_of_isAdditive hc) rest

theorem Derives.only {n : Nonterminal} (h : Derives n p) : Only n p := by
  induction h with
  | number x =>
    intro q rest rest' hq _ _ h
    cases hq with
    | number y =>
      obtain ⟨hx, hrest⟩ := List.cons.inj h
      exact ⟨congrArg operand (Token.number.inj hx), hrest⟩
    | group hq => cases (List.cons.inj h).1
  | @group p _ ih =>
    intro q rest rest' hq _ _ h
    cases hq with
    | number y => cases (List.cons.inj h).1
    | @group q hq =>
      rw [tokens_group, tokens_group, List.cons_append, List.cons_append, List.append_assoc,
        List.append_assoc] at h
      have hends (r : List Token) : Follows .expr ([Token.closeParen] ++ r) :=
        ⟨ends_closeParen _ r, ends_closeParen _ r⟩
      obtain ⟨rfl, hrest⟩ := ih q _ _ hq (hends _) (hends _) (List.cons.inj h).2
      exact ⟨rfl, (List.cons.inj hrest).2⟩
  | primary hp ih =>
    intro q rest rest' hq _ _ h
    cases hq with
    | primary hq => exact ih q rest rest' hq trivial trivial h
    | @sign c q hc hq =>
      rw [tokens_sign (Symbol.token_mark_of_isAdditive hc)] at h
      cases hp with
      | number x => cases (List.cons.inj h).1
      | group hp => cases (List.cons.inj h).1
  | @sign c p hc _ ih =>
    intro q rest rest' hq _ _ h
    rw [tokens_sign (Symbol.token_mark_of_isAdditive hc)] at h
    cases hq with
    | primary hq =>
      cases hq with
      | number x => cases (List.cons.inj h).1
      | group hq => cases (List.cons.inj h).1
    | @sign d q hd hq =>
      rw [tokens_sign (Symbol.token_mark_of_isAdditive hd)] at h
      obtain ⟨hcd, htail⟩ := List.cons.inj h
      obtain ⟨rfl, hrest⟩ := ih q rest rest' hq trivial trivial htail
      exact ⟨by rw [Token.operator.inj hcd], hrest⟩
  | @term first links _ hc _ ihf ihl =>
    intro q rest rest' hq hr hr' h
    cases hq with
    | @term first' links' hf' hc' hl' =>
      have ht (c : Char) := Symbol.token_mark_of_isMultiplicative (c := c)
      rw [tokens_chained fun q hq => ht _ (hc q hq), tokens_chained fun q hq => ht _ (hc' q hq),
        List.append_assoc, List.append_assoc] at h
      obtain ⟨rfl, hlinks⟩ := ihf first' _ _ hf' trivial trivial h
      obtain ⟨rfl, hrest⟩ := links_unique (n := .unary) (fun _ _ _ => trivial) hc hc' ihl hl' hr hr'
        trivial trivial hlinks
      exact ⟨rfl, hrest⟩
  | @expr first links _ hc _ ihf ihl =>
    intro q rest rest' hq hr hr' h
    cases hq with
    | @expr first' links' hf' hc' hl' =>
      have ht (c : Char) := Symbol.token_mark_of_isAdditive (c := c)
      have hf := follows_term_of_isAdditive
      rw [tokens_chained fun q hq => ht _ (hc q hq), tokens_chained fun q hq => ht _ (hc' q hq),
        List.append_assoc, List.append_assoc] at h
      obtain ⟨rfl, hlinks⟩ := ihf first' _ _ hf' (follows_linkTokens hf hc hr.2)
        (follows_linkTokens hf hc' hr'.2) h
      obtain ⟨rfl, hrest⟩ := links_unique hf hc hc' ihl hl' hr.1 hr'.1 hr.2 hr'.2 hlinks
      exact ⟨rfl, hrest⟩

end Phrase

/-! ## What is parsed is well formed -/

section Sound
variable {op : Char → Bool} {operand : List Token → Reading} {P : Phrase Float → Prop}
  {e : Expr} {tokens rest : List Token}

/-- Whatever `operand` reads are the tokens of a phrase with the property. -/
def Accepts (operand : List Token → Reading) (P : Phrase Float → Prop) : Prop :=
  ∀ tokens e rest, operand tokens = .ok (e, rest) → ∃ p, P p ∧ tokens = p.tokens ++ rest

theorem grown_eq_ok {e' : Expr} {rest' : List Token} (h : grown e rest = .ok (e', rest')) :
    e' = e ∧ rest' = rest := by
  unfold grown at h
  split at h
  · cases h
  · cases h
    exact ⟨rfl, rfl⟩

theorem exists_links_of_chainFrom (ho : Accepts operand P) {fuel : Nat} {left : Expr}
    (h : chainFrom op operand fuel left tokens = .ok (e, rest)) :
    ∃ links : List (Char × Phrase Float), (∀ q ∈ links, op q.1 = true) ∧ (∀ q ∈ links, P q.2) ∧
      tokens = Phrase.linkTokens links ++ rest := by
  fun_induction chainFrom op operand fuel left tokens with
  | case1 fuel left c tokens hc right tokens' hright e' tokens'' hgrown ih =>
    obtain ⟨links, hcs, hps, hlinks⟩ := ih h
    obtain ⟨p, hp, hp'⟩ := ho _ _ _ hright
    obtain ⟨-, rfl⟩ := grown_eq_ok hgrown
    refine ⟨(c, p) :: links, List.forall_mem_cons.2 ⟨hc, hcs⟩, List.forall_mem_cons.2 ⟨hp, hps⟩, ?_⟩
    rw [Phrase.linkTokens_cons_append, ← hlinks, hp']
  | case2 => cases h
  | case3 => cases h
  | case4 =>
    cases h
    exact ⟨[], by simp, by simp, rfl⟩
  | case5 =>
    cases h
    exact ⟨[], by simp, by simp, rfl⟩

theorem exists_chain_of_chain (ho : Accepts operand P)
    (h : chain op operand tokens = .ok (e, rest)) :
    ∃ first, ∃ links : List (Char × Phrase Float), P first ∧ (∀ q ∈ links, op q.1 = true) ∧
      (∀ q ∈ links, P q.2) ∧ tokens = first.tokens ++ Phrase.linkTokens links ++ rest := by
  unfold chain at h
  split at h
  · rename_i left tokens' hfirst
    obtain ⟨first, hf, htokens⟩ := ho _ _ _ hfirst
    obtain ⟨links, hcs, hps, hlinks⟩ := exists_links_of_chainFrom ho h
    exact ⟨first, links, hf, hcs, hps, by rw [htokens, hlinks, List.append_assoc]⟩
  · cases h

theorem accepts_chain {k : Nat}
    (hmark : ∀ c, op c = true → (Symbol.mark c).token = .operator c)
    (hop : ∀ (c : Char) (p q : Phrase Float), op c = true → p.WellFormedWithin (k + 1) →
      q.WellFormedWithin k → (Phrase.binary c p q).WellFormedWithin (k + 1))
    (ho : Accepts operand (Phrase.WellFormedWithin k)) :
    Accepts (chain op operand) (Phrase.WellFormedWithin (k + 1)) := by
  intro tokens e rest h
  obtain ⟨first, links, hf, hcs, hps, htokens⟩ := exists_chain_of_chain ho h
  refine ⟨_, .chained hop hf hcs hps, ?_⟩
  rwa [Phrase.tokens_chained fun q hq => hmark q.1 (hcs q hq)]

theorem accepts_sum (ho : Accepts operand (Phrase.WellFormedWithin 0)) :
    Accepts (sum operand) (Phrase.WellFormedWithin 2) := by
  have hproduct : Accepts (chain isMultiplicative operand) (Phrase.WellFormedWithin 1) :=
    accepts_chain (fun _ => Symbol.token_mark_of_isMultiplicative) (fun _ _ _ => .product) ho
  exact accepts_chain (fun _ => Symbol.token_mark_of_isAdditive) (fun _ _ _ => .sum) hproduct

theorem accepts_unary_of_lower {budget : Nat}
    (ih : ∀ b, budget = b + 1 → Accepts (unary b) (Phrase.WellFormedWithin 0)) :
    Accepts (unary budget) (Phrase.WellFormedWithin 0) := by
  intro tokens e rest h
  unfold unary at h
  split at h
  · cases h
  · rename_i x rest'
    cases h
    exact ⟨.operand x, ⟨trivial, Nat.le_refl 0⟩, rfl⟩
  · cases h
  · rename_i c tokens
    split at h
    · rename_i hc
      split at h
      · cases h
      · rename_i budget
        split at h
        · rename_i e' rest' hread
          obtain ⟨p, ⟨hp, hrank⟩, htokens⟩ := ih budget rfl _ _ _ hread
          obtain ⟨-, rfl⟩ := grown_eq_ok h
          refine ⟨.sign c p, ⟨⟨hc, Nat.le_zero.1 hrank, hp⟩, Nat.le_refl 0⟩, ?_⟩
          rw [Phrase.tokens_sign (Symbol.token_mark_of_isAdditive hc), htokens]
          rfl
        · cases h
    · cases h
  · cases h
  · rename_i budget tokens
    split at h
    · rename_i e' rest' hread
      cases h
      obtain ⟨p, hp, htokens⟩ := accepts_sum (ih budget rfl) _ _ _ hread
      refine ⟨.group p, ⟨hp.1, Nat.le_refl 0⟩, ?_⟩
      rw [Phrase.tokens_group, htokens, List.cons_append, List.append_assoc]
      rfl
    · cases h
    · cases h

theorem accepts_unary (budget : Nat) : Accepts (unary budget) (Phrase.WellFormedWithin 0) := by
  induction budget with
  | zero => exact accepts_unary_of_lower fun b h => by cases h
  | succ budget ih =>
    refine accepts_unary_of_lower fun b h => ?_
    rwa [← Nat.succ.inj h]

theorem exists_wellFormed_of_parse (h : parse tokens = .ok e) :
    ∃ p : Phrase Float, p.WellFormed ∧ p.tokens = tokens := by
  unfold parse at h
  split at h
  · cases h
  · split at h
    · rename_i e' hread
      obtain ⟨p, hp, htokens⟩ := accepts_sum (accepts_unary maxNesting) _ _ _ hread
      exact ⟨p, hp.1, by rw [htokens, List.append_nil]⟩
    · cases h
    · cases h

end Sound

/-- The parser gives the trees of the derivations of a token list that keep to the limits: no
operand stands inside more than `maxNesting` parentheses and signs together, and no tree has more
than `maxHeight` levels. A token list has one derivation at most. -/
theorem parse_eq_ok_iff_derives (tokens : List Token) :
    (∀ e, parse tokens = .ok e ↔ ∃ p : Phrase Float, p.Derives .expr ∧ p.tokens = tokens ∧
      p.tree = e ∧ p.depth ≤ maxNesting ∧ e.height ≤ maxHeight) ∧
    Subsingleton {p : Phrase Float // p.Derives .expr ∧ p.tokens = tokens} := by
  constructor
  · intro e
    simp only [Phrase.derives_expr_iff]
    constructor
    · intro h
      obtain ⟨p, hp, rfl⟩ := exists_wellFormed_of_parse h
      exact ⟨p, hp, rfl, (Phrase.parse_tokens_eq_ok_iff hp).1 h⟩
    · rintro ⟨p, hp, rfl, h⟩
      exact (Phrase.parse_tokens_eq_ok_iff hp).2 h
  · constructor
    rintro ⟨p, hp, htokens⟩ ⟨q, hq, rfl⟩
    have hends : Phrase.Follows .expr [] := ⟨ends_nil _, ends_nil _⟩
    refine Subtype.ext (hp.only q [] [] hq hends hends ?_).1
    rw [htokens]

end Recalc.Arithmetic
