import Recalc.Proofs.Reference.Written

/-!
# Where a text can be cut

The references of a text that is put together from two parts are those of the first part and then
those of the second (`Piece.splitAfter_append`), unless the second part goes on with what the first
one ends with (`Parted`) or a quote is open between the two.
-/

namespace Recalc.Reference

open Formula (Opened isDelimiter)

/-! ## What a reader leaves -/

section Rest
variable {before : Option Char} {s rest : List Char}

theorem suffix_of_readQuotedName? {name : List Char}
    (h : readQuotedName? s = some (name, rest)) : rest <:+ s := by
  fun_induction readQuotedName? s generalizing name rest with
  | case1 => cases h
  | case2 r ih =>
    obtain ⟨⟨n, t⟩, hr, he⟩ := Option.map_eq_some_iff.1 h
    cases he
    exact (ih hr).trans ((List.suffix_cons _ r).trans (List.suffix_cons _ _))
  | case3 r =>
    cases h
    exact List.suffix_cons _ r
  | case4 c r _ _ ih =>
    obtain ⟨⟨n, t⟩, hr, he⟩ := Option.map_eq_some_iff.1 h
    cases he
    exact (ih hr).trans (List.suffix_cons c r)

theorem suffix_of_readSheet? {name : List Char} (h : readSheet? before s = some (name, rest)) :
    rest <:+ s := by
  unfold readSheet? at h
  split at h
  · cases h
  · rename_i r
    split at h
    · rename_i n t hn
      split at h
      · cases h
      · cases h
        have hquoted := suffix_of_readQuotedName? hn
        exact ((List.suffix_cons _ rest).trans hquoted).trans (List.suffix_cons _ r)
    · cases h
  · split at h
    · cases h
    · split at h
      · rename_i t ht
        cases h
        refine (List.suffix_cons '!' rest).trans ?_
        rw [← ht]
        exact List.dropWhile_suffix _
      · cases h

theorem suffix_of_readCoordinate? {c : Coordinate} (h : readCoordinate? s = some (c, rest)) :
    rest <:+ s := by
  unfold readCoordinate? at h
  dsimp only at h
  split at h
  · cases h
  · obtain ⟨d, -, he⟩ := Option.map_eq_some_iff.1 h
    cases he
    exact (List.dropWhile_suffix _).trans (List.dropWhile_suffix _)

theorem suffix_of_readTarget? {t : Target} (h : readTarget? s = some (t, rest)) : rest <:+ s := by
  obtain ⟨⟨first, r⟩, hf, he⟩ := Option.map_eq_some_iff.1 h
  have hfirst := suffix_of_readCoordinate? hf
  dsimp only at he
  split at he
  · rename_i r' hr
    split at he
    · rename_i second t' hs
      cases he
      have htrim : ':' :: r' <:+ r := hr ▸ List.dropWhile_suffix _
      have hsecond : rest <:+ r' := (suffix_of_readCoordinate? hs).trans (List.dropWhile_suffix _)
      exact ((hsecond.trans (List.suffix_cons ':' r')).trans htrim).trans hfirst
    · cases he
      exact hfirst
  · cases he
    exact hfirst

theorem suffix_of_read? {r : Reference} (h : read? before s = some (r, rest)) : rest <:+ s := by
  unfold read? at h
  split at h
  · rename_i name t hs
    obtain ⟨⟨target, u⟩, ht, he⟩ := Option.map_eq_some_iff.1 h
    cases he
    exact (suffix_of_readTarget? ht).trans (suffix_of_readSheet? hs)
  · split at h
    · cases h
    · obtain ⟨⟨target, u⟩, ht, he⟩ := Option.map_eq_some_iff.1 h
      cases he
      exact suffix_of_readTarget? ht

theorem exists_append_of_read? {r : Reference} (h : read? before s = some (r, rest)) :
    ∃ t, t ≠ [] ∧ t ++ rest = s := by
  obtain ⟨t, ht⟩ := suffix_of_read? h
  refine ⟨t, ?_, ht⟩
  rintro rfl
  have hlength := length_read? h
  rw [← ht] at hlength
  exact absurd hlength (Nat.lt_irrefl _)

/-- What holds of the empty text, and goes on from what is left once a piece is read, holds of every
text behind every character. -/
theorem read_induction {motive : Option Char → List Char → Prop} (hnil : ∀ b, motive b [])
    (hgap : ∀ b c r, read? b (c :: r) = none → motive (some c) r → motive b (c :: r))
    (hfound : ∀ b t rest ref, t ≠ [] → read? b (t ++ rest) = some (ref, rest) →
      motive t.getLast? rest → motive b (t ++ rest)) (before : Option Char) (s : List Char) :
    motive before s := by
  induction hn : s.length using Nat.strongRecOn generalizing s before with
  | ind n ih =>
    cases hs : read? before s with
    | none =>
      cases s with
      | nil => exact hnil before
      | cons c r => exact hgap before c r hs (ih r.length (hn ▸ Nat.lt_succ_self _) _ r rfl)
    | some p =>
      obtain ⟨ref, rest⟩ := p
      obtain ⟨t, ht, rfl⟩ := exists_append_of_read? hs
      have hlength : rest.length < n := by
        rw [← hn]
        exact length_read? hs
      exact hfound before t rest ref ht hs (ih rest.length hlength _ rest rfl)

theorem getLast?_of_suffix (h : rest <:+ s) (hne : rest ≠ []) : rest.getLast? = s.getLast? := by
  obtain ⟨t, rfl⟩ := h
  rw [List.getLast?_append, List.getLast?_eq_some_getLast hne]
  rfl

theorem suffix_trimStart (s : List Char) : Text.trimStart s <:+ s :=
  List.dropWhile_suffix _

end Rest

theorem Ends.left (h : Ends (s ++ rest)) : Ends s := by
  obtain ⟨hhead, hbang⟩ := h
  refine ⟨fun c hc => hhead c ?_, fun hs => hbang ?_⟩
  · rw [List.head?_append, show s.head? = some c from hc]
    rfl
  · rcases Text.dropWhile_append_cases isNameChar s rest with ⟨hnil, -⟩ | ⟨c, t, -, hc, heq, -⟩
    · rw [hnil] at hs
      cases hs
    · rw [hc] at hs
      rw [heq]
      exact hs

/-- What goes on with no sheet name may stand in the place of what did not either. -/
theorem Ends.exchange {rest' : List Char} (h : Ends (s ++ rest)) (hne : s ≠ [])
    (hr : (rest'.dropWhile isNameChar).head? ≠ some '!') : Ends (s ++ rest') := by
  refine ⟨?_, ?_⟩
  · obtain ⟨c, t, rfl⟩ := List.exists_cons_of_ne_nil hne
    exact h.isWord_head
  · rcases Text.dropWhile_append_cases isNameChar s rest' with
      ⟨-, heq⟩ | ⟨c, t, -, hc, heq, -⟩
    · rwa [heq]
    · have hbang := h.left.head_dropWhile
      rw [hc] at hbang
      rw [heq]
      exact hbang

/-! ## Readers by their parts -/

/-- What stands behind the character `d` at the start of a text. -/
def behind? (d : Char) : List Char → Option (List Char)
  | [] => none
  | c :: r => if c = d then some r else none

theorem behind?_eq_none {d : Char} {s : List Char} (h : s.head? ≠ some d) : behind? d s = none := by
  cases s with
  | nil => rfl
  | cons c r =>
    refine if_neg ?_
    rintro rfl
    exact h rfl

theorem behind?_of_ne_cons {d : Char} {s : List Char} (h : ∀ r, s ≠ d :: r) :
    behind? d s = none := by
  refine behind?_eq_none fun hhead => ?_
  obtain ⟨r, hr⟩ := List.head?_eq_some_iff.1 hhead
  exact h r hr

theorem eq_cons_of_behind? {d : Char} {s r : List Char} (h : behind? d s = some r) :
    s = d :: r := by
  cases s with
  | nil => cases h
  | cons c s =>
    rw [behind?] at h
    split at h
    · rename_i hc
      rw [hc, Option.some.inj h]
    · cases h

theorem behind?_cons_append (d c : Char) (s rest : List Char) :
    behind? d (c :: (s ++ rest)) = (behind? d (c :: s)).map (· ++ rest) := by
  rw [behind?, behind?]
  split <;> rfl

theorem behind?_append {d : Char} {rest : List Char} (h : rest.head? ≠ some d) (s : List Char) :
    behind? d (s ++ rest) = (behind? d s).map (· ++ rest) := by
  cases s with
  | nil => exact behind?_eq_none h
  | cons c s => exact behind?_cons_append d c s rest

theorem readSheet?_quote (before : Option Char) (r : List Char) :
    readSheet? before ('\'' :: r) = (readQuotedName? r).bind fun p =>
      (behind? '!' p.2).bind fun rest => if p.1.isEmpty then none else some (p.1, rest) := by
  rw [readSheet?]
  cases readQuotedName? r with
  | none => rfl
  | some p =>
    obtain ⟨name, u⟩ := p
    rw [Option.bind_some]
    split
    · rename_i name' rest h
      cases h
      rfl
    · rename_i h
      have hne : ∀ rest, u ≠ '!' :: rest := by
        rintro rest rfl
        exact h name rest rfl
      rw [behind?_of_ne_cons hne]
      rfl

theorem readSheet?_plain (before : Option Char) {c : Char} (hc : c ≠ '\'') (r : List Char) :
    readSheet? before (c :: r) =
      if before.any Text.isWord || !Text.isWord c then none
      else (behind? '!' ((c :: r).dropWhile isNameChar)).map fun rest =>
        ((c :: r).takeWhile isNameChar, rest) := by
  rw [readSheet?]
  · split
    · rfl
    · split
      · rename_i rest h
        rw [h]
        rfl
      · rename_i h
        rw [behind?_of_ne_cons h]
        rfl
  · exact hc

/-- A colon and the second coordinate of a range. -/
def readSecond? (s : List Char) : Option (Coordinate × List Char) :=
  (behind? ':' (Text.trimStart s)).bind fun r => readCoordinate? (Text.trimStart r)

theorem readTarget?_eq (s : List Char) : readTarget? s = (readCoordinate? s).map fun p =>
    (readSecond? p.2).elim (.cell p.1, p.2) fun q => (.range ⟨p.1, q.1⟩, q.2) := by
  rw [readTarget?]
  refine congrArg (Option.map · _) (funext fun p => ?_)
  obtain ⟨first, rest⟩ := p
  rw [readSecond?]
  dsimp only
  split
  · rename_i r hr
    rw [hr, show behind? ':' (':' :: r) = some r from rfl, Option.bind_some]
    cases readCoordinate? (Text.trimStart r) <;> rfl
  · rename_i h
    rw [behind?_of_ne_cons h]
    rfl

/-! ## Readers on longer texts -/

/-- Nothing that is read in a text that ends with `last` goes on in `rest`. -/
structure Parted (last : Option Char) (rest : List Char) : Prop where
  coordinate : (∀ c ∈ last, c.isAlphanum = false) ∨ ∀ c ∈ rest.head?, Text.isWord c = false
  colon : (Text.trimStart rest).head? ≠ some ':'
  second : readCoordinate? (Text.trimStart rest) = none
  quote : rest.head? ≠ some '\''
  bang : (rest.dropWhile isNameChar).head? ≠ some '!'

theorem readCoordinate?_append {s rest : List Char}
    (h : (∃ c ∈ s, c.isAlphanum = false) ∨ ∀ c ∈ rest.head?, Text.isWord c = false) :
    readCoordinate? (s ++ rest) = (readCoordinate? s).map fun p => (p.1, p.2 ++ rest) := by
  have halpha : (∃ c ∈ s, c.isAlpha = false) ∨ ∀ c ∈ rest.head?, c.isAlpha = false := by
    refine h.imp ?_ fun h c hc => Formula.isAlpha_of_isWord_eq_false (h c hc)
    rintro ⟨c, hc, hclass⟩
    exact ⟨c, hc, (Bool.or_eq_false_iff.1 hclass).1⟩
  have hdigit : (∃ c ∈ s.dropWhile Char.isAlpha, c.isDigit = false) ∨
      ∀ c ∈ rest.head?, c.isDigit = false := by
    refine h.imp ?_ fun h c hc => Formula.isDigit_of_isWord_eq_false (h c hc)
    rintro ⟨c, hc, hclass⟩
    obtain ⟨ha, hd⟩ := Bool.or_eq_false_iff.1 hclass
    exact ⟨c, Text.mem_dropWhile hc ha, hd⟩
  have hword : (((s.dropWhile Char.isAlpha).dropWhile Char.isDigit) ++ rest).head?.any Text.isWord =
      ((s.dropWhile Char.isAlpha).dropWhile Char.isDigit).head?.any Text.isWord := by
    cases hs : (s.dropWhile Char.isAlpha).dropWhile Char.isDigit with
    | cons c r => rfl
    | nil =>
      rcases h with ⟨c, hc, hclass⟩ | h
      · obtain ⟨ha, hd⟩ := Bool.or_eq_false_iff.1 hclass
        have hmem := Text.mem_dropWhile (Text.mem_dropWhile hc ha) hd
        rw [hs] at hmem
        cases hmem
      · cases rest with
        | nil => rfl
        | cons c r => exact h c rfl
  rw [readCoordinate?, readCoordinate?, Text.takeWhile_append_of_ends halpha,
    Text.dropWhile_append_of_ends halpha, Text.takeWhile_append_of_ends hdigit,
    Text.dropWhile_append_of_ends hdigit]
  simp only [hword]
  split
  · rfl
  · rw [Option.map_map]
    rfl

namespace Parted
variable {s t rest : List Char} {before : Option Char}

theorem of_suffix (h : Parted s.getLast? rest) (ht : t <:+ s) : Parted t.getLast? rest := by
  obtain ⟨hcoordinate, hcolon, hsecond, hquote, hbang⟩ := h
  refine ⟨?_, hcolon, hsecond, hquote, hbang⟩
  by_cases hnil : t = []
  · subst hnil
    refine Or.inl ?_
    intro c hc
    cases hc
  · rwa [getLast?_of_suffix ht hnil]

theorem readCoordinate?_append (h : Parted s.getLast? rest) (hne : s ≠ []) :
    readCoordinate? (s ++ rest) = (readCoordinate? s).map fun p => (p.1, p.2 ++ rest) := by
  refine Reference.readCoordinate?_append (h.coordinate.imp_left fun hlast => ?_)
  have hmem := List.getLast?_eq_some_getLast hne
  exact ⟨s.getLast hne, List.getLast_mem hne, hlast _ hmem⟩

theorem head_ne_bang (h : Parted s.getLast? rest) : rest.head? ≠ some '!' := by
  intro hhead
  obtain ⟨r, rfl⟩ := List.head?_eq_some_iff.1 hhead
  exact h.bang rfl

theorem readCoordinate?_rest (h : Parted s.getLast? rest) : readCoordinate? rest = none := by
  cases rest with
  | nil => rfl
  | cons c r =>
    by_cases hb : Text.isBlank c = true
    · refine readCoordinate?_eq_none ?_
      have ha := Formula.isAlpha_of_isDelimiter (Formula.isDelimiter_of_isBlank hb)
      rw [List.takeWhile_cons_of_neg (by rw [ha]; decide)]
      exact ofParts?_nil_left _
    · have hsecond := h.second
      rwa [Text.trimStart_cons_of_not_isBlank (by simpa using hb)] at hsecond

theorem readSecond?_append (h : Parted s.getLast? rest) :
    readSecond? (s ++ rest) = (readSecond? s).map fun p => (p.1, p.2 ++ rest) := by
  rw [readSecond?, readSecond?]
  rcases Text.trimStart_append_cases s rest with ⟨hnil, heq⟩ | ⟨c, t, ht, heq⟩
  · rw [heq, hnil, behind?_eq_none h.colon]
    rfl
  · have hsuffix : c :: t <:+ s := ht ▸ suffix_trimStart s
    rw [heq, ht, behind?_cons_append]
    cases hu : behind? ':' (c :: t) with
    | none => rfl
    | some u =>
      obtain rfl : t = u := (List.cons.inj (eq_cons_of_behind? hu)).2
      have hu : Text.trimStart t <:+ s :=
        (suffix_trimStart t).trans ((List.suffix_cons c t).trans hsuffix)
      have hparted := h.of_suffix hu
      rw [Option.map_some, Option.bind_some, Option.bind_some]
      rcases Text.trimStart_append_cases t rest with ⟨hnil, heq⟩ | ⟨d, v, hv, heq⟩
      · rw [heq, hnil]
        exact h.second
      · rw [hv] at hparted ⊢
        rw [heq, ← List.cons_append, hparted.readCoordinate?_append (List.cons_ne_nil d v)]

theorem readTarget?_append (h : Parted s.getLast? rest) (hne : s ≠ []) :
    readTarget? (s ++ rest) = (readTarget? s).map fun p => (p.1, p.2 ++ rest) := by
  rw [readTarget?_eq, readTarget?_eq, h.readCoordinate?_append hne, Option.map_map, Option.map_map]
  cases hfirst : readCoordinate? s with
  | none => rfl
  | some p =>
    have hparted := h.of_suffix (suffix_of_readCoordinate? hfirst)
    refine congrArg some ?_
    simp only [Function.comp, hparted.readSecond?_append]
    cases readSecond? p.2 <;> rfl

end Parted

/-- A parenthesis or an operator goes on with nothing. -/
theorem parted_mark (last : Option Char) {c : Char} (hc : Formula.isMark c = true)
    (rest : List Char) : Parted last (c :: rest) := by
  have hd := Formula.isDelimiter_of_isMark hc
  have hb : Text.isBlank c = false := by
    rcases Formula.isMark_cases hc with rfl | rfl | rfl | rfl | rfl | rfl <;> rfl
  have hne : ∀ {d : Char}, isDelimiter d = false → (c :: rest).head? ≠ some d := by
    intro d hdelimiter h
    cases h
    rw [hd] at hdelimiter
    cases hdelimiter
  refine ⟨Or.inr ?_, ?_, ?_, hne rfl, ?_⟩
  · rintro d ⟨⟩
    exact Formula.isWord_of_isDelimiter hd
  · rw [Text.trimStart_cons_of_not_isBlank hb]
    exact hne rfl
  · rw [Text.trimStart_cons_of_not_isBlank hb]
    refine readCoordinate?_eq_none ?_
    rw [List.takeWhile_cons_of_neg (by rw [Formula.isAlpha_of_isDelimiter hd]; decide)]
    exact ofParts?_nil_left _
  · rw [List.dropWhile_cons_of_neg
      (by rw [isNameChar_of_isDelimiter hd]; exact Bool.false_ne_true)]
    exact hne rfl

theorem readQuotedName?_eq_none {s : List Char} (h : '\'' ∉ s) : readQuotedName? s = none := by
  induction s with
  | nil => rfl
  | cons c r ih =>
    rw [List.mem_cons, not_or] at h
    rw [readQuotedName?, ih h.2]
    · rfl
    · rintro s rfl
      exact absurd rfl h.1
    · rintro rfl
      exact absurd rfl h.1

theorem readQuotedName?_append {s rest : List Char} (h : rest.head? ≠ some '\'')
    (hq : '\'' ∉ rest ∨ (readQuotedName? s).isSome) :
    readQuotedName? (s ++ rest) = (readQuotedName? s).map fun p => (p.1, p.2 ++ rest) := by
  fun_induction readQuotedName? s with
  | case1 =>
    rcases hq with hq | hq
    · exact readQuotedName?_eq_none hq
    · cases hq
  | case2 r ih =>
    rw [Option.isSome_map] at hq
    rw [List.cons_append, List.cons_append, readQuotedName?, ih hq, Option.map_map, Option.map_map]
    rfl
  | case3 r hr =>
    rw [List.cons_append, readQuotedName?]
    · rfl
    · intro u hu
      cases r with
      | nil =>
        rw [List.nil_append] at hu
        rw [hu] at h
        exact h rfl
      | cons c r =>
        cases hu
        exact hr r rfl
  | case4 c r hdouble hquote ih =>
    rw [Option.isSome_map] at hq
    rw [List.cons_append, readQuotedName?, ih hq, Option.map_map, Option.map_map]
    · rfl
    · rintro u rfl
      exact absurd rfl hquote
    · exact hquote

namespace Parted
variable {s rest : List Char} {before : Option Char}

theorem readSheet?_append (h : Parted s.getLast? rest) (hne : s ≠ [])
    (hq : '\'' ∉ rest ∨ (s.head? = some '\'' → (readSheet? before s).isSome)) :
    readSheet? before (s ++ rest) =
      (readSheet? before s).map fun p => (p.1, p.2 ++ rest) := by
  obtain ⟨c, r, rfl⟩ := List.exists_cons_of_ne_nil hne
  by_cases hc : c = '\''
  · subst hc
    have hname : '\'' ∉ rest ∨ (readQuotedName? r).isSome := by
      refine hq.imp_right fun hsome => ?_
      have hsheet := hsome rfl
      rw [readSheet?_quote] at hsheet
      cases hr : readQuotedName? r with
      | none =>
        rw [hr] at hsheet
        cases hsheet
      | some p => rfl
    rw [List.cons_append, readSheet?_quote, readSheet?_quote, readQuotedName?_append h.quote hname]
    cases readQuotedName? r with
    | none => rfl
    | some p =>
      rw [Option.map_some, Option.bind_some, Option.bind_some, behind?_append h.head_ne_bang]
      cases behind? '!' p.2 with
      | none => rfl
      | some u =>
        simp only [Option.map_some, Option.bind_some]
        split <;> rfl
  · rw [List.cons_append, readSheet?_plain before hc, readSheet?_plain before hc]
    split
    · rfl
    · rw [← List.cons_append]
      rcases Text.dropWhile_append_cases isNameChar (c :: r) rest with
        ⟨hnil, heq⟩ | ⟨d, u, -, hu, heq, htake⟩
      · rw [heq, hnil, behind?_eq_none h.bang]
        rfl
      · rw [heq, hu, htake, behind?_cons_append, Option.map_map, Option.map_map]
        rfl

theorem read?_quote (before : Option Char) (r : List Char)
    (h : (read? before ('\'' :: r)).isSome) : (readSheet? before ('\'' :: r)).isSome := by
  rw [read?] at h
  cases hs : readSheet? before ('\'' :: r) with
  | some p => rfl
  | none =>
    have hcoordinate : readCoordinate? ('\'' :: r) = none :=
      readCoordinate?_eq_none (ofParts?_nil_left _)
    rw [hs] at h
    simp only [readTarget?, hcoordinate] at h
    split at h <;> cases h

theorem read?_append (h : Parted s.getLast? rest) (hne : s ≠ [])
    (hq : '\'' ∉ rest ∨ (s.head? = some '\'' → (read? before s).isSome)) :
    read? before (s ++ rest) = (read? before s).map fun p => (p.1, p.2 ++ rest) := by
  have hsheet : '\'' ∉ rest ∨ (s.head? = some '\'' → (readSheet? before s).isSome) := by
    refine hq.imp_right fun hsome hhead => ?_
    obtain ⟨r, rfl⟩ := List.head?_eq_some_iff.1 hhead
    exact read?_quote before r (hsome hhead)
  rw [read?, read?, h.readSheet?_append hne hsheet]
  cases hs : readSheet? before s with
  | none =>
    simp only [Option.map_none]
    split
    · rfl
    · rw [h.readTarget?_append hne, Option.map_map, Option.map_map]
      rfl
  | some p =>
    obtain ⟨name, r⟩ := p
    simp only [Option.map_some]
    have hparted := h.of_suffix (suffix_of_readSheet? hs)
    by_cases hr : r = []
    · subst hr
      have hnone : readTarget? rest = none := by
        rw [readTarget?, h.readCoordinate?_rest]
        rfl
      rw [List.nil_append, hnone]
      rfl
    · rw [hparted.readTarget?_append hr, Option.map_map, Option.map_map]
      rfl

end Parted

/-! ## Pieces of longer texts -/

namespace Piece
variable {before before' : Option Char} {s t rest : List Char}

/-- Every quote of a text belongs to the sheet name of a reference. -/
def Quoted (before : Option Char) (s : List Char) : Prop :=
  ∀ p ∈ splitAfter before s, p.text ≠ ['\'']

instance (before : Option Char) (s : List Char) : Decidable (Quoted before s) :=
  inferInstanceAs (Decidable (∀ p ∈ splitAfter before s, p.text ≠ ['\'']))

/-- A text is cut where nothing is read across and no quote is open. -/
theorem splitAfter_append (h : Parted s.getLast? rest) (hq : '\'' ∉ rest ∨ Quoted before s) :
    splitAfter before (s ++ rest) =
      splitAfter before s ++ splitAfter (s.getLast?.or before) rest := by
  induction before, s using read_induction with
  | hnil b =>
    rw [splitAfter]
    rfl
  | hgap b c r hs ih =>
    have hsome : '\'' ∉ rest ∨ ((c :: r).head? = some '\'' → (read? b (c :: r)).isSome) := by
      refine hq.imp_right fun hquoted hhead => ?_
      obtain rfl := Option.some.inj hhead
      refine absurd rfl (hquoted (gap '\'') ?_)
      rw [splitAfter_gap hs]
      exact List.mem_cons_self ..
    have hread := h.read?_append (List.cons_ne_nil c r) hsome
    rw [hs] at hread
    rw [List.cons_append] at hread ⊢
    rw [splitAfter_gap hs, splitAfter_gap hread, List.cons_append]
    refine congrArg _ ?_
    rw [ih (h.of_suffix (List.suffix_cons c r)), List.getLast?_cons]
    · cases r.getLast? <;> rfl
    · refine hq.imp_right fun hquoted p hp => hquoted p ?_
      rw [splitAfter_gap hs]
      exact List.mem_cons_of_mem _ hp
  | hfound b t u ref ht hs ih =>
    have hne : t ++ u ≠ [] := List.append_ne_nil_of_left_ne_nil ht u
    have hread := h.read?_append hne (Or.inr fun _ => by rw [hs]; rfl)
    rw [hs, List.append_assoc] at hread
    rw [splitAfter_found ht hs, List.append_assoc, splitAfter_found ht hread, List.cons_append]
    refine congrArg _ ?_
    rw [ih (h.of_suffix (List.suffix_append t u)), List.getLast?_append,
      Option.or_assoc, List.getLast?_eq_some_getLast ht, Option.some_or]
    refine hq.imp_right fun hquoted p hp => hquoted p ?_
    rw [splitAfter_found ht hs]
    exact List.mem_cons_of_mem _ hp

theorem Quoted.of_append (h : Parted s.getLast? rest) (hs : '\'' ∉ rest ∨ Quoted before s)
    (hq : Quoted before (s ++ rest)) :
    Quoted before s ∧ Quoted (s.getLast?.or before) rest := by
  rw [Quoted, splitAfter_append h hs] at hq
  refine ⟨fun p hp => hq p (List.mem_append_left _ hp), fun p hp => ?_⟩
  exact hq p (List.mem_append_right _ hp)

theorem Quoted.tail {c : Char} (hc : isDelimiter c = true) (hq : Quoted before (c :: rest)) :
    Quoted (some c) rest := by
  rw [Quoted, splitAfter_gap (read?_of_isDelimiter hc before rest)] at hq
  exact fun p hp => hq p (List.mem_cons_of_mem _ hp)

theorem quoted_of_not_mem (before : Option Char) (h : '\'' ∉ s) : Quoted before s := by
  induction before, s using read_induction with
  | hnil b =>
    intro p hp
    rw [splitAfter] at hp
    cases hp
  | hgap b c r hread ih =>
    rw [List.mem_cons, not_or] at h
    intro p hp
    rw [splitAfter_gap hread] at hp
    rcases List.mem_cons.1 hp with rfl | hp
    · intro hc
      exact h.1 (List.cons.inj hc).1.symm
    · exact ih h.2 p hp
  | hfound b t rest ref ht hread ih =>
    rw [List.mem_append, not_or] at h
    intro p hp
    rw [splitAfter_found ht hread] at hp
    rcases List.mem_cons.1 hp with rfl | hp
    · intro hc
      rw [show t = ['\''] from hc] at h
      exact h.1 (List.mem_cons_self ..)
    · exact ih h.2 p hp

/-! ## Texts behind different characters -/

theorem splitAfter_eq_of_read?_eq (h : read? before s = read? before' s) :
    splitAfter before s = splitAfter before' s := by
  cases hs : read? before' s with
  | none =>
    cases s with
    | nil => rw [splitAfter, splitAfter]
    | cons c r => rw [splitAfter_gap hs, splitAfter_gap (h.trans hs)]
  | some p =>
    obtain ⟨r, u⟩ := p
    obtain ⟨t, ht, rfl⟩ := exists_append_of_read? hs
    rw [splitAfter_found ht hs, splitAfter_found ht (h.trans hs)]

theorem readSheet?_congr (h : before.any Text.isWord = before'.any Text.isWord) :
    readSheet? before s = readSheet? before' s := by
  cases s with
  | nil => rfl
  | cons c r =>
    by_cases hc : c = '\''
    · subst hc
      rw [readSheet?_quote, readSheet?_quote]
    · rw [readSheet?_plain before hc, readSheet?_plain before' hc, h]

theorem splitAfter_of_opened (h : Opened before) (h' : Opened before') (s : List Char) :
    splitAfter before s = splitAfter before' s := by
  refine splitAfter_eq_of_read?_eq ?_
  rw [read?, read?, readSheet?_congr (h.any_isWord.trans h'.any_isWord.symm), h.any_isAlphanum,
    h'.any_isAlphanum]

/-- What does not start with a word character is read alike behind any character. -/
theorem splitAfter_of_isWord_eq_false (h : ∀ c ∈ s.head?, Text.isWord c = false)
    (before before' : Option Char) : splitAfter before s = splitAfter before' s := by
  refine splitAfter_eq_of_read?_eq ?_
  cases s with
  | nil =>
    have hnone : ∀ b : Option Char, read? b [] = none := by
      intro b
      cases hs : read? b [] with
      | none => rfl
      | some p => exact absurd (length_read? hs) (Nat.not_lt_zero _)
    rw [hnone, hnone]
  | cons c r =>
    have hword : Text.isWord c = false := h c rfl
    have hsheet : readSheet? before (c :: r) = readSheet? before' (c :: r) := by
      by_cases hc : c = '\''
      · subst hc
        rw [readSheet?_quote, readSheet?_quote]
      · rw [readSheet?_plain before hc, readSheet?_plain before' hc, hword, Bool.not_false,
          Bool.or_true, Bool.or_true]
    have hcoordinate : readCoordinate? (c :: r) = none := by
      refine readCoordinate?_eq_none ?_
      rw [List.takeWhile_cons_of_neg
        (by rw [Formula.isAlpha_of_isWord_eq_false hword]; decide)]
      exact ofParts?_nil_left _
    rw [read?, read?, hsheet, readTarget?, hcoordinate]
    cases readSheet? before' (c :: r) with
    | some p => rfl
    | none => simp only [Option.map_none, ite_self]

theorem splitAfter_of_eq_or_ends (h : before' = before ∨ Ends (s ++ rest)) :
    splitAfter before' s = splitAfter before s := by
  rcases h with rfl | hends
  · rfl
  · exact splitAfter_of_isWord_eq_false hends.left.isWord_head before' before

/-! ## Texts without references -/

theorem splitAfter_gaps (h : ∀ c r, c :: r <:+ t → ∀ b, read? b (c :: r ++ rest) = none) :
    splitAfter before (t ++ rest) = t.map gap ++ splitAfter (t.getLast?.or before) rest := by
  induction t generalizing before with
  | nil => rfl
  | cons c r ih =>
    have hread := h c r (List.suffix_refl _) before
    rw [List.cons_append] at hread ⊢
    rw [splitAfter_gap hread, ih fun d u hu => h d u (hu.trans (List.suffix_cons c r)),
      List.getLast?_cons]
    cases r.getLast? <;> rfl

theorem splitAfter_inert (ht : Inert t) (hr : Ends rest) :
    splitAfter before (t ++ rest) = t.map gap ++ splitAfter (t.getLast?.or before) rest := by
  refine splitAfter_gaps fun c r hsuffix b => ?_
  exact (ht.of_suffix hsuffix).read?_eq_none (List.cons_ne_nil c r) hr b

theorem splitAfter_blanks (ht : ∀ c ∈ t, Text.isBlank c = true) :
    splitAfter before (t ++ rest) = t.map gap ++ splitAfter (t.getLast?.or before) rest := by
  refine splitAfter_gaps fun c r hsuffix b => ?_
  have hblank := ht c (hsuffix.mem (List.mem_cons_self ..))
  exact read?_of_isDelimiter (Formula.isDelimiter_of_isBlank hblank) b (r ++ rest)

end Piece

/-! ## References -/

/-- The references of a text behind a character. -/
def allAfter (before : Option Char) (s : List Char) : List Reference :=
  (Piece.splitAfter before s).filterMap Piece.reference?

section All
variable {before : Option Char} {s t rest : List Char} {r : Reference}

theorem filterMap_gap (t : List Char) : (t.map Piece.gap).filterMap Piece.reference? = [] := by
  rw [List.filterMap_map, List.filterMap_eq_nil_iff]
  intro c _
  rfl

theorem mem_allAfter_append (h : Parted s.getLast? rest)
    (hq : '\'' ∉ rest ∨ Piece.Quoted before s) : r ∈ allAfter before (s ++ rest) ↔
      r ∈ allAfter before s ∨ r ∈ allAfter (s.getLast?.or before) rest := by
  rw [allAfter, Piece.splitAfter_append h hq, List.filterMap_append, List.mem_append]
  rfl

theorem mem_allAfter_inert (ht : Inert t) (hr : Ends rest) :
    r ∈ allAfter before (t ++ rest) ↔ r ∈ allAfter (t.getLast?.or before) rest := by
  rw [allAfter, Piece.splitAfter_inert ht hr, List.filterMap_append, filterMap_gap]
  rfl

theorem mem_allAfter_delimiter {c : Char} (hc : isDelimiter c = true) :
    r ∈ allAfter before (c :: rest) ↔ r ∈ allAfter (some c) rest := by
  rw [allAfter, Piece.splitAfter_gap (read?_of_isDelimiter hc before rest)]
  exact Iff.rfl

theorem parted_blanks (last : Option Char) (h : ∀ c ∈ rest, Text.isBlank c = true) :
    Parted last rest := by
  have htrim : Text.trimStart rest = [] := by
    have happend := Text.trimStart_append h []
    rwa [List.append_nil] at happend
  have hhead : ∀ c ∈ rest.head?, isDelimiter c = true := fun c hc =>
    Formula.isDelimiter_of_isBlank (h c (List.mem_of_mem_head? hc))
  refine ⟨Or.inr fun c hc => Formula.isWord_of_isDelimiter (hhead c hc), ?_, ?_, ?_, ?_⟩
  · rw [htrim]
    rintro ⟨⟩
  · rw [htrim]
    rfl
  · intro hquote
    cases hhead _ hquote
  · rw [Text.dropWhile_eq_self fun c hc => isNameChar_of_isDelimiter (hhead c hc)]
    intro hbang
    cases hhead _ hbang

/-- Blanks around a text hold none of its references. -/
theorem mem_allAfter_of_mem_all_trim (hb : Opened before) (h : r ∈ all (Text.trim s)) :
    r ∈ allAfter before s := by
  obtain ⟨left, right, hs, hleft, hright⟩ := Text.exists_trim s
  have hquote : '\'' ∉ right := by
    intro hmem
    cases hright _ hmem
  have hopened : Opened (left.getLast?.or before) := by
    cases hlast : left.getLast? with
    | none => exact hb
    | some c =>
      have hblank := hleft c (List.mem_of_mem_getLast? hlast)
      exact Formula.opened_some (Formula.isDelimiter_of_isBlank hblank)
  rw [hs, List.append_assoc, allAfter, Piece.splitAfter_blanks hleft, List.filterMap_append,
    filterMap_gap, List.nil_append]
  refine (mem_allAfter_append (parted_blanks _ hright) (Or.inl hquote)).2 (Or.inl ?_)
  rw [allAfter, Piece.splitAfter_of_opened hopened Formula.opened_none]
  exact h

end All

end Recalc.Reference
