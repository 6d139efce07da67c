import Recalc.Proofs.Formula.Calls
import Recalc.Proofs.Reference.Boundary

/-!
# Calls in their text

A call of a text, with what stands in front of it and behind it, is a `Site`. If the call is
`Detached`, a text can be cut in front of it and behind it, and what it refers to, the text refers
to (`Site.Apart.mem_of_argument`).
-/

namespace Recalc

open Reference (Parted Ends allAfter)

/-! ## Calls and what stands around them -/

namespace Call

/-- A call with the text in front of it and behind it. -/
structure Site where
  before : List Char
  argument : List Char
  text : List Char
  after : List Char

namespace Site

/-- The calls among pieces that stand behind a text. -/
def ofPieces (before : List Char) : List Piece → List Site
  | [] => []
  | .call _ argument text :: pieces =>
    ⟨before, argument, text, pieces.flatMap Piece.text⟩ :: ofPieces (before ++ text) pieces
  | p :: pieces => ofPieces (before ++ p.text) pieces

/-- A call that does not mix with the text around it: each quote in front of it and in it belongs to
a sheet name there, and no word or sheet name goes on behind it. -/
structure Detached (before : Option Char) (c : Site) : Prop where
  front : Reference.Piece.Quoted before c.before
  whole : Reference.Piece.Quoted before (c.before ++ c.text)
  ends : Ends c.after

instance (before : Option Char) (c : Site) : Decidable (c.Detached before) :=
  decidable_of_iff (Reference.Piece.Quoted before c.before ∧
    Reference.Piece.Quoted before (c.before ++ c.text) ∧ Ends c.after)
    ⟨fun h => ⟨h.1, h.2.1, h.2.2⟩, fun h => ⟨h.front, h.whole, h.ends⟩⟩

/-- A detached call as the text was read. -/
structure Apart (before : Option Char) (c : Site) : Prop extends c.Detached before where
  isCall : IsCall c.argument c.text
  isAlphanum_last : ∀ d ∈ c.before.getLast?, d.isAlphanum = false

theorem ofPieces_kept {p : Piece} (hp : ∀ f argument text, p ≠ .call f argument text)
    (before : List Char) (pieces : List Piece) :
    ofPieces before (p :: pieces) = ofPieces (before ++ p.text) pieces := by
  cases p with
  | char c => rfl
  | lookalike t => rfl
  | call f argument text => exact absurd rfl (hp f argument text)

theorem mem_ofPieces_append {pieces : List Piece} {c : Site} {v : List Char}
    (hc : c ∈ ofPieces v pieces) (u : List Char) :
    ⟨u ++ c.before, c.argument, c.text, c.after⟩ ∈ ofPieces (u ++ v) pieces := by
  induction pieces generalizing v with
  | nil => cases hc
  | cons p pieces ih =>
    cases p with
    | char d =>
      have hmem := ih hc
      rwa [← List.append_assoc] at hmem
    | lookalike t =>
      have hmem := ih hc
      rwa [← List.append_assoc] at hmem
    | call f argument text =>
      rcases List.mem_cons.1 hc with rfl | hc
      · exact List.mem_cons_self ..
      · have hmem := ih hc
        rw [← List.append_assoc] at hmem
        exact List.mem_cons_of_mem _ hmem

theorem append_eq_of_mem_ofPieces {pieces : List Piece} {c : Site} {v : List Char}
    (hc : c ∈ ofPieces v pieces) :
    c.before ++ (c.text ++ c.after) = v ++ pieces.flatMap Piece.text := by
  induction pieces generalizing v with
  | nil => cases hc
  | cons p pieces ih =>
    rw [List.flatMap_cons, ← List.append_assoc v]
    cases p with
    | char d => exact ih hc
    | lookalike t => exact ih hc
    | call f argument text =>
      rcases List.mem_cons.1 hc with rfl | hc
      · rw [List.append_assoc]
        rfl
      · exact ih hc

theorem exists_mem_ofPieces {pieces : List Piece} {f : Aggregate} {argument text : List Char}
    (h : .call f argument text ∈ pieces) (v : List Char) :
    ∃ c ∈ ofPieces v pieces, c.argument = argument := by
  induction pieces generalizing v with
  | nil => cases h
  | cons p pieces ih =>
    rcases List.mem_cons.1 h with rfl | h
    · exact ⟨_, List.mem_cons_self .., rfl⟩
    · obtain ⟨c, hc, hargument⟩ := ih h (v ++ p.text)
      refine ⟨c, ?_, hargument⟩
      cases p with
      | char d => exact hc
      | lookalike t => exact hc
      | call g argument' text' => exact List.mem_cons_of_mem _ hc

end Site

/-- The calls of a text. -/
def sites (s : List Char) : List Site :=
  Site.ofPieces [] (Piece.split s)

theorem Piece.ofCall_cases (before : Option Char) (name argument text : List Char) :
    ofCall before name argument text = lookalike text ∨
      before.any Char.isAlphanum = false ∧
        ∃ f, ofCall before name argument text = call f argument text := by
  rw [ofCall]
  split
  · exact Or.inl rfl
  · rename_i hbefore
    split
    · rename_i f _
      exact Or.inr ⟨by simpa using hbefore, f, rfl⟩
    · exact Or.inl rfl

/-- The pieces of a text are the text, and its calls are calls that no letter or digit precedes. -/
theorem splitAfter_spec (s v : List Char) :
    (Piece.splitAfter v.getLast? s).flatMap Piece.text = s ∧
      ∀ c ∈ Site.ofPieces v (Piece.splitAfter v.getLast? s), IsCall c.argument c.text ∧
        ∀ d ∈ c.before.getLast?, d.isAlphanum = false := by
  induction hv : v.getLast?, s using read_induction generalizing v with
  | hnil b =>
    rw [Piece.splitAfter]
    refine ⟨rfl, ?_⟩
    intro c hc
    cases hc
  | hchar b c r hread ih =>
    have hnext := ih (v ++ [c]) List.getLast?_concat
    rw [Piece.splitAfter_char hread, List.flatMap_cons, hnext.1]
    exact ⟨rfl, hnext.2⟩
  | hcall b text rest name argument hcall hread ih =>
    have hne := hcall.ne_nil
    have hnext := ih (v ++ text) (by
      rw [List.getLast?_append, List.getLast?_eq_some_getLast hne, Option.some_or])
    rw [Piece.splitAfter_call hne hread, List.flatMap_cons, hnext.1]
    rcases Piece.ofCall_cases b name argument text with hkept | ⟨hbefore, f, hf⟩
    · rw [hkept]
      exact ⟨rfl, hnext.2⟩
    · rw [hf]
      refine ⟨rfl, fun d hd => ?_⟩
      rcases List.mem_cons.1 hd with rfl | hd
      · refine ⟨hcall, fun e he => ?_⟩
        rw [← hv, show v.getLast? = some e from he] at hbefore
        exact hbefore
      · exact hnext.2 d hd

/-! ## Cuts around a call -/

/-- The name of a function is no coordinate: no digit stands behind its letters. -/
theorem readCoordinate?_name {name rest : List Char} (hname : ∀ c ∈ name, isLetter c = true)
    (hrest : ∀ c ∈ rest.head?, Formula.isDelimiter c = true) :
    Reference.readCoordinate? (name ++ rest) = none := by
  refine Reference.readCoordinate?_eq_none ?_
  have hdigits : ((name ++ rest).dropWhile Char.isAlpha).takeWhile Char.isDigit = [] := by
    induction name with
    | nil =>
      rw [List.nil_append, Text.dropWhile_eq_self fun c hc =>
        Formula.isAlpha_of_isDelimiter (hrest c hc)]
      exact Text.takeWhile_eq_nil fun c hc => Formula.isDigit_of_isDelimiter (hrest c hc)
    | cons c name ih =>
      rw [List.cons_append, List.dropWhile_cons]
      split
      · exact ih fun d hd => hname d (List.mem_cons_of_mem c hd)
      · refine List.takeWhile_cons_of_neg ?_
        rw [isDigit_of_isLetter (hname c (List.mem_cons_self ..))]
        exact Bool.false_ne_true
  rw [hdigits]
  exact Reference.ofParts?_nil_right _

theorem head_blanks {outer : List Char} (hblank : ∀ c ∈ outer, Text.isBlank c = true)
    (rest : List Char) : ∀ c ∈ (outer ++ '(' :: rest).head?, Formula.isDelimiter c = true := by
  intro c hc
  cases outer with
  | nil =>
    cases hc
    rfl
  | cons d outer =>
    cases hc
    exact Formula.isDelimiter_of_isBlank (hblank _ (List.mem_cons_self ..))

namespace IsCall
variable {argument text : List Char}

theorem parted (h : IsCall argument text) {last : Option Char}
    (hlast : ∀ c ∈ last, c.isAlphanum = false) (rest : List Char) :
    Parted last (text ++ rest) := by
  obtain ⟨c, r, htext, hc⟩ := h.head
  have hword := isWord_of_isLetter hc
  have hb : Text.isBlank c = false :=
    Formula.isBlank_of_isDelimiter_eq_false (Formula.isDelimiter_of_isWord hword)
  have hne : ∀ {d : Char}, Text.isWord d = false → (text ++ rest).head? ≠ some d := by
    intro d hd h
    rw [htext] at h
    cases h
    rw [hword] at hd
    cases hd
  have htrim : Text.trimStart (text ++ rest) = text ++ rest := by
    rw [htext]
    exact Text.trimStart_cons_of_not_isBlank hb
  refine ⟨Or.inl hlast, ?_, ?_, hne rfl, ?_⟩
  · rw [htrim]
    exact hne rfl
  · rw [htrim]
    obtain ⟨-, hname, hblank, -⟩ := h
    rw [List.append_assoc, List.append_assoc, List.cons_append]
    exact readCoordinate?_name hname (head_blanks hblank _)
  · cases h with
    | @intro name outer inner _ hname hblank _ =>
      have hletters : ∀ c ∈ name, Reference.isNameChar c = true := by
        intro c hc
        rw [Reference.isNameChar, isWord_of_isLetter (hname c hc), Bool.true_or]
      have hdelimiter := head_blanks hblank (inner ++ [')'] ++ rest)
      have hends := Text.dropWhile_run hletters _ fun c hc =>
        Reference.isNameChar_of_isDelimiter (hdelimiter c hc)
      rw [List.append_assoc, List.append_assoc, List.cons_append, hends]
      intro hbang
      cases hdelimiter _ hbang

/-- The references of the argument are references of the call. -/
theorem mem_allAfter_of_mem_argument (h : IsCall argument text) {before : Option Char}
    (hq : Reference.Piece.Quoted before text) {r : Reference} (hr : r ∈ Reference.all argument)
    (rest : List Char) : r ∈ allAfter before (text ++ rest) := by
  cases h with
  | @intro name outer inner _ hname hblank _ =>
    have hquote : '\'' ∉ name ++ outer := by
      intro hmem
      rcases List.mem_append.1 hmem with hmem | hmem
      · cases hname _ hmem
      · cases hblank _ hmem
    have hopen := Reference.parted_mark (name ++ outer).getLast? (c := '(') rfl
    have hfront := Reference.Piece.quoted_of_not_mem before hquote
    have hopened : Formula.Opened (some '(') := Formula.opened_some rfl
    -- the quotes of the argument alone
    have hinner : Reference.Piece.Quoted (some '(') inner := by
      have htext : name ++ (outer ++ '(' :: (inner ++ [')'])) =
          (name ++ outer) ++ '(' :: (inner ++ [')']) := (List.append_assoc ..).symm
      rw [htext] at hq
      have hparens := (hq.of_append (hopen _) (Or.inr hfront)).2.tail rfl
      exact (hparens.of_append (Reference.parted_mark _ rfl []) (Or.inl (by simp))).1
    have htext : name ++ (outer ++ '(' :: (inner ++ [')'])) ++ rest =
        (name ++ outer) ++ '(' :: (inner ++ ')' :: rest) := by
      simp
    rw [htext, Reference.mem_allAfter_append (hopen _) (Or.inr hfront),
      Reference.mem_allAfter_delimiter rfl,
      Reference.mem_allAfter_append (Reference.parted_mark _ rfl rest) (Or.inr hinner)]
    exact Or.inr (Or.inl (Reference.mem_allAfter_of_mem_all_trim hopened hr))

end IsCall

namespace Site
variable {before : Option Char} {v : List Char} {pieces : List Piece}

namespace Apart
variable {c : Site} {r : Reference}

theorem quoted_front_of_close (h : c.Apart before) {t : List Char} (ht : c.text = t ++ [')']) :
    Reference.Piece.Quoted before (c.before ++ t) := by
  have hwhole := h.whole
  rw [ht, ← List.append_assoc] at hwhole
  exact (hwhole.of_append (Reference.parted_mark _ rfl []) (Or.inl (by simp))).1

/-- Behind a call the text is read anew. -/
theorem quoted_of_behind (h : c.Apart before) {w : List Char}
    (hw : Reference.Piece.Quoted before ((c.before ++ c.text) ++ w)) :
    Reference.Piece.Quoted (some ')') w := by
  obtain ⟨t, ht⟩ := h.isCall.exists_eq_concat
  have hfront := h.quoted_front_of_close ht
  rw [ht, ← List.append_assoc, List.append_assoc, List.singleton_append] at hw
  exact (hw.of_append (Reference.parted_mark _ rfl w) (Or.inr hfront)).2.tail rfl

theorem mem_of_front (h : c.Apart before) (hr : r ∈ allAfter before c.before) :
    r ∈ allAfter before (c.before ++ (c.text ++ c.after)) := by
  have hparted := h.isCall.parted h.isAlphanum_last c.after
  exact (Reference.mem_allAfter_append hparted (Or.inr h.front)).2 (Or.inl hr)

theorem mem_of_argument (h : c.Apart before) (hr : r ∈ Reference.all c.argument) :
    r ∈ allAfter before (c.before ++ (c.text ++ c.after)) := by
  have hparted := h.isCall.parted h.isAlphanum_last
  have htext := (h.whole.of_append (List.append_nil c.text ▸ hparted []) (Or.inr h.front)).2
  refine (Reference.mem_allAfter_append (hparted c.after) (Or.inr h.front)).2 (Or.inr ?_)
  exact h.isCall.mem_allAfter_of_mem_argument htext hr c.after

theorem mem_of_after (h : c.Apart before) (hr : r ∈ allAfter (some ')') c.after) :
    r ∈ allAfter before (c.before ++ (c.text ++ c.after)) := by
  obtain ⟨t, ht⟩ := h.isCall.exists_eq_concat
  have hfront := h.quoted_front_of_close ht
  rw [ht, List.append_assoc, List.singleton_append, ← List.append_assoc,
    Reference.mem_allAfter_append (Reference.parted_mark _ rfl c.after) (Or.inr hfront),
    Reference.mem_allAfter_delimiter rfl]
  exact Or.inr hr

theorem behind {f : Aggregate} {argument text : List Char}
    (h : ∀ c ∈ ofPieces v (.call f argument text :: pieces), c.Apart before) :
    ∀ c ∈ ofPieces [] pieces, c.Apart (some ')') := by
  have hcall := h _ (List.mem_cons_self ..)
  intro c hc
  have hmem := mem_ofPieces_append hc (v ++ text)
  rw [List.append_nil] at hmem
  have hapart := h _ (List.mem_cons_of_mem _ hmem)
  have hwhole := hapart.whole
  rw [List.append_assoc] at hwhole
  refine ⟨⟨hcall.quoted_of_behind hapart.front, hcall.quoted_of_behind hwhole, hapart.ends⟩,
    hapart.isCall, fun d hd => hapart.isAlphanum_last d ?_⟩
  rw [List.getLast?_append, show c.before.getLast? = some d from hd]
  rfl

end Apart

end Site

end Call

end Recalc
