import Mathlib.Data.List.Chain
import Recalc.Proofs.Arithmetic.Phrase
import Recalc.Proofs.Formula.Delimiter

/-!
# Spellings of a phrase

A phrase is spelled by putting its symbols one behind the other with blanks between them (`Spells`,
`spell`). In such a text an operand ends where a blank or a mark of arithmetic stands, and the first
character behind it that is no blank is a mark (`Closed`). A scan of the text that leaves delimiters
alone and replaces each operand therefore spells the phrase with its operands replaced
(`Spells.exists_scan`).
-/

namespace Recalc.Formula

open Arithmetic (Symbol Phrase)
open Text (Solid)

/-! ## Symbols with blanks between them -/

section
variable {α β : Type}

def isSpace : Symbol α → Bool
  | .mark c => Text.isBlank c
  | .operand _ => false

def unspaced (l : List (Symbol α)) : List (Symbol α) :=
  l.filter fun s => !isSpace s

/-- Symbols with blanks anywhere between them that are those of a phrase. -/
def Spells (l : List (Symbol α)) (p : Phrase α) : Prop :=
  unspaced l = p.symbols

/-- The characters of a symbol. -/
def symbolText (text : α → List Char) : Symbol α → List Char
  | .mark c => [c]
  | .operand a => text a

def spell (text : α → List Char) (l : List (Symbol α)) : List Char :=
  l.flatMap (symbolText text)

/-- Symbols that may stand next to one another. -/
def Apart : Symbol α → Symbol α → Prop
  | .operand _, .operand _ => False
  | _, _ => True

/-- A symbol that is an operand or written with a delimiter. -/
def Delimits : Symbol α → Prop
  | .mark c => isDelimiter c = true
  | .operand _ => True

@[simp] theorem unspaced_space {c : Char} (h : Text.isBlank c = true) (l : List (Symbol α)) :
    unspaced (.mark c :: l) = unspaced l := by
  simp [unspaced, isSpace, h]

theorem unspaced_mark {c : Char} (h : Text.isBlank c = false) (l : List (Symbol α)) :
    unspaced (.mark c :: l) = .mark c :: unspaced l := by
  simp [unspaced, isSpace, h]

theorem unspaced_operand (a : α) (l : List (Symbol α)) :
    unspaced (.operand a :: l) = .operand a :: unspaced l := by
  simp [unspaced, isSpace]

theorem apart_mark_left (c : Char) (s : Symbol α) : Apart (.mark c) s := trivial

theorem apart_mark_right (s : Symbol α) (c : Char) : Apart s (.mark c) := by
  cases s <;> trivial

theorem isChain_append_mark {l r : List (Symbol α)} (c : Char) (hl : l.IsChain Apart)
    (hr : r.IsChain Apart) : (l ++ .mark c :: r).IsChain Apart := by
  refine List.isChain_append.2 ⟨hl, List.isChain_cons.2 ⟨fun s _ => apart_mark_left c s, hr⟩, ?_⟩
  rintro s - t ht
  cases ht
  exact apart_mark_right s c

theorem isChain_symbols (p : Phrase α) : p.symbols.IsChain Apart := by
  induction p with
  | operand a => exact List.IsChain.singleton _
  | sign c e ih => exact isChain_append_mark c List.IsChain.nil ih
  | binary c l r ihl ihr => exact isChain_append_mark c ihl ihr
  | group e ih =>
    exact isChain_append_mark '(' List.IsChain.nil (isChain_append_mark ')' ih List.IsChain.nil)

theorem delimits_of_mem_symbols {p : Phrase α} (hp : p.WellFormed) :
    ∀ s ∈ p.symbols, Delimits s := by
  induction p with
  | operand a => simp [Phrase.symbols, Delimits]
  | sign c e ih =>
    obtain ⟨hc, -, he⟩ := hp
    intro s hs
    rcases List.mem_cons.1 hs with rfl | hs
    · exact isDelimiter_of_isMark (isMark_of_isAdditive hc)
    · exact ih he s hs
  | binary c l r ihl ihr =>
    obtain ⟨hc, hl, hr⟩ := hp
    have hm : isMark c = true := by
      rcases hc with ⟨hc, -⟩ | ⟨hc, -⟩
      · exact isMark_of_isMultiplicative hc
      · exact isMark_of_isAdditive hc
    intro s hs
    rcases List.mem_append.1 hs with hs | hs
    · exact ihl hl s hs
    · rcases List.mem_cons.1 hs with rfl | hs
      · exact isDelimiter_of_isMark hm
      · exact ihr hr s hs
  | group e ih =>
    intro s hs
    rcases List.mem_cons.1 hs with rfl | hs
    · exact isDelimiter_of_isMark rfl
    · rcases List.mem_append.1 hs with hs | hs
      · exact ih hp s hs
      · rw [List.mem_singleton.1 hs]
        exact isDelimiter_of_isMark rfl

/-- Symbols with blanks between them of which no two operands touch. -/
structure Spaced (l : List (Symbol α)) : Prop where
  delimits : ∀ s ∈ l, Delimits s
  apart : (unspaced l).IsChain Apart

theorem Spells.spaced {l : List (Symbol α)} {p : Phrase α} (h : Spells l p) (hp : p.WellFormed) :
    Spaced l := by
  refine ⟨fun s hs => ?_, by rw [show unspaced l = _ from h]; exact isChain_symbols p⟩
  by_cases hb : isSpace s = true
  · cases s with
    | mark c => exact isDelimiter_of_isBlank hb
    | operand a => trivial
  · refine delimits_of_mem_symbols hp s ?_
    rw [← show unspaced l = _ from h]
    exact List.mem_filter.2 ⟨hs, by simpa using hb⟩

theorem Spaced.tail {s : Symbol α} {l : List (Symbol α)} (h : Spaced (s :: l)) : Spaced l := by
  refine ⟨fun t ht => h.delimits t (List.mem_cons_of_mem s ht), ?_⟩
  have ha := h.apart
  by_cases hb : isSpace s = true
  · rwa [unspaced, List.filter_cons_of_neg (by simp [hb])] at ha
  · rw [unspaced, List.filter_cons_of_pos (by simpa using hb)] at ha
    exact (List.isChain_cons.1 ha).2

theorem Spaced.closed {text : α → List Char} {a : α} {l : List (Symbol α)}
    (h : Spaced (.operand a :: l)) : Closed (spell text l) := by
  obtain ⟨hd, ha⟩ := h
  rw [unspaced_operand] at ha
  replace hd : ∀ s ∈ l, Delimits s := fun s hs => hd s (List.mem_cons_of_mem _ hs)
  induction l with
  | nil => exact closed_nil
  | cons s l ih =>
    cases s with
    | operand b =>
      rw [unspaced_operand] at ha
      exact absurd (List.isChain_cons_cons.1 ha).1 id
    | mark c =>
      have hc : isDelimiter c = true := hd _ (List.mem_cons_self ..)
      by_cases hb : Text.isBlank c = true
      · rw [unspaced_space hb] at ha
        have hrest := ih ha fun s hs => hd s (List.mem_cons_of_mem _ hs)
        rwa [Closed, spell, List.flatMap_cons, symbolText, List.singleton_append, Text.trimStart,
          List.dropWhile_cons_of_pos hb]
      · rw [Bool.not_eq_true] at hb
        rw [Closed, spell, List.flatMap_cons, symbolText, List.singleton_append,
          Text.trimStart_cons_of_not_isBlank hb]
        rintro d ⟨⟩
        rwa [isDelimiter, hb, Bool.false_or] at hc

/-! ## Scanning a spelled text -/

section Scan
variable {text : α → List Char} {text' : β → List Char} {worth : α → Option β}
  {scan : Option Char → List Char → Option (List Char)}

/-- A scan that leaves delimiters alone and puts what it is worth in the place of each operand. -/
structure Replaces (text : α → List Char) (text' : β → List Char) (worth : α → Option β)
    (scan : Option Char → List Char → Option (List Char)) : Prop where
  nil : ∀ before, scan before [] = some []
  delimiter : ∀ before c rest, isDelimiter c = true →
    scan before (c :: rest) = (scan (some c) rest).map (c :: ·)
  operand : ∀ before a rest, Opened before → Closed rest →
    scan before (text a ++ rest) =
      (worth a).bind fun b => (scan (text a).getLast? rest).map (text' b ++ ·)

theorem Replaces.scan_spell (hs : Replaces text text' worth scan) {l : List (Symbol α)}
    (hl : Spaced l) (before : Option Char)
    (hb : ∀ a, .operand a ∈ l.head? → Opened before) :
    scan before (spell text l) = (l.mapM (Symbol.traverse worth)).map (spell text') := by
  induction l generalizing before with
  | nil => exact hs.nil before
  | cons s l ih =>
    cases s with
    | mark c =>
      have hc : isDelimiter c = true := hl.delimits _ (List.mem_cons_self ..)
      have hrest := ih hl.tail (some c) fun _ _ d hd => by cases hd; exact hc
      show scan before (c :: spell text l) = _
      rw [hs.delimiter before c _ hc, hrest]
      cases hm : l.mapM (Symbol.traverse worth) <;>
        simp [Symbol.traverse, hm, spell, symbolText]
    | operand a =>
      have hopen : Opened before := hb a rfl
      have hclosed : Closed (spell text l) := hl.closed
      -- no operand follows, so what stands before the rest does not matter
      have hrest := ih hl.tail (text a).getLast? fun b hb' => by
        obtain ⟨l, rfl⟩ : ∃ r, l = .operand b :: r := by
          cases l <;> cases hb'
          exact ⟨_, rfl⟩
        have ha := hl.apart
        rw [unspaced_operand, unspaced_operand] at ha
        exact absurd (List.isChain_cons_cons.1 ha).1 id
      show scan before (text a ++ spell text l) = _
      rw [hs.operand before a _ hopen hclosed, hrest]
      cases hw : worth a <;> cases hm : l.mapM (Symbol.traverse worth) <;>
        simp [Symbol.traverse, hw, hm, spell, symbolText]

theorem mapM_unspaced (worth : α → Option β) (l : List (Symbol α)) :
    (unspaced l).mapM (Symbol.traverse worth) = (l.mapM (Symbol.traverse worth)).map unspaced := by
  induction l with
  | nil => rfl
  | cons s l ih =>
    cases s with
    | mark c =>
      cases hb : Text.isBlank c <;> cases hm : l.mapM (Symbol.traverse worth) <;>
        simp [Symbol.traverse, unspaced_mark, hb, hm, ih]
    | operand a =>
      cases hw : worth a <;> cases hm : l.mapM (Symbol.traverse worth) <;>
        simp [Symbol.traverse, unspaced_operand, hw, hm, ih]

/-- A scan of a spelled phrase spells the phrase with its operands replaced. -/
theorem Spells.exists_scan (hs : Replaces text text' worth scan) {l : List (Symbol α)}
    {p : Phrase α}
    (hp : p.WellFormed) (hl : Spells l p) {q : Phrase β} (hq : p.traverse worth = some q) :
    ∃ l', Spells l' q ∧ scan none (spell text l) = some (spell text' l') := by
  have hm := mapM_unspaced worth l
  rw [show unspaced l = _ from hl, Phrase.symbols_traverse, hq] at hm
  obtain ⟨l', hl', hs'⟩ := Option.map_eq_some_iff.1 hm.symm
  refine ⟨l', hs', ?_⟩
  rw [hs.scan_spell (hl.spaced hp) none (fun _ _ c hc => by cases hc), hl']
  rfl

theorem Spells.scan_eq_none (hs : Replaces text text' worth scan) {l : List (Symbol α)}
    {p : Phrase α} (hp : p.WellFormed) (hl : Spells l p) (hq : p.traverse worth = none) :
    scan none (spell text l) = none := by
  have hm := mapM_unspaced worth l
  rw [show unspaced l = _ from hl, Phrase.symbols_traverse, hq] at hm
  rw [hs.scan_spell (hl.spaced hp) none (fun _ _ c hc => by cases hc),
    Option.map_eq_none_iff.1 hm.symm]
  rfl

end Scan

/-! ## Blanks around a spelled text -/

section Trim
variable {text : α → List Char}

theorem exists_trimStart_spell (ht : ∀ a, Solid (text a)) (l : List (Symbol α)) :
    ∃ l', unspaced l' = unspaced l ∧ Text.trimStart (spell text l) = spell text l' := by
  induction l with
  | nil => exact ⟨[], rfl, rfl⟩
  | cons s l ih =>
    cases s with
    | mark c =>
      show ∃ l', _ ∧ Text.trimStart (c :: spell text l) = _
      by_cases hb : Text.isBlank c = true
      · obtain ⟨l', hu, hl'⟩ := ih
        refine ⟨l', by rw [hu, unspaced_space hb], ?_⟩
        rw [← hl', Text.trimStart, List.dropWhile_cons_of_pos hb]; rfl
      · exact ⟨.mark c :: l, rfl, Text.trimStart_cons_of_not_isBlank (by simpa using hb)⟩
    | operand a =>
      refine ⟨.operand a :: l, rfl, ?_⟩
      exact (ht a).trimStart_append (spell text l)

theorem exists_trimEnd_spell (ht : ∀ a, Solid (text a)) (l : List (Symbol α)) :
    ∃ l', unspaced l' = unspaced l ∧ Text.trimEnd (spell text l) = spell text l' := by
  induction l using List.reverseRecOn with
  | nil => exact ⟨[], rfl, rfl⟩
  | append_singleton l s ih =>
    have hspell : spell text (l ++ [s]) = spell text l ++ symbolText text s := by
      simp [spell]
    have hun : unspaced (l ++ [s]) = unspaced l ++ unspaced [s] := List.filter_append ..
    rw [hspell]
    cases s with
    | mark c =>
      by_cases hb : Text.isBlank c = true
      · obtain ⟨l', hu, hl'⟩ := ih
        refine ⟨l', by rw [hu, hun, unspaced_space hb]; simp [unspaced], ?_⟩
        rw [← hl', symbolText, Text.trimEnd, List.reverse_append, List.reverse_singleton,
          List.singleton_append, List.dropWhile_cons_of_pos hb]; rfl
      · refine ⟨l ++ [.mark c], rfl, ?_⟩
        rw [hspell]
        exact Text.trimEnd_concat_of_not_isBlank (by simpa using hb)
    | operand a =>
      refine ⟨l ++ [.operand a], rfl, ?_⟩
      rw [hspell]
      exact (ht a).trimEnd_append (spell text l)

theorem Spells.trim (ht : ∀ a, Solid (text a)) {l : List (Symbol α)} {p : Phrase α}
    (hl : Spells l p) : ∃ l', Spells l' p ∧ Text.trim (spell text l) = spell text l' := by
  obtain ⟨l₁, hu₁, h₁⟩ := exists_trimStart_spell ht l
  obtain ⟨l₂, hu₂, h₂⟩ := exists_trimEnd_spell ht l₁
  exact ⟨l₂, (hu₂.trans hu₁).trans hl, by rw [Text.trim, h₁, h₂]⟩

end Trim

end

end Recalc.Formula
