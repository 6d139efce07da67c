import Recalc.Formula.Aggregate
import Recalc.Proofs.Reference.Written
import Recalc.Proofs.Text.Case

/-!
# Written calls

An aggregate call is written as the name of its function, in any case of letters, and a reference in
parentheses, with blanks anywhere between them. `Call.read?` reads it back
(`Call.Written.read?_text`) and finds no call in a text without opening parenthesis that ends with
no letter and no blank (`Call.read?_eq_none`), which is what numerals and references look like.
-/

namespace Recalc.Call

/-! ## Names of functions -/

/-- A character that may be part of a function's name in some case. -/
def isLetter (c : Char) : Bool :=
  c.isAlpha || c == 'ſ'

theorem isWord_of_isLetter {c : Char} (h : isLetter c = true) : Text.isWord c = true := by
  rw [isLetter, Bool.or_eq_true, beq_iff_eq] at h
  rcases h with h | rfl
  · exact Formula.isWord_of_isAlpha h
  · decide +kernel

theorem isDigit_of_isLetter {c : Char} (h : isLetter c = true) : c.isDigit = false := by
  rw [isLetter, Bool.or_eq_true, beq_iff_eq] at h
  rcases h with h | rfl
  · exact Formula.isDigit_of_isAlpha h
  · rfl

theorem isLetter_of_foldsTo {u c : Char} (hu : u.isAlpha = true) (h : foldsTo u c = true) :
    isLetter c = true := by
  rw [foldsTo, Bool.or_eq_true] at h
  rw [isLetter, Bool.or_eq_true]
  rcases h with h | h
  · refine Or.inl ?_
    rwa [← Text.isAlpha_toUpper, beq_iff_eq.1 h]
  · exact Or.inr (Bool.and_eq_true_iff.1 h).2

theorem readName?_eq_some {name s n rest : List Char} (hu : ∀ c ∈ name, c.isAlpha = true)
    (h : readName? name s = some (n, rest)) : s = n ++ rest ∧ ∀ c ∈ n, isLetter c = true := by
  fun_induction readName? name s generalizing n rest with
  | case1 s => cases h; exact ⟨rfl, by simp⟩
  | case2 => cases h
  | case3 u name c s hc ih =>
    obtain ⟨⟨m, t⟩, hr, he⟩ := Option.map_eq_some_iff.1 h
    cases he
    obtain ⟨rfl, hm⟩ := ih (fun d hd => hu d (List.mem_cons_of_mem _ hd)) hr
    refine ⟨rfl, fun d hd => ?_⟩
    rcases List.mem_cons.1 hd with rfl | hd
    · exact isLetter_of_foldsTo (hu u (List.mem_cons_self ..)) hc
    · exact hm d hd
  | case4 => cases h

theorem isAlpha_of_mem_name (f : Aggregate) : ∀ c ∈ f.name, c.isAlpha = true := by
  cases f <;> exact List.all_eq_true.1 rfl

/-- A name in any case of its letters is read. -/
theorem readName?_append {target name : List Char} (h : name.map Char.toUpper = target)
    (rest : List Char) : readName? target (name ++ rest) = some (name, rest) := by
  induction name generalizing target with
  | nil => cases h; rfl
  | cons c r ih =>
    cases h
    have hc : foldsTo c.toUpper c = true := by rw [foldsTo, beq_self_eq_true, Bool.true_or]
    rw [List.map_cons, List.cons_append, readName?, if_pos hc, ih rfl]
    rfl

/-! ## Texts without calls -/

theorem exists_mem_trimStart_append {w : List Char} (h : ∃ c ∈ w, Text.isBlank c = false)
    (rest : List Char) : ∃ d r, Text.trimStart (w ++ rest) = d :: r ∧ d ∈ w := by
  induction w with
  | nil =>
    obtain ⟨c, hc, -⟩ := h
    cases hc
  | cons c w ih =>
    by_cases hb : Text.isBlank c = true
    · obtain ⟨d, hd, hblank⟩ := h
      rcases List.mem_cons.1 hd with rfl | hd
      · rw [hb] at hblank
        cases hblank
      · obtain ⟨e, r, he, hm⟩ := ih ⟨d, hd, hblank⟩
        refine ⟨e, r, ?_, List.mem_cons_of_mem c hm⟩
        rw [← he, List.cons_append, Text.trimStart, List.dropWhile_cons_of_pos hb]
        rfl
    · exact ⟨c, w ++ rest, Text.trimStart_cons_of_not_isBlank (by simpa using hb),
        List.mem_cons_self ..⟩

theorem exists_readName?_of_read? {s name argument rest : List Char}
    (h : read? s = some (name, argument, rest)) :
    ∃ (f : Aggregate) (r : List Char), readName? f.name s = some (name, r) ∧
      readArgument? r = some (argument, rest) := by
  obtain ⟨⟨n, r⟩, hn, ha⟩ := Option.bind_eq_some_iff.1 h
  obtain ⟨⟨a, t⟩, ht, he⟩ := Option.map_eq_some_iff.1 ha
  cases he
  rcases Option.or_eq_some_iff.1 hn with hn | ⟨-, hn⟩
  · exact ⟨.sum, r, hn, ht⟩
  · exact ⟨.average, r, hn, ht⟩

theorem exists_trimStart_of_readArgument? {s argument rest : List Char}
    (h : readArgument? s = some (argument, rest)) : ∃ r, Text.trimStart s = '(' :: r := by
  rw [readArgument?] at h
  split at h
  · rename_i r hr
    exact ⟨r, hr⟩
  · cases h

theorem length_of_readName? {name s n rest : List Char}
    (h : readName? name s = some (n, rest)) : n.length = name.length := by
  fun_induction readName? name s generalizing n rest with
  | case1 s =>
    cases h
    rfl
  | case2 => cases h
  | case3 u name c s hc ih =>
    obtain ⟨⟨m, t⟩, hr, he⟩ := Option.map_eq_some_iff.1 h
    cases he
    rw [List.length_cons, List.length_cons, ih hr]
  | case4 => cases h

/-- The text of a call: a name, blanks, and parentheses around its argument, which ends where the
first one is closed. -/
inductive IsCall : (argument text : List Char) → Prop
  | intro {name outer inner : List Char} (ne_nil : name ≠ [])
      (letters : ∀ c ∈ name, isLetter c = true) (blanks : ∀ c ∈ outer, Text.isBlank c = true)
      (not_mem : ')' ∉ inner) :
      IsCall (Text.trim inner) (name ++ (outer ++ '(' :: (inner ++ [')'])))

namespace IsCall
variable {argument text : List Char}

theorem head (h : IsCall argument text) : ∃ c r, text = c :: r ∧ isLetter c = true := by
  obtain ⟨hne, hname, -, -⟩ := h
  rename_i name outer inner
  obtain ⟨c, r, rfl⟩ := List.exists_cons_of_ne_nil hne
  exact ⟨c, _, rfl, hname c (List.mem_cons_self ..)⟩

theorem ne_nil (h : IsCall argument text) : text ≠ [] := by
  obtain ⟨c, r, rfl, -⟩ := h.head
  exact List.cons_ne_nil c r

theorem exists_eq_concat (h : IsCall argument text) : ∃ t, text = t ++ [')'] := by
  cases h with
  | @intro name outer inner _ _ _ _ =>
    exact ⟨name ++ (outer ++ '(' :: inner), by simp⟩

end IsCall

theorem exists_isCall_of_read? {s name argument rest : List Char}
    (h : read? s = some (name, argument, rest)) :
    ∃ text, IsCall argument text ∧ text ++ rest = s := by
  obtain ⟨f, r, hn, ha⟩ := exists_readName?_of_read? h
  obtain ⟨rfl, hname⟩ := readName?_eq_some (isAlpha_of_mem_name f) hn
  have hne : name ≠ [] := by
    have hlength := length_of_readName? hn
    rintro rfl
    cases f <;> cases hlength
  rw [readArgument?] at ha
  split at ha
  · rename_i t ht
    split at ha
    · rename_i u hu
      dsimp only at ha
      split at ha
      · cases ha
      · cases ha
        have hblank : ∀ c ∈ r.takeWhile Text.isBlank, Text.isBlank c = true :=
          List.all_eq_true.1 List.all_takeWhile
        have hclose : ')' ∉ t.takeWhile (· != ')') := fun hmem => by
          have hclass := List.all_eq_true.1 List.all_takeWhile _ hmem
          simp at hclass
        refine ⟨_, .intro hne hname hblank hclose, ?_⟩
        have hinner : t.takeWhile (· != ')') ++ ')' :: rest = t := by
          rw [← hu, List.takeWhile_append_dropWhile]
        have hr : r.takeWhile Text.isBlank ++ '(' :: t = r := by
          rw [← ht, Text.trimStart, List.takeWhile_append_dropWhile]
        simp only [List.append_assoc, List.cons_append, List.nil_append]
        rw [hinner, hr]
    · cases ha
  · cases ha

/-- No call starts in a text without opening parenthesis whose last character is no letter and no
blank. -/
theorem read?_eq_none {t : List Char} {c : Char} (hp : '(' ∉ t ++ [c])
    (hl : isLetter c = false) (hb : Text.isBlank c = false) (rest : List Char) :
    read? (t ++ c :: rest) = none := by
  by_contra hne
  obtain ⟨⟨name, argument, rest'⟩, hread⟩ := Option.ne_none_iff_exists'.1 hne
  obtain ⟨f, r, hn, ha⟩ := exists_readName?_of_read? hread
  obtain ⟨heq, hname⟩ := readName?_eq_some (isAlpha_of_mem_name f) hn
  obtain ⟨inner, hinner⟩ := exists_trimStart_of_readArgument? ha
  -- the name ends before `c`, so what is behind it starts within the text
  obtain ⟨w, hw⟩ : ∃ w, r = w ++ c :: rest ∧ ∀ d ∈ w ++ [c], d ∈ t ++ [c] := by
    rcases List.append_eq_append_iff.1 heq with ⟨as, rfl, has⟩ | ⟨bs, rfl, hbs⟩
    · cases as with
      | nil => exact ⟨[], has.symm, by simp⟩
      | cons d as =>
        cases has
        have := hname c (by simp)
        rw [hl] at this
        cases this
    · refine ⟨bs, hbs, fun d hd => ?_⟩
      rw [List.append_assoc]
      exact List.mem_append_right name hd
  obtain ⟨rfl, hmem⟩ := hw
  obtain ⟨d, r, hd, hdm⟩ := exists_mem_trimStart_append
    (w := w ++ [c]) ⟨c, by simp, hb⟩ rest
  rw [List.append_assoc, List.singleton_append, hinner] at hd
  cases hd
  exact hp (hmem _ hdm)

theorem read?_cons_of_not_isLetter {c : Char} (h : isLetter c = false) (rest : List Char) :
    read? (c :: rest) = none := by
  have hname (f : Aggregate) : readName? f.name (c :: rest) = none := by
    have hf (u : Char) (hu : u.isAlpha = true) : foldsTo u c = false := by
      by_contra hc
      rw [isLetter_of_foldsTo hu (by simpa using hc)] at h
      cases h
    cases f
    · rw [Aggregate.name, readName?, if_neg (by rw [hf _ rfl]; decide)]
    · rw [Aggregate.name, readName?, if_neg (by rw [hf _ rfl]; decide)]
  rw [read?, hname, hname]
  rfl

/-- A text without opening parenthesis that ends with no letter and no blank. -/
structure Inert (t : List Char) : Prop where
  noParen : '(' ∉ t
  isLetter_last : ∀ c ∈ t.getLast?, isLetter c = false
  isBlank_last : ∀ c ∈ t.getLast?, Text.isBlank c = false

theorem Inert.read?_eq_none {t : List Char} (h : Inert t) (hne : t ≠ []) (rest : List Char) :
    read? (t ++ rest) = none := by
  obtain ⟨hp, hl, hb⟩ := h
  have hlast := List.getLast?_eq_some_getLast hne
  have hconcat := List.dropLast_concat_getLast hne
  rw [← hconcat, List.append_assoc, List.singleton_append]
  exact Call.read?_eq_none (by rw [hconcat]; exact hp) (hl _ hlast) (hb _ hlast) rest

theorem Inert.tail {c : Char} {t : List Char} (h : Inert (c :: t)) (hne : t ≠ []) : Inert t := by
  obtain ⟨hp, hl, hb⟩ := h
  obtain ⟨d, r, rfl⟩ := List.exists_cons_of_ne_nil hne
  rw [List.getLast?_cons_cons] at hl hb
  exact ⟨fun h => hp (List.mem_cons_of_mem c h), hl, hb⟩

namespace Piece

theorem splitAfter_char {before : Option Char} {c : Char} {r : List Char}
    (h : read? (c :: r) = none) : splitAfter before (c :: r) = char c :: splitAfter (some c) r := by
  rw [splitAfter]
  split
  · rename_i h'
    rw [h] at h'
    cases h'
  · rfl

theorem splitAfter_call {before : Option Char} {t rest name argument : List Char} (ht : t ≠ [])
    (h : read? (t ++ rest) = some (name, argument, rest)) :
    splitAfter before (t ++ rest) =
      ofCall before name argument t :: splitAfter t.getLast? rest := by
  obtain ⟨c, r, rfl⟩ := List.exists_cons_of_ne_nil ht
  have htake : ((c :: r) ++ rest).take (((c :: r) ++ rest).length - rest.length) = c :: r := by
    rw [List.length_append, Nat.add_sub_cancel, List.take_left]
  rw [List.cons_append] at h htake ⊢
  rw [splitAfter]
  split
  · rename_i h'
    rw [h] at h'
    cases h'
    simp only [htake]
  · rename_i h'
    rw [h] at h'
    cases h'

end Piece

/-- What holds of the empty text, and goes on from what is left once a character or a call is read,
holds of every text behind every character. -/
theorem read_induction {motive : Option Char → List Char → Prop} (hnil : ∀ b, motive b [])
    (hchar : ∀ b c r, read? (c :: r) = none → motive (some c) r → motive b (c :: r))
    (hcall : ∀ b t rest name argument, IsCall argument t →
      read? (t ++ rest) = some (name, argument, rest) → motive t.getLast? rest →
      motive b (t ++ rest)) (before : Option Char) (s : List Char) : motive before s := by
  induction hn : s.length using Nat.strongRecOn generalizing s before with
  | ind n ih =>
    cases s with
    | nil => exact hnil before
    | cons c r =>
      cases hread : read? (c :: r) with
      | none => exact hchar before c r hread (ih r.length (hn ▸ Nat.lt_succ_self _) _ r rfl)
      | some p =>
        obtain ⟨name, argument, rest⟩ := p
        obtain ⟨t, ht, htext⟩ := exists_isCall_of_read? hread
        have hlength : rest.length < n := hn ▸ length_read? hread
        rw [← htext] at hread ⊢
        exact hcall before t rest name argument ht hread (ih rest.length hlength _ rest rfl)

/-! ## Calls as they are written -/

/-- A function's name and a reference in parentheses, with blanks between them. -/
structure Written where
  function : Aggregate
  name : List Char
  name_eq : name.map Char.toUpper = function.name
  argument : Reference.Written
  /-- The blanks behind the name, behind the opening and before the closing parenthesis. -/
  outer : List Char
  left : List Char
  right : List Char
  isBlank_outer : ∀ c ∈ outer, Text.isBlank c = true
  isBlank_left : ∀ c ∈ left, Text.isBlank c = true
  isBlank_right : ∀ c ∈ right, Text.isBlank c = true

namespace Written
variable (w : Written)

def text : List Char :=
  w.name ++ (w.outer ++ '(' :: (w.left ++ w.argument.text ++ w.right ++ [')']))

theorem ofName?_name : Aggregate.ofName? w.name = some w.function := by
  rw [Aggregate.ofName?, w.name_eq]
  cases w.function <;> rfl

theorem readArgument?_text (rest : List Char) :
    readArgument? (w.outer ++ '(' :: (w.left ++ w.argument.text ++ w.right ++ [')']) ++ rest) =
      some (w.argument.text, rest) := by
  have hparen : Text.isBlank '(' = false := rfl
  have hinner : ∀ c ∈ w.left ++ w.argument.text ++ w.right, (c != ')') = true := by
    have hblank {c : Char} (h : Text.isBlank c = true) : (c != ')') = true := by
      rw [bne_iff_ne]
      rintro rfl
      cases h
    intro c hc
    rcases List.mem_append.1 hc with hc | hc
    · rcases List.mem_append.1 hc with hc | hc
      · exact hblank (w.isBlank_left c hc)
      · rw [bne_iff_ne]
        rintro rfl
        exact w.argument.not_mem_text (Or.inr rfl) hc
    · exact hblank (w.isBlank_right c hc)
  have hclose : ∀ c ∈ (')' :: rest).head?, (c != ')') = false := by
    rintro c ⟨⟩
    rfl
  have hne : (w.left ++ w.argument.text ++ w.right).isEmpty = false := by
    have := w.argument.solid_text.ne_nil
    simp [this]
  have htrim := w.argument.solid_text.trim_append w.isBlank_left w.isBlank_right
  rw [readArgument?, List.append_assoc, Text.trimStart_append w.isBlank_outer, List.cons_append,
    Text.trimStart_cons_of_not_isBlank hparen, List.append_assoc _ [')'], List.singleton_append]
  simp only [Text.dropWhile_run hinner _ hclose, Text.takeWhile_run hinner _ hclose, hne, htrim]
  rfl

theorem read?_text (rest : List Char) :
    read? (w.text ++ rest) = some (w.name, w.argument.text, rest) := by
  have harg := w.readArgument?_text rest
  have hname : (readName? Aggregate.sum.name (w.text ++ rest)).or
      (readName? Aggregate.average.name (w.text ++ rest)) =
      some (w.name, w.outer ++ '(' :: (w.left ++ w.argument.text ++ w.right ++ [')']) ++ rest) := by
    rw [text, List.append_assoc]
    cases hf : w.function with
    | sum =>
      rw [readName?_append (w.name_eq.trans (congrArg _ hf)), Option.some_or]
    | average =>
      have heq := w.name_eq.trans (congrArg _ hf)
      rw [readName?_append heq]
      -- the first letter tells the two names apart
      cases hn : w.name with
      | nil => rw [hn] at heq; cases heq
      | cons c r =>
        rw [hn] at heq
        have hA : c.toUpper = 'A' := (List.cons.inj heq).1
        have hS : foldsTo 'S' c = false := by
          rw [foldsTo, hA, Bool.or_eq_false_iff]
          refine ⟨rfl, ?_⟩
          rw [beq_self_eq_true, Bool.true_and, beq_eq_false_iff_ne]
          rintro rfl
          exact absurd hA (by decide)
        rw [Aggregate.name, List.cons_append, readName?, if_neg (by rw [hS]; decide),
          Option.none_or]
  rw [read?, hname]
  simp only [Option.bind_some, harg, Option.map_some]

theorem ne_nil : w.text ≠ [] := by
  rw [text]
  simp

end Written

end Recalc.Call
