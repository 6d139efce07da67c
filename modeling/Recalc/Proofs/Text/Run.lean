import Recalc.Text.Blank

/-!
# Runs of characters

A run of characters of one class ends where a character outside it follows. Blanks around a text are
such runs; a `Solid` text has none, and `trim` finds it between blanks.
-/

namespace Recalc.Text

section Run
variable {p : Char → Bool} {s : List Char}

theorem takeWhile_eq_nil {rest : List Char} (hr : ∀ c ∈ rest.head?, p c = false) :
    rest.takeWhile p = [] := by
  cases rest with
  | nil => rfl
  | cons c r => exact List.takeWhile_cons_of_neg (by rw [hr c rfl]; exact Bool.false_ne_true)

theorem dropWhile_eq_self {rest : List Char} (hr : ∀ c ∈ rest.head?, p c = false) :
    rest.dropWhile p = rest := by
  cases rest with
  | nil => rfl
  | cons c r => exact List.dropWhile_cons_of_neg (by rw [hr c rfl]; exact Bool.false_ne_true)

/-- A run that is followed by a character outside its class, or by nothing. -/
theorem takeWhile_run (hs : ∀ c ∈ s, p c = true) (rest : List Char)
    (hr : ∀ c ∈ rest.head?, p c = false) : (s ++ rest).takeWhile p = s := by
  rw [List.takeWhile_append_of_pos hs, takeWhile_eq_nil hr, List.append_nil]

theorem dropWhile_run (hs : ∀ c ∈ s, p c = true) (rest : List Char)
    (hr : ∀ c ∈ rest.head?, p c = false) : (s ++ rest).dropWhile p = rest := by
  rw [List.dropWhile_append_of_pos hs, dropWhile_eq_self hr]

/-- What follows does not make a run longer that ends before it, or that it does not go on. -/
theorem takeWhile_append_of_ends {rest : List Char}
    (h : (∃ c ∈ s, p c = false) ∨ ∀ c ∈ rest.head?, p c = false) :
    (s ++ rest).takeWhile p = s.takeWhile p := by
  induction s with
  | nil =>
    refine takeWhile_eq_nil (h.resolve_left ?_)
    rintro ⟨c, hc, -⟩
    cases hc
  | cons c s ih =>
    rw [List.cons_append, List.takeWhile_cons, List.takeWhile_cons]
    split
    · rename_i hp
      rw [ih]
      refine h.imp_left ?_
      rintro ⟨d, hd, hpd⟩
      rcases List.mem_cons.1 hd with rfl | hd
      · rw [hp] at hpd
        cases hpd
      · exact ⟨d, hd, hpd⟩
    · rfl

theorem dropWhile_append_of_ends {rest : List Char}
    (h : (∃ c ∈ s, p c = false) ∨ ∀ c ∈ rest.head?, p c = false) :
    (s ++ rest).dropWhile p = s.dropWhile p ++ rest := by
  have htake := takeWhile_append_of_ends h
  have hwhole := List.takeWhile_append_dropWhile (p := p) (l := s ++ rest)
  rw [htake] at hwhole
  refine List.append_cancel_left (hwhole.trans ?_)
  rw [← List.append_assoc, List.takeWhile_append_dropWhile]

theorem mem_dropWhile {c : Char} (hc : c ∈ s) (hp : p c = false) : c ∈ s.dropWhile p := by
  induction s with
  | nil => cases hc
  | cons d s ih =>
    rw [List.dropWhile_cons]
    split
    · rename_i hd
      rcases List.mem_cons.1 hc with rfl | hc
      · rw [hd] at hp
        cases hp
      · exact ih hc
    · exact hc

/-- A run goes on in what follows, or it ends before a character of its own text. -/
theorem dropWhile_append_cases (p : Char → Bool) (s rest : List Char) :
    (s.dropWhile p = [] ∧ (s ++ rest).dropWhile p = rest.dropWhile p) ∨
      ∃ c t, p c = false ∧ s.dropWhile p = c :: t ∧
        (s ++ rest).dropWhile p = c :: (t ++ rest) ∧
          (s ++ rest).takeWhile p = s.takeWhile p := by
  cases hs : s.dropWhile p with
  | nil =>
    refine Or.inl ⟨rfl, ?_⟩
    rw [List.dropWhile_append, hs]
    rfl
  | cons c t =>
    have hc : p c = false := by
      have hhead := List.head?_dropWhile_not p s
      rw [hs] at hhead
      simpa using hhead
    have hmem : c ∈ s := by
      refine (List.dropWhile_suffix p).mem ?_
      rw [hs]
      exact List.mem_cons_self ..
    have hends : (∃ c ∈ s, p c = false) ∨ ∀ c ∈ rest.head?, p c = false := Or.inl ⟨c, hmem, hc⟩
    refine Or.inr ⟨c, t, hc, rfl, ?_, takeWhile_append_of_ends hends⟩
    rw [dropWhile_append_of_ends hends, hs]
    rfl

/-- Each text ends with a longest run, be it empty. -/
theorem exists_append_run (p : Char → Bool) (s : List Char) : ∃ t run, s = t ++ run ∧
    (∀ c ∈ run, p c = true) ∧ t.getLast?.any p = false := by
  refine ⟨(s.reverse.dropWhile p).reverse, (s.reverse.takeWhile p).reverse, ?_, ?_, ?_⟩
  · rw [← List.reverse_append, List.takeWhile_append_dropWhile, List.reverse_reverse]
  · intro c hc
    exact List.all_eq_true.1 List.all_takeWhile c (List.mem_reverse.1 hc)
  · rw [List.getLast?_reverse]
    have hhead := List.head?_dropWhile_not p s.reverse
    cases hd : (s.reverse.dropWhile p).head? with
    | none => rfl
    | some c =>
      rw [hd] at hhead
      exact hhead

end Run

/-- A text that starts and ends with characters that are not blank. -/
structure Solid (text : List Char) : Prop where
  ne_nil : text ≠ []
  head : ∀ c ∈ text.head?, isBlank c = false
  last : ∀ c ∈ text.getLast?, isBlank c = false

theorem trimStart_append {blanks : List Char} (h : ∀ c ∈ blanks, isBlank c = true)
    (s : List Char) : trimStart (blanks ++ s) = trimStart s :=
  List.dropWhile_append_of_pos h

theorem trimStart_append_cases (s rest : List Char) :
    (trimStart s = [] ∧ trimStart (s ++ rest) = trimStart rest) ∨
      ∃ c t, trimStart s = c :: t ∧ trimStart (s ++ rest) = c :: (t ++ rest) := by
  rcases dropWhile_append_cases isBlank s rest with ⟨hnil, heq⟩ | ⟨c, t, -, hs, heq, -⟩
  · exact Or.inl ⟨hnil, heq⟩
  · exact Or.inr ⟨c, t, hs, heq⟩

theorem trimEnd_append {blanks : List Char} (h : ∀ c ∈ blanks, isBlank c = true)
    (s : List Char) : trimEnd (s ++ blanks) = trimEnd s := by
  rw [trimEnd, List.reverse_append, List.dropWhile_append_of_pos]
  · rfl
  · intro c hc
    exact h c (List.mem_reverse.1 hc)

/-- A text is its trimmed text between blanks. -/
theorem exists_trim (s : List Char) : ∃ left right, s = left ++ trim s ++ right ∧
    (∀ c ∈ left, isBlank c = true) ∧ ∀ c ∈ right, isBlank c = true := by
  have hclass : ∀ (u : List Char), ∀ c ∈ u.takeWhile isBlank, isBlank c = true :=
    fun u => List.all_eq_true.1 List.all_takeWhile
  refine ⟨s.takeWhile isBlank, ((trimStart s).reverse.takeWhile isBlank).reverse,
    ?_, hclass s, fun c hc => hclass _ c (List.mem_reverse.1 hc)⟩
  rw [trim, trimEnd, List.append_assoc, ← List.reverse_append,
    List.takeWhile_append_dropWhile, List.reverse_reverse, trimStart,
    List.takeWhile_append_dropWhile]

theorem length_trim_le (s : List Char) : (trim s).length ≤ s.length := by
  obtain ⟨left, right, hs, -, -⟩ := exists_trim s
  have hlength := congrArg List.length hs
  rw [List.length_append, List.length_append] at hlength
  omega

theorem mem_trim {c : Char} {s : List Char} (hc : c ∈ s) (hblank : isBlank c = false) :
    c ∈ trim s := by
  have hstart : c ∈ trimStart s := mem_dropWhile hc hblank
  exact List.mem_reverse.2 (mem_dropWhile (List.mem_reverse.2 hstart) hblank)

theorem trim_prefix_trimStart (s : List Char) : trim s <+: trimStart s := by
  have hsuffix := List.reverse_prefix.2 (List.dropWhile_suffix (l := (trimStart s).reverse) isBlank)
  rwa [List.reverse_reverse] at hsuffix

theorem mem_of_mem_trim {c : Char} {s : List Char} (hc : c ∈ trim s) : c ∈ s :=
  (List.dropWhile_suffix isBlank).mem ((trim_prefix_trimStart s).mem hc)

theorem head?_trim {s : List Char} (h : trim s ≠ []) : (trim s).head? = (trimStart s).head? := by
  obtain ⟨blanks, hs⟩ := trim_prefix_trimStart s
  obtain ⟨c, r, hc⟩ := List.exists_cons_of_ne_nil h
  rw [← hs, hc]
  rfl

/-- What is left of a text without the blanks around it, if anything is. -/
theorem solid_trim {s : List Char} (h : trim s ≠ []) : Solid (trim s) := by
  refine ⟨h, fun c hc => ?_, fun c hc => ?_⟩
  · rw [head?_trim h] at hc
    have hhead := List.head?_dropWhile_not isBlank s
    rw [← trimStart, hc] at hhead
    exact hhead
  · rw [trim, trimEnd, List.getLast?_reverse] at hc
    have hlast := List.head?_dropWhile_not isBlank (trimStart s).reverse
    rw [hc] at hlast
    exact hlast

namespace Solid
variable {text : List Char}

theorem trimStart_append (h : Solid text) (rest : List Char) :
    trimStart (text ++ rest) = text ++ rest := by
  obtain ⟨c, r, rfl⟩ := List.exists_cons_of_ne_nil h.ne_nil
  exact trimStart_cons_of_not_isBlank (h.head c rfl)

theorem trimEnd_append (h : Solid text) (before : List Char) :
    trimEnd (before ++ text) = before ++ text := by
  have hlast : Text.isBlank (text.getLast h.ne_nil) = false :=
    h.last _ (List.getLast?_eq_some_getLast h.ne_nil)
  rw [← List.dropLast_concat_getLast h.ne_nil, ← List.append_assoc]
  exact trimEnd_concat_of_not_isBlank hlast

theorem trim_append {before after : List Char} (hb : ∀ c ∈ before, isBlank c = true)
    (h : Solid text) (ha : ∀ c ∈ after, isBlank c = true) :
    trim (before ++ text ++ after) = text := by
  rw [trim, List.append_assoc, Text.trimStart_append hb, h.trimStart_append, Text.trimEnd_append ha]
  exact h.trimEnd_append []

theorem trim_eq (h : Solid text) : trim text = text := by
  have htrim := trim_append (List.forall_mem_nil _) h (List.forall_mem_nil _)
  rwa [List.nil_append, List.append_nil] at htrim

end Solid

theorem trim_trim (s : List Char) : trim (trim s) = trim s := by
  by_cases h : trim s = []
  · rw [h, trim_nil]
  · exact (solid_trim h).trim_eq

theorem trim_of_forall {text : List Char} (h : ∀ c ∈ text, isBlank c = false) :
    trim text = text := by
  by_cases hnil : text = []
  · rw [hnil, trim_nil]
  · exact Solid.trim_eq ⟨hnil, fun c hc => h c (List.mem_of_mem_head? hc),
      fun c hc => h c (List.mem_of_mem_getLast? hc)⟩

end Recalc.Text
