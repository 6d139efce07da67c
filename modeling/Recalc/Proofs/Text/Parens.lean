import Recalc.Proofs.Text.Run

/-!
# Parentheses

`openParens? n s` is the number of parentheses that are open behind `s` if `n` are open in front of
it; there is none if one is closed that was not opened. Only the parentheses of a text count
(`openParens?_parens`), and what the number says of each beginning of the text is
`count_le_of_openParens?`.
-/

namespace Recalc.Text

def isParen (c : Char) : Bool :=
  c == '(' || c == ')'

/-- The parentheses of a text, in order. -/
def parens (s : List Char) : List Char :=
  s.filter isParen

/-- How many parentheses are open behind one more character. -/
def nest? : Nat → Char → Option Nat
  | n, '(' => some (n + 1)
  | 0, ')' => none
  | n + 1, ')' => some n
  | n, _ => some n

def openParens? (n : Nat) (s : List Char) : Option Nat :=
  s.foldlM nest? n

variable {n m : Nat} {c : Char} {s t : List Char}

/-! ## The parentheses of a text -/

theorem parens_append (s t : List Char) : parens (s ++ t) = parens s ++ parens t :=
  List.filter_append ..

theorem parens_cons (c : Char) (s : List Char) : parens (c :: s) = parens [c] ++ parens s :=
  parens_append [c] s

theorem parens_cons_of_not_isParen (h : isParen c = false) (s : List Char) :
    parens (c :: s) = parens s :=
  List.filter_cons_of_neg (by rw [h]; exact Bool.false_ne_true)

theorem parens_eq_nil (h : ∀ c ∈ s, isParen c = false) : parens s = [] :=
  List.filter_eq_nil_iff.2 fun c hc => by rw [h c hc]; exact Bool.false_ne_true

theorem not_isParen_iff : isParen c = false ↔ c ≠ '(' ∧ c ≠ ')' := by
  rw [isParen, Bool.or_eq_false_iff, beq_eq_false_iff_ne, beq_eq_false_iff_ne]

/-- A class of characters that holds of neither parenthesis. -/
theorem not_isParen_of_class {p : Char → Bool} (hopen : p '(' = false) (hclose : p ')' = false)
    (h : p c = true) : isParen c = false := by
  rw [not_isParen_iff]
  constructor
  · rintro rfl
    rw [h] at hopen
    cases hopen
  · rintro rfl
    rw [h] at hclose
    cases hclose

/-- A text of one class of characters that holds of neither parenthesis. -/
theorem parens_of_class {p : Char → Bool} (hopen : p '(' = false) (hclose : p ')' = false)
    (h : ∀ c ∈ s, p c = true) : parens s = [] :=
  parens_eq_nil fun c hc => not_isParen_of_class hopen hclose (h c hc)

theorem parens_trim (s : List Char) : parens (trim s) = parens s := by
  obtain ⟨left, right, hs, hleft, hright⟩ := exists_trim s
  have hwhole := congrArg parens hs
  rw [parens_append, parens_append, parens_of_class rfl rfl hleft, parens_of_class rfl rfl hright,
    List.append_nil, List.nil_append] at hwhole
  exact hwhole.symm

theorem count_open_parens (s : List Char) : (parens s).count '(' = s.count '(' :=
  List.count_filter rfl

/-! ## Open parentheses -/

theorem nest?_of_not_isParen (h : isParen c = false) (n : Nat) : nest? n c = some n := by
  rw [not_isParen_iff] at h
  fun_cases nest? n c with
  | case1 => exact absurd rfl h.1
  | case2 => exact absurd rfl h.2
  | case3 => exact absurd rfl h.2
  | case4 => rfl

theorem openParens?_cons (n : Nat) (c : Char) (s : List Char) :
    openParens? n (c :: s) = (nest? n c).bind fun m => openParens? m s :=
  List.foldlM_cons

theorem openParens?_append (n : Nat) (s t : List Char) :
    openParens? n (s ++ t) = (openParens? n s).bind fun m => openParens? m t :=
  List.foldlM_append

theorem openParens?_parens (n : Nat) (s : List Char) :
    openParens? n (parens s) = openParens? n s := by
  induction s generalizing n with
  | nil => rfl
  | cons c s ih =>
    cases hc : isParen c with
    | false =>
      rw [parens_cons_of_not_isParen hc, openParens?_cons, nest?_of_not_isParen hc, ih]
      rfl
    | true =>
      rw [parens, List.filter_cons_of_pos hc, openParens?_cons, openParens?_cons]
      exact congrArg _ (funext ih)

theorem openParens?_congr (h : parens s = parens t) (n : Nat) :
    openParens? n s = openParens? n t := by
  rw [← openParens?_parens, h, openParens?_parens]

theorem nest?_cases (h : nest? n c = some m) :
    c = '(' ∧ m = n + 1 ∨ c = ')' ∧ n = m + 1 ∨ isParen c = false ∧ m = n := by
  cases hc : isParen c with
  | false =>
    rw [nest?_of_not_isParen hc] at h
    cases h
    exact Or.inr (Or.inr ⟨rfl, rfl⟩)
  | true =>
    rw [isParen, Bool.or_eq_true, beq_iff_eq, beq_iff_eq] at hc
    rcases hc with rfl | rfl
    · cases h
      exact Or.inl ⟨rfl, rfl⟩
    · cases n with
      | zero => cases h
      | succ n =>
        cases h
        exact Or.inr (Or.inl ⟨rfl, rfl⟩)

theorem nest?_add (h : nest? n c = some m) (d : Nat) : nest? (n + d) c = some (m + d) := by
  rcases nest?_cases h with ⟨rfl, rfl⟩ | ⟨rfl, rfl⟩ | ⟨hc, rfl⟩
  · exact congrArg some (Nat.add_right_comm n d 1)
  · rw [Nat.add_right_comm]
    rfl
  · exact nest?_of_not_isParen hc _

/-- More open parentheses in front of a text are open behind it too. -/
theorem openParens?_add (h : openParens? n s = some m) (d : Nat) :
    openParens? (n + d) s = some (m + d) := by
  induction s generalizing n with
  | nil =>
    cases h
    rfl
  | cons c s ih =>
    rw [openParens?_cons] at h ⊢
    obtain ⟨k, hk, h⟩ := Option.bind_eq_some_iff.1 h
    rw [nest?_add hk, Option.bind_some, ih h]

theorem count_cons_eq (c d : Char) (s : List Char) :
    (c :: s).count d = [c].count d + s.count d := by
  rw [← List.count_append, List.singleton_append]

theorem count_of_nest? (h : nest? n c = some m) : m + [c].count ')' = n + [c].count '(' := by
  rcases nest?_cases h with ⟨rfl, rfl⟩ | ⟨rfl, rfl⟩ | ⟨hc, rfl⟩
  · rfl
  · rfl
  · obtain ⟨hopen, hclose⟩ := not_isParen_iff.1 hc
    rw [List.count_singleton, List.count_singleton, if_neg (by simpa using hclose),
      if_neg (by simpa using hopen)]

/-- A text that closes nothing leaves all open that it opens. -/
theorem openParens?_of_not_mem (h : ')' ∉ s) (n : Nat) :
    openParens? n s = some (n + s.count '(') := by
  induction s generalizing n with
  | nil => rfl
  | cons c s ih =>
    rw [List.mem_cons, not_or] at h
    rw [openParens?_cons, count_cons_eq]
    by_cases hc : c = '('
    · subst hc
      rw [show nest? n '(' = some (n + 1) from rfl, Option.bind_some, ih h.2, Nat.add_assoc]
      rfl
    · have hparen : isParen c = false := not_isParen_iff.2 ⟨hc, Ne.symm h.1⟩
      rw [nest?_of_not_isParen hparen, Option.bind_some, ih h.2,
        List.count_singleton, if_neg (by simpa using hc), Nat.zero_add]

/-- No beginning of the text closes more than was opened. -/
theorem count_le_of_openParens? (h : openParens? n s = some m) :
    (∀ t, t <+: s → t.count ')' ≤ n + t.count '(') ∧ m + s.count ')' = n + s.count '(' := by
  induction s generalizing n with
  | nil =>
    cases h
    refine ⟨fun t ht => ?_, rfl⟩
    rw [List.prefix_nil.1 ht]
    exact Nat.zero_le _
  | cons c s ih =>
    rw [openParens?_cons] at h
    obtain ⟨k, hk, h⟩ := Option.bind_eq_some_iff.1 h
    obtain ⟨hle, heq⟩ := ih h
    have hstep := count_of_nest? hk
    refine ⟨fun t ht => ?_, ?_⟩
    · rcases List.prefix_cons_iff.1 ht with rfl | ⟨u, rfl, hu⟩
      · exact Nat.zero_le _
      · have hu := hle u hu
        rw [count_cons_eq c ')', count_cons_eq c '(']
        omega
    · rw [count_cons_eq c ')', count_cons_eq c '(']
      omega

end Recalc.Text
