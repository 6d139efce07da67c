import Mathlib.Logic.Function.Iterate
import Recalc.Calculation

/-!
# Passes and runs

A pass tries each pending formula on the results so far. What it tries in vain it leaves
(`pass_fst_eq`), and over the cells that it resolves it is a `Run`, one after the other. After as
many passes as there are pending cells nothing more can be resolved (`stuck_passes`), so the limit
of `iterate` never decides what it leaves (`iterate_eq_passes`): it makes a run (`run_iterate`) after
which every cell that is still pending is null (`stuck_iterate`). Each of its passes but the last
resolves a cell, so there are no more passes than pending cells (`exists_endsAfter_iterate`).
-/

namespace Recalc.Calculation

variable (sheet : String) (isDefault : Bool)

/-- Resolving the cells of a list one after the other turns results into others. -/
inductive Run : Results → List Pending → Results → Prop
  | nil (r : Results) : Run r [] r
  | cons {r r' : Results} {c : Coordinate} {f : String} {rest : List Pending}
      (hv : Formula.evaluate r.lookup sheet f ≠ .null)
      (h : Run (r.write sheet isDefault c (Formula.evaluate r.lookup sheet f)) rest r') :
      Run r ((c, f) :: rest) r'

/-- No pending cell has a value yet. -/
def Stuck (pending : List Pending) (r : Results) : Prop :=
  ∀ p ∈ pending, Formula.evaluate r.lookup sheet p.2 = .null

/-- What a pass tries: each pending formula, with the results that it is evaluated on. -/
def passTries : List Pending → Results → List (Pending × Results)
  | [], _ => []
  | (c, f) :: rest, results =>
    let v := Formula.evaluate results.lookup sheet f
    ((c, f), results) ::
      passTries rest (if v.isNull then results else results.write sheet isDefault c v)

/-- What `iterate` tries. -/
def tries : (limit : Nat) → State → List (Pending × Results)
  | 0, _ => []
  | limit + 1, s =>
    if s.pending.isEmpty then []
    else
      let t := s.next sheet isDefault
      passTries sheet isDefault s.pending s.results ++
        if t.pending.length < s.pending.length then tries limit t else []

/-- A try that finds no value. -/
def inVain (t : Pending × Results) : Bool :=
  (Formula.evaluate t.2.lookup sheet t.1.2).isNull

/-- The cells that a pass resolves, in order. -/
def passOrder (pending : List Pending) (results : Results) : List Pending :=
  ((passTries sheet isDefault pending results).filter fun t => !inVain sheet t).map Prod.fst

/-- The cells that `iterate` resolves, in order. -/
def resolvedOrder (limit : Nat) (s : State) : List Pending :=
  ((tries sheet isDefault limit s).filter fun t => !inVain sheet t).map Prod.fst

/-- A number of passes. -/
def passes : Nat → List Pending × Results → List Pending × Results
  | 0, s => s
  | n + 1, s => passes n (pass sheet isDefault s.1 s.2)

variable {sheet isDefault}

theorem isNull_eq_false_iff {v : Value} : v.isNull = false ↔ v ≠ .null := by
  cases v <;> simp [Value.isNull]

theorem isNull_iff {v : Value} : v.isNull = true ↔ v = .null := by
  cases v <;> simp [Value.isNull]

/-! ## Runs -/

namespace Run
variable {r r' r'' : Results} {order before after : List Pending}

theorem append (h : Run sheet isDefault r before r') (h' : Run sheet isDefault r' after r'') :
    Run sheet isDefault r (before ++ after) r'' := by
  induction h with
  | nil r => exact h'
  | cons hv h ih => exact .cons hv (ih h')

theorem split (h : Run sheet isDefault r (before ++ after) r'') :
    ∃ r', Run sheet isDefault r before r' ∧ Run sheet isDefault r' after r'' := by
  induction before generalizing r with
  | nil => exact ⟨r, .nil r, h⟩
  | cons p before ih =>
    cases h with
    | cons hv h =>
      obtain ⟨r', hb, ha⟩ := ih h
      exact ⟨r', .cons hv hb, ha⟩

end Run

/-! ## One pass -/

section Pass
variable {p : Pending} {pending : List Pending} {r : Results}

theorem pass_cons_of_eq_null (h : Formula.evaluate r.lookup sheet p.2 = .null) :
    pass sheet isDefault (p :: pending) r =
      (p :: (pass sheet isDefault pending r).1, (pass sheet isDefault pending r).2) := by
  obtain ⟨c, f⟩ := p
  rw [pass, if_pos (isNull_iff.2 h)]

theorem pass_cons_of_ne_null (h : Formula.evaluate r.lookup sheet p.2 ≠ .null) :
    pass sheet isDefault (p :: pending) r =
      pass sheet isDefault pending
        (r.write sheet isDefault p.1 (Formula.evaluate r.lookup sheet p.2)) := by
  obtain ⟨c, f⟩ := p
  rw [pass, if_neg (by rw [isNull_eq_false_iff.2 h]; exact Bool.false_ne_true)]

theorem passTries_cons_of_eq_null (h : Formula.evaluate r.lookup sheet p.2 = .null) :
    passTries sheet isDefault (p :: pending) r =
      (p, r) :: passTries sheet isDefault pending r := by
  obtain ⟨c, f⟩ := p
  rw [passTries, if_pos (isNull_iff.2 h)]

theorem passTries_cons_of_ne_null (h : Formula.evaluate r.lookup sheet p.2 ≠ .null) :
    passTries sheet isDefault (p :: pending) r =
      (p, r) :: passTries sheet isDefault pending
        (r.write sheet isDefault p.1 (Formula.evaluate r.lookup sheet p.2)) := by
  obtain ⟨c, f⟩ := p
  rw [passTries, if_neg (by rw [isNull_eq_false_iff.2 h]; exact Bool.false_ne_true)]

theorem passOrder_cons_of_eq_null (h : Formula.evaluate r.lookup sheet p.2 = .null) :
    passOrder sheet isDefault (p :: pending) r = passOrder sheet isDefault pending r := by
  have hvain : inVain sheet (p, r) = true := isNull_iff.2 h
  rw [passOrder, passTries_cons_of_eq_null h, List.filter_cons_of_neg (by simp [hvain])]
  rfl

theorem passOrder_cons_of_ne_null (h : Formula.evaluate r.lookup sheet p.2 ≠ .null) :
    passOrder sheet isDefault (p :: pending) r =
      p :: passOrder sheet isDefault pending
        (r.write sheet isDefault p.1 (Formula.evaluate r.lookup sheet p.2)) := by
  have hvain : inVain sheet (p, r) = false := isNull_eq_false_iff.2 h
  rw [passOrder, passTries_cons_of_ne_null h, List.filter_cons_of_pos (by simp [hvain])]
  rfl

variable (sheet isDefault)

/-- A pass is a run over the cells that it resolves. -/
theorem run_pass (pending : List Pending) (r : Results) :
    Run sheet isDefault r (passOrder sheet isDefault pending r)
      (pass sheet isDefault pending r).2 := by
  induction pending generalizing r with
  | nil => exact .nil r
  | cons p pending ih =>
    by_cases h : Formula.evaluate r.lookup sheet p.2 = .null
    · rw [passOrder_cons_of_eq_null h, pass_cons_of_eq_null h]
      exact ih r
    · rw [passOrder_cons_of_ne_null h, pass_cons_of_ne_null h]
      exact .cons h (ih _)

/-- A pass tries every pending formula once, in order. -/
theorem map_fst_passTries (pending : List Pending) (r : Results) :
    (passTries sheet isDefault pending r).map Prod.fst = pending := by
  induction pending generalizing r with
  | nil => rfl
  | cons p pending ih => exact congrArg (p :: ·) (ih _)

/-- A pass leaves what it tries in vain. -/
theorem pass_fst_eq (pending : List Pending) (r : Results) :
    (pass sheet isDefault pending r).1 =
      ((passTries sheet isDefault pending r).filter (inVain sheet)).map Prod.fst := by
  induction pending generalizing r with
  | nil => rfl
  | cons p pending ih =>
    by_cases h : Formula.evaluate r.lookup sheet p.2 = .null
    · have hvain : inVain sheet (p, r) = true := isNull_iff.2 h
      rw [pass_cons_of_eq_null h, passTries_cons_of_eq_null h, List.filter_cons_of_pos hvain, ih,
        List.map_cons]
    · have hvain : inVain sheet (p, r) = false := isNull_eq_false_iff.2 h
      rw [pass_cons_of_ne_null h, passTries_cons_of_ne_null h,
        List.filter_cons_of_neg (by simp [hvain]), ih]

theorem perm_pass (pending : List Pending) (r : Results) :
    (passOrder sheet isDefault pending r ++ (pass sheet isDefault pending r).1).Perm pending := by
  have htries := List.filter_append_perm (inVain sheet) (passTries sheet isDefault pending r)
  have hcells := (List.perm_append_comm.trans htries).map Prod.fst
  rwa [List.map_append, ← pass_fst_eq, map_fst_passTries] at hcells

theorem mem_of_mem_passOrder (pending : List Pending) (r : Results) :
    ∀ q ∈ passOrder sheet isDefault pending r, q ∈ pending :=
  fun _ hq => (perm_pass sheet isDefault pending r).mem_iff.1 (List.mem_append_left _ hq)

/-- A pass keeps the order of the cells. -/
theorem sublist_pass (pending : List Pending) (r : Results) :
    (pass sheet isDefault pending r).1.Sublist pending := by
  have hcells := (List.filter_sublist (p := inVain sheet)
    (l := passTries sheet isDefault pending r)).map Prod.fst
  rwa [← pass_fst_eq, map_fst_passTries] at hcells

theorem length_pass_le (pending : List Pending) (r : Results) :
    (pass sheet isDefault pending r).1.length ≤ pending.length :=
  (sublist_pass sheet isDefault pending r).length_le

variable {sheet isDefault}

theorem pass_of_stuck (h : Stuck sheet pending r) :
    pass sheet isDefault pending r = (pending, r) := by
  induction pending with
  | nil => rfl
  | cons p pending ih =>
    rw [pass_cons_of_eq_null (h p (List.mem_cons_self ..)),
      ih fun q hq => h q (List.mem_cons_of_mem p hq)]

/-- A pass that resolves nothing finds every cell null. -/
theorem stuck_of_length_eq (h : (pass sheet isDefault pending r).1.length = pending.length) :
    Stuck sheet pending r := by
  induction pending with
  | nil => intro q hq; cases hq
  | cons p pending ih =>
    by_cases hp : Formula.evaluate r.lookup sheet p.2 = .null
    · rw [pass_cons_of_eq_null hp, List.length_cons, List.length_cons,
        Nat.add_right_cancel_iff] at h
      intro q hq
      rcases List.mem_cons.1 hq with rfl | hq
      · exact hp
      · exact ih h q hq
    · rw [pass_cons_of_ne_null hp, List.length_cons] at h
      have := length_pass_le sheet isDefault pending
        (r.write sheet isDefault p.1 (Formula.evaluate r.lookup sheet p.2))
      omega

end Pass

/-! ## Many passes -/

theorem passes_of_stuck {pending : List Pending} {r : Results} (h : Stuck sheet pending r)
    (n : Nat) : passes sheet isDefault n (pending, r) = (pending, r) := by
  induction n with
  | zero => rfl
  | succ n ih => rw [passes, pass_of_stuck h, ih]

theorem stuck_nil (r : Results) : Stuck sheet [] r := by
  intro p hp
  cases hp

variable (sheet isDefault) in
/-- After as many passes as there are pending cells, no pending cell has a value. -/
theorem stuck_passes {n : Nat} {pending : List Pending} (r : Results) (h : pending.length ≤ n) :
    Stuck sheet (passes sheet isDefault n (pending, r)).1
      (passes sheet isDefault n (pending, r)).2 := by
  induction n generalizing pending r with
  | zero =>
    obtain rfl := List.length_eq_zero_iff.1 (Nat.le_zero.1 h)
    exact stuck_nil r
  | succ n ih =>
    rcases Nat.lt_or_eq_of_le (length_pass_le sheet isDefault pending r) with hlt | heq
    · exact ih _ (Nat.le_of_lt_succ (Nat.lt_of_lt_of_le hlt h))
    · have hstuck := stuck_of_length_eq heq
      rw [passes_of_stuck hstuck]
      exact hstuck

theorem iterate_of_eq_nil {s : State} (hp : s.pending = []) (limit : Nat) :
    iterate sheet isDefault limit s = s := by
  cases limit with
  | zero => rfl
  | succ limit => rw [iterate, if_pos (by rw [hp]; rfl)]

theorem iterate_succ {limit : Nat} {s : State} (hp : s.pending ≠ []) :
    iterate sheet isDefault (limit + 1) s =
      if (s.next sheet isDefault).pending.length < s.pending.length then
        iterate sheet isDefault limit (s.next sheet isDefault)
      else s.next sheet isDefault := by
  rw [iterate, if_neg (by simpa using hp)]

variable (sheet isDefault) in
/-- The limit of `iterate` does not decide what it leaves, and neither does any number of passes
from the number of pending cells on. -/
theorem iterate_eq_passes {limit n : Nat} {s : State} (hl : s.pending.length ≤ limit)
    (hn : s.pending.length ≤ n) :
    ((iterate sheet isDefault limit s).pending, (iterate sheet isDefault limit s).results) =
      passes sheet isDefault n (s.pending, s.results) := by
  induction limit generalizing s n with
  | zero =>
    have hnil := List.length_eq_zero_iff.1 (Nat.le_zero.1 hl)
    rw [iterate, hnil, passes_of_stuck (stuck_nil _)]
  | succ limit ih =>
    by_cases hp : s.pending = []
    · rw [iterate_of_eq_nil hp, hp, passes_of_stuck (stuck_nil _)]
    · have hlength := List.length_pos_iff.2 hp
      obtain ⟨n, rfl⟩ : ∃ k, n = k + 1 := ⟨n - 1, by omega⟩
      rw [iterate_succ hp, passes]
      rcases Nat.lt_or_eq_of_le (length_pass_le sheet isDefault s.pending s.results) with hlt | heq
      · have hnext : (s.next sheet isDefault).pending.length < s.pending.length := hlt
        rw [if_pos hnext]
        exact ih (Nat.le_of_lt_succ (Nat.lt_of_lt_of_le hnext hl))
          (Nat.le_of_lt_succ (Nat.lt_of_lt_of_le hnext hn))
      · have hnext : ¬ (s.next sheet isDefault).pending.length < s.pending.length :=
          Nat.not_lt.2 (Nat.le_of_eq heq.symm)
        have hstuck := stuck_of_length_eq heq
        rw [if_neg hnext]
        show pass sheet isDefault s.pending s.results =
          passes sheet isDefault n (pass sheet isDefault s.pending s.results)
        rw [pass_of_stuck hstuck, passes_of_stuck hstuck]

/-- So many passes lead from one state to another, and the passes end there because nothing is
pending or because the last of them resolved nothing. -/
structure EndsAfter (sheet : String) (isDefault : Bool) (n : Nat) (s final : State) : Prop where
  reached : final = (State.next sheet isDefault)^[n] s
  ended : final.pending = [] ∨
    ∃ m, n = m + 1 ∧ ((State.next sheet isDefault)^[m] s).pending = final.pending

theorem EndsAfter.next {n : Nat} {s final : State}
    (h : EndsAfter sheet isDefault n (s.next sheet isDefault) final) :
    EndsAfter sheet isDefault (n + 1) s final := by
  obtain ⟨hreached, hended⟩ := h
  refine ⟨hreached, ?_⟩
  rcases hended with hnil | ⟨m, rfl, hlast⟩
  · exact Or.inl hnil
  · exact Or.inr ⟨m + 1, rfl, hlast⟩

theorem EndsAfter.passes_eq {n : Nat} {s final : State}
    (h : EndsAfter sheet isDefault n s final) : final.passes = s.passes + n := by
  have hpasses : ∀ (n : Nat) (s : State),
      ((State.next sheet isDefault)^[n] s).passes = s.passes + n := by
    intro n
    induction n with
    | zero => exact fun s => rfl
    | succ n ih =>
      intro s
      have hnext : (s.next sheet isDefault).passes = s.passes + 1 := rfl
      rw [Function.iterate_succ_apply, ih, hnext]
      omega
  rw [h.reached, hpasses]

variable (sheet isDefault) in
theorem exists_endsAfter_iterate {limit : Nat} {s : State} (hl : s.pending.length ≤ limit) :
    ∃ n ≤ s.pending.length, EndsAfter sheet isDefault n s (iterate sheet isDefault limit s) := by
  induction limit generalizing s with
  | zero =>
    have hnil := List.length_eq_zero_iff.1 (Nat.le_zero.1 hl)
    exact ⟨0, Nat.zero_le _, rfl, Or.inl hnil⟩
  | succ limit ih =>
    by_cases hp : s.pending = []
    · rw [iterate_of_eq_nil hp]
      exact ⟨0, Nat.zero_le _, rfl, Or.inl hp⟩
    · have hlength := List.length_pos_iff.2 hp
      rw [iterate_succ hp]
      split
      · rename_i hnext
        obtain ⟨n, hn, hends⟩ := ih (Nat.le_of_lt_succ (Nat.lt_of_lt_of_le hnext hl))
        exact ⟨n + 1, by omega, hends.next⟩
      · rename_i hnext
        have heq : (pass sheet isDefault s.pending s.results).1.length = s.pending.length :=
          Nat.le_antisymm (length_pass_le sheet isDefault s.pending s.results)
            (Nat.le_of_not_lt hnext)
        have hlast : (s.next sheet isDefault).pending = s.pending :=
          congrArg Prod.fst (pass_of_stuck (stuck_of_length_eq heq))
        exact ⟨1, hlength, rfl, Or.inr ⟨0, rfl, hlast.symm⟩⟩

theorem resolvedOrder_of_eq_nil {s : State} (hp : s.pending = []) (limit : Nat) :
    resolvedOrder sheet isDefault limit s = [] := by
  cases limit with
  | zero => rfl
  | succ limit =>
    rw [resolvedOrder, tries, if_pos (by rw [hp]; rfl)]
    rfl

theorem resolvedOrder_succ {limit : Nat} {s : State} (hp : s.pending ≠ []) :
    resolvedOrder sheet isDefault (limit + 1) s =
      passOrder sheet isDefault s.pending s.results ++
        if (s.next sheet isDefault).pending.length < s.pending.length then
          resolvedOrder sheet isDefault limit (s.next sheet isDefault)
        else [] := by
  rw [resolvedOrder, tries, if_neg (by simpa using hp), List.filter_append, List.map_append]
  split <;> rfl

/-- `iterate` is a number of passes one behind the other. -/
theorem iterate_induction {motive : State → List Pending → State → Prop}
    (stop : ∀ s, motive s [] s)
    (step : ∀ s, motive s (passOrder sheet isDefault s.pending s.results)
      (s.next sheet isDefault))
    (append : ∀ {s t u order order'}, motive s order t → motive t order' u →
      motive s (order ++ order') u)
    (limit : Nat) (s : State) :
    motive s (resolvedOrder sheet isDefault limit s) (iterate sheet isDefault limit s) := by
  induction limit generalizing s with
  | zero => exact stop s
  | succ limit ih =>
    by_cases hp : s.pending = []
    · rw [resolvedOrder_of_eq_nil hp, iterate_of_eq_nil hp]
      exact stop s
    · rw [resolvedOrder_succ hp, iterate_succ hp]
      split
      · exact append (step s) (ih (s.next sheet isDefault))
      · rw [List.append_nil]
        exact step s

variable (sheet isDefault)

theorem run_iterate (limit : Nat) (s : State) :
    Run sheet isDefault s.results (resolvedOrder sheet isDefault limit s)
      (iterate sheet isDefault limit s).results :=
  iterate_induction (motive := fun s order t => Run sheet isDefault s.results order t.results)
    (fun s => .nil s.results) (fun s => run_pass sheet isDefault s.pending s.results)
    (fun h h' => h.append h') limit s

theorem perm_iterate (limit : Nat) (s : State) :
    (resolvedOrder sheet isDefault limit s ++
      (iterate sheet isDefault limit s).pending).Perm s.pending := by
  refine iterate_induction (motive := fun s order t => (order ++ t.pending).Perm s.pending)
    (fun _ => .refl _) (fun s => perm_pass sheet isDefault s.pending s.results) ?_ limit s
  intro s t u order order' h h'
  rw [List.append_assoc]
  exact (h'.append_left order).trans h

theorem sublist_iterate (limit : Nat) (s : State) :
    (iterate sheet isDefault limit s).pending.Sublist s.pending :=
  iterate_induction (motive := fun s _ t => t.pending.Sublist s.pending)
    (fun _ => .refl _) (fun s => sublist_pass sheet isDefault s.pending s.results)
    (fun h h' => h'.trans h) limit s

variable {sheet isDefault}

/-- Nothing that `iterate` leaves can be resolved. -/
theorem stuck_iterate {limit : Nat} {s : State} (hl : s.pending.length ≤ limit) :
    Stuck sheet (iterate sheet isDefault limit s).pending
      (iterate sheet isDefault limit s).results := by
  have hstuck := stuck_passes sheet isDefault s.results (Nat.le_refl s.pending.length)
  rw [← iterate_eq_passes sheet isDefault hl (Nat.le_refl _)] at hstuck
  exact hstuck

end Recalc.Calculation
