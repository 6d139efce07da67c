import Recalc.Arithmetic.Expr

/-!
# The faults of an expression

Each subtree of an expression may be at fault on its own account: its operator is unknown, it
divides by zero, or its plain value is not finite. Evaluation succeeds if and only if no subtree is
at fault, with the plain value of the whole; else it fails with the fault of the first subtree that
is at fault, operands before operators and from left to right (`Expr.eval_eq_iff_faults`). This
holds of every tree, also of those that no text is read as.
-/

namespace Recalc.Arithmetic

/-! ## Plain values -/

/-- The value of a sign in front of a number. -/
def plainSign? (op : Char) (x : Float) : Option Float :=
  if op = '+' then some x
  else if op = '-' then some (-x)
  else none

/-- The value of an operator between two numbers, division by zero included. -/
def plainOperator? (op : Char) (x y : Float) : Option Float :=
  if op = '+' then some (x + y)
  else if op = '-' then some (x - y)
  else if op = '*' then some (x * y)
  else if op = '/' then some (x / y)
  else none

namespace Expr

/-- The value without any check on the way; there is none if an operator is unknown. -/
def plain? : Expr → Option Float
  | number n => some n
  | unary op e => e.plain?.bind (plainSign? op)
  | binary op l r => l.plain?.bind fun x => r.plain?.bind (plainOperator? op x)

/-- The subtrees from left to right, operands before their operator, the whole tree last. -/
def postorder : Expr → List Expr
  | number n => [number n]
  | unary op e => e.postorder ++ [unary op e]
  | binary op l r => l.postorder ++ (r.postorder ++ [binary op l r])

/-! ## What a subtree is at fault for -/

/-- The operator at the root is known for its arity. -/
def Known : Expr → Prop
  | number _ => True
  | unary op _ => op = '+' ∨ op = '-'
  | binary op _ _ => op = '+' ∨ op = '-' ∨ op = '*' ∨ op = '/'

/-- The root is a division, and its divisor equals zero. -/
def DividesByZero : Expr → Prop
  | binary op _ r => op = '/' ∧ ∃ y, r.plain? = some y ∧ (y == 0) = true
  | _ => False

/-- The root has a known operator, is no division by zero and has a finite plain value. -/
structure Sound (t : Expr) : Prop where
  known : t.Known
  not_dividesByZero : ¬ t.DividesByZero
  finite : ∃ x, t.plain? = some x ∧ x.isFinite = true

def unknown? : Expr → Option EvalFault
  | number _ => none
  | unary op _ => if op = '+' ∨ op = '-' then none else some (.unknownSign op)
  | binary op _ _ =>
    if op = '+' ∨ op = '-' ∨ op = '*' ∨ op = '/' then none else some (.unknownOperator op)

def zeroDivisor? : Expr → Option EvalFault
  | binary op _ r => if op = '/' ∧ r.plain?.any (· == 0) then some .divisionByZero else none
  | _ => none

def notFinite? (t : Expr) : Option EvalFault :=
  t.plain?.bind fun x => if x.isFinite then none else some (.outOfRange x)

/-- The fault of the root, as if its operands had none. -/
def fault? (t : Expr) : Option EvalFault :=
  t.unknown?.or (t.zeroDivisor?.or t.notFinite?)

variable {a b e t : Expr} {x y v : Float} {op : Char}

theorem ite_none_eq_none_iff {p : Prop} [Decidable p] {f : EvalFault} :
    (if p then none else some f) = none ↔ p := by
  by_cases h : p
  · exact iff_of_true (if_pos h) h
  · rw [if_neg h]
    exact iff_of_false (Option.some_ne_none f) h

theorem unknown?_eq_none_iff : t.unknown? = none ↔ t.Known := by
  cases t with
  | number n => exact iff_of_true rfl trivial
  | unary op e => exact ite_none_eq_none_iff
  | binary op l r => exact ite_none_eq_none_iff

theorem zeroDivisor?_eq_none_iff : t.zeroDivisor? = none ↔ ¬ t.DividesByZero := by
  cases t with
  | number n => exact iff_of_true rfl id
  | unary op e => exact iff_of_true rfl id
  | binary op l r =>
    rw [zeroDivisor?, DividesByZero]
    cases r.plain? <;> simp

theorem fault?_of_unknown? {f : EvalFault} (h : t.unknown? = some f) : t.fault? = some f := by
  rw [fault?, h, Option.some_or]

/-- A root with a plain value is sound if and only if it has no fault. -/
theorem fault?_eq_none_iff (hv : t.plain? = some v) : t.fault? = none ↔ t.Sound := by
  have hfinite : t.notFinite? = none ↔ v.isFinite = true := by
    rw [notFinite?, hv, Option.bind_some]
    cases v.isFinite <;> simp
  rw [fault?, Option.or_eq_none_iff, Option.or_eq_none_iff, unknown?_eq_none_iff,
    zeroDivisor?_eq_none_iff, hfinite]
  constructor
  · rintro ⟨hknown, hzero, hx⟩
    exact ⟨hknown, hzero, v, hv, hx⟩
  · rintro ⟨hknown, hzero, x, hx, hfin⟩
    rw [hv] at hx
    cases hx
    exact ⟨hknown, hzero, hfin⟩

/-! ## Evaluation, one operation after the other -/

/-- A result is the plain value of a tree where none of the subtrees looked at is at fault, and the
first fault among them where one is. -/
def Agrees (ts : List Expr) (t : Expr) : Except EvalFault Float → Prop
  | .ok v => t.plain? = some v ∧ ts.findSome? fault? = none
  | .error f => ts.findSome? fault? = some f

variable {ts us : List Expr} {result : Except EvalFault Float}

theorem Agrees.append (hts : ts.findSome? fault? = none) (h : Agrees us t result) :
    Agrees (ts ++ us) t result := by
  have happend : (ts ++ us).findSome? fault? = us.findSome? fault? := by
    rw [List.findSome?_append, hts, Option.none_or]
  cases result with
  | ok v => exact ⟨h.1, happend.trans h.2⟩
  | error f => exact happend.trans h

theorem Agrees.bind {k : Float → Except EvalFault Float} (h : Agrees ts a result)
    (hk : ∀ x, a.plain? = some x → Agrees us b (k x)) : Agrees (ts ++ us) b (result >>= k) := by
  cases result with
  | ok x => exact (hk x h.1).append h.2
  | error f =>
    show (ts ++ us).findSome? fault? = some f
    rw [List.findSome?_append, show ts.findSome? fault? = some f from h, Option.some_or]

theorem agrees_fault {f : EvalFault} (h : t.fault? = some f) : Agrees [t] t (.error f) :=
  List.findSome?_singleton.trans h

theorem agrees_finite (hknown : t.Known) (hzero : ¬ t.DividesByZero) (hv : t.plain? = some v) :
    Agrees [t] t (Arithmetic.finite v) := by
  have hfault : t.fault? = if v.isFinite then none else some (.outOfRange v) := by
    rw [fault?, unknown?_eq_none_iff.2 hknown, zeroDivisor?_eq_none_iff.2 hzero, Option.none_or,
      Option.none_or, notFinite?, hv]
    rfl
  rw [Arithmetic.finite]
  split
  · rename_i hfin
    exact ⟨hv, List.findSome?_singleton.trans (hfault.trans (if_pos hfin))⟩
  · rename_i hfin
    exact agrees_fault (hfault.trans (if_neg hfin))

theorem agrees_unary (hx : e.plain? = some x) :
    Agrees [unary op e] (unary op e) (applySign op x >>= Arithmetic.finite) := by
  have hplain : (unary op e).plain? = plainSign? op x := by rw [plain?, hx, Option.bind_some]
  by_cases hknown : (unary op e).Known
  · rcases id hknown with rfl | rfl
    · exact agrees_finite hknown id hplain
    · exact agrees_finite hknown id hplain
  · obtain ⟨hplus, hminus⟩ := not_or.1 hknown
    rw [applySign, if_neg hminus, if_neg hplus]
    exact agrees_fault (fault?_of_unknown? (if_neg hknown))

theorem agrees_binary (hx : a.plain? = some x) (hy : b.plain? = some y) :
    Agrees [binary op a b] (binary op a b) (applyOperator op x y >>= Arithmetic.finite) := by
  have hplain : (binary op a b).plain? = plainOperator? op x y := by
    rw [plain?, hx, hy, Option.bind_some, Option.bind_some]
  by_cases hknown : (binary op a b).Known
  · by_cases hzero : (binary op a b).DividesByZero
    · obtain ⟨rfl, z, hz, hz0⟩ := hzero
      rw [hy] at hz
      cases hz
      rw [show applyOperator '/' x y = .error .divisionByZero from if_pos hz0]
      exact agrees_fault (by
        rw [fault?, unknown?_eq_none_iff.2 hknown, zeroDivisor?, hy, Option.any_some,
          if_pos ⟨rfl, hz0⟩]
        rfl)
    · rcases id hknown with rfl | rfl | rfl | rfl
      · exact agrees_finite hknown hzero hplain
      · exact agrees_finite hknown hzero hplain
      · exact agrees_finite hknown hzero hplain
      · have hy0 : ¬ (y == 0) = true := fun hy0 => hzero ⟨rfl, y, hy, hy0⟩
        rw [show applyOperator '/' x y = .ok (x / y) from if_neg hy0]
        exact agrees_finite hknown hzero hplain
  · obtain ⟨hadd, hsub, hmul, hdiv⟩ : op ≠ '+' ∧ op ≠ '-' ∧ op ≠ '*' ∧ op ≠ '/' := by
      simpa [Known, not_or] using hknown
    rw [applyOperator, if_neg hadd, if_neg hsub, if_neg hmul, if_neg hdiv]
    exact agrees_fault (fault?_of_unknown? (if_neg hknown))

theorem agrees_eval (e : Expr) : Agrees e.postorder e e.eval := by
  induction e with
  | number n => exact agrees_finite trivial id rfl
  | unary op e ih => exact ih.bind fun x hx => agrees_unary hx
  | binary op l r ihl ihr =>
    exact ihl.bind fun x hx => ihr.bind fun y hy => agrees_binary hx hy

/-! ## The whole tree -/

theorem postorder_subset (ht : t ∈ e.postorder) : t.postorder ⊆ e.postorder := by
  induction e with
  | number n =>
    rw [List.eq_of_mem_singleton ht]
    exact List.Subset.refl _
  | unary op e ih =>
    rcases List.mem_append.1 ht with ht | ht
    · exact List.subset_append_of_subset_left _ (ih ht)
    · rw [List.eq_of_mem_singleton ht]
      exact List.Subset.refl _
  | binary op l r ihl ihr =>
    rcases List.mem_append.1 ht with ht | ht
    · exact List.subset_append_of_subset_left _ (ihl ht)
    · rcases List.mem_append.1 ht with ht | ht
      · exact List.subset_append_of_subset_right _ (List.subset_append_of_subset_left _ (ihr ht))
      · rw [List.eq_of_mem_singleton ht]
        exact List.Subset.refl _

theorem forall_sound_iff :
    (∀ t ∈ e.postorder, t.Sound) ↔ e.postorder.findSome? fault? = none := by
  rw [List.findSome?_eq_none_iff]
  constructor
  · intro h t ht
    obtain ⟨v, hv, -⟩ := (h t ht).finite
    exact (fault?_eq_none_iff hv).2 (h t ht)
  · intro h t ht
    -- without a fault below it, a subtree has a plain value, which its own fault is about
    have hnone : t.postorder.findSome? fault? = none :=
      List.findSome?_eq_none_iff.2 fun u hu => h u (postorder_subset ht hu)
    have hagrees := agrees_eval t
    cases heval : t.eval with
    | ok v =>
      rw [heval] at hagrees
      exact (fault?_eq_none_iff hagrees.1).1 (h t ht)
    | error f =>
      rw [heval] at hagrees
      cases hnone.symm.trans hagrees

/-- Evaluation fails exactly on faults. It gives a value if and only if all operators are known, no
divisor equals zero and all subtrees have finite plain values, and then it gives the plain value of
the whole tree. Else it fails with the fault of the first subtree that is at fault, operands before
operators and from left to right. -/
theorem eval_eq_iff_faults (e : Expr) :
    (∀ v, e.eval = .ok v ↔ (∀ t ∈ e.postorder, t.Sound) ∧ e.plain? = some v) ∧
    (∀ f, e.eval = .error f ↔ e.postorder.findSome? fault? = some f) := by
  have hagrees := agrees_eval e
  rw [forall_sound_iff]
  cases heval : e.eval with
  | ok x =>
    rw [heval] at hagrees
    rw [hagrees.1, hagrees.2]
    simp
  | error f =>
    rw [heval] at hagrees
    rw [show e.postorder.findSome? fault? = some f from hagrees]
    simp

/-- The left operand is looked at before the right one, and both before their operator. -/
example : (binary '^' (unary '!' (number 1)) (binary '/' (number 1) (number 0))).eval =
    .error (.unknownSign '!') := by
  rfl

end Expr

end Recalc.Arithmetic
