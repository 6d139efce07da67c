import Recalc.Arithmetic.Parser

/-!
# Phrases

A `Phrase` is an expression as it is written: operands with signs, operators and the parentheses
around them. It is `WellFormed` if it needs no further parentheses to be read back. `symbols` are
its characters and operands from left to right; `tree` is the expression that a phrase of numbers
stands for. Putting something in the place of the operands (`bind`, `traverse`) changes neither the
rank of a phrase nor its characters.
-/

namespace Recalc.Arithmetic

inductive Phrase (α : Type)
  | operand (a : α)
  | sign (op : Char) (e : Phrase α)
  | binary (op : Char) (l r : Phrase α)
  /-- An expression in parentheses. -/
  | group (e : Phrase α)
deriving DecidableEq

/-- A character of arithmetic, or an operand. -/
inductive Symbol (α : Type)
  | mark (c : Char)
  | operand (a : α)
deriving DecidableEq

/-- The token of a symbol. -/
def Symbol.token : Symbol Float → Token
  | mark c => if c = '(' then .openParen else if c = ')' then .closeParen else .operator c
  | operand x => .number x

namespace Phrase
variable {α β : Type}

/-- How weakly a phrase binds: 2 for a sum, 1 for a product, 0 for what a sign may stand before. -/
def rank : Phrase α → Nat
  | binary op _ _ => if isMultiplicative op then 1 else 2
  | _ => 0

/-- Signs stand before signs, operands and groups; a chain of operators of one strength grows to the
left, and its operands bind tighter. -/
def WellFormed : Phrase α → Prop
  | operand _ => True
  | sign op e => isAdditive op ∧ e.rank = 0 ∧ e.WellFormed
  | binary op l r =>
    (isMultiplicative op ∧ l.rank ≤ 1 ∧ r.rank = 0 ∨ isAdditive op ∧ r.rank ≤ 1) ∧
      l.WellFormed ∧ r.WellFormed
  | group e => e.WellFormed

/-- The symbols of a phrase, from left to right. -/
def symbols : Phrase α → List (Symbol α)
  | operand a => [.operand a]
  | sign op e => .mark op :: e.symbols
  | binary op l r => l.symbols ++ .mark op :: r.symbols
  | group e => .mark '(' :: (e.symbols ++ [.mark ')'])

/-- The operands of a phrase, from left to right. -/
def operands : Phrase α → List α
  | operand a => [a]
  | sign _ e => e.operands
  | binary _ l r => l.operands ++ r.operands
  | group e => e.operands

/-- A phrase in the place of each operand. -/
def bind (f : α → Phrase β) : Phrase α → Phrase β
  | operand a => f a
  | sign op e => sign op (e.bind f)
  | binary op l r => binary op (l.bind f) (r.bind f)
  | group e => group (e.bind f)

/-- The phrase of what the operands are worth, if all are worth something. -/
def traverse (f : α → Option β) : Phrase α → Option (Phrase β)
  | operand a => (f a).map operand
  | sign op e => (e.traverse f).map (sign op)
  | binary op l r => (l.traverse f).bind fun l => (r.traverse f).map (binary op l)
  | group e => (e.traverse f).map group

/-- The most signs and parentheses that stand around one operand. -/
def depth : Phrase α → Nat
  | operand _ => 0
  | sign _ e => e.depth + 1
  | binary _ l r => max l.depth r.depth
  | group e => e.depth + 1

/-- The expression that a phrase of numbers stands for. -/
def tree : Phrase Float → Expr
  | operand x => .number x
  | sign op e => .unary op e.tree
  | binary op l r => .binary op l.tree r.tree
  | group e => e.tree

def tokens (p : Phrase Float) : List Token :=
  p.symbols.map Symbol.token

/-- Whether a phrase stays within a budget of nesting and the limit of height. -/
def Fits (budget : Nat) (p : Phrase Float) : Prop :=
  p.depth ≤ budget ∧ p.tree.height ≤ maxHeight

instance (budget : Nat) (p : Phrase Float) : Decidable (p.Fits budget) :=
  inferInstanceAs (Decidable (_ ∧ _))

end Phrase

namespace Symbol
variable {α β : Type}

/-- The symbol of what an operand is worth, if it is worth something. -/
def traverse (f : α → Option β) : Symbol α → Option (Symbol β)
  | mark c => some (mark c)
  | operand a => (f a).map operand

/-- The symbols that a phrase in the place of an operand leads to. -/
def expand (f : α → List (Symbol β)) : Symbol α → List (Symbol β)
  | mark c => [mark c]
  | operand a => f a

end Symbol

namespace Phrase
variable {α β γ : Type}

/-! ## Operands replaced -/

theorem symbols_bind (f : α → Phrase β) (p : Phrase α) :
    (p.bind f).symbols = p.symbols.flatMap (Symbol.expand fun a => (f a).symbols) := by
  induction p with
  | operand a => simp [bind, symbols, Symbol.expand]
  | sign c e ih => simp [bind, symbols, Symbol.expand, ih]
  | binary c l r ihl ihr => simp [bind, symbols, Symbol.expand, ihl, ihr]
  | group e ih => simp [bind, symbols, Symbol.expand, ih]

theorem rank_bind {f : α → Phrase β} (hf : ∀ a, (f a).rank = 0) (p : Phrase α) :
    (p.bind f).rank = p.rank := by
  cases p with
  | operand a => exact hf a
  | sign c e => rfl
  | binary c l r => rfl
  | group e => rfl

theorem WellFormed.bind {f : α → Phrase β} (hr : ∀ a, (f a).rank = 0)
    (hf : ∀ a, (f a).WellFormed) {p : Phrase α} (hp : p.WellFormed) : (p.bind f).WellFormed := by
  induction p with
  | operand a => exact hf a
  | sign c e ih =>
    obtain ⟨hc, he, hw⟩ := hp
    exact ⟨hc, by rw [rank_bind hr]; exact he, ih hw⟩
  | binary c l r ihl ihr =>
    obtain ⟨hc, hl, hw⟩ := hp
    exact ⟨by rw [rank_bind hr, rank_bind hr]; exact hc, ihl hl, ihr hw⟩
  | group e ih => exact ih hp

theorem symbols_traverse (f : α → Option β) (p : Phrase α) :
    p.symbols.mapM (Symbol.traverse f) = (p.traverse f).map symbols := by
  induction p with
  | operand a => cases hf : f a <;> simp [traverse, symbols, Symbol.traverse, hf]
  | sign c e ih =>
    cases he : e.traverse f <;> simp [traverse, symbols, Symbol.traverse, ih, he]
  | binary c l r ihl ihr =>
    cases hl : l.traverse f <;> cases hr : r.traverse f <;>
      simp [traverse, symbols, Symbol.traverse, ihl, ihr, hl, hr]
  | group e ih =>
    cases he : e.traverse f <;> simp [traverse, symbols, Symbol.traverse, ih, he]

theorem rank_of_traverse {f : α → Option β} {p : Phrase α} {q : Phrase β}
    (h : p.traverse f = some q) : q.rank = p.rank := by
  cases p with
  | operand a => obtain ⟨b, -, rfl⟩ := Option.map_eq_some_iff.1 h; rfl
  | sign c e => obtain ⟨b, -, rfl⟩ := Option.map_eq_some_iff.1 h; rfl
  | binary c l r =>
    obtain ⟨l', -, h⟩ := Option.bind_eq_some_iff.1 h
    obtain ⟨r', -, rfl⟩ := Option.map_eq_some_iff.1 h
    rfl
  | group e => obtain ⟨b, -, rfl⟩ := Option.map_eq_some_iff.1 h; rfl

theorem WellFormed.traverse {f : α → Option β} {p : Phrase α} (hp : p.WellFormed) {q : Phrase β}
    (h : p.traverse f = some q) : q.WellFormed := by
  induction p generalizing q with
  | operand a => obtain ⟨b, -, rfl⟩ := Option.map_eq_some_iff.1 h; trivial
  | sign c e ih =>
    obtain ⟨hc, hr, he⟩ := hp
    obtain ⟨e', h', rfl⟩ := Option.map_eq_some_iff.1 h
    exact ⟨hc, by rw [rank_of_traverse h']; exact hr, ih he h'⟩
  | binary c l r ihl ihr =>
    obtain ⟨hc, hl, hr⟩ := hp
    obtain ⟨l', h₁, h⟩ := Option.bind_eq_some_iff.1 h
    obtain ⟨r', h₂, rfl⟩ := Option.map_eq_some_iff.1 h
    exact ⟨by rw [rank_of_traverse h₁, rank_of_traverse h₂]; exact hc, ihl hl h₁, ihr hr h₂⟩
  | group e ih =>
    obtain ⟨e', h', rfl⟩ := Option.map_eq_some_iff.1 h
    show e'.WellFormed
    exact ih hp h'

theorem traverse_traverse (f : α → Option β) (g : β → Option γ) (p : Phrase α) :
    (p.traverse f).bind (traverse g) = p.traverse fun a => (f a).bind g := by
  induction p with
  | operand a => cases hf : f a <;> simp [traverse, hf]
  | sign c e ih => cases he : e.traverse f <;> simp [traverse, he, ← ih]
  | binary c l r ihl ihr =>
    cases hl : l.traverse f <;> cases hr : r.traverse f <;> simp [traverse, hl, hr, ← ihl, ← ihr]
  | group e ih => cases he : e.traverse f <;> simp [traverse, he, ← ih]

theorem traverse_some (f : α → β) (p : Phrase α) :
    (p.traverse fun a => some (f a)) = some (p.bind fun a => operand (f a)) := by
  induction p with
  | operand a => rfl
  | sign c e ih => simp [traverse, bind, ih]
  | binary c l r ihl ihr => simp [traverse, bind, ihl, ihr]
  | group e ih => simp [traverse, bind, ih]

theorem bind_bind (f : α → Phrase β) (g : β → Phrase γ) (p : Phrase α) :
    (p.bind f).bind g = p.bind fun a => (f a).bind g := by
  induction p with
  | operand a => rfl
  | sign c e ih => simp [bind, ih]
  | binary c l r ihl ihr => simp [bind, ihl, ihr]
  | group e ih => simp [bind, ih]

theorem operands_bind (f : α → β) (p : Phrase α) :
    (p.bind fun a => operand (f a)).operands = p.operands.map f := by
  induction p with
  | operand a => rfl
  | sign c e ih => simpa [bind, operands] using ih
  | binary c l r ihl ihr => simp [bind, operands, ihl, ihr]
  | group e ih => simpa [bind, operands] using ih

theorem operand_mem_symbols {a : α} {p : Phrase α} :
    Symbol.operand a ∈ p.symbols ↔ a ∈ p.operands := by
  induction p with
  | operand b => simp [symbols, operands]
  | sign c e ih => simpa [symbols, operands] using ih
  | binary c l r ihl ihr => simp [symbols, operands, ihl, ihr]
  | group e ih => simpa [symbols, operands] using ih

theorem traverse_eq_none_iff {f : α → Option β} {p : Phrase α} :
    p.traverse f = none ↔ ∃ a ∈ p.operands, f a = none := by
  induction p with
  | operand a => simp [traverse, operands]
  | sign c e ih => simpa [traverse, operands] using ih
  | binary c l r ihl ihr =>
    simp only [operands, List.mem_append, or_and_right, exists_or, ← ihl, ← ihr]
    cases hl : l.traverse f <;> simp [traverse, hl]
  | group e ih => simpa [traverse, operands] using ih

end Phrase

end Recalc.Arithmetic
