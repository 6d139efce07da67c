import Recalc.Text.Blank
import Recalc.Reference.Scan
import Recalc.Value

/-!
# Aggregates

`SUM` and `AVERAGE` of the numbers that one reference covers, and where a formula calls them.
`Call.split` cuts a text into calls, look-alikes that are left as they are, and single characters.
-/

namespace Recalc

inductive Aggregate
  | sum
  | average
deriving DecidableEq, Repr

namespace Aggregate

def name : Aggregate → List Char
  | sum => ['S', 'U', 'M']
  | average => ['A', 'V', 'E', 'R', 'A', 'G', 'E']

def ofName? (n : List Char) : Option Aggregate :=
  [sum, average].find? fun a => n.map Char.toUpper == a.name

/-- The sum of the numbers in order, from negative zero up. -/
def total (values : List Float) : Float :=
  values.foldl (· + ·) (-0.0)

/-- The aggregate of no numbers is zero. -/
def apply (a : Aggregate) (values : List Float) : Float :=
  if values.isEmpty then 0
  else
    match a with
    | sum => total values
    | average => total values / Float.ofNat values.length

end Aggregate

/-- What a cell key is worth, if anything. -/
abbrev Lookup := String → Option Value

namespace Call

/-- Whether `c` is the letter `upper` in some case; the long s is a case of `S`. -/
def foldsTo (upper c : Char) : Bool :=
  c.toUpper == upper || (upper == 'S' && c == 'ſ')

/-- The characters at the start of `s` that spell `name`, and what follows. -/
def readName? : (name s : List Char) → Option (List Char × List Char)
  | [], s => some ([], s)
  | _ :: _, [] => none
  | u :: name, c :: s =>
    if foldsTo u c then (readName? name s).map fun (n, rest) => (c :: n, rest) else none

/-- A parenthesis with at least one character before the next closing one: what it holds, and what
follows. -/
def readArgument? (s : List Char) : Option (List Char × List Char) :=
  match Text.trimStart s with
  | '(' :: r =>
    match r.dropWhile (· != ')') with
    | ')' :: rest =>
      let inner := r.takeWhile (· != ')')
      if inner.isEmpty then none else some (Text.trim inner, rest)
    | _ => none
  | _ => none

/-- A name, an argument and what follows them. -/
def read? (s : List Char) : Option (List Char × List Char × List Char) :=
  ((readName? Aggregate.sum.name s).or (readName? Aggregate.average.name s)).bind
    fun (name, r) => (readArgument? r).map fun (argument, rest) => (name, argument, rest)

theorem length_readName? {name s n rest : List Char} (h : readName? name s = some (n, rest)) :
    rest.length ≤ s.length := by
  fun_induction readName? name s generalizing n rest with
  | case1 => simp_all
  | case2 => simp at h
  | case3 u name c s hc ih =>
    obtain ⟨⟨m, t⟩, hr, he⟩ := Option.map_eq_some_iff.1 h
    cases he
    have := ih hr
    simp only [List.length_cons]; omega
  | case4 => simp at h

theorem length_readArgument? {s argument rest : List Char}
    (h : readArgument? s = some (argument, rest)) : rest.length < s.length := by
  unfold readArgument? at h
  split at h
  · rename_i r hr
    have h₁ := Reference.length_trimStart_le s
    rw [hr] at h₁
    split at h
    · rename_i t ht
      have h₂ := Reference.length_dropWhile_le (· != ')') r
      rw [ht] at h₂
      dsimp only at h
      split at h
      · simp at h
      · cases h
        simp only [List.length_cons] at *; omega
    · simp at h
  · simp at h

theorem length_read? {s name argument rest : List Char}
    (h : read? s = some (name, argument, rest)) : rest.length < s.length := by
  unfold read? at h
  obtain ⟨⟨n, r⟩, hn, ha⟩ := Option.bind_eq_some_iff.1 h
  obtain ⟨⟨a, t⟩, ht, he⟩ := Option.map_eq_some_iff.1 ha
  cases he
  have h₁ := length_readArgument? ht
  rcases Option.or_eq_some_iff.1 hn with hn | ⟨-, hn⟩ <;> have := length_readName? hn <;> omega

inductive Piece
  | char (c : Char)
  /-- Text that reads like a call and is none. -/
  | lookalike (text : List Char)
  | call (function : Aggregate) (argument text : List Char)
deriving Repr

namespace Piece

def text : Piece → List Char
  | char c => [c]
  | lookalike t => t
  | call _ _ t => t

/-- What was read as a call behind the character `before`: part of a longer name, or a name that no
function has, makes a look-alike. -/
def ofCall (before : Option Char) (name argument text : List Char) : Piece :=
  if before.any Char.isAlphanum then lookalike text
  else
    match Aggregate.ofName? name with
    | some f => call f argument text
    | none => lookalike text

/-- The pieces of a text behind the character `before`. -/
def splitAfter (before : Option Char) (s : List Char) : List Piece :=
  match s with
  | [] => []
  | c :: r =>
    match h : read? (c :: r) with
    | some (name, argument, rest) =>
      have := length_read? h
      let text := (c :: r).take ((c :: r).length - rest.length)
      ofCall before name argument text :: splitAfter text.getLast? rest
    | none => char c :: splitAfter (some c) r
termination_by s.length
decreasing_by
  · exact length_read? h
  · exact Nat.lt_succ_self r.length

def split (s : List Char) : List Piece :=
  splitAfter none s

end Piece

end Call

end Recalc
