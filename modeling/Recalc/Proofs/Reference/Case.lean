import Recalc.Proofs.Reference.Boundary
import Recalc.Proofs.Text.Case

/-!
# References in either case

A text without exclamation marks names no sheets, so the letters in its references are those of
columns. In capitals it has the same references at the same places (`Piece.splitAfter_upper`).
-/

namespace Recalc

open Text (upper)

/-! ## Coordinates -/

namespace Coordinate

theorem pushLetter?_toUpper (n : Nat) (c : Char) : pushLetter? n c.toUpper = pushLetter? n c := by
  rw [pushLetter?, pushLetter?, letterValue, letterValue, Text.toUpper_toUpper,
    Text.isAlpha_toUpper]

theorem columnNumber?_upper (letters : List Char) :
    columnNumber? (upper letters) = columnNumber? letters := by
  have hempty : (upper letters).isEmpty = letters.isEmpty := List.isEmpty_map
  have hpush : (fun n c => pushLetter? n (Char.toUpper c)) = pushLetter? :=
    funext fun n => funext fun c => pushLetter?_toUpper n c
  rw [columnNumber?, columnNumber?, hempty, upper, List.foldlM_map, hpush]

end Coordinate

namespace Reference

variable {before : Option Char} {s : List Char}

/-- What a reader finds, with the text behind it in capitals. -/
def behindUpper {α : Type} (p : α × List Char) : α × List Char :=
  (p.1, upper p.2)

theorem readCoordinate?_upper (s : List Char) :
    readCoordinate? (upper s) = (readCoordinate? s).map behindUpper := by
  have hdigits (t : List Char) : upper (t.takeWhile Char.isDigit) = t.takeWhile Char.isDigit :=
    Text.upper_eq_self fun c hc =>
      Formula.isAlpha_of_isDigit (List.all_eq_true.1 List.all_takeWhile c hc)
  have hword (t : List Char) : (upper t).head?.any Text.isWord = t.head?.any Text.isWord := by
    cases t with
    | nil => rfl
    | cons c t => exact Text.isWord_toUpper c
  rw [readCoordinate?, readCoordinate?]
  simp only [Text.dropWhile_upper Text.isAlpha_toUpper,
    Text.takeWhile_upper Text.isAlpha_toUpper, Text.dropWhile_upper Text.isDigit_toUpper,
    Text.takeWhile_upper Text.isDigit_toUpper, hdigits, hword, Coordinate.ofParts?,
    Coordinate.columnNumber?_upper]
  split
  · rfl
  · rw [Option.map_map]
    rfl

theorem behind?_upper {d : Char} (hd : d.isAlpha = false) (s : List Char) :
    behind? d (upper s) = (behind? d s).map upper := by
  cases s with
  | nil => rfl
  | cons c s =>
    show (if c.toUpper = d then some (upper s) else none) =
      (if c = d then some s else none).map upper
    rw [if_congr (Text.toUpper_eq_iff hd) rfl rfl]
    split <;> rfl

theorem readSecond?_upper (s : List Char) :
    readSecond? (upper s) = (readSecond? s).map behindUpper := by
  rw [readSecond?, readSecond?, Text.trimStart_upper, behind?_upper rfl]
  cases behind? ':' (Text.trimStart s) with
  | none => rfl
  | some r =>
    rw [Option.map_some, Option.bind_some, Option.bind_some, Text.trimStart_upper,
      readCoordinate?_upper]

theorem readTarget?_upper (s : List Char) :
    readTarget? (upper s) = (readTarget? s).map behindUpper := by
  rw [readTarget?_eq, readTarget?_eq, readCoordinate?_upper]
  cases readCoordinate? s with
  | none => rfl
  | some p =>
    simp only [Option.map_some, behindUpper, readSecond?_upper]
    cases readSecond? p.2 <;> rfl

/-! ## References -/

theorem readSheet?_eq_none_of_not_mem (hs : '!' ∉ s) : readSheet? before s = none := by
  have hbang {t : List Char} (ht : t <:+ s) : behind? '!' t = none :=
    behind?_eq_none fun h => hs (ht.subset (List.mem_of_head? h))
  cases s with
  | nil => rfl
  | cons c r =>
    by_cases hc : c = '\''
    · rw [hc, readSheet?_quote]
      cases hname : readQuotedName? r with
      | none => rfl
      | some p =>
        have hsuffix := (suffix_of_readQuotedName? hname).trans (List.suffix_cons c r)
        rw [Option.bind_some, hbang hsuffix]
        rfl
    · rw [readSheet?_plain before hc, hbang (List.dropWhile_suffix _)]
      exact ite_self _

theorem read?_upper (before : Option Char) (hs : '!' ∉ s) :
    read? (before.map Char.toUpper) (upper s) = (read? before s).map behindUpper := by
  have hupper : '!' ∉ upper s := fun h => hs ((Text.mem_upper_iff rfl).1 h)
  rw [read?, read?, readSheet?_eq_none_of_not_mem hs, readSheet?_eq_none_of_not_mem hupper]
  simp only [Text.any_isAlphanum_toUpper, readTarget?_upper]
  split
  · rfl
  · rw [Option.map_map, Option.map_map]
    rfl

namespace Piece

def upper : Piece → Piece
  | gap c => gap c.toUpper
  | found r t => found r (Text.upper t)

theorem reference?_upper (p : Piece) : p.upper.reference? = p.reference? := by
  cases p <;> rfl

theorem splitAfter_upper (before : Option Char) (s : List Char) (hs : '!' ∉ s) :
    splitAfter (before.map Char.toUpper) (Text.upper s) =
      (splitAfter before s).map Piece.upper := by
  induction before, s using read_induction with
  | hnil b => rw [Text.upper, List.map_nil, splitAfter, splitAfter]; rfl
  | hgap b c r hread ih =>
    have hupper := read?_upper b hs
    rw [hread] at hupper
    rw [splitAfter_gap hread, List.map_cons, ← ih fun h => hs (List.mem_cons_of_mem c h)]
    exact splitAfter_gap hupper
  | hfound b t rest ref ht hread ih =>
    have hupper := read?_upper b hs
    rw [hread, Text.upper_append] at hupper
    rw [splitAfter_found ht hread, List.map_cons, ← ih fun h => hs (List.mem_append_right t h),
      Text.upper_append, splitAfter_found (Text.upper_ne_nil ht) hupper, Text.getLast?_upper]
    rfl

end Piece

/-- In capitals, a text without exclamation marks has the same references. -/
theorem all_upper (hs : '!' ∉ s) : all (upper s) = all s := by
  rw [all, all, Piece.split, Piece.split]
  have hsplit := Piece.splitAfter_upper none s hs
  rw [Option.map_none] at hsplit
  rw [hsplit, List.filterMap_map]
  exact List.filterMap_congr fun p _ => Piece.reference?_upper p

theorem ofArgument?_upper (hs : '!' ∉ s) : ofArgument? (upper s) = ofArgument? s := by
  rw [ofArgument?, ofArgument?, all_upper hs]

end Reference

end Recalc
