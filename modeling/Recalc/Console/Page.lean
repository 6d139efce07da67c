import Recalc.Decimal.Layout
import Recalc.Failure
import Recalc.Value

/-!
# Pages

A page is what a command shows: lines of text, and the failure that ended the command, if one did.
Columns are padded with blanks up to a number of characters; a text that is longer stays whole.
-/

namespace Recalc.Console

structure Page where
  lines : List String
  failure : Option Failure := none

namespace Page

def failed (f : Failure) : Page :=
  ⟨[], some f⟩

def below (lines : List String) (p : Page) : Page :=
  { p with lines := lines ++ p.lines }

def text (p : Page) : String :=
  String.join (p.lines.map (· ++ "\n"))

end Page

def blanks (n : Nat) : String :=
  String.ofList (List.replicate n ' ')

def left (width : Nat) (s : String) : String :=
  s ++ blanks (width - s.length)

def right (width : Nat) (s : String) : String :=
  blanks (width - s.length) ++ s

def count (n : Nat) : String :=
  String.ofList (Decimal.Layout.natDigits n)

end Recalc.Console
