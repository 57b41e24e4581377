/-
Normalization Form KD: every character decomposed, then the marks behind each starter put in
the order of their classes. Marks of one class keep their order, and no mark crosses a
character of class 0.
-/
import HdWallet.Unicode.CombiningClass
import HdWallet.Unicode.Decomposition

namespace HdWallet.Unicode

/-- Puts a character in front of an ordered text: behind the marks at its head whose class is
lower than the character's own. -/
def place (c : Char) : List Char → List Char
  | [] => [c]
  | d :: rest =>
    if 0 < combiningClass d ∧ combiningClass d < combiningClass c then d :: place c rest
    else c :: d :: rest

/-- Canonical ordering: each run of marks sorted by class, stably. -/
def reorder (text : List Char) : List Char :=
  text.foldr place []

/-- Normalization Form KD of a sequence of characters. -/
def compatibilityForm (text : List Char) : List Char :=
  reorder (text.flatMap decompose)

/-- Normalization Form KD of a string. -/
def nfkd (text : String) : String :=
  String.ofList (compatibilityForm text.toList)

end HdWallet.Unicode
