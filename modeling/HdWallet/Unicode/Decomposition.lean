/-
Full compatibility decomposition, character by character. The Hangul syllables decompose by
arithmetic on their number (`Hangul.jamo`); every other character that decomposes at all
stands in `Decomposition.table`, which is that of Unicode 17.0. Later versions add to the table
and change nothing in it.
-/
import HdWallet.Unicode.Decomposition.Letters
import HdWallet.Unicode.Decomposition.Extended
import HdWallet.Unicode.Decomposition.Symbols
import HdWallet.Unicode.Decomposition.EastAsian
import HdWallet.Unicode.Decomposition.CompatibilityIdeographs
import HdWallet.Unicode.Decomposition.PresentationForms
import HdWallet.Unicode.Decomposition.Fullwidth
import HdWallet.Unicode.Decomposition.Supplementary
import HdWallet.Unicode.Decomposition.MathAlphabets
import HdWallet.Unicode.Decomposition.MathGreek
import HdWallet.Unicode.Decomposition.SupplementIdeographs
import Std.Data.HashMap

namespace HdWallet.Unicode

/-! ## Hangul -/

namespace Hangul

/-- The first of the precomposed syllables, and how many there are. -/
def firstSyllable : Nat := 0xAC00

def syllableCount : Nat := 11172

/-- The jamo of the syllable of a number below `syllableCount`: a leading consonant, a vowel,
and a trailing consonant unless the syllable is open. -/
def jamo (number : Nat) : List Nat :=
  let lead := 0x1100 + number / 588
  let vowel := 0x1161 + number % 588 / 28
  if number % 28 = 0 then [lead, vowel] else [lead, vowel, 0x11A7 + number % 28]

end Hangul

/-! ## The table -/

namespace Decomposition

/-- The code points that decompose, the Hangul syllables apart, with their decompositions. -/
def table : List (Nat × List Nat) :=
  letters ++ extended ++ symbols ++ eastAsian ++ compatibilityIdeographs ++ presentationForms ++
    fullwidth ++ supplementary ++ mathAlphabets ++ mathGreek ++ supplementIdeographs

/-- The table, arranged for looking code points up. -/
def index : Std.HashMap Nat (List Nat) := .ofList table

end Decomposition

/-- The full compatibility decomposition of a character; most are their own. -/
def decompose (c : Char) : List Char :=
  if Hangul.firstSyllable ≤ c.toNat ∧ c.toNat < Hangul.firstSyllable + Hangul.syllableCount then
    (Hangul.jamo (c.toNat - Hangul.firstSyllable)).map Char.ofNat
  else
    match Decomposition.index[c.toNat]? with
    | some codes => codes.map Char.ofNat
    | none => [c]

end HdWallet.Unicode
