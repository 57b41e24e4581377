/-
Base 32 without padding: each character stands for five bits, and the last is filled up with
zeros. A text whose left-over bits are not zero, or make up a character too many, is none.
-/
import HdWallet.Bits

namespace HdWallet.Base32

/-- The characters, in the order of their values. -/
def alphabet : List Char :=
  ['A', 'B', 'C', 'D', 'E', 'F', 'G', 'H', 'I', 'J', 'K', 'L', 'M', 'N', 'O', 'P',
    'Q', 'R', 'S', 'T', 'U', 'V', 'W', 'X', 'Y', 'Z', '2', '3', '4', '5', '6', '7']

/-- The text of a byte string. -/
def encode (bytes : List UInt8) : String :=
  let bits := Bits.ofBytes bytes
  let filled := bits ++ List.replicate ((5 - bits.length % 5) % 5) false
  String.ofList ((groups 5 filled).map fun group => alphabet.getD (Bits.toNat group) 'A')

/-- The byte string of a text. -/
def decode? (text : String) : Option (List UInt8) := do
  let values ← text.toList.mapM fun c => alphabet.idxOf? c
  let bits := values.flatMap (Bits.ofNat 5)
  let rest := bits.drop (bits.length / 8 * 8)
  if rest.length < 5 ∧ rest.all (!·) then some (Bits.toBytes bits) else none

end HdWallet.Base32
