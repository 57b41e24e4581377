/-
Sequences of bits, the most significant first. Regrouping them is what the words of a phrase
and the characters of a base-32 text have in common: both cut the bits of a byte string into
groups of another width.
-/
import HdWallet.Bytes

namespace HdWallet.Bits

/-- The `width` low bits of a number. -/
def ofNat : Nat → Nat → List Bool
  | 0, _ => []
  | width + 1, number => number.testBit width :: ofNat width number

/-- The number that bits denote. -/
def toNat (bits : List Bool) : Nat :=
  bits.foldl (fun number bit => 2 * number + bit.toNat) 0

/-- The bits of a byte string. -/
def ofBytes (bytes : List UInt8) : List Bool :=
  bytes.flatMap fun byte => ofNat 8 byte.toNat

/-- The bytes that bits make up; bits too few for a byte are left out. -/
def toBytes (bits : List Bool) : List UInt8 :=
  (groups 8 bits).map fun byte => UInt8.ofNat (toNat byte)

end HdWallet.Bits
