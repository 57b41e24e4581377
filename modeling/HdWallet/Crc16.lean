/-
The cyclic redundancy check of 16 bits with the polynomial x^16 + x^12 + x^5 + 1, starting
from zero, bits taken from the most significant on.
-/

namespace HdWallet.Crc16

/-- The polynomial less its highest term. -/
def polynomial : BitVec 16 := 0x1021

/-- Multiplies a remainder by x. -/
def shift (remainder : BitVec 16) : BitVec 16 :=
  if remainder.msb then (remainder <<< 1) ^^^ polynomial else remainder <<< 1

/-- The remainder after one more byte. -/
def absorb (remainder : BitVec 16) (byte : UInt8) : BitVec 16 :=
  Nat.repeat shift 8 (remainder ^^^ (byte.toBitVec.setWidth 16 <<< 8))

/-- The check value of a byte string. -/
def checksum (bytes : List UInt8) : BitVec 16 :=
  bytes.foldl absorb 0

end HdWallet.Crc16
