/-
The keyed hash HMAC over SHA-512, and the password stretching PBKDF2 built on it.
-/
import HdWallet.Digest.Sha512

namespace HdWallet

/-- An HMAC key made ready: the hash states after the inner and the outer key block. -/
structure HmacKey where
  inner : Sha512.State
  outer : Sha512.State

/-- The error of a keyed hash for a key of a length that it does not take. -/
structure InvalidLength

/-- The error in words. -/
def InvalidLength.message (_ : InvalidLength) : String := "Invalid Length"

namespace HmacKey

/-- A key as one block: hashed if it is longer than that, then filled up with zeros. -/
def block (key : List UInt8) : List UInt8 :=
  let short := if Sha512.blockLength < key.length then (Sha512.digest key).toList else key
  short ++ List.replicate (Sha512.blockLength - short.length) 0

/-- The key of a byte string of any length. -/
def ofBytes (key : List UInt8) : HmacKey where
  inner := Sha512.State.initial.absorbBytes ((block key).map (· ^^^ 0x36))
  outer := Sha512.State.initial.absorbBytes ((block key).map (· ^^^ 0x5C))

/-- Keys the hash. Keyed hashes may be choosy about the length of their keys; this one takes keys
of every length. -/
def ofSlice (key : List UInt8) : Except InvalidLength HmacKey :=
  .ok (ofBytes key)

/-- The authentication code of a message: the message hashed behind the inner block, and the
result behind the outer one. -/
def code (key : HmacKey) (message : List UInt8) : Bytes 64 :=
  key.outer.finish Sha512.blockLength (key.inner.finish Sha512.blockLength message).toList

end HmacKey

namespace Pbkdf2

/-- One round of a block: the running exclusive or, and the newest code. -/
def step (key : HmacKey) : Bytes 64 × Bytes 64 → Bytes 64 × Bytes 64
  | (sum, last) =>
    let next := key.code last.toList
    (⟨List.zipWith (· ^^^ ·) sum.toList next.toList,
      by simp [sum.length_toList, next.length_toList]⟩, next)

/-- The block of a number, counted from 1: the exclusive or of `rounds` codes, the first of the
salt and the number, each other of the code before it. -/
def block (key : HmacKey) (salt : List UInt8) (rounds number : Nat) : Bytes 64 :=
  let first := key.code (salt ++ bigEndian 4 number)
  (Nat.repeat (step key) (rounds - 1) (first, first)).1

/-- PBKDF2 with HMAC-SHA512, for as much output as one block holds. -/
def derive (password salt : List UInt8) (rounds : Nat) : Bytes 64 :=
  block (HmacKey.ofBytes password) salt rounds 1

end Pbkdf2

end HdWallet
