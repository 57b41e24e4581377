/-
StrKey, the text form of keys: a version byte that tells the kind of key, the key and a
checksum, in base 32. Every key has one text, 56 characters long, and its first letter shows
the kind.
-/
import HdWallet.Base32
import HdWallet.Crc16
import HdWallet.KeyError

namespace HdWallet

/-- The kinds of key that have a text form. -/
inductive StrKey where
  /-- A public key, the identifier of an account: its text starts with G. -/
  | accountId
  /-- The secret that a keypair comes from: its text starts with S. -/
  | secretSeed
deriving DecidableEq, Repr

namespace StrKey

/-- The version byte of a kind, its letter's base-32 value in the upper five bits. -/
def version : StrKey → UInt8
  | accountId => 6 * 8
  | secretSeed => 18 * 8

/-- The length of every text form, in characters. -/
def encodedLength : Nat := 56

/-- A key as the bytes of its text form: version, key, and the checksum of both with its low
byte first. -/
def frame (kind : StrKey) (key : Bytes 32) : List UInt8 :=
  let body := kind.version :: key.toList
  body ++ littleEndian 2 (Crc16.checksum body).toNat

/-- The text form of a key. -/
def encode (kind : StrKey) (key : Bytes 32) : String :=
  Base32.encode (frame kind key)

/-- Reads a text form of the kind. The parts are cut from bytes whose number is known, so none
of them ends behind the last. -/
def decode (kind : StrKey) (text : String) : Except KeyError (Bytes 32) :=
  if text.utf8ByteSize ≠ encodedLength then .error .invalidStrKey
  else
    match (Base32.decode? text).bind (Bytes.ofList? (1 + 32 + 2)) with
    | none => .error .invalidStrKey
    | some raw =>
      let body := raw.left
      if body.left.toList ≠ [kind.version] then .error .invalidStrKey
      else if raw.right.toList ≠ littleEndian 2 (Crc16.checksum body.toList).toNat then
        .error .invalidStrKey
      else .ok body.right

end StrKey

end HdWallet
