/-
Keypairs: a secret seed of 32 bytes with the public key that it expands to, made from bytes,
from hexadecimal text or from the text form of the seed.
-/
import HdWallet.Ed25519
import HdWallet.Hex
import HdWallet.StrKey
import HdWallet.Unicode.WhiteSpace

namespace HdWallet

/-- A keypair, known by its secret seed. -/
structure Keypair where
  seed : Bytes 32
deriving DecidableEq

namespace Keypair

/-! ## Reading -/

/-- The keypair of a secret seed in text form, white space around it aside. -/
def ofSecretSeed (text : String) : Except KeyError Keypair :=
  (StrKey.decode .secretSeed (Unicode.trimmed text)).map Keypair.mk

/-- The characters behind the mark of a hexadecimal number, if it is there. -/
def dropHexMark : List Char → List Char
  | '0' :: 'x' :: digits => digits
  | digits => digits

/-- The keypair of a seed in hexadecimal digits, with or without `0x` in front. -/
def ofHex (text : String) : Except KeyError Keypair :=
  match Hex.decodeChars? (dropHexMark text.toList) with
  | none => .error .invalidHex
  | some bytes =>
    match Bytes.ofList? 32 bytes with
    | none => .error (.invalidKeyLength bytes.length)
    | some seed => .ok { seed }

/-! ## What a keypair shows -/

/-- The expanded secret key. -/
def signingKey (pair : Keypair) : Ed25519.SigningKey :=
  Ed25519.expand pair.seed

/-- The public key. -/
def publicKey (pair : Keypair) : Bytes 32 :=
  pair.signingKey.publicKey

/-- The public key in text form, the identifier of the account. -/
def accountId (pair : Keypair) : String :=
  StrKey.encode .accountId pair.publicKey

/-- The secret seed in text form. -/
def secretSeed (pair : Keypair) : String :=
  StrKey.encode .secretSeed pair.seed

/-- The public key in hexadecimal digits. -/
def publicKeyHex (pair : Keypair) : String :=
  Hex.encode pair.publicKey.toList

/-- A description that does not give the seed away. -/
def description (pair : Keypair) : String :=
  s!"Keypair \x7b account_id: \"{pair.accountId}\", .. \x7d"

/-! ## Signatures -/

/-- The signature of a message. -/
def sign (pair : Keypair) (message : List UInt8) : Bytes 64 :=
  pair.signingKey.sign message

/-- Fails unless the signature is one of the message under the public key. -/
def verify (pair : Keypair) (message : List UInt8) (signature : Bytes 64) :
    Except KeyError Unit :=
  if pair.signingKey.verify message signature then .ok () else .error .signature

end Keypair

end HdWallet
