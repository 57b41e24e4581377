/-
Seeds: the 64 bytes that every key of a wallet comes from, stretched from a phrase and a
passphrase.
-/
import HdWallet.Digest.Hmac
import HdWallet.PhraseError
import HdWallet.Unicode.Normalization
import HdWallet.Unicode.Utf8
import HdWallet.Unicode.WhiteSpace

namespace HdWallet

/-- A wallet's secret of 64 bytes. -/
structure Seed where
  bytes : Bytes 64
deriving DecidableEq

namespace Seed

/-- How often the hash is repeated. -/
def rounds : Nat := 2048

/-- How many bytes a seed has. -/
def length : Nat := 64

/-- What stands before the passphrase in the salt. -/
def saltMark : String := "mnemonic"

/-- The salt of a passphrase. -/
def salt (passphrase : String) : String :=
  saltMark ++ Unicode.nfkd passphrase

/-- The seed of a phrase and a passphrase, both in Form KD. The words of the phrase are not
looked at, and its white space counts. -/
def ofPhrase (phrase passphrase : String) : Seed where
  bytes := Pbkdf2.derive (Unicode.Utf8.bytes (Unicode.nfkd phrase))
    (Unicode.Utf8.bytes (salt passphrase)) rounds

/-- The seed of a phrase that is more than white space. -/
def stretch (phrase passphrase : String) : Except PhraseError Seed :=
  if (Unicode.trim phrase.toList).isEmpty then
    .error (.invalidInput "mnemonic must not be empty")
  else .ok (ofPhrase phrase passphrase)

/-- Reads bytes as UTF-8; `field` is what an error calls them. -/
def readText (field : String) (bytes : List UInt8) : Except PhraseError String :=
  match Unicode.Utf8.decode bytes with
  | .ok text => .ok (String.ofList text)
  | .error fault => .error (.invalidInput s!"{field} is not valid UTF-8: {fault.message}")

/-- `stretch` for texts given as UTF-8. The phrase is read first. -/
def stretchUtf8 (phrase passphrase : List UInt8) : Except PhraseError Seed := do
  let phrase ← readText "mnemonic" phrase
  let passphrase ← readText "passphrase" passphrase
  stretch phrase passphrase

/-- A description that gives nothing away. -/
def description (_ : Seed) : String := "Seed(<redacted>)"

end Seed

end HdWallet
