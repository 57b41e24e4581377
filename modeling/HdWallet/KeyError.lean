/-
What can go wrong with keys and accounts.
-/
import HdWallet.PhraseError

namespace HdWallet

/-- Why a key, an index or a signature is refused. -/
inductive KeyError where
  /-- An account index of more than 31 bits. -/
  | invalidIndex (index : UInt32)
  /-- Text that is no key of the wanted kind. -/
  | invalidStrKey
  /-- Text that is not pairs of hexadecimal digits. -/
  | invalidHex
  /-- A key of the wrong length, in bytes. -/
  | invalidKeyLength (length : Nat)
  /-- The signature is not one of the message under the key. -/
  | signature
  /-- A key that could not be derived. -/
  | derivation (reason : String)
  /-- What went wrong with the phrase or the seed. -/
  | phrase (cause : PhraseError)
deriving DecidableEq, Repr

namespace KeyError

/-- The error in words. -/
def message : KeyError → String
  | invalidIndex index => s!"invalid account index {index}, must be below 2^31"
  | invalidStrKey => "invalid strkey"
  | invalidHex => "invalid hex string"
  | invalidKeyLength length => s!"expected 32 bytes, got {length}"
  | signature => "signature verification failed"
  | derivation reason => s!"derivation error: {reason}"
  | phrase cause => cause.message

/-- The error that led to this one. -/
def cause? : KeyError → Option PhraseError
  | phrase cause => some cause
  | _ => none

end KeyError

/-- What ends a computation early. -/
inductive Halt where
  /-- An error that is reported to the caller. -/
  | reported (error : KeyError)
  /-- The program breaks off, for a reason that no caller is told. -/
  | panicked (reason : String)
deriving DecidableEq, Repr

/-- What went wrong with the phrase or the seed is reported as an error of keys. -/
def Halt.ofPhrase (error : PhraseError) : Halt :=
  reported (.phrase error)

end HdWallet
