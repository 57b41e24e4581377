/-
The operating system's source of entropy.
-/
import HdWallet.Generator

namespace HdWallet

/-- Asks the operating system for random bytes. -/
def systemRandom (n : Nat) : IO (Except String (Bytes n)) := do
  try
    let bytes ← IO.getRandomBytes (USize.ofNat n)
    match Bytes.ofList? n bytes.toList with
    | some bytes => return .ok bytes
    | none => return .error "too few random bytes"
  catch error => return .error (toString error)

/-- The source of the operating system. -/
def systemEntropy : EntropySource IO := .ofSystem systemRandom

end HdWallet
