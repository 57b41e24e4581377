/-
Extended keys: a private key with the chain code that its children are derived by. All
children are hardened, so only the private key leads to them. An account's key is reached
from the master key by the path purpose, coin type, account.
-/
import HdWallet.Digest.Hmac
import HdWallet.KeyError
import HdWallet.Seed

namespace HdWallet

/-- A private key and its chain code. -/
structure ExtendedKey where
  privateKey : Bytes 32
  chainCode : Bytes 32
deriving DecidableEq

namespace ExtendedKey

/-- The first index that is already hardened, 2^31: an index to derive by lies below it. -/
def firstHardenedIndex : UInt32 := 0x80000000

/-- The purpose of the keys, the first step of a path. -/
def purpose : UInt32 := 44

/-- The registered number of the coin, the second step. -/
def coinType : UInt32 := 148

/-- What the master key's hash is keyed by. -/
def masterSalt : String := "ed25519 seed"

/-- An authentication code as a key: the private key, then the chain code. -/
def ofCode (code : Bytes (32 + 32)) : ExtendedKey where
  privateKey := code.left
  chainCode := code.right

/-- Keys the hash by the salt or by a chain code. -/
def keyedHash (key : List UInt8) : Except KeyError HmacKey :=
  (HmacKey.ofSlice key).mapError fun error => .derivation error.message

/-- The key that a seed, of any length, starts a tree with. -/
def master (seed : List UInt8) : Except KeyError ExtendedKey := do
  let hash ← keyedHash (Unicode.Utf8.bytes masterSalt)
  return ofCode (hash.code seed)

/-- The number of an index once it is hardened. An index that is hardened already has none. -/
def hardened (index : UInt32) : Except KeyError UInt32 :=
  if firstHardenedIndex ≤ index then .error (.invalidIndex index)
  else .ok (firstHardenedIndex + index)

/-- What a child's hash is taken of: a zero byte, the parent's private key, and the number of the
hardened index as four bytes. -/
def childData (key : ExtendedKey) (number : UInt32) : List UInt8 :=
  0 :: key.privateKey.toList ++ bigEndian 4 number.toNat

/-- The child of an index below `firstHardenedIndex`. -/
def child (key : ExtendedKey) (index : UInt32) : Except KeyError ExtendedKey := do
  let number ← hardened index
  let hash ← keyedHash key.chainCode.toList
  return ofCode (hash.code (key.childData number))

/-- The key at the end of a path. -/
def descend (key : ExtendedKey) (path : List UInt32) : Except KeyError ExtendedKey :=
  path.foldlM child key

/-- The steps from the master key to an account. -/
def accountPath (account : UInt32) : List UInt32 :=
  [purpose, coinType, account]

/-- A path in writing. -/
def pathText (account : UInt32) : String :=
  "/".intercalate ("m" :: (accountPath account).map fun index => s!"{index}'")

/-- The key of an account. Its index is looked at before anything is hashed. -/
def ofAccount (seed : List UInt8) (account : UInt32) : Except KeyError ExtendedKey := do
  let _ ← hardened account
  let first ← master seed
  first.descend (accountPath account)

end ExtendedKey

/-- The private key of an account of a seed. -/
def Seed.accountKey (seed : Seed) (account : UInt32) : Except KeyError (Bytes 32) :=
  (ExtendedKey.ofAccount seed.bytes.toList account).map (·.privateKey)

end HdWallet
