/-
Accounts: what is shown of the keypair at an index of a wallet.
-/
import HdWallet.ExtendedKey
import HdWallet.Keypair
import HdWallet.Wallet

namespace HdWallet

/-- The account of an index, each key in its text form and in hexadecimal digits. -/
structure Account where
  index : UInt32
  path : String
  accountId : String
  secretSeed : String
  privateKeyHex : String
  publicKeyHex : String
deriving DecidableEq

/-- The account of an index whose private key is known. -/
def Account.ofKey (index : UInt32) (privateKey : Bytes 32) : Account :=
  let pair : Keypair := { seed := privateKey }
  { index, path := ExtendedKey.pathText index, accountId := pair.accountId,
    secretSeed := pair.secretSeed, privateKeyHex := Hex.encode privateKey.toList,
    publicKeyHex := pair.publicKeyHex }

/-- The account of an index of a seed. -/
def Seed.account (seed : Seed) (index : UInt32) : Except KeyError Account :=
  (seed.accountKey index).map (Account.ofKey index)

/-! ## Sums of 32 bits and differences -/

/-- The sum of two numbers, if 32 bits hold it. -/
def checkedAdd? (a b : UInt32) : Option UInt32 :=
  if a.toNat + b.toNat < UInt32.size then some (a + b) else none

/-- The sum of two numbers, or the greatest number if 32 bits do not hold it. -/
def saturatingAdd (a b : UInt32) : UInt32 :=
  (checkedAdd? a b).getD (UInt32.ofNat (UInt32.size - 1))

/-- The difference of two numbers. Below zero there is none, and the program breaks off. -/
def checkedSub {α : Type} [LE α] [DecidableLE α] [Sub α] (a b : α) : Except Halt α :=
  if b ≤ a then .ok (a - b) else .error (.panicked "attempt to subtract with overflow")

/-! ## Accounts of a wallet -/

namespace Wallet

/-- The private key of an index. -/
def accountKey (wallet : Wallet) (index : UInt32) : Except KeyError (Bytes 32) :=
  wallet.seed.accountKey index

/-- The keypair of an index. -/
def keypair (wallet : Wallet) (index : UInt32) : Except KeyError Keypair :=
  (wallet.accountKey index).map Keypair.mk

/-- The account of an index. -/
def account (wallet : Wallet) (index : UInt32) : Except KeyError Account :=
  wallet.seed.account index

/-- The accounts of `count` indices from `start` on, all or none: no index may reach 2^31. The
error names `start` if that is too large itself, and else the last index asked for, as far as
32 bits hold it. -/
def accounts (wallet : Wallet) (start count : UInt32) : Except Halt (List Account) :=
  if ExtendedKey.firstHardenedIndex ≤ start then .error (.reported (.invalidIndex start))
  else
    match (checkedAdd? start count).filter (· ≤ ExtendedKey.firstHardenedIndex) with
    | none => do
      let others ← checkedSub count 1
      .error (.reported (.invalidIndex (saturatingAdd start others)))
    | some stop =>
      let seed := wallet.seed
      let batch := (List.range' start.toNat (stop.toNat - start.toNat)).mapM fun index =>
        seed.account (UInt32.ofNat index)
      batch.mapError .reported

/-- The description of the deriver of a wallet's accounts. -/
def deriverDescription (wallet : Wallet) : String :=
  s!"Deriver \x7b wallet: {wallet.description} \x7d"

end Wallet

end HdWallet
