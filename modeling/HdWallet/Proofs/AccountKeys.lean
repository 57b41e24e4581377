/-
The key of an account lies at the end of a walk of hardened steps. The hash takes every key, so a
step can be taken for every index below 2^31 and for no other, and the first two steps of every
walk can. Whether an account has a key is decided by its own index (`ExtendedKey.ofAccount_of_lt`,
`ExtendedKey.ofAccount_of_le`). The three ways to ask a wallet for an account then have a key
for the same indices, and the same key (`Wallet.accountKey_of_lt` and those behind it).
-/
import HdWallet.Account
import HdWallet.Proofs.ListResults
import Mathlib

namespace HdWallet

namespace ExtendedKey

/-! ## Steps and walks -/

/-- The hash takes a key of any length. -/
theorem keyedHash_eq (key : List UInt8) : keyedHash key = .ok (.ofBytes key) := rfl

/-- The key that a seed starts a tree with. -/
def masterKey (seed : List UInt8) : ExtendedKey :=
  ofCode ((HmacKey.ofBytes (Unicode.Utf8.bytes masterSalt)).code seed)

theorem master_eq (seed : List UInt8) : master seed = .ok (masterKey seed) := by
  rw [master, keyedHash_eq]
  rfl

theorem hardened_of_lt {index : UInt32} (h : index < firstHardenedIndex) :
    hardened index = .ok (firstHardenedIndex + index) :=
  if_neg (UInt32.not_le.2 h)

theorem hardened_of_le {index : UInt32} (h : firstHardenedIndex ≤ index) :
    hardened index = .error (.invalidIndex index) :=
  if_pos h

/-- The child of an index that can be hardened. -/
def hardenedChild (key : ExtendedKey) (index : UInt32) : ExtendedKey :=
  ofCode ((HmacKey.ofBytes key.chainCode.toList).code (key.childData (firstHardenedIndex + index)))

theorem child_of_lt {index : UInt32} (h : index < firstHardenedIndex) (key : ExtendedKey) :
    key.child index = .ok (key.hardenedChild index) := by
  rw [child, hardened_of_lt h, ok_bind, keyedHash_eq]
  rfl

theorem child_of_le {index : UInt32} (h : firstHardenedIndex ≤ index) (key : ExtendedKey) :
    key.child index = .error (.invalidIndex index) := by
  rw [child, hardened_of_le h]
  rfl

/-- The key at the end of the walk from a seed to an account. -/
def walk (seed : List UInt8) (account : UInt32) : ExtendedKey :=
  (((masterKey seed).hardenedChild purpose).hardenedChild coinType).hardenedChild account

theorem descend_cons_of_lt {index : UInt32} (h : index < firstHardenedIndex) (key : ExtendedKey)
    (path : List UInt32) : key.descend (index :: path) = (key.hardenedChild index).descend path := by
  rw [descend, List.foldlM_cons, child_of_lt h]
  rfl

theorem descend_singleton (key : ExtendedKey) (index : UInt32) :
    key.descend [index] = key.child index := by
  rw [descend, List.foldlM_cons]
  exact bind_pure _

/-- The last step decides: those before it can always be taken. -/
theorem descend_accountPath (seed : List UInt8) (account : UInt32) :
    (masterKey seed).descend (accountPath account) =
      (((masterKey seed).hardenedChild purpose).hardenedChild coinType).child account := by
  rw [accountPath, descend_cons_of_lt (by decide), descend_cons_of_lt (by decide),
    descend_singleton]

theorem ofAccount_of_lt {account : UInt32} (h : account < firstHardenedIndex)
    (seed : List UInt8) : ofAccount seed account = .ok (walk seed account) := by
  rw [ofAccount, hardened_of_lt h, ok_bind, master_eq, ok_bind, descend_accountPath,
    child_of_lt h, walk]

theorem ofAccount_of_le {account : UInt32} (h : firstHardenedIndex ≤ account)
    (seed : List UInt8) : ofAccount seed account = .error (.invalidIndex account) := by
  rw [ofAccount, hardened_of_le h]
  rfl

/-- The indices from the first hardened one on, as numbers. -/
theorem firstHardenedIndex_le_iff {index : UInt32} :
    firstHardenedIndex ≤ index ↔ 2 ^ 31 ≤ index.toNat :=
  UInt32.le_iff_toNat_le

theorem lt_firstHardenedIndex_iff {index : UInt32} :
    index < firstHardenedIndex ↔ index.toNat < 2 ^ 31 :=
  UInt32.lt_iff_toNat_lt

end ExtendedKey

open ExtendedKey

namespace Seed

/-! ## Accounts of a seed -/

/-- The private key at the end of an account's walk. -/
def privateKey (seed : Seed) (account : UInt32) : Bytes 32 :=
  (walk seed.bytes.toList account).privateKey

section

variable {index : UInt32} (seed : Seed)

theorem accountKey_of_lt (h : index < firstHardenedIndex) :
    seed.accountKey index = .ok (seed.privateKey index) := by
  rw [accountKey, ofAccount_of_lt h]
  rfl

theorem accountKey_of_le (h : firstHardenedIndex ≤ index) :
    seed.accountKey index = .error (.invalidIndex index) := by
  rw [accountKey, ofAccount_of_le h]
  rfl

theorem account_of_lt (h : index < firstHardenedIndex) :
    seed.account index = .ok (.ofKey index (seed.privateKey index)) := by
  rw [account, accountKey_of_lt seed h]
  rfl

theorem account_of_le (h : firstHardenedIndex ≤ index) :
    seed.account index = .error (.invalidIndex index) := by
  rw [account, accountKey_of_le seed h]
  rfl

end

end Seed

namespace Wallet

/-! ## Accounts of a wallet -/

section

variable {index : UInt32} (wallet : Wallet)

theorem accountKey_of_lt (h : index < firstHardenedIndex) :
    wallet.accountKey index = .ok (wallet.seed.privateKey index) :=
  wallet.seed.accountKey_of_lt h

theorem keypair_of_lt (h : index < firstHardenedIndex) :
    wallet.keypair index = .ok ⟨wallet.seed.privateKey index⟩ := by
  rw [keypair, accountKey_of_lt wallet h]
  rfl

theorem account_of_lt (h : index < firstHardenedIndex) :
    wallet.account index = .ok (.ofKey index (wallet.seed.privateKey index)) :=
  wallet.seed.account_of_lt h

/-- None of the three has anything for an index that cannot be hardened. -/
theorem keys_of_le (h : firstHardenedIndex ≤ index) :
    wallet.account index = .error (.invalidIndex index) ∧
    wallet.accountKey index = .error (.invalidIndex index) ∧
    wallet.keypair index = .error (.invalidIndex index) := by
  have hkey : wallet.accountKey index = .error (.invalidIndex index) :=
    wallet.seed.accountKey_of_le h
  refine ⟨wallet.seed.account_of_le h, hkey, ?_⟩
  rw [keypair, hkey]
  rfl

end

theorem eq_ofKey_of_account {wallet : Wallet} {index : UInt32} {account : Account}
    (h : wallet.account index = .ok account) : ∃ key, account = .ofKey index key := by
  by_cases hlt : index < firstHardenedIndex
  · rw [wallet.account_of_lt hlt] at h
    cases h
    exact ⟨_, rfl⟩
  · rw [(wallet.keys_of_le (UInt32.not_lt.1 hlt)).1] at h
    cases h

end Wallet

end HdWallet
