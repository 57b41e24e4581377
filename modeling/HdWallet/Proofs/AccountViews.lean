/-
What an account shows is one key in several forms. The key has two texts and its public key has
two, written by different encoders, and each reads back to the key that the wallet derives
(`isViewOf_ofKey`). The path ends in the index in decimal (`isDecimal_toDigits`), so it can be
read back as well, and no two indices have the same (`pathText_injective`).
-/
import HdWallet.Proofs.AccountKeys
import HdWallet.Proofs.KeyTexts

namespace HdWallet

/-! ## Paths -/

/-- The decimal digits of a number: they denote it, and no zero stands in front of others. -/
structure IsDecimal (number : Nat) (digits : List Char) : Prop where
  isDigit : ∀ c ∈ digits, c.isDigit = true
  value_eq : Nat.ofDigitChars 10 digits 0 = number
  ne_nil : digits ≠ []
  eq_zero_of_head? : digits.head? = some '0' → digits = ['0']

theorem head?_toDigits {n : Nat} (h : 0 < n) : (Nat.toDigits 10 n).head? ≠ some '0' := by
  induction n using Nat.strongRecOn with
  | ind n ih =>
    rw [Nat.toDigits_eq_if (by decide)]
    split
    · next hlt =>
      have hall : ∀ d : Fin 10, 0 < d.val → [d.val.digitChar].head? ≠ some '0' := by decide
      exact hall ⟨n, hlt⟩ h
    · next hle =>
      -- The first digit is that of the number without its last.
      have hne : Nat.toDigits 10 (n / 10) ≠ [] := Nat.toDigits_ne_nil
      rw [List.head?_append_of_ne_nil _ hne]
      exact ih (n / 10) (by omega) (by omega)

theorem isDecimal_toDigits (n : Nat) : IsDecimal n (Nat.toDigits 10 n) where
  isDigit _ := Nat.isDigit_of_mem_toDigits (by decide) (by decide)
  value_eq := Nat.ofDigitChars_ten_toDigits
  ne_nil := Nat.toDigits_ne_nil
  eq_zero_of_head? h := by
    cases n with
    | zero => exact Nat.toDigits_zero 10
    | succ n => exact absurd h (head?_toDigits n.succ_pos)

namespace ExtendedKey

/-- The steps that the paths of all accounts start with. -/
def commonPath : String := "m/44'/148'/"

theorem pathText_eq (index : UInt32) :
    pathText index = commonPath ++ String.ofList (Nat.toDigits 10 index.toNat) ++ "'" :=
  rfl

/-- The number that the digits behind the common steps of a path denote. -/
def pathNumber (path : String) : Nat :=
  Nat.ofDigitChars 10 ((path.toList.drop commonPath.length).takeWhile Char.isDigit) 0

theorem pathNumber_pathText (index : UInt32) : pathNumber (pathText index) = index.toNat := by
  have hdecimal := isDecimal_toDigits index.toNat
  have hdrop : (pathText index).toList.drop commonPath.length =
      Nat.toDigits 10 index.toNat ++ "'".toList := by
    rw [pathText_eq, String.toList_append, String.toList_append, String.toList_ofList,
      List.append_assoc]
    exact List.drop_left' (String.length_toList)
  have hmark : "'".toList.takeWhile Char.isDigit = [] := by decide
  rw [pathNumber, hdrop, List.takeWhile_append_of_pos hdecimal.isDigit, hmark, List.append_nil,
    hdecimal.value_eq]

/-- **No two indices have the same path.** -/
theorem pathText_injective : Function.Injective pathText := fun i j h => by
  have hnumber := congrArg pathNumber h
  rw [pathNumber_pathText, pathNumber_pathText] at hnumber
  exact UInt32.toNat_inj.1 hnumber

end ExtendedKey

/-! ## Forms of a key -/

/-- An account that shows a key at an index: the key, its public key and the keypair are read
from its texts, and the index from its path. -/
structure IsViewOf (index : UInt32) (pair : Keypair) (account : Account) : Prop where
  index_eq : account.index = index
  privateKeyHex : Hex.decode? account.privateKeyHex = some pair.seed.toList
  secretSeed : StrKey.decode .secretSeed account.secretSeed = .ok pair.seed
  publicKeyHex : Hex.decode? account.publicKeyHex = some pair.publicKey.toList
  accountId : StrKey.decode .accountId account.accountId = .ok pair.publicKey
  ofHex_eq : Keypair.ofHex account.privateKeyHex = .ok pair
  ofSecretSeed_eq : Keypair.ofSecretSeed account.secretSeed = .ok pair
  accountId_eq : pair.accountId = account.accountId
  path_eq : ∃ digits, IsDecimal index.toNat digits ∧
    account.path = "m/44'/148'/" ++ String.ofList digits ++ "'"
  pathNumber_eq : ExtendedKey.pathNumber account.path = index.toNat

theorem isViewOf_ofKey (index : UInt32) (key : Bytes 32) :
    IsViewOf index ⟨key⟩ (.ofKey index key) where
  index_eq := rfl
  privateKeyHex := Hex.decode?_encode key.toList
  secretSeed := StrKey.decode_encode .secretSeed key
  publicKeyHex := Hex.decode?_encode _
  accountId := StrKey.decode_encode .accountId _
  ofHex_eq := Keypair.ofHex_encode key
  ofSecretSeed_eq := Keypair.ofSecretSeed_encode key
  accountId_eq := rfl
  path_eq := ⟨_, isDecimal_toDigits index.toNat, ExtendedKey.pathText_eq index⟩
  pathNumber_eq := ExtendedKey.pathNumber_pathText index

namespace Wallet

open ExtendedKey

theorem path_eq_of_account {wallet : Wallet} {index : UInt32} {account : Account}
    (h : wallet.account index = .ok account) :
    account.path = pathText index ∧ account.index = index := by
  obtain ⟨key, rfl⟩ := eq_ofKey_of_account h
  exact ⟨rfl, rfl⟩

/-- **All views of an account show the same key.** At an index of 2^31 or more there is neither
an account nor a key nor a keypair. Below, there are all three: the keypair is that of the key,
its public key the one that the key expands to, and every form that the account shows reads
back to them. Accounts have the same path exactly if they have the same index. -/
theorem account_views_agree :
    (∀ (wallet : Wallet) (index : UInt32),
      if 2 ^ 31 ≤ index.toNat then
        wallet.account index = .error (.invalidIndex index) ∧
        wallet.accountKey index = .error (.invalidIndex index) ∧
        wallet.keypair index = .error (.invalidIndex index)
      else
        ∃ account key pair, wallet.account index = .ok account ∧
          wallet.accountKey index = .ok key ∧ wallet.keypair index = .ok pair ∧
          pair.seed = key ∧ pair.publicKey = (Ed25519.expand key).publicKey ∧
          IsViewOf index pair account) ∧
    ∀ (a b : Wallet) (i j : UInt32) (x y : Account),
      a.account i = .ok x → b.account j = .ok y → (x.path = y.path ↔ x.index = y.index) := by
  constructor
  · intro wallet index
    split
    · next hle => exact wallet.keys_of_le (firstHardenedIndex_le_iff.2 hle)
    · next hlt =>
      have hlt : index < firstHardenedIndex :=
        lt_firstHardenedIndex_iff.2 (Nat.lt_of_not_le hlt)
      exact ⟨_, _, _, wallet.account_of_lt hlt, wallet.accountKey_of_lt hlt,
        wallet.keypair_of_lt hlt, rfl, rfl, isViewOf_ofKey index _⟩
  · intro a b i j x y hx hy
    obtain ⟨hxpath, hxindex⟩ := path_eq_of_account hx
    obtain ⟨hypath, hyindex⟩ := path_eq_of_account hy
    rw [hxpath, hypath, hxindex, hyindex]
    exact pathText_injective.eq_iff

/-- The first and the last account of a wallet are told apart by their paths. -/
theorem path_first_ne_path_last :
    ∃ (wallet : Wallet) (x y : Account),
      wallet.mnemonic = Phrase.join (List.replicate 11 "abandon" ++ ["about"]) ∧
      wallet.account 0 = .ok x ∧ wallet.account 0x7FFFFFFF = .ok y ∧ x.path ≠ y.path := by
  have h₀ : (0 : UInt32) < firstHardenedIndex := by decide
  have h₁ : (0x7FFFFFFF : UInt32) < firstHardenedIndex := by decide
  refine ⟨⟨Phrase.join (List.replicate 11 "abandon" ++ ["about"]), "", .english⟩, _, _, rfl,
    account_of_lt _ h₀, account_of_lt _ h₁, fun hpath => ?_⟩
  have hindex : (0 : UInt32) = 0x7FFFFFFF :=
    (account_views_agree.2 _ _ _ _ _ _ (account_of_lt _ h₀) (account_of_lt _ h₁)).1 hpath
  exact absurd hindex (by decide)

end Wallet

end HdWallet
