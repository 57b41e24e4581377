/-
Derivation walks along hardened steps, and accounts part only at the last of them. Each step is
the two halves of one keyed hash (`child_eq_ok_iff`); a walk goes to the end of its path unless an
index of the path is hardened already, and the first such index is what it fails with
(`descend_eq_find?`). The hash never refuses its key, as it takes keys of every length
(`derivation_unreachable`). All accounts of a seed come from one parent, of messages of one length
that differ in the index, so two accounts with one key would be a collision of that half of the
hash.
-/
import HdWallet.Proofs.AccountKeys
import HdWallet.Proofs.KeyedHash
import HdWallet.Proofs.ListResults

namespace HdWallet

/-! ## Numbers in bytes -/

theorem bigEndian_inj {count a b : Nat} (ha : a < 256 ^ count) (hb : b < 256 ^ count)
    (h : bigEndian count a = bigEndian count b) : a = b := by
  have hlittle : littleEndian count a = littleEndian count b := List.reverse_injective h
  rw [← ofLittleEndian_littleEndian ha, hlittle, ofLittleEndian_littleEndian hb]

namespace ExtendedKey

/-! ## Steps -/

/-- A key that is the two halves of the code of a message: the private key is the left one, the
chain code the right one. -/
structure IsSplit (key message : List UInt8) (extended : ExtendedKey) : Prop where
  privateKey_eq : extended.privateKey.toList = (HmacKey.nestedDigest key message).toList.take 32
  chainCode_eq : extended.chainCode.toList = (HmacKey.nestedDigest key message).toList.drop 32

theorem isSplit_ofCode (key message : List UInt8) :
    IsSplit key message (ofCode ((HmacKey.ofBytes key).code message)) := by
  rw [HmacKey.code_eq_nestedDigest]
  exact ⟨rfl, rfl⟩

theorem IsSplit.eq {key message : List UInt8} {a b : ExtendedKey} (ha : IsSplit key message a)
    (hb : IsSplit key message b) : a = b := by
  obtain ⟨privateKey, chainCode⟩ := a
  obtain ⟨otherKey, otherCode⟩ := b
  have hkey : privateKey = otherKey := Bytes.ext (ha.privateKey_eq.trans hb.privateKey_eq.symm)
  have hcode : chainCode = otherCode := Bytes.ext (ha.chainCode_eq.trans hb.chainCode_eq.symm)
  rw [hkey, hcode]

/-- What the code of a child is taken of, the index reckoned as a natural number. -/
def childMessage (parent : ExtendedKey) (index : UInt32) : List UInt8 :=
  0 :: parent.privateKey.toList ++ bigEndian 4 (2 ^ 31 + index.toNat)

theorem length_childMessage (parent : ExtendedKey) (index : UInt32) :
    (parent.childMessage index).length = 37 := by
  rw [childMessage, List.length_append, List.length_cons, Bytes.length_toList, length_bigEndian]

theorem toNat_firstHardenedIndex_add {index : UInt32} (h : index < firstHardenedIndex) :
    (firstHardenedIndex + index).toNat = 2 ^ 31 + index.toNat := by
  have hlt := lt_firstHardenedIndex_iff.1 h
  rw [UInt32.toNat_add]
  exact Nat.mod_eq_of_lt (Nat.add_lt_add_left hlt (2 ^ 31))

theorem childData_eq {index : UInt32} (h : index < firstHardenedIndex) (parent : ExtendedKey) :
    parent.childData (firstHardenedIndex + index) = parent.childMessage index := by
  rw [childData, toNat_firstHardenedIndex_add h, childMessage]

/-- No two indices that can be hardened have the same message. -/
theorem childMessage_inj {parent : ExtendedKey} {i j : UInt32} (hi : i.toNat < 2 ^ 31)
    (hj : j.toNat < 2 ^ 31) (h : parent.childMessage i = parent.childMessage j) : i = j := by
  have hnumber : bigEndian 4 (2 ^ 31 + i.toNat) = bigEndian 4 (2 ^ 31 + j.toNat) :=
    List.append_cancel_left h
  have hsum := bigEndian_inj (by omega) (by omega) hnumber
  exact UInt32.toNat_inj.1 (Nat.add_left_cancel hsum)

/-- A step of a walk: the index can be hardened, and the key is split from the code that the
parent's chain code gives the index. -/
structure IsChild (parent : ExtendedKey) (index : UInt32) (child : ExtendedKey) : Prop where
  lt : index.toNat < 2 ^ 31
  isSplit : IsSplit parent.chainCode.toList (parent.childMessage index) child

theorem isChild_hardenedChild {index : UInt32} (h : index < firstHardenedIndex)
    (parent : ExtendedKey) : IsChild parent index (parent.hardenedChild index) := by
  refine ⟨lt_firstHardenedIndex_iff.1 h, ?_⟩
  rw [hardenedChild, childData_eq h]
  exact isSplit_ofCode _ _

theorem child_eq_ok_iff {parent child : ExtendedKey} {index : UInt32} :
    parent.child index = .ok child ↔ IsChild parent index child := by
  constructor
  · intro h
    by_cases hlt : index < firstHardenedIndex
    · rw [child_of_lt hlt] at h
      cases h
      exact isChild_hardenedChild hlt parent
    · rw [child_of_le (UInt32.not_lt.1 hlt)] at h
      cases h
  · intro h
    have hlt := lt_firstHardenedIndex_iff.2 h.lt
    rw [child_of_lt hlt, (isChild_hardenedChild hlt parent).isSplit.eq h.isSplit]

/-! ## Walks -/

/-- A walk from a key along a path of indices, and the key at its end. -/
inductive Walk : ExtendedKey → List UInt32 → ExtendedKey → Prop
  | done (key : ExtendedKey) : Walk key [] key
  | step {parent child last : ExtendedKey} {index : UInt32} {path : List UInt32}
      (hchild : IsChild parent index child) (hrest : Walk child path last) :
      Walk parent (index :: path) last

theorem descend_cons (key : ExtendedKey) (index : UInt32) (path : List UInt32) :
    key.descend (index :: path) = key.child index >>= fun child => child.descend path :=
  List.foldlM_cons

/-- **Derivation finds the end of a walk, where there is one.** -/
theorem descend_eq_ok_iff {key last : ExtendedKey} {path : List UInt32} :
    key.descend path = .ok last ↔ Walk key path last := by
  induction path generalizing key with
  | nil =>
    constructor
    · intro h
      cases h
      exact .done _
    · intro h
      cases h
      rfl
  | cons index path ih =>
    rw [descend_cons, bind_eq_ok_iff]
    constructor
    · rintro ⟨child, hchild, hrest⟩
      exact .step (child_eq_ok_iff.1 hchild) (ih.1 hrest)
    · intro h
      cases h with
      | step hchild hrest => exact ⟨_, child_eq_ok_iff.2 hchild, ih.2 hrest⟩

/-- **The first index of a path that cannot be hardened decides.** -/
theorem descend_eq_find? (key : ExtendedKey) (path : List UInt32) :
    key.descend path =
      match path.find? (2 ^ 31 ≤ ·.toNat) with
      | some index => .error (.invalidIndex index)
      | none => .ok (path.foldl hardenedChild key) := by
  induction path generalizing key with
  | nil => rfl
  | cons index path ih =>
    by_cases hle : 2 ^ 31 ≤ index.toNat
    · have hfind : (index :: path).find? (2 ^ 31 ≤ ·.toNat) = some index :=
        List.find?_cons_of_pos (decide_eq_true hle)
      rw [descend_cons, child_of_le (firstHardenedIndex_le_iff.2 hle), hfind]
      rfl
    · have hfind : (index :: path).find? (2 ^ 31 ≤ ·.toNat) = path.find? (2 ^ 31 ≤ ·.toNat) :=
        List.find?_cons_of_neg (by simpa using hle)
      have hlt : index < firstHardenedIndex := lt_firstHardenedIndex_iff.2 (Nat.lt_of_not_le hle)
      rw [descend_cons_of_lt hlt, ih, hfind, List.foldl_cons]

/-! ## Accounts -/

/-- The offset is added without a carry out of the 32 bits. -/
theorem hardened_eq_ok_iff {index number : UInt32} :
    hardened index = .ok number ↔
      index.toNat < 2 ^ 31 ∧ number.toNat = 2 ^ 31 + index.toNat := by
  by_cases hle : firstHardenedIndex ≤ index
  · have hge := firstHardenedIndex_le_iff.1 hle
    rw [hardened_of_le hle]
    constructor
    · intro h
      cases h
    · rintro ⟨hlt, -⟩
      omega
  · have hlt := UInt32.not_le.1 hle
    have hsum := toNat_firstHardenedIndex_add hlt
    rw [hardened_of_lt hlt, Except.ok.injEq, ← UInt32.toNat_inj, hsum]
    exact ⟨fun h => ⟨lt_firstHardenedIndex_iff.1 hlt, h.symm⟩, fun h => h.2.symm⟩

theorem ofAccount_eq_steps (seed : List UInt8) (account : UInt32) :
    ofAccount seed account = (do
      let _ ← hardened account
      let first ← master seed
      let purposeKey ← first.child 44
      let coinKey ← purposeKey.child 148
      coinKey.child account) := by
  rw [ofAccount]
  refine bind_congr fun _ => bind_congr fun first => ?_
  rw [accountPath, descend_cons]
  refine bind_congr fun purposeKey => ?_
  rw [descend_cons]
  exact bind_congr fun coinKey => descend_singleton coinKey account

/-- That an account's index is looked at first changes no result: the last step looks at it too. -/
theorem ofAccount_eq_unchecked (seed : List UInt8) (account : UInt32) :
    ofAccount seed account = (do
      let first ← master seed
      first.descend [44, 148, account]) := by
  rw [master_eq, ok_bind]
  by_cases hle : firstHardenedIndex ≤ account
  · rw [ofAccount_of_le hle, ← child_of_le hle]
    exact (descend_accountPath seed account).symm
  · rw [ofAccount, hardened_of_lt (UInt32.not_le.1 hle), ok_bind, master_eq, ok_bind]
    rfl

/-- **The hash never refuses its key.** -/
theorem derivation_unreachable (reason : String) :
    (∀ seed, master seed ≠ .error (.derivation reason)) ∧
    (∀ (key : ExtendedKey) (path : List UInt32),
      key.descend path ≠ .error (.derivation reason)) ∧
    ∀ seed account, ofAccount seed account ≠ .error (.derivation reason) := by
  refine ⟨fun seed h => ?_, fun key path h => ?_, fun seed account h => ?_⟩
  · rw [master_eq] at h
    cases h
  · rw [descend_eq_find?] at h
    split at h <;> cases h
  · by_cases hle : firstHardenedIndex ≤ account
    · rw [ofAccount_of_le hle] at h
      cases h
    · rw [ofAccount_of_lt (UInt32.not_le.1 hle)] at h
      cases h

/-- The key that all accounts of a seed are children of. -/
def coinKey (seed : List UInt8) : ExtendedKey :=
  ((masterKey seed).hardenedChild purpose).hardenedChild coinType

theorem descend_coinKey (seed : List UInt8) :
    (master seed >>= fun first => first.descend [44, 148]) = .ok (coinKey seed) := by
  rw [master_eq, ok_bind, descend_cons_of_lt (by decide), descend_singleton,
    child_of_lt (by decide)]
  rfl

theorem isChild_coinKey {index : UInt32} (h : index < firstHardenedIndex) (seed : List UInt8) :
    IsChild (coinKey seed) index (walk seed index) :=
  isChild_hardenedChild h (coinKey seed)

/-- Two messages of 37 bytes, not the same, whose codes under a key have the same left half. -/
structure IsCollision (key a b : List UInt8) : Prop where
  ne : a ≠ b
  length_left : a.length = 37
  length_right : b.length = 37
  half_eq : (HmacKey.nestedDigest key a).toList.take 32 =
    (HmacKey.nestedDigest key b).toList.take 32

/-- Children of one parent have the same private key exactly if their messages collide. -/
theorem privateKey_eq_iff_isCollision {parent x y : ExtendedKey} {i j : UInt32}
    (hx : IsChild parent i x) (hy : IsChild parent j y) (hne : i ≠ j) :
    x.privateKey = y.privateKey ↔
      IsCollision parent.chainCode.toList (parent.childMessage i) (parent.childMessage j) := by
  constructor
  · intro h
    refine ⟨fun hm => hne (childMessage_inj hx.lt hy.lt hm), length_childMessage parent i,
      length_childMessage parent j, ?_⟩
    rw [← hx.isSplit.privateKey_eq, ← hy.isSplit.privateKey_eq, h]
  · intro h
    refine Bytes.ext ?_
    rw [hx.isSplit.privateKey_eq, hy.isSplit.privateKey_eq, h.half_eq]

/-- **Derivation is the hardened walk, and it keeps accounts apart.** The walk starts at the two
halves of a seed's code and ends at the account, unless the account's index is 2^31 or more, which
is then what it fails with; that the index is looked at first changes nothing. On any path it is
the first such index that it fails with, and the hash never refuses its key. Two accounts of a
seed are children of one parent, so if their keys are the same then their two messages, which
differ, collide. -/
theorem derivation_walks_and_isolates :
    (∀ seed, ∃ first, master seed = .ok first ∧
      IsSplit (Unicode.Utf8.bytes "ed25519 seed") seed first) ∧
    (∀ index number : UInt32, hardened index = .ok number ↔
      index.toNat < 2 ^ 31 ∧ number.toNat = 2 ^ 31 + index.toNat) ∧
    (∀ seed account, ofAccount seed account = (do
      let _ ← hardened account
      let first ← master seed
      let purposeKey ← first.child 44
      let coinKey ← purposeKey.child 148
      coinKey.child account)) ∧
    (∀ seed account, ofAccount seed account = (do
      let first ← master seed
      first.descend [44, 148, account])) ∧
    (∀ seed account,
      if 2 ^ 31 ≤ account.toNat then ofAccount seed account = .error (.invalidIndex account)
      else ∃ first last, master seed = .ok first ∧ ofAccount seed account = .ok last ∧
        Walk first [44, 148, account] last) ∧
    (∀ reason : String, (∀ seed, master seed ≠ .error (.derivation reason)) ∧
      (∀ (key : ExtendedKey) (path : List UInt32),
        key.descend path ≠ .error (.derivation reason)) ∧
      ∀ seed account, ofAccount seed account ≠ .error (.derivation reason)) ∧
    (∀ (key : ExtendedKey) (path : List UInt32),
      match path.find? (2 ^ 31 ≤ ·.toNat) with
      | some index => key.descend path = .error (.invalidIndex index)
      | none => ∃ last, key.descend path = .ok last ∧ Walk key path last) ∧
    ∀ seed, ∃ parent, (master seed >>= fun first => first.descend [44, 148]) = .ok parent ∧
      ∀ i j : UInt32, i.toNat < 2 ^ 31 → j.toNat < 2 ^ 31 → i ≠ j →
        ∃ x y, ofAccount seed i = .ok x ∧ ofAccount seed j = .ok y ∧
          IsChild parent i x ∧ IsChild parent j y ∧
          parent.childMessage i ≠ parent.childMessage j ∧
          (x.privateKey = y.privateKey ↔ IsCollision parent.chainCode.toList
            (parent.childMessage i) (parent.childMessage j)) := by
  refine ⟨fun seed => ⟨_, master_eq seed, isSplit_ofCode _ seed⟩, fun _ _ => hardened_eq_ok_iff,
    ofAccount_eq_steps, ofAccount_eq_unchecked, fun seed account => ?_, derivation_unreachable,
    fun key path => ?_, fun seed => ⟨coinKey seed, descend_coinKey seed, ?_⟩⟩
  · split
    · next hle => exact ofAccount_of_le (firstHardenedIndex_le_iff.2 hle) seed
    · next hlt =>
      have hlt := lt_firstHardenedIndex_iff.2 (Nat.lt_of_not_le hlt)
      have hwalk := ofAccount_of_lt hlt seed
      rw [ofAccount_eq_unchecked, master_eq, ok_bind] at hwalk
      exact ⟨_, _, master_eq seed, ofAccount_of_lt hlt seed, descend_eq_ok_iff.1 hwalk⟩
  · have hdescend := descend_eq_find? key path
    split
    · next hfind => rw [hdescend, hfind]
    · next hfind =>
      rw [hfind] at hdescend
      exact ⟨_, hdescend, descend_eq_ok_iff.1 hdescend⟩
  · intro i j hi hj hne
    have hi' := lt_firstHardenedIndex_iff.2 hi
    have hj' := lt_firstHardenedIndex_iff.2 hj
    have hx := isChild_coinKey hi' seed
    have hy := isChild_coinKey hj' seed
    exact ⟨_, _, ofAccount_of_lt hi' seed, ofAccount_of_lt hj' seed, hx, hy,
      fun hm => hne (childMessage_inj hi hj hm), privateKey_eq_iff_isCollision hx hy hne⟩

/-- The first and the last account of a seed: their messages differ in the last four bytes,
and only a collision of the two would give both accounts one key. -/
theorem first_and_last_account :
    ∃ parent x y,
      (master (List.replicate 64 7) >>= fun first => first.descend [44, 148]) = .ok parent ∧
      ofAccount (List.replicate 64 7) 0 = .ok x ∧
      ofAccount (List.replicate 64 7) 0x7FFFFFFF = .ok y ∧
      parent.childMessage 0 = 0 :: parent.privateKey.toList ++ [0x80, 0, 0, 0] ∧
      parent.childMessage 0x7FFFFFFF =
        0 :: parent.privateKey.toList ++ [0xFF, 0xFF, 0xFF, 0xFF] ∧
      (x.privateKey = y.privateKey ↔ IsCollision parent.chainCode.toList
        (parent.childMessage 0) (parent.childMessage 0x7FFFFFFF)) := by
  obtain ⟨-, -, -, -, -, -, -, hisolated⟩ := derivation_walks_and_isolates
  obtain ⟨parent, hparent, hapart⟩ := hisolated (List.replicate 64 7)
  obtain ⟨x, y, hx, hy, -, -, -, hiff⟩ :=
    hapart 0 0x7FFFFFFF (by decide) (by decide) (by decide)
  exact ⟨parent, x, y, hparent, hx, hy, rfl, rfl, hiff⟩

end ExtendedKey

end HdWallet
