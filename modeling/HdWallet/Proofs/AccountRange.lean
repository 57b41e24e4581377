/-
A batch of accounts is what its indices give one by one. Its bounds are found with sums of 32
bits that may fail or saturate; in natural numbers (`checkedAdd?_eq_some_iff`,
`toNat_saturatingAdd`) they say that no index of the batch may reach 2^31. Below that bound every
index has an account, so the batch is whole, and else there is none (`accounts_one_by_one`). The
one difference that is taken on the way is one that there is (`accounts_of_lt_stop`).
-/
import HdWallet.Proofs.AccountKeys
import HdWallet.Proofs.ListResults
import Mathlib

namespace HdWallet

open ExtendedKey

/-! ## Sums of 32 bits and differences -/

theorem checkedSub_of_le {α : Type} [LE α] [DecidableLE α] [Sub α] {a b : α} (h : b ≤ a) :
    checkedSub a b = .ok (a - b) :=
  if_pos h

theorem checkedAdd?_eq_some_iff {a b c : UInt32} :
    checkedAdd? a b = some c ↔ c.toNat = a.toNat + b.toNat := by
  have hc : c.toNat < UInt32.size := c.toNat_lt
  rw [checkedAdd?]
  split
  · next h =>
    have hsum : (a + b).toNat = a.toNat + b.toNat := by
      rw [UInt32.toNat_add]
      exact Nat.mod_eq_of_lt h
    rw [Option.some_inj, ← UInt32.toNat_inj, hsum, eq_comm]
  · next h =>
    constructor
    · intro hsome
      cases hsome
    · intro hsum
      omega

theorem checkedAdd?_eq_none_iff {a b : UInt32} :
    checkedAdd? a b = none ↔ UInt32.size ≤ a.toNat + b.toNat := by
  rw [checkedAdd?]
  split <;> simp only [reduceCtorEq, true_iff, false_iff] <;> omega

theorem toNat_saturatingAdd (a b : UInt32) :
    (saturatingAdd a b).toNat = min (a.toNat + b.toNat) (2 ^ 32 - 1) := by
  rw [saturatingAdd]
  cases h : checkedAdd? a b with
  | none =>
    have hsize : 2 ^ 32 ≤ a.toNat + b.toNat := checkedAdd?_eq_none_iff.1 h
    rw [Option.getD_none, Nat.min_eq_right (by omega)]
    rfl
  | some c =>
    have hsum := checkedAdd?_eq_some_iff.1 h
    have hc := c.toNat_lt
    rw [Option.getD_some, hsum]
    omega

/-! ## The end of a range -/

/-- The first index behind a range, if the range stays below the first hardened index. -/
theorem stop_eq_some_iff {start count stop : UInt32} :
    (checkedAdd? start count).filter (· ≤ firstHardenedIndex) = some stop ↔
      stop.toNat = start.toNat + count.toNat ∧ start.toNat + count.toNat ≤ 2 ^ 31 := by
  have hbound : stop ≤ firstHardenedIndex ↔ stop.toNat ≤ 2 ^ 31 := UInt32.le_iff_toNat_le
  rw [Option.filter_eq_some_iff, checkedAdd?_eq_some_iff, decide_eq_true_eq, hbound]
  constructor
  · rintro ⟨hstop, hle⟩
    exact ⟨hstop, hstop ▸ hle⟩
  · rintro ⟨hstop, hle⟩
    exact ⟨hstop, hstop.symm ▸ hle⟩

theorem stop_eq_none_iff {start count : UInt32} :
    (checkedAdd? start count).filter (· ≤ firstHardenedIndex) = none ↔
      2 ^ 31 < start.toNat + count.toNat := by
  constructor
  · intro hnone
    by_contra hle
    have hlt : start.toNat + count.toNat < 2 ^ 32 := by omega
    have hstop := stop_eq_some_iff.2
      ⟨UInt32.toNat_ofNat_of_lt hlt, Nat.le_of_not_lt hle⟩
    rw [hnone] at hstop
    cases hstop
  · intro hlt
    cases hstop : (checkedAdd? start count).filter (· ≤ firstHardenedIndex) with
    | none => rfl
    | some stop =>
      have := (stop_eq_some_iff.1 hstop).2
      omega

namespace Wallet

/-! ## Batches -/

section

variable {start count : UInt32} (wallet : Wallet)

theorem accounts_of_start_le (h : 2 ^ 31 ≤ start.toNat) :
    wallet.accounts start count = .error (.reported (.invalidIndex start)) :=
  if_pos (firstHardenedIndex_le_iff.2 h)

/-- The error names the last index, which there is: the range is not empty. -/
theorem accounts_of_lt_stop (hstart : start.toNat < 2 ^ 31)
    (hstop : 2 ^ 31 < start.toNat + count.toNat) :
    count ≠ 0 ∧ ∃ last : UInt32,
      wallet.accounts start count = .error (.reported (.invalidIndex last)) ∧
      last.toNat = min (start.toNat + count.toNat - 1) (2 ^ 32 - 1) ∧ 2 ^ 31 ≤ last.toNat := by
  have hcount : 1 ≤ count.toNat := by omega
  have hle : (1 : UInt32) ≤ count := UInt32.le_iff_toNat_le.2 hcount
  have hpred : (count - 1).toNat = count.toNat - 1 := UInt32.toNat_sub_of_le _ _ hle
  have hlast : (saturatingAdd start (count - 1)).toNat =
      min (start.toNat + count.toNat - 1) (2 ^ 32 - 1) := by
    rw [toNat_saturatingAdd, hpred]
    omega
  refine ⟨?_, saturatingAdd start (count - 1), ?_, hlast, ?_⟩
  · rintro rfl
    exact absurd hcount (by decide)
  · rw [accounts, if_neg, stop_eq_none_iff.2 hstop]
    · dsimp only
      rw [checkedSub_of_le hle, ok_bind]
    · exact fun hle => absurd (firstHardenedIndex_le_iff.1 hle) (by omega)
  · omega

/-- The accounts of a range of indices. -/
def batch (wallet : Wallet) (start count : Nat) : List Account :=
  (List.range' start count).map fun index =>
    .ofKey (UInt32.ofNat index) (wallet.seed.privateKey (UInt32.ofNat index))

theorem toNat_index {index : Nat} (h : index < 2 ^ 31) : (UInt32.ofNat index).toNat = index :=
  UInt32.toNat_ofNat_of_lt (Nat.lt_trans h (by decide))

theorem accounts_of_stop_le (hstart : start.toNat < 2 ^ 31)
    (hstop : start.toNat + count.toNat ≤ 2 ^ 31) :
    wallet.accounts start count = .ok (wallet.batch start.toNat count.toNat) := by
  have hlt : start.toNat + count.toNat < 2 ^ 32 := by omega
  have hsum : (UInt32.ofNat (start.toNat + count.toNat)).toNat = start.toNat + count.toNat :=
    UInt32.toNat_ofNat_of_lt hlt
  -- Every index of the range is below the bound, so none of the steps of `mapM` fails.
  have hall : ∀ index ∈ List.range' start.toNat count.toNat,
      wallet.seed.account (UInt32.ofNat index) =
        .ok (.ofKey (UInt32.ofNat index) (wallet.seed.privateKey (UInt32.ofNat index))) := by
    intro index hindex
    have hbounds := List.mem_range'_1.1 hindex
    have hindex : (UInt32.ofNat index).toNat < 2 ^ 31 := by
      rw [toNat_index (by omega)]
      omega
    exact wallet.seed.account_of_lt (lt_firstHardenedIndex_iff.2 hindex)
  rw [accounts, if_neg, stop_eq_some_iff.2 ⟨hsum, hstop⟩]
  · dsimp only
    rw [hsum, Nat.add_sub_cancel_left, mapM_eq_ok hall, batch]
    rfl
  · exact fun hle => absurd (firstHardenedIndex_le_iff.1 hle) (by omega)

end

/-- The accounts of `count` indices from `start` on, in their order: each is the one that its
index gives alone. -/
structure IsBatch (wallet : Wallet) (start count : UInt32) (batch : List Account) : Prop where
  length_eq : batch.length = count.toNat
  indices_eq : batch.map (·.index.toNat) = List.range' start.toNat count.toNat
  account_eq : ∀ k (h : k < batch.length), wallet.account (start + UInt32.ofNat k) = .ok batch[k]

theorem isBatch_batch {start count : UInt32} (wallet : Wallet)
    (hstop : start.toNat + count.toNat ≤ 2 ^ 31) :
    IsBatch wallet start count (wallet.batch start.toNat count.toNat) where
  length_eq := by rw [batch, List.length_map, List.length_range']
  indices_eq := by
    rw [batch, List.map_map]
    refine (List.map_congr_left fun index hindex => ?_).trans (List.map_id _)
    have hbounds := List.mem_range'_1.1 hindex
    exact toNat_index (by omega)
  account_eq := by
    intro k hk
    have hk' : k < count.toNat := by simpa [batch] using hk
    have hindex : start + UInt32.ofNat k = UInt32.ofNat (start.toNat + k) := by
      rw [UInt32.ofNat_add, UInt32.ofNat_toNat]
    have hlt : UInt32.ofNat (start.toNat + k) < firstHardenedIndex := by
      rw [lt_firstHardenedIndex_iff, toNat_index (by omega)]
      omega
    rw [hindex, account_of_lt wallet hlt]
    simp [batch]

/-- How a batch may end: with the error for a range that reaches too far, or whole. The program
never breaks off. -/
theorem accounts_cases (wallet : Wallet) (start count : UInt32) :
    (∃ index, wallet.accounts start count = .error (.reported (.invalidIndex index))) ∨
      ∃ batch, wallet.accounts start count = .ok batch ∧ IsBatch wallet start count batch := by
  by_cases hstart : 2 ^ 31 ≤ start.toNat
  · exact .inl ⟨start, wallet.accounts_of_start_le hstart⟩
  have hstart := Nat.lt_of_not_le hstart
  by_cases hstop : 2 ^ 31 < start.toNat + count.toNat
  · obtain ⟨-, last, herror, -⟩ := wallet.accounts_of_lt_stop hstart hstop
    exact .inl ⟨last, herror⟩
  · have hle := Nat.le_of_not_lt hstop
    exact .inr ⟨_, wallet.accounts_of_stop_le hstart hle, isBatch_batch wallet hle⟩

theorem accounts_ne_panicked (wallet : Wallet) (start count : UInt32) (reason : String) :
    wallet.accounts start count ≠ .error (.panicked reason) := by
  intro hpanicked
  obtain ⟨index, herror⟩ | ⟨batch, hok, -⟩ := wallet.accounts_cases start count
  · rw [herror] at hpanicked
    cases hpanicked
  · rw [hok] at hpanicked
    cases hpanicked

theorem isBatch_of_accounts {wallet : Wallet} {start count : UInt32} {accounts : List Account}
    (h : wallet.accounts start count = .ok accounts) : IsBatch wallet start count accounts := by
  obtain ⟨index, herror⟩ | ⟨batch, hok, hbatch⟩ := wallet.accounts_cases start count
  · rw [herror] at h
    cases h
  · rw [hok] at h
    cases h
    exact hbatch

/-- **A batch of accounts is its accounts one by one, or an error.** There is an error exactly
if the first index reaches 2^31 or one behind it does. It names the first index if that is too
large and else the last, as far as 32 bits hold it, which is too large as well; only a range
that has a last index gets there, so the difference that finds it is never one below zero.
Otherwise there are as many accounts as asked for, with successive indices, each equal to the
account that its index gives alone. -/
theorem accounts_one_by_one (wallet : Wallet) (start count : UInt32) :
    ((∃ e, wallet.accounts start count = .error e) ↔
      2 ^ 31 ≤ start.toNat ∨ 2 ^ 31 < start.toNat + count.toNat) ∧
    (∀ reason, wallet.accounts start count ≠ .error (.panicked reason)) ∧
    if 2 ^ 31 ≤ start.toNat then
      wallet.accounts start count = .error (.reported (.invalidIndex start))
    else if 2 ^ 31 < start.toNat + count.toNat then
      count ≠ 0 ∧ ∃ last : UInt32,
        wallet.accounts start count = .error (.reported (.invalidIndex last)) ∧
        last.toNat = min (start.toNat + count.toNat - 1) (2 ^ 32 - 1) ∧ 2 ^ 31 ≤ last.toNat
    else ∃ batch, wallet.accounts start count = .ok batch ∧ IsBatch wallet start count batch := by
  have hpanic := wallet.accounts_ne_panicked start count
  by_cases hstart : 2 ^ 31 ≤ start.toNat
  · have herror : wallet.accounts start count = _ := wallet.accounts_of_start_le hstart
    exact ⟨⟨fun _ => .inl hstart, fun _ => ⟨_, herror⟩⟩, hpanic, by rwa [if_pos hstart]⟩
  rw [if_neg hstart]
  have hstart' : start.toNat < 2 ^ 31 := Nat.lt_of_not_le hstart
  by_cases hstop : 2 ^ 31 < start.toNat + count.toNat
  · obtain ⟨hcount, last, herror, hlast⟩ := wallet.accounts_of_lt_stop hstart' hstop
    rw [if_pos hstop]
    exact ⟨⟨fun _ => .inr hstop, fun _ => ⟨_, herror⟩⟩, hpanic, hcount, last, herror, hlast⟩
  · have hstop' : start.toNat + count.toNat ≤ 2 ^ 31 := Nat.le_of_not_lt hstop
    have hok := wallet.accounts_of_stop_le hstart' hstop'
    rw [if_neg hstop]
    refine ⟨⟨?_, ?_⟩, hpanic, _, hok, isBatch_batch wallet hstop'⟩
    · rintro ⟨e, herror⟩
      rw [hok] at herror
      cases herror
    · rintro (h | h)
      · exact absurd h hstart
      · exact absurd h hstop

end Wallet

end HdWallet
