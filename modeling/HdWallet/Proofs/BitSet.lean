/-
Sets of numbers held as the bits of one number, which makes them cheap to compute with in a
proof: whether long lists of numbers share a member, or hold one twice, is found in one pass.
-/
import Mathlib.Data.List.Nodup
import Mathlib.Data.Nat.Bitwise

namespace HdWallet.BitSet

/-- A set with one more number in it. -/
def insert (n bits : Nat) : Nat := bits ||| 1 <<< n

/-- The set of the numbers in a list. -/
def ofList (numbers : List Nat) : Nat := numbers.foldr insert 0

theorem testBit_insert (n bits k : Nat) :
    (insert n bits).testBit k = (decide (n = k) || bits.testBit k) := by
  rw [insert, Nat.testBit_or, Nat.shiftLeft_eq, Nat.one_mul, Nat.testBit_two_pow, Bool.or_comm]

theorem testBit_ofList (numbers : List Nat) (k : Nat) :
    (ofList numbers).testBit k = decide (k ∈ numbers) := by
  induction numbers with
  | nil => simp [ofList]
  | cons n numbers ih =>
    have hstep : ofList (n :: numbers) = insert n (ofList numbers) := rfl
    rw [hstep, testBit_insert, ih]
    simp [List.mem_cons, eq_comm]

/-- Whether the numbers of a list are new to a set and to each other. -/
def fresh : Nat → List Nat → Bool
  | _, [] => true
  | bits, n :: rest => !bits.testBit n && fresh (insert n bits) rest

theorem nodup_of_fresh {bits : Nat} {numbers : List Nat} (h : fresh bits numbers = true) :
    numbers.Nodup ∧ ∀ n ∈ numbers, bits.testBit n = false := by
  induction numbers generalizing bits with
  | nil => simp
  | cons n rest ih =>
    simp only [fresh, Bool.and_eq_true, Bool.not_eq_true'] at h
    obtain ⟨hn, hrest⟩ := h
    obtain ⟨hnodup, hnew⟩ := ih hrest
    simp only [testBit_insert, Bool.or_eq_false_iff, decide_eq_false_iff_not] at hnew
    refine ⟨List.nodup_cons.2 ⟨fun hm => (hnew n hm).1 rfl, hnodup⟩, fun k hk => ?_⟩
    rcases List.mem_cons.1 hk with rfl | hk
    · exact hn
    · exact (hnew k hk).2

end HdWallet.BitSet
