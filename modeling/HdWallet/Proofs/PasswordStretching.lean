/-
PBKDF2 as the standard has it. Each block of the output is the exclusive or of all codes of a
chain, the first of the salt and the number of the block, every other of the code in front of it;
the blocks stand one behind the other, cut to the wanted length. `Pbkdf2.derive` keeps the running
exclusive or and the newest code instead of the chain, and makes one block (`derive_eq_output`).
-/
import HdWallet.Proofs.KeyedHash

namespace HdWallet.Pbkdf2

/-! ## The standard -/

/-- The codes of the chain that a block is made of, counted from 0. -/
def chainCode (password salt : List UInt8) (number : Nat) : Nat → List UInt8
  | 0 => (HmacKey.nestedDigest password (salt ++ bigEndian 4 number)).toList
  | n + 1 => (HmacKey.nestedDigest password (chainCode password salt number n)).toList

/-- The exclusive or of two byte strings of one length. -/
def exclusiveOr (a b : List UInt8) : List UInt8 :=
  List.zipWith (· ^^^ ·) a b

/-- The exclusive or of the first codes of a chain. -/
def chainSum (password salt : List UInt8) (rounds number : Nat) : List UInt8 :=
  ((List.range rounds).map (chainCode password salt number)).foldl exclusiveOr
    (List.replicate 64 0)

/-- As many bytes as are wanted, of as many blocks of 64 as it takes. -/
def output (password salt : List UInt8) (rounds length : Nat) : List UInt8 :=
  ((List.range' 1 ((length + 63) / 64)).flatMap (chainSum password salt rounds)).take length

/-! ## The running exclusive or -/

theorem length_chainCode (password salt : List UInt8) (number n : Nat) :
    (chainCode password salt number n).length = 64 := by
  cases n <;> exact Bytes.length_toList _

theorem zero_exclusiveOr {bytes : List UInt8} {n : Nat} (h : bytes.length = n) :
    exclusiveOr (List.replicate n 0) bytes = bytes := by
  subst h
  induction bytes with
  | nil => rfl
  | cons byte bytes ih =>
    rw [exclusiveOr] at ih ⊢
    rw [List.length_cons, List.replicate_succ, List.zipWith_cons_cons, UInt8.zero_xor, ih]

section

variable (password salt : List UInt8) (number : Nat)

theorem chainSum_one :
    chainSum password salt 1 number = chainCode password salt number 0 :=
  zero_exclusiveOr (length_chainCode password salt number 0)

theorem chainSum_succ (rounds : Nat) :
    chainSum password salt (rounds + 1) number =
      exclusiveOr (chainSum password salt rounds number)
        (chainCode password salt number rounds) := by
  rw [chainSum, List.range_succ, List.map_append, List.foldl_append]
  rfl

theorem code_eq_nestedDigest (message : List UInt8) :
    (HmacKey.ofBytes password).code message = HmacKey.nestedDigest password message :=
  HmacKey.code_eq_nestedDigest password message

/-- After some steps: the exclusive or of the codes so far, and the newest of them. -/
theorem repeat_step (n : Nat) :
    let first := (HmacKey.ofBytes password).code (salt ++ bigEndian 4 number)
    let state := Nat.repeat (step (HmacKey.ofBytes password)) n (first, first)
    state.1.toList = chainSum password salt (n + 1) number ∧
      state.2.toList = chainCode password salt number n := by
  intro first
  induction n with
  | zero =>
    have hfirst : first.toList = chainCode password salt number 0 :=
      congrArg Bytes.toList (code_eq_nestedDigest password _)
    exact ⟨hfirst.trans (chainSum_one password salt number).symm, hfirst⟩
  | succ n ih =>
    obtain ⟨hsum, hlast⟩ := ih
    have hnext : ((HmacKey.ofBytes password).code
        (Nat.repeat (step (HmacKey.ofBytes password)) n (first, first)).2.toList).toList =
          chainCode password salt number (n + 1) := by
      rw [hlast, code_eq_nestedDigest]
      rfl
    refine ⟨?_, hnext⟩
    rw [chainSum_succ, ← hsum, ← hnext]
    rfl

/-- A block is the exclusive or of its chain. -/
theorem block_eq_chainSum {rounds : Nat} (h : 0 < rounds) :
    (block (HmacKey.ofBytes password) salt rounds number).toList =
      chainSum password salt rounds number := by
  obtain ⟨n, rfl⟩ := Nat.exists_eq_add_one.2 h
  exact (repeat_step password salt number n).1

/-- **What is derived is the output of the standard, as long as one block.** -/
theorem derive_eq_output {rounds : Nat} (h : 0 < rounds) :
    (derive password salt rounds).toList = output password salt rounds 64 := by
  have hblock := block_eq_chainSum password salt 1 h
  have hlength := (block (HmacKey.ofBytes password) salt rounds 1).length_toList
  rw [hblock] at hlength
  have hrange : List.range' 1 ((64 + 63) / 64) = [1] := rfl
  rw [derive, hblock, output, hrange, List.flatMap_singleton, ← hlength, List.take_length]

end

end HdWallet.Pbkdf2
