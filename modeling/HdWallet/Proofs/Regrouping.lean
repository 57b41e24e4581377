/-
Writing bytes in another alphabet loses nothing. `ofNat width` and `toNat` are inverse to each
other on the numbers below `2 ^ width` and the sequences of `width` bits, and so are `ofBytes`
and `toBytes` where bits make up whole bytes. So bits are cut into numbers and put together
again (`groups_flatMap_ofNat`, `flatMap_ofNat_groups`), and each number is read off its symbol
(`mapM_idxOf?_eq_some_iff`).
-/
import HdWallet.Bits
import Mathlib

namespace HdWallet

/-! ## Numbers in bytes -/

/-- A number that fits into its bytes is the one they denote. -/
theorem ofLittleEndian_littleEndian {count number : Nat} (h : number < 256 ^ count) :
    ofLittleEndian (littleEndian count number) = number := by
  induction count generalizing number with
  | zero =>
    have : number = 0 := by simpa using h
    subst this; rfl
  | succ count ih =>
    have small : number / 256 < 256 ^ count := by
      rw [Nat.div_lt_iff_lt_mul (by decide)]
      simpa [Nat.pow_succ] using h
    have step : ofLittleEndian (littleEndian (count + 1) number) =
        ofLittleEndian (littleEndian count (number / 256)) * 256 + number % 256 := by
      simp [littleEndian, ofLittleEndian]
    rw [step, ih small]
    omega

/-! ## Groups -/

theorem takeGroups_append {size count : Nat} {items : List α} (rest : List α)
    (h : count * size ≤ items.length) :
    takeGroups size count (items ++ rest) = takeGroups size count items := by
  induction count generalizing items with
  | zero => rfl
  | succ count ih =>
    rw [Nat.succ_mul] at h
    have hdrop : count * size ≤ (items.drop size).length := by
      rw [List.length_drop]
      omega
    rw [takeGroups, takeGroups, List.take_append_of_le_length (by omega),
      List.drop_append_of_le_length (by omega), ih hdrop]

/-- Items too few for a group make no difference. -/
theorem groups_append {size : Nat} {items rest : List α} (h : size ∣ items.length)
    (hrest : rest.length < size) : groups size (items ++ rest) = groups size items := by
  have hcount : (items ++ rest).length / size = items.length / size := by
    obtain ⟨count, hc⟩ := h
    have hs : 0 < size := by omega
    rw [List.length_append, hc, Nat.mul_add_div hs, Nat.div_eq_of_lt hrest,
      Nat.mul_div_cancel_left _ hs, Nat.add_zero]
  rw [groups, hcount, takeGroups_append _ (Nat.div_mul_le_self _ _), groups]

theorem length_of_mem_takeGroups {size count : Nat} {items part : List α}
    (h : count * size ≤ items.length) (hp : part ∈ takeGroups size count items) :
    part.length = size := by
  induction count generalizing items with
  | zero => simp [takeGroups] at hp
  | succ count ih =>
    rw [Nat.succ_mul] at h
    rw [takeGroups, List.mem_cons] at hp
    rcases hp with rfl | hp
    · rw [List.length_take]
      omega
    · refine ih ?_ hp
      rw [List.length_drop]
      omega

theorem length_of_mem_groups {size : Nat} {items part : List α} (hp : part ∈ groups size items) :
    part.length = size :=
  length_of_mem_takeGroups (Nat.div_mul_le_self _ _) hp

theorem head?_groups {size : Nat} {items : List α} (hs : 0 < size) (h : size ≤ items.length) :
    (groups size items).head? = some (items.take size) := by
  obtain ⟨count, hc⟩ := Nat.exists_eq_add_of_lt (Nat.div_pos h hs)
  rw [groups, hc, Nat.zero_add, takeGroups, List.head?_cons]

namespace Bits

/-! ## Numbers of a width -/

theorem length_ofNat (width number : Nat) : (ofNat width number).length = width := by
  induction width with
  | zero => rfl
  | succ width ih => simp [ofNat, ih]

/-- The first bit counts for the power of two of the number of bits behind it. -/
theorem toNat_cons (bit : Bool) (bits : List Bool) :
    toNat (bit :: bits) = bit.toNat * 2 ^ bits.length + toNat bits := by
  suffices h : ∀ (bits : List Bool) (start : Nat),
      bits.foldl (fun number bit => 2 * number + bit.toNat) start =
        start * 2 ^ bits.length + bits.foldl (fun number bit => 2 * number + bit.toNat) 0 by
    simpa [toNat] using h bits bit.toNat
  intro bits
  induction bits with
  | nil => intro start; simp
  | cons b bits ih =>
    intro start
    rw [List.foldl_cons, ih, List.foldl_cons, ih (2 * 0 + b.toNat), List.length_cons, Nat.pow_succ]
    simp only [Nat.add_mul, Nat.mul_zero, Nat.zero_add]
    rw [Nat.mul_comm 2 start, Nat.mul_assoc, Nat.mul_comm 2 (2 ^ bits.length), Nat.add_assoc]

theorem toNat_lt (bits : List Bool) : toNat bits < 2 ^ bits.length := by
  induction bits with
  | nil => simp [toNat]
  | cons bit bits ih =>
    rw [toNat_cons, List.length_cons, Nat.pow_succ]
    cases bit <;> simp <;> omega

theorem toNat_ofNat (width number : Nat) : toNat (ofNat width number) = number % 2 ^ width := by
  induction width with
  | zero => simp [ofNat, toNat, Nat.mod_one]
  | succ width ih =>
    rw [ofNat, toNat_cons, ih, length_ofNat, Nat.mod_pow_succ, Nat.toNat_testBit,
      Nat.mul_comm, Nat.add_comm]

/-- Bits above the width make no difference. -/
theorem ofNat_mod (width number : Nat) : ofNat width (number % 2 ^ width) = ofNat width number := by
  suffices h : ∀ k, k ≤ width → ofNat k (number % 2 ^ width) = ofNat k number from
    h width (Nat.le_refl _)
  intro k
  induction k with
  | zero => intro _; rfl
  | succ k ih =>
    intro hk
    rw [ofNat, ofNat, ih (by omega), Nat.testBit_mod_two_pow]
    simp [show k < width by omega]

theorem ofNat_toNat (bits : List Bool) : ofNat bits.length (toNat bits) = bits := by
  induction bits with
  | nil => rfl
  | cons bit bits ih =>
    have low : ofNat bits.length (bit.toNat * 2 ^ bits.length + toNat bits) = bits := by
      rw [← ofNat_mod, Nat.mul_add_mod_self_right, ofNat_mod, ih]
    have high : (bit.toNat * 2 ^ bits.length + toNat bits).testBit bits.length = bit := by
      rw [Nat.mul_comm, Nat.testBit_two_pow_mul_add _ (toNat_lt bits)]
      cases bit <;> simp
    rw [List.length_cons, ofNat, toNat_cons, low, high]

theorem length_flatMap_ofNat (width : Nat) (numbers : List Nat) :
    (numbers.flatMap (ofNat width)).length = numbers.length * width := by
  induction numbers with
  | nil => simp
  | cons n numbers ih =>
    rw [List.flatMap_cons, List.length_append, length_ofNat, ih, List.length_cons, Nat.succ_mul,
      Nat.add_comm]

theorem toNat_lt_of_mem_groups {width : Nat} {bits : List Bool} {n : Nat}
    (h : n ∈ (groups width bits).map toNat) : n < 2 ^ width := by
  obtain ⟨part, hp, rfl⟩ := List.mem_map.1 h
  have hlt := toNat_lt part
  rwa [length_of_mem_groups hp] at hlt

/-- Numbers put together are cut into the same numbers. -/
theorem groups_flatMap_ofNat {width : Nat} (hw : 0 < width) {numbers : List Nat}
    (h : ∀ n ∈ numbers, n < 2 ^ width) :
    (groups width (numbers.flatMap (ofNat width))).map toNat = numbers := by
  have hparts : ∀ part ∈ numbers.map (ofNat width), part.length = width := fun part hp => by
    obtain ⟨n, -, rfl⟩ := List.mem_map.1 hp
    exact length_ofNat width n
  rw [List.flatMap_def, groups_flatten hw hparts, List.map_map]
  refine (List.map_congr_left fun n hn => ?_).trans (List.map_id _)
  rw [Function.comp, toNat_ofNat, Nat.mod_eq_of_lt (h n hn), id]

/-- Bits cut into numbers are put together to the same bits. -/
theorem flatMap_ofNat_groups {width : Nat} {bits : List Bool} (h : width ∣ bits.length) :
    ((groups width bits).map toNat).flatMap (ofNat width) = bits := by
  have hparts : (groups width bits).map (fun part => ofNat width (toNat part)) =
      groups width bits := by
    refine (List.map_congr_left fun part hp => ?_).trans (List.map_id _)
    have hlen := length_of_mem_groups hp
    rw [← hlen, ofNat_toNat, id]
  rw [List.flatMap_map, List.flatMap_def, hparts, flatten_groups h]

/-! ## Bytes -/

theorem length_ofBytes (bytes : List UInt8) : (ofBytes bytes).length = 8 * bytes.length := by
  induction bytes with
  | nil => rfl
  | cons byte bytes ih =>
    rw [ofBytes, List.flatMap_cons, List.length_append, length_ofNat, ← ofBytes, ih,
      List.length_cons]
    omega

theorem toBytes_ofBytes (bytes : List UInt8) : toBytes (ofBytes bytes) = bytes := by
  have hg : groups 8 (ofBytes bytes) = bytes.map fun byte => ofNat 8 byte.toNat := by
    rw [ofBytes, List.flatMap_def]
    exact groups_flatten (by decide) fun part hp => by
      obtain ⟨byte, _, rfl⟩ := List.mem_map.1 hp
      exact length_ofNat _ _
  rw [toBytes, hg, List.map_map]
  refine (List.map_congr_left fun byte _ => ?_).trans (List.map_id _)
  simp only [Function.comp, toNat_ofNat, id]
  rw [Nat.mod_eq_of_lt byte.toNat_lt, UInt8.ofNat_toNat]

theorem length_toBytes (bits : List Bool) : (toBytes bits).length = bits.length / 8 := by
  rw [toBytes, List.length_map, length_groups]

/-- Whole bytes of bits are put together to the same bits. -/
theorem ofBytes_toBytes {bits : List Bool} (h : 8 ∣ bits.length) : ofBytes (toBytes bits) = bits := by
  have hbytes : (toBytes bits).flatMap (fun byte => ofNat 8 byte.toNat) =
      ((groups 8 bits).map toNat).flatMap (ofNat 8) := by
    rw [toBytes, List.flatMap_map, List.flatMap_map]
    refine List.flatMap_congr fun part hp => ?_
    have hlt : toNat part < 2 ^ 8 := toNat_lt_of_mem_groups (List.mem_map_of_mem hp)
    rw [UInt8.toNat_ofNat', Nat.mod_eq_of_lt hlt]
  rw [ofBytes, hbytes, flatMap_ofNat_groups h]

/-- Bits too few for a byte make no difference. -/
theorem toBytes_append {bits rest : List Bool} (h : 8 ∣ bits.length) (hrest : rest.length < 8) :
    toBytes (bits ++ rest) = toBytes bits := by
  rw [toBytes, groups_append h hrest, toBytes]

end Bits

/-! ## Symbols -/

theorem getD_mem {symbols : List α} {n : Nat} (h : n < symbols.length) (fallback : α) :
    symbols.getD n fallback ∈ symbols := by
  rw [List.getD_eq_getElem _ _ h]
  exact List.getElem_mem h

section

variable [BEq α] [LawfulBEq α] {symbols : List α}

theorem idxOf?_eq_some_iff_getD (h : symbols.Nodup) (fallback : α) {a : α} {n : Nat} :
    symbols.idxOf? a = some n ↔ n < symbols.length ∧ symbols.getD n fallback = a := by
  rw [List.idxOf?_eq_some_iff]
  constructor
  · rintro ⟨hn, rfl, -⟩
    exact ⟨hn, by simp [hn]⟩
  · rintro ⟨hn, rfl⟩
    refine ⟨hn, by simp [hn], fun j hj he => ?_⟩
    have heq : symbols[j] = symbols[n] := by simpa [hn] using he
    exact absurd ((h.getElem_inj_iff).1 heq) (by omega)

/-- Symbols are read as exactly the numbers that they stand for. -/
theorem mapM_idxOf?_eq_some_iff (h : symbols.Nodup) (fallback : α) {text : List α}
    {numbers : List Nat} :
    text.mapM (fun a => symbols.idxOf? a) = some numbers ↔
      (∀ n ∈ numbers, n < symbols.length) ∧ numbers.map (symbols.getD · fallback) = text := by
  induction text generalizing numbers with
  | nil =>
    constructor
    · intro hm
      cases hm
      simp
    · rintro ⟨-, hm⟩
      rw [List.map_eq_nil_iff.1 hm]
      rfl
  | cons a text ih =>
    rw [List.mapM_cons]
    simp only [Option.bind_eq_bind, Option.bind_eq_some_iff]
    constructor
    · rintro ⟨n, hn, rest, hrest, hm⟩
      cases hm
      obtain ⟨hlt, ha⟩ := (idxOf?_eq_some_iff_getD h fallback).1 hn
      obtain ⟨hall, htext⟩ := ih.1 hrest
      refine ⟨fun k hk => ?_, by rw [List.map_cons, ha, htext]⟩
      rcases List.mem_cons.1 hk with rfl | hk
      · exact hlt
      · exact hall k hk
    · rintro ⟨hall, hm⟩
      cases numbers with
      | nil => simp at hm
      | cons n rest =>
        obtain ⟨ha, htext⟩ := List.cons.inj hm
        refine ⟨n, (idxOf?_eq_some_iff_getD h fallback).2 ⟨hall n (by simp), ha⟩, rest,
          ih.2 ⟨fun k hk => hall k (List.mem_cons_of_mem _ hk), htext⟩, rfl⟩

end

end HdWallet
