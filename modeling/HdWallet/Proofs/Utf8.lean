/-
The reader of UTF-8 undoes the writer (`decode_encode`). Each character is followed through the
states of the reader: its first byte promises what the others keep.
-/
import HdWallet.Unicode.Utf8
import Mathlib.Data.List.Basic

namespace HdWallet.Unicode.Utf8

/-! ## One byte -/

/-- A byte that goes on with a character, more being wanted. -/
theorem decodeFrom_inside_succ {index value taken wanted : Nat} {low high byte : UInt8}
    (hlow : low ≤ byte) (hhigh : byte ≤ high) (rest : List UInt8) :
    decodeFrom index (.inside value taken (wanted + 1) low high) (byte :: rest) =
      decodeFrom index (.inside (value * 64 + byte.toNat % 64) (taken + 1) wanted 0x80 0xBF) rest := by
  rw [decodeFrom, if_pos ⟨hlow, hhigh⟩]

/-- The last byte of a character. -/
theorem decodeFrom_inside_zero {index value taken : Nat} {low high byte : UInt8}
    (hlow : low ≤ byte) (hhigh : byte ≤ high) (rest : List UInt8) :
    decodeFrom index (.inside value taken 0 low high) (byte :: rest) =
      (decodeFrom (index + taken + 1) .between rest).map
        (Char.ofNat (value * 64 + byte.toNat % 64) :: ·) := by
  rw [decodeFrom, if_pos ⟨hlow, hhigh⟩]

theorem toNat_ofNat_of_lt {n : Nat} (h : n < 256) : (UInt8.ofNat n).toNat = n := by
  rw [UInt8.toNat_ofNat']
  exact Nat.mod_eq_of_lt h

/-- A byte behind the first: six bits of the character. -/
theorem tail_bounds (n : Nat) : 0x80 ≤ UInt8.ofNat (n % 64 + 0x80) ∧
    UInt8.ofNat (n % 64 + 0x80) ≤ 0xBF ∧ (UInt8.ofNat (n % 64 + 0x80)).toNat % 64 = n % 64 := by
  have h : n % 64 < 64 := Nat.mod_lt _ (by decide)
  have heq := toNat_ofNat_of_lt (n := n % 64 + 0x80) (by omega)
  refine ⟨?_, ?_, ?_⟩
  · rw [UInt8.le_iff_toNat_le, heq]
    exact Nat.le_add_left _ _
  · rw [UInt8.le_iff_toNat_le, heq]
    simp only [UInt8.reduceToNat]
    omega
  · rw [heq]
    omega

/-- The byte behind the first keeps the lower bound that the first may raise. -/
theorem le_tail {p : Prop} [Decidable p] {low : UInt8} {n : Nat}
    (h : p → low.toNat ≤ n % 64 + 0x80) :
    (if p then low else 0x80) ≤ UInt8.ofNat (n % 64 + 0x80) := by
  split
  · next hp =>
    rw [UInt8.le_iff_toNat_le, toNat_ofNat_of_lt (by omega)]
    exact h hp
  · exact (tail_bounds n).1

/-- The byte behind the first keeps the upper bound that the first may lower. -/
theorem tail_le {p : Prop} [Decidable p] {high : UInt8} {n : Nat}
    (h : p → n % 64 + 0x80 ≤ high.toNat) :
    UInt8.ofNat (n % 64 + 0x80) ≤ (if p then high else 0xBF) := by
  split
  · next hp =>
    rw [UInt8.le_iff_toNat_le, toNat_ofNat_of_lt (by omega)]
    exact h hp
  · exact (tail_bounds n).2.1

/-! ## First bytes -/

theorem decodeFrom_lead {index : Nat} {byte : UInt8} {lead : Lead} (h : ¬ byte < 0x80)
    (hl : Lead.ofByte? byte = some lead) (rest : List UInt8) :
    decodeFrom index .between (byte :: rest) =
      decodeFrom index (.inside lead.payload 1 (lead.following - 1) lead.low lead.high) rest := by
  rw [decodeFrom, if_neg h, hl]

theorem not_lt_of_lead {n : Nat} (h : 0x80 ≤ n) (h' : n < 256) : ¬ UInt8.ofNat n < 0x80 := by
  rw [UInt8.lt_iff_toNat_lt, toNat_ofNat_of_lt h']
  simpa using h

theorem ofByte?_two : ∀ n : Fin 32, 2 ≤ n.val →
    Lead.ofByte? (UInt8.ofNat (n + 0xC0)) = some ⟨n, 1, 0x80, 0xBF⟩ := by
  decide

theorem ofByte?_three : ∀ n : Fin 16, Lead.ofByte? (UInt8.ofNat (n + 0xE0)) =
    some ⟨n, 2, if n.val = 0 then 0xA0 else 0x80, if n.val = 13 then 0x9F else 0xBF⟩ := by
  decide

theorem ofByte?_four : ∀ n : Fin 5, Lead.ofByte? (UInt8.ofNat (n + 0xF0)) =
    some ⟨n, 3, if n.val = 0 then 0x90 else 0x80, if n.val = 4 then 0x8F else 0xBF⟩ := by
  decide

/-- The first of two bytes. -/
theorem decodeFrom_two {n : Nat} (h : 2 ≤ n) (h' : n < 32) (index : Nat) (rest : List UInt8) :
    decodeFrom index .between (UInt8.ofNat (n + 0xC0) :: rest) =
      decodeFrom index (.inside n 1 0 0x80 0xBF) rest :=
  decodeFrom_lead (not_lt_of_lead (by omega) (by omega)) (ofByte?_two ⟨n, h'⟩ h) rest

/-- The first of three bytes. -/
theorem decodeFrom_three {n : Nat} (h : n < 16) (index : Nat) (rest : List UInt8) :
    decodeFrom index .between (UInt8.ofNat (n + 0xE0) :: rest) =
      decodeFrom index (.inside n 1 1 (if n = 0 then 0xA0 else 0x80)
        (if n = 13 then 0x9F else 0xBF)) rest :=
  decodeFrom_lead (not_lt_of_lead (by omega) (by omega)) (ofByte?_three ⟨n, h⟩) rest

/-- The first of four bytes. -/
theorem decodeFrom_four {n : Nat} (h : n < 5) (index : Nat) (rest : List UInt8) :
    decodeFrom index .between (UInt8.ofNat (n + 0xF0) :: rest) =
      decodeFrom index (.inside n 1 2 (if n = 0 then 0x90 else 0x80)
        (if n = 4 then 0x8F else 0xBF)) rest :=
  decodeFrom_lead (not_lt_of_lead (by omega) (by omega)) (ofByte?_four ⟨n, h⟩) rest

/-! ## One character -/

theorem toNat_cases (c : Char) : c.toNat < 0xD800 ∨ (0xDFFF < c.toNat ∧ c.toNat < 0x110000) :=
  c.valid

/-- Reading the bytes of a character gives the character back. -/
theorem decodeFrom_utf8EncodeChar (index : Nat) (c : Char) (rest : List UInt8) :
    decodeFrom index .between (String.utf8EncodeChar c ++ rest) =
      (decodeFrom (index + (String.utf8EncodeChar c).length) .between rest).map (c :: ·) := by
  have hvalid := toNat_cases c
  have hval : c.val.toNat = c.toNat := rfl
  unfold String.utf8EncodeChar
  simp only [hval]
  split
  · next h₁ =>
    have heq := toNat_ofNat_of_lt (n := c.toNat) (by omega)
    have hlt : UInt8.ofNat c.toNat < 0x80 := by
      rw [UInt8.lt_iff_toNat_lt, heq]
      simp only [UInt8.reduceToNat]
      omega
    rw [List.singleton_append, decodeFrom, if_pos hlt, heq, Char.ofNat_toNat]
    rfl
  split
  · next h₁ h₂ =>
    have hmod : c.toNat / 64 % 32 = c.toNat / 64 := Nat.mod_eq_of_lt (by omega)
    obtain ⟨hlow, hhigh, htail⟩ := tail_bounds c.toNat
    simp only [List.cons_append, List.nil_append]
    rw [decodeFrom_two (by omega) (by omega), decodeFrom_inside_zero hlow hhigh, htail, hmod,
      Nat.div_add_mod', Char.ofNat_toNat]
    rfl
  split
  · next h₁ h₂ h₃ =>
    have hmod : c.toNat / 4096 % 16 = c.toNat / 4096 := Nat.mod_eq_of_lt (by omega)
    obtain ⟨-, -, htail₁⟩ := tail_bounds (c.toNat / 64)
    obtain ⟨hlow₂, hhigh₂, htail₂⟩ := tail_bounds c.toNat
    have hvalue : (c.toNat / 4096 * 64 + c.toNat / 64 % 64) * 64 + c.toNat % 64 = c.toNat := by
      omega
    simp only [List.cons_append, List.nil_append]
    rw [decodeFrom_three (by omega), decodeFrom_inside_succ,
      decodeFrom_inside_zero hlow₂ hhigh₂, htail₁, htail₂, hmod, hvalue,
      Char.ofNat_toNat]
    · rfl
    · refine le_tail fun _ => ?_
      simp only [UInt8.reduceToNat]
      omega
    · refine tail_le fun _ => ?_
      simp only [UInt8.reduceToNat]
      omega
  · next h₁ h₂ h₃ =>
    have hmod : c.toNat / 262144 % 8 = c.toNat / 262144 := Nat.mod_eq_of_lt (by omega)
    obtain ⟨-, -, htail₁⟩ := tail_bounds (c.toNat / 4096)
    obtain ⟨hlow₂, hhigh₂, htail₂⟩ := tail_bounds (c.toNat / 64)
    obtain ⟨hlow₃, hhigh₃, htail₃⟩ := tail_bounds c.toNat
    have hvalue : ((c.toNat / 262144 * 64 + c.toNat / 4096 % 64) * 64 + c.toNat / 64 % 64) * 64 +
        c.toNat % 64 = c.toNat := by
      omega
    simp only [List.cons_append, List.nil_append]
    rw [decodeFrom_four (by omega), decodeFrom_inside_succ,
      decodeFrom_inside_succ hlow₂ hhigh₂,
      decodeFrom_inside_zero hlow₃ hhigh₃, htail₁, htail₂, htail₃, hmod, hvalue, Char.ofNat_toNat]
    · rfl
    · refine le_tail fun _ => ?_
      simp only [UInt8.reduceToNat]
      omega
    · refine tail_le fun _ => ?_
      simp only [UInt8.reduceToNat]
      omega

/-! ## Texts -/

theorem decodeFrom_encode (index : Nat) (text : List Char) :
    decodeFrom index .between (encode text) = .ok text := by
  induction text generalizing index with
  | nil => rfl
  | cons c text ih =>
    have hstep : encode (c :: text) = String.utf8EncodeChar c ++ encode text := rfl
    rw [hstep, decodeFrom_utf8EncodeChar, ih]
    rfl

/-- **Reading undoes writing.** -/
theorem decode_encode (text : List Char) : decode (encode text) = .ok text :=
  decodeFrom_encode 0 text

/-- The bytes of a string are those it is held in. -/
theorem bytes_eq (text : String) : bytes text = text.toByteArray.data.toList := by
  rw [← String.utf8Encode_toList, List.utf8Encode, List.toList_data_toByteArray]
  rfl

end HdWallet.Unicode.Utf8
