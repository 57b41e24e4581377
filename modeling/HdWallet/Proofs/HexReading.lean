/-
Hexadecimal digits are read in either case. `Hex.IsDigit` lists them, and pairs of them are read as
the bytes that they spell once they are in lower case (`Hex.decodeChars?_eq_some_iff`). Whether a
text is such pairs is seen from its characters alone (`Hex.exists_decodeChars?_iff`).
-/
import HdWallet.Proofs.KeyTexts
import Mathlib

namespace HdWallet

namespace Hex

/-! ## Hexadecimal digits of either case -/

/-- A hexadecimal digit of either case. -/
def IsDigit (c : Char) : Prop :=
  c ∈ digits ++ ['A', 'B', 'C', 'D', 'E', 'F']

instance (c : Char) : Decidable (IsDigit c) :=
  inferInstanceAs (Decidable (c ∈ digits ++ ['A', 'B', 'C', 'D', 'E', 'F']))

theorem value?_eq_some_iff {c : Char} {value : Nat} :
    value? c = some value ↔ value < 16 ∧ digit value = c.toLower :=
  idxOf?_eq_some_iff_getD (by decide) '0'

theorem isDigit_of_toLower_mem {c : Char} (h : c.toLower ∈ digits) : IsDigit c := by
  by_cases hupper : c.val ≥ 'A'.val ∧ c.val ≤ 'Z'.val
  · have hall : ∀ n : Fin 26, (Char.ofNat (65 + n)).toLower ∈ digits →
        IsDigit (Char.ofNat (65 + n)) := by decide
    have hlow : 65 ≤ c.toNat := UInt32.le_iff_toNat_le.1 hupper.1
    have hhigh : c.toNat ≤ 90 := UInt32.le_iff_toNat_le.1 hupper.2
    have hc : Char.ofNat (65 + (c.toNat - 65)) = c := by
      rw [Nat.add_sub_cancel' hlow, Char.ofNat_toNat]
    have hdigit := hall ⟨c.toNat - 65, by omega⟩
    rw [hc] at hdigit
    exact hdigit h
  · rw [Char.toLower, dif_neg hupper] at h
    exact List.mem_append_left _ h

theorem isDigit_iff {c : Char} : IsDigit c ↔ ∃ value, value? c = some value := by
  have hall : (digits ++ ['A', 'B', 'C', 'D', 'E', 'F']).all (value? · |>.isSome) = true := by
    decide
  constructor
  · intro h
    exact Option.isSome_iff_exists.1 (List.all_eq_true.1 hall c h)
  · rintro ⟨value, h⟩
    obtain ⟨hlt, hdigit⟩ := value?_eq_some_iff.1 h
    exact isDigit_of_toLower_mem (hdigit ▸ getD_mem hlt '0')

theorem toNat_lt_of_isDigit {c : Char} (h : IsDigit c) : c.toNat < 128 := by
  have hall : (digits ++ ['A', 'B', 'C', 'D', 'E', 'F']).all (·.toNat < 128) = true := by decide
  simpa using List.all_eq_true.1 hall c h

theorem toList_encode (bytes : List UInt8) : (encode bytes).toList =
    bytes.flatMap fun byte => [digit (byte.toNat / 16), digit (byte.toNat % 16)] := by
  rw [encode, String.toList_ofList]

theorem length_encode (bytes : List UInt8) : (encode bytes).toList.length = 2 * bytes.length := by
  rw [toList_encode]
  induction bytes with
  | nil => rfl
  | cons byte bytes ih =>
    rw [List.flatMap_cons, List.length_append, ih, List.length_cons]
    simp only [List.length_cons, List.length_nil]
    omega

/-- **Digits are read as the bytes that they spell in either case.** -/
theorem decodeChars?_eq_some_iff {chars : List Char} {bytes : List UInt8} :
    decodeChars? chars = some bytes ↔ chars.map Char.toLower = (encode bytes).toList := by
  constructor
  · intro h
    fun_induction decodeChars? chars generalizing bytes with
    | case1 =>
      cases h
      rfl
    | case2 c => cases h
    | case3 high low rest ih =>
      simp only [Option.bind_eq_bind, Option.bind_eq_some_iff, value?_eq_some_iff] at h
      obtain ⟨a, ⟨ha, hhigh⟩, b, ⟨hb, hlow⟩, tail, htail, hbytes⟩ := h
      cases hbytes
      have hbyte : (UInt8.ofNat (16 * a + b)).toNat = 16 * a + b :=
        UInt8.toNat_ofNat_of_lt (show 16 * a + b < 256 by omega)
      have hdiv : (16 * a + b) / 16 = a := by omega
      have hmod : (16 * a + b) % 16 = b := by omega
      rw [toList_encode, List.flatMap_cons, hbyte, hdiv, hmod, hhigh, hlow, ← toList_encode,
        ← ih htail]
      rfl
  · intro h
    induction bytes generalizing chars with
    | nil =>
      have hnil : chars = [] := by simpa [toList_encode] using h
      rw [hnil, decodeChars?]
    | cons byte bytes ih =>
      rw [toList_encode, List.flatMap_cons, ← toList_encode] at h
      obtain ⟨high, chars, rfl, hhigh, h⟩ := List.map_eq_cons_iff.1 h
      obtain ⟨low, chars, rfl, hlow, h⟩ := List.map_eq_cons_iff.1 h
      have hbyte := byte.toNat_lt
      have hvalue : value? high = some (byte.toNat / 16) :=
        value?_eq_some_iff.2 ⟨by omega, hhigh.symm⟩
      have hvalue' : value? low = some (byte.toNat % 16) :=
        value?_eq_some_iff.2 ⟨by omega, hlow.symm⟩
      have hrest : decodeChars? chars = some bytes := ih h
      have hjoin : UInt8.ofNat (16 * (byte.toNat / 16) + byte.toNat % 16) = byte := by
        rw [Nat.div_add_mod, UInt8.ofNat_toNat]
      rw [decodeChars?, hvalue, hvalue', hrest]
      simp only [Option.bind_eq_bind, Option.bind_some, hjoin]
      rfl

theorem length_eq_of_decodeChars? {chars : List Char} {bytes : List UInt8}
    (h : decodeChars? chars = some bytes) : chars.length = 2 * bytes.length := by
  rw [← length_encode, ← decodeChars?_eq_some_iff.1 h, List.length_map]

/-- Nothing but pairs of digits is read. -/
theorem exists_decodeChars?_iff {chars : List Char} :
    (∃ bytes, decodeChars? chars = some bytes) ↔
      chars.length % 2 = 0 ∧ ∀ c ∈ chars, IsDigit c := by
  fun_induction decodeChars? chars with
  | case1 => simp
  | case2 c => simp
  | case3 high low rest ih =>
    simp only [Option.bind_eq_bind, Option.bind_eq_some_iff, List.forall_mem_cons, List.length_cons,
      isDigit_iff]
    simp only [isDigit_iff] at ih
    constructor
    · rintro ⟨bytes, a, ha, b, hb, tail, htail, -⟩
      obtain ⟨heven, hrest⟩ := ih.1 ⟨tail, htail⟩
      exact ⟨by omega, ⟨a, ha⟩, ⟨b, hb⟩, hrest⟩
    · rintro ⟨heven, ⟨a, ha⟩, ⟨b, hb⟩, hrest⟩
      obtain ⟨tail, htail⟩ := ih.2 ⟨by omega, hrest⟩
      exact ⟨_, a, ha, b, hb, tail, htail, rfl⟩

end Hex

end HdWallet
