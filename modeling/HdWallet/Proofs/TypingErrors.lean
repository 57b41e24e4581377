/-
A typing error never makes the text of one key the text of another. A character stands for five
bits, so texts that agree but for two characters side by side are those of frames whose bits agree
but for ten in a row (`Base32.take_ofBytes`, `Base32.drop_ofBytes`), and the check value behind a
key does not leave so short a run unseen.
-/
import HdWallet.Proofs.BurstErrors
import HdWallet.Proofs.StrKeyCoding

namespace HdWallet

/-! ## Items of one size -/

section

variable {f : α → List β} {size : Nat} (hf : ∀ a, (f a).length = size)

include hf

theorem take_flatMap (items : List α) (i : Nat) :
    (items.flatMap f).take (i * size) = (items.take i).flatMap f := by
  induction items generalizing i with
  | nil => simp
  | cons a items ih =>
    cases i with
    | zero => simp
    | succ i =>
      rw [List.flatMap_cons, List.take_succ_cons, List.flatMap_cons, ← ih, List.take_append, hf,
        List.take_of_length_le (by rw [hf, Nat.succ_mul]; omega), Nat.succ_mul,
        Nat.add_sub_cancel]

theorem drop_flatMap (items : List α) (i : Nat) :
    (items.flatMap f).drop (i * size) = (items.drop i).flatMap f := by
  induction items generalizing i with
  | nil => simp
  | cons a items ih =>
    cases i with
    | zero => simp
    | succ i =>
      rw [List.flatMap_cons, List.drop_succ_cons, ← ih, List.drop_append, hf,
        List.drop_eq_nil_of_le (by rw [hf, Nat.succ_mul]; omega), Nat.succ_mul,
        Nat.add_sub_cancel, List.nil_append]

end

namespace Base32

open Bits

/-! ## The bits of a text -/

/-- The bits that a character stands for. -/
def bitsOf (c : Char) : List Bool :=
  ofNat 5 (alphabet.idxOf c)

theorem length_bitsOf (c : Char) : (bitsOf c).length = 5 :=
  length_ofNat 5 _

theorem bitsOf_getD {n : Nat} (h : n < 32) : bitsOf (alphabet.getD n 'A') = ofNat 5 n := by
  have hn : n < alphabet.length := h
  rw [bitsOf, List.getD_eq_getElem _ _ hn, nodup_alphabet.idxOf_getElem]

/-- Where the bytes fill up their last character, the characters stand for the bits of the bytes
and no more. -/
theorem flatMap_bitsOf_encode {bytes : List UInt8} (h : 5 ∣ bytes.length) :
    (encode bytes).toList.flatMap bitsOf = ofBytes bytes := by
  have hnone : (5 - (ofBytes bytes).length % 5) % 5 = 0 := by
    rw [length_ofBytes]
    omega
  calc (encode bytes).toList.flatMap bitsOf
    _ = (valuesOf bytes).flatMap (fun n => bitsOf (alphabet.getD n 'A')) := by
      rw [toList_encode, List.flatMap_map]
    _ = (valuesOf bytes).flatMap (ofNat 5) :=
      List.flatMap_congr fun n hn => bitsOf_getD (toNat_lt_of_mem_groups hn)
    _ = ofBytes bytes := by
      rw [flatMap_valuesOf, fill, hnone, List.replicate_zero, List.append_nil]

section

variable {bytes : List UInt8} (h : 5 ∣ bytes.length) (i : Nat)

include h

theorem take_ofBytes :
    (ofBytes bytes).take (i * 5) = ((encode bytes).toList.take i).flatMap bitsOf := by
  rw [← flatMap_bitsOf_encode h, take_flatMap length_bitsOf]

theorem drop_ofBytes :
    (ofBytes bytes).drop (i * 5) = ((encode bytes).toList.drop i).flatMap bitsOf := by
  rw [← flatMap_bitsOf_encode h, drop_flatMap length_bitsOf]

end

end Base32

namespace StrKey

/-! ## Mistyped texts -/

/-- A text as it may be typed: with as many characters, and all of them the same but for those at
place `i` and the next, which may be any. Typing one character for another is such an error, and so
is typing two side by side in the wrong order. -/
structure TypedFor (i : Nat) (typed text : String) : Prop where
  length_eq : typed.toList.length = text.toList.length
  getElem?_eq : ∀ j, j ≠ i → j ≠ i + 1 → typed.toList[j]? = text.toList[j]?

theorem typedFor_iff {i : Nat} {typed text : String} :
    TypedFor i typed text ↔ typed.toList.length = text.toList.length ∧
      typed.toList.take i = text.toList.take i ∧
      typed.toList.drop (i + 2) = text.toList.drop (i + 2) := by
  constructor
  · rintro ⟨hlen, hsame⟩
    refine ⟨hlen, List.ext_getElem? fun j => ?_, List.ext_getElem? fun j => ?_⟩
    · rw [List.getElem?_take, List.getElem?_take]
      split
      · exact hsame j (by omega) (by omega)
      · rfl
    · rw [List.getElem?_drop, List.getElem?_drop]
      exact hsame (i + 2 + j) (by omega) (by omega)
  · rintro ⟨hlen, htake, hdrop⟩
    refine ⟨hlen, fun j hi hnext => ?_⟩
    rcases Nat.lt_or_ge j i with hlt | hge
    · rw [← List.getElem?_take_of_lt hlt, htake, List.getElem?_take_of_lt hlt]
    · obtain ⟨k, rfl⟩ : ∃ k, j = i + 2 + k := ⟨j - (i + 2), by omega⟩
      rw [← List.getElem?_drop, hdrop, List.getElem?_drop]

theorem frame_eq_checked (kind : StrKey) (key : Bytes 32) :
    frame kind key = Crc16.checked (kind.version :: key.toList) := rfl

/-- No text of a key is mistyped for the text of another. -/
theorem encode_eq_of_typedFor {i : Nat} {a b : StrKey} {j k : Bytes 32}
    (h : TypedFor i (encode a j) (encode b k)) : encode a j = encode b k := by
  obtain ⟨-, htake, hdrop⟩ := typedFor_iff.1 h
  have hdvd : ∀ kind key, 5 ∣ (frame kind key).length := fun kind key => by
    rw [length_frame]
    decide
  have hbefore : (Bits.ofBytes (frame a j)).take (i * 5) =
      (Bits.ofBytes (frame b k)).take (i * 5) := by
    rw [Base32.take_ofBytes (hdvd a j), Base32.take_ofBytes (hdvd b k)]
    exact congrArg (List.flatMap Base32.bitsOf) htake
  have hbehind : (Bits.ofBytes (frame a j)).drop ((i + 2) * 5) =
      (Bits.ofBytes (frame b k)).drop ((i + 2) * 5) := by
    rw [Base32.drop_ofBytes (hdvd a j), Base32.drop_ofBytes (hdvd b k)]
    exact congrArg (List.flatMap Base32.bitsOf) hdrop
  have hend : (i + 2) * 5 = i * 5 + 10 := by omega
  have hlen : (a.version :: j.toList).length = (b.version :: k.toList).length := by
    rw [List.length_cons, List.length_cons, j.length_toList, k.length_toList]
  rw [frame_eq_checked, frame_eq_checked] at hbefore hbehind
  have hbody := Crc16.eq_of_window hlen hbefore (hend ▸ hbehind)
  rw [encode, frame_eq_checked, hbody, encode, frame_eq_checked]

/-- **A mistyped text is refused.** Take the text of any key of either kind, and put any other
characters in the place of one of its characters or of two side by side: neither as an account id
nor as a secret seed is what comes of it the text of a key. -/
theorem decode_of_typedFor {kind : StrKey} {key : Bytes 32} {i : Nat} {typed : String}
    (h : TypedFor i typed (encode kind key)) (hne : typed ≠ encode kind key) (reader : StrKey) :
    decode reader typed = .error .invalidStrKey := by
  refine decode_eq_error_iff.2 fun other htyped => hne ?_
  rw [htyped] at h ⊢
  exact encode_eq_of_typedFor h

/-- The text of the account id that is all zeros ends in WHF. With the W and the H in the wrong
order it is refused. -/
theorem decode_zeros_transposed :
    TypedFor 53 "GAAAAAAAAAAAAAAAAAAAAAAAAAAAAAAAAAAAAAAAAAAAAAAAAAAAAHWF"
      (encode .accountId (Bytes.zeros 32)) ∧
    "GAAAAAAAAAAAAAAAAAAAAAAAAAAAAAAAAAAAAAAAAAAAAAAAAAAAAHWF" ≠
      encode .accountId (Bytes.zeros 32) ∧
    decode .accountId "GAAAAAAAAAAAAAAAAAAAAAAAAAAAAAAAAAAAAAAAAAAAAAAAAAAAAHWF" =
      .error .invalidStrKey := by
  have htext : encode .accountId (Bytes.zeros 32) =
      "GAAAAAAAAAAAAAAAAAAAAAAAAAAAAAAAAAAAAAAAAAAAAAAAAAAAAWHF" := by
    decide +kernel
  have htyped : TypedFor 53 "GAAAAAAAAAAAAAAAAAAAAAAAAAAAAAAAAAAAAAAAAAAAAAAAAAAAAHWF"
      (encode .accountId (Bytes.zeros 32)) := by
    rw [htext, typedFor_iff]
    decide +kernel
  have hne : "GAAAAAAAAAAAAAAAAAAAAAAAAAAAAAAAAAAAAAAAAAAAAAAAAAAAAHWF" ≠
      encode .accountId (Bytes.zeros 32) := by
    rw [htext]
    decide
  exact ⟨htyped, hne, decode_of_typedFor htyped hne .accountId⟩

end StrKey

end HdWallet
