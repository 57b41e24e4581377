/-
The reader of UTF-8 accepts exactly what the writer writes (`decode_eq_ok_iff`). Behind each byte of
a character the reader stands in a state in which whatever it waits for completes the character
(`IsInside`), so an input that ends there could have gone on, and a byte that it refuses continues
no character. What comes of a reading is therefore a text, or a text with a broken rest behind it
(`isReading_decodeFrom`).
-/
import HdWallet.Proofs.Utf8
import Mathlib

namespace HdWallet.Unicode.Utf8

/-! ## Characters by their bytes -/

/-- What the first byte of a longer character promises, by the number of bytes that follow. -/
theorem ofByte?_cases : ∀ n : Fin 256, ∀ lead ∈ Lead.ofByte? (UInt8.ofNat n),
    (0xC2 ≤ n.val ∧ n.val < 0xE0 ∧ lead = ⟨n - 0xC0, 1, 0x80, 0xBF⟩) ∨
    (0xE0 ≤ n.val ∧ n.val < 0xF0 ∧ lead = ⟨n - 0xE0, 2, if n.val = 0xE0 then 0xA0 else 0x80,
      if n.val = 0xED then 0x9F else 0xBF⟩) ∨
    (0xF0 ≤ n.val ∧ n.val < 0xF5 ∧ lead = ⟨n - 0xF0, 3, if n.val = 0xF0 then 0x90 else 0x80,
      if n.val = 0xF4 then 0x8F else 0xBF⟩) := by
  decide +kernel

theorem low_le_high : ∀ n : Fin 256, ∀ lead ∈ Lead.ofByte? (UInt8.ofNat n),
    lead.low ≤ lead.high := by
  decide +kernel

/-- The bytes behind the first one hold six bits each. -/
def IsTail (byte : UInt8) : Prop := 0x80 ≤ byte ∧ byte ≤ 0xBF

theorem isTail_iff {byte : UInt8} : IsTail byte ↔ 0x80 ≤ byte.toNat ∧ byte.toNat ≤ 0xBF := by
  rw [IsTail, UInt8.le_iff_toNat_le, UInt8.le_iff_toNat_le]
  rfl

theorem ofNat_eq_of_toNat (byte : UInt8) {n : Nat} (h : n = byte.toNat) : UInt8.ofNat n = byte := by
  rw [h, UInt8.ofNat_toNat]

theorem val_ofNat {n : Nat} (h : n < 0xD800 ∨ (0xDFFF < n ∧ n < 0x110000)) :
    (Char.ofNat n).val.toNat = n := by
  have hvalid : n.isValidChar := h
  exact (Char.toNat_ofNat n).trans (if_pos hvalid)

section

variable {first second third fourth : UInt8}

theorem utf8EncodeChar_two (hfirst : 0xC2 ≤ first.toNat ∧ first.toNat < 0xE0)
    (hsecond : IsTail second) :
    String.utf8EncodeChar (Char.ofNat ((first.toNat - 0xC0) * 64 + second.toNat % 64)) =
      [first, second] := by
  rw [isTail_iff] at hsecond
  unfold String.utf8EncodeChar
  simp only [val_ofNat (n := (first.toNat - 0xC0) * 64 + second.toNat % 64) (by omega)]
  rw [if_neg (by omega), if_pos (by omega), ofNat_eq_of_toNat first (by omega),
    ofNat_eq_of_toNat second (by omega)]

theorem utf8EncodeChar_three (hfirst : 0xE0 ≤ first.toNat ∧ first.toNat < 0xF0)
    (hsecond : IsTail second) (hlow : first.toNat = 0xE0 → 0xA0 ≤ second.toNat)
    (hhigh : first.toNat = 0xED → second.toNat ≤ 0x9F) (hthird : IsTail third) :
    String.utf8EncodeChar (Char.ofNat (((first.toNat - 0xE0) * 64 + second.toNat % 64) * 64 +
      third.toNat % 64)) = [first, second, third] := by
  rw [isTail_iff] at hsecond hthird
  unfold String.utf8EncodeChar
  simp only [val_ofNat (n := ((first.toNat - 0xE0) * 64 + second.toNat % 64) * 64 +
    third.toNat % 64) (by omega)]
  rw [if_neg (by omega), if_neg (by omega), if_pos (by omega),
    ofNat_eq_of_toNat first (by omega), ofNat_eq_of_toNat second (by omega),
    ofNat_eq_of_toNat third (by omega)]

theorem utf8EncodeChar_four (hfirst : 0xF0 ≤ first.toNat ∧ first.toNat < 0xF5)
    (hsecond : IsTail second) (hlow : first.toNat = 0xF0 → 0x90 ≤ second.toNat)
    (hhigh : first.toNat = 0xF4 → second.toNat ≤ 0x8F) (hthird : IsTail third)
    (hfourth : IsTail fourth) :
    String.utf8EncodeChar (Char.ofNat ((((first.toNat - 0xF0) * 64 + second.toNat % 64) * 64 +
      third.toNat % 64) * 64 + fourth.toNat % 64)) = [first, second, third, fourth] := by
  rw [isTail_iff] at hsecond hthird hfourth
  unfold String.utf8EncodeChar
  simp only [val_ofNat (n := (((first.toNat - 0xF0) * 64 + second.toNat % 64) * 64 +
    third.toNat % 64) * 64 + fourth.toNat % 64) (by omega)]
  rw [if_neg (by omega), if_neg (by omega), if_neg (by omega),
    ofNat_eq_of_toNat first (by omega), ofNat_eq_of_toNat second (by omega),
    ofNat_eq_of_toNat third (by omega), ofNat_eq_of_toNat fourth (by omega)]

end

/-! ## Inside a character -/

theorem encode_singleton (c : Char) : encode [c] = String.utf8EncodeChar c :=
  List.flatMap_singleton _ _

/-- The first bytes of a character, or all of them. -/
def IsStart (part : List UInt8) : Prop :=
  ∃ c, part <+: String.utf8EncodeChar c

/-- The first bytes of a character, but not all of them. -/
def IsProperStart (part : List UInt8) : Prop :=
  ∃ c more, more ≠ [] ∧ String.utf8EncodeChar c = part ++ more

/-- The reader inside a character, of which it has read a part: it goes on from there as it would
from the start, and what it waits for completes the character. -/
structure IsInside (part : List UInt8) (value taken wanted : Nat) (low high : UInt8) : Prop where
  length_eq : part.length = taken
  taken_pos : 0 < taken
  low_le_high : low ≤ high
  reads : ∀ index rest, decodeFrom index .between (part ++ rest) =
    decodeFrom index (.inside value taken wanted low high) rest
  completes : ∀ byte more, low ≤ byte → byte ≤ high → more.length = wanted →
    (∀ other ∈ more, IsTail other) → String.utf8EncodeChar (Char.ofNat (more.foldl
      (fun number other => number * 64 + other.toNat % 64) (value * 64 + byte.toNat % 64))) =
        part ++ byte :: more

/-- The bounds of the second byte, either of which some first bytes draw closer. -/
theorem isTail_of_bounds {p q : Prop} [Decidable p] [Decidable q] {low high byte : UInt8}
    (hlow : 0x80 ≤ low) (hhigh : high ≤ 0xBF) (h₁ : (if p then low else 0x80) ≤ byte)
    (h₂ : byte ≤ if q then high else 0xBF) :
    IsTail byte ∧ (p → low ≤ byte) ∧ (q → byte ≤ high) := by
  refine ⟨⟨?_, ?_⟩, fun hp => by rwa [if_pos hp] at h₁, fun hq => by rwa [if_pos hq] at h₂⟩
  · split at h₁
    · exact UInt8.le_trans hlow h₁
    · exact h₁
  · split at h₂
    · exact UInt8.le_trans h₂ hhigh
    · exact h₂

/-- The first byte of a longer character leads into it. -/
theorem isInside_lead {first : UInt8} {lead : Lead} (hbyte : ¬ first < 0x80)
    (hlead : Lead.ofByte? first = some lead) :
    IsInside [first] lead.payload 1 (lead.following - 1) lead.low lead.high := by
  have hreads : ∀ index rest, decodeFrom index .between (first :: rest) =
      decodeFrom index (.inside lead.payload 1 (lead.following - 1) lead.low lead.high) rest :=
    fun _ rest => decodeFrom_lead hbyte hlead rest
  have hmem : lead ∈ Lead.ofByte? (UInt8.ofNat first.toNat) := by
    rwa [UInt8.ofNat_toNat, Option.mem_def]
  have hbounds := low_le_high ⟨first.toNat, first.toNat_lt⟩ lead hmem
  have hcases := ofByte?_cases ⟨first.toNat, first.toNat_lt⟩ lead hmem
  simp only at hcases
  rcases hcases with ⟨hlow, hhigh, rfl⟩ | ⟨hlow, hhigh, rfl⟩ | ⟨hlow, hhigh, rfl⟩
  · refine ⟨rfl, Nat.one_pos, hbounds, hreads, fun second more h₁ h₂ hlen _ => ?_⟩
    obtain rfl : more = [] := List.length_eq_zero_iff.1 hlen
    exact utf8EncodeChar_two ⟨hlow, hhigh⟩ ⟨h₁, h₂⟩
  · refine ⟨rfl, Nat.one_pos, hbounds, hreads, fun second more h₁ h₂ hlen hmore => ?_⟩
    obtain ⟨third, rfl⟩ := List.length_eq_one_iff.1 hlen
    obtain ⟨hsecond, hsecondLow, hsecondHigh⟩ := isTail_of_bounds (by decide) (by decide) h₁ h₂
    exact utf8EncodeChar_three ⟨hlow, hhigh⟩ hsecond
      (fun h => UInt8.le_iff_toNat_le.1 (hsecondLow h))
      (fun h => UInt8.le_iff_toNat_le.1 (hsecondHigh h)) (hmore third (by simp))
  · refine ⟨rfl, Nat.one_pos, hbounds, hreads, fun second more h₁ h₂ hlen hmore => ?_⟩
    obtain ⟨third, fourth, rfl⟩ := List.length_eq_two.1 hlen
    obtain ⟨hsecond, hsecondLow, hsecondHigh⟩ := isTail_of_bounds (by decide) (by decide) h₁ h₂
    exact utf8EncodeChar_four ⟨hlow, hhigh⟩ hsecond
      (fun h => UInt8.le_iff_toNat_le.1 (hsecondLow h))
      (fun h => UInt8.le_iff_toNat_le.1 (hsecondHigh h)) (hmore third (by simp))
      (hmore fourth (by simp))

section

variable {part : List UInt8} {value taken wanted : Nat} {low high : UInt8}

/-- Another byte leads further into the character. -/
theorem IsInside.next {byte : UInt8} (h : IsInside part value taken (wanted + 1) low high)
    (hlow : low ≤ byte) (hhigh : byte ≤ high) :
    IsInside (part ++ [byte]) (value * 64 + byte.toNat % 64) (taken + 1) wanted 0x80 0xBF where
  length_eq := by rw [List.length_append, h.length_eq, List.length_singleton]
  taken_pos := Nat.succ_pos taken
  low_le_high := by decide
  reads index rest := by
    rw [List.append_assoc, List.singleton_append, h.reads, decodeFrom_inside_succ hlow hhigh]
  completes other more h₁ h₂ hlen hmore := by
    have hall := h.completes byte (other :: more) hlow hhigh (by rw [List.length_cons, hlen])
      (List.forall_mem_cons.2 ⟨⟨h₁, h₂⟩, hmore⟩)
    rwa [List.append_assoc, List.singleton_append]

/-- The last byte completes the character. -/
theorem IsInside.last {byte : UInt8} (h : IsInside part value taken 0 low high)
    (hlow : low ≤ byte) (hhigh : byte ≤ high) :
    String.utf8EncodeChar (Char.ofNat (value * 64 + byte.toNat % 64)) = part ++ [byte] :=
  h.completes byte [] hlow hhigh rfl (by simp)

/-- Whatever is read so far can go on. -/
theorem IsInside.isProperStart (h : IsInside part value taken wanted low high) :
    IsProperStart part := by
  have htail : IsTail 0x80 := ⟨UInt8.le_refl _, by decide⟩
  exact ⟨_, _, List.cons_ne_nil _ _, h.completes low (List.replicate wanted 0x80)
    (UInt8.le_refl _) h.low_le_high List.length_replicate fun other ho =>
      List.eq_of_mem_replicate ho ▸ htail⟩

/-- A byte out of bounds continues no character: the reader would take it if it did. -/
theorem IsInside.not_isStart {byte : UInt8} (h : IsInside part value taken wanted low high)
    (hbyte : ¬ (low ≤ byte ∧ byte ≤ high)) : ¬ IsStart (part ++ [byte]) := by
  rintro ⟨c, more, hmore⟩
  have hread := decodeFrom_encode 0 [c]
  rw [encode_singleton, ← hmore, List.append_assoc, List.singleton_append, h.reads, decodeFrom,
    if_neg hbyte] at hread
  cases hread

end

/-- A first byte that promises nothing starts no character. -/
theorem not_isStart_singleton {byte : UInt8} (hbyte : ¬ byte < 0x80)
    (hlead : Lead.ofByte? byte = none) : ¬ IsStart [byte] := by
  rintro ⟨c, more, hmore⟩
  have hread := decodeFrom_encode 0 [c]
  rw [encode_singleton, ← hmore, List.singleton_append, decodeFrom, if_neg hbyte, hlead] at hread
  cases hread

/-! ## Readings -/

/-- Where the reader stands behind the bytes of a character that it has read in part. -/
inductive Stands : List UInt8 → State → Prop
  | between : Stands [] .between
  | inside {part : List UInt8} {value taken wanted : Nat} {low high : UInt8}
    (h : IsInside part value taken wanted low high) :
    Stands part (.inside value taken wanted low high)

/-- What no character stands at the head of: the first bytes of one and a byte that does not go on
with it, or such bytes and nothing behind them. -/
inductive IsBroken (index : Nat) : List UInt8 → Fault → Prop
  | illFormed {start behind : List UInt8} {byte : UInt8} (hstart : IsProperStart start)
    (hbyte : ¬ IsStart (start ++ [byte])) :
    IsBroken index (start ++ byte :: behind) (.illFormed index (max 1 start.length))
  | incomplete {rest : List UInt8} (hne : rest ≠ []) (hstart : IsProperStart rest) :
    IsBroken index rest (.incomplete index)

/-- What comes of reading: the text that was written, or the fault of a broken rest behind one. -/
inductive IsReading (index : Nat) : List UInt8 → Except Fault (List Char) → Prop
  | ok (text : List Char) : IsReading index (encode text) (.ok text)
  | error {text : List Char} {rest : List UInt8} {fault : Fault}
    (h : IsBroken (index + (encode text).length) rest fault) :
    IsReading index (encode text ++ rest) (.error fault)

theorem encode_cons (c : Char) (text : List Char) :
    encode (c :: text) = String.utf8EncodeChar c ++ encode text := rfl

theorem IsReading.cons {index : Nat} {input : List UInt8} {result : Except Fault (List Char)}
    (c : Char) (h : IsReading (index + (String.utf8EncodeChar c).length) input result) :
    IsReading index (String.utf8EncodeChar c ++ input) (result.map (c :: ·)) := by
  cases h with
  | ok text => exact .ok (c :: text)
  | error h =>
    rw [← List.append_assoc, ← encode_cons]
    refine .error ?_
    rwa [encode_cons, List.length_append, ← Nat.add_assoc]

theorem IsReading.of_isBroken {index : Nat} {rest : List UInt8} {fault : Fault}
    (h : IsBroken index rest fault) : IsReading index rest (.error fault) :=
  @IsReading.error index [] rest fault h

theorem isProperStart_nil : IsProperStart [] :=
  ⟨'a', [0x61], by decide, by decide⟩

/-- **Every input is read as the text it is, or with the fault of its broken rest.** -/
theorem isReading_decodeFrom {part : List UInt8} {state : State} (h : Stands part state)
    (index : Nat) (input : List UInt8) :
    IsReading index (part ++ input) (decodeFrom index state input) := by
  induction input generalizing part state index with
  | nil =>
    rw [List.append_nil]
    cases h with
    | between => exact .ok []
    | inside h =>
      have hne : part ≠ [] := List.ne_nil_of_length_pos (h.length_eq ▸ h.taken_pos)
      exact .of_isBroken (.incomplete hne h.isProperStart)
  | cons byte input ih =>
    cases h with
    | between =>
      rw [List.nil_append, decodeFrom]
      split
      · next hascii =>
        have hchar : String.utf8EncodeChar (Char.ofNat byte.toNat) = [byte] := by
          rw [UInt8.lt_iff_toNat_lt] at hascii
          simp only [UInt8.reduceToNat] at hascii
          unfold String.utf8EncodeChar
          simp only [val_ofNat (n := byte.toNat) (by omega)]
          rw [if_pos (by omega), UInt8.ofNat_toNat]
        rw [← List.singleton_append, ← hchar]
        refine IsReading.cons _ ?_
        rw [hchar]
        exact ih .between (index + 1)
      · next hbyte =>
        split
        · next lead hlead => exact ih (.inside (isInside_lead hbyte hlead)) index
        · next hlead =>
          exact .of_isBroken (@IsBroken.illFormed _ [] input byte isProperStart_nil
            (not_isStart_singleton hbyte hlead))
    | inside h =>
      rw [decodeFrom]
      split
      · next hbounds =>
        rw [List.append_cons]
        dsimp only
        split
        · have hlast := h.last hbounds.1 hbounds.2
          rw [← hlast]
          refine IsReading.cons _ ?_
          rw [hlast, List.length_append, h.length_eq]
          exact ih .between _
        · exact ih (.inside (h.next hbounds.1 hbounds.2)) index
      · next hbounds =>
        have hlength : max 1 part.length = _ :=
          (Nat.max_eq_right (h.length_eq ▸ h.taken_pos)).trans h.length_eq
        rw [← hlength]
        exact .of_isBroken (.illFormed h.isProperStart (h.not_isStart hbounds))

/-! ## What is read -/

theorem eq_encode_of_decodeFrom {index : Nat} {input : List UInt8} {text : List Char}
    (h : decodeFrom index .between input = .ok text) : input = encode text := by
  have hreading : IsReading index input (decodeFrom index .between input) :=
    isReading_decodeFrom .between index input
  rw [h] at hreading
  cases hreading
  rfl

/-- **What is read as a text was written so.** -/
theorem decode_eq_ok_iff {input : List UInt8} {text : List Char} :
    decode input = .ok text ↔ input = encode text :=
  ⟨eq_encode_of_decodeFrom, fun h => h ▸ decode_encode text⟩

theorem bytes_injective {a b : String} (h : bytes a = bytes b) : a = b := by
  rw [← String.toList_inj, ← Except.ok.injEq (ε := Fault), ← decode_encode, ← decode_encode]
  exact congrArg decode h

theorem decodeFrom_encode_append (index : Nat) (text : List Char) (rest : List UInt8) :
    decodeFrom index .between (encode text ++ rest) =
      (decodeFrom (index + (encode text).length) .between rest).map (text ++ ·) := by
  induction text generalizing index with
  | nil => cases hrest : decodeFrom index .between rest <;> simp [encode, hrest, Except.map]
  | cons c text ih =>
    rw [encode_cons, List.append_assoc, decodeFrom_utf8EncodeChar, ih, List.length_append,
      Nat.add_assoc]
    cases decodeFrom (index + ((String.utf8EncodeChar c).length + (encode text).length))
      .between rest <;> rfl

/-- What stands behind a text in a longer one is a text. -/
theorem exists_encode_of_append {whole text : List Char} {rest : List UInt8}
    (h : encode whole = encode text ++ rest) :
    ∃ more, rest = encode more ∧ whole = text ++ more := by
  have hread := decodeFrom_encode 0 whole
  rw [h, decodeFrom_encode_append] at hread
  cases hrest : decodeFrom (0 + (encode text).length) .between rest with
  | error fault =>
    rw [hrest] at hread
    cases hread
  | ok more =>
    rw [hrest] at hread
    exact ⟨more, eq_encode_of_decodeFrom hrest, (Except.ok.inj hread).symm⟩

end HdWallet.Unicode.Utf8
