/-
Stretching from bytes is stretching from the texts that they are in UTF-8 (`stretchUtf8_bytes`).
Bytes that are no text are refused with a report that names the input they were given for and the
place and kind of the fault (`readText_eq_error_iff`), those of the phrase before anything else.
-/
import HdWallet.Proofs.ListResults
import HdWallet.Proofs.SeedStretching
import HdWallet.Proofs.Utf8Faults

namespace HdWallet.Seed

open Unicode

/-! ## One input -/

/-- What is said of bytes that are no text: the length of the longest head that is one, and whether
the end came too soon or else how many bytes behind the head start a character. -/
inductive IsReport (field : String) (input : List UInt8) : PhraseError → Prop
  | incomplete {index : Nat} (h : Utf8.IsFault input (.incomplete index)) :
    IsReport field input (.invalidInput (s!"{field} is not valid UTF-8: " ++
      s!"incomplete utf-8 byte sequence from index {index}"))
  | illFormed {index length : Nat} (h : Utf8.IsFault input (.illFormed index length)) :
    IsReport field input (.invalidInput (s!"{field} is not valid UTF-8: " ++
      s!"invalid utf-8 sequence of {length} bytes from index {index}"))

section

variable {field : String} {input : List UInt8}

theorem readText_of_ok {text : List Char} (h : Utf8.decode input = .ok text) :
    readText field input = .ok (String.ofList text) := by
  rw [readText, h]

theorem readText_of_error {fault : Utf8.Fault} (h : Utf8.decode input = .error fault) :
    readText field input =
      .error (.invalidInput s!"{field} is not valid UTF-8: {fault.message}") := by
  rw [readText, h]

theorem readText_eq_ok_iff {text : String} :
    readText field input = .ok text ↔ input = Utf8.bytes text := by
  rw [Utf8.bytes, ← Utf8.decode_eq_ok_iff]
  cases hd : Utf8.decode input with
  | ok found =>
    rw [readText_of_ok hd, Except.ok.injEq, Except.ok.injEq, ← String.toList_inj,
      String.toList_ofList]
  | error fault =>
    rw [readText_of_error hd]
    simp

/-- **Bytes that are no text are reported as they are.** -/
theorem readText_eq_error_iff {error : PhraseError} :
    readText field input = .error error ↔ IsReport field input error := by
  constructor
  · intro h
    cases hd : Utf8.decode input with
    | ok text =>
      rw [readText_of_ok hd] at h
      cases h
    | error fault =>
      rw [readText_of_error hd] at h
      cases h
      have hfault := Utf8.decode_eq_error_iff.1 hd
      cases fault with
      | illFormed index length => exact .illFormed hfault
      | incomplete index => exact .incomplete hfault
  · intro h
    cases h with
    | incomplete h => exact readText_of_error (Utf8.decode_eq_error_iff.2 h)
    | illFormed h => exact readText_of_error (Utf8.decode_eq_error_iff.2 h)

/-- Bytes are a text or have a report. -/
theorem exists_isReport_iff :
    (∃ error, IsReport field input error) ↔ ∀ text, input ≠ Utf8.bytes text := by
  simp only [← readText_eq_error_iff, ne_eq, ← @readText_eq_ok_iff field]
  cases readText field input <;> simp

theorem IsReport.eq {a b : PhraseError} (ha : IsReport field input a)
    (hb : IsReport field input b) : a = b := by
  rw [← readText_eq_error_iff] at ha hb
  exact Except.error.inj (ha.symm.trans hb)

end

/-! ## Two inputs -/

theorem stretchUtf8_bytes (phrase passphrase : String) :
    stretchUtf8 (Utf8.bytes phrase) (Utf8.bytes passphrase) = stretch phrase passphrase := by
  rw [stretchUtf8, readText_eq_ok_iff.2 rfl, ok_bind, readText_eq_ok_iff.2 rfl, ok_bind]

theorem stretchUtf8_of_phrase {phrase passphrase : List UInt8} {error : PhraseError}
    (h : IsReport "mnemonic" phrase error) : stretchUtf8 phrase passphrase = .error error := by
  rw [stretchUtf8, readText_eq_error_iff.2 h]
  rfl

theorem stretchUtf8_of_passphrase {phrase : String} {passphrase : List UInt8} {error : PhraseError}
    (h : IsReport "passphrase" passphrase error) :
    stretchUtf8 (Utf8.bytes phrase) passphrase = .error error := by
  rw [stretchUtf8, readText_eq_ok_iff.2 rfl, ok_bind, readText_eq_error_iff.2 h]
  rfl

theorem stretch_eq_error_iff_blank {phrase passphrase : String} :
    (∃ error, stretch phrase passphrase = .error error) ↔
      ∀ c ∈ phrase.toList, isWhiteSpace c = true := by
  rw [stretch_eq_error_iff, Phrase.normalize_eq_empty_iff_trim, trim_eq_nil_iff, words_eq_nil_iff]

/-- Two texts are refused for a blank phrase alone. -/
theorem stretchUtf8_eq_error_iff {phrase passphrase : List UInt8} :
    (∃ error, stretchUtf8 phrase passphrase = .error error) ↔
      (∀ text, phrase ≠ Utf8.bytes text) ∨ (∀ text, passphrase ≠ Utf8.bytes text) ∨
        ∃ text, phrase = Utf8.bytes text ∧ ∀ c ∈ text.toList, isWhiteSpace c = true := by
  by_cases hphrase : ∀ text, phrase ≠ Utf8.bytes text
  · obtain ⟨error, herror⟩ := exists_isReport_iff.2 hphrase
    exact iff_of_true ⟨error, stretchUtf8_of_phrase herror⟩ (.inl hphrase)
  · obtain ⟨text, rfl⟩ : ∃ text, phrase = Utf8.bytes text := by simpa using hphrase
    by_cases hpass : ∀ text, passphrase ≠ Utf8.bytes text
    · obtain ⟨error, herror⟩ := exists_isReport_iff.2 hpass
      exact iff_of_true ⟨error, stretchUtf8_of_passphrase herror⟩ (.inr (.inl hpass))
    · obtain ⟨secret, rfl⟩ : ∃ secret, passphrase = Utf8.bytes secret := by simpa using hpass
      rw [stretchUtf8_bytes, stretch_eq_error_iff_blank]
      constructor
      · exact fun h => .inr (.inr ⟨text, rfl, h⟩)
      · rintro (h | h | ⟨other, hother, h⟩)
        · exact absurd rfl (h text)
        · exact absurd rfl (h secret)
        · rwa [Utf8.bytes_injective hother]

/-- **Bytes are stretched as the texts that they are.** If the phrase is no text, its report is
given, whatever the passphrase; if the passphrase is none, its own, even where the phrase is blank;
nothing else is refused but a blank phrase. There is one report for an input. -/
theorem stretchUtf8_reads_texts :
    (∀ phrase passphrase,
      stretchUtf8 (Utf8.bytes phrase) (Utf8.bytes passphrase) = stretch phrase passphrase) ∧
    (∀ phrase passphrase, (∀ text, phrase ≠ Utf8.bytes text) →
      ∃ error, IsReport "mnemonic" phrase error ∧ stretchUtf8 phrase passphrase = .error error) ∧
    (∀ phrase passphrase, (∀ text, passphrase ≠ Utf8.bytes text) →
      ∃ error, IsReport "passphrase" passphrase error ∧
        stretchUtf8 (Utf8.bytes phrase) passphrase = .error error) ∧
    (∀ phrase passphrase, (∃ error, stretchUtf8 phrase passphrase = .error error) ↔
      (∀ text, phrase ≠ Utf8.bytes text) ∨ (∀ text, passphrase ≠ Utf8.bytes text) ∨
        ∃ text, phrase = Utf8.bytes text ∧ ∀ c ∈ text.toList, isWhiteSpace c = true) ∧
    ∀ field input error other, IsReport field input error → IsReport field input other →
      error = other := by
  refine ⟨stretchUtf8_bytes, fun phrase passphrase h => ?_, fun phrase passphrase h => ?_,
    fun _ _ => stretchUtf8_eq_error_iff, fun _ _ _ _ => IsReport.eq⟩
  · obtain ⟨error, herror⟩ := exists_isReport_iff.2 h
    exact ⟨error, herror, stretchUtf8_of_phrase herror⟩
  · obtain ⟨error, herror⟩ := exists_isReport_iff.2 h
    exact ⟨error, herror, stretchUtf8_of_passphrase herror⟩

/-- Half a surrogate pair is no text, and neither is a character that ends too soon. -/
theorem stretchUtf8_surrogate_euro :
    (∀ text, [0xED, 0xA0, 0x80] ≠ Utf8.bytes text) ∧ (∀ text, [0xE2, 0x82] ≠ Utf8.bytes text) ∧
      stretchUtf8 [0xED, 0xA0, 0x80] [0xE2, 0x82] = .error (.invalidInput
        "mnemonic is not valid UTF-8: invalid utf-8 sequence of 1 bytes from index 0") ∧
      stretchUtf8 (Utf8.bytes " ") [0xE2, 0x82] = .error (.invalidInput
        "passphrase is not valid UTF-8: incomplete utf-8 byte sequence from index 0") := by
  have hsurrogate : Utf8.decode [0xED, 0xA0, 0x80] = .error (.illFormed 0 1) := by decide +kernel
  have heuro : Utf8.decode [0xE2, 0x82] = .error (.incomplete 0) := by decide +kernel
  have hphrase : ∀ text, [0xED, 0xA0, 0x80] ≠ Utf8.bytes text := fun text =>
    (Utf8.decode_eq_error_iff.1 hsurrogate).ne_encode text.toList
  have hpass : ∀ text, [0xE2, 0x82] ≠ Utf8.bytes text := fun text =>
    (Utf8.decode_eq_error_iff.1 heuro).ne_encode text.toList
  obtain ⟨-, hfirst, hsecond, -, hreport⟩ := stretchUtf8_reads_texts
  obtain ⟨error, herror, hstretch⟩ := hfirst _ [0xE2, 0x82] hphrase
  obtain ⟨other, hother, hblank⟩ := hsecond " " _ hpass
  refine ⟨hphrase, hpass, ?_, ?_⟩
  · rw [hstretch, hreport _ _ _ _ herror (.illFormed (Utf8.decode_eq_error_iff.1 hsurrogate))]
    rfl
  · rw [hblank, hreport _ _ _ _ hother (.incomplete (Utf8.decode_eq_error_iff.1 heuro))]
    rfl

end HdWallet.Seed
