/-
Phrases and entropies stand for each other. `decode?` reads an entropy from a text exactly if
`encode` writes the normal form of the text for it (`decode?_eq_some_iff`), so what is written
is read back, different entropies have different phrases, and no text is taken for a phrase
that none of them has.
-/
import HdWallet.Proofs.NormalPhrase
import HdWallet.Proofs.Regrouping
import HdWallet.Proofs.WordLists

namespace HdWallet.Phrase

open Bits

/-! ## Entropies as numbers -/

theorem length_cases {entropy : List UInt8} (h : entropy.length ∈ entropyLengths) :
    entropy.length = 16 ∨ entropy.length = 20 ∨ entropy.length = 24 ∨ entropy.length = 28 ∨
      entropy.length = 32 := by
  simpa [entropyLengths] using h

theorem length_checksum {entropy : List UInt8} (h : entropy.length ∈ entropyLengths) :
    (checksum entropy).length = entropy.length / 4 := by
  have hlen := length_cases h
  rw [checksum, List.length_take, length_ofBytes, Bytes.length_toList]
  omega

/-- With its checksum, an entropy is as long as its words. -/
theorem length_ofBytes_checksum {entropy : List UInt8} (h : entropy.length ∈ entropyLengths) :
    (ofBytes entropy ++ checksum entropy).length = 11 * (3 * entropy.length / 4) := by
  have hlen := length_cases h
  rw [List.length_append, length_ofBytes, length_checksum h]
  omega

theorem length_wordNumbers {entropy : List UInt8} (h : entropy.length ∈ entropyLengths) :
    (wordNumbers entropy).length = 3 * entropy.length / 4 := by
  rw [wordNumbers, List.length_map, length_groups, length_ofBytes_checksum h,
    Nat.mul_div_cancel_left _ (by decide)]

theorem wordNumbers_lt {entropy : List UInt8} {n : Nat} (h : n ∈ wordNumbers entropy) : n < 2048 := by
  have hlt : n < 2 ^ 11 := toNat_lt_of_mem_groups h
  exact hlt

theorem flatMap_wordNumbers {entropy : List UInt8} (h : entropy.length ∈ entropyLengths) :
    (wordNumbers entropy).flatMap (ofNat 11) = ofBytes entropy ++ checksum entropy :=
  flatMap_ofNat_groups (length_ofBytes_checksum h ▸ Nat.dvd_mul_right _ _)

theorem length_wordNumbers_mem {entropy : List UInt8} (h : entropy.length ∈ entropyLengths) :
    (wordNumbers entropy).length ∈ wordCounts := by
  have hlen := length_cases h
  rw [length_wordNumbers h]
  simp only [wordCounts, List.mem_cons, List.not_mem_nil, or_false]
  omega

theorem entropyOf?_wordNumbers {entropy : List UInt8} (h : entropy.length ∈ entropyLengths) :
    entropyOf? (wordNumbers entropy) = some entropy := by
  have hlen := length_cases h
  have hcut : (wordNumbers entropy).length / 3 * 32 = (ofBytes entropy).length := by
    rw [length_wordNumbers h, length_ofBytes]
    omega
  simp only [entropyOf?]
  rw [flatMap_wordNumbers h, hcut, List.take_left, List.drop_left, toBytes_ofBytes,
    if_pos ⟨length_wordNumbers_mem h, rfl⟩]

theorem eq_wordNumbers_of_entropyOf? {numbers : List Nat} {entropy : List UInt8}
    (hlt : ∀ n ∈ numbers, n < 2048) (h : entropyOf? numbers = some entropy) :
    entropy.length ∈ entropyLengths ∧ wordNumbers entropy = numbers := by
  simp only [entropyOf?] at h
  split at h
  · next hif =>
    cases h
    obtain ⟨hcount, hsum⟩ := hif
    have hcount : numbers.length = 12 ∨ numbers.length = 15 ∨ numbers.length = 18 ∨
        numbers.length = 21 ∨ numbers.length = 24 := by
      simpa [wordCounts] using hcount
    have htake : ((numbers.flatMap (ofNat 11)).take (numbers.length / 3 * 32)).length =
        numbers.length / 3 * 32 := by
      rw [List.length_take, length_flatMap_ofNat]
      omega
    have hdvd : 8 ∣ ((numbers.flatMap (ofNat 11)).take (numbers.length / 3 * 32)).length := by
      rw [htake]
      omega
    refine ⟨?_, ?_⟩
    · rw [length_toBytes, htake]
      simp only [entropyLengths, List.mem_cons, List.not_mem_nil, or_false]
      omega
    · rw [wordNumbers, ofBytes_toBytes hdvd, ← hsum, List.take_append_drop]
      exact groups_flatMap_ofNat (by decide) hlt
  · cases h

/-! ## Entropies as words -/

/-- The words that stand for an entropy. -/
def wordsOf (language : Language) (entropy : List UInt8) : List String :=
  (wordNumbers entropy).map (language.words.getD · "")

theorem encode_of_mem {language : Language} {entropy : List UInt8}
    (h : entropy.length ∈ entropyLengths) :
    encode language entropy = .ok (join (wordsOf language entropy)) :=
  if_pos h

theorem encode_of_not_mem {language : Language} {entropy : List UInt8}
    (h : entropy.length ∉ entropyLengths) :
    encode language entropy = .error (.encoding <|
      "entropy was not between 128-256 bits or not a multiple of 32 bits: " ++
        s!"{8 * entropy.length} bits") :=
  if_neg h

theorem encode_eq_ok_iff {language : Language} {entropy : List UInt8} {phrase : String} :
    encode language entropy = .ok phrase ↔
      entropy.length ∈ entropyLengths ∧ join (wordsOf language entropy) = phrase := by
  by_cases h : entropy.length ∈ entropyLengths
  · rw [encode_of_mem h]
    simp [h]
  · rw [encode_of_not_mem h]
    simp [h]

theorem isToken_of_mem_words {language : Language} {word : String}
    (h : word ∈ language.words) : IsToken word :=
  ⟨Language.isWord_of_mem_words h, Language.isNormal_of_mem_words h⟩

theorem mem_words_of_mem_wordsOf {language : Language} {entropy : List UInt8} {word : String}
    (h : word ∈ wordsOf language entropy) : word ∈ language.words := by
  obtain ⟨n, hn, rfl⟩ := List.mem_map.1 h
  have hlt : n < language.words.length := language.length_words ▸ wordNumbers_lt hn
  exact getD_mem hlt ""

theorem isToken_of_mem_wordsOf {language : Language} {entropy : List UInt8} {word : String}
    (h : word ∈ wordsOf language entropy) : IsToken word :=
  isToken_of_mem_words (mem_words_of_mem_wordsOf h)

theorem length_wordsOf {language : Language} {entropy : List UInt8}
    (h : entropy.length ∈ entropyLengths) :
    (wordsOf language entropy).length = 3 * entropy.length / 4 := by
  rw [wordsOf, List.length_map, length_wordNumbers h]

/-! ## Reading and writing -/

/-- An entropy is read from a text exactly if its words are those of the text. -/
theorem decode?_eq_some_iff_wordsOf {language : Language} {text : String} {entropy : List UInt8} :
    decode? language text = some entropy ↔
      entropy.length ∈ entropyLengths ∧ wordsOf language entropy = tokens text := by
  rw [decode?, Option.bind_eq_some_iff]
  simp only [mapM_idxOf?_eq_some_iff language.nodup_words "", language.length_words]
  constructor
  · rintro ⟨numbers, ⟨hlt, htokens⟩, h⟩
    obtain ⟨hlen, hnumbers⟩ := eq_wordNumbers_of_entropyOf? hlt h
    exact ⟨hlen, by rw [wordsOf, hnumbers, htokens]⟩
  · rintro ⟨hlen, htokens⟩
    exact ⟨wordNumbers entropy, ⟨fun n hn => wordNumbers_lt hn, htokens⟩, entropyOf?_wordNumbers hlen⟩

/-- An entropy is read from a text exactly if the text is written for it, up to its normal
form. -/
theorem decode?_eq_some_iff {language : Language} {text : String} {entropy : List UInt8} :
    decode? language text = some entropy ↔ encode language entropy = .ok (normalize text) := by
  rw [decode?_eq_some_iff_wordsOf, encode_eq_ok_iff]
  refine and_congr_right fun hlen => ⟨fun h => by rw [h, normalize], fun h => ?_⟩
  have hwords : tokens (join (wordsOf language entropy)) = wordsOf language entropy :=
    tokens_join fun _ => isToken_of_mem_wordsOf
  rw [← hwords, h, tokens_normalize]

theorem normalize_of_encode {language : Language} {entropy : List UInt8} {phrase : String}
    (h : encode language entropy = .ok phrase) : normalize phrase = phrase := by
  obtain ⟨-, rfl⟩ := encode_eq_ok_iff.1 h
  exact normalize_join fun _ => isToken_of_mem_wordsOf

theorem decode?_of_encode {language : Language} {entropy : List UInt8} {phrase : String}
    (h : encode language entropy = .ok phrase) : decode? language phrase = some entropy := by
  rw [decode?_eq_some_iff, normalize_of_encode h, h]

theorem check_eq_true_iff {language : Language} {text : String} :
    check language text = true ↔ ∃ entropy, encode language entropy = .ok (normalize text) := by
  rw [check, Option.isSome_iff_exists]
  exact exists_congr fun entropy => decode?_eq_some_iff

theorem check_normalize (language : Language) (text : String) :
    check language (normalize text) = check language text := by
  rw [check, decode?, tokens_normalize, check, decode?]

/-- A text that is accepted has words. -/
theorem normalize_ne_empty_of_check {language : Language} {text : String}
    (h : check language text = true) : normalize text ≠ "" := by
  intro he
  rw [check, decode?, normalize_eq_empty_iff.1 he, List.mapM_nil] at h
  exact absurd h (by decide)

theorem encode_injective {language : Language} {a b : List UInt8} {phrase : String}
    (ha : encode language a = .ok phrase) (hb : encode language b = .ok phrase) : a = b :=
  Option.some.inj ((decode?_of_encode ha).symm.trans (decode?_of_encode hb))

/-- What is written for an entropy: three words of the language for each four bytes, in normal
form, and accepted. -/
structure IsWritten (language : Language) (entropy : List UInt8) (phrase : String) : Prop where
  length_tokens : (tokens phrase).length = 3 * entropy.length / 4
  mem_words : ∀ word ∈ tokens phrase, word ∈ language.words
  normalize_eq : normalize phrase = phrase
  check_eq : check language phrase = true

theorem isWritten_of_encode {language : Language} {entropy : List UInt8} {phrase : String}
    (h : encode language entropy = .ok phrase) : IsWritten language entropy phrase := by
  have hnormal := normalize_of_encode h
  have hcheck : check language phrase = true := check_eq_true_iff.2 ⟨entropy, by rw [hnormal, h]⟩
  obtain ⟨hlen, rfl⟩ := encode_eq_ok_iff.1 h
  have htokens : tokens (join (wordsOf language entropy)) = wordsOf language entropy :=
    tokens_join fun _ => isToken_of_mem_wordsOf
  refine ⟨?_, ?_, hnormal, hcheck⟩
  · rw [htokens, length_wordsOf hlen]
  · rw [htokens]
    exact fun word => mem_words_of_mem_wordsOf

/-- **Checking accepts exactly what is written.** Every entropy of the lengths listed has a
phrase, and no other has; no two have the same; and a text is accepted exactly if its normal
form is the phrase of an entropy, which is then the only one. -/
theorem encode_check_correspondence (language : Language) :
    (∀ entropy : List UInt8,
      if entropy.length ∈ [16, 20, 24, 28, 32] then
        ∃ phrase, encode language entropy = .ok phrase ∧ IsWritten language entropy phrase
      else ∃ reason, encode language entropy = .error (.encoding reason)) ∧
    (∀ a b phrase, encode language a = .ok phrase → encode language b = .ok phrase → a = b) ∧
    ∀ text, check language text = true ↔ ∃! entropy : List UInt8,
      entropy.length ∈ [16, 20, 24, 28, 32] ∧ encode language entropy = .ok (normalize text) := by
  refine ⟨fun entropy => ?_, fun a b phrase => encode_injective, fun text => ?_⟩
  · split
    · next hlen => exact ⟨_, encode_of_mem hlen, isWritten_of_encode (encode_of_mem hlen)⟩
    · next hlen => exact ⟨_, encode_of_not_mem hlen⟩
  · rw [check_eq_true_iff]
    constructor
    · rintro ⟨entropy, h⟩
      exact ⟨entropy, ⟨(encode_eq_ok_iff.1 h).1, h⟩, fun other ho => encode_injective ho.2 h⟩
    · rintro ⟨entropy, ⟨-, h⟩, -⟩
      exact ⟨entropy, h⟩

/-- The phrase of sixteen zero bytes. -/
theorem encode_abandon_about : encode .english (List.replicate 16 0) =
    .ok (join (List.replicate 11 "abandon" ++ ["about"])) := by
  have hwords : wordsOf .english (List.replicate 16 0) =
      List.replicate 11 "abandon" ++ ["about"] := by
    decide +kernel
  exact hwords ▸ encode_of_mem (by decide)

/-- The phrase of sixteen zero bytes stands for no other entropy. -/
theorem eq_of_encode_abandon_about :
    encode .english (List.replicate 16 0) =
        .ok (join (List.replicate 11 "abandon" ++ ["about"])) ∧
      ∀ entropy, encode .english entropy = .ok (join (List.replicate 11 "abandon" ++ ["about"])) →
        entropy = List.replicate 16 0 :=
  ⟨encode_abandon_about, fun entropy h =>
    (encode_check_correspondence .english).2.1 entropy _ _ h encode_abandon_about⟩

end HdWallet.Phrase
