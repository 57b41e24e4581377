/-
How wallets are made: from a phrase, from an entropy and from a source of entropy. Each way
comes down to the one before it, so a wallet always holds the normal form of a phrase that its
word list takes (`ofPhraseWith_of_ne`, `ofPhrase_eq_ok_iff`).
-/
import HdWallet.Proofs.PhraseCoding
import HdWallet.Wallet
import Mathlib

namespace HdWallet

namespace Wallet

/-! ## From a phrase -/

/-- What becomes of a normal form, by the verdict of a word list. -/
def ofVerdict (language : Language) (mnemonic : String) (passphrase : Option String)
    (taken : Bool) : Except PhraseError Wallet :=
  if taken then .ok ⟨mnemonic, passphrase.getD "", language⟩ else .error .invalidMnemonic

section

variable {m : Type → Type} [Monad m] {wordList : WordList m} {language : Language}
  {phrase : String} {passphrase : Option String}

/-- A word list is not asked about a phrase without words. -/
theorem ofPhraseWith_of_empty (h : Phrase.normalize phrase = "") :
    ofPhraseWith wordList language phrase passphrase =
      pure (.error (.invalidInput "mnemonic must not be empty")) :=
  if_pos h

/-- A word list is asked once about any other phrase, and its verdict decides. -/
theorem ofPhraseWith_of_ne [LawfulMonad m] (h : Phrase.normalize phrase ≠ "") :
    ofPhraseWith wordList language phrase passphrase =
      ofVerdict language (Phrase.normalize phrase) passphrase <$>
        wordList.check language (Phrase.normalize phrase) := by
  rw [ofPhraseWith, if_neg h, map_eq_pure_bind]
  refine bind_congr fun taken => ?_
  cases taken <;> rfl

/-- Only the normal form of a phrase counts. -/
theorem ofPhraseWith_congr {other : String} (h : Phrase.normalize phrase = Phrase.normalize other) :
    ofPhraseWith wordList language phrase passphrase =
      ofPhraseWith wordList language other passphrase := by
  rw [ofPhraseWith, h, ofPhraseWith]

end

/-! ## With a word list that keeps a state -/

section

variable {σ : Type} {wordList : WordList (StateM σ)} {before : σ} {language : Language}
  {phrase : String} {passphrase : Option String}

theorem ofPhraseWith_run_of_empty (h : Phrase.normalize phrase = "") :
    (ofPhraseWith wordList language phrase passphrase).run before =
      (.error (.invalidInput "mnemonic must not be empty"), before) := by
  rw [ofPhraseWith_of_empty h]
  rfl

theorem ofPhraseWith_run_of_ne (h : Phrase.normalize phrase ≠ "") :
    (ofPhraseWith wordList language phrase passphrase).run before =
      (ofVerdict language (Phrase.normalize phrase) passphrase
          ((wordList.check language (Phrase.normalize phrase)).run before).1,
        ((wordList.check language (Phrase.normalize phrase)).run before).2) := by
  rw [ofPhraseWith_of_ne h]
  rfl

theorem ofPhraseWith_run_eq_ok_iff {wallet : Wallet} :
    ((ofPhraseWith wordList language phrase passphrase).run before).1 = .ok wallet ↔
      Phrase.normalize phrase ≠ "" ∧
      ((wordList.check language (Phrase.normalize phrase)).run before).1 = true ∧
      wallet = ⟨Phrase.normalize phrase, passphrase.getD "", language⟩ := by
  by_cases h : Phrase.normalize phrase = ""
  · simp [ofPhraseWith_run_of_empty h, h]
  · rw [ofPhraseWith_run_of_ne h]
    cases ((wordList.check language (Phrase.normalize phrase)).run before).1 with
    | false => simp [ofVerdict]
    | true => simp [ofVerdict, h, eq_comm]

end

/-! ## From a phrase of the standard -/

section

variable {language : Language} {phrase : String} {passphrase : Option String}

theorem ofPhrase_of_empty (h : Phrase.normalize phrase = "") :
    ofPhrase language phrase passphrase =
      .error (.invalidInput "mnemonic must not be empty") := by
  rw [ofPhrase, ofPhraseWith_of_empty h, Id.run_pure]

theorem ofPhrase_of_ne (h : Phrase.normalize phrase ≠ "") :
    ofPhrase language phrase passphrase =
      ofVerdict language (Phrase.normalize phrase) passphrase (Phrase.check language phrase) := by
  rw [ofPhrase, ofPhraseWith_of_ne h, Id.run_map, WordList.bip39, Id.run_pure,
    Phrase.check_normalize]

theorem ofPhrase_of_check (h : Phrase.check language phrase = true) :
    ofPhrase language phrase passphrase =
      .ok ⟨Phrase.normalize phrase, passphrase.getD "", language⟩ := by
  rw [ofPhrase_of_ne (Phrase.normalize_ne_empty_of_check h), h]
  rfl

theorem ofPhrase_of_refused (h : Phrase.normalize phrase ≠ "")
    (hc : Phrase.check language phrase = false) :
    ofPhrase language phrase passphrase = .error .invalidMnemonic := by
  rw [ofPhrase_of_ne h, hc]
  rfl

theorem ofPhrase_eq_ok_iff {wallet : Wallet} : ofPhrase language phrase passphrase = .ok wallet ↔
    Phrase.check language phrase = true ∧
      wallet = ⟨Phrase.normalize phrase, passphrase.getD "", language⟩ := by
  cases hc : Phrase.check language phrase with
  | true =>
    rw [ofPhrase_of_check hc]
    simp [eq_comm]
  | false =>
    by_cases h : Phrase.normalize phrase = ""
    · simp [ofPhrase_of_empty h]
    · simp [ofPhrase_of_refused h hc]

theorem ofPhrase_congr {other : String} (h : Phrase.normalize phrase = Phrase.normalize other) :
    ofPhrase language phrase passphrase = ofPhrase language other passphrase := by
  rw [ofPhrase, ofPhraseWith_congr h, ofPhrase]

end

/-! ## From an entropy -/

theorem ofEntropy_of_encode {language : Language} {entropy : List UInt8} {phrase : String}
    {passphrase : Option String} (h : Phrase.encode language entropy = .ok phrase) :
    ofEntropy language entropy passphrase = .ok ⟨phrase, passphrase.getD "", language⟩ := by
  have hwritten := Phrase.isWritten_of_encode h
  rw [ofEntropy, h]
  show ofPhrase language phrase passphrase = _
  rw [ofPhrase_of_check hwritten.check_eq, hwritten.normalize_eq]

theorem ofEntropy_of_not_mem {language : Language} {entropy : List UInt8}
    {passphrase : Option String} (h : entropy.length ∉ Phrase.entropyLengths) :
    ∃ reason, ofEntropy language entropy passphrase = .error (.encoding reason) := by
  rw [ofEntropy, Phrase.encode_of_not_mem h]
  exact ⟨_, rfl⟩

theorem exists_ofPhrase_of_ofEntropy {language : Language} {entropy : List UInt8}
    {passphrase : Option String} {wallet : Wallet}
    (h : ofEntropy language entropy passphrase = .ok wallet) :
    ∃ phrase, ofPhrase language phrase passphrase = .ok wallet := by
  rw [ofEntropy] at h
  cases hencode : Phrase.encode language entropy with
  | error e =>
    rw [hencode] at h
    cases h
  | ok phrase =>
    rw [hencode] at h
    exact ⟨phrase, h⟩

/-! ## From a source of entropy -/

/-- As many bytes as the source is asked for are those of an entropy. -/
theorem entropyLength_mem {words : Nat} (h : words ∈ Phrase.wordCounts) :
    words / 3 * 32 / 8 ∈ Phrase.entropyLengths := by
  revert words
  decide

theorem wordCount_of_entropyLength {words : Nat} (h : words ∈ Phrase.wordCounts) :
    3 * (words / 3 * 32 / 8) / 4 = words := by
  revert words
  decide

section

variable {m : Type → Type} [Monad m] [LawfulMonad m] (source : EntropySource m)
  (language : Language) (passphrase : Option String)

theorem generate_of_not_mem {words : Nat} (h : words ∉ Phrase.wordCounts) :
    generate source language words passphrase = pure (.error (.invalidWordCount words)) := by
  simp only [generate, Generator.generateWords, Generator.strengthOf, if_neg h, pure_bind]

/-- The source is asked once, and a wallet is made of what it gives. -/
theorem generate_of_mem {words : Nat} (h : words ∈ Phrase.wordCounts) :
    generate source language words passphrase =
      (fun filled => filled.bind fun entropy => ofEntropy language entropy.toList passphrase) <$>
        source.fill (Bytes.zeros (words / 3 * 32 / 8)) := by
  have hstrength : words / 3 * 32 ∈ Generator.strengths := by
    revert words
    decide
  simp only [generate, Generator.generateWords, Generator.strengthOf, if_pos h,
    Generator.generate, dif_pos hstrength, Bytes.take_zeros, bind_assoc, map_eq_pure_bind,
    Generator.standard]
  refine bind_congr fun filled => ?_
  cases filled with
  | error e => simp [Except.bind]
  | ok entropy =>
    -- The generator and `ofEntropy` both encode, and then both go on with `ofPhrase`.
    simp only [pure_bind, Except.bind, WordList.bip39]
    cases hencode : Phrase.encode language entropy.toList with
    | error e => simp [ofEntropy, hencode, bind, Except.bind]
    | ok phrase => simp [ofEntropy, hencode, bind, Except.bind]

end

end Wallet

end HdWallet
