/-
Recovery: a wallet is made again of the phrase that it shows, as it is or with its words
completed first. What the three ways to make a wallet can fail with is told along with it, so
there is a wallet to recover wherever one was asked for rightly (`made_wallets_recoverable`).
-/
import HdWallet.CommandLine.Run
import HdWallet.Proofs.WalletMaking

namespace HdWallet

namespace Phrase

/-! ## Completing whole words -/

/-- A word means itself, though other words may start with it. -/
theorem resolve_of_mem {words : List String} {token : String} (h : token ∈ words) :
    resolve words token = .ok token :=
  if_pos h

theorem mapM_resolve {words tokens : List String} (h : ∀ token ∈ tokens, token ∈ words) :
    tokens.mapM (resolve words) = .ok tokens := by
  induction tokens with
  | nil => rfl
  | cons token tokens ih =>
    rw [List.mapM_cons, resolve_of_mem (h token (by simp)),
      ih fun other ho => h other (List.mem_cons_of_mem _ ho)]
    rfl

theorem mem_words_of_check {language : Language} {text word : String}
    (h : check language text = true) (hw : word ∈ tokens text) : word ∈ language.words := by
  obtain ⟨entropy, hencode⟩ := check_eq_true_iff.1 h
  have hmem := (isWritten_of_encode hencode).mem_words
  rw [tokens_normalize] at hmem
  exact hmem word hw

/-- Completing a phrase that is accepted brings it to its normal form and no further. -/
theorem expand_of_check {language : Language} {text : String} (h : check language text = true) :
    expand language text = .ok (normalize text) := by
  rw [expand, mapM_resolve fun _ => mem_words_of_check h, normalize]
  rfl

end Phrase

namespace Wallet

/-! ## What is recovered -/

/-- A wallet that is made again, the same in every part, of the phrase that it shows. -/
structure IsRecoverable (language : Language) (passphrase : Option String) (wallet : Wallet) :
    Prop where
  expand_eq : Phrase.expand language wallet.mnemonic = .ok wallet.mnemonic
  ofPhrase_eq : ofPhrase language wallet.mnemonic passphrase = .ok wallet
  importWallet_eq : CommandLine.importWallet language wallet.mnemonic passphrase = .ok wallet

theorem isRecoverable_of_ofPhrase {language : Language} {phrase : String}
    {passphrase : Option String} {wallet : Wallet}
    (h : ofPhrase language phrase passphrase = .ok wallet) :
    IsRecoverable language passphrase wallet := by
  obtain ⟨hc, rfl⟩ := ofPhrase_eq_ok_iff.1 h
  rw [← Phrase.check_normalize] at hc
  have hexpand := Phrase.expand_of_check hc
  have hread : ofPhrase language (Phrase.normalize phrase) passphrase = .ok _ :=
    ofPhrase_of_check hc
  rw [Phrase.normalize_normalize] at hexpand hread
  refine ⟨hexpand, hread, ?_⟩
  simp only [CommandLine.importWallet, hexpand, bind, Except.bind, hread]

/-- A wallet that shows the words of an entropy, three for each four bytes. -/
structure IsOfEntropy (language : Language) (entropy : List UInt8) (passphrase : Option String)
    (wallet : Wallet) : Prop extends IsRecoverable language passphrase wallet where
  encode_eq : Phrase.encode language entropy = .ok wallet.mnemonic
  wordCount_eq : wallet.wordCount = 3 * entropy.length / 4

/-- The wallet of an entropy. -/
def ofWords (language : Language) (entropy : List UInt8) (passphrase : Option String) : Wallet where
  mnemonic := Phrase.join (Phrase.wordsOf language entropy)
  passphrase := passphrase.getD ""
  language := language

section

variable {language : Language} {entropy : List UInt8} (passphrase : Option String)
  (h : entropy.length ∈ Phrase.entropyLengths)

include h

theorem ofEntropy_of_mem :
    ofEntropy language entropy passphrase = .ok (ofWords language entropy passphrase) :=
  ofEntropy_of_encode (Phrase.encode_of_mem h)

theorem isOfEntropy_ofWords :
    IsOfEntropy language entropy passphrase (ofWords language entropy passphrase) := by
  have hencode : Phrase.encode language entropy =
      .ok (ofWords language entropy passphrase).mnemonic := Phrase.encode_of_mem h
  have hwritten := Phrase.isWritten_of_encode hencode
  have hread : ofPhrase language (ofWords language entropy passphrase).mnemonic passphrase =
      .ok (ofWords language entropy passphrase) := by
    rw [ofPhrase_of_check hwritten.check_eq, hwritten.normalize_eq, ofWords]
  refine ⟨isRecoverable_of_ofPhrase hread, hencode, ?_⟩
  rw [wordCount, ofWords, Phrase.wordCount_join fun _ => Phrase.isToken_of_mem_wordsOf,
    Phrase.length_wordsOf h]

end

/-! ## What new wallets are -/

/-- How the making of a new wallet may end: with a recoverable wallet of so many words, with the
refusal of the number of words, or with a failure of the source. -/
def IsNewOutcome (language : Language) (words : Nat) (passphrase : Option String) :
    Except PhraseError Wallet → Prop
  | .ok wallet => words ∈ [12, 15, 18, 21, 24] ∧ wallet.wordCount = words ∧
      IsRecoverable language passphrase wallet
  | .error (.invalidWordCount n) => words ∉ [12, 15, 18, 21, 24] ∧ n = words
  | .error (.entropy _) => words ∈ [12, 15, 18, 21, 24]
  | .error _ => False

/-- The bytes that the source is asked for make a wallet of as many words as wanted. -/
theorem wordCount_ofWords {language : Language} {words : Nat} {passphrase : Option String}
    (h : words ∈ Phrase.wordCounts) (entropy : Bytes (words / 3 * 32 / 8)) :
    IsOfEntropy language entropy.toList passphrase (ofWords language entropy.toList passphrase) ∧
      (ofWords language entropy.toList passphrase).wordCount = words := by
  have hmem : entropy.toList.length ∈ Phrase.entropyLengths :=
    entropy.length_toList.symm ▸ entropyLength_mem h
  have hof : IsOfEntropy language entropy.toList passphrase _ := isOfEntropy_ofWords passphrase hmem
  refine ⟨hof, ?_⟩
  rw [hof.wordCount_eq, entropy.length_toList, wordCount_of_entropyLength h]

/-- A new wallet is made of what the source gives, and of nothing else. -/
theorem generate_eq_map {m : Type → Type} [Monad m] [LawfulMonad m] (source : EntropySource m)
    {language : Language} {words : Nat} {passphrase : Option String}
    (h : words ∈ Phrase.wordCounts) :
    generate source language words passphrase =
      (fun filled => filled.map fun entropy => ofWords language entropy.toList passphrase) <$>
        source.fill (Bytes.zeros (words / 3 * 32 / 8)) := by
  rw [generate_of_mem source language passphrase h]
  refine congrArg (· <$> _) (funext fun filled => ?_)
  cases filled with
  | error e => rfl
  | ok entropy =>
    have hmem : entropy.toList.length ∈ Phrase.entropyLengths :=
      entropy.length_toList.symm ▸ entropyLength_mem h
    simp only [Except.bind, Except.map, ofEntropy_of_mem passphrase hmem]

theorem fill_ofSystem {m : Type → Type} [Monad m] [LawfulMonad m]
    (random : (n : Nat) → m (Except String (Bytes n))) (buffer : Bytes n) :
    (EntropySource.ofSystem random).fill buffer = Except.mapError .entropy <$> random n :=
  bind_pure_comp _ _

/-- With a system for a source, whatever the system gives decides between the outcomes. -/
theorem generate_ofSystem {m : Type → Type} [Monad m] [LawfulMonad m]
    (random : (n : Nat) → m (Except String (Bytes n))) (language : Language) (words : Nat)
    (passphrase : Option String) :
    ∃ outcome : Except String (Bytes (words / 3 * 32 / 8)) → Except PhraseError Wallet,
      (∀ given, IsNewOutcome language words passphrase (outcome given)) ∧
      generate (.ofSystem random) language words passphrase =
        if words ∈ Phrase.wordCounts then outcome <$> random (words / 3 * 32 / 8)
        else pure (.error (.invalidWordCount words)) := by
  by_cases h : words ∈ Phrase.wordCounts
  · refine ⟨fun given => (given.mapError .entropy).map fun entropy =>
      ofWords language entropy.toList passphrase, fun given => ?_, ?_⟩
    · cases given with
      | error reason => exact h
      | ok entropy =>
        obtain ⟨hof, hcount⟩ := wordCount_ofWords h entropy
        exact ⟨h, hcount, hof.toIsRecoverable⟩
    · rw [if_pos h, generate_eq_map _ h, fill_ofSystem, Functor.map_map]
  · refine ⟨fun _ => .error (.invalidWordCount words), fun _ => ⟨h, rfl⟩, ?_⟩
    rw [if_neg h, generate_of_not_mem _ language passphrase h]

/-- **Every wallet can be recovered of the phrase that it shows.** That is so of the wallets made
of a phrase; of those made of an entropy, which fails only if its length is none of those
listed; and of new ones, which are made of what the source gives and fail only if the number of
words is none of those listed or if the source does, which a system's source does with an error of
entropy. -/
theorem made_wallets_recoverable :
    (∀ language phrase passphrase wallet, ofPhrase language phrase passphrase = .ok wallet →
      IsRecoverable language passphrase wallet) ∧
    (∀ (language : Language) (entropy : List UInt8) (passphrase : Option String),
      if entropy.length ∈ [16, 20, 24, 28, 32] then
        ∃ wallet, ofEntropy language entropy passphrase = .ok wallet ∧
          IsOfEntropy language entropy passphrase wallet
      else ∃ reason, ofEntropy language entropy passphrase = .error (.encoding reason)) ∧
    (∀ (m : Type → Type) [Monad m] [LawfulMonad m] (source : EntropySource m)
      (language : Language) (words : Nat) (passphrase : Option String),
      if words ∈ [12, 15, 18, 21, 24] then
        ∃ wallet : Bytes (words / 3 * 32 / 8) → Wallet,
          (∀ entropy, IsOfEntropy language entropy.toList passphrase (wallet entropy) ∧
            (wallet entropy).wordCount = words) ∧
          generate source language words passphrase =
            (fun filled => filled.map wallet) <$> source.fill (Bytes.zeros (words / 3 * 32 / 8))
      else generate source language words passphrase =
        pure (.error (.invalidWordCount words))) ∧
    ∀ (m : Type → Type) [Monad m] [LawfulMonad m]
      (random : (n : Nat) → m (Except String (Bytes n))) (language : Language) (words : Nat)
      (passphrase : Option String),
      ∃ outcome : Except String (Bytes (words / 3 * 32 / 8)) → Except PhraseError Wallet,
        (∀ given, IsNewOutcome language words passphrase (outcome given)) ∧
        generate (.ofSystem random) language words passphrase =
          if words ∈ [12, 15, 18, 21, 24] then outcome <$> random (words / 3 * 32 / 8)
          else pure (.error (.invalidWordCount words)) := by
  refine ⟨fun _ _ _ _ => isRecoverable_of_ofPhrase, ?_, ?_, fun _ _ _ => generate_ofSystem⟩
  · intro language entropy passphrase
    split
    · next h => exact ⟨_, ofEntropy_of_mem passphrase h, isOfEntropy_ofWords passphrase h⟩
    · next h => exact ofEntropy_of_not_mem h
  · intro m _ _ source language words passphrase
    split
    · next h => exact ⟨_, wordCount_ofWords h, generate_eq_map source h⟩
    · next h => exact generate_of_not_mem source language passphrase h

/-- The wallet of the phrase of sixteen zero bytes is recoverable. -/
theorem recoverable_abandon_about :
    ∃ wallet, ofPhrase .english (Phrase.join (List.replicate 11 "abandon" ++ ["about"])) none =
        .ok wallet ∧
      IsRecoverable .english none wallet := by
  have hwritten := Phrase.isWritten_of_encode Phrase.encode_abandon_about
  have hread := made_wallets_recoverable.1 .english
    (Phrase.join (List.replicate 11 "abandon" ++ ["about"])) none _
    (ofPhrase_of_check hwritten.check_eq)
  exact ⟨_, ofPhrase_of_check hwritten.check_eq, hread⟩

end Wallet

end HdWallet
