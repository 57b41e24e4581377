/-
What a wallet holds and what its seed is stretched from. However a wallet was made, its phrase
is a normal form with words in it (`IsMade.inNormalForm`), so `Seed.stretch` takes the phrase
and leaves it as it is, and the seed of the wallet is the one that `stretch` gives.
-/
import HdWallet.Proofs.WalletMaking

namespace HdWallet

open Unicode

namespace Seed

/-! ## Stretching -/

/-- The phrases that `stretch` takes are those with a normal form to make a wallet of. -/
theorem stretch_of_normalize_ne {phrase : String} (passphrase : String)
    (h : Phrase.normalize phrase ≠ "") :
    stretch phrase passphrase = .ok (ofPhrase phrase passphrase) := by
  have htrim : trim phrase.toList ≠ [] := fun he => h (Phrase.normalize_eq_empty_iff_trim.2 he)
  rw [stretch, if_neg]
  simpa using htrim

/-- Only Form KD counts. -/
theorem ofPhrase_congr {a b p q : String} (hphrase : nfkd a = nfkd b) (hpass : nfkd p = nfkd q) :
    ofPhrase a p = ofPhrase b q := by
  rw [ofPhrase, ofPhrase, salt, salt, hphrase, hpass]

theorem nfkd_eq_empty_iff {text : String} : nfkd text = "" ↔ text = "" := by
  rw [nfkd, String.ofList_eq_empty_iff, compatibilityForm_eq_nil_iff, String.toList_eq_nil_iff]

/-- Only no passphrase at all leaves the salt bare. -/
theorem salt_eq_iff {passphrase : String} : salt passphrase = "mnemonic" ↔ passphrase = "" := by
  rw [salt, saltMark, ← nfkd_eq_empty_iff]
  constructor
  · intro h
    have hlist := congrArg String.toList h
    rw [String.toList_append, List.append_right_eq_self] at hlist
    rwa [String.toList_eq_nil_iff] at hlist
  · intro h
    rw [h]
    rfl

end Seed

namespace Wallet

/-! ## Which phrases make a wallet -/

/-- When a phrase makes a wallet, and when each of the two errors is given instead, with a word
list that keeps a state. -/
structure IsDecided {σ : Type} (wordList : WordList (StateM σ)) (before : σ) (language : Language)
    (phrase : String) (passphrase : Option String) : Prop where
  invalidInput_iff : (∃ reason, ((Wallet.ofPhraseWith wordList language phrase passphrase).run
    before).1 = .error (.invalidInput reason)) ↔ Phrase.normalize phrase = ""
  invalidMnemonic_iff : ((Wallet.ofPhraseWith wordList language phrase passphrase).run before).1 =
    .error .invalidMnemonic ↔ Phrase.normalize phrase ≠ "" ∧
      ((wordList.check language (Phrase.normalize phrase)).run before).1 = false
  ok_iff : ∀ wallet,
    ((Wallet.ofPhraseWith wordList language phrase passphrase).run before).1 = .ok wallet ↔
      Phrase.normalize phrase ≠ "" ∧
        ((wordList.check language (Phrase.normalize phrase)).run before).1 = true ∧
        wallet = ⟨Phrase.normalize phrase, passphrase.getD "", language⟩

theorem isDecided {σ : Type} (wordList : WordList (StateM σ)) (before : σ) (language : Language)
    (phrase : String) (passphrase : Option String) :
    IsDecided wordList before language phrase passphrase := by
  refine ⟨?_, ?_, fun wallet => ofPhraseWith_run_eq_ok_iff⟩
  all_goals
    by_cases h : Phrase.normalize phrase = ""
    · rw [ofPhraseWith_run_of_empty h]
      simp [h]
    · rw [ofPhraseWith_run_of_ne h]
      cases ((wordList.check language (Phrase.normalize phrase)).run before).1 with
      | false => simp [ofVerdict, h]
      | true => simp [ofVerdict, h]

/-! ## The wallets that there are -/

/-- The wallets made with a passphrase: of a phrase that a word list takes, of an entropy, or of
what a source of entropy gives. -/
inductive IsMade (passphrase : Option String) : Wallet → Prop
  | ofPhraseWith {σ : Type} {wordList : WordList (StateM σ)} {before : σ} {language : Language}
    {phrase : String} {wallet : Wallet} :
    ((Wallet.ofPhraseWith wordList language phrase passphrase).run before).1 = .ok wallet →
      IsMade passphrase wallet
  | ofPhrase {language : Language} {phrase : String} {wallet : Wallet} :
    Wallet.ofPhrase language phrase passphrase = .ok wallet → IsMade passphrase wallet
  | ofEntropy {language : Language} {entropy : List UInt8} {wallet : Wallet} :
    Wallet.ofEntropy language entropy passphrase = .ok wallet → IsMade passphrase wallet
  | generate {σ : Type} {source : EntropySource (StateM σ)} {before : σ} {language : Language}
    {words : Nat} {wallet : Wallet} :
    ((Wallet.generate source language words passphrase).run before).1 = .ok wallet →
      IsMade passphrase wallet

/-- A new wallet is one of an entropy. -/
theorem exists_ofEntropy_of_generate {σ : Type} {source : EntropySource (StateM σ)} {before : σ}
    {language : Language} {words : Nat} {passphrase : Option String} {wallet : Wallet}
    (h : ((Wallet.generate source language words passphrase).run before).1 = .ok wallet) :
    ∃ entropy, Wallet.ofEntropy language entropy passphrase = .ok wallet := by
  by_cases hwords : words ∈ Phrase.wordCounts
  · rw [generate_of_mem source language passphrase hwords, StateT.run_map] at h
    change ((source.fill _).run before).1.bind _ = _ at h
    cases hfill : ((source.fill (Bytes.zeros (words / 3 * 32 / 8))).run before).1 with
    | error error =>
      rw [hfill] at h
      cases h
    | ok entropy =>
      rw [hfill] at h
      exact ⟨_, h⟩
  · rw [generate_of_not_mem source language passphrase hwords] at h
    cases h

theorem eq_normalize_of_ofPhrase {language : Language} {phrase : String}
    {passphrase : Option String} {wallet : Wallet}
    (h : Wallet.ofPhrase language phrase passphrase = .ok wallet) :
    Phrase.normalize phrase ≠ "" ∧
      wallet = ⟨Phrase.normalize phrase, passphrase.getD "", language⟩ := by
  obtain ⟨hcheck, hwallet⟩ := ofPhrase_eq_ok_iff.1 h
  exact ⟨Phrase.normalize_ne_empty_of_check hcheck, hwallet⟩

/-- Every wallet is that of a phrase with words. -/
theorem IsMade.exists_phrase {passphrase : Option String} {wallet : Wallet}
    (h : IsMade passphrase wallet) : ∃ language phrase, Phrase.normalize phrase ≠ "" ∧
      wallet = ⟨Phrase.normalize phrase, passphrase.getD "", language⟩ := by
  cases h with
  | ofPhraseWith h =>
    obtain ⟨hne, -, hwallet⟩ := ofPhraseWith_run_eq_ok_iff.1 h
    exact ⟨_, _, hne, hwallet⟩
  | ofPhrase h => exact ⟨_, _, eq_normalize_of_ofPhrase h⟩
  | ofEntropy h =>
    obtain ⟨phrase, h⟩ := exists_ofPhrase_of_ofEntropy h
    exact ⟨_, _, eq_normalize_of_ofPhrase h⟩
  | generate h =>
    obtain ⟨entropy, h⟩ := exists_ofEntropy_of_generate h
    obtain ⟨phrase, h⟩ := exists_ofPhrase_of_ofEntropy h
    exact ⟨_, _, eq_normalize_of_ofPhrase h⟩

/-- A wallet whose phrase is a normal form with words in it. -/
structure InNormalForm (wallet : Wallet) : Prop where
  mnemonic_ne : wallet.mnemonic ≠ ""
  nfkd_eq : nfkd wallet.mnemonic = wallet.mnemonic
  normalize_eq : Phrase.normalize wallet.mnemonic = wallet.mnemonic
  wordCount_eq : wallet.wordCount = wallet.mnemonic.toList.count ' ' + 1

theorem inNormalForm_of_normalize {phrase passphrase : String} {language : Language}
    (h : Phrase.normalize phrase ≠ "") :
    InNormalForm ⟨Phrase.normalize phrase, passphrase, language⟩ where
  mnemonic_ne := h
  nfkd_eq := Phrase.nfkd_normalize phrase
  normalize_eq := Phrase.normalize_normalize phrase
  wordCount_eq := Phrase.wordCount_normalize_eq_count h

/-- **Every wallet holds a normal form**, and the passphrase that it was made with. -/
theorem IsMade.inNormalForm {passphrase : Option String} {wallet : Wallet}
    (h : IsMade passphrase wallet) :
    InNormalForm wallet ∧ wallet.passphrase = passphrase.getD "" := by
  obtain ⟨language, phrase, hne, rfl⟩ := h.exists_phrase
  exact ⟨inNormalForm_of_normalize hne, rfl⟩

/-! ## The seed of a wallet -/

/-- The phrase goes into the seed as it is shown. -/
theorem InNormalForm.seed_eq {wallet : Wallet} (h : InNormalForm wallet) :
    wallet.seed.bytes = Pbkdf2.derive (Utf8.bytes wallet.mnemonic)
      (Utf8.bytes (Seed.salt wallet.passphrase)) 2048 := by
  rw [seed, Seed.ofPhrase, h.nfkd_eq, Seed.rounds]

theorem InNormalForm.stretch_eq {wallet : Wallet} (h : InNormalForm wallet) :
    Seed.stretch wallet.mnemonic wallet.passphrase = .ok wallet.seed :=
  Seed.stretch_of_normalize_ne _ (h.normalize_eq.symm ▸ h.mnemonic_ne)

theorem hasPassphrase_eq_false_iff {wallet : Wallet} :
    wallet.hasPassphrase = false ↔ wallet.passphrase = "" := by
  rw [hasPassphrase, decide_eq_false_iff_not, not_not]

/-- **The seed of a wallet is the one that is stretched from what it shows.** A wallet is made of
exactly the phrases with words that the word list takes: whatever the list does to find out, it is
asked once, about the normal form, and not at all if that is empty. However a wallet was made, it
holds a normal form, which goes into the seed as it is; the salt is bare exactly without a
passphrase; wallets that show the same have the same seed; and the phrase that was typed gives the
same seed unless its white space makes a difference. -/
theorem seed_eq_stretch :
    (∀ (σ : Type) (wordList : WordList (StateM σ)) (before : σ) language phrase passphrase,
      IsDecided wordList before language phrase passphrase) ∧
    (∀ (m : Type → Type) [Monad m] [LawfulMonad m] (wordList : WordList m) (language : Language)
      (phrase : String) (passphrase : Option String),
      ofPhraseWith wordList language phrase passphrase =
        if Phrase.normalize phrase = "" then
          pure (.error (.invalidInput "mnemonic must not be empty"))
        else ofVerdict language (Phrase.normalize phrase) passphrase <$>
          wordList.check language (Phrase.normalize phrase)) ∧
    (∀ passphrase wallet, IsMade passphrase wallet →
      InNormalForm wallet ∧
      Seed.stretch wallet.mnemonic (passphrase.getD "") = .ok wallet.seed ∧
      wallet.seed.bytes = Pbkdf2.derive (Utf8.bytes wallet.mnemonic)
        (Utf8.bytes (Seed.salt (passphrase.getD ""))) 2048 ∧
      (Seed.salt (passphrase.getD "") = "mnemonic" ↔ wallet.hasPassphrase = false)) ∧
    (∀ p q a b, IsMade p a → IsMade q b → a.mnemonic = b.mnemonic →
      nfkd (p.getD "") = nfkd (q.getD "") → a.seed = b.seed) ∧
    ∀ (σ : Type) (wordList : WordList (StateM σ)) (before : σ) language phrase passphrase wallet,
      ((ofPhraseWith wordList language phrase passphrase).run before).1 = .ok wallet →
      nfkd phrase = Phrase.normalize phrase →
        Seed.stretch phrase (passphrase.getD "") = .ok wallet.seed := by
  refine ⟨fun σ => isDecided, ?_, ?_, ?_, ?_⟩
  · intro m _ _ wordList language phrase passphrase
    split
    · next h => exact ofPhraseWith_of_empty h
    · next h => exact ofPhraseWith_of_ne h
  · intro passphrase wallet hmade
    obtain ⟨hnormal, hpass⟩ := hmade.inNormalForm
    rw [← hpass, hasPassphrase_eq_false_iff]
    exact ⟨hnormal, hnormal.stretch_eq, hnormal.seed_eq, Seed.salt_eq_iff⟩
  · intro p q a b ha hb hmnemonic hpass
    rw [← ha.inNormalForm.2, ← hb.inNormalForm.2] at hpass
    exact Seed.ofPhrase_congr (congrArg nfkd hmnemonic) hpass
  · intro σ wordList before language phrase passphrase wallet h hnfkd
    obtain ⟨hne, -, rfl⟩ := ofPhraseWith_run_eq_ok_iff.1 h
    rw [Seed.stretch_of_normalize_ne _ hne]
    exact congrArg _ (Seed.ofPhrase_congr (hnfkd.trans (Phrase.nfkd_normalize phrase).symm) rfl)

/-- The wallet of sixteen zero bytes has the seed of its phrase with a bare salt. -/
theorem seed_abandon_about :
    ∃ wallet, IsMade none wallet ∧
      wallet.mnemonic = Phrase.join (List.replicate 11 "abandon" ++ ["about"]) ∧
      Seed.stretch wallet.mnemonic "" = .ok wallet.seed := by
  have hmade : IsMade none ⟨Phrase.join _, "", .english⟩ :=
    .ofEntropy (ofEntropy_of_encode Phrase.encode_abandon_about)
  exact ⟨_, hmade, rfl, (seed_eq_stretch.2.2.1 none _ hmade).2.1⟩

end Wallet

end HdWallet
