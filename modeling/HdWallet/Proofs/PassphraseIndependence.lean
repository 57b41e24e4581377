/-
The passphrase decides the keys and nothing else. Two wallets of one phrase differ in their keys
at most: whether there is an account, and which error is given if not, is decided by the index
(`alike_account`, `alike_accounts`), and what is checked of a phrase is checked without the
passphrase (`alike_ofPhraseWith`). So two imports that differ in their passphrases end alike, and
what they show differs in the keys and in the line that tells that there is a passphrase
(`sameOutcome_importOutcome`).
-/
import HdWallet.Proofs.ImportOutput

namespace HdWallet

/-! ## Results that are alike -/

/-- Two results that fail with the same error, or succeed with values that belong together. -/
inductive Alike (same : α → β → Prop) : Except ε α → Except ε β → Prop
  | error (e : ε) : Alike same (.error e) (.error e)
  | ok {a : α} {b : β} : same a b → Alike same (.ok a) (.ok b)

namespace Alike

theorem bind {same : α → β → Prop} {same' : γ → δ → Prop} {x : Except ε α} {y : Except ε β}
    {f : α → Except ε γ} {g : β → Except ε δ} (h : Alike same x y)
    (hfg : ∀ a b, same a b → Alike same' (f a) (g b)) : Alike same' (x.bind f) (y.bind g) := by
  cases h with
  | error e => exact .error e
  | ok hab => exact hfg _ _ hab

theorem mapError {same : α → β → Prop} {x : Except ε α} {y : Except ε β} (h : Alike same x y)
    (f : ε → ζ) : Alike same (x.mapError f) (y.mapError f) := by
  cases h with
  | error e => exact .error (f e)
  | ok hab => exact .ok hab

theorem map {same : α → β → Prop} {same' : γ → δ → Prop} {x : Except ε α} {y : Except ε β}
    {f : α → γ} {g : β → δ} (h : Alike same x y) (hfg : ∀ a b, same a b → same' (f a) (g b)) :
    Alike same' (x.map f) (y.map g) := by
  cases h with
  | error e => exact .error e
  | ok hab => exact .ok (hfg _ _ hab)

end Alike

namespace Wallet

/-! ## Accounts of two wallets -/

/-- Two accounts at the same place: they differ in their keys at most. -/
structure SamePlace (a b : Account) : Prop where
  index_eq : a.index = b.index
  path_eq : a.path = b.path

theorem samePlace_ofKey (index : UInt32) (j k : Bytes 32) :
    SamePlace (.ofKey index j) (.ofKey index k) := ⟨rfl, rfl⟩

section

variable (a b : Wallet)

/-- The index alone decides whether there is a key. -/
theorem alike_accountKey (index : UInt32) :
    Alike (fun _ _ => True) (a.accountKey index) (b.accountKey index) := by
  by_cases h : index < ExtendedKey.firstHardenedIndex
  · rw [a.accountKey_of_lt h, b.accountKey_of_lt h]
    exact .ok trivial
  · have hle := UInt32.not_lt.1 h
    rw [(a.keys_of_le hle).2.1, (b.keys_of_le hle).2.1]
    exact .error _

theorem alike_keypair (index : UInt32) :
    Alike (fun _ _ => True) (a.keypair index) (b.keypair index) :=
  (alike_accountKey a b index).map fun _ _ _ => trivial

theorem alike_account (index : UInt32) :
    Alike SamePlace (a.account index) (b.account index) := by
  by_cases h : index < ExtendedKey.firstHardenedIndex
  · rw [a.account_of_lt h, b.account_of_lt h]
    exact .ok (samePlace_ofKey index _ _)
  · have hle := UInt32.not_lt.1 h
    rw [(a.keys_of_le hle).1, (b.keys_of_le hle).1]
    exact .error _

theorem samePlace_batch (start count : Nat) :
    List.Forall₂ SamePlace (a.batch start count) (b.batch start count) := by
  rw [batch, batch, List.forall₂_map_left_iff, List.forall₂_map_right_iff, List.forall₂_same]
  exact fun index _ => samePlace_ofKey _ _ _

/-- The range alone decides whether there are accounts. -/
theorem alike_accounts (start count : UInt32) :
    Alike (List.Forall₂ SamePlace) (a.accounts start count) (b.accounts start count) := by
  by_cases hstart : 2 ^ 31 ≤ start.toNat
  · rw [a.accounts_of_start_le hstart, b.accounts_of_start_le hstart]
    exact .error _
  have hstart := Nat.lt_of_not_le hstart
  by_cases hstop : 2 ^ 31 < start.toNat + count.toNat
  · obtain ⟨-, i, ha, hi, -⟩ := a.accounts_of_lt_stop hstart hstop
    obtain ⟨-, j, hb, hj, -⟩ := b.accounts_of_lt_stop hstart hstop
    have hij : i = j := UInt32.toNat_inj.1 (hi.trans hj.symm)
    rw [ha, hb, hij]
    exact .error _
  · have hle := Nat.le_of_not_lt hstop
    rw [a.accounts_of_stop_le hstart hle, b.accounts_of_stop_le hstart hle]
    exact .ok (samePlace_batch a b _ _)

end

/-! ## Wallets of one phrase -/

/-- Two wallets that differ in their passphrases and keys at most. -/
structure SameButPassphrase (p q : Option String) (a b : Wallet) : Prop where
  mnemonic_eq : a.mnemonic = b.mnemonic
  language_eq : a.language = b.language
  wordCount_eq : a.wordCount = b.wordCount
  passphrase_eq : a.passphrase = p.getD "" ∧ b.passphrase = q.getD ""
  accountKey : ∀ index, Alike (fun _ _ => True) (a.accountKey index) (b.accountKey index)
  keypair : ∀ index, Alike (fun _ _ => True) (a.keypair index) (b.keypair index)
  account : ∀ index, Alike SamePlace (a.account index) (b.account index)
  accounts : ∀ start count,
    Alike (List.Forall₂ SamePlace) (a.accounts start count) (b.accounts start count)
  description_eq : (p.getD "" = "" ↔ q.getD "" = "") →
    a.description = b.description ∧ a.deriverDescription = b.deriverDescription

theorem hasPassphrase_congr {a b : Wallet} (h : a.passphrase = "" ↔ b.passphrase = "") :
    a.hasPassphrase = b.hasPassphrase := by
  rw [hasPassphrase, hasPassphrase, decide_eq_decide, ne_eq, h]

/-- The description tells of the passphrase only whether there is one. -/
theorem description_congr {a b : Wallet} (hmnemonic : a.mnemonic = b.mnemonic)
    (hlanguage : a.language = b.language) (h : a.passphrase = "" ↔ b.passphrase = "") :
    a.description = b.description := by
  unfold description wordCount
  rw [hmnemonic, hlanguage, hasPassphrase_congr h]

theorem sameButPassphrase (mnemonic : String) (language : Language) (p q : Option String) :
    SameButPassphrase p q ⟨mnemonic, p.getD "", language⟩ ⟨mnemonic, q.getD "", language⟩ where
  mnemonic_eq := rfl
  language_eq := rfl
  wordCount_eq := rfl
  passphrase_eq := ⟨rfl, rfl⟩
  accountKey := alike_accountKey _ _
  keypair := alike_keypair _ _
  account := alike_account _ _
  accounts := alike_accounts _ _
  description_eq h := by
    have hdescription : description ⟨mnemonic, p.getD "", language⟩ =
        description ⟨mnemonic, q.getD "", language⟩ := description_congr rfl rfl h
    refine ⟨hdescription, ?_⟩
    unfold deriverDescription
    rw [hdescription]

section

variable (language : Language) (p q : Option String)

/-- The verdict on a phrase makes the wallet or the error, whatever the passphrase. -/
theorem alike_ofVerdict (mnemonic : String) (taken : Bool) :
    Alike (SameButPassphrase p q) (ofVerdict language mnemonic p taken)
      (ofVerdict language mnemonic q taken) := by
  cases taken with
  | false => exact .error _
  | true => exact .ok (sameButPassphrase mnemonic language p q)

/-- A word list is asked the same with either passphrase. -/
theorem alike_ofPhraseWith {σ : Type} (wordList : WordList (StateM σ)) (before : σ)
    (phrase : String) :
    Alike (SameButPassphrase p q) ((ofPhraseWith wordList language phrase p).run before).1
        ((ofPhraseWith wordList language phrase q).run before).1 ∧
      ((ofPhraseWith wordList language phrase p).run before).2 =
        ((ofPhraseWith wordList language phrase q).run before).2 := by
  by_cases hempty : Phrase.normalize phrase = ""
  · rw [ofPhraseWith_run_of_empty hempty, ofPhraseWith_run_of_empty hempty]
    exact ⟨.error _, rfl⟩
  · rw [ofPhraseWith_run_of_ne hempty, ofPhraseWith_run_of_ne hempty]
    exact ⟨alike_ofVerdict language p q _ _, rfl⟩

theorem alike_ofPhrase (phrase : String) :
    Alike (SameButPassphrase p q) (ofPhrase language phrase p) (ofPhrase language phrase q) := by
  by_cases hempty : Phrase.normalize phrase = ""
  · rw [ofPhrase_of_empty hempty, ofPhrase_of_empty hempty]
    exact .error _
  · rw [ofPhrase_of_ne hempty, ofPhrase_of_ne hempty]
    exact alike_ofVerdict language p q _ _

theorem alike_ofEntropy (entropy : List UInt8) :
    Alike (SameButPassphrase p q) (ofEntropy language entropy p) (ofEntropy language entropy q) := by
  rw [ofEntropy, ofEntropy]
  cases Phrase.encode language entropy with
  | error e => exact .error e
  | ok phrase => exact alike_ofPhrase language p q phrase

end

end Wallet

namespace CommandLine

open Plain Wallet

theorem alike_importWallet (language : Language) (phrase : String) (p q : Option String) :
    Alike (SameButPassphrase p q) (importWallet language phrase p)
      (importWallet language phrase q) := by
  rw [importWallet, importWallet]
  cases Phrase.expand language phrase with
  | error e => exact .error e
  | ok expanded => exact alike_ofPhrase language p q expanded

/-! ## Screens of two wallets -/

/-- Lines that are the same but for the texts of keys behind their labels. -/
inductive SameLine : String → String → Prop
  | same (line : String) : SameLine line line
  | address (j k : String) : SameLine (addressLine j) (addressLine k)
  | seed (j k : String) : SameLine (seedLine j) (seedLine k)

theorem sameLine_refl (lines : List String) : List.Forall₂ SameLine lines lines :=
  List.forall₂_same.2 fun line _ => .same line

theorem sameLine_accountBlock (numbered : Bool) {a b : Account} (h : SamePlace a b) :
    List.Forall₂ SameLine (accountBlock numbered a) (accountBlock numbered b) := by
  rw [accountBlock, accountBlock, h.index_eq, h.path_eq]
  exact List.rel_append (sameLine_refl _)
    (.cons (.same _) (.cons (.address _ _) (.cons (.seed _ _) .nil)))

theorem forall₂_intercalate {same : α → β → Prop} {separator : List α} {separator' : List β}
    (hs : List.Forall₂ same separator separator') {parts : List (List α)}
    {parts' : List (List β)} (h : List.Forall₂ (List.Forall₂ same) parts parts') :
    List.Forall₂ same (separator.intercalate parts) (separator'.intercalate parts') := by
  induction h with
  | nil => simp
  | cons hpart hrest ih =>
    cases hrest with
    | nil => simpa using hpart
    | cons hnext hrest =>
      rw [List.intercalate_cons_cons, List.intercalate_cons_cons]
      exact List.rel_append (List.rel_append hpart hs) ih

theorem sameLine_accountBlocks (numbered : Bool) {a b : List Account}
    (h : List.Forall₂ SamePlace a b) :
    List.Forall₂ SameLine (accountBlocks numbered a) (accountBlocks numbered b) := by
  have hblocks : List.Forall₂ (List.Forall₂ SameLine) (a.map (accountBlock numbered))
      (b.map (accountBlock numbered)) := by
    rw [List.forall₂_map_left_iff, List.forall₂_map_right_iff]
    exact h.imp fun _ _ => sameLine_accountBlock numbered
  exact .cons (.same "") (List.rel_append (forall₂_intercalate (sameLine_refl _) hblocks)
    (sameLine_refl _))

/-! ## Imports with two passphrases -/

/-- Two endings that passphrases make no difference to: the same failure, or screens with the same
lines but for the keys and for the line that a passphrase has where it is not empty. -/
inductive SameOutcome (p q : String) : Outcome → Outcome → Prop
  | failed {outcome : Outcome} : outcome.status ≠ 0 → SameOutcome p q outcome outcome
  | shown {head rest rest' : List String} : List.Forall₂ SameLine rest rest' →
    SameOutcome p q ⟨0, head ++ passphraseLines p ++ rest, none⟩
      ⟨0, head ++ passphraseLines q ++ rest', none⟩

theorem sameOutcome_ofScreen_error {p q : String} (halt : Halt) :
    SameOutcome p q (.ofScreen false (.error halt)) (.ofScreen false (.error halt)) := by
  have hreported : (1 : UInt32) ≠ 0 := by decide
  have hpanicked : (101 : UInt32) ≠ 0 := by decide
  cases halt with
  | reported error => exact .failed hreported
  | panicked reason => exact .failed hpanicked

theorem sameOutcome_importOutcome (language : Language) (phrase : String) (p q : Option String)
    (start count : UInt32) : SameOutcome (p.getD "") (q.getD "")
      (importOutcome false language phrase p start count)
      (importOutcome false language phrase q start count) := by
  have hwallets := (alike_importWallet language phrase p q).mapError Halt.ofPhrase
  rw [importOutcome, importOutcome, importScreen, importScreen]
  generalize (importWallet language phrase p).mapError Halt.ofPhrase = x at hwallets ⊢
  generalize (importWallet language phrase q).mapError Halt.ofPhrase = y at hwallets ⊢
  cases hwallets with
  | error halt => exact sameOutcome_ofScreen_error halt
  | @ok a b hab =>
    have haccounts := hab.accounts start count
    simp only [Except.bind, accountsScreen]
    generalize a.accounts start count = x at haccounts ⊢
    generalize b.accounts start count = y at haccounts ⊢
    cases haccounts with
    | error halt => exact sameOutcome_ofScreen_error halt
    | ok hplaces =>
      simp only [Except.map, Outcome.ofScreen, map_render_walletScreen, walletLines,
        hab.mnemonic_eq, hab.language_eq, hab.passphrase_eq, hplaces.length_eq]
      exact .shown (sameLine_accountBlocks _ hplaces)

theorem SameOutcome.status_and_error_eq {p q : String} {a b : Outcome} (h : SameOutcome p q a b) :
    a.status = b.status ∧ a.error = b.error := by
  cases h with
  | failed => exact ⟨rfl, rfl⟩
  | shown => exact ⟨rfl, rfl⟩

/-- Colours change neither the status nor the error. -/
theorem ofScreen_congr (screen : Except Halt (List Line)) (coloured : Bool) :
    (Outcome.ofScreen coloured screen).status = (Outcome.ofScreen false screen).status ∧
      (Outcome.ofScreen coloured screen).error = (Outcome.ofScreen false screen).error := by
  rcases screen with ⟨error | reason⟩ | lines <;> exact ⟨rfl, rfl⟩

theorem status_and_error_importOutcome (coloured : Bool) (language : Language) (phrase : String)
    (p q : Option String) (start count : UInt32) :
    (importOutcome coloured language phrase p start count).status =
        (importOutcome coloured language phrase q start count).status ∧
      (importOutcome coloured language phrase p start count).error =
        (importOutcome coloured language phrase q start count).error := by
  have hplain := (sameOutcome_importOutcome language phrase p q start count).status_and_error_eq
  unfold importOutcome at hplain ⊢
  obtain ⟨hpstatus, hperror⟩ :=
    ofScreen_congr (importScreen language phrase p start count) coloured
  obtain ⟨hqstatus, hqerror⟩ :=
    ofScreen_congr (importScreen language phrase q start count) coloured
  rw [hpstatus, hperror, hqstatus, hqerror]
  exact hplain

/-- **The passphrase decides the keys and nothing else.** Two imports of a phrase that differ in
their passphrases end with the same status and the same error, and where they show a wallet, line
for line the same but for the texts of keys and the line that a passphrase has if it is not empty.
However two wallets are made of the same phrase or entropy, both are refused with the same error,
or they have the same words and language, fail for the same indices with the same errors, and have
the same descriptions unless one passphrase is empty and the other is not. A word list that keeps a
state is left in the same state. -/
theorem passphrase_decides_only_keys :
    (∀ (m : Type → Type) [Monad m] [LawfulMonad m] (source : EntropySource m)
      (environment environment' : Environment) (coloured : Bool) (args args' : List String)
      (phrase : String) (language : Language) (p q : Option String) (start count : UInt32),
      Request.ofArguments environment args =
        .ok (.importPhrase phrase language p start count) →
      Request.ofArguments environment' args' =
        .ok (.importPhrase phrase language q start count) →
      ∃ a b, run source environment coloured args = pure a ∧
        run source environment' coloured args' = pure b ∧
        a.status = b.status ∧ a.error = b.error ∧
        (coloured = false → SameOutcome (p.getD "") (q.getD "") a b)) ∧
    ∀ (language : Language) (p q : Option String),
      (∀ phrase, Alike (SameButPassphrase p q) (importWallet language phrase p)
        (importWallet language phrase q)) ∧
      (∀ (σ : Type) (wordList : WordList (StateM σ)) (before : σ) phrase,
        Alike (SameButPassphrase p q) ((ofPhraseWith wordList language phrase p).run before).1
            ((ofPhraseWith wordList language phrase q).run before).1 ∧
          ((ofPhraseWith wordList language phrase p).run before).2 =
            ((ofPhraseWith wordList language phrase q).run before).2) ∧
      (∀ phrase, Alike (SameButPassphrase p q) (ofPhrase language phrase p)
        (ofPhrase language phrase q)) ∧
      ∀ entropy, Alike (SameButPassphrase p q) (ofEntropy language entropy p)
        (ofEntropy language entropy q) := by
  constructor
  · intro m _ _ source environment environment' coloured args args' phrase language p q start count
      hp hq
    obtain ⟨hstatus, herror⟩ :=
      status_and_error_importOutcome coloured language phrase p q start count
    refine ⟨_, _, importPhrase_run source coloured hp, importPhrase_run source coloured hq, hstatus,
      herror, ?_⟩
    rintro rfl
    exact sameOutcome_importOutcome language phrase p q start count
  · intro language p q
    exact ⟨fun phrase => alike_importWallet language phrase p q,
      fun σ => alike_ofPhraseWith language p q, alike_ofPhrase language p q,
      alike_ofEntropy language p q⟩

/-- The phrase of sixteen zero bytes is imported with a passphrase in the environment and without
one. -/
theorem import_abandon_about_twice :
    Request.ofArguments {} ["xlm", "import", "-m",
        Phrase.join (List.replicate 11 "abandon" ++ ["about"])] =
      .ok (.importPhrase (Phrase.join (List.replicate 11 "abandon" ++ ["about"])) .english none 0
        1) ∧
    Request.ofArguments { passphrase := some "secret" } ["xlm", "import", "-m",
        Phrase.join (List.replicate 11 "abandon" ++ ["about"])] =
      .ok (.importPhrase (Phrase.join (List.replicate 11 "abandon" ++ ["about"])) .english
        (some "secret") 0 1) ∧
    ∃ a b, run (m := Id) ⟨fun buffer => .ok buffer⟩ {} false ["xlm", "import", "-m",
        Phrase.join (List.replicate 11 "abandon" ++ ["about"])] = pure a ∧
      run (m := Id) ⟨fun buffer => .ok buffer⟩ { passphrase := some "secret" } false ["xlm",
        "import", "-m", Phrase.join (List.replicate 11 "abandon" ++ ["about"])] = pure b ∧
      SameOutcome "" "secret" a b := by
  have hbare : Request.ofArguments {} ["xlm", "import", "-m",
      Phrase.join (List.replicate 11 "abandon" ++ ["about"])] =
      .ok (.importPhrase (Phrase.join (List.replicate 11 "abandon" ++ ["about"])) .english none 0
        1) := by rfl
  have hsecret : Request.ofArguments { passphrase := some "secret" } ["xlm", "import", "-m",
      Phrase.join (List.replicate 11 "abandon" ++ ["about"])] =
      .ok (.importPhrase (Phrase.join (List.replicate 11 "abandon" ++ ["about"])) .english
        (some "secret") 0 1) := by rfl
  obtain ⟨a, b, ha, hb, -, -, hsame⟩ := passphrase_decides_only_keys.1 Id
    ⟨fun buffer => .ok buffer⟩ _ _ false _ _ _ _ _ _ _ _ hbare hsecret
  exact ⟨hbare, hsecret, a, b, ha, hb, hsame rfl⟩

end CommandLine

end HdWallet
