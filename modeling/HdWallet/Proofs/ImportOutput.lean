/-
An import shows a wallet whole or says why not. Three things can go wrong, one after the other: the
phrase cannot be written out, what is written out is no phrase, or the accounts are out of range.
All three are found out before the first line is printed, and printing goes on to its end
(`importPhrase_session`), so what ends a run early leaves the output empty (`importEnds`). Otherwise
the screen has the accounts in the order of their indices, and each secret seed on it brings its own
account back when it is imported as a key (`run_importKey_secretSeed`).
-/
import HdWallet.Proofs.AccountRange
import HdWallet.Proofs.AccountViews
import HdWallet.Proofs.KeyReading
import HdWallet.Proofs.PhraseExpansion

namespace HdWallet.CommandLine

open Keypair Plain

/-! ## Endings -/

/-- How a run ends that shows nothing but an error. -/
def failure (message : String) : Outcome where
  status := 1
  output := []
  error := some ("Error: " ++ message)

/-- The ending of an import. -/
def importOutcome (coloured : Bool) (language : Language) (phrase : String)
    (passphrase : Option String) (start count : UInt32) : Outcome :=
  .ofScreen coloured (importScreen language phrase passphrase start count)

theorem importPhrase_run {m : Type → Type} [Monad m] [LawfulMonad m] (source : EntropySource m)
    {environment : Environment} (coloured : Bool) {args : List String} {phrase : String}
    {language : Language} {passphrase : Option String} {start count : UInt32}
    (h : Request.ofArguments environment args =
      .ok (.importPhrase phrase language passphrase start count)) :
    run source environment coloured args =
      pure (importOutcome coloured language phrase passphrase start count) := by
  rw [run_of_request source coloured h, Request.screen, map_pure, importOutcome]

/-- How an import may end: with the first failure there is, or with all accounts. -/
inductive ImportEnds (coloured : Bool) (language : Language) (phrase : String)
    (passphrase : Option String) (start count : UInt32) : Outcome → Prop
  | notExpanded {error : PhraseError} : Phrase.expand language phrase = .error error →
    ImportEnds coloured language phrase passphrase start count (failure error.message)
  | notTaken {expanded : String} {error : PhraseError} :
    Phrase.expand language phrase = .ok expanded →
    Wallet.ofPhrase language expanded passphrase = .error error →
    ImportEnds coloured language phrase passphrase start count (failure error.message)
  | notDerived {expanded : String} {wallet : Wallet} {error : KeyError} :
    Phrase.expand language phrase = .ok expanded →
    Wallet.ofPhrase language expanded passphrase = .ok wallet →
    wallet.accounts start count = .error (.reported error) →
    ImportEnds coloured language phrase passphrase start count (failure error.message)
  | shown {expanded : String} {wallet : Wallet} {accounts : List Account} {output : List String} :
    Phrase.expand language phrase = .ok expanded →
    Wallet.ofPhrase language expanded passphrase = .ok wallet →
    wallet.accounts start count = .ok accounts →
    Wallet.IsBatch wallet start count accounts →
    (coloured = false → output = headLines expanded language ++
      passphraseLines (passphrase.getD "") ++ accountBlocks (1 < count.toNat) accounts) →
    ImportEnds coloured language phrase passphrase start count ⟨0, output, none⟩

/-- **Every import ends in one of the four ways.** -/
theorem importEnds (coloured : Bool) (language : Language) (phrase : String)
    (passphrase : Option String) (start count : UInt32) :
    ImportEnds coloured language phrase passphrase start count
      (importOutcome coloured language phrase passphrase start count) := by
  rw [importOutcome, importScreen]
  cases hexpand : Phrase.expand language phrase with
  | error error =>
    rw [importWallet_of_error hexpand]
    exact .notExpanded hexpand
  | ok expanded =>
    rw [importWallet_of_expand hexpand]
    cases hread : Wallet.ofPhrase language expanded passphrase with
    | error error => exact .notTaken hexpand hread
    | ok wallet =>
      simp only [Except.mapError, Except.bind, accountsScreen]
      obtain ⟨index, herror⟩ | ⟨accounts, haccounts, hbatch⟩ := wallet.accounts_cases start count
      · rw [herror]
        exact .notDerived hexpand hread herror
      · rw [haccounts]
        refine .shown hexpand hread haccounts hbatch ?_
        rintro rfl
        obtain ⟨-, rfl⟩ := Wallet.ofPhrase_eq_ok_iff.1 hread
        rw [map_render_walletScreen, walletLines, hbatch.length_eq,
          (Phrase.isExpansion_of_expand hexpand).normalize_eq]

/-- **Nothing of an import is printed before all of it can be**, whatever is printed already: it
ends with an error and no line of its own, or with its screen. It never breaks off. -/
theorem importPhrase_session {m : Type → Type} [Monad m] [LawfulMonad m]
    (source : EntropySource m) (phrase : String) (language : Language)
    (passphrase : Option String) (start count : UInt32) (printed : List Line) :
    ∃ ending, ((Request.importPhrase phrase language passphrase start count).execute
        source).run.run printed = pure ending ∧
      ((∃ error, ending = (.error (.reported error), printed)) ∨
        ∃ wallet accounts, importWallet language phrase passphrase = .ok wallet ∧
          wallet.accounts start count = .ok accounts ∧
          ending = (.ok (), printed ++ walletScreen wallet accounts)) := by
  refine ⟨afterScreen printed (importScreen language phrase passphrase start count), ?_, ?_⟩
  · rw [execute_run, Request.screen, map_pure]
  rw [importScreen]
  cases hwallet : importWallet language phrase passphrase with
  | error error => exact .inl ⟨_, rfl⟩
  | ok wallet =>
    simp only [Except.mapError, Except.bind, accountsScreen]
    obtain ⟨index, herror⟩ | ⟨accounts, haccounts, -⟩ := wallet.accounts_cases start count
    · rw [herror]
      exact .inl ⟨_, rfl⟩
    · exact .inr ⟨wallet, accounts, rfl, haccounts, by rw [haccounts]; rfl⟩

/-- A phrase that is accepted is shown with all the accounts that there can be. -/
theorem ImportEnds.status_eq_zero {coloured : Bool} {language : Language} {phrase : String}
    {passphrase : Option String} {start count : UInt32} {outcome : Outcome}
    (h : ImportEnds coloured language phrase passphrase start count outcome)
    (hcheck : Phrase.check language phrase = true) (hstart : start.toNat < 2 ^ 31)
    (hstop : start.toNat + count.toNat ≤ 2 ^ 31) : outcome.status = 0 := by
  have hexpanded := Phrase.expand_of_check hcheck
  rw [← Phrase.check_normalize] at hcheck
  cases h with
  | notExpanded hexpand =>
    rw [hexpanded] at hexpand
    cases hexpand
  | notTaken hexpand hread =>
    rw [hexpanded] at hexpand
    cases hexpand
    rw [Wallet.ofPhrase_of_check hcheck] at hread
    cases hread
  | notDerived hexpand hread haccounts =>
    rw [Wallet.accounts_of_stop_le _ hstart hstop] at haccounts
    cases haccounts
  | shown => rfl

/-- No accounts at all are a batch as well. -/
theorem importOutcome_zero {language : Language} {phrase : String} {passphrase : Option String}
    {wallet : Wallet} (h : importWallet language phrase passphrase = .ok wallet) {start : UInt32}
    (hstart : start.toNat < 2 ^ 31) : importOutcome false language phrase passphrase start 0 =
      ⟨0, headLines wallet.mnemonic language ++ passphraseLines (passphrase.getD "") ++ ["", ""],
        none⟩ := by
  obtain ⟨-, -, hpass, hlanguage⟩ := importWallet_eq_ok_iff.1 h
  have haccounts : wallet.accounts start 0 = .ok [] :=
    wallet.accounts_of_stop_le hstart (Nat.le_of_lt hstart)
  rw [importOutcome, importScreen, h]
  simp only [Except.mapError, Except.bind, accountsScreen, haccounts, Except.map,
    Outcome.ofScreen, map_render_walletScreen, walletLines, hpass, hlanguage]
  rfl

/-! ## Seeds on the screen -/

theorem ofArguments_importKey (environment : Environment) {key : String}
    (h : isOption key.toList = false) :
    Request.ofArguments environment ["xlm", "import-key", "--key", key] = .ok (.importKey key) := by
  have hread : readArguments (.action .importKey) (some .key) {} [key] =
      .ok (.importKey, { key := some key }) := by
    rw [readArguments, h]
    rfl
  show (readArguments (.action .importKey) (some .key) {} [key] >>= _) = _
  rw [hread]
  rfl

theorem isOption_encode (kind : StrKey) (key : Bytes 32) :
    isOption (StrKey.encode kind key).toList = false := by
  have hhead := StrKey.head?_encode kind key
  cases htext : (StrKey.encode kind key).toList with
  | nil => rfl
  | cons c rest =>
    rw [htext, List.head?_cons, Option.some_inj] at hhead
    rw [hhead]
    cases kind <;> rfl

theorem readKey_encode (key : Bytes 32) :
    readKey (StrKey.encode .secretSeed key) = .ok ⟨key⟩ := by
  refine readKey_eq_ok_iff.2 (.inl (ofSecretSeed_eq_ok_iff.2 ?_))
  rw [Unicode.trimmed_trimmed, Unicode.trimmed_of_solid fun _ => StrKey.isWhiteSpace_of_mem_encode]

/-- A secret seed that is shown leads back to its account. -/
theorem run_importKey_secretSeed {m : Type → Type} [Monad m] [LawfulMonad m]
    (source : EntropySource m) (environment : Environment) (coloured : Bool) {wallet : Wallet}
    {index : UInt32} {account : Account} (h : wallet.account index = .ok account) :
    ∃ output, run source environment coloured ["xlm", "import-key", "--key", account.secretSeed] =
        pure ⟨0, output, none⟩ ∧
      (coloured = false → output =
        keypairLines account.accountId account.secretSeed account.publicKeyHex) := by
  obtain ⟨key, rfl⟩ := Wallet.eq_ofKey_of_account h
  have hargs := ofArguments_importKey environment (isOption_encode .secretSeed key)
  refine ⟨(keypairScreen ⟨key⟩).map (Line.render coloured), ?_, ?_⟩
  · refine (importKey_run source coloured hargs).trans ?_
    rw [importKeyScreen, readKey_encode]
    rfl
  · rintro rfl
    exact map_render_keypairScreen ⟨key⟩

/-- **An import shows everything or nothing.** However the arguments put it, the run ends with the
first of the failures that there is, and no output, or with all accounts on the screen: as many as
are asked for, in the order of their indices, each with its path and its keys. Line by line, the
request adds its whole screen to what is printed before it, or ends with an error that is reported
and adds nothing; it does not break off between two accounts. If none is asked for, the screen is
that of the wallet alone. The secret seed of an account on the screen, imported as a key, shows the
same address and the same seed. -/
theorem import_whole_or_nothing {m : Type → Type} [Monad m] [LawfulMonad m]
    (source : EntropySource m) :
    (∀ environment coloured args phrase language passphrase start count,
      Request.ofArguments environment args =
        .ok (.importPhrase phrase language passphrase start count) →
      ∃ outcome, run source environment coloured args = pure outcome ∧
        ImportEnds coloured language phrase passphrase start count outcome) ∧
    (∀ phrase language passphrase start count printed, ∃ ending,
      ((Request.importPhrase phrase language passphrase start count).execute
          source).run.run printed = pure ending ∧
        ((∃ error, ending = (.error (.reported error), printed)) ∨
          ∃ wallet accounts, importWallet language phrase passphrase = .ok wallet ∧
            Wallet.accounts wallet start count = .ok accounts ∧
            ending = (.ok (), printed ++ walletScreen wallet accounts))) ∧
    (∀ language phrase passphrase wallet, importWallet language phrase passphrase = .ok wallet →
      ∀ start : UInt32, start.toNat < 2 ^ 31 →
        importOutcome false language phrase passphrase start 0 =
          ⟨0, headLines wallet.mnemonic language ++ passphraseLines (passphrase.getD "") ++ ["", ""],
            none⟩) ∧
    ∀ wallet start count accounts, Wallet.accounts wallet start count = .ok accounts →
      ∀ account ∈ accounts, ∀ environment coloured, ∃ output,
        run source environment coloured ["xlm", "import-key", "--key", account.secretSeed] =
          pure ⟨0, output, none⟩ ∧
        (coloured = false → output =
          keypairLines account.accountId account.secretSeed account.publicKeyHex) := by
  refine ⟨?_, importPhrase_session source, ?_, ?_⟩
  · intro environment coloured args phrase language passphrase start count h
    exact ⟨_, importPhrase_run source coloured h, importEnds ..⟩
  · intro language phrase passphrase wallet hwallet start hstart
    exact importOutcome_zero hwallet hstart
  · intro wallet start count accounts haccounts account hmem environment coloured
    obtain ⟨k, hk, rfl⟩ := List.getElem_of_mem hmem
    exact run_importKey_secretSeed source environment coloured
      ((Wallet.isBatch_of_accounts haccounts).account_eq k hk)

/-- The first three accounts of the phrase of sixteen zero bytes are asked for, and shown. -/
theorem import_three_abandon_about :
    Request.ofArguments {} ["xlm", "import", "-m",
        Phrase.join (List.replicate 11 "abandon" ++ ["about"]), "-c", "3"] =
      .ok (.importPhrase (Phrase.join (List.replicate 11 "abandon" ++ ["about"])) .english none 0
        3) ∧
    ∃ outcome, run (m := Id) ⟨fun buffer => .ok buffer⟩ {} false ["xlm", "import", "-m",
        Phrase.join (List.replicate 11 "abandon" ++ ["about"]), "-c", "3"] = pure outcome ∧
      ImportEnds false .english (Phrase.join (List.replicate 11 "abandon" ++ ["about"])) none 0 3
        outcome ∧ outcome.status = 0 := by
  have hargs : Request.ofArguments {} ["xlm", "import", "-m",
      Phrase.join (List.replicate 11 "abandon" ++ ["about"]), "-c", "3"] =
      .ok (.importPhrase (Phrase.join (List.replicate 11 "abandon" ++ ["about"])) .english none 0
        3) := by rfl
  obtain ⟨outcome, hrun, hends⟩ :=
    (import_whole_or_nothing (m := Id) ⟨fun buffer => .ok buffer⟩).1 _ false _ _ _ _ _ _ hargs
  have hcheck := (Phrase.isWritten_of_encode Phrase.encode_abandon_about).check_eq
  exact ⟨hargs, outcome, hrun, hends, hends.status_eq_zero hcheck (by decide) (by decide)⟩

end HdWallet.CommandLine
