/-
Expansion, checking and import read a phrase the same way. The tokens of a text are what stands
between the spaces of its normal form (`betweenSpaces_normalize`), and the words of the lists are
in Form KD as they are, so it does not matter where a phrase is cut and in which form its words
are compared (`expand_eq_between_spaces`). What expansion gives is then a normal form of words of
the list, one for each token (`isExpansion_of_expand`), and a phrase that is accepted as it stands
is not changed by it, so the import of a phrase differs from reading it directly only where
the phrase has abbreviations (`check_expand_import_agree`).
-/
import HdWallet.Proofs.ListResults
import HdWallet.Proofs.WalletRecovery

namespace HdWallet

open Unicode

namespace Phrase

/-! ## Cutting at spaces -/

/-- What stands between the spaces of a text, less what is empty. -/
def betweenSpaces (text : String) : List String :=
  ((text.toList.splitOn ' ').filter (· ≠ [])).map String.ofList

theorem betweenSpaces_join {words : List String} (h : ∀ word ∈ words, IsToken word) :
    betweenSpaces (join words) = words := by
  have hparts : ∀ part ∈ words.map String.toList, IsWord part := fun part hp => by
    obtain ⟨word, hword, rfl⟩ := List.mem_map.1 hp
    exact (h word hword).isWord
  rw [betweenSpaces, toList_join]
  cases words with
  | nil => rfl
  | cons word words =>
    rw [List.splitOn_intercalate _ (fun part hp => (hparts part hp).space_not_mem) (by simp),
      List.filter_eq_self.2 fun part hp => by simpa using (hparts part hp).ne_nil, List.map_map]
    exact (List.map_congr_left fun word _ => String.ofList_toList).trans (List.map_id _)

/-- **The normal form may be cut at its spaces.** -/
theorem betweenSpaces_normalize (text : String) : betweenSpaces (normalize text) = tokens text :=
  betweenSpaces_join fun _ => isToken_of_mem_tokens

/-! ## Comparing in Form KD -/

/-- The word that a token means, the words of the list being brought into Form KD first. -/
def resolveInForm (words : List String) (token : String) : Except PhraseError String :=
  match words.find? fun word => nfkd word = token with
  | some word => .ok word
  | none =>
    if token.length < shortestAbbreviation then
      .error (.prefixTooShort token shortestAbbreviation)
    else
      match words.filter fun word => token.toList.isPrefixOf (nfkd word).toList with
      | [] => .error (.unknownPrefix token)
      | [word] => .ok word
      | candidates => .error (.ambiguousPrefix token candidates)

theorem nfkd_of_mem_words {language : Language} {word : String} (h : word ∈ language.words) :
    nfkd word = word := by
  rw [nfkd, (Language.isNormal_of_mem_words h).compatibilityForm_eq, String.ofList_toList]

section

variable {words : List String} (h : ∀ word ∈ words, nfkd word = word)

include h

/-- The word whose form is the token can only be the token itself. -/
theorem find?_form (token : String) :
    words.find? (fun word => nfkd word = token) = if token ∈ words then some token else none := by
  split
  · next hmem =>
    have hsome : (words.find? fun word => nfkd word = token).isSome :=
      List.find?_isSome.2 ⟨token, hmem, decide_eq_true (h token hmem)⟩
    obtain ⟨word, hword⟩ := Option.isSome_iff_exists.1 hsome
    have hform := List.find?_some hword
    have heq : nfkd word = token := of_decide_eq_true hform
    rw [hword, ← heq, h word (List.mem_of_find?_eq_some hword)]
  · next hmem =>
    refine List.find?_eq_none.2 fun word hword hform => hmem ?_
    have heq : nfkd word = token := of_decide_eq_true hform
    rwa [← heq, h word hword]

theorem resolveInForm_eq (token : String) : resolveInForm words token = resolve words token := by
  have hfilter : words.filter (fun word => token.toList.isPrefixOf (nfkd word).toList) =
      words.filter (fun word => token.toList.isPrefixOf word.toList) :=
    List.filter_congr fun word hword => by rw [h word hword]
  rw [resolveInForm, find?_form h, hfilter, resolve]
  by_cases hmem : token ∈ words
  · rw [if_pos hmem, if_pos hmem]
  · have hnone : (if token ∈ words then some token else none) = none := if_neg hmem
    rw [hnone]
    exact (if_neg hmem).symm

end

/-- **Expansion may as well cut the normal form at its spaces and compare in Form KD.** -/
theorem expand_eq_between_spaces (language : Language) (text : String) :
    expand language text =
      ((betweenSpaces (normalize text)).mapM (resolveInForm language.words)).map join := by
  have hresolve : resolveInForm language.words = resolve language.words :=
    funext fun token => resolveInForm_eq (fun _ => nfkd_of_mem_words) token
  rw [betweenSpaces_normalize, hresolve, expand]

/-! ## What expansion gives -/

theorem mem_of_resolve {words : List String} {token word : String}
    (h : resolve words token = .ok word) : word ∈ words := by
  rw [resolve] at h
  split at h
  · next hmem =>
    cases h
    exact hmem
  split at h
  · cases h
  split at h
  · cases h
  · next found hfound =>
    cases h
    have hmem : word ∈ words.filter fun other => token.toList.isPrefixOf other.toList := by
      simp [hfound]
    exact (List.mem_filter.1 hmem).1
  · cases h

theorem expand_eq_ok_iff {language : Language} {text expanded : String} :
    expand language text = .ok expanded ↔
      ∃ words, List.Forall₂ (fun token word => resolve language.words token = .ok word)
        (tokens text) words ∧ join words = expanded := by
  rw [expand]
  cases hm : (tokens text).mapM (resolve language.words) with
  | error e =>
    constructor
    · intro h
      cases h
    · rintro ⟨words, hwords, -⟩
      rw [mapM_eq_ok_iff.2 hwords] at hm
      cases hm
  | ok words =>
    constructor
    · intro h
      exact ⟨words, mapM_eq_ok_iff.1 hm, Except.ok.inj h⟩
    · rintro ⟨others, hothers, rfl⟩
      rw [mapM_eq_ok_iff.2 hothers] at hm
      cases hm
      rfl

/-- What the expansion of a text is: a normal form of words of the list, as many as the text
has, which means itself. -/
structure IsExpansion (language : Language) (text expanded : String) : Prop where
  normalize_eq : normalize expanded = expanded
  wordCount_eq : wordCount expanded = wordCount (normalize text)
  mem_words : ∀ word ∈ tokens expanded, word ∈ language.words
  expand_eq : expand language expanded = .ok expanded

theorem isExpansion_of_expand {language : Language} {text expanded : String}
    (h : expand language text = .ok expanded) : IsExpansion language text expanded := by
  obtain ⟨words, hwords, rfl⟩ := expand_eq_ok_iff.1 h
  have hmem : ∀ word ∈ words, word ∈ language.words := fun word hword => by
    obtain ⟨token, -, hresolve⟩ := exists_of_mem_results hwords hword
    exact mem_of_resolve hresolve
  have htoken : ∀ word ∈ words, IsToken word := fun word hword =>
    isToken_of_mem_words (hmem word hword)
  have htokens : tokens (join words) = words := tokens_join htoken
  refine ⟨normalize_join htoken, ?_, ?_, ?_⟩
  · rw [wordCount_join htoken, wordCount_normalize, hwords.length_eq]
  · rwa [htokens]
  · rw [expand, htokens, mapM_resolve hmem]
    rfl

end Phrase

namespace CommandLine

open Phrase Wallet

/-! ## Importing -/

section

variable {language : Language} {phrase expanded : String} {passphrase : Option String}

theorem importWallet_of_error {error : PhraseError} (h : expand language phrase = .error error) :
    importWallet language phrase passphrase = .error error := by
  rw [importWallet, h]
  rfl

theorem importWallet_of_expand (h : expand language phrase = .ok expanded) :
    importWallet language phrase passphrase = ofPhrase language expanded passphrase := by
  rw [importWallet, h]
  rfl

theorem importWallet_eq_ok_iff {wallet : Wallet} :
    importWallet language phrase passphrase = .ok wallet ↔
      expand language phrase = .ok wallet.mnemonic ∧ check language wallet.mnemonic = true ∧
        wallet.passphrase = passphrase.getD "" ∧ wallet.language = language := by
  constructor
  · intro h
    obtain ⟨expanded, hexpand, hread⟩ := bind_eq_ok_iff.1 h
    obtain ⟨hcheck, rfl⟩ := ofPhrase_eq_ok_iff.1 hread
    rw [(isExpansion_of_expand hexpand).normalize_eq]
    exact ⟨hexpand, hcheck, rfl, rfl⟩
  · obtain ⟨mnemonic, secret, other⟩ := wallet
    rintro ⟨hexpand, hcheck, rfl, rfl⟩
    rw [importWallet_of_expand hexpand, ofPhrase_of_check hcheck,
      (isExpansion_of_expand hexpand).normalize_eq]

theorem importWallet_of_refused (h : expand language phrase = .ok expanded) (hne : expanded ≠ "")
    (hcheck : check language expanded = false) :
    importWallet language phrase passphrase = .error .invalidMnemonic := by
  have hnormal := (isExpansion_of_expand h).normalize_eq
  rw [importWallet_of_expand h]
  exact ofPhrase_of_refused (hnormal.symm ▸ hne) hcheck

/-- A phrase that makes a wallet as it stands makes the same when it is imported. -/
theorem importWallet_of_ofPhrase {wallet : Wallet}
    (h : ofPhrase language phrase passphrase = .ok wallet) :
    importWallet language phrase passphrase = .ok wallet := by
  obtain ⟨hcheck, rfl⟩ := ofPhrase_eq_ok_iff.1 h
  have hnormal : check language (normalize phrase) = true := by rw [check_normalize, hcheck]
  exact importWallet_eq_ok_iff.2 ⟨expand_of_check hcheck, hnormal, rfl, rfl⟩

end

/-- How the import of a phrase ends: with a wallet of the expanded phrase exactly if that is
accepted, and else with the error of the expansion or with that of the expanded phrase. -/
structure IsImport (language : Language) (phrase : String) (passphrase : Option String) : Prop where
  ok_iff : ∀ wallet, importWallet language phrase passphrase = .ok wallet ↔
    expand language phrase = .ok wallet.mnemonic ∧ check language wallet.mnemonic = true ∧
      wallet.passphrase = passphrase.getD "" ∧ wallet.language = language
  of_error : ∀ error, expand language phrase = .error error →
    importWallet language phrase passphrase = .error error
  of_empty : expand language phrase = .ok "" → importWallet language phrase passphrase =
    .error (.invalidInput "mnemonic must not be empty")
  of_refused : ∀ expanded, expand language phrase = .ok expanded → expanded ≠ "" →
    check language expanded = false →
      importWallet language phrase passphrase = .error .invalidMnemonic

theorem isImport (language : Language) (phrase : String) (passphrase : Option String) :
    IsImport language phrase passphrase where
  ok_iff _ := importWallet_eq_ok_iff
  of_error _ := importWallet_of_error
  of_empty h := (importWallet_of_expand h).trans (ofPhrase_of_empty rfl)
  of_refused _ := importWallet_of_refused

/-- **Expansion, checking and import agree on every phrase.** Wherever a phrase is cut and in
whichever form its words are compared, expansion gives the same. It brings a phrase that is
accepted to its normal form and no further, and whatever it gives is a normal form of words of
the list that means itself. An import ends as the expanded phrase decides, and where the phrase
makes a wallet as it stands, the import makes the same. -/
theorem check_expand_import_agree (language : Language) (phrase : String) :
    expand language phrase =
      ((betweenSpaces (normalize phrase)).mapM (resolveInForm language.words)).map join ∧
    (check language phrase = true → expand language phrase = .ok (normalize phrase)) ∧
    (∀ expanded, expand language phrase = .ok expanded →
      IsExpansion language phrase expanded) ∧
    (∀ passphrase, IsImport language phrase passphrase) ∧
    ∀ passphrase wallet, ofPhrase language phrase passphrase = .ok wallet →
      importWallet language phrase passphrase = .ok wallet :=
  ⟨expand_eq_between_spaces language phrase, expand_of_check, fun _ => isExpansion_of_expand,
    isImport language phrase, fun _ _ => importWallet_of_ofPhrase⟩

/-- The phrase of sixteen zero bytes is its own expansion, and is imported as it stands. -/
theorem import_abandon_about :
    ∃ phrase, phrase = join (List.replicate 11 "abandon" ++ ["about"]) ∧
      check .english phrase = true ∧ expand .english phrase = .ok phrase ∧
      IsExpansion .english phrase phrase ∧
      ofPhrase .english phrase none = .ok ⟨phrase, "", .english⟩ ∧
      importWallet .english phrase none = .ok ⟨phrase, "", .english⟩ := by
  have hwritten := isWritten_of_encode encode_abandon_about
  obtain ⟨-, haccepted, hexpansion, -, himport⟩ := check_expand_import_agree .english
    (join (List.replicate 11 "abandon" ++ ["about"]))
  have hexpand := haccepted hwritten.check_eq
  have hread : ofPhrase .english _ none = .ok _ := ofPhrase_of_check hwritten.check_eq
  rw [hwritten.normalize_eq] at hexpand hread
  exact ⟨_, rfl, hwritten.check_eq, hexpand, hexpansion _ hexpand, hread, himport none _ hread⟩

end CommandLine

end HdWallet
