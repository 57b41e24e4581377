/-
Only Form KD of a phrase and of a passphrase goes into a seed. A phrase is blank exactly if its
Form KD is, so looking for blank phrases before Form KD or after is the same
(`stretch_eq_normal_test`), and the mark in front of the salt neither decomposes nor takes up a
mark of the passphrase, so the salt may be brought into Form KD as a whole (`salt_eq_nfkd`).
-/
import HdWallet.Proofs.PasswordStretching
import HdWallet.Proofs.SpacedTexts
import HdWallet.Proofs.WalletSeed

namespace HdWallet

namespace Unicode

theorem toList_nfkd (text : String) : (nfkd text).toList = compatibilityForm text.toList := by
  rw [nfkd, String.toList_ofList]

/-- Starters that do not decompose stay as they are, whatever follows them. -/
theorem compatibilityForm_append_of_starters {lead : List Char}
    (hsettled : ∀ c ∈ lead, Settled c) (hstarter : ∀ c ∈ lead, combiningClass c = 0)
    (text : List Char) : compatibilityForm (lead ++ text) = lead ++ compatibilityForm text := by
  rw [compatibilityForm, List.flatMap_append, flatMap_decompose_of_settled hsettled,
    reorder_starters_append hstarter, compatibilityForm]

end Unicode

namespace Phrase

open Unicode

theorem normalize_congr {a b : String} (h : nfkd a = nfkd b) : normalize a = normalize b := by
  rw [normalize, normalize, tokens, tokens, ← toList_nfkd, ← toList_nfkd, h]

end Phrase

namespace Seed

open Unicode

theorem stretch_of_normalize_eq {phrase : String} (passphrase : String)
    (h : Phrase.normalize phrase = "") :
    stretch phrase passphrase = .error (.invalidInput "mnemonic must not be empty") := by
  rw [stretch, if_pos]
  simpa using Phrase.normalize_eq_empty_iff_trim.1 h

/-- **The normal form may be tested in place of the phrase.** -/
theorem stretch_eq_normal_test (phrase passphrase : String) :
    stretch phrase passphrase =
      if Phrase.normalize phrase = "" then .error (.invalidInput "mnemonic must not be empty")
      else .ok (ofPhrase phrase passphrase) := by
  split
  · next h => exact stretch_of_normalize_eq passphrase h
  · next h => exact stretch_of_normalize_ne passphrase h

theorem stretch_congr {a b p q : String} (hphrase : nfkd a = nfkd b) (hpass : nfkd p = nfkd q) :
    stretch a p = stretch b q := by
  rw [stretch_eq_normal_test, stretch_eq_normal_test, Phrase.normalize_congr hphrase,
    ofPhrase_congr hphrase hpass]

theorem stretch_eq_error_iff {phrase passphrase : String} :
    (∃ error, stretch phrase passphrase = .error error) ↔ Phrase.normalize phrase = "" := by
  rw [stretch_eq_normal_test]
  split
  · next h => simp [h]
  · next h => simp [h]

/-- **The whole salt may be brought into Form KD.** -/
theorem salt_eq_nfkd (passphrase : String) : salt passphrase = nfkd ("mnemonic" ++ passphrase) := by
  have hstarter : ∀ c ∈ "mnemonic".toList, Words.isStarter c.toNat = true :=
    List.all_eq_true.1 (by decide)
  have hsettled : ∀ c ∈ "mnemonic".toList, Settled c := fun c hc =>
    Words.settled_of_isLetter (by rw [Words.isLetter, hstarter c hc, Bool.true_or])
  rw [← String.toList_inj, salt, saltMark, String.toList_append, toList_nfkd, toList_nfkd,
    String.toList_append, compatibilityForm_append_of_starters hsettled fun c hc =>
      Words.combiningClass_of_isStarter (hstarter c hc)]

/-- The bytes of a seed, as the standard for phrases has them. -/
theorem toList_ofPhrase (phrase passphrase : String) :
    (ofPhrase phrase passphrase).bytes.toList =
      Pbkdf2.output (Utf8.bytes (nfkd phrase)) (Utf8.bytes (nfkd ("mnemonic" ++ passphrase)))
        2048 64 := by
  rw [ofPhrase, salt_eq_nfkd]
  exact Pbkdf2.derive_eq_output _ _ (by decide)

/-- **Stretching is a matter of Form KD.** Texts of one Form KD are stretched to one seed, or both
refused. A phrase is refused exactly if its normal form is empty, which makes it one of those that
no wallet is made of for being empty; of every other, the seed is what the standard derives from
its Form KD with the Form KD of the whole salt. -/
theorem stretch_by_form :
    (∀ a b p q, nfkd a = nfkd b → nfkd p = nfkd q → stretch a p = stretch b q) ∧
    (∀ phrase passphrase,
      if Phrase.normalize phrase = "" then
        stretch phrase passphrase = .error (.invalidInput "mnemonic must not be empty")
      else ∃ seed, stretch phrase passphrase = .ok seed ∧
        seed.bytes.toList = Pbkdf2.output (Utf8.bytes (nfkd phrase))
          (Utf8.bytes (nfkd ("mnemonic" ++ passphrase))) 2048 64) ∧
    (∀ phrase passphrase (σ : Type) (wordList : WordList (StateM σ)) (before : σ) language secret,
      (∃ error, stretch phrase passphrase = .error error) ↔
        ∃ reason, ((Wallet.ofPhraseWith wordList language phrase secret).run before).1 =
          .error (.invalidInput reason)) ∧
    ∀ passphrase, salt passphrase = nfkd ("mnemonic" ++ passphrase) := by
  refine ⟨fun a b p q => stretch_congr, fun phrase passphrase => ?_, ?_, salt_eq_nfkd⟩
  · split
    · next h => exact stretch_of_normalize_eq passphrase h
    · next h =>
      exact ⟨_, stretch_of_normalize_ne passphrase h, toList_ofPhrase phrase passphrase⟩
  · intro phrase passphrase σ wordList before language secret
    rw [stretch_eq_error_iff]
    exact (Wallet.isDecided wordList before language phrase secret).invalidInput_iff.symm

/-- An accented letter and the letter with its accent behind it. -/
theorem stretch_accented :
    nfkd "caf\u00E9" = nfkd "cafe\u0301" ∧
      stretch "zoo" "caf\u00E9" = stretch "zoo" "cafe\u0301" := by
  have hentry : ('\u00E9'.toNat, [0x65, 0x301]) ∈ Decomposition.table := by decide +kernel
  have hwhole : decompose '\u00E9' = ['e', '\u0301'] := decompose_of_mem_table (by decide) hentry
  have hletter : decompose 'e' = ['e'] := settled_of_ascii (by decide)
  have hmark : decompose '\u0301' = ['\u0301'] :=
    settled_of_mem_decompose (c := '\u00E9') (by simp [hwhole])
  have hcomposed : "caf\u00E9".toList = "caf".toList ++ ['\u00E9'] := by decide
  have happart : "cafe\u0301".toList = "caf".toList ++ ['e', '\u0301'] := by decide
  have hform : compatibilityForm "caf\u00E9".toList = compatibilityForm "cafe\u0301".toList := by
    rw [compatibilityForm, compatibilityForm, hcomposed, happart, List.flatMap_append,
      List.flatMap_append]
    simp only [List.flatMap_cons, List.flatMap_nil, hwhole, hletter, hmark, List.append_nil,
      List.cons_append, List.nil_append]
  have h : nfkd "caf\u00E9" = nfkd "cafe\u0301" := congrArg String.ofList hform
  exact ⟨h, stretch_by_form.1 _ _ _ _ rfl h⟩

end Seed

end HdWallet
