/-
Word lists as a wallet and a generator use them: something that says whether a text is a
phrase, and writes entropy as one. `WordList.bip39` is the list of the standard; another can
stand in its place.
-/
import HdWallet.Phrase

namespace HdWallet

/-- What a word list does, which may be an action like any other. -/
structure WordList (m : Type → Type) where
  /-- Whether a text is a phrase of the language. -/
  check : Language → String → m Bool
  /-- The phrase of the language for an entropy. -/
  encode : Language → List UInt8 → m (Except PhraseError String)

/-- The standard word lists with their checksum. -/
def WordList.bip39 {m : Type → Type} [Monad m] : WordList m where
  check language phrase := pure (Phrase.check language phrase)
  encode language entropy := pure (Phrase.encode language entropy)

end HdWallet
