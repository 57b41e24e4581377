/-
Wallets: a phrase that its word list takes, in normal form, with the passphrase that protects
it. Everything else is derived from the two.
-/
import HdWallet.Generator
import HdWallet.Seed

namespace HdWallet

/-- A phrase in normal form, its language and its passphrase, empty if there is none. -/
structure Wallet where
  mnemonic : String
  passphrase : String
  language : Language
deriving DecidableEq

namespace Wallet

/-- The wallet of a phrase that a word list takes. -/
def ofPhraseWith {m : Type → Type} [Monad m] (wordList : WordList m) (language : Language)
    (phrase : String) (passphrase : Option String) : m (Except PhraseError Wallet) := do
  let mnemonic := Phrase.normalize phrase
  if mnemonic = "" then
    return .error (.invalidInput "mnemonic must not be empty")
  else if ← wordList.check language mnemonic then
    return .ok { mnemonic, passphrase := passphrase.getD "", language }
  else
    return .error .invalidMnemonic

/-- The wallet of a phrase of the standard word lists. -/
def ofPhrase (language : Language) (phrase : String) (passphrase : Option String) :
    Except PhraseError Wallet :=
  Id.run (ofPhraseWith .bip39 language phrase passphrase)

/-- The wallet of the phrase that stands for an entropy. -/
def ofEntropy (language : Language) (entropy : List UInt8) (passphrase : Option String) :
    Except PhraseError Wallet := do
  let phrase ← Phrase.encode language entropy
  ofPhrase language phrase passphrase

/-- The wallet of a new phrase. -/
def generate {m : Type → Type} [Monad m] (source : EntropySource m) (language : Language)
    (words : Nat) (passphrase : Option String) : m (Except PhraseError Wallet) := do
  match ← (Generator.standard language source).generateWords words with
  | .ok phrase => return ofPhrase language phrase passphrase
  | .error error => return .error error

/-- The seed of the wallet's keys. -/
def seed (wallet : Wallet) : Seed :=
  .ofPhrase wallet.mnemonic wallet.passphrase

/-- Whether there is a passphrase. An empty one is none. -/
def hasPassphrase (wallet : Wallet) : Bool :=
  wallet.passphrase ≠ ""

/-- How many words the phrase has. -/
def wordCount (wallet : Wallet) : Nat :=
  Phrase.wordCount wallet.mnemonic

/-- A description that gives neither the phrase nor the passphrase away. -/
def description (wallet : Wallet) : String :=
  s!"Wallet \x7b language: {wallet.language.title}, words: {wallet.wordCount}, " ++
    s!"has_passphrase: {wallet.hasPassphrase}, .. \x7d"

end Wallet

end HdWallet
