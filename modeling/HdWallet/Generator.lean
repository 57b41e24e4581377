/-
New phrases from a source of entropy. The source is asked once for each phrase, and only after
the wanted length is found to be one that phrases have.
-/
import HdWallet.Bytes
import HdWallet.WordList

namespace HdWallet

/-- A source of entropy: it is handed a buffer, and hands it back filled or fails. A filled
buffer has the length of the one asked for, by its type. -/
structure EntropySource (m : Type → Type) where
  fill : {n : Nat} → Bytes n → m (Except PhraseError (Bytes n))

/-- A source over a system that is told how many bytes are wanted: whatever goes wrong with the
system is a failure of entropy. -/
def EntropySource.ofSystem {m : Type → Type} [Monad m]
    (random : (n : Nat) → m (Except String (Bytes n))) : EntropySource m where
  fill {n} _ := return (← random n).mapError .entropy

/-- Makes phrases of one language. -/
structure Generator (m : Type → Type) where
  language : Language
  wordList : WordList m
  source : EntropySource m

namespace Generator

/-- The amounts of entropy that phrases carry, in bits. -/
def strengths : List Nat := [128, 160, 192, 224, 256]

/-- The length of the buffer for entropy, in bytes. -/
def bufferLength : Nat := 32

/-- The buffer is long enough for every phrase. -/
theorem length_le_bufferLength {bits : Nat} (h : bits ∈ strengths) : bits / 8 ≤ bufferLength := by
  revert bits
  decide

/-- The amount of entropy, in bits, that a phrase of so many words carries. -/
def strengthOf (words : Nat) : Except PhraseError Nat :=
  if words ∈ Phrase.wordCounts then .ok (words / 3 * 32) else .error (.invalidWordCount words)

variable {m : Type → Type} [Monad m]

/-- Makes phrases of the standard word lists. -/
def standard (language : Language) (source : EntropySource m) : Generator m where
  language := language
  wordList := .bip39
  source := source

/-- A new phrase of so many bits of entropy. The source gets as much of a buffer of zeros as the
phrase needs. -/
def generate (generator : Generator m) (bits : Nat) : m (Except PhraseError String) := do
  if h : bits ∈ strengths then
    let buffer := Bytes.zeros bufferLength
    match ← generator.source.fill (buffer.take (bits / 8) (length_le_bufferLength h)) with
    | .ok entropy => generator.wordList.encode generator.language entropy.toList
    | .error error => return .error error
  else
    return .error (.invalidStrength bits)

/-- A new phrase of so many words. -/
def generateWords (generator : Generator m) (words : Nat) : m (Except PhraseError String) :=
  match strengthOf words with
  | .ok bits => generator.generate bits
  | .error error => return .error error

end Generator

end HdWallet
