/-
What can go wrong with phrases, their words and the seeds stretched from them.
-/

namespace HdWallet

/-- Why a phrase, an entropy, a language or a seed is refused. -/
inductive PhraseError where
  /-- Text that is not UTF-8, or an empty text where one is needed. -/
  | invalidInput (reason : String)
  /-- The word list does not take the phrase: an unknown word, or a wrong checksum. -/
  | invalidMnemonic
  /-- No phrase carries this number of bits. -/
  | invalidStrength (bits : Nat)
  /-- No phrase has this number of words. -/
  | invalidWordCount (words : Nat)
  /-- No word list has this name. -/
  | unsupportedLanguage (name : String)
  /-- The source of entropy failed. -/
  | entropy (reason : String)
  /-- The entropy has no phrase. -/
  | encoding (reason : String)
  /-- An abbreviation of fewer characters than abbreviations have. -/
  | prefixTooShort (abbreviation : String) (minimum : Nat)
  /-- An abbreviation of no word. -/
  | unknownPrefix (abbreviation : String)
  /-- An abbreviation of several words. -/
  | ambiguousPrefix (abbreviation : String) (candidates : List String)
deriving DecidableEq, Repr

/-- The error in words. -/
def PhraseError.message : PhraseError → String
  | .invalidInput reason => s!"invalid input: {reason}"
  | .invalidMnemonic => "invalid mnemonic: unknown word or checksum mismatch"
  | .invalidStrength bits =>
    s!"invalid strength {bits}, must be one of 128, 160, 192, 224, or 256 bits"
  | .invalidWordCount words => s!"invalid word count {words}, must be 12, 15, 18, 21, or 24"
  | .unsupportedLanguage name => s!"unsupported mnemonic language \"{name}\""
  | .entropy reason => s!"entropy source failed: {reason}"
  | .encoding reason => s!"mnemonic encoding failed: {reason}"
  | .prefixTooShort abbreviation minimum =>
    s!"prefix \"{abbreviation}\" is too short (minimum {minimum} characters)"
  | .unknownPrefix abbreviation => s!"prefix \"{abbreviation}\" does not match any BIP-39 word"
  | .ambiguousPrefix abbreviation candidates =>
    s!"prefix \"{abbreviation}\" is ambiguous, matches: " ++ ", ".intercalate candidates

end HdWallet
