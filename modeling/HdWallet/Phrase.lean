/-
Phrases: texts of words that stand for entropy. A phrase is read in its normal form, Form KD
with single spaces between its words, so the white space and the composition of what is typed
do not matter. `Phrase.encode` writes entropy as words, `Phrase.decode?` reads it back, and
`Phrase.expand` completes abbreviated words.
-/
import HdWallet.Bits
import HdWallet.Digest.Sha256
import HdWallet.Language
import HdWallet.Unicode.Normalization

namespace HdWallet.Phrase

/-! ## Normal form -/

/-- The words of a text, in Form KD. -/
def tokens (text : String) : List String :=
  (Unicode.words (Unicode.compatibilityForm text.toList)).map String.ofList

/-- Words as a phrase, a space between each two. -/
def join (words : List String) : String :=
  " ".intercalate words

/-- The normal form of a phrase. -/
def normalize (text : String) : String :=
  join (tokens text)

/-- How many words a phrase has. -/
def wordCount (phrase : String) : Nat :=
  (Unicode.words phrase.toList).length

/-! ## Entropy as words -/

/-- The lengths that phrases have, in words. -/
def wordCounts : List Nat := [12, 15, 18, 21, 24]

/-- The lengths of entropy that phrases stand for, in bytes: four for each three words. -/
def entropyLengths : List Nat := [16, 20, 24, 28, 32]

/-- The checksum behind an entropy: the first bits of its digest, one for each four bytes. -/
def checksum (entropy : List UInt8) : List Bool :=
  (Bits.ofBytes (Sha256.digest entropy).toList).take (entropy.length / 4)

/-- The numbers of the words that stand for an entropy: its bits and those of the checksum,
eleven a word. -/
def wordNumbers (entropy : List UInt8) : List Nat :=
  (groups 11 (Bits.ofBytes entropy ++ checksum entropy)).map Bits.toNat

/-- The phrase that stands for an entropy. -/
def encode (language : Language) (entropy : List UInt8) : Except PhraseError String :=
  if entropy.length ∈ entropyLengths then
    .ok (join ((wordNumbers entropy).map (language.words.getD · "")))
  else
    .error (.encoding <|
      "entropy was not between 128-256 bits or not a multiple of 32 bits: " ++
        s!"{8 * entropy.length} bits")

/-- The entropy that word numbers stand for. The number of words and the checksum have to be
right. -/
def entropyOf? (numbers : List Nat) : Option (List UInt8) :=
  let bits := numbers.flatMap (Bits.ofNat 11)
  let length := numbers.length / 3 * 32
  let entropy := Bits.toBytes (bits.take length)
  if numbers.length ∈ wordCounts ∧ bits.drop length = checksum entropy then some entropy else none

/-- The entropy that a phrase stands for, if it is one of the language. -/
def decode? (language : Language) (phrase : String) : Option (List UInt8) :=
  ((tokens phrase).mapM fun word => language.words.idxOf? word).bind entropyOf?

/-- Whether a phrase is one of the language: each word in its list, and the checksum right. -/
def check (language : Language) (phrase : String) : Bool :=
  (decode? language phrase).isSome

/-! ## Abbreviations -/

/-- The fewest characters of an abbreviation. -/
def shortestAbbreviation : Nat := 4

/-- The word that a token means: itself if it is one, else the only word that starts with it.
-/
def resolve (words : List String) (token : String) : Except PhraseError String :=
  if token ∈ words then .ok token
  else if token.length < shortestAbbreviation then
    .error (.prefixTooShort token shortestAbbreviation)
  else
    match words.filter fun word => token.toList.isPrefixOf word.toList with
    | [] => .error (.unknownPrefix token)
    | [word] => .ok word
    | candidates => .error (.ambiguousPrefix token candidates)

/-- A phrase with each abbreviated word written out. The first token that means no word fails. -/
def expand (language : Language) (phrase : String) : Except PhraseError String :=
  ((tokens phrase).mapM (resolve language.words)).map join

end HdWallet.Phrase
