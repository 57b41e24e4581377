/-
Settings, the options that take a value, and reading their values. A value is read as soon as
it is met, and a setting is given once at most.
-/
import HdWallet.CommandLine.Command
import HdWallet.Language

namespace HdWallet.CommandLine

/-- The options that take a value. -/
inductive Setting where
  | words
  | language
  | passphrase
  | count
  | start
  | mnemonic
  | key
deriving DecidableEq, Repr

namespace Setting

/-- The long name of a setting, written behind two hyphens. -/
def long : Setting → String
  | words => "words"
  | language => "language"
  | passphrase => "passphrase"
  | count => "count"
  | start => "start"
  | mnemonic => "mnemonic"
  | key => "key"

/-- The short name of a setting, written behind one hyphen. -/
def short : Setting → Char
  | words => 'w'
  | language => 'l'
  | passphrase => 'p'
  | count => 'c'
  | start => 's'
  | mnemonic => 'm'
  | key => 'k'

end Setting

/-- The settings of a command. -/
def Action.settings : Action → List Setting
  | newWallet => [.words, .language, .passphrase, .count]
  | randomKey => []
  | importPhrase => [.mnemonic, .language, .passphrase, .start, .count]
  | importKey => [.key]
  | generatePhrase => [.words, .language]
  | checkPhrase | expandPhrase => [.mnemonic, .language]

/-- The settings that can be given at a level. -/
def Level.settings : Level → List Setting
  | .action command => command.settings
  | _ => []

/-! ## Values -/

/-- A number in decimal digits, at least one. -/
def readDigits? (digits : List Char) : Option Nat :=
  if digits ≠ [] ∧ digits.all Char.isDigit then
    some (digits.foldl (fun number digit => 10 * number + (digit.toNat - '0'.toNat)) 0)
  else none

/-- A count of words: digits, with or without a plus sign, below 2^64. -/
def readCount? (text : String) : Option Nat :=
  let digits := match text.toList with
    | '+' :: digits => digits
    | digits => digits
  (readDigits? digits).filter (· < UInt64.size)

/-- An index or a number of accounts: digits with or without a sign, from 0 to 2^32 - 1. -/
def readIndex? (text : String) : Option UInt32 :=
  let number := match text.toList with
    | '-' :: digits => (readDigits? digits).filter (· = 0)
    | '+' :: digits => readDigits? digits
    | digits => readDigits? digits
  (number.filter (· < UInt32.size)).map UInt32.ofNat

/-- A language by its exact name. The names of two words can have a hyphen in the middle. -/
def readLanguage? (text : String) : Option Language :=
  match text with
  | "chinese-simplified" => some .chineseSimplified
  | "chinese-traditional" => some .chineseTraditional
  | _ => Language.all.find? fun language => language.name = text

/-- What was given at one level. -/
structure Given where
  verbose : Bool := false
  words : Option Nat := none
  language : Option Language := none
  passphrase : Option String := none
  count : Option UInt32 := none
  start : Option UInt32 := none
  mnemonic : Option String := none
  key : Option String := none
deriving DecidableEq, Repr

namespace Given

/-- Puts a value in a place that has to be empty. -/
def fill? (place : Option α) (value : Option α) : Option (Option α) :=
  match place, value with
  | none, some value => some (some value)
  | _, _ => none

/-- Takes the value of a setting, unless there is one already or it cannot be read. -/
def record? (given : Given) (setting : Setting) (text : String) : Option Given :=
  match setting with
  | .words => (fill? given.words (readCount? text)).map ({ given with words := · })
  | .language => (fill? given.language (readLanguage? text)).map ({ given with language := · })
  | .passphrase => (fill? given.passphrase (some text)).map ({ given with passphrase := · })
  | .count => (fill? given.count (readIndex? text)).map ({ given with count := · })
  | .start => (fill? given.start (readIndex? text)).map ({ given with start := · })
  | .mnemonic => (fill? given.mnemonic (some text)).map ({ given with mnemonic := · })
  | .key => (fill? given.key (some text)).map ({ given with key := · })

/-- Takes the flag for more output, once. -/
def recordVerbose? (given : Given) : Option Given :=
  if given.verbose then none else some { given with verbose := true }

end Given

end HdWallet.CommandLine
