/-
Requests: an action with everything it needs, the defaults and the environment filled in.
-/
import HdWallet.CommandLine.Arguments

namespace HdWallet.CommandLine

/-- The variables that stand in for settings. An argument beats them. -/
structure Environment where
  language : Option String := none
  passphrase : Option String := none
deriving DecidableEq, Repr

/-- What the program is asked for. -/
inductive Request where
  | newWallet (words : Nat) (language : Language) (passphrase : Option String) (count : UInt32)
  | randomKey
  | importPhrase (phrase : String) (language : Language) (passphrase : Option String)
    (start count : UInt32)
  | importKey (key : String)
  | generatePhrase (words : Nat) (language : Language)
  | checkPhrase (phrase : String) (language : Language)
  | expandPhrase (phrase : String) (language : Language)
deriving DecidableEq, Repr

/-- The number of words of a new phrase, unless another is given. -/
def defaultWords : Nat := 24

/-- A setting that has to be given. -/
def required (value : Option α) : Except Stop α :=
  match value with
  | some value => .ok value
  | none => .error .usage

/-- The language: the one given, else that of the environment, else the default. -/
def chooseLanguage (environment : Environment) (given : Given) : Except Stop Language :=
  match given.language, environment.language with
  | some language, _ => .ok language
  | none, some name => required (readLanguage? name)
  | none, none => .ok default

/-- The request for an action. -/
def makeRequest (environment : Environment) (given : Given) : Action → Except Stop Request
  | .newWallet => do
    let language ← chooseLanguage environment given
    return .newWallet (given.words.getD defaultWords) language
      (given.passphrase <|> environment.passphrase) (given.count.getD 1)
  | .randomKey => return .randomKey
  | .importPhrase => do
    let phrase ← required given.mnemonic
    let language ← chooseLanguage environment given
    return .importPhrase phrase language (given.passphrase <|> environment.passphrase)
      (given.start.getD 0) (given.count.getD 1)
  | .importKey => do
    let key ← required given.key
    return .importKey key
  | .generatePhrase => do
    let language ← chooseLanguage environment given
    return .generatePhrase (given.words.getD defaultWords) language
  | .checkPhrase => do
    let phrase ← required given.mnemonic
    let language ← chooseLanguage environment given
    return .checkPhrase phrase language
  | .expandPhrase => do
    let phrase ← required given.mnemonic
    let language ← chooseLanguage environment given
    return .expandPhrase phrase language

/-- What a list of arguments asks for. -/
def Request.ofArguments (environment : Environment) (args : List String) :
    Except Stop Request := do
  let (action, given) ← readArguments .program none {} args
  makeRequest environment given action

end HdWallet.CommandLine
