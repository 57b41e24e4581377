/-
The commands, and the words that lead to them.
-/

namespace HdWallet.CommandLine

/-- What the program can be told to do. -/
inductive Action where
  /-- Make a wallet and show its accounts. -/
  | newWallet
  /-- Make a single key. -/
  | randomKey
  /-- Show the accounts of a phrase. -/
  | importPhrase
  /-- Show the account of a secret key. -/
  | importKey
  /-- Make a phrase. -/
  | generatePhrase
  /-- Say whether a text is a phrase. -/
  | checkPhrase
  /-- Write the words of a phrase out. -/
  | expandPhrase
deriving DecidableEq, Repr

/-- How far the arguments have led: to the program, to a group of commands or to a command. -/
inductive Level where
  | program
  | stellar
  | mnemonic
  | action (command : Action)
deriving DecidableEq, Repr

/-- The level that a word leads to. -/
def Level.next? : Level → String → Option Level
  | program, "xlm" | program, "stellar" => some stellar
  | program, "mnemonic" => some mnemonic
  | stellar, "new" => some (action .newWallet)
  | stellar, "random" => some (action .randomKey)
  | stellar, "import" => some (action .importPhrase)
  | stellar, "import-key" => some (action .importKey)
  | mnemonic, "generate" => some (action .generatePhrase)
  | mnemonic, "check" => some (action .checkPhrase)
  | mnemonic, "expand" => some (action .expandPhrase)
  | _, _ => none

/-- The name of a level, as its version is shown under. -/
def Level.title : Level → String
  | program => "astra"
  | stellar => "astra-xlm"
  | mnemonic => "astra-mnemonic"
  | action .newWallet => "astra-xlm-new"
  | action .randomKey => "astra-xlm-random"
  | action .importPhrase => "astra-xlm-import"
  | action .importKey => "astra-xlm-import-key"
  | action .generatePhrase => "astra-mnemonic-generate"
  | action .checkPhrase => "astra-mnemonic-check"
  | action .expandPhrase => "astra-mnemonic-expand"

end HdWallet.CommandLine
