/-
What the program shows: lines of a label and a text, with or without colours. Lines are printed
one after the other, and an error takes none of them back.
-/
import HdWallet.Account

namespace HdWallet.CommandLine

/-- How a text stands out. -/
inductive Tone where
  | plain
  | label
  | dim
  | good
  | bad
deriving DecidableEq, Repr

/-- A text in the colours of its tone, for a terminal. -/
def Tone.paint (tone : Tone) (text : String) : String :=
  match tone with
  | plain => text
  | label => "\x1b[1;36m" ++ text ++ "\x1b[0m"
  | dim => "\x1b[2m" ++ text ++ "\x1b[0m"
  | good => "\x1b[32m" ++ text ++ "\x1b[0m"
  | bad => "\x1b[31m" ++ text ++ "\x1b[0m"

/-- A line: empty, or a label with a text. -/
inductive Line where
  | blank
  | field (label text : String) (tone : Tone)
deriving DecidableEq, Repr

/-- The column that texts start at, counted from that of the labels. -/
def textColumn : Nat := 13

/-- A line in writing. -/
def Line.render (coloured : Bool) : Line → String
  | blank => ""
  | field label text tone =>
    let paint (tone : Tone) (text : String) := if coloured then tone.paint text else text
    let gap := String.ofList (List.replicate (textColumn - label.length) ' ')
    "      " ++ paint .label label ++ gap ++ paint tone text

/-! ## Printing -/

/-- A part of a run, which may print lines and may end early. What is printed by then stays. -/
abbrev Session (m : Type → Type) := ExceptT Halt (StateT (List Line) m)

section

variable {m : Type → Type} [Monad m]

/-- Goes on with a value, or ends early. -/
def Session.ofResult {α : Type} (result : Except Halt α) : Session m α :=
  ExceptT.mk (pure result)

def printLine (line : Line) : Session m Unit :=
  ExceptT.lift (modify (· ++ [line]))

/-- Prints an account, its index only where it has to be told from others. -/
def printAccount (account : Account) (showIndex : Bool) : Session m Unit := do
  if showIndex then
    printLine (.field "Account" s!"[{account.index}]" .dim)
  printLine (.field "Path" account.path .plain)
  printLine (.field "Address" account.accountId .good)
  printLine (.field "Secret Seed" account.secretSeed .plain)

/-- Prints one of so many accounts, the one at place `i`, and a blank line unless it is the last. -/
def printPlace (total : Nat) (account : Account) (i : Nat) : Session m Unit := do
  printAccount account (1 < total)
  let last ← .ofResult (checkedSub total 1)
  if i < last then
    printLine .blank

def printAccounts (accounts : List Account) : Session m Unit :=
  accounts.zipIdx.forM fun (account, i) => printPlace accounts.length account i

/-- Prints a wallet and its accounts of a range of indices. -/
def printWallet (wallet : Wallet) (start count : UInt32) : Session m Unit := do
  let accounts ← .ofResult (wallet.accounts start count)
  printLine .blank
  printLine (.field "Mnemonic" wallet.mnemonic .plain)
  printLine (.field "Language" wallet.language.name .dim)
  if wallet.hasPassphrase then
    printLine (.field "Passphrase" "(set)" .dim)
  printLine .blank
  printAccounts accounts
  printLine .blank

def printKeypair (pair : Keypair) : Session m Unit := do
  printLine .blank
  printLine (.field "Address" pair.accountId .good)
  printLine (.field "Secret Seed" pair.secretSeed .plain)
  printLine (.field "Public Key" pair.publicKeyHex .dim)
  printLine .blank

def printPhrase (language : Language) (phrase : String) : Session m Unit := do
  let words := Phrase.wordCount phrase
  printLine .blank
  printLine (.field "Language" language.name .dim)
  printLine (.field "Words" s!"{words} words" .plain)
  printLine (.field "Mnemonic" phrase .good)
  printLine .blank

/-- Prints a verdict on a phrase. -/
def printCheck (language : Language) (valid : Bool) : Session m Unit := do
  printLine .blank
  printLine (.field "Language" language.name .dim)
  printLine (if valid then .field "Status" "valid" .good else .field "Status" "invalid" .bad)
  printLine .blank

end

end HdWallet.CommandLine
