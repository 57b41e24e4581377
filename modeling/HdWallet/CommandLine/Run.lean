/-
Running a request: the wallet or the key is made, then it is printed. An error that is reported
ends the run with status 1, behind whatever is printed by then.
-/
import HdWallet.CommandLine.Request
import HdWallet.CommandLine.Screen

namespace HdWallet.CommandLine

/-! ## Requests -/

/-- The wallet of a phrase whose words may be abbreviated. -/
def importWallet (language : Language) (phrase : String) (passphrase : Option String) :
    Except PhraseError Wallet := do
  let mnemonic ← Phrase.expand language phrase
  Wallet.ofPhrase language mnemonic passphrase

/-- The keypair of a secret seed or of hexadecimal digits. Only the former starts with S. -/
def readKey (text : String) : Except KeyError Keypair :=
  let key := Unicode.trimmed text
  if key.toList.head? = some 'S' then Keypair.ofSecretSeed key else Keypair.ofHex key

variable {m : Type → Type} [Monad m]

/-- A keypair of 32 bytes of entropy. The program does not go on without them. -/
def newKeypair (source : EntropySource m) : m (Except Halt Keypair) := do
  match ← source.fill (Bytes.zeros 32) with
  | .ok seed => return .ok { seed }
  | .error error => return .error (.panicked error.message)

/-- Does what is asked for, and prints it. -/
def Request.execute (source : EntropySource m) : Request → Session m Unit
  | newWallet words language passphrase count => do
    let made ← Wallet.generate (m := m) source language words passphrase
    let wallet ← .ofResult (made.mapError .ofPhrase)
    printWallet wallet 0 count
  | randomKey => do
    let made ← newKeypair (m := m) source
    let pair ← .ofResult made
    printKeypair pair
  | importPhrase phrase language passphrase start count => do
    let wallet ← .ofResult ((importWallet language phrase passphrase).mapError .ofPhrase)
    printWallet wallet start count
  | importKey key => do
    let pair ← .ofResult ((readKey key).mapError .reported)
    printKeypair pair
  | generatePhrase words language => do
    let made ← (Generator.standard (m := m) language source).generateWords words
    let phrase ← .ofResult (made.mapError .ofPhrase)
    printPhrase language phrase
  | checkPhrase phrase language => printCheck language (Phrase.check language phrase)
  | expandPhrase phrase language => do
    let expanded ← .ofResult ((Phrase.expand language phrase).mapError .ofPhrase)
    printPhrase language expanded

/-! ## Outcomes -/

/-- How a run ends: the exit status, and what is written. -/
structure Outcome where
  status : UInt32
  output : List String := []
  error : Option String := none
deriving DecidableEq, Repr

/-- The number of the version. -/
def versionNumber : String := "0.3.0"

/-- The outcome of a run that printed lines and came to a result. -/
def Outcome.ofSession (coloured : Bool) (result : Except Halt Unit) (printed : List Line) :
    Outcome :=
  let output := printed.map (Line.render coloured)
  match result with
  | .ok () => { status := 0, output }
  | .error (.reported error) => { status := 1, output, error := some s!"Error: {error.message}" }
  | .error (.panicked reason) => { status := 101, output, error := some reason }

/-- The outcome of arguments that ask for no action. What the reader of arguments writes of its
own, for help and about arguments that it does not understand, is left out. -/
def Stop.outcome : Stop → Outcome
  | .usage => { status := 2 }
  | .version level => { status := 0, output := [s!"{level.title} {versionNumber}"] }
  | .help => { status := 0 }

/-- Runs the program on its arguments. -/
def run (source : EntropySource m) (environment : Environment) (coloured : Bool)
    (args : List String) : m Outcome := do
  match Request.ofArguments environment args with
  | .ok request =>
    let (result, printed) ← (request.execute source).run.run []
    return .ofSession coloured result printed
  | .error stop => return stop.outcome

end HdWallet.CommandLine
