/-
What a request prints. Printing never fails, and all that can fail in a request is done before its
first line is printed, so a request shows its screen whole or ends with nothing printed
(`execute_run`). The one thing done between two lines that might fail is to reckon which account
is the last; it is done once for each account, so there is one when it is done (`prints_from`).
-/
import HdWallet.CommandLine.Run
import HdWallet.Proofs.AccountRange
import Mathlib.Data.List.Basic

namespace HdWallet.CommandLine

/-! ## Screens -/

/-- The lines of an account, its index among them only where it has to be told from others. -/
def accountLines (showIndex : Bool) (account : Account) : List Line :=
  (if showIndex then [Line.field "Account" s!"[{account.index}]" .dim] else []) ++
    [Line.field "Path" account.path .plain,
      Line.field "Address" account.accountId .good,
      Line.field "Secret Seed" account.secretSeed .plain]

/-- The screen of a wallet and some of its accounts, a blank line between each two. -/
def walletScreen (wallet : Wallet) (accounts : List Account) : List Line :=
  [Line.blank,
    Line.field "Mnemonic" wallet.mnemonic .plain,
    Line.field "Language" wallet.language.name .dim] ++
  (if wallet.hasPassphrase then [Line.field "Passphrase" "(set)" .dim] else []) ++
  [Line.blank] ++
  [Line.blank].intercalate (accounts.map (accountLines (1 < accounts.length))) ++
  [Line.blank]

/-- The screen of a wallet with `count` accounts from `start` on. -/
def accountsScreen (wallet : Wallet) (start count : UInt32) : Except Halt (List Line) :=
  (wallet.accounts start count).map (walletScreen wallet)

/-- The screen of a keypair. -/
def keypairScreen (pair : Keypair) : List Line :=
  [.blank,
    .field "Address" pair.accountId .good,
    .field "Secret Seed" pair.secretSeed .plain,
    .field "Public Key" pair.publicKeyHex .dim,
    .blank]

/-- The screen of a phrase. -/
def phraseScreen (language : Language) (phrase : String) : List Line :=
  [.blank,
    .field "Language" language.name .dim,
    .field "Words" s!"{Phrase.wordCount phrase} words" .plain,
    .field "Mnemonic" phrase .good,
    .blank]

/-- The screen of a verdict on a phrase. -/
def checkScreen (language : Language) (valid : Bool) : List Line :=
  [.blank,
    .field "Language" language.name .dim,
    if valid then .field "Status" "valid" .good else .field "Status" "invalid" .bad,
    .blank]

/-- The screen of an imported phrase. -/
def importScreen (language : Language) (phrase : String) (passphrase : Option String)
    (start count : UInt32) : Except Halt (List Line) :=
  ((importWallet language phrase passphrase).mapError .ofPhrase).bind fun wallet =>
    accountsScreen wallet start count

/-- The screen of an imported key. -/
def importKeyScreen (text : String) : Except Halt (List Line) :=
  ((readKey text).mapError .reported).bind fun pair => .ok (keypairScreen pair)

/-! ## Parts of a run -/

/-- How a run goes on from lines that are printed already, if there is a screen to show or an error
instead: all of the screen is printed, or nothing. -/
def afterScreen (printed : List Line) : Except Halt (List Line) → Except Halt Unit × List Line
  | .ok lines => (.ok (), printed ++ lines)
  | .error halt => (.error halt, printed)

section

variable {m : Type → Type} [Monad m]

/-- A part of a run that shows a screen, or ends early and prints nothing. -/
def Shows (session : Session m Unit) (screen : Except Halt (List Line)) : Prop :=
  ∀ printed, session.run.run printed = pure (afterScreen printed screen)

/-- A part of a run that prints lines and goes on. -/
def Prints (session : Session m Unit) (lines : List Line) : Prop :=
  Shows session (.ok lines)

theorem prints_pure : Prints (pure () : Session m Unit) [] := fun printed => by
  simp [afterScreen]

theorem ofResult_ok {α : Type} (a : α) : (Session.ofResult (.ok a) : Session m α) = pure a := rfl

variable [LawfulMonad m] {α : Type}

theorem lift_bind_run (x : m α) (f : α → Session m Unit) (printed : List Line) :
    ((liftM x : Session m α) >>= f).run.run printed = x >>= fun a => (f a).run.run printed := by
  simp

theorem shows_ofResult_bind {result : Except Halt α} {f : α → Session m Unit}
    {screen : α → Except Halt (List Line)} (h : ∀ a, Shows (f a) (screen a)) :
    Shows (Session.ofResult result >>= f) (result.bind screen) := by
  intro printed
  cases result with
  | error halt => simp [Session.ofResult, afterScreen, Except.bind]
  | ok a =>
    rw [ofResult_ok, pure_bind]
    exact h a printed

/-- Something is made before anything is printed, and a screen shows it unless that fails. -/
theorem lift_ofResult_run {β : Type} {x : m β} {result : β → Except Halt α}
    {f : α → Session m Unit} {screen : α → Except Halt (List Line)}
    (h : ∀ a, Shows (f a) (screen a)) (printed : List Line) :
    ((liftM x : Session m β) >>= fun made => Session.ofResult (result made) >>= f).run.run
        printed = afterScreen printed <$> (x >>= fun made => pure ((result made).bind screen)) := by
  rw [lift_bind_run, map_bind]
  refine bind_congr fun made => ?_
  rw [map_pure]
  exact shows_ofResult_bind h printed

theorem prints_printLine (line : Line) : Prints (printLine line : Session m Unit) [line] :=
  fun printed => by simp [printLine, afterScreen]

/-- What is printed first stays, whatever comes of the rest. -/
theorem Prints.bind {first next : Session m Unit} {lines rest : List Line}
    (hfirst : Prints first lines) (hnext : Prints next rest) :
    Prints (first >>= fun _ => next) (lines ++ rest) := by
  intro printed
  simp only [ExceptT.run_bind, StateT.run_bind, hfirst printed, pure_bind, afterScreen]
  rw [hnext]
  simp [afterScreen]

/-- A line in front of what is printed otherwise. -/
theorem Prints.line {next : Session m Unit} {rest : List Line} (hnext : Prints next rest)
    (line : Line) : Prints (printLine line >>= fun _ => next) (line :: rest) :=
  (prints_printLine line).bind hnext

/-- A line in front of what is printed otherwise, if it is wanted. -/
theorem Prints.lineIf {next : Session m Unit} {rest : List Line} (hnext : Prints next rest)
    (condition : Bool) (line : Line) :
    Prints (if condition then printLine line >>= fun _ => next else next)
      ((if condition then [line] else []) ++ rest) := by
  cases condition with
  | false => exact hnext
  | true => exact hnext.line line

/-! ## Accounts -/

theorem prints_printAccount (account : Account) (showIndex : Bool) :
    Prints (printAccount account showIndex : Session m Unit) (accountLines showIndex account) :=
  (((prints_printLine _).line _).line _).lineIf showIndex _

/-- **One turn of the loop.** There is a last place as there is this one, so the turn does not
fail. -/
theorem prints_printPlace {total i : Nat} (h : i < total) (account : Account) :
    Prints (printPlace total account i : Session m Unit)
      (accountLines (1 < total) account ++ if i + 1 < total then [.blank] else []) := by
  have hlast : checkedSub total 1 = .ok (total - 1) := checkedSub_of_le (by omega)
  have hblank : Prints (if i < total - 1 then printLine .blank else pure () : Session m Unit)
      (if i + 1 < total then [.blank] else []) := by
    by_cases hi : i + 1 < total
    · rw [if_pos hi, if_pos (by omega)]
      exact prints_printLine _
    · rw [if_neg hi, if_neg (by omega)]
      exact prints_pure
  rw [printPlace, hlast]
  refine (prints_printAccount account _).bind ?_
  rwa [ofResult_ok, pure_bind]

/-- **The loop from a place on**, with the accounts of that place and of those behind it. -/
theorem prints_from {total : Nat} (accounts : List Account) (i : Nat)
    (h : i + accounts.length = total) :
    Prints ((accounts.zipIdx i).forM fun (account, i) => printPlace total account i : Session m Unit)
      ([Line.blank].intercalate (accounts.map (accountLines (1 < total)))) := by
  induction accounts generalizing i with
  | nil => exact prints_pure
  | cons account accounts ih =>
    have hrest := ih (i + 1) (by rw [← h, List.length_cons]; omega)
    have hturn : Prints (printPlace total account i : Session m Unit) _ :=
      prints_printPlace (by rw [← h, List.length_cons]; omega) account
    have hboth := hturn.bind hrest
    rw [List.zipIdx_cons]
    cases accounts with
    | nil =>
      rw [if_neg (by rw [← h]; simp)] at hboth
      simpa using hboth
    | cons next accounts =>
      rw [if_pos (by rw [← h]; simp)] at hboth
      simpa using hboth

theorem prints_printAccounts (accounts : List Account) :
    Prints (printAccounts accounts : Session m Unit)
      ([Line.blank].intercalate (accounts.map (accountLines (1 < accounts.length)))) :=
  prints_from accounts 0 (Nat.zero_add _)

/-- **A wallet is shown with all accounts that are asked for, or not at all.** -/
theorem shows_printWallet (wallet : Wallet) (start count : UInt32) :
    Shows (printWallet wallet start count : Session m Unit) (accountsScreen wallet start count) := by
  have hscreen : accountsScreen wallet start count =
      (wallet.accounts start count).bind fun accounts => .ok (walletScreen wallet accounts) := by
    cases h : wallet.accounts start count <;> rw [accountsScreen, h] <;> rfl
  rw [hscreen]
  refine shows_ofResult_bind fun accounts => ?_
  have hlines : walletScreen wallet accounts = .blank ::
      .field "Mnemonic" wallet.mnemonic .plain :: .field "Language" wallet.language.name .dim ::
      ((if wallet.hasPassphrase then [.field "Passphrase" "(set)" .dim] else []) ++ .blank ::
        ([Line.blank].intercalate (accounts.map (accountLines (1 < accounts.length))) ++
          [.blank])) := by
    simp [walletScreen]
  have haccounts := (prints_printAccounts (m := m) accounts).bind (prints_printLine .blank)
  rw [hlines]
  exact ((((haccounts.line _).lineIf _ _).line _).line _).line _

/-! ## Requests -/

theorem prints_printKeypair (pair : Keypair) :
    Prints (printKeypair pair : Session m Unit) (keypairScreen pair) :=
  ((((prints_printLine _).line _).line _).line _).line _

theorem prints_printPhrase (language : Language) (phrase : String) :
    Prints (printPhrase language phrase : Session m Unit) (phraseScreen language phrase) :=
  ((((prints_printLine _).line _).line _).line _).line _

theorem prints_printCheck (language : Language) (valid : Bool) :
    Prints (printCheck language valid : Session m Unit) (checkScreen language valid) :=
  (((prints_printLine _).line _).line _).line _

/-- The screen that a request is for, or the error there is instead. -/
def Request.screen (source : EntropySource m) : Request → m (Except Halt (List Line))
  | newWallet words language passphrase count => do
    let made ← Wallet.generate source language words passphrase
    return (made.mapError .ofPhrase).bind fun wallet => accountsScreen wallet 0 count
  | randomKey => do
    let made ← newKeypair source
    return made.bind fun pair => .ok (keypairScreen pair)
  | importPhrase phrase language passphrase start count =>
    return importScreen language phrase passphrase start count
  | importKey key => return importKeyScreen key
  | generatePhrase words language => do
    let made ← (Generator.standard language source).generateWords words
    return (made.mapError .ofPhrase).bind fun phrase => .ok (phraseScreen language phrase)
  | checkPhrase phrase language => return .ok (checkScreen language (Phrase.check language phrase))
  | expandPhrase phrase language =>
    return ((Phrase.expand language phrase).mapError .ofPhrase).bind fun expanded =>
      .ok (phraseScreen language expanded)

/-- **A request shows its screen whole or prints nothing.** -/
theorem execute_run (source : EntropySource m) (request : Request) (printed : List Line) :
    (request.execute source).run.run printed =
      afterScreen printed <$> request.screen source := by
  cases request with
  | newWallet words language passphrase count =>
    exact lift_ofResult_run (fun wallet => shows_printWallet wallet 0 count) printed
  | randomKey => exact lift_ofResult_run (fun pair => prints_printKeypair pair) printed
  | importPhrase phrase language passphrase start count =>
    rw [Request.execute, Request.screen, map_pure]
    exact shows_ofResult_bind (fun wallet => shows_printWallet wallet start count) printed
  | importKey key =>
    rw [Request.execute, Request.screen, map_pure]
    exact shows_ofResult_bind (fun pair => prints_printKeypair pair) printed
  | generatePhrase words language =>
    exact lift_ofResult_run (fun phrase => prints_printPhrase language phrase) printed
  | checkPhrase phrase language =>
    rw [Request.execute, Request.screen, map_pure]
    exact prints_printCheck language _ printed
  | expandPhrase phrase language =>
    rw [Request.execute, Request.screen, map_pure]
    exact shows_ofResult_bind (fun expanded => prints_printPhrase language expanded) printed

/-! ## Runs -/

/-- The outcome of a run that has a screen to show, or an error instead. -/
def Outcome.ofScreen (coloured : Bool) : Except Halt (List Line) → Outcome
  | .ok lines => { status := 0, output := lines.map (Line.render coloured) }
  | .error (.reported error) => { status := 1, error := some s!"Error: {error.message}" }
  | .error (.panicked reason) => { status := 101, error := some reason }

/-- What the arguments ask for is all that counts, and an error leaves the output empty. -/
theorem run_of_request (source : EntropySource m) {environment : Environment}
    {args : List String} {request : Request} (coloured : Bool)
    (h : Request.ofArguments environment args = .ok request) :
    run source environment coloured args =
      Outcome.ofScreen coloured <$> request.screen source := by
  rw [run, h]
  dsimp only
  rw [execute_run, bind_map_left, map_eq_pure_bind]
  refine bind_congr fun screen => ?_
  rcases screen with ⟨error | reason⟩ | lines <;> rfl

end

end HdWallet.CommandLine
