/-
What the program writes without colours, line by line. A screen is a list of labels with texts;
in writing every text stands in one column behind its label, and here are the lines that come of
it (`map_render_walletScreen`, `map_render_keypairScreen`).
-/
import HdWallet.Proofs.Screens

namespace HdWallet.CommandLine

/-! ## Lines without colours -/

namespace Plain

/-- The line that tells that there is a passphrase, and not which. -/
def passphraseLine : String := "      Passphrase   (set)"

/-- The line of the text of a public key. -/
def addressLine (accountId : String) : String := "      Address      " ++ accountId

/-- The line of the text of a secret seed. -/
def seedLine (secretSeed : String) : String := "      Secret Seed  " ++ secretSeed

/-- The lines of an account. -/
def accountBlock (numbered : Bool) (account : Account) : List String :=
  (if numbered then ["      Account      [" ++ toString account.index ++ "]"] else []) ++
    ["      Path         " ++ account.path, addressLine account.accountId,
      seedLine account.secretSeed]

/-- The lines that every screen of a wallet starts with. -/
def headLines (mnemonic : String) (language : Language) : List String :=
  ["", "      Mnemonic     " ++ mnemonic, "      Language     " ++ language.name]

/-- The line on the passphrase, which stands only where there is one. -/
def passphraseLines (passphrase : String) : List String :=
  if passphrase = "" then [] else [passphraseLine]

/-- The lines behind those on the wallet: the blocks of the accounts, one blank line between two
neighbours, and a last blank line. -/
def accountBlocks (numbered : Bool) (accounts : List Account) : List String :=
  "" :: [""].intercalate (accounts.map (accountBlock numbered)) ++ [""]

/-- The lines of a wallet and some of its accounts. -/
def walletLines (wallet : Wallet) (accounts : List Account) : List String :=
  headLines wallet.mnemonic wallet.language ++ passphraseLines wallet.passphrase ++
    accountBlocks (1 < accounts.length) accounts

/-- The lines of a keypair. -/
def keypairLines (accountId secretSeed publicKeyHex : String) : List String :=
  ["", addressLine accountId, seedLine secretSeed, "      Public Key   " ++ publicKeyHex, ""]

end Plain

/-! ## Screens in writing -/

theorem map_intercalate (f : α → β) (separator : List α) (parts : List (List α)) :
    (separator.intercalate parts).map f =
      (separator.map f).intercalate (parts.map (List.map f)) := by
  induction parts with
  | nil => simp
  | cons part parts ih =>
    cases parts with
    | nil => simp
    | cons next parts =>
      rw [List.intercalate_cons_cons, List.map_append, List.map_append, ih]
      simp only [List.map_cons, List.intercalate_cons_cons]

open Plain

theorem map_render_accountLines (numbered : Bool) (account : Account) :
    (accountLines numbered account).map (Line.render false) = accountBlock numbered account := by
  cases numbered <;> rfl

theorem map_render_passphrase (wallet : Wallet) :
    (if wallet.hasPassphrase then [Line.field "Passphrase" "(set)" .dim] else []).map
      (Line.render false) = passphraseLines wallet.passphrase := by
  by_cases h : wallet.passphrase = ""
  · simp [passphraseLines, Wallet.hasPassphrase, h]
  · simp only [passphraseLines, Wallet.hasPassphrase, h, ne_eq, not_false_eq_true, decide_true,
      if_true, if_false]
    rfl

theorem map_render_walletScreen (wallet : Wallet) (accounts : List Account) :
    (walletScreen wallet accounts).map (Line.render false) = walletLines wallet accounts := by
  have hblocks : ([Line.blank].intercalate
      (accounts.map (accountLines (1 < accounts.length)))).map (Line.render false) =
      [""].intercalate (accounts.map (accountBlock (1 < accounts.length))) := by
    rw [map_intercalate, List.map_map]
    exact congrArg [""].intercalate
      (List.map_congr_left fun account _ => map_render_accountLines _ account)
  rw [walletScreen, walletLines, accountBlocks]
  simp only [List.map_append, hblocks, map_render_passphrase, List.append_assoc]
  rfl

theorem map_render_keypairScreen (pair : Keypair) :
    (keypairScreen pair).map (Line.render false) =
      keypairLines pair.accountId pair.secretSeed pair.publicKeyHex :=
  rfl

end HdWallet.CommandLine
