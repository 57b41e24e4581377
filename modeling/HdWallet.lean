import HdWallet.Main
import HdWallet.Proofs.AccountRange
import HdWallet.Proofs.StrKeyCoding
import HdWallet.Proofs.WalletRecovery
import HdWallet.Proofs.WalletSeed
import HdWallet.Proofs.PhraseExpansion
import HdWallet.Proofs.AccountViews
import HdWallet.Proofs.BurstErrors
import HdWallet.Proofs.TypingErrors
import HdWallet.Proofs.PassphraseIndependence
import HdWallet.Proofs.GeneratorRuns
import HdWallet.Proofs.HardenedWalks
import HdWallet.Proofs.SpacedTexts
import HdWallet.Proofs.AbbreviationMeaning
import HdWallet.Proofs.EnglishAbbreviations
import HdWallet.Proofs.PhraseSpacing
import HdWallet.Proofs.SeedStretching
import HdWallet.Proofs.SeedBytes
import HdWallet.Proofs.LanguageNames
