/-
The languages of phrases, their names, and the words of each.
-/
import HdWallet.PhraseError
import HdWallet.Unicode.LowerCase
import HdWallet.Unicode.WhiteSpace
import HdWallet.Words.English
import HdWallet.Words.Japanese
import HdWallet.Words.French
import HdWallet.Words.Spanish
import HdWallet.Words.Italian
import HdWallet.Words.Korean
import HdWallet.Words.ChineseSimplified
import HdWallet.Words.ChineseTraditional

namespace HdWallet

/-- The languages that have a word list. -/
inductive Language where
  | english
  | japanese
  | french
  | spanish
  | italian
  | korean
  | chineseSimplified
  | chineseTraditional
deriving DecidableEq, Repr

namespace Language

instance : Inhabited Language := ⟨english⟩

/-- Every language, the default one first. -/
def all : List Language :=
  [english, japanese, french, spanish, italian, korean, chineseSimplified, chineseTraditional]

/-- The name that a language is chosen by and shown as. -/
def name : Language → String
  | english => "english"
  | japanese => "japanese"
  | french => "french"
  | spanish => "spanish"
  | italian => "italian"
  | korean => "korean"
  | chineseSimplified => "chinese_simplified"
  | chineseTraditional => "chinese_traditional"

/-- The name as a title, in descriptions of wallets. -/
def title : Language → String
  | english => "English"
  | japanese => "Japanese"
  | french => "French"
  | spanish => "Spanish"
  | italian => "Italian"
  | korean => "Korean"
  | chineseSimplified => "ChineseSimplified"
  | chineseTraditional => "ChineseTraditional"

/-- The words of the language: 2048, no two the same, in decomposed form. -/
def words : Language → List String
  | english => Words.english
  | japanese => Words.japanese
  | french => Words.french
  | spanish => Words.spanish
  | italian => Words.italian
  | korean => Words.korean
  | chineseSimplified => Words.chineseSimplified
  | chineseTraditional => Words.chineseTraditional

/-- Underscores for hyphens. -/
def unhyphen (c : Char) : Char :=
  if c = '-' then '_' else c

/-- A name as it is compared: without the white space around it, in lower case, with underscores
for hyphens. -/
def fold (name : List Char) : List Char :=
  (Unicode.lowerCase (Unicode.trim name)).map unhyphen

/-- Reads the name of a language, in any case, with hyphens or underscores, and with white
space around it. -/
def parse (text : String) : Except PhraseError Language :=
  match all.find? fun language => language.name.toList = fold text.toList with
  | some language => .ok language
  | none => .error (.unsupportedLanguage text)

end Language

end HdWallet
