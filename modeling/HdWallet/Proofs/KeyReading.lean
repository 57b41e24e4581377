/-
A keypair is read from two kinds of text. Both readers accept exactly the spellings of a seed:
its text form with white space around it (`ofSecretSeed_eq_ok_iff`), and its hexadecimal digits in
either case, with or without the mark in front (`ofHex_eq_ok_iff`). No text is both, since the
first letter of a text form is no digit, so a command that decides by this letter which reader to
ask refuses nothing that one of them would take (`readKey_eq_ok_iff`).
-/
import HdWallet.Proofs.HexReading
import HdWallet.Proofs.ListResults
import HdWallet.Proofs.PlainOutput
import Mathlib

namespace HdWallet

namespace Keypair

/-! ## Keypairs of texts -/

/-- The keypair of a seed. What it shows, how it signs and what it takes for its signatures is
decided by the seed alone. -/
structure IsPairOf (key : Bytes 32) (pair : Keypair) : Prop where
  seed_eq : pair.seed = key
  publicKey_eq : pair.publicKey = (Ed25519.expand key).publicKey
  accountId_eq : pair.accountId = StrKey.encode .accountId (Ed25519.expand key).publicKey
  secretSeed_eq : pair.secretSeed = StrKey.encode .secretSeed key
  sign_eq : ∀ message, pair.sign message = (Ed25519.expand key).sign message
  verify_eq : ∀ message signature, pair.verify message signature =
    if (Ed25519.expand key).verify message signature then .ok () else .error .signature

theorem isPairOf_iff {key : Bytes 32} {pair : Keypair} : IsPairOf key pair ↔ pair = ⟨key⟩ := by
  constructor
  · intro h
    cases pair
    exact congrArg _ h.seed_eq
  · rintro rfl
    exact ⟨rfl, rfl, rfl, rfl, fun _ => rfl, fun _ _ => rfl⟩

/-- A keypair is one of the seed that it holds, and of no other. -/
theorem exists_isPairOf_iff {p : Bytes 32 → Prop} {pair : Keypair} :
    (∃ key, p key ∧ IsPairOf key pair) ↔ p pair.seed := by
  constructor
  · rintro ⟨key, hp, hpair⟩
    rwa [hpair.seed_eq]
  · intro hp
    exact ⟨pair.seed, hp, isPairOf_iff.2 rfl⟩

section

variable {text : String} {pair : Keypair}

theorem ofSecretSeed_eq_ok_iff : ofSecretSeed text = .ok pair ↔
    Unicode.trimmed text = StrKey.encode .secretSeed pair.seed := by
  rw [ofSecretSeed, map_eq_ok_iff]
  constructor
  · rintro ⟨key, hkey, rfl⟩
    exact StrKey.decode_eq_ok_iff.1 hkey
  · intro h
    exact ⟨pair.seed, StrKey.decode_eq_ok_iff.2 h, rfl⟩

theorem ofSecretSeed_eq_error_iff : ofSecretSeed text = .error .invalidStrKey ↔
    ∀ key, Unicode.trimmed text ≠ StrKey.encode .secretSeed key := by
  rw [ofSecretSeed, map_eq_error_iff, StrKey.decode_eq_error_iff]

end

section

variable {text : String}

theorem ofHex_eq_ok_iff {pair : Keypair} : ofHex text = .ok pair ↔
    Hex.decodeChars? (dropHexMark text.toList) = some pair.seed.toList := by
  rw [ofHex]
  cases Hex.decodeChars? (dropHexMark text.toList) with
  | none => simp
  | some bytes =>
    rw [Option.some_inj, ← Bytes.ofList?_eq_some_iff]
    dsimp only
    cases Bytes.ofList? 32 bytes with
    | none => simp
    | some key =>
      cases pair
      simp

theorem ofHex_eq_invalidHex_iff : ofHex text = .error .invalidHex ↔
    Hex.decodeChars? (dropHexMark text.toList) = none := by
  rw [ofHex]
  cases Hex.decodeChars? (dropHexMark text.toList) with
  | none => simp
  | some bytes =>
    dsimp only
    cases Bytes.ofList? 32 bytes <;> simp

theorem ofHex_eq_invalidKeyLength_iff {length : Nat} :
    ofHex text = .error (.invalidKeyLength length) ↔
      ∃ bytes, Hex.decodeChars? (dropHexMark text.toList) = some bytes ∧ bytes.length ≠ 32 ∧
        bytes.length = length := by
  rw [ofHex]
  cases Hex.decodeChars? (dropHexMark text.toList) with
  | none => simp
  | some bytes =>
    by_cases hlen : bytes.length = 32
    · simp [Bytes.ofList?, hlen]
    · simp [Bytes.ofList?, hlen]

end

/-- Pairs of digits: an even number of characters, none of which is anything but a digit. -/
def IsPairs (digits : List Char) : Prop :=
  digits.length % 2 = 0 ∧ ∀ c ∈ digits, Hex.IsDigit c

/-- Bytes are counted where the characters are digits, and then there are as many. -/
theorem not_isPairs_iff {digits : List Char} : ¬ IsPairs digits ↔
    (String.ofList digits).utf8ByteSize % 2 = 1 ∨ ∃ c ∈ digits, ¬ Hex.IsDigit c := by
  by_cases hall : ∀ c ∈ digits, Hex.IsDigit c
  · have hascii : ∀ c ∈ (String.ofList digits).toList, c.toNat < 128 := fun c hc => by
      rw [String.toList_ofList] at hc
      exact Hex.toNat_lt_of_isDigit (hall c hc)
    have hsize := StrKey.utf8ByteSize_eq_length hascii
    rw [String.length_ofList] at hsize
    have hnone : ¬ ∃ c ∈ digits, ¬ Hex.IsDigit c := fun ⟨c, hc, hnot⟩ => hnot (hall c hc)
    rw [IsPairs, hsize, or_iff_left hnone, and_iff_left hall]
    omega
  · constructor
    · intro _
      exact .inr (by simpa using hall)
    · rintro - ⟨-, hpairs⟩
      exact hall hpairs

/-- A text as hexadecimal digits: what stands behind the mark makes a keypair exactly if it is
the 64 digits of a seed, and else the first of two errors that fits is given. -/
structure IsHexReading (text : String) (digits : List Char) : Prop where
  marked : ∀ rest, text.toList = '0' :: 'x' :: rest → digits = rest
  unmarked : (∀ rest, text.toList ≠ '0' :: 'x' :: rest) → digits = text.toList
  exists_iff : (∃ pair, ofHex text = .ok pair) ↔ digits.length = 64 ∧ ∀ c ∈ digits, Hex.IsDigit c
  ok_iff : ∀ pair, ofHex text = .ok pair ↔
    ∃ key, digits.map Char.toLower = (Hex.encode key.toList).toList ∧ IsPairOf key pair
  invalidHex_iff : ofHex text = .error .invalidHex ↔
    (String.ofList digits).utf8ByteSize % 2 = 1 ∨ ∃ c ∈ digits, ¬ Hex.IsDigit c
  invalidKeyLength_iff : ∀ length, ofHex text = .error (.invalidKeyLength length) ↔
    IsPairs digits ∧ digits.length ≠ 64 ∧ length = digits.length / 2

theorem isHexReading (text : String) : IsHexReading text (dropHexMark text.toList) where
  marked rest htext := by rw [htext, dropHexMark]
  unmarked hnone := by
    unfold dropHexMark
    split
    · next rest htext => exact absurd htext (hnone rest)
    · rfl
  exists_iff := by
    simp only [ofHex_eq_ok_iff]
    constructor
    · rintro ⟨pair, hbytes⟩
      have hlen := Hex.length_eq_of_decodeChars? hbytes
      rw [pair.seed.length_toList] at hlen
      exact ⟨hlen, (Hex.exists_decodeChars?_iff.1 ⟨_, hbytes⟩).2⟩
    · rintro ⟨hlen, hall⟩
      obtain ⟨bytes, hbytes⟩ := Hex.exists_decodeChars?_iff.2 ⟨by rw [hlen], hall⟩
      have hbyteslen := Hex.length_eq_of_decodeChars? hbytes
      exact ⟨⟨⟨bytes, by omega⟩⟩, hbytes⟩
  ok_iff pair := by
    rw [ofHex_eq_ok_iff, Hex.decodeChars?_eq_some_iff, exists_isPairOf_iff]
  invalidHex_iff := by
    rw [ofHex_eq_invalidHex_iff, ← not_isPairs_iff, IsPairs, ← Hex.exists_decodeChars?_iff,
      ← Option.isSome_iff_exists, Option.not_isSome_iff_eq_none]
  invalidKeyLength_iff length := by
    rw [ofHex_eq_invalidKeyLength_iff, IsPairs, ← Hex.exists_decodeChars?_iff]
    constructor
    · rintro ⟨bytes, hbytes, hne, rfl⟩
      have hlen := Hex.length_eq_of_decodeChars? hbytes
      exact ⟨⟨bytes, hbytes⟩, by omega, by omega⟩
    · rintro ⟨⟨bytes, hbytes⟩, hne, rfl⟩
      have hlen := Hex.length_eq_of_decodeChars? hbytes
      exact ⟨bytes, hbytes, by omega, by omega⟩

/-! ## Which reader takes a text -/

/-- The letter of secret seeds is the first of what is left of the text. -/
theorem head?_trimmed_of_ofSecretSeed {text : String} {pair : Keypair}
    (h : ofSecretSeed text = .ok pair) : (Unicode.trimmed text).toList.head? = some 'S' := by
  rw [ofSecretSeed_eq_ok_iff.1 h]
  exact StrKey.head?_encode .secretSeed pair.seed

theorem mem_of_ofSecretSeed {text : String} {pair : Keypair} (h : ofSecretSeed text = .ok pair) :
    'S' ∈ text.toList := by
  have hmem := List.mem_of_mem_head? (head?_trimmed_of_ofSecretSeed h)
  obtain ⟨before, behind, -, -, htext⟩ := Unicode.isPadded_trim text.toList
  rw [Unicode.trimmed, String.toList_ofList] at hmem
  rw [htext, List.mem_append, List.mem_append]
  exact .inl (.inr hmem)

/-- Neither a digit nor the mark has the letter in it. -/
theorem not_mem_of_ofHex {text : String} {pair : Keypair} (h : ofHex text = .ok pair) :
    'S' ∉ text.toList := by
  have hreading := isHexReading text
  have hall := (hreading.exists_iff.1 ⟨pair, h⟩).2
  have hnot : 'S' ∉ dropHexMark text.toList := fun hmem => absurd (hall 'S' hmem) (by decide)
  by_cases hmark : ∃ rest, text.toList = '0' :: 'x' :: rest
  · obtain ⟨rest, htext⟩ := hmark
    rw [hreading.marked rest htext] at hnot
    rw [htext]
    simpa using hnot
  · rwa [hreading.unmarked fun rest htext => hmark ⟨rest, htext⟩] at hnot

/-- **No text is both a secret seed and hexadecimal digits.** -/
theorem not_ofSecretSeed_and_ofHex (text : String) (a b : Keypair) :
    ¬ (ofSecretSeed text = .ok a ∧ ofHex text = .ok b) := fun ⟨hseed, hhex⟩ =>
  not_mem_of_ofHex hhex (mem_of_ofSecretSeed hseed)

/-- A letter that is no digit in front is refused. -/
theorem ofHex_of_head? {text : String} {c : Char} (hhead : text.toList.head? = some c)
    (hc : ¬ Hex.IsDigit c) : ofHex text = .error .invalidHex := by
  have hreading := isHexReading text
  have hunmarked : ∀ rest, text.toList ≠ '0' :: 'x' :: rest := fun rest htext => by
    rw [htext] at hhead
    cases hhead
    exact hc (by decide)
  refine hreading.invalidHex_iff.2 (.inr ⟨c, ?_, hc⟩)
  rw [hreading.unmarked hunmarked]
  exact List.mem_of_mem_head? hhead

end Keypair

namespace CommandLine

open Keypair Unicode

/-- A text form is all that is left exactly if nothing but white space stands around it. -/
theorem trimmed_eq_encode_iff {text : String} {kind : StrKey} {key : Bytes 32} :
    trimmed text = StrKey.encode kind key ↔
      IsPadded (StrKey.encode kind key).toList text.toList := by
  constructor
  · intro h
    rw [← h, trimmed, String.toList_ofList]
    exact isPadded_trim text.toList
  · intro h
    have hne : (StrKey.encode kind key).toList ≠ [] := fun hnil => by
      have hlen := StrKey.length_toList_encode kind key
      rw [hnil] at hlen
      cases hlen
    rw [trimmed, trim_of_isPadded h hne fun _ => StrKey.isWhiteSpace_of_mem_encode,
      String.ofList_toList]

/-- The first letter decides which reader is asked, and the other would have refused. -/
theorem readKey_eq_ok_iff {text : String} {pair : Keypair} : readKey text = .ok pair ↔
    ofSecretSeed (trimmed text) = .ok pair ∨ ofHex (trimmed text) = .ok pair := by
  rw [readKey]
  split
  · next hhead =>
    have hrefused : ¬ ofHex (trimmed text) = .ok pair := fun h =>
      not_mem_of_ofHex h (List.mem_of_mem_head? hhead)
    rw [or_iff_left hrefused]
  · next hhead =>
    have hrefused : ¬ ofSecretSeed (trimmed text) = .ok pair := fun h => hhead <| by
      rw [← trimmed_trimmed]
      exact head?_trimmed_of_ofSecretSeed h
    rw [or_iff_right hrefused]

theorem readKey_accountId {text : String} {key : Bytes 32}
    (h : trimmed text = StrKey.encode .accountId key) : readKey text = .error .invalidHex := by
  have hhead : (trimmed text).toList.head? = some 'G' := h ▸ StrKey.head?_encode .accountId key
  rw [readKey]
  rw [if_neg (by rw [hhead]; decide)]
  exact ofHex_of_head? hhead (by decide)

/-- How the command for a key decides between the two kinds of text. -/
structure IsDispatch (text : String) : Prop where
  ok_iff : ∀ pair, readKey text = .ok pair ↔
    ofSecretSeed (trimmed text) = .ok pair ∨ ofHex (trimmed text) = .ok pair
  not_both : ∀ a b, ¬ (ofSecretSeed (trimmed text) = .ok a ∧ ofHex (trimmed text) = .ok b)
  of_accountId : ∀ key, trimmed text = StrKey.encode .accountId key →
    readKey text = .error .invalidHex

theorem isDispatch (text : String) : IsDispatch text where
  ok_iff _ := readKey_eq_ok_iff
  not_both := not_ofSecretSeed_and_ofHex (trimmed text)
  of_accountId _ := readKey_accountId

theorem importKey_run {m : Type → Type} [Monad m] [LawfulMonad m] (source : EntropySource m)
    {environment : Environment} (coloured : Bool) {args : List String} {text : String}
    (h : Request.ofArguments environment args = .ok (.importKey text)) :
    run source environment coloured args =
      pure (.ofScreen coloured (importKeyScreen text)) := by
  rw [run_of_request source coloured h, Request.screen, map_pure]

/-- The command succeeds exactly if one of the readers does. -/
theorem status_importKey_eq_zero_iff {coloured : Bool} {text : String} :
    (Outcome.ofScreen coloured (importKeyScreen text)).status = 0 ↔
      (∃ pair, ofSecretSeed (trimmed text) = .ok pair) ∨ ∃ pair, ofHex (trimmed text) = .ok pair := by
  rw [← exists_or]
  simp only [← readKey_eq_ok_iff]
  rw [importKeyScreen]
  cases readKey text with
  | error e => simp [Except.mapError, Except.bind, Outcome.ofScreen]
  | ok pair => simp [Except.mapError, Except.bind, Outcome.ofScreen]

/-- **Keys are read from exactly the spellings that they have.** A text makes the keypair of a seed
as a secret seed exactly if the text form of the seed is left when it is trimmed, and as
hexadecimal digits exactly if it is the 64 digits of the seed in either case, behind the mark or
without it; otherwise the error is decided by the text alone. All spellings of a seed make the
keypair that the seed alone decides. The command for keys asks one of the two readers and succeeds
exactly if either would; no text is of both kinds, and no account id is of one. -/
theorem keys_of_spellings :
    (∀ text pair, ofSecretSeed text = .ok pair ↔
      ∃ key, trimmed text = StrKey.encode .secretSeed key ∧ IsPairOf key pair) ∧
    (∀ text, ofSecretSeed text = .error .invalidStrKey ↔
      ∀ key, trimmed text ≠ StrKey.encode .secretSeed key) ∧
    (∀ text kind key, trimmed text = StrKey.encode kind key ↔
      IsPadded (StrKey.encode kind key).toList text.toList) ∧
    (∀ text, ∃ digits, IsHexReading text digits) ∧
    (∀ text, IsDispatch text) ∧
    ∀ (m : Type → Type) [Monad m] [LawfulMonad m] (source : EntropySource m)
      (environment : Environment) (coloured : Bool) (args : List String) (text : String),
      Request.ofArguments environment args = .ok (.importKey text) →
        ∃ outcome, run source environment coloured args = pure outcome ∧
          (outcome.status = 0 ↔ (∃ pair, ofSecretSeed (trimmed text) = .ok pair) ∨
            ∃ pair, ofHex (trimmed text) = .ok pair) := by
  refine ⟨fun text pair => ?_, fun text => ofSecretSeed_eq_error_iff,
    fun text kind key => trimmed_eq_encode_iff, fun text => ⟨_, isHexReading text⟩, isDispatch, ?_⟩
  · rw [ofSecretSeed_eq_ok_iff, exists_isPairOf_iff]
  · intro m _ _ source environment coloured args text h
    exact ⟨_, importKey_run source coloured h, status_importKey_eq_zero_iff⟩

/-- The key of 32 zero bytes is taken in hexadecimal digits behind the mark. -/
theorem importKey_zeros :
    Request.ofArguments {} ["xlm", "import-key", "--key", "0x" ++ "".pushn '0' 64] =
      .ok (.importKey ("0x" ++ "".pushn '0' 64)) ∧
    ofHex (trimmed ("0x" ++ "".pushn '0' 64)) = .ok ⟨Bytes.zeros 32⟩ ∧
    ∃ outcome, run (m := Id) ⟨fun buffer => .ok buffer⟩ {} false
      ["xlm", "import-key", "--key", "0x" ++ "".pushn '0' 64] = pure outcome ∧
      outcome.status = 0 := by
  have hargs : Request.ofArguments {} ["xlm", "import-key", "--key", "0x" ++ "".pushn '0' 64] =
      .ok (.importKey ("0x" ++ "".pushn '0' 64)) := by decide
  have hkey : ofHex (trimmed ("0x" ++ "".pushn '0' 64)) = .ok ⟨Bytes.zeros 32⟩ := by decide +kernel
  obtain ⟨outcome, hrun, hstatus⟩ := keys_of_spellings.2.2.2.2.2 Id ⟨fun buffer => .ok buffer⟩ {}
    false _ _ hargs
  exact ⟨hargs, hkey, outcome, hrun, hstatus.2 (.inr ⟨_, hkey⟩)⟩

end CommandLine

end HdWallet
