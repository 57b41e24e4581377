/-
UTF-8, written and read. The reader says where an ill-formed text goes wrong: behind the
longest head that is well formed, and there either at a byte that cannot continue what
stands before it or at an end that comes too soon.
-/

namespace HdWallet.Unicode.Utf8

/-- The bytes of a text. -/
def encode (text : List Char) : List UInt8 :=
  text.flatMap String.utf8EncodeChar

/-- The bytes of a string. -/
def bytes (text : String) : List UInt8 :=
  encode text.toList

/-- Where a byte string stops being UTF-8: `index` is the length of its longest well-formed
head. -/
inductive Fault where
  /-- The `length` bytes that follow start a character, and the byte behind them, or the first
  of them itself, cannot go on with it. -/
  | illFormed (index length : Nat)
  /-- The input ends inside a character. -/
  | incomplete (index : Nat)
deriving DecidableEq, Repr

/-- The fault in words. -/
def Fault.message : Fault → String
  | .illFormed index length => s!"invalid utf-8 sequence of {length} bytes from index {index}"
  | .incomplete index => s!"incomplete utf-8 byte sequence from index {index}"

/-- What the first byte of a longer character promises: its own share of the code point, how
many bytes follow, and the bounds of the first of those. The bounds exclude overlong forms,
surrogates and code points past U+10FFFF. -/
structure Lead where
  payload : Nat
  following : Nat
  low : UInt8 := 0x80
  high : UInt8 := 0xBF
deriving DecidableEq, Repr

/-- Reads a byte of 0x80 or more as the first of a character. -/
def Lead.ofByte? (byte : UInt8) : Option Lead :=
  if byte < 0xC2 then none
  else if byte < 0xE0 then some { payload := byte.toNat - 0xC0, following := 1 }
  else if byte == 0xE0 then some { payload := 0, following := 2, low := 0xA0 }
  else if byte == 0xED then some { payload := 13, following := 2, high := 0x9F }
  else if byte < 0xF0 then some { payload := byte.toNat - 0xE0, following := 2 }
  else if byte == 0xF0 then some { payload := 0, following := 3, low := 0x90 }
  else if byte < 0xF4 then some { payload := byte.toNat - 0xF0, following := 3 }
  else if byte == 0xF4 then some { payload := 4, following := 3, high := 0x8F }
  else none

/-- Where the reader stands: between characters, or inside one, of which `taken` bytes are
read and `wanted + 1` are to come, the next within the bounds. -/
inductive State where
  | between
  | inside (value taken wanted : Nat) (low high : UInt8)
deriving DecidableEq, Repr

/-- Reads on from a state, `index` being the length of the complete characters read. -/
def decodeFrom (index : Nat) : State → List UInt8 → Except Fault (List Char)
  | .between, [] => .ok []
  | .between, byte :: rest =>
    if byte < 0x80 then
      (decodeFrom (index + 1) .between rest).map (Char.ofNat byte.toNat :: ·)
    else match Lead.ofByte? byte with
      | some lead =>
        decodeFrom index (.inside lead.payload 1 (lead.following - 1) lead.low lead.high) rest
      | none => .error (.illFormed index 1)
  | .inside .., [] => .error (.incomplete index)
  | .inside value taken wanted low high, byte :: rest =>
    if low ≤ byte ∧ byte ≤ high then
      let value := value * 64 + byte.toNat % 64
      match wanted with
      | 0 => (decodeFrom (index + taken + 1) .between rest).map (Char.ofNat value :: ·)
      | wanted + 1 => decodeFrom index (.inside value (taken + 1) wanted 0x80 0xBF) rest
    else .error (.illFormed index taken)

/-- Reads a byte string as UTF-8. -/
def decode (input : List UInt8) : Except Fault (List Char) :=
  decodeFrom 0 .between input

end HdWallet.Unicode.Utf8
