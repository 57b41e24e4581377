/-
Hexadecimal text of bytes: two digits a byte, written in lower case and read in either.
Reading undoes writing (`decode?_encode`).
-/
import HdWallet.Bytes

namespace HdWallet.Hex

/-- The digits, in the order of their values. -/
def digits : List Char :=
  ['0', '1', '2', '3', '4', '5', '6', '7', '8', '9', 'a', 'b', 'c', 'd', 'e', 'f']

/-- The digit of a value below 16. -/
def digit (value : Nat) : Char :=
  digits.getD value '0'

/-- The value of a digit of either case. -/
def value? (c : Char) : Option Nat :=
  digits.idxOf? c.toLower

/-- Two digits for each byte. -/
def encode (bytes : List UInt8) : String :=
  String.ofList (bytes.flatMap fun byte => [digit (byte.toNat / 16), digit (byte.toNat % 16)])

/-- The bytes of a sequence of digits. An odd digit at the end has no byte, nor has any other
character. -/
def decodeChars? : List Char → Option (List UInt8)
  | [] => some []
  | [_] => none
  | high :: low :: rest => do
    let high ← value? high
    let low ← value? low
    let bytes ← decodeChars? rest
    return UInt8.ofNat (16 * high + low) :: bytes

/-- The bytes of a text that is nothing but pairs of digits. -/
def decode? (text : String) : Option (List UInt8) :=
  decodeChars? text.toList

theorem value?_digit {value : Nat} (h : value < 16) : value? (digit value) = some value := by
  have all : ∀ v : Fin 16, value? (digit v.val) = some v.val := by decide
  exact all ⟨value, h⟩

theorem decode?_encode (bytes : List UInt8) : decode? (encode bytes) = some bytes := by
  rw [decode?, encode, String.toList_ofList]
  induction bytes with
  | nil => rfl
  | cons byte bytes ih =>
    have hbyte := byte.toNat_lt
    have join : UInt8.ofNat (16 * (byte.toNat / 16) + byte.toNat % 16) = byte := by
      rw [Nat.div_add_mod, UInt8.ofNat_toNat]
    rw [List.flatMap_cons, List.cons_append, List.cons_append, List.nil_append, decodeChars?,
      value?_digit (by omega), value?_digit (by omega), ih]
    simp only [Option.bind_eq_bind, Option.bind_some, join]
    rfl

end HdWallet.Hex
