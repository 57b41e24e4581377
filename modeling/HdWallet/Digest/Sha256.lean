/-
The hash function SHA-256.
-/
import HdWallet.Bytes

namespace HdWallet.Sha256

/-- The eight words that a message is mixed into. -/
structure State where
  a : UInt32
  b : UInt32
  c : UInt32
  d : UInt32
  e : UInt32
  f : UInt32
  g : UInt32
  h : UInt32

/-- The state before any message: the square roots of the first eight primes, their first 32
fractional bits. -/
def State.initial : State :=
  { a := 0x6A09E667, b := 0xBB67AE85, c := 0x3C6EF372, d := 0xA54FF53A,
    e := 0x510E527F, f := 0x9B05688C, g := 0x1F83D9AB, h := 0x5BE0CD19 }

/-- One constant a round: the cube roots of the first 64 primes, their first 32 fractional
bits. -/
def roundConstants : List UInt32 := [
  0x428A2F98, 0x71374491, 0xB5C0FBCF, 0xE9B5DBA5, 0x3956C25B, 0x59F111F1, 0x923F82A4, 0xAB1C5ED5,
  0xD807AA98, 0x12835B01, 0x243185BE, 0x550C7DC3, 0x72BE5D74, 0x80DEB1FE, 0x9BDC06A7, 0xC19BF174,
  0xE49B69C1, 0xEFBE4786, 0x0FC19DC6, 0x240CA1CC, 0x2DE92C6F, 0x4A7484AA, 0x5CB0A9DC, 0x76F988DA,
  0x983E5152, 0xA831C66D, 0xB00327C8, 0xBF597FC7, 0xC6E00BF3, 0xD5A79147, 0x06CA6351, 0x14292967,
  0x27B70A85, 0x2E1B2138, 0x4D2C6DFC, 0x53380D13, 0x650A7354, 0x766A0ABB, 0x81C2C92E, 0x92722C85,
  0xA2BFE8A1, 0xA81A664B, 0xC24B8B70, 0xC76C51A3, 0xD192E819, 0xD6990624, 0xF40E3585, 0x106AA070,
  0x19A4C116, 0x1E376C08, 0x2748774C, 0x34B0BCB5, 0x391C0CB3, 0x4ED8AA4A, 0x5B9CCA4F, 0x682E6FF3,
  0x748F82EE, 0x78A5636F, 0x84C87814, 0x8CC70208, 0x90BEFFFA, 0xA4506CEB, 0xBEF9A3F7, 0xC67178F2]

/-- A word turned right by `count` bits, `0 < count < 32`. -/
def rotateRight (word count : UInt32) : UInt32 :=
  (word >>> count) ||| (word <<< (32 - count))

/-- The sixteen words of a block, and the forty-eight that follow from them: each from the
ones two, seven, fifteen and sixteen places back. -/
def schedule (block : List UInt32) : Array UInt32 :=
  let extend (words : Array UInt32) : Array UInt32 :=
    let back (n : Nat) : UInt32 := words.getD (words.size - n) 0
    let x := back 2
    let y := back 15
    words.push <|
      (rotateRight x 17 ^^^ rotateRight x 19 ^^^ (x >>> 10)) + back 7 +
        (rotateRight y 7 ^^^ rotateRight y 18 ^^^ (y >>> 3)) + back 16
  Nat.repeat extend 48 block.toArray

/-- One round, given the sum of the round's constant and its word of the schedule. -/
def State.round (s : State) (word : UInt32) : State :=
  let t1 := s.h + (rotateRight s.e 6 ^^^ rotateRight s.e 11 ^^^ rotateRight s.e 25) +
    ((s.e &&& s.f) ^^^ (~~~s.e &&& s.g)) + word
  let t2 := (rotateRight s.a 2 ^^^ rotateRight s.a 13 ^^^ rotateRight s.a 22) +
    ((s.a &&& s.b) ^^^ (s.a &&& s.c) ^^^ (s.b &&& s.c))
  { a := t1 + t2, b := s.a, c := s.b, d := s.c, e := s.d + t1, f := s.e, g := s.f, h := s.g }

/-- Mixes a block of sixteen words into the state. -/
def State.absorb (s : State) (block : List UInt32) : State :=
  let r := (List.zipWith (· + ·) roundConstants (schedule block).toList).foldl State.round s
  { a := s.a + r.a, b := s.b + r.b, c := s.c + r.c, d := s.d + r.d,
    e := s.e + r.e, f := s.f + r.f, g := s.g + r.g, h := s.h + r.h }

/-- The state as bytes, each word with its most significant byte first. -/
def State.toBytes (s : State) : Bytes 32 where
  toList := [s.a, s.b, s.c, s.d, s.e, s.f, s.g, s.h].flatMap fun word => bigEndian 4 word.toNat
  length_toList := by simp [length_bigEndian]

/-- A message filled up to whole blocks of 64 bytes: a byte 0x80, zeros, and the message's
length in bits as eight bytes. -/
def pad (message : List UInt8) : List UInt8 :=
  let zeros := (119 - message.length % 64) % 64
  message ++ 0x80 :: List.replicate zeros 0 ++ bigEndian 8 (8 * message.length)

/-- Four bytes as a word, the first the most significant. -/
def word (bytes : List UInt8) : UInt32 :=
  bytes.foldl (fun word byte => (word <<< 8) ||| byte.toUInt32) 0

/-- The digest of a message. -/
def digest (message : List UInt8) : Bytes 32 :=
  let blocks := groups 16 ((groups 4 (pad message)).map word)
  (blocks.foldl State.absorb .initial).toBytes

end HdWallet.Sha256
