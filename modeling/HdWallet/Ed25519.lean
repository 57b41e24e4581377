/-
Signatures on the Edwards curve. A seed of 32 bytes is hashed into a secret factor and a
secret that makes nonces; the public key is the multiple of the generator by the factor.
-/
import HdWallet.Digest.Sha512
import HdWallet.Ed25519.Curve

namespace HdWallet.Ed25519

/-- The order of the generator. -/
def order : Nat :=
  Nat.pow 2 252 + 27742317777372353535851937790883648493

/-- What a seed expands to. -/
structure SigningKey where
  /-- The secret factor. -/
  factor : Nat
  /-- The secret that nonces are hashed from. -/
  nonceSecret : Bytes 32
  /-- The public key as a point. -/
  point : Point
  /-- The public key as bytes. -/
  publicKey : Bytes 32

/-- A digest as a factor below the order. -/
def factorOf (message : List UInt8) : Nat :=
  ofLittleEndian (Sha512.digest message).toList % order

/-- A number of 256 bits made a secret factor: a multiple of eight with its highest bit at
2^254. -/
def clamp (number : Nat) : Nat :=
  Nat.pow 2 254 + number % Nat.pow 2 254 / 8 * 8

/-- The expansion of a seed. -/
def expand (seed : Bytes 32) : SigningKey :=
  let digest : Bytes (32 + 32) := Sha512.digest seed.toList
  let factor := clamp (ofLittleEndian digest.left.toList)
  let point := Point.base.scale factor
  { factor, nonceSecret := digest.right, point, publicKey := point.encode }

namespace SigningKey

/-- The factor that binds a signature to its nonce point, the key and the message. -/
def challenge (key : SigningKey) (nonce message : List UInt8) : Nat :=
  factorOf (nonce ++ key.publicKey.toList ++ message)

/-- The signature of a message: the nonce point, then the response to the challenge. -/
def sign (key : SigningKey) (message : List UInt8) : Bytes 64 :=
  let nonce := factorOf (key.nonceSecret.toList ++ message)
  let commitment := (Point.base.scale nonce).encode
  let response := (nonce + key.challenge commitment.toList message * key.factor) % order
  commitment.append ⟨littleEndian 32 response, length_littleEndian 32 _⟩

/-- Whether a signature is one of the message. The response has to be below the order, and the
nonce point recomputed from it has to have the bytes given. -/
def verify (key : SigningKey) (message : List UInt8) (signature : Bytes (32 + 32)) : Bool :=
  let response := ofLittleEndian signature.right.toList
  let challenge := key.challenge signature.left.toList message
  let recomputed := (Point.base.scale response).add (key.point.neg.scale challenge)
  decide (response < order) && recomputed.encode = signature.left

end SigningKey

end HdWallet.Ed25519
