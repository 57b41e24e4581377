/-
The Edwards curve -x² + y² = 1 + d x² y² over the field of 2^255 - 19 elements, its group law
in extended coordinates, and the bytes of a point.
-/
import HdWallet.Bytes

namespace HdWallet.Ed25519

/-! ## The field -/

/-- The number of elements of the field. -/
def fieldSize : Nat := Nat.pow 2 255 - 19

instance : @NeZero Nat Zero.ofOfNat0 fieldSize := ⟨by decide⟩

/-- The elements of the field. -/
abbrev Field := Fin fieldSize

namespace Field

/-- A power by repeated squaring, the exponent given by its bits, the lowest first. -/
def power (x : Field) : List Bool → Field
  | [] => 1
  | bit :: bits =>
    let root := power x bits
    if bit then root * root * x else root * root

/-- The `count` low bits of a number, the lowest first. -/
def lowBits (count number : Nat) : List Bool :=
  (List.range count).map number.testBit

/-- The inverse of an element other than zero, by Fermat's theorem. -/
def inverse (x : Field) : Field :=
  power x (lowBits 255 (fieldSize - 2))

end Field

/-! ## Points -/

/-- A point (X/Z, Y/Z) with T = XY/Z. -/
structure Point where
  x : Field
  y : Field
  z : Field
  t : Field

namespace Point

/-- The coefficient d of the curve, -121665/121666. -/
def coefficient : Field :=
  Fin.ofNat fieldSize
    0x52036CEE2B6FFE738CC740797779E89800700A4D4141D8AB75EB4DCA135978A3

/-- The neutral element (0, 1). -/
def zero : Point := { x := 0, y := 1, z := 1, t := 0 }

/-- The generator, the point with y = 4/5 and even x. -/
def base : Point :=
  let x := Fin.ofNat fieldSize
    0x216936D3CD6E53FEC0A4E231FDD6DC5C692CC7609525A7B2C9562D608F25D51A
  let y := Fin.ofNat fieldSize
    0x6666666666666666666666666666666666666666666666666666666666666658
  { x, y, z := 1, t := x * y }

/-- The sum of two points; the formulas hold for all points of the curve. -/
def add (p q : Point) : Point :=
  let a := (p.y - p.x) * (q.y - q.x)
  let b := (p.y + p.x) * (q.y + q.x)
  let c := p.t * (2 * coefficient) * q.t
  let d := p.z * 2 * q.z
  let e := b - a
  let f := d - c
  let g := d + c
  let h := b + a
  { x := e * f, y := g * h, z := f * g, t := e * h }

/-- The point opposite. -/
def neg (p : Point) : Point :=
  { p with x := -p.x, t := -p.t }

/-- A multiple of a point, the factor given by its bits, the lowest first. -/
def multiple (p : Point) : List Bool → Point
  | [] => zero
  | bit :: bits =>
    let half := multiple p bits
    let double := half.add half
    if bit then double.add p else double

/-- The multiple of a point by a number below 2^256. -/
def scale (p : Point) (factor : Nat) : Point :=
  p.multiple (Field.lowBits 256 factor)

/-- A point as bytes: y with its low byte first, and in the highest bit whether x is odd. -/
def encode (p : Point) : Bytes 32 :=
  let recip := Field.inverse p.z
  let x := (p.x * recip).val
  let y := (p.y * recip).val
  ⟨littleEndian 32 (y + Nat.pow 2 255 * (x % 2)), length_littleEndian 32 _⟩

end Point

end HdWallet.Ed25519
