/-
Byte strings of a fixed length, and numbers written in bytes. Keys, digests and seeds are
`Bytes n`, so their length is known from the type; messages of any length are lists.

A list whose length the group size divides is its groups put together (`flatten_groups`).
-/

namespace HdWallet

/-- A byte string of length `n`. -/
@[ext]
structure Bytes (n : Nat) where
  toList : List UInt8
  length_toList : toList.length = n
deriving DecidableEq

namespace Bytes

/-- The bytes of a list, if it has the wanted length. -/
def ofList? (n : Nat) (bytes : List UInt8) : Option (Bytes n) :=
  if h : bytes.length = n then some ⟨bytes, h⟩ else none

/-- `n` bytes, all zero. -/
def zeros (n : Nat) : Bytes n :=
  ⟨List.replicate n 0, List.length_replicate⟩

instance : Inhabited (Bytes n) := ⟨zeros n⟩

/-- One byte string behind another. -/
def append (a : Bytes m) (b : Bytes n) : Bytes (m + n) :=
  ⟨a.toList ++ b.toList, by simp [a.length_toList, b.length_toList]⟩

/-- A part of a byte string that starts at its front and does not reach past its end. -/
def take (b : Bytes n) (count : Nat) (h : count ≤ n) : Bytes count :=
  ⟨b.toList.take count, by rw [List.length_take, b.length_toList, Nat.min_eq_left h]⟩

/-- The first `m` bytes. -/
def left (b : Bytes (m + n)) : Bytes m :=
  ⟨b.toList.take m, by simp [b.length_toList]⟩

/-- The last `n` bytes. -/
def right (b : Bytes (m + n)) : Bytes n :=
  ⟨b.toList.drop m, by simp [b.length_toList]⟩

theorem ofList?_eq_some_iff {bytes : List UInt8} {b : Bytes n} :
    ofList? n bytes = some b ↔ bytes = b.toList := by
  unfold ofList?
  split
  · rename_i h
    constructor
    · intro e; cases e; rfl
    · rintro rfl; rfl
  · rename_i h
    constructor
    · intro e; cases e
    · rintro rfl; exact absurd b.length_toList h

theorem take_zeros {count : Nat} (h : count ≤ n) : (zeros n).take count h = zeros count := by
  ext1
  show (List.replicate n 0).take count = List.replicate count 0
  rw [List.take_replicate, Nat.min_eq_left h]

theorem append_left_right (b : Bytes (m + n)) : b.left.append b.right = b := by
  ext1
  exact List.take_append_drop m b.toList

end Bytes

/-! ## Numbers in bytes -/

/-- The `count` low bytes of a number, the least significant first. -/
def littleEndian : Nat → Nat → List UInt8
  | 0, _ => []
  | count + 1, number => UInt8.ofNat number :: littleEndian count (number / 256)

/-- The `count` low bytes of a number, the most significant first. -/
def bigEndian (count number : Nat) : List UInt8 :=
  (littleEndian count number).reverse

/-- The number whose bytes are given, the least significant first. -/
def ofLittleEndian (bytes : List UInt8) : Nat :=
  bytes.foldr (fun byte number => number * 256 + byte.toNat) 0

theorem length_littleEndian (count number : Nat) : (littleEndian count number).length = count := by
  induction count generalizing number with
  | zero => rfl
  | succ count ih => simp [littleEndian, ih]

theorem length_bigEndian (count number : Nat) : (bigEndian count number).length = count := by
  simp [bigEndian, length_littleEndian]

/-! ## Groups -/

/-- The first `count` groups of `size` items each. -/
def takeGroups (size : Nat) : Nat → List α → List (List α)
  | 0, _ => []
  | count + 1, items => items.take size :: takeGroups size count (items.drop size)

/-- A list cut into groups of `size` items; items too few for a group are left out. -/
def groups (size : Nat) (items : List α) : List (List α) :=
  takeGroups size (items.length / size) items

theorem length_groups (size : Nat) (items : List α) :
    (groups size items).length = items.length / size := by
  suffices h : ∀ (count : Nat) (items : List α), (takeGroups size count items).length = count from
    h _ items
  intro count
  induction count with
  | zero => intro _; rfl
  | succ count ih => intro items; simp [takeGroups, ih]

theorem flatten_takeGroups (size count : Nat) (items : List α) :
    (takeGroups size count items).flatten = items.take (count * size) := by
  induction count generalizing items with
  | zero => simp [takeGroups]
  | succ count ih =>
    rw [takeGroups, List.flatten_cons, ih, Nat.succ_mul, Nat.add_comm (count * size) size,
      List.take_add]

theorem flatten_groups {size : Nat} {items : List α} (h : size ∣ items.length) :
    (groups size items).flatten = items := by
  rw [groups, flatten_takeGroups, Nat.div_mul_cancel h, List.take_length]

theorem takeGroups_flatten {size : Nat} {parts : List (List α)}
    (h : ∀ part ∈ parts, part.length = size) : takeGroups size parts.length parts.flatten = parts := by
  induction parts with
  | nil => rfl
  | cons part parts ih =>
    have hp : part.length = size := h part (by simp)
    rw [List.length_cons, List.flatten_cons, takeGroups, ← hp, List.take_left, List.drop_left, hp,
      ih fun q hq => h q (by simp [hq])]

theorem groups_flatten {size : Nat} (hs : 0 < size) {parts : List (List α)}
    (h : ∀ part ∈ parts, part.length = size) : groups size parts.flatten = parts := by
  have hl : parts.flatten.length = parts.length * size := by
    induction parts with
    | nil => simp
    | cons part parts ih =>
      rw [List.flatten_cons, List.length_append, ih fun q hq => h q (by simp [hq]),
        h part (by simp), List.length_cons, Nat.succ_mul, Nat.add_comm]
  rw [groups, hl, Nat.mul_div_cancel _ hs, takeGroups_flatten h]

end HdWallet
