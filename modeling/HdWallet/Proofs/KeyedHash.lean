/-
The keyed hash is two digests, one inside the other. `HmacKey` keeps the hash states behind the
two blocks of a key and carries on from there, which gives the same as to hash each block with
what follows it: whole blocks can be mixed in one after the other (`absorbBytes_append`).
-/
import HdWallet.Digest.Hmac
import HdWallet.Proofs.Regrouping

namespace HdWallet

/-! ## Groups of whole parts -/

theorem takeGroups_add {size : Nat} {left : List α} (m n : Nat) (right : List α)
    (h : left.length = m * size) :
    takeGroups size (m + n) (left ++ right) = takeGroups size m left ++ takeGroups size n right := by
  induction m generalizing left with
  | zero =>
    have hleft : left = [] := by simpa using h
    subst hleft
    simp [takeGroups]
  | succ m ih =>
    rw [Nat.succ_mul] at h
    have hdrop : (left.drop size).length = m * size := by
      rw [List.length_drop]
      omega
    rw [Nat.succ_add, takeGroups, takeGroups, List.take_append_of_le_length (by omega),
      List.drop_append_of_le_length (by omega), ih hdrop, List.cons_append]

/-- Where a list ends with a group, what follows it is cut for itself. -/
theorem groups_append_of_dvd {size : Nat} (hs : 0 < size) {left : List α} (h : size ∣ left.length)
    (right : List α) : groups size (left ++ right) = groups size left ++ groups size right := by
  obtain ⟨count, hcount⟩ := h
  have hleft : left.length / size = count := by
    rw [hcount, Nat.mul_div_cancel_left _ hs]
  have hboth : (left ++ right).length / size = count + right.length / size := by
    rw [List.length_append, hcount, Nat.mul_add_div hs]
  rw [groups, groups, groups, hboth, hleft]
  exact takeGroups_add count _ right (hcount.trans (Nat.mul_comm size count))

namespace Sha512

/-! ## Blocks -/

/-- **Whole blocks can be mixed in first.** -/
theorem absorbBytes_append (s : State) {blocks : List UInt8} (h : blockLength ∣ blocks.length)
    (rest : List UInt8) :
    s.absorbBytes (blocks ++ rest) = (s.absorbBytes blocks).absorbBytes rest := by
  obtain ⟨count, hcount⟩ := h
  simp only [blockLength] at hcount
  have hbytes : 8 ∣ blocks.length := by omega
  have hwords : 16 ∣ ((groups 8 blocks).map word).length := by
    rw [List.length_map, length_groups]
    omega
  rw [State.absorbBytes, State.absorbBytes, State.absorbBytes,
    groups_append_of_dvd (by decide) hbytes, List.map_append,
    groups_append_of_dvd (by decide) hwords, List.foldl_append]

/-- To carry on from the state behind a block is to hash the block with what follows. -/
theorem finish_absorbBytes {block : List UInt8} (h : block.length = blockLength)
    (rest : List UInt8) :
    (State.initial.absorbBytes block).finish blockLength rest = digest (block ++ rest) := by
  have hwhole : blockLength ∣ block.length := by rw [h]
  have hlength : 0 + (block ++ rest).length = blockLength + rest.length := by
    rw [List.length_append, h, Nat.zero_add]
  rw [digest, State.finish, State.finish, hlength, List.append_assoc,
    absorbBytes_append _ hwhole]

end Sha512

namespace HmacKey

/-! ## Codes -/

theorem length_block (key : List UInt8) : (block key).length = Sha512.blockLength := by
  have hshort : (if Sha512.blockLength < key.length then (Sha512.digest key).toList
      else key).length ≤ Sha512.blockLength := by
    split
    · rw [Bytes.length_toList]
      decide
    · omega
  rw [block, List.length_append, List.length_replicate]
  omega

/-- The block of a key with each byte changed by a mask. -/
def masked (mask : UInt8) (key : List UInt8) : List UInt8 :=
  (block key).map (· ^^^ mask)

theorem length_masked (mask : UInt8) (key : List UInt8) :
    (masked mask key).length = Sha512.blockLength := by
  rw [masked, List.length_map, length_block]

/-- The code of a message as two digests: the message behind the inner block, and the result of
that behind the outer one. -/
def nestedDigest (key message : List UInt8) : Bytes 64 :=
  Sha512.digest (masked 0x5C key ++ (Sha512.digest (masked 0x36 key ++ message)).toList)

/-- **The keyed hash is the two digests.** -/
theorem code_eq_nestedDigest (key message : List UInt8) :
    (ofBytes key).code message = nestedDigest key message := by
  have hinner := Sha512.finish_absorbBytes (length_masked 0x36 key) message
  have houter := Sha512.finish_absorbBytes (length_masked 0x5C key)
    (Sha512.digest (masked 0x36 key ++ message)).toList
  rw [nestedDigest, ← houter, ← hinner]
  rfl

end HmacKey

end HdWallet
