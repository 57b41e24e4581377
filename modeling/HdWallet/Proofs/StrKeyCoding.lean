/-
Keys and their texts stand for each other. Base 32 reads exactly what it writes
(`Base32.decode?_eq_some_iff`): the bits that fill up the last character are as many as are left
over, and both are zero. `StrKey.decode` then accepts a text exactly if it is the text of a key.
-/
import HdWallet.Proofs.Regrouping
import HdWallet.StrKey
import Mathlib.Data.String.Basic

namespace HdWallet.Base32

open Bits

/-! ## Base 32 -/

/-- The bits that the characters of a byte string stand for. -/
def fill (bytes : List UInt8) : List Bool :=
  ofBytes bytes ++ List.replicate ((5 - (ofBytes bytes).length % 5) % 5) false

/-- The values of the characters of a byte string. -/
def valuesOf (bytes : List UInt8) : List Nat :=
  (groups 5 (fill bytes)).map toNat

theorem toList_encode (bytes : List UInt8) :
    (encode bytes).toList = (valuesOf bytes).map (alphabet.getD · 'A') := by
  rw [encode, String.toList_ofList, valuesOf, List.map_map]
  rfl

theorem nodup_alphabet : alphabet.Nodup := by
  decide

theorem length_alphabet : alphabet.length = 2 ^ 5 := rfl

theorem length_fill (bytes : List UInt8) :
    (fill bytes).length = 8 * bytes.length + (5 - 8 * bytes.length % 5) % 5 := by
  rw [fill, List.length_append, List.length_replicate, length_ofBytes]

theorem flatMap_valuesOf (bytes : List UInt8) : (valuesOf bytes).flatMap (ofNat 5) = fill bytes := by
  refine flatMap_ofNat_groups ?_
  rw [length_fill]
  omega

/-- The bits of a text are those of its bytes, and fewer than five zeros. -/
theorem eq_fill {bits : List Bool} (hdvd : 5 ∣ bits.length)
    (hrest : (bits.drop (bits.length / 8 * 8)).length < 5)
    (hzero : (bits.drop (bits.length / 8 * 8)).all (!·) = true) : fill (toBytes bits) = bits := by
  have hlen : (bits.take (bits.length / 8 * 8)).length = bits.length / 8 * 8 := by
    rw [List.length_take]
    omega
  have hwhole : 8 ∣ (bits.take (bits.length / 8 * 8)).length := by
    rw [hlen]
    exact Nat.dvd_mul_left _ _
  have hbytes : ofBytes (toBytes bits) = bits.take (bits.length / 8 * 8) := by
    have h := toBytes_append hwhole (Nat.lt_of_lt_of_le hrest (by decide))
    rw [List.take_append_drop] at h
    rw [h, ofBytes_toBytes hwhole]
  have hzeros : bits.drop (bits.length / 8 * 8) =
      List.replicate (bits.drop (bits.length / 8 * 8)).length false := by
    refine List.eq_replicate_iff.2 ⟨rfl, fun bit hb => ?_⟩
    simpa using List.all_eq_true.1 hzero bit hb
  -- As many bits are left over as `encode` fills up with: fewer than five, and five divides all.
  have hcount : (5 - bits.length / 8 * 8 % 5) % 5 =
      (bits.drop (bits.length / 8 * 8)).length := by
    rw [List.length_drop] at hrest ⊢
    omega
  rw [fill, hbytes, hlen, hcount, ← hzeros, List.take_append_drop]

theorem drop_fill (bytes : List UInt8) :
    (fill bytes).drop ((fill bytes).length / 8 * 8) =
      List.replicate ((5 - (ofBytes bytes).length % 5) % 5) false := by
  have hcut : (fill bytes).length / 8 * 8 = (ofBytes bytes).length := by
    rw [length_fill, length_ofBytes]
    omega
  rw [hcut, fill, List.drop_left]

theorem toBytes_fill (bytes : List UInt8) : toBytes (fill bytes) = bytes := by
  have hdvd : 8 ∣ (ofBytes bytes).length := length_ofBytes bytes ▸ Nat.dvd_mul_right _ _
  have hrest : (List.replicate ((5 - (ofBytes bytes).length % 5) % 5) false).length < 8 := by
    rw [List.length_replicate]
    omega
  rw [fill, toBytes_append hdvd hrest, toBytes_ofBytes]

/-- **Base 32 reads exactly what it writes.** -/
theorem decode?_eq_some_iff {text : String} {bytes : List UInt8} :
    decode? text = some bytes ↔ text = encode bytes := by
  simp only [decode?, Option.bind_eq_bind, Option.bind_eq_some_iff,
    mapM_idxOf?_eq_some_iff nodup_alphabet 'A', length_alphabet]
  rw [← String.toList_inj, toList_encode]
  constructor
  · rintro ⟨values, ⟨hlt, htext⟩, h⟩
    split at h
    · next hif =>
      cases h
      have hdvd : 5 ∣ (values.flatMap (ofNat 5)).length :=
        length_flatMap_ofNat 5 values ▸ Nat.dvd_mul_left _ _
      rw [valuesOf, eq_fill hdvd hif.1 hif.2, groups_flatMap_ofNat (by decide) hlt, htext]
    · cases h
  · intro htext
    refine ⟨valuesOf bytes, ⟨fun n hn => toNat_lt_of_mem_groups hn, htext.symm⟩, ?_⟩
    rw [flatMap_valuesOf, drop_fill, toBytes_fill, List.length_replicate, if_pos]
    exact ⟨Nat.mod_lt _ (by decide), by simp⟩

theorem mem_alphabet_of_mem_encode {bytes : List UInt8} {c : Char}
    (h : c ∈ (encode bytes).toList) : c ∈ alphabet := by
  rw [toList_encode] at h
  obtain ⟨n, hn, rfl⟩ := List.mem_map.1 h
  have hlt : n < alphabet.length := toNat_lt_of_mem_groups hn
  exact getD_mem hlt 'A'

/-- The upper five bits of the first byte are the first character. -/
theorem head?_encode (byte : UInt8) (bytes : List UInt8) :
    (encode (byte :: bytes)).toList.head? =
      some (alphabet.getD (toNat ((ofNat 8 byte.toNat).take 5)) 'A') := by
  have hfill : ∃ rest, fill (byte :: bytes) = ofNat 8 byte.toNat ++ rest := by
    rw [fill, ofBytes, List.flatMap_cons, List.append_assoc]
    exact ⟨_, rfl⟩
  obtain ⟨rest, hrest⟩ := hfill
  have hlen : 5 ≤ (fill (byte :: bytes)).length := by
    rw [length_fill, List.length_cons]
    omega
  have htake : (fill (byte :: bytes)).take 5 = (ofNat 8 byte.toNat).take 5 := by
    rw [hrest]
    exact List.take_append_of_le_length (by rw [length_ofNat]; decide)
  rw [toList_encode, List.head?_map, valuesOf, List.head?_map, head?_groups (by decide) hlen, htake]
  rfl

end HdWallet.Base32

namespace HdWallet.StrKey

open Bits

/-! ## The parts of a frame -/

theorem length_frame (kind : StrKey) (key : Bytes 32) : (frame kind key).length = 35 := by
  rw [frame, List.length_append, length_littleEndian, List.length_cons, key.length_toList]

/-- The parts that `decode` cuts and compares are those that `frame` puts together. -/
theorem toList_eq_frame_iff {kind : StrKey} {key : Bytes 32} {raw : Bytes (1 + 32 + 2)} :
    raw.toList = frame kind key ↔
      raw.left.left.toList = [kind.version] ∧
      raw.right.toList = littleEndian 2 (Crc16.checksum raw.left.toList).toNat ∧
      raw.left.right = key := by
  constructor
  · intro h
    have hbody : raw.left.toList = kind.version :: key.toList := by
      show raw.toList.take (1 + 32) = _
      rw [h, frame]
      exact List.take_left' (by rw [List.length_cons, key.length_toList])
    refine ⟨?_, ?_, ?_⟩
    · show raw.left.toList.take 1 = _
      rw [hbody]
      rfl
    · rw [hbody]
      show raw.toList.drop (1 + 32) = _
      rw [h, frame]
      exact List.drop_left' (by rw [List.length_cons, key.length_toList])
    · ext1
      show raw.left.toList.drop 1 = _
      rw [hbody]
      rfl
  · rintro ⟨hversion, hsum, rfl⟩
    have hbody : raw.left.toList = kind.version :: raw.left.right.toList := by
      conv => lhs; rw [← raw.left.append_left_right]
      show raw.left.left.toList ++ _ = _
      rw [hversion]
      rfl
    calc raw.toList
      _ = raw.left.toList ++ raw.right.toList := congrArg Bytes.toList raw.append_left_right.symm
      _ = frame kind raw.left.right := by rw [hsum, hbody, frame]

/-! ## What a text looks like -/

/-- The letter that the texts of a kind start with. -/
def letter : StrKey → Char
  | accountId => 'G'
  | secretSeed => 'S'

theorem length_toList_encode (kind : StrKey) (key : Bytes 32) :
    (encode kind key).toList.length = 56 := by
  rw [encode, Base32.toList_encode, List.length_map, Base32.valuesOf, List.length_map,
    length_groups, Base32.length_fill, length_frame]

theorem head?_encode (kind : StrKey) (key : Bytes 32) :
    (encode kind key).toList.head? = some kind.letter := by
  rw [encode, frame, List.cons_append, Base32.head?_encode]
  cases kind <;> decide

theorem toNat_lt_of_mem_encode {kind : StrKey} {key : Bytes 32} {c : Char}
    (h : c ∈ (encode kind key).toList) : c.toNat < 128 := by
  have hall : Base32.alphabet.all (·.toNat < 128) = true := by decide
  simpa using List.all_eq_true.1 hall c (Base32.mem_alphabet_of_mem_encode h)

/-- A text of ASCII characters is as many bytes long. -/
theorem utf8ByteSize_eq_length {text : String} (h : ∀ c ∈ text.toList, c.toNat < 128) :
    text.utf8ByteSize = text.length := by
  obtain ⟨chars, rfl⟩ : ∃ chars, text = String.ofList chars := ⟨text.toList, by simp⟩
  rw [String.utf8ByteSize_ofList, String.length_ofList]
  rw [String.toList_ofList] at h
  induction chars with
  | nil => rfl
  | cons c chars ih =>
    have hc : c.utf8Size = 1 := by
      rw [Char.utf8Size_eq_one_iff, UInt32.le_iff_toNat_le]
      exact Nat.le_of_lt_succ (h c (by simp))
    rw [String.utf8Len_cons, hc, ih fun d hd => h d (by simp [hd]), List.length_cons]

/-- A text of a kind: 56 characters of ASCII, the first of which is the letter of the kind. -/
structure IsText (kind : StrKey) (text : String) : Prop where
  length_eq : text.length = 56
  ascii : ∀ c ∈ text.toList, c.toNat < 128
  head?_eq : text.toList.head? = some kind.letter

theorem isText_encode (kind : StrKey) (key : Bytes 32) : IsText kind (encode kind key) where
  length_eq := by rw [← String.length_toList, length_toList_encode]
  ascii _ := toNat_lt_of_mem_encode
  head?_eq := head?_encode kind key

/-! ## Reading and writing -/

theorem decode_encode (kind : StrKey) (key : Bytes 32) : decode kind (encode kind key) = .ok key := by
  have htext := isText_encode kind key
  have hsize : (encode kind key).utf8ByteSize = encodedLength := by
    rw [utf8ByteSize_eq_length htext.ascii, htext.length_eq]
    rfl
  have hbytes : Base32.decode? (encode kind key) = some (frame kind key) :=
    Base32.decode?_eq_some_iff.2 rfl
  obtain ⟨raw, hraw⟩ : ∃ raw : Bytes (1 + 32 + 2), frame kind key = raw.toList :=
    ⟨⟨frame kind key, length_frame kind key⟩, rfl⟩
  obtain ⟨hversion, hsum, hkey⟩ := toList_eq_frame_iff.1 hraw.symm
  rw [decode, if_neg (not_not_intro hsize), hbytes, Option.bind_some,
    Bytes.ofList?_eq_some_iff.2 hraw]
  simp only [hversion, hsum, hkey, ne_eq, not_true_eq_false, if_false]

theorem eq_encode_of_decode {kind : StrKey} {text : String} {key : Bytes 32}
    (h : decode kind text = .ok key) : text = encode kind key := by
  rw [decode] at h
  split at h
  · cases h
  split at h
  · cases h
  next raw hraw =>
    obtain ⟨bytes, hbytes, hof⟩ := Option.bind_eq_some_iff.1 hraw
    dsimp only at h
    split at h
    · cases h
    next hversion =>
      split at h
      · cases h
      next hsum =>
        cases h
        have hframe := toList_eq_frame_iff.2 ⟨not_not.1 hversion, not_not.1 hsum, rfl⟩
        rw [Base32.decode?_eq_some_iff.1 hbytes, Bytes.ofList?_eq_some_iff.1 hof, hframe, encode]

theorem decode_eq_ok_iff {kind : StrKey} {text : String} {key : Bytes 32} :
    decode kind text = .ok key ↔ text = encode kind key := by
  refine ⟨eq_encode_of_decode, ?_⟩
  rintro rfl
  exact decode_encode kind key

/-- There is one reason to refuse a text. -/
theorem eq_invalidStrKey_of_decode {kind : StrKey} {text : String} {e : KeyError}
    (h : decode kind text = .error e) : e = .invalidStrKey := by
  rw [decode] at h
  split at h
  · cases h
    rfl
  split at h
  · cases h
    rfl
  dsimp only at h
  split at h
  · cases h
    rfl
  split at h
  · cases h
    rfl
  · cases h

theorem decode_eq_error_iff {kind : StrKey} {text : String} :
    decode kind text = .error .invalidStrKey ↔ ∀ key, text ≠ encode kind key := by
  constructor
  · rintro h key rfl
    rw [decode_encode] at h
    cases h
  · intro h
    cases hd : decode kind text with
    | ok key => exact absurd (eq_encode_of_decode hd) (h key)
    | error e => rw [eq_invalidStrKey_of_decode hd]

theorem encode_injective (kind : StrKey) : Function.Injective (encode kind) := fun a b h =>
  Except.ok.inj ((decode_encode kind a).symm.trans (h ▸ decode_encode kind b))

/-- The first letter tells the kind. -/
theorem kind_eq_of_encode {a b : StrKey} {j k : Bytes 32} (h : encode a j = encode b k) : a = b := by
  have hletter : a.letter = b.letter :=
    Option.some.inj ((head?_encode a j).symm.trans (h ▸ head?_encode b k))
  cases a <;> cases b <;> first | rfl | exact absurd hletter (by decide)

/-- **Reading accepts exactly what is written.** A text is read as a key exactly if it is the
text of the key, and is refused otherwise. So no two keys of a kind have the same text and no
key has two, every text is 56 characters long and starts with the letter of its kind, and none
is of both kinds. -/
theorem decode_encode_correspondence :
    (∀ kind text key, decode kind text = .ok key ↔ text = encode kind key) ∧
    (∀ kind text, decode kind text = .error .invalidStrKey ↔ ∀ key, text ≠ encode kind key) ∧
    (∀ kind, Function.Injective (encode kind)) ∧
    (∀ kind key, ∃! text, decode kind text = .ok key) ∧
    (∀ kind key, IsText kind (encode kind key)) ∧
    ∀ text a b, ¬ (decode .accountId text = .ok a ∧ decode .secretSeed text = .ok b) := by
  refine ⟨fun _ _ _ => decode_eq_ok_iff, fun _ _ => decode_eq_error_iff, encode_injective,
    fun kind key => ?_, isText_encode, ?_⟩
  · exact ⟨encode kind key, decode_encode kind key, fun text h => eq_encode_of_decode h⟩
  · rintro text a b ⟨ha, hb⟩
    have h := (eq_encode_of_decode ha).symm.trans (eq_encode_of_decode hb)
    exact absurd (kind_eq_of_encode h) (by decide)

end HdWallet.StrKey
