/-
A check value tells byte strings apart that differ in one short run of bits. Multiplying a
remainder by x is linear and loses nothing (`shift_xor`, `shift_injective`), and up to 16 bits are
absorbed as one number (`foldl_absorbBit_ofNat`): two runs of that many bits leave remainders
whose difference is the difference of the runs, multiplied. What is absorbed behind them cannot
make the remainders equal again (`eq_of_burst`).

Where the check value itself is part of the run this says less, as its low byte is written first
and its bits are out of their order. There the runs that end inside the check value are gone
through one by one (`eq_zero_of_places`), and none of up to ten bits is left unseen
(`eq_of_window`).
-/
import HdWallet.Crc16
import HdWallet.Proofs.Regrouping

namespace HdWallet.Crc16

/-! ## Multiplying by x -/

theorem shift_xor (a b : BitVec 16) : shift (a ^^^ b) = shift a ^^^ shift b := by
  rw [shift, shift, shift, BitVec.msb_xor, BitVec.shiftLeft_xor_distrib]
  cases a.msb <;> cases b.msb
  · rfl
  · exact BitVec.xor_assoc _ _ _
  · simp only [Bool.xor_false, if_true, Bool.false_eq_true, if_false]
    ac_rfl
  · have hcancel : a <<< 1 ^^^ polynomial ^^^ (b <<< 1 ^^^ polynomial) =
        a <<< 1 ^^^ b <<< 1 ^^^ (polynomial ^^^ polynomial) := by ac_rfl
    simp only [Bool.xor_self, if_true, Bool.false_eq_true, if_false, hcancel, BitVec.xor_self,
      BitVec.xor_zero]

/-- The polynomial has a constant term, so nothing but zero is multiplied to zero. -/
theorem eq_zero_of_shift_eq_zero {a : BitVec 16} (h : shift a = 0#16) : a = 0#16 := by
  rw [shift] at h
  split at h
  · next hmsb =>
    have heq : (a <<< 1).toNat = polynomial.toNat := congrArg _ (BitVec.xor_eq_zero_iff.1 h)
    have hpoly : polynomial.toNat = 4129 := rfl
    rw [BitVec.toNat_shiftLeft, hpoly, Nat.shiftLeft_eq] at heq
    omega
  · next hmsb =>
    have hlt : a.toNat < 2 ^ 15 := by
      simpa [BitVec.msb_eq_decide] using hmsb
    have heq : (a <<< 1).toNat = 0 := congrArg BitVec.toNat h
    rw [BitVec.toNat_shiftLeft, Nat.shiftLeft_eq] at heq
    apply BitVec.eq_of_toNat_eq
    rw [BitVec.toNat_ofNat]
    omega

theorem shift_injective : Function.Injective shift := fun a b h => by
  have hzero : shift (a ^^^ b) = 0#16 := by rw [shift_xor, h, BitVec.xor_self]
  exact BitVec.xor_eq_zero_iff.1 (eq_zero_of_shift_eq_zero hzero)

theorem iterate_shift_xor (n : Nat) (a b : BitVec 16) :
    shift^[n] (a ^^^ b) = shift^[n] a ^^^ shift^[n] b :=
  Function.Semiconj₂.iterate shift_xor n a b

/-! ## Bit by bit -/

/-- The low bits of a number, as many as `width`, where a remainder takes them in: at its upper
end. -/
def top (width number : Nat) : BitVec 16 :=
  BitVec.ofNat 16 number <<< (16 - width)

theorem top_xor (width m n : Nat) : top width (m ^^^ n) = top width m ^^^ top width n := by
  rw [top, BitVec.ofNat_xor, BitVec.shiftLeft_xor_distrib, top, top]

theorem getLsbD_top {width k : Nat} (hw : width ≤ 16) (hk : k < 16) (number : Nat) :
    (top width number).getLsbD k =
      (decide (16 ≤ k + width) && number.testBit (k + width - 16)) := by
  rw [top, BitVec.getLsbD_shiftLeft, BitVec.getLsbD_ofNat]
  by_cases hlow : k < 16 - width
  · simp only [hlow, show ¬ 16 ≤ k + width by omega, decide_true, decide_false, Bool.not_true,
      Bool.and_false, Bool.false_and]
  · have hindex : k - (16 - width) = k + width - 16 := by omega
    simp only [hlow, hk, hindex, show 16 ≤ k + width by omega, show k + width - 16 < 16 by omega,
      decide_true, decide_false, Bool.not_false, Bool.true_and]

/-- The remainder after one more bit. -/
def absorbBit (remainder : BitVec 16) (bit : Bool) : BitVec 16 :=
  shift (remainder ^^^ top 1 bit.toNat)

theorem absorbBit_injective (bit : Bool) : Function.Injective (absorbBit · bit) := fun _ _ h =>
  (BitVec.xor_left_inj _).1 (shift_injective h)

theorem foldl_absorbBit_injective (bits : List Bool) :
    Function.Injective fun remainder => bits.foldl absorbBit remainder := by
  induction bits with
  | nil => exact Function.injective_id
  | cons bit bits ih => exact ih.comp (absorbBit_injective bit)

theorem getLsbD_top_ushiftRight {width k : Nat} (hw : width ≤ 16) (hk : k < 15) (number : Nat) :
    (top width number >>> 1).getLsbD k =
      (decide (16 ≤ k + (width + 1)) && number.testBit (k + (width + 1) - 16)) := by
  have hindex : 1 + k + width = k + (width + 1) := by omega
  rw [BitVec.getLsbD_ushiftRight, getLsbD_top hw (by omega), hindex]

theorem getLsbD_last_ushiftRight (a : BitVec 16) : (a >>> 1).getLsbD 15 = false := by
  rw [BitVec.getLsbD_ushiftRight]
  exact BitVec.getLsbD_of_ge _ _ (Nat.le_refl 16)

/-- The first of the bits stands at the upper end, and the others below it. -/
theorem top_succ {width : Nat} (h : width + 1 ≤ 16) (number : Nat) :
    top (width + 1) number =
      top 1 (number.testBit width).toNat ^^^ (top width number >>> 1) := by
  refine BitVec.eq_of_getLsbD_eq fun k hk => ?_
  rw [BitVec.getLsbD_xor, getLsbD_top h hk, getLsbD_top (by decide) hk]
  by_cases hlast : k = 15
  · subst hlast
    have hindex : 15 + (width + 1) - 16 = width := by omega
    have hbit : (number.testBit width).toNat.testBit 0 = number.testBit width := by
      cases number.testBit width <;> rfl
    rw [getLsbD_last_ushiftRight, hindex, Bool.xor_false, decide_eq_true (by omega), Bool.true_and,
      decide_eq_true (by omega), Bool.true_and, hbit]
  · have hlow : ¬ 16 ≤ k + 1 := by omega
    rw [getLsbD_top_ushiftRight (by omega) (by omega), decide_eq_false hlow, Bool.false_and,
      Bool.false_xor]

/-- Without a bit at the upper end, multiplying moves all bits up. -/
theorem shift_top_ushiftRight {width : Nat} (h : width + 1 ≤ 16) (number : Nat) :
    shift (top width number >>> 1) = top width number := by
  rw [shift, BitVec.msb_eq_getLsbD_last, getLsbD_last_ushiftRight, if_neg Bool.false_ne_true]
  refine BitVec.eq_of_getLsbD_eq fun k hk => ?_
  rw [BitVec.getLsbD_shiftLeft]
  by_cases hzero : k = 0
  · subst hzero
    have hlow : ¬ 16 ≤ 0 + width := by omega
    rw [getLsbD_top (by omega) hk, decide_eq_false hlow, Bool.false_and]
    rfl
  · have hindex : 1 + (k - 1) = k := by omega
    have hone : ¬ k < 1 := by omega
    rw [BitVec.getLsbD_ushiftRight, hindex, decide_eq_true hk, decide_eq_false hone,
      Bool.not_false, Bool.true_and, Bool.true_and]

/-- The first of the bits is multiplied, and the others move up. -/
theorem shift_top_succ {width : Nat} (h : width + 1 ≤ 16) (number : Nat) :
    shift (top (width + 1) number) =
      shift (top 1 (number.testBit width).toNat) ^^^ top width number := by
  rw [top_succ h, shift_xor, shift_top_ushiftRight h]

/-- **Up to 16 bits are absorbed as one number.** -/
theorem foldl_absorbBit_ofNat {width : Nat} (h : width ≤ 16) (number : Nat)
    (remainder : BitVec 16) :
    (Bits.ofNat width number).foldl absorbBit remainder =
      shift^[width] (remainder ^^^ top width number) := by
  induction width generalizing remainder with
  | zero =>
    have hzero : top 0 number = 0#16 := BitVec.shiftLeft_eq_zero (Nat.le_refl 16)
    rw [hzero, BitVec.xor_zero]
    rfl
  | succ width ih =>
    rw [Bits.ofNat, List.foldl_cons, ih (by omega), Function.iterate_succ_apply, shift_xor,
      shift_top_succ h, absorbBit, shift_xor, BitVec.xor_assoc]

/-! ## Byte by byte -/

theorem absorb_eq_foldl (remainder : BitVec 16) (byte : UInt8) :
    absorb remainder byte = (Bits.ofNat 8 byte.toNat).foldl absorbBit remainder := by
  have htop : byte.toBitVec.setWidth 16 <<< 8 = top 8 byte.toNat := by
    rw [top, ← BitVec.ofNat_toNat]
    rfl
  rw [foldl_absorbBit_ofNat (by decide), absorb, htop]
  rfl

theorem foldl_absorb (bytes : List UInt8) (remainder : BitVec 16) :
    bytes.foldl absorb remainder = (Bits.ofBytes bytes).foldl absorbBit remainder := by
  induction bytes generalizing remainder with
  | nil => rfl
  | cons byte bytes ih =>
    have hbits : Bits.ofBytes (byte :: bytes) =
        Bits.ofNat 8 byte.toNat ++ Bits.ofBytes bytes := List.flatMap_cons
    rw [List.foldl_cons, ih, absorb_eq_foldl, hbits, List.foldl_append]

/-- A check value may be reckoned bit by bit. -/
theorem checksum_eq_foldl (bytes : List UInt8) :
    checksum bytes = (Bits.ofBytes bytes).foldl absorbBit 0 :=
  foldl_absorb bytes 0

/-! ## Bursts -/

theorem xor_xor_xor_self (a b c : BitVec 16) : a ^^^ b ^^^ (a ^^^ c) = b ^^^ c := by
  have hperm : a ^^^ b ^^^ (a ^^^ c) = a ^^^ a ^^^ (b ^^^ c) := by ac_rfl
  rw [hperm, BitVec.xor_self, BitVec.zero_xor]

section

variable {burst other : List Bool} (hlen : burst.length = other.length)

include hlen

/-- The difference of the remainders is that of the bursts, multiplied. -/
theorem xor_foldl_of_burst (hshort : burst.length ≤ 16) (remainder : BitVec 16) :
    burst.foldl absorbBit remainder ^^^ other.foldl absorbBit remainder =
      shift^[burst.length] (top burst.length (Bits.toNat burst ^^^ Bits.toNat other)) := by
  have hburst := foldl_absorbBit_ofNat hshort (Bits.toNat burst) remainder
  have hother := foldl_absorbBit_ofNat hshort (Bits.toNat other) remainder
  rw [Bits.ofNat_toNat] at hburst
  rw [hlen, Bits.ofNat_toNat, ← hlen] at hother
  rw [hburst, hother, ← iterate_shift_xor, xor_xor_xor_self, top_xor]

theorem toNat_xor_lt : Bits.toNat burst ^^^ Bits.toNat other < 2 ^ burst.length :=
  Nat.xor_lt_two_pow (Bits.toNat_lt burst) (hlen ▸ Bits.toNat_lt other)

theorem eq_of_toNat_xor_eq_zero (h : Bits.toNat burst ^^^ Bits.toNat other = 0) :
    burst = other := by
  rw [← Bits.ofNat_toNat burst, ← Bits.ofNat_toNat other, Nat.xor_eq_zero_iff.1 h, hlen]

end

theorem eq_zero_of_top_eq_zero {width number : Nat} (hw : width ≤ 16) (hlt : number < 2 ^ width)
    (h : top width number = 0#16) : number = 0 := by
  refine Nat.eq_of_testBit_eq fun k => ?_
  rw [Nat.zero_testBit]
  by_cases hk : k < width
  · have hbit : (top width number).getLsbD (k + (16 - width)) = false := by
      rw [h, BitVec.getLsbD_zero]
    have hindex : k + (16 - width) + width - 16 = k := by omega
    rwa [getLsbD_top hw (by omega), hindex, decide_eq_true (by omega), Bool.true_and] at hbit
  · exact Nat.testBit_lt_two_pow (hlt.trans_le (Nat.pow_le_pow_right (by decide) (by omega)))

/-- **A burst of up to 16 bits shows in the remainder**, whatever stands in front of it and
behind it. -/
theorem eq_of_burst {before burst other after : List Bool} (hlen : burst.length = other.length)
    (hshort : burst.length ≤ 16)
    (h : (before ++ burst ++ after).foldl absorbBit 0 =
      (before ++ other ++ after).foldl absorbBit 0) : burst = other := by
  rw [List.foldl_append, List.foldl_append, List.foldl_append, List.foldl_append] at h
  have hsame := foldl_absorbBit_injective after h
  have hshift : shift^[burst.length] (top burst.length (Bits.toNat burst ^^^ Bits.toNat other)) =
      shift^[burst.length] 0#16 := by
    rw [← xor_foldl_of_burst hlen hshort, hsame, BitVec.xor_self]
    exact (Function.iterate_fixed rfl _).symm
  have htop := shift_injective.iterate burst.length hshift
  exact eq_of_toNat_xor_eq_zero hlen (eq_zero_of_top_eq_zero hshort (toNat_xor_lt hlen) htop)

/-! ## Check values behind what they check -/

/-- Bytes with their check value behind them, its low byte first. -/
def checked (bytes : List UInt8) : List UInt8 :=
  bytes ++ littleEndian 2 (checksum bytes).toNat

/-- The places of the bits of a check value, in the order in which they are written. -/
def placesWritten : List Nat :=
  [7, 6, 5, 4, 3, 2, 1, 0, 15, 14, 13, 12, 11, 10, 9, 8]

theorem ofBytes_littleEndian (check : BitVec 16) :
    Bits.ofBytes (littleEndian 2 check.toNat) = placesWritten.map check.getLsbD := by
  have hhigh : ∀ k, (check.toNat / 256).testBit k = check.getLsbD (8 + k) := fun k => by
    rw [show 256 = 2 ^ 8 from rfl, Nat.testBit_div_two_pow, Nat.add_comm]
    rfl
  have hbyte : ∀ number : Nat, Bits.ofNat 8 (UInt8.ofNat number).toNat = Bits.ofNat 8 number :=
    fun number => by rw [UInt8.toNat_ofNat', Bits.ofNat_mod]
  calc Bits.ofBytes (littleEndian 2 check.toNat)
    _ = Bits.ofNat 8 check.toNat ++ Bits.ofNat 8 (check.toNat / 256) := by
      rw [← hbyte check.toNat, ← hbyte (check.toNat / 256)]
      rfl
    _ = placesWritten.map check.getLsbD := by
      simp only [Bits.ofNat, hhigh]
      rfl

/-- Bits with the bits of their check value behind them. -/
def withCheck (bits : List Bool) : List Bool :=
  bits ++ placesWritten.map (bits.foldl absorbBit 0).getLsbD

theorem take_withCheck {bits : List Bool} {count : Nat} (h : count ≤ bits.length) :
    (withCheck bits).take count = bits.take count :=
  List.take_append_of_le_length h

theorem drop_withCheck_of_le {bits : List Bool} {count : Nat} (h : count ≤ bits.length) :
    (withCheck bits).drop count =
      bits.drop count ++ placesWritten.map (bits.foldl absorbBit 0).getLsbD :=
  List.drop_append_of_le_length h

theorem drop_withCheck_of_ge {bits : List Bool} {count : Nat} (h : bits.length ≤ count) :
    (withCheck bits).drop count =
      (placesWritten.drop (count - bits.length)).map (bits.foldl absorbBit 0).getLsbD := by
  rw [withCheck, List.drop_append, List.drop_eq_nil_of_le h, List.nil_append, List.map_drop]

theorem ofBytes_checked (bytes : List UInt8) :
    Bits.ofBytes (checked bytes) = withCheck (Bits.ofBytes bytes) := by
  rw [withCheck, ← checksum_eq_foldl, ← ofBytes_littleEndian]
  exact List.flatMap_append

theorem eq_of_map_getLsbD {a b : BitVec 16}
    (h : placesWritten.map a.getLsbD = placesWritten.map b.getLsbD) : a = b := by
  have hall : ∀ k < 16, k ∈ placesWritten := by decide
  exact BitVec.eq_of_getLsbD_eq fun k hk => List.map_inj_left.1 h k (hall k hk)

/-- A burst that reaches into the check value has to leave the bits behind it as they are. With up
to ten bits in all it never does. -/
theorem eq_zero_of_places : ∀ width < 10, ∀ number < 2 ^ width,
    (∀ k ∈ placesWritten.drop (10 - width),
      (shift^[width] (top width number)).getLsbD k = false) → number = 0 := by
  decide +kernel

/-- Thirteen bits are too many: after a change of the last bit of the bytes, the check value changes
in the twelve bits behind it and not in the last four. -/
example : ∀ k ∈ placesWritten.drop (13 - 1), (shift^[1] (top 1 1)).getLsbD k = false := by
  decide

section

variable {bits other : List Bool} {start : Nat} (hlen : bits.length = other.length)
  (hbefore : (withCheck bits).take start = (withCheck other).take start)
  (hbehind : (withCheck bits).drop (start + 10) = (withCheck other).drop (start + 10))

include hlen hbefore

theorem eq_of_burst_behind (h : bits.length ≤ start) : bits = other := by
  have htake := congrArg (List.take bits.length) hbefore
  rw [List.take_take, List.take_take, Nat.min_eq_left h, withCheck, withCheck, List.take_left,
    List.take_left' hlen.symm] at htake
  exact htake

include hbehind

theorem eq_of_burst_inside (h : start + 10 ≤ bits.length) : bits = other := by
  have hsplit : ∀ all : List Bool,
      all = all.take start ++ (all.drop start).take 10 ++ all.drop (start + 10) := fun all => by
    rw [← List.drop_drop, List.append_assoc, List.take_append_drop, List.take_append_drop]
  rw [take_withCheck (by omega), take_withCheck (by omega)] at hbefore
  rw [drop_withCheck_of_le h, drop_withCheck_of_le (hlen ▸ h)] at hbehind
  -- The whole check value lies behind the window, so it is the same.
  obtain ⟨hrest, hplaces⟩ :=
    List.append_inj hbehind (by rw [List.length_drop, hlen, List.length_drop])
  have hcheck := eq_of_map_getLsbD hplaces
  rw [hsplit bits, hsplit other, ← hbefore, ← hrest] at hcheck
  have hburst := eq_of_burst (by simp [hlen]) (by simp) hcheck
  rw [hsplit bits, hsplit other, hbefore, hburst, hrest]

theorem eq_of_burst_across (hstart : start < bits.length) (h : bits.length < start + 10) :
    bits = other := by
  have hfold : ∀ all : List Bool, all.foldl absorbBit 0 =
      (all.drop start).foldl absorbBit ((all.take start).foldl absorbBit 0) := fun all => by
    rw [← List.foldl_append, List.take_append_drop]
  -- The remainders in front of the burst are the same, so `hbehind` compares what the bursts make
  -- of one remainder, at the places that are written behind the window.
  have hwidth : (bits.drop start).length = bits.length - start := List.length_drop
  have hplaces : start + 10 - bits.length = 10 - (bits.drop start).length := by omega
  rw [take_withCheck hstart.le, take_withCheck (hlen ▸ hstart.le)] at hbefore
  rw [drop_withCheck_of_ge h.le, drop_withCheck_of_ge (hlen ▸ h.le), ← hlen, hplaces, hfold bits,
    hfold other, ← hbefore] at hbehind
  have hdrop : bits.drop start = other.drop start := by
    have hlendrop : (bits.drop start).length = (other.drop start).length := by
      rw [hwidth, hlen, List.length_drop]
    refine eq_of_toNat_xor_eq_zero hlendrop (eq_zero_of_places _ (by omega) _
      (toNat_xor_lt hlendrop) fun k hk => ?_)
    rw [← xor_foldl_of_burst hlendrop (by omega) ((bits.take start).foldl absorbBit 0),
      BitVec.getLsbD_xor, List.map_inj_left.1 hbehind k hk, Bool.xor_self]
  rw [← List.take_append_drop start bits, hbefore, hdrop, List.take_append_drop]

end

/-- **A burst of up to ten bits shows**, be it in the bytes, in their check value or across the
border of the two. -/
theorem eq_of_window {bytes other : List UInt8} {start : Nat} (hlen : bytes.length = other.length)
    (hbefore : (Bits.ofBytes (checked bytes)).take start =
      (Bits.ofBytes (checked other)).take start)
    (hbehind : (Bits.ofBytes (checked bytes)).drop (start + 10) =
      (Bits.ofBytes (checked other)).drop (start + 10)) : bytes = other := by
  have hbits : (Bits.ofBytes bytes).length = (Bits.ofBytes other).length := by
    rw [Bits.length_ofBytes, hlen, Bits.length_ofBytes]
  rw [ofBytes_checked, ofBytes_checked] at hbefore hbehind
  have heq : Bits.ofBytes bytes = Bits.ofBytes other := by
    rcases Nat.lt_or_ge start (Bits.ofBytes bytes).length with hstart | hstart
    · rcases Nat.lt_or_ge (Bits.ofBytes bytes).length (start + 10) with hend | hend
      · exact eq_of_burst_across hbits hbefore hbehind hstart hend
      · exact eq_of_burst_inside hbits hbefore hbehind hend
    · exact eq_of_burst_behind hbits hbefore hstart
  rw [← Bits.toBytes_ofBytes bytes, heq, Bits.toBytes_ofBytes]

end HdWallet.Crc16
