/-
Where and how bytes fail to be UTF-8. No character stands at the head of a broken rest
(`IsBroken.not_isPrefix`), so the text in front of it is the longest head that is a text, and no
more of the rest starts a character than was read of it. With that the fault of an input is told
without the reader (`IsFault`), and the reader reports it exactly (`decode_eq_error_iff`).
-/
import HdWallet.Proofs.Utf8Reading

namespace HdWallet.Unicode.Utf8

/-! ## Broken rests -/

theorem IsStart.of_isPrefix {part whole : List UInt8} (h : IsStart whole) (hpart : part <+: whole) :
    IsStart part := by
  obtain ⟨c, hc⟩ := h
  exact ⟨c, hpart.trans hc⟩

theorem IsProperStart.isStart {part : List UInt8} (h : IsProperStart part) : IsStart part := by
  obtain ⟨c, more, -, hc⟩ := h
  exact ⟨c, hc ▸ List.prefix_append part more⟩

theorem IsProperStart.length_lt {part : List UInt8} (h : IsProperStart part) : part.length < 4 := by
  obtain ⟨c, more, hne, hc⟩ := h
  have hlength := congrArg List.length hc
  rw [String.length_utf8EncodeChar, List.length_append] at hlength
  have hmore := List.length_pos_iff.2 hne
  have hsize := c.utf8Size_le_four
  omega

/-- No character is the start of another. -/
theorem IsProperStart.not_isPrefix {part : List UInt8} (h : IsProperStart part) (c : Char) :
    ¬ String.utf8EncodeChar c <+: part := by
  rintro ⟨middle, rfl⟩
  obtain ⟨d, more, hne, hd⟩ := h
  rw [List.append_assoc, ← encode_singleton, ← encode_singleton] at hd
  obtain ⟨others, hothers, hwhole⟩ := exists_encode_of_append hd
  obtain ⟨-, rfl : [] = others⟩ := List.cons.inj hwhole
  exact hne (List.append_eq_nil_iff.1 hothers).2

section

variable {index : Nat} {rest : List UInt8} {fault : Fault}

theorem IsBroken.ne_nil (h : IsBroken index rest fault) : rest ≠ [] := by
  cases h with
  | illFormed => simp
  | incomplete hne => exact hne

/-- **No character stands at the head of a broken rest.** -/
theorem IsBroken.not_isPrefix (h : IsBroken index rest fault) (c : Char) :
    ¬ String.utf8EncodeChar c <+: rest := by
  intro hc
  cases h with
  | incomplete hne hstart => exact hstart.not_isPrefix c hc
  | @illFormed start behind byte hstart hbyte =>
    have hnext : start ++ [byte] <+: start ++ byte :: behind := ⟨behind, by simp⟩
    rcases Nat.lt_or_ge start.length (String.utf8EncodeChar c).length with hlen | hlen
    · refine hbyte ⟨c, List.prefix_of_prefix_length_le hnext hc ?_⟩
      rw [List.length_append, List.length_singleton]
      exact hlen
    · exact hstart.not_isPrefix c (List.prefix_of_prefix_length_le hc ⟨_, rfl⟩ hlen)

/-- A head of a broken rest is no text. -/
theorem IsBroken.not_encode (h : IsBroken index rest fault) {head : List UInt8} (hne : head ≠ [])
    (hhead : head <+: rest) (text : List Char) : head ≠ encode text := by
  rintro rfl
  cases text with
  | nil => exact hne rfl
  | cons c text =>
    exact h.not_isPrefix c ((List.prefix_append _ (encode text)).trans hhead)

end

/-! ## Faults -/

/-- The length of the longest head of a byte string that is a text. -/
structure IsLongestHead (input : List UInt8) (index : Nat) : Prop where
  le_length : index ≤ input.length
  isText : ∃ text, input.take index = encode text
  longest : ∀ other ≤ input.length, (∃ text, input.take other = encode text) → other ≤ index

/-- Bytes that some more bytes make a text of. -/
def IsCompletable (rest : List UInt8) : Prop :=
  ∃ more text, rest ++ more = encode text

/-- How many bytes at the head start a character: as many as can, and the first in any case. -/
structure IsBrokenStart (rest : List UInt8) (length : Nat) : Prop where
  bounds : 1 ≤ length ∧ length ≤ 3
  le_length : length ≤ rest.length
  isStart : 1 < length → IsStart (rest.take length)
  longest : ∀ other ≤ rest.length, IsStart (rest.take other) → other ≤ length

/-- How a byte string fails to be a text: behind the longest head that is one, it ends too soon, or
the bytes that start a character are followed by one that does not go on with it. -/
inductive IsFault (input : List UInt8) : Fault → Prop
  | incomplete {index : Nat} (hindex : IsLongestHead input index) (hlt : index < input.length)
    (hrest : IsCompletable (input.drop index)) : IsFault input (.incomplete index)
  | illFormed {index length : Nat} (hindex : IsLongestHead input index)
    (hrest : ¬ IsCompletable (input.drop index))
    (hlength : IsBrokenStart (input.drop index) length) : IsFault input (.illFormed index length)

theorem IsLongestHead.eq {input : List UInt8} {a b : Nat} (ha : IsLongestHead input a)
    (hb : IsLongestHead input b) : a = b :=
  Nat.le_antisymm (hb.longest a ha.le_length ha.isText) (ha.longest b hb.le_length hb.isText)

theorem IsBrokenStart.le {rest : List UInt8} {a b : Nat} (ha : IsBrokenStart rest a)
    (hb : IsBrokenStart rest b) : a ≤ b := by
  have hbounds := hb.bounds
  by_cases h : 1 < a
  · exact hb.longest a ha.le_length (ha.isStart h)
  · omega

/-- There is only one fault in an input. -/
theorem IsFault.eq {input : List UInt8} {a b : Fault} (ha : IsFault input a)
    (hb : IsFault input b) : a = b := by
  cases ha with
  | incomplete hindex hlt hrest =>
    cases hb with
    | incomplete hindex' =>
      rw [hindex.eq hindex']
    | illFormed hindex' hrest' =>
      rw [hindex.eq hindex'] at hrest
      exact absurd hrest hrest'
  | illFormed hindex hrest hlength =>
    cases hb with
    | incomplete hindex' _ hrest' =>
      rw [hindex.eq hindex'] at hrest
      exact absurd hrest' hrest
    | illFormed hindex' _ hlength' =>
      obtain rfl := hindex.eq hindex'
      rw [Nat.le_antisymm (hlength.le hlength') (hlength'.le hlength)]

/-- Texts have none. -/
theorem IsFault.ne_encode {input : List UInt8} {fault : Fault} (h : IsFault input fault)
    (text : List Char) : input ≠ encode text := by
  intro heq
  have hwhole : ∃ text, input.take input.length = encode text := ⟨text, by rwa [List.take_length]⟩
  cases h with
  | incomplete hindex hlt =>
    have hle := hindex.longest _ (Nat.le_refl _) hwhole
    omega
  | illFormed hindex hrest =>
    refine hrest ⟨[], [], ?_⟩
    rw [List.drop_eq_nil_of_le (hindex.longest _ (Nat.le_refl _) hwhole)]
    rfl

theorem isLongestHead_of_isBroken {index : Nat} {text : List Char} {rest : List UInt8}
    {fault : Fault} (h : IsBroken index rest fault) :
    IsLongestHead (encode text ++ rest) (encode text).length where
  le_length := by
    rw [List.length_append]
    omega
  isText := ⟨text, List.take_left⟩
  longest := by
    rintro other hother ⟨whole, hwhole⟩
    by_contra hlt
    rw [Nat.not_le] at hlt
    rw [List.take_append, List.take_of_length_le (Nat.le_of_lt hlt)] at hwhole
    obtain ⟨more, hmore, -⟩ := exists_encode_of_append hwhole.symm
    refine h.not_encode ?_ (List.take_prefix _ _) more hmore
    rw [List.length_append] at hother
    rw [← List.length_pos_iff, List.length_take]
    omega

theorem IsBroken.isBrokenStart {index length : Nat} {rest : List UInt8}
    (h : IsBroken index rest (.illFormed index length)) : IsBrokenStart rest length := by
  cases h with
  | @illFormed start behind byte hstart hbyte =>
    have hlength := hstart.length_lt
    refine ⟨by omega, ?_, fun hlt => ?_, fun other hother hstarts => ?_⟩
    · rw [List.length_append, List.length_cons]
      omega
    · rw [Nat.max_eq_right (by omega), List.take_left]
      exact hstart.isStart
    · by_contra hgt
      refine hbyte (hstarts.of_isPrefix ?_)
      have hnext : start ++ [byte] <+: start ++ byte :: behind := ⟨behind, by simp⟩
      rw [List.prefix_take_iff, List.length_append, List.length_singleton]
      exact ⟨hnext, by omega⟩

theorem IsBroken.not_isCompletable {index length : Nat} {rest : List UInt8}
    (h : IsBroken index rest (.illFormed index length)) : ¬ IsCompletable rest := by
  rintro ⟨more, text, htext⟩
  cases text with
  | nil =>
    exact h.ne_nil (List.append_eq_nil_iff.1 htext).1
  | cons c text =>
    have hc : String.utf8EncodeChar c <+: rest ++ more := ⟨encode text, htext.symm⟩
    rcases List.prefix_or_prefix_of_prefix hc (List.prefix_append rest more) with hfirst | hrest
    · exact h.not_isPrefix c hfirst
    · cases h with
      | @illFormed start behind byte hstart hbyte =>
        exact hbyte ⟨c, List.IsPrefix.trans ⟨behind, by simp⟩ hrest⟩

/-- A broken rest behind a text is a fault of the whole. -/
theorem isFault_of_isBroken {text : List Char} {rest : List UInt8} {fault : Fault}
    (h : IsBroken (encode text).length rest fault) : IsFault (encode text ++ rest) fault := by
  have hindex : IsLongestHead (encode text ++ rest) (encode text).length :=
    isLongestHead_of_isBroken h
  have hdrop : (encode text ++ rest).drop (encode text).length = rest := List.drop_left
  cases h with
  | @illFormed start behind byte hstart hbyte =>
    have hbroken : IsBroken (encode text).length (start ++ byte :: behind) _ :=
      .illFormed hstart hbyte
    refine .illFormed hindex ?_ ?_
    · rw [hdrop]
      exact hbroken.not_isCompletable
    · rw [hdrop]
      exact hbroken.isBrokenStart
  | incomplete hne hstart =>
    refine .incomplete hindex ?_ ?_
    · have hpos := List.length_pos_iff.2 hne
      rw [List.length_append]
      omega
    · obtain ⟨c, more, -, hc⟩ := hstart
      rw [hdrop]
      exact ⟨more, [c], by rw [encode_singleton, hc]⟩

/-- **The reader reports the fault of an input exactly.** -/
theorem decode_eq_error_iff {input : List UInt8} {fault : Fault} :
    decode input = .error fault ↔ IsFault input fault := by
  have hfound : ∀ found, decode input = .error found → IsFault input found := by
    intro found hd
    have hreading : IsReading 0 input (decode input) := isReading_decodeFrom .between 0 input
    rw [hd] at hreading
    cases hreading with
    | error h =>
      rw [Nat.zero_add] at h
      exact isFault_of_isBroken h
  refine ⟨hfound fault, fun h => ?_⟩
  cases hd : decode input with
  | ok text => exact absurd (decode_eq_ok_iff.1 hd) (h.ne_encode text)
  | error found => rw [h.eq (hfound found hd)]

end HdWallet.Unicode.Utf8
