/-
Decomposition is complete: what a character decomposes to does not decompose further
(`settled_of_mem_decompose`). The table is checked entry by entry.
-/
import HdWallet.Proofs.BitSet
import HdWallet.Unicode.Decomposition

namespace HdWallet.Unicode

/-- A character that is its own decomposition. -/
def Settled (c : Char) : Prop := decompose c = [c]

/-- The code points of the Hangul syllables. -/
def Hangul.IsSyllable (code : Nat) : Prop :=
  firstSyllable ≤ code ∧ code < firstSyllable + syllableCount

instance (code : Nat) : Decidable (Hangul.IsSyllable code) :=
  inferInstanceAs (Decidable (_ ∧ _))

namespace Decomposition

/-! ## Looking up -/

/-- The code points that have an entry. -/
def keys : List Nat := table.map Prod.fst

set_option maxRecDepth 20000 in
theorem keys_nodup : keys.Nodup := by
  have h : BitSet.fresh 0 keys = true := by decide +kernel
  exact (BitSet.nodup_of_fresh h).1

theorem table_distinct : table.Pairwise fun a b => (a.1 == b.1) = false := by
  refine (List.pairwise_map.1 keys_nodup).imp fun hne => ?_
  simpa using hne

theorem index_of_mem {key : Nat} {codes : List Nat} (h : (key, codes) ∈ table) :
    index[key]? = some codes :=
  Std.HashMap.getElem?_ofList_of_mem (beq_self_eq_true key) table_distinct h

theorem index_of_not_mem {key : Nat} (h : key ∉ keys) : index[key]? = none :=
  Std.HashMap.getElem?_ofList_of_contains_eq_false (by simpa [keys] using h)

/-! ## Entries -/

/-- The code point of a character that neither has an entry nor is a syllable. -/
def IsFinal (code : Nat) : Prop :=
  code.isValidChar ∧ (BitSet.ofList keys).testBit code = false ∧ ¬ Hangul.IsSyllable code

instance (code : Nat) : Decidable (IsFinal code) :=
  inferInstanceAs (Decidable (_ ∧ _ ∧ _))

set_option maxRecDepth 20000 in
/-- No entry is empty, and none leads to a code point that decomposes in its turn. -/
theorem table_final : ∀ entry ∈ table, entry.2 ≠ [] ∧ ∀ code ∈ entry.2, IsFinal code := by
  decide +kernel

set_option maxRecDepth 20000 in
/-- Neither the characters of ASCII nor the jamo have entries. -/
theorem bounds_of_mem_keys : ∀ key ∈ keys, 0x80 ≤ key ∧ (key < 0x1100 ∨ 0x1200 ≤ key) := by
  decide +kernel

theorem jamo_bounds {number code : Nat} (h : number < Hangul.syllableCount)
    (hc : code ∈ Hangul.jamo number) : 0x1100 ≤ code ∧ code < 0x1200 := by
  have hlt : number < 11172 := h
  have hmod : number % 588 < 588 := Nat.mod_lt _ (by decide)
  simp only [Hangul.jamo] at hc
  split at hc <;> simp only [List.mem_cons, List.not_mem_nil, or_false] at hc <;> omega

theorem isFinal_of_jamo {code : Nat} (h : 0x1100 ≤ code ∧ code < 0x1200) : IsFinal code := by
  refine ⟨.inl (by omega), ?_, ?_⟩
  · rw [BitSet.testBit_ofList, decide_eq_false_iff_not]
    intro hk
    have := bounds_of_mem_keys _ hk
    omega
  · simp only [Hangul.IsSyllable, Hangul.firstSyllable]
    omega

end Decomposition

/-! ## Characters -/

theorem toNat_ofNat_of_isValidChar {code : Nat} (h : code.isValidChar) :
    (Char.ofNat code).toNat = code := by
  rw [Char.ofNat, dif_pos h]
  rfl

theorem decompose_of_isSyllable {c : Char} (h : Hangul.IsSyllable c.toNat) :
    decompose c = (Hangul.jamo (c.toNat - Hangul.firstSyllable)).map Char.ofNat :=
  if_pos h

theorem decompose_of_mem_table {c : Char} {codes : List Nat} (hs : ¬ Hangul.IsSyllable c.toNat)
    (h : (c.toNat, codes) ∈ Decomposition.table) : decompose c = codes.map Char.ofNat := by
  rw [decompose, if_neg, Decomposition.index_of_mem h]
  exact hs

theorem settled_of_not_mem_keys {c : Char} (hs : ¬ Hangul.IsSyllable c.toNat)
    (h : c.toNat ∉ Decomposition.keys) : Settled c := by
  rw [Settled, decompose, if_neg, Decomposition.index_of_not_mem h]
  exact hs

theorem settled_of_ascii {c : Char} (h : c.toNat < 0x80) : Settled c := by
  refine settled_of_not_mem_keys (fun hs => ?_) (fun hk => ?_)
  · simp only [Hangul.IsSyllable, Hangul.firstSyllable] at hs
    omega
  · have := Decomposition.bounds_of_mem_keys _ hk
    omega

theorem settled_ofNat {code : Nat} (h : Decomposition.IsFinal code) : Settled (Char.ofNat code) := by
  obtain ⟨hv, hk, hs⟩ := h
  rw [BitSet.testBit_ofList, decide_eq_false_iff_not] at hk
  have heq := toNat_ofNat_of_isValidChar hv
  exact settled_of_not_mem_keys (by rwa [heq]) (by rwa [heq])

/-- What a character decomposes to: itself, or some code points at which decomposition ends. -/
theorem decompose_cases (c : Char) :
    Settled c ∨ ∃ codes, codes ≠ [] ∧ (∀ code ∈ codes, Decomposition.IsFinal code) ∧
      decompose c = codes.map Char.ofNat := by
  by_cases hs : Hangul.IsSyllable c.toNat
  · refine .inr ⟨Hangul.jamo (c.toNat - Hangul.firstSyllable), ?_, ?_, ?_⟩
    · simp only [Hangul.jamo]
      split <;> simp
    · have hlt : c.toNat - Hangul.firstSyllable < Hangul.syllableCount := by
        obtain ⟨h₁, h₂⟩ := hs
        omega
      exact fun code hc => Decomposition.isFinal_of_jamo (Decomposition.jamo_bounds hlt hc)
    · exact decompose_of_isSyllable hs
  · by_cases hk : c.toNat ∈ Decomposition.keys
    · obtain ⟨⟨key, codes⟩, hmem, heq⟩ := List.mem_map.1 hk
      subst heq
      obtain ⟨hne, hfinal⟩ := Decomposition.table_final _ hmem
      exact .inr ⟨codes, hne, hfinal, decompose_of_mem_table hs hmem⟩
    · exact .inl (settled_of_not_mem_keys hs hk)

/-- **Decomposition is complete.** -/
theorem settled_of_mem_decompose {c d : Char} (h : d ∈ decompose c) : Settled d := by
  rcases decompose_cases c with hc | ⟨codes, -, hfinal, heq⟩
  · rw [hc, List.mem_singleton] at h
    exact h ▸ hc
  · rw [heq, List.mem_map] at h
    obtain ⟨code, hmem, rfl⟩ := h
    exact settled_ofNat (hfinal code hmem)

/-- No character decomposes to nothing. -/
theorem decompose_ne_nil (c : Char) : decompose c ≠ [] := by
  rcases decompose_cases c with hc | ⟨codes, hne, -, heq⟩
  · rw [hc]
    simp
  · rw [heq]
    simpa using hne

end HdWallet.Unicode
