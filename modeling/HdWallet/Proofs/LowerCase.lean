/-
Lower case and ASCII. A character of ASCII has its lower case there, and so has the Kelvin sign;
the lower case of every other character has one outside ASCII in it (`isLowered`), whichever of its
two the capital sigma takes.
-/
import HdWallet.Unicode.LowerCase
import Mathlib

namespace HdWallet.Unicode

/-! ## Case runs -/

/-- But for the Kelvin sign the runs outside ASCII have their lower cases there too. -/
theorem lower_of_mem_caseRuns : ∀ run ∈ caseRuns,
    run.last < 0x80 ∨ run = ⟨0x212A, 0x212A, 1, 0x6B⟩ ∨ 0x80 ≤ run.lower := by
  decide +kernel

/-- Every place of a run has a lower case. -/
theorem isValidChar_of_mem_caseRuns : ∀ run ∈ caseRuns,
    run.lower + (run.last - run.first) < 0xD800 ∨
      (0xDFFF < run.lower ∧ run.lower + (run.last - run.first) < 0x110000) := by
  decide +kernel

theorem CaseRun.contains_iff {run : CaseRun} {code : Nat} : run.contains code = true ↔
    run.first ≤ code ∧ code ≤ run.last ∧ (code - run.first) % run.step = 0 := by
  simp [CaseRun.contains, and_assoc]

theorem toNat_lower {run : CaseRun} {code : Nat} (hmem : run ∈ caseRuns)
    (hcode : run.contains code = true) :
    (Char.ofNat (run.lower + (code - run.first))).toNat = run.lower + (code - run.first) := by
  obtain ⟨hfirst, hlast, -⟩ := CaseRun.contains_iff.1 hcode
  have hvalid : (run.lower + (code - run.first)).isValidChar := by
    have hrun := isValidChar_of_mem_caseRuns run hmem
    rw [Nat.isValidChar]
    omega
  rw [Char.toNat_ofNat, if_pos hvalid]

/-! ## Characters -/

theorem forall_ascii {p : Char → Prop} (h : ∀ n : Fin 128, p (Char.ofNat n)) {c : Char}
    (hc : c.toNat < 0x80) : p c :=
  Char.ofNat_toNat c ▸ h ⟨c.toNat, hc⟩

/-- What a character has for its lower case. -/
inductive IsLowered (c : Char) : List Char → Prop
  | ascii (h : c.toNat < 0x80) : IsLowered c [c.toLower]
  | kelvin (h : c = '\u212A') : IsLowered c ['k']
  | other {lower : List Char} (hc : 0x80 ≤ c.toNat) (hne : c ≠ '\u212A')
    (hlower : ∃ d ∈ lower, 0x80 ≤ d.toNat) : IsLowered c lower

theorem lowerAlone_of_ascii {c : Char} (hc : c.toNat < 0x80) : lowerAlone c = [c.toLower] :=
  forall_ascii (p := fun c => lowerAlone c = [c.toLower]) (by decide +kernel) hc

theorem lowerAlone_kelvin : lowerAlone '\u212A' = ['k'] := by
  decide +kernel

theorem exists_mem_lowerAlone {c : Char} (hc : 0x80 ≤ c.toNat) (hne : c ≠ '\u212A') :
    ∃ d ∈ lowerAlone c, 0x80 ≤ d.toNat := by
  rw [lowerAlone]
  split
  · exact ⟨'\u0307', by simp, by decide⟩
  · split
    · next run hfind =>
      have hmem := List.mem_of_find?_eq_some hfind
      have hcode : run.contains c.toNat = true := by simpa using List.find?_some hfind
      refine ⟨_, List.mem_singleton_self _, ?_⟩
      rw [toNat_lower hmem hcode]
      obtain ⟨hfirst, hlast, -⟩ := CaseRun.contains_iff.1 hcode
      rcases lower_of_mem_caseRuns run hmem with hascii | rfl | hlower
      · omega
      · have hsign : c.toNat = '\u212A'.toNat := Nat.le_antisymm hlast hfirst
        exact absurd (Char.toNat_inj.1 hsign) hne
      · omega
    · exact ⟨c, List.mem_singleton_self c, hc⟩

/-- **Outside ASCII only the Kelvin sign has a lower case in it.** -/
theorem isLowered (before : List Char) (c : Char) (behind : List Char) :
    IsLowered c (lowerCharacter before c behind) := by
  rw [lowerCharacter]
  by_cases hascii : c.toNat < 0x80
  · rw [if_neg (by rintro rfl; exact absurd hascii (by decide))]
    exact lowerAlone_of_ascii hascii ▸ .ascii hascii
  · by_cases hkelvin : c = '\u212A'
    · rw [hkelvin, if_neg (by decide), lowerAlone_kelvin]
      exact .kelvin rfl
    · refine .other (Nat.le_of_not_lt hascii) hkelvin ?_
      split
      · refine ⟨_, List.mem_singleton_self _, ?_⟩
        rw [lowerSigma]
        split <;> decide
      · exact exists_mem_lowerAlone (Nat.le_of_not_lt hascii) hkelvin

end HdWallet.Unicode
