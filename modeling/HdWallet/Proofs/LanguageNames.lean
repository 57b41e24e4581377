/-
Which texts name a language. A text is folded before it is compared with the names, and this comes
to the same as going through it character by character: without the white space around it, it is as
long as the name, and each of its characters stands for the one at that place (`fold_eq_iff`). No
two names are folded alike, so a text names one language or none (`parse_eq_ok_iff`).
-/
import HdWallet.Language
import HdWallet.Proofs.LowerCase
import HdWallet.Proofs.Trimming

namespace HdWallet.Language

open Unicode

/-! ## Names -/

theorem mem_all (language : Language) : language ∈ all := by
  cases language <;> decide

theorem name_injective : Function.Injective name := fun a b h =>
  List.inj_on_of_nodup_map (f := name) (by decide : (all.map name).Nodup) (mem_all a) (mem_all b) h

/-- The characters of names are in ASCII, in lower case, and neither hyphens nor white space. -/
def IsNameCharacter (d : Char) : Prop :=
  d.toNat < 0x80 ∧ d.toLower = d ∧ d ≠ '-' ∧ isWhiteSpace d = false

instance (d : Char) : Decidable (IsNameCharacter d) :=
  inferInstanceAs (Decidable (_ ∧ _ ∧ _ ∧ _))

theorem isNameCharacter_of_mem_name {language : Language} {d : Char}
    (hd : d ∈ language.name.toList) : IsNameCharacter d := by
  have hall : language.name.toList.all (fun d => decide (IsNameCharacter d)) = true := by
    cases language <;> decide
  exact of_decide_eq_true (List.all_eq_true.1 hall d hd)

/-! ## Characters that stand for those of names -/

/-- What stands for a character of a name: the letter itself in either case of ASCII, a hyphen for
an underscore, and the Kelvin sign for a k. -/
def StandsFor (c d : Char) : Prop :=
  c.toLower = d.toLower ∨ (c = '-' ∧ d = '_') ∨ (c = '\u212A' ∧ d = 'k')

instance : DecidableRel StandsFor := fun _ _ => inferInstanceAs (Decidable (_ ∨ _))

theorem eq_hyphen_of_toLower {c : Char} (hc : c.toNat < 0x80) (h : c.toLower = '-') : c = '-' :=
  forall_ascii (p := fun c => c.toLower = '-' → c = '-') (by decide +kernel) hc h

theorem toLower_of_le {c : Char} (hc : 0x80 ≤ c.toNat) : c.toLower = c := by
  rw [Char.toLower, dif_neg]
  rintro ⟨-, hle⟩
  have hz : c.toNat ≤ 0x5A := UInt32.le_iff_toNat_le.1 hle
  omega

/-- In ASCII the characters that stand for one of a name are those that are folded to it. -/
theorem standsFor_iff_of_ascii {c d : Char} (hc : c.toNat < 0x80) (hd : IsNameCharacter d) :
    StandsFor c d ↔ unhyphen c.toLower = d := by
  obtain ⟨-, hlower, hne, -⟩ := hd
  constructor
  · rintro (h | ⟨rfl, rfl⟩ | ⟨rfl, rfl⟩)
    · rw [h, hlower, unhyphen, if_neg hne]
    · rfl
    · exact absurd hc (by decide)
  · rw [unhyphen]
    split
    · next hhyphen =>
      rintro rfl
      exact .inr (.inl ⟨eq_hyphen_of_toLower hc hhyphen, rfl⟩)
    · exact fun h => .inl (h.trans hlower.symm)

/-- Outside ASCII there is only the Kelvin sign. -/
theorem standsFor_iff_of_le {c d : Char} (hc : 0x80 ≤ c.toNat) (hd : IsNameCharacter d) :
    StandsFor c d ↔ c = '\u212A' ∧ d = 'k' := by
  obtain ⟨hascii, hlower, -, -⟩ := hd
  constructor
  · rintro (h | ⟨rfl, -⟩ | h)
    · rw [toLower_of_le hc, hlower] at h
      rw [h] at hc
      omega
    · exact absurd hc (by decide)
    · exact h
  · exact fun h => .inr (.inr h)

/-! ## Folding -/

/-- A character that is folded to one character is compared with the first of the name. -/
theorem cons_eq_iff_forall₂ {c e : Char} {text folded name : List Char}
    (hstands : ∀ d, IsNameCharacter d → (StandsFor c d ↔ e = d))
    (hrest : ∀ rest, (∀ d ∈ rest, IsNameCharacter d) →
      (folded = rest ↔ List.Forall₂ StandsFor text rest))
    (hname : ∀ d ∈ name, IsNameCharacter d) :
    e :: folded = name ↔ List.Forall₂ StandsFor (c :: text) name := by
  cases name with
  | nil => simp
  | cons d rest =>
    rw [List.forall_mem_cons] at hname
    rw [List.cons.injEq, List.forall₂_cons, hstands d hname.1, hrest rest hname.2]

/-- **Folding compares character by character.** -/
theorem map_lowerCaseFrom_eq_iff {name : List Char} (hname : ∀ d ∈ name, IsNameCharacter d)
    (before text : List Char) :
    (lowerCaseFrom before text).map unhyphen = name ↔ List.Forall₂ StandsFor text name := by
  induction text generalizing before name with
  | nil => simp [lowerCaseFrom, eq_comm]
  | cons c text ih =>
    rw [lowerCaseFrom, List.map_append]
    have hlowered := isLowered before c text
    generalize lowerCharacter before c text = lower at hlowered
    have hrest := fun rest hchars => @ih rest hchars (c :: before)
    cases hlowered with
    | ascii hc =>
      exact cons_eq_iff_forall₂ (fun d hd => standsFor_iff_of_ascii hc hd) hrest hname
    | kelvin hc =>
      refine cons_eq_iff_forall₂ (fun d hd => ?_) hrest hname
      rw [standsFor_iff_of_le (hc ▸ by decide) hd, and_iff_right hc]
      exact eq_comm
    | other hc hne hlower =>
      refine iff_of_false ?_ ?_
      · rintro rfl
        obtain ⟨d, hd, hle⟩ := hlower
        have hfold : unhyphen d = d := if_neg (by rintro rfl; exact absurd hle (by decide))
        have hascii := (hname d (List.mem_append_left _ (hfold ▸ List.mem_map_of_mem hd))).1
        omega
      · rintro (_ | ⟨hstands, -⟩)
        exact hne ((standsFor_iff_of_le hc (hname _ List.mem_cons_self)).1 hstands).1

/-! ## Spellings -/

/-- White space has no case. -/
theorem toLower_of_isWhiteSpace {c : Char} (hc : isWhiteSpace c = true) : c.toLower = c := by
  by_cases hascii : c.toNat < 0x80
  · exact forall_ascii (p := fun c => isWhiteSpace c = true → c.toLower = c) (by decide +kernel)
      hascii hc
  · exact toLower_of_le (Nat.le_of_not_lt hascii)

theorem isWhiteSpace_of_standsFor {c d : Char} (hd : IsNameCharacter d) (h : StandsFor c d) :
    isWhiteSpace c = false := by
  obtain ⟨-, hlower, -, hsolid⟩ := hd
  rcases h with h | ⟨rfl, -⟩ | ⟨rfl, -⟩
  · cases hc : isWhiteSpace c with
    | false => rfl
    | true =>
      rw [toLower_of_isWhiteSpace hc, hlower] at h
      rw [← hsolid, ← hc, h]
  · decide
  · decide

theorem solid_of_forall₂ {core name : List Char} (hname : ∀ d ∈ name, IsNameCharacter d)
    (h : List.Forall₂ StandsFor core name) : ∀ c ∈ core, isWhiteSpace c = false := by
  induction h with
  | nil => simp
  | cons hstands _ ih =>
    rw [List.forall_mem_cons] at hname ⊢
    exact ⟨isWhiteSpace_of_standsFor hname.1 hstands, ih hname.2⟩

/-- The spellings of a language: with nothing but white space around it, a text as long as the name
each character of which stands for the one at its place. -/
def Spells (text : String) (language : Language) : Prop :=
  ∃ core, IsPadded core text.toList ∧ List.Forall₂ StandsFor core language.name.toList

theorem spells_iff {text : String} {language : Language} :
    Spells text language ↔ List.Forall₂ StandsFor (trim text.toList) language.name.toList := by
  constructor
  · rintro ⟨core, hcore, hstands⟩
    have hsolid := solid_of_forall₂ (fun _ => isNameCharacter_of_mem_name) hstands
    have hne : core ≠ [] := by
      rintro rfl
      exact absurd (List.forall₂_nil_left_iff.1 hstands) (by cases language <;> decide)
    rwa [trim_of_isPadded hcore hne hsolid]
  · exact fun h => ⟨_, isPadded_trim _, h⟩

instance (text : String) (language : Language) : Decidable (Spells text language) :=
  decidable_of_iff _ spells_iff.symm

theorem fold_eq_iff {text : String} {language : Language} :
    fold text.toList = language.name.toList ↔ Spells text language := by
  rw [spells_iff]
  exact map_lowerCaseFrom_eq_iff (fun _ => isNameCharacter_of_mem_name) [] (trim text.toList)

/-- No two languages have a spelling in common. -/
theorem Spells.eq {text : String} {a b : Language} (ha : Spells text a) (hb : Spells text b) :
    a = b := by
  rw [← fold_eq_iff] at ha hb
  exact name_injective (String.toList_inj.1 (ha.symm.trans hb))

/-! ## Reading -/

/-- A text is read as the language that it spells, or refused as it stands. -/
theorem parse_cases (text : String) :
    (∃ language, Spells text language ∧ parse text = .ok language) ∨
      (∀ language, ¬ Spells text language) ∧
        parse text = .error (.unsupportedLanguage text) := by
  rw [parse]
  split
  · next language hfind =>
    have hname := List.find?_some hfind
    exact .inl ⟨language, fold_eq_iff.1 (of_decide_eq_true hname).symm, rfl⟩
  · next hfind =>
    refine .inr ⟨fun language h => ?_, rfl⟩
    have hname := List.find?_eq_none.1 hfind language (mem_all language)
    exact hname (decide_eq_true (fold_eq_iff.2 h).symm)

/-- **The texts that are read as a language are its spellings.** -/
theorem parse_eq_ok_iff {text : String} {language : Language} :
    parse text = .ok language ↔ Spells text language := by
  rcases parse_cases text with ⟨found, hfound, hparse⟩ | ⟨hnone, hparse⟩
  · rw [hparse, Except.ok.injEq]
    exact ⟨fun h => h ▸ hfound, fun h => hfound.eq h⟩
  · rw [hparse]
    exact iff_of_false nofun (hnone language)

theorem parse_of_not_spells {text : String} (h : ∀ language, ¬ Spells text language) :
    parse text = .error (.unsupportedLanguage text) := by
  rcases parse_cases text with ⟨language, hlanguage, -⟩ | ⟨-, hparse⟩
  · exact absurd hlanguage (h language)
  · exact hparse

/-- Outside ASCII only the Kelvin sign has a lower case that is a character of a name. -/
theorem lowerCase_mem_name_iff {c : Char} (hc : 0x80 ≤ c.toNat) :
    (∃ language : Language, ∃ d ∈ language.name.toList, lowerCase [c] = [d]) ↔ c = '\u212A' := by
  have hlower : lowerCase [c] = lowerCharacter [] c [] := List.append_nil _
  rw [hlower]
  constructor
  · rintro ⟨language, d, hd, heq⟩
    have hlowered := isLowered [] c []
    rw [heq] at hlowered
    cases hlowered with
    | ascii hascii => omega
    | kelvin h => exact h
    | other _ _ hother =>
      have hascii := (isNameCharacter_of_mem_name hd).1
      obtain ⟨other, hmem, hle⟩ := hother
      rw [List.mem_singleton.1 hmem] at hle
      omega
  · rintro rfl
    exact ⟨.korean, 'k', by decide, lowerAlone_kelvin⟩

/-- **What names a language.** A text is read as the languages that it spells, of which there is at
most one; if there is none, the text is refused and handed back as it was given. Only the Kelvin
sign comes into spellings from outside ASCII. -/
theorem parse_spellings :
    (∀ text language, parse text = .ok language ↔ Spells text language) ∧
    (∀ text a b, Spells text a → Spells text b → a = b) ∧
    (∀ text, (∀ language, ¬ Spells text language) →
      parse text = .error (.unsupportedLanguage text)) ∧
    ∀ c : Char, 0x80 ≤ c.toNat →
      ((∃ language : Language, ∃ d ∈ language.name.toList, lowerCase [c] = [d]) ↔
        c = '\u212A') :=
  ⟨fun _ _ => parse_eq_ok_iff, fun _ _ _ => Spells.eq, fun _ => parse_of_not_spells,
    fun _ => lowerCase_mem_name_iff⟩

/-- A Kelvin sign may begin a name, and a name that no list has is refused with its blanks. -/
theorem parse_korean_czech :
    Spells "\u212Aorean\n" .korean ∧ parse "\u212Aorean\n" = .ok .korean ∧
      (∀ language, Spells "\u212Aorean\n" language → language = .korean) ∧
      (∀ language, ¬ Spells " Czech" language) ∧
      parse " Czech" = .error (.unsupportedLanguage " Czech") ∧
      0x80 ≤ '\u0130'.toNat ∧
      ¬ ∃ language : Language, ∃ d ∈ language.name.toList, lowerCase ['\u0130'] = [d] := by
  have hkorean : Spells "\u212Aorean\n" .korean := by decide
  have hczech : ∀ language, ¬ Spells " Czech" language := fun language => by
    cases language <;> decide
  have hdotted : 0x80 ≤ '\u0130'.toNat := by decide
  obtain ⟨hread, hunique, hrefused, houtside⟩ := parse_spellings
  refine ⟨hkorean, (hread _ _).2 hkorean, fun language h => hunique _ _ _ h hkorean, hczech,
    hrefused _ hczech, hdotted, fun h => ?_⟩
  exact absurd ((houtside _ hdotted).1 h) (by decide)

end HdWallet.Language
