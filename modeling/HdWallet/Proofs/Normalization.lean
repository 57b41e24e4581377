/-
What Form KD is: a text of characters that do not decompose, its marks in the order of their
classes (`IsNormal`). `compatibilityForm` makes such a text of every text and leaves a text
that is one as it is (`compatibilityForm_eq_self_iff`).
-/
import HdWallet.Proofs.Decomposition
import HdWallet.Proofs.Words
import HdWallet.Unicode.Normalization
import Mathlib.Data.List.Chain

namespace HdWallet.Unicode

/-! ## Order of marks -/

/-- A property that no code point of the runs of marks has is one of starters. -/
theorem combiningClass_eq_zero {p : Nat → Bool}
    (hruns : ∀ run ∈ combiningRuns, ∀ code ∈ List.range' run.1 (run.2.1 + 1 - run.1),
      p code = false) {c : Char} (h : p c.toNat = true) : combiningClass c = 0 := by
  rw [combiningClass]
  split
  · next first last number hfind =>
    have hin := List.find?_some hfind
    simp only [Bool.and_eq_true, decide_eq_true_eq] at hin
    have hmem : c.toNat ∈ List.range' first (last + 1 - first) := by
      rw [List.mem_range'_1]
      omega
    rw [hruns _ (List.mem_of_find?_eq_some hfind) _ hmem] at h
    cases h
  · rfl

/-- Two neighbours that canonical ordering leaves as they are. -/
def InOrder (c d : Char) : Prop :=
  ¬ (0 < combiningClass d ∧ combiningClass d < combiningClass c)

theorem inOrder_of_starter_left {c : Char} (h : combiningClass c = 0) (d : Char) : InOrder c d := by
  simp [InOrder, h]

theorem inOrder_of_starter_right {d : Char} (h : combiningClass d = 0) (c : Char) :
    InOrder c d := by
  simp [InOrder, h]

theorem place_of_inOrder {c : Char} {text : List Char} (h : ∀ d ∈ text.head?, InOrder c d) :
    place c text = c :: text := by
  cases text with
  | nil => rfl
  | cons d rest => rw [place, if_neg (h d (by simp))]

theorem head_place {c d : Char} {text : List Char} (h : d ∈ (place c text).head?) :
    d = c ∨ d ∈ text.head? := by
  cases text with
  | nil => simpa [place, eq_comm] using h
  | cons e rest =>
    rw [place] at h
    split at h
    · exact .inr (by simpa using h)
    · exact .inl (by simpa [eq_comm] using h)

theorem place_perm (c : Char) (text : List Char) : (place c text).Perm (c :: text) := by
  induction text with
  | nil => exact .refl _
  | cons d rest ih =>
    rw [place]
    split
    · exact (ih.cons d).trans (.swap c d rest)
    · exact .refl _

theorem isChain_place {text : List Char} (c : Char) (h : text.IsChain InOrder) :
    (place c text).IsChain InOrder := by
  induction text with
  | nil => exact .singleton c
  | cons d rest ih =>
    rw [place]
    split
    · next hd =>
      obtain ⟨hhead, htail⟩ := List.isChain_cons.1 h
      refine List.isChain_cons.2 ⟨fun e he => ?_, ih htail⟩
      rcases head_place he with rfl | he
      · simp only [InOrder]
        omega
      · exact hhead e he
    · next hd => exact .cons_cons hd h

theorem reorder_perm (text : List Char) : (reorder text).Perm text := by
  induction text with
  | nil => exact .refl _
  | cons c rest ih => exact (place_perm c _).trans (ih.cons c)

theorem isChain_reorder (text : List Char) : (reorder text).IsChain InOrder := by
  induction text with
  | nil => exact .nil
  | cons c rest ih => exact isChain_place c ih

theorem reorder_of_isChain {text : List Char} (h : text.IsChain InOrder) : reorder text = text := by
  induction text with
  | nil => rfl
  | cons c rest ih =>
    obtain ⟨hhead, htail⟩ := List.isChain_cons.1 h
    have hstep : reorder (c :: rest) = place c (reorder rest) := rfl
    rw [hstep, ih htail, place_of_inOrder hhead]

/-! ## Form KD -/

/-- A text in Form KD. -/
structure IsNormal (text : List Char) : Prop where
  settled : ∀ c ∈ text, Settled c
  inOrder : text.IsChain InOrder

theorem flatMap_decompose_of_settled {text : List Char} (h : ∀ c ∈ text, Settled c) :
    text.flatMap decompose = text := by
  induction text with
  | nil => rfl
  | cons c rest ih =>
    have hc : decompose c = [c] := h c (by simp)
    rw [List.flatMap_cons, hc, ih fun d hd => h d (List.mem_cons_of_mem _ hd)]
    rfl

theorem isNormal_compatibilityForm (text : List Char) : IsNormal (compatibilityForm text) := by
  refine ⟨fun c hc => ?_, isChain_reorder _⟩
  rw [compatibilityForm, (reorder_perm _).mem_iff, List.mem_flatMap] at hc
  obtain ⟨d, -, hd⟩ := hc
  exact settled_of_mem_decompose hd

theorem IsNormal.compatibilityForm_eq {text : List Char} (h : IsNormal text) :
    compatibilityForm text = text := by
  rw [compatibilityForm, flatMap_decompose_of_settled h.settled, reorder_of_isChain h.inOrder]

/-- **Form KD is what `compatibilityForm` makes**, and what it leaves alone. -/
theorem compatibilityForm_eq_self_iff {text : List Char} :
    compatibilityForm text = text ↔ IsNormal text :=
  ⟨fun h => h ▸ isNormal_compatibilityForm text, IsNormal.compatibilityForm_eq⟩

theorem compatibilityForm_eq_nil_iff {text : List Char} :
    compatibilityForm text = [] ↔ text = [] := by
  constructor
  · intro h
    have hflat : text.flatMap decompose = [] := by
      rw [compatibilityForm] at h
      exact List.Perm.eq_nil (h ▸ reorder_perm _).symm
    rw [List.flatMap_eq_nil_iff] at hflat
    cases text with
    | nil => rfl
    | cons c rest => exact absurd (hflat c (by simp)) (decompose_ne_nil c)
  · rintro rfl
    rfl

/-! ## Parts -/

theorem IsNormal.infix {text part : List Char} (h : IsNormal text) (hp : part <:+: text) :
    IsNormal part :=
  ⟨fun c hc => h.settled c (hp.subset hc), h.inOrder.infix hp⟩

theorem settled_space : Settled ' ' := settled_of_ascii (by decide)

theorem combiningClass_space : combiningClass ' ' = 0 := by decide +kernel

/-- A space between two texts in Form KD keeps their marks apart. -/
theorem IsNormal.append_space {left right : List Char} (hl : IsNormal left) (hr : IsNormal right) :
    IsNormal (left ++ ' ' :: right) := by
  refine ⟨fun c hc => ?_, ?_⟩
  · rcases List.mem_append.1 hc with hc | hc
    · exact hl.settled c hc
    · rcases List.mem_cons.1 hc with rfl | hc
      · exact settled_space
      · exact hr.settled c hc
  · refine hl.inOrder.append (List.isChain_cons.2 ⟨fun d _ => ?_, hr.inOrder⟩) fun c _ d hd => ?_
    · exact inOrder_of_starter_left combiningClass_space d
    · have hd : d = ' ' := by simpa [eq_comm] using hd
      exact hd ▸ inOrder_of_starter_right combiningClass_space c

theorem isNormal_intercalate {parts : List (List Char)} (h : ∀ part ∈ parts, IsNormal part) :
    IsNormal ([' '].intercalate parts) := by
  induction parts with
  | nil => exact ⟨by simp, .nil⟩
  | cons part parts ih =>
    cases parts with
    | nil => simpa using h part (by simp)
    | cons next parts =>
      rw [List.intercalate_cons_cons, List.append_assoc, List.singleton_append]
      exact (h part (by simp)).append_space (ih fun q hq => h q (List.mem_cons_of_mem _ hq))

/-! ## White space -/

set_option maxRecDepth 20000 in
/-- An entry is white space through and through exactly if it is that of white space. -/
theorem table_whiteSpace : ∀ entry ∈ Decomposition.table,
    (entry.2.map Char.ofNat).all isWhiteSpace = isWhiteSpace (Char.ofNat entry.1) := by
  decide +kernel

/-- The jamo and the syllables are all above the white space. -/
theorem isWhiteSpace_eq_false {c : Char} (h : 0x1100 ≤ c.toNat ∧ c.toNat < 0x1200 ∨
    Hangul.IsSyllable c.toNat) : isWhiteSpace c = false := by
  simp only [Hangul.IsSyllable, Hangul.firstSyllable] at h
  simp only [isWhiteSpace, Bool.or_eq_false_iff, Bool.and_eq_false_iff, decide_eq_false_iff_not,
    beq_eq_false_iff_ne]
  omega

theorem all_isWhiteSpace_decompose (c : Char) :
    (decompose c).all isWhiteSpace = isWhiteSpace c := by
  by_cases hs : Hangul.IsSyllable c.toNat
  · have hlt : c.toNat - Hangul.firstSyllable < Hangul.syllableCount := by
      obtain ⟨h₁, h₂⟩ := hs
      omega
    obtain ⟨code, hcode⟩ : ∃ code, code ∈ Hangul.jamo (c.toNat - Hangul.firstSyllable) := by
      simp only [Hangul.jamo]
      split <;> exact ⟨_, List.mem_cons_self⟩
    have hbounds := Decomposition.jamo_bounds hlt hcode
    have heq : (Char.ofNat code).toNat = code := toNat_ofNat_of_isValidChar (.inl (by omega))
    rw [decompose_of_isSyllable hs, isWhiteSpace_eq_false (.inr hs), List.all_eq_false]
    refine ⟨Char.ofNat code, List.mem_map_of_mem hcode, ?_⟩
    rw [isWhiteSpace_eq_false (.inl (by omega))]
    exact Bool.false_ne_true
  · by_cases hk : c.toNat ∈ Decomposition.keys
    · obtain ⟨⟨key, codes⟩, hmem, heq⟩ := List.mem_map.1 hk
      subst heq
      rw [decompose_of_mem_table hs hmem, table_whiteSpace _ hmem, Char.ofNat_toNat]
    · have hc : decompose c = [c] := settled_of_not_mem_keys hs hk
      rw [hc, List.all_cons, List.all_nil, Bool.and_true]

/-- **Form KD leaves words exactly where there were some.** -/
theorem words_compatibilityForm_eq_nil_iff {text : List Char} :
    words (compatibilityForm text) = [] ↔ words text = [] := by
  have hall : (compatibilityForm text).all isWhiteSpace = text.all isWhiteSpace := by
    rw [compatibilityForm, (reorder_perm _).all_eq, List.all_flatMap]
    simp only [all_isWhiteSpace_decompose]
  rw [words_eq_nil_iff, words_eq_nil_iff, ← List.all_eq_true, ← List.all_eq_true, hall]

end HdWallet.Unicode
