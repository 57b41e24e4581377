/-
White space keeps what stands on its two sides apart, in Form KD as well: it decomposes to white
space, and no mark crosses it (`reorder_append_starters`). So a text may be cut at its white space
before it is brought into Form KD or after (`words_compatibilityForm_append`), and a text of tokens
is read as these tokens, whatever white space they are spaced with (`Phrase.tokens_of_isSpaced`).
-/
import HdWallet.Proofs.NormalPhrase

namespace HdWallet.Unicode

/-! ## Reordering -/

/-- No mark moves in front of a starter. -/
theorem place_append_starter {g : Char} (hg : combiningClass g = 0) (c : Char)
    (left right : List Char) : place c (left ++ g :: right) = place c left ++ g :: right := by
  induction left with
  | nil =>
    refine place_of_inOrder fun d hd => ?_
    have hd : d = g := by simpa [eq_comm] using hd
    exact hd ▸ inOrder_of_starter_right hg c
  | cons d left ih =>
    rw [List.cons_append, place, place]
    split
    · rw [ih, List.cons_append]
    · rfl

theorem place_starter {g : Char} (hg : combiningClass g = 0) (text : List Char) :
    place g text = g :: text :=
  place_of_inOrder fun d _ => inOrder_of_starter_left hg d

theorem reorder_append_starter {g : Char} (hg : combiningClass g = 0) (left right : List Char) :
    reorder (left ++ g :: right) = reorder left ++ g :: reorder right := by
  induction left with
  | nil => exact place_starter hg _
  | cons c left ih =>
    have hstep : ∀ text, reorder (c :: text) = place c (reorder text) := fun _ => rfl
    rw [List.cons_append, hstep, hstep, ih, place_append_starter hg]

theorem reorder_starters_append {gap : List Char} (hgap : ∀ c ∈ gap, combiningClass c = 0)
    (text : List Char) : reorder (gap ++ text) = gap ++ reorder text := by
  induction gap with
  | nil => rfl
  | cons c gap ih =>
    have hstep := reorder_append_starter (hgap c (by simp)) [] (gap ++ text)
    rw [List.cons_append]
    exact hstep.trans (congrArg (c :: ·) (ih fun d hd => hgap d (List.mem_cons_of_mem _ hd)))

/-- Starters between two texts keep their marks apart. -/
theorem reorder_append_starters {gap : List Char} (hne : gap ≠ [])
    (hgap : ∀ c ∈ gap, combiningClass c = 0) (left right : List Char) :
    reorder (left ++ gap ++ right) = reorder left ++ gap ++ reorder right := by
  cases gap with
  | nil => exact absurd rfl hne
  | cons g gap =>
    have hrest := reorder_starters_append (fun d hd => hgap d (List.mem_cons_of_mem _ hd)) right
    rw [List.append_assoc, List.cons_append, reorder_append_starter (hgap g (by simp)), hrest,
      List.append_assoc, List.cons_append]

/-! ## White space -/

/-- White space, or nothing at all. -/
def IsBlank (text : List Char) : Prop := ∀ c ∈ text, isWhiteSpace c = true

instance (text : List Char) : Decidable (IsBlank text) :=
  decidable_of_iff (text.all isWhiteSpace = true) List.all_eq_true

theorem isWhiteSpace_of_mem_run : ∀ run ∈ combiningRuns,
    ∀ code ∈ List.range' run.1 (run.2.1 + 1 - run.1), isWhiteSpace (Char.ofNat code) = false := by
  decide +kernel

theorem combiningClass_of_isWhiteSpace {c : Char} (h : isWhiteSpace c = true) :
    combiningClass c = 0 := by
  refine combiningClass_eq_zero isWhiteSpace_of_mem_run ?_
  rwa [Char.ofNat_toNat]

theorem isBlank_flatMap_decompose {gap : List Char} (h : IsBlank gap) :
    IsBlank (gap.flatMap decompose) := by
  intro c hc
  obtain ⟨d, hd, hmem⟩ := List.mem_flatMap.1 hc
  have hall := all_isWhiteSpace_decompose d
  rw [h d hd, List.all_eq_true] at hall
  exact hall c hmem

theorem flatMap_decompose_ne_nil {gap : List Char} (h : gap ≠ []) : gap.flatMap decompose ≠ [] := by
  intro hnil
  cases gap with
  | nil => exact h rfl
  | cons c gap => exact decompose_ne_nil c (List.flatMap_eq_nil_iff.1 hnil c (by simp))

theorem words_blank_append {gap : List Char} (h : IsBlank gap) (text : List Char) :
    words (gap ++ text) = words text := by
  induction gap with
  | nil => rfl
  | cons c gap ih =>
    rw [List.cons_append, words_cons_of_whiteSpace (h c (by simp)),
      ih fun d hd => h d (List.mem_cons_of_mem _ hd)]

theorem words_append_blank_append {gap : List Char} (hne : gap ≠ []) (h : IsBlank gap)
    (left right : List Char) : words (left ++ gap ++ right) = words left ++ words right := by
  cases gap with
  | nil => exact absurd rfl hne
  | cons g gap =>
    rw [List.append_assoc, List.cons_append, words_append (h g (by simp)),
      words_blank_append fun d hd => h d (List.mem_cons_of_mem _ hd)]

/-- **White space keeps the words on its two sides apart.** -/
theorem words_compatibilityForm_append {gap : List Char} (hne : gap ≠ []) (h : IsBlank gap)
    (left right : List Char) :
    words (compatibilityForm (left ++ gap ++ right)) =
      words (compatibilityForm left) ++ words (compatibilityForm right) := by
  have hblank := isBlank_flatMap_decompose h
  have hgap := flatMap_decompose_ne_nil hne
  rw [compatibilityForm, List.flatMap_append, List.flatMap_append,
    reorder_append_starters hgap fun c hc => combiningClass_of_isWhiteSpace (hblank c hc),
    words_append_blank_append hgap hblank, compatibilityForm, compatibilityForm]

theorem words_compatibilityForm_blank_append {gap : List Char} (h : IsBlank gap)
    (text : List Char) :
    words (compatibilityForm (gap ++ text)) = words (compatibilityForm text) := by
  by_cases hne : gap = []
  · rw [hne, List.nil_append]
  · exact words_compatibilityForm_append hne h [] text

theorem words_compatibilityForm_append_blank {gap : List Char} (h : IsBlank gap)
    (text : List Char) :
    words (compatibilityForm (text ++ gap)) = words (compatibilityForm text) := by
  by_cases hne : gap = []
  · rw [hne, List.append_nil]
  · have happend := words_compatibilityForm_append hne h text []
    rw [List.append_nil] at happend
    exact happend.trans (List.append_nil _)

end HdWallet.Unicode

namespace HdWallet.Phrase

open Unicode

/-! ## Texts of tokens -/

/-- A text in which tokens stand one after the other, white space between each two and perhaps in
front of the first and behind the last. -/
inductive IsSpaced : List String → List Char → Prop
  | blank {gap : List Char} (hgap : IsBlank gap) : IsSpaced [] gap
  | single {lead gap : List Char} {token : String} (hlead : IsBlank lead) (hgap : IsBlank gap) :
    IsSpaced [token] (lead ++ token.toList ++ gap)
  | cons {lead gap rest : List Char} {token next : String} {others : List String}
    (hlead : IsBlank lead) (hgap : IsBlank gap) (hne : gap ≠ [])
    (hrest : IsSpaced (next :: others) rest) :
    IsSpaced (token :: next :: others) (lead ++ token.toList ++ gap ++ rest)

/-- Whatever is spaced, each part of it is read for itself. -/
theorem words_of_isSpaced {parts : List String} {text : List Char} (h : IsSpaced parts text) :
    words (compatibilityForm text) =
      parts.flatMap fun part => words (compatibilityForm part.toList) := by
  induction h with
  | blank hgap =>
    rw [List.flatMap_nil, words_compatibilityForm_eq_nil_iff, words_eq_nil_iff]
    exact hgap
  | single hlead hgap =>
    rw [List.append_assoc, words_compatibilityForm_blank_append hlead,
      words_compatibilityForm_append_blank hgap, List.flatMap_singleton]
  | cons hlead hgap hne _ ih =>
    rw [words_compatibilityForm_append hne hgap, words_compatibilityForm_blank_append hlead, ih]
    rfl

theorem tokens_eq_flatMap {parts : List String} {text : String}
    (h : IsSpaced parts text.toList) : tokens text = parts.flatMap tokens := by
  rw [tokens, words_of_isSpaced h, List.map_flatMap]
  rfl

theorem tokens_of_isToken {token : String} (h : IsToken token) : tokens token = [token] := by
  rw [tokens, h.isNormal.compatibilityForm_eq, words_of_isWord h.isWord, List.map_singleton,
    String.ofList_toList]

/-- **A text of tokens is read as these tokens.** -/
theorem tokens_of_isSpaced {spelled : List String} {text : String}
    (h : IsSpaced spelled text.toList) (htoken : ∀ token ∈ spelled, IsToken token) :
    tokens text = spelled := by
  rw [tokens_eq_flatMap h,
    List.flatMap_congr fun token hmem => tokens_of_isToken (htoken token hmem)]
  exact List.flatMap_singleton' spelled

end HdWallet.Phrase
