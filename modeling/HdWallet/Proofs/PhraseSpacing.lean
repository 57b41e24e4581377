/-
How a phrase is spaced does not matter. A normal form has one space between each two words and no
other white space (`Unicode.IsSingleSpaced`), and the texts that are spaced so and in Form KD are
exactly those that are their own normal forms (`normalize_eq_self_iff`). White space between two
texts keeps their words apart (`words_normalize_append`), so texts of the same parts with any white
space between them and around them have one normal form, and whatever reads that normal form
answers alike for them (`readAlike_of_isSpaced`).
-/
import HdWallet.Proofs.PhraseExpansion
import HdWallet.Proofs.SpacedTexts

namespace HdWallet

namespace Unicode

/-! ## Single spaces -/

/-- A text of words with one space between each two. -/
structure IsSingleSpaced (text : List Char) : Prop where
  only_spaces : ∀ c ∈ text, isWhiteSpace c = true → c = ' '
  head_solid : ∀ c ∈ text.head?, isWhiteSpace c = false
  last_solid : ∀ c ∈ text.getLast?, isWhiteSpace c = false
  apart : text.IsChain fun c d => ¬ (c = ' ' ∧ d = ' ')

theorem ne_space_of_solid {c : Char} (h : isWhiteSpace c = false) : c ≠ ' ' := by
  rintro rfl
  rw [isWhiteSpace_space] at h
  cases h

theorem isSingleSpaced_nil : IsSingleSpaced [] :=
  ⟨by simp, by simp, by simp, .nil⟩

theorem IsWord.isSingleSpaced {word : List Char} (h : IsWord word) : IsSingleSpaced word where
  only_spaces c hc hspace := by
    rw [h.solid c hc] at hspace
    cases hspace
  head_solid c hc := h.solid c (List.mem_of_mem_head? hc)
  last_solid c hc := h.solid c (List.mem_of_mem_getLast? hc)
  apart := by
    refine (List.pairwise_of_forall_mem_list fun c hc d _ => ?_).isChain
    rintro ⟨rfl, -⟩
    exact h.space_not_mem hc

/-- One more space, between two texts that are not empty. -/
theorem IsSingleSpaced.append_space {left right : List Char} (hl : IsSingleSpaced left)
    (hr : IsSingleSpaced right) (hleft : left ≠ []) (hright : right ≠ []) :
    IsSingleSpaced (left ++ ' ' :: right) where
  only_spaces c hc hspace := by
    rcases List.mem_append.1 hc with hc | hc
    · exact hl.only_spaces c hc hspace
    · rcases List.mem_cons.1 hc with rfl | hc
      · rfl
      · exact hr.only_spaces c hc hspace
  head_solid c hc := by
    rw [List.head?_append_of_ne_nil _ hleft] at hc
    exact hl.head_solid c hc
  last_solid c hc := by
    rw [List.append_cons, List.getLast?_append_of_ne_nil _ hright] at hc
    exact hr.last_solid c hc
  apart := by
    refine hl.apart.append (List.isChain_cons.2 ⟨fun d hd => ?_, hr.apart⟩) fun c hc _ _ => ?_
    · rintro ⟨-, rfl⟩
      exact ne_space_of_solid (hr.head_solid _ hd) rfl
    · rintro ⟨rfl, -⟩
      exact ne_space_of_solid (hl.last_solid _ hc) rfl

theorem isSingleSpaced_intercalate {parts : List (List Char)} (h : ∀ part ∈ parts, IsWord part) :
    IsSingleSpaced ([' '].intercalate parts) := by
  induction parts with
  | nil => exact isSingleSpaced_nil
  | cons part parts ih =>
    have hpart : IsWord part := h part (by simp)
    cases parts with
    | nil =>
      rw [List.intercalate_singleton]
      exact hpart.isSingleSpaced
    | cons next parts =>
      have hrest : ∀ other ∈ next :: parts, IsWord other := fun other ho =>
        h other (List.mem_cons_of_mem _ ho)
      have hne : [' '].intercalate (next :: parts) ≠ [] := fun hnil => by
        have hwords := words_intercalate hrest
        rw [hnil] at hwords
        cases hwords
      rw [List.intercalate_cons_cons, List.append_assoc, List.singleton_append]
      exact hpart.isSingleSpaced.append_space (ih hrest) hpart.ne_nil hne

/-- What follows the first word of a single-spaced text is a space and a text of that kind. -/
theorem IsSingleSpaced.of_append_space {left right : List Char}
    (h : IsSingleSpaced (left ++ ' ' :: right)) : right ≠ [] ∧ IsSingleSpaced right := by
  have hne : right ≠ [] := by
    rintro rfl
    exact ne_space_of_solid (h.last_solid ' ' (by simp)) rfl
  have htail : ∀ c ∈ right, c ∈ left ++ ' ' :: right := fun c hc =>
    List.mem_append_right _ (List.mem_cons_of_mem _ hc)
  obtain ⟨-, hchain, -⟩ := List.isChain_append.1 h.apart
  obtain ⟨hfirst, hchain⟩ := List.isChain_cons.1 hchain
  refine ⟨hne, fun c hc => h.only_spaces c (htail c hc), fun c hc => ?_, fun c hc => ?_, hchain⟩
  · -- A white character behind the space would be a second space.
    cases hspace : isWhiteSpace c with
    | false => rfl
    | true =>
      have hc' := h.only_spaces c (htail c (List.mem_of_mem_head? hc)) hspace
      exact absurd ⟨rfl, hc'⟩ (hfirst c hc)
  · refine h.last_solid c ?_
    rwa [List.append_cons, List.getLast?_append_of_ne_nil _ hne]

/-- A text that starts with a word is nothing else, or goes on with white space behind it. -/
theorem exists_word_append {c : Char} (h : isWhiteSpace c = false) (rest : List Char) :
    IsWord (c :: rest) ∨ ∃ word d behind, c :: rest = word ++ d :: behind ∧ IsWord word ∧
      isWhiteSpace d = true := by
  have hsplit := List.takeWhile_append_dropWhile (p := (!isWhiteSpace ·)) (l := rest)
  have hword : IsWord (c :: rest.takeWhile (!isWhiteSpace ·)) :=
    isWord_of_mem_words (words_cons_of_solid h rest ▸ List.mem_cons_self)
  cases hdrop : rest.dropWhile (!isWhiteSpace ·) with
  | nil =>
    rw [hdrop, List.append_nil] at hsplit
    rw [hsplit] at hword
    exact .inl hword
  | cons d behind =>
    have hd : isWhiteSpace d = true := by
      have hnot := List.head?_dropWhile_not (!isWhiteSpace ·) rest
      simpa only [hdrop, List.head?_cons, Bool.not_eq_false'] using hnot
    rw [hdrop] at hsplit
    exact .inr ⟨_, d, behind, by rw [List.cons_append, hsplit], hword, hd⟩

/-- Induction along a text, a word at a time with the white space behind it. -/
@[elab_as_elim]
theorem wordwise_induction {motive : List Char → Prop} (nil : motive [])
    (space : ∀ c rest, isWhiteSpace c = true → motive rest → motive (c :: rest))
    (last : ∀ word, IsWord word → motive word)
    (word : ∀ word d behind, IsWord word → isWhiteSpace d = true → motive behind →
      motive (word ++ d :: behind)) (text : List Char) : motive text := by
  induction hn : text.length using Nat.strongRecOn generalizing text with
  | ind n ih =>
  subst hn
  cases text with
  | nil => exact nil
  | cons c rest =>
    cases hc : isWhiteSpace c with
    | true => exact space c rest hc (ih rest.length (by simp) rest rfl)
    | false =>
      rcases exists_word_append hc rest with hlast | ⟨first, d, behind, heq, hfirst, hd⟩
      · exact last _ hlast
      · rw [heq] at ih ⊢
        refine word first d behind hfirst hd (ih behind.length ?_ behind rfl)
        rw [List.length_append, List.length_cons]
        omega

/-- **A single-spaced text is its words joined.** -/
theorem IsSingleSpaced.intercalate_words {text : List Char} (h : IsSingleSpaced text) :
    [' '].intercalate (words text) = text := by
  induction text using wordwise_induction with
  | nil => rfl
  | space c rest hc =>
    rw [h.head_solid c rfl] at hc
    cases hc
  | last word hword => rw [words_of_isWord hword, List.intercalate_singleton]
  | word word d behind hword hd ih =>
    obtain rfl : d = ' ' := h.only_spaces d (by simp) hd
    obtain ⟨hne, hbehind⟩ := h.of_append_space
    have hrest := ih hbehind
    rw [words_append isWhiteSpace_space, words_of_isWord hword, List.singleton_append]
    cases hw : words behind with
    | nil =>
      rw [hw] at hrest
      exact absurd hrest.symm hne
    | cons next more =>
      rw [hw] at hrest
      rw [List.intercalate_cons_cons, hrest, List.append_assoc, List.singleton_append]

end Unicode

namespace Phrase

open Unicode

/-! ## Normal forms -/

theorem isSingleSpaced_normalize (text : String) : IsSingleSpaced (normalize text).toList := by
  rw [normalize, toList_join]
  refine isSingleSpaced_intercalate fun part hp => ?_
  obtain ⟨token, htoken, rfl⟩ := List.mem_map.1 hp
  exact (isToken_of_mem_tokens htoken).isWord

/-- **The normal forms are the single-spaced texts in Form KD.** -/
theorem normalize_eq_self_iff {text : String} :
    normalize text = text ↔ nfkd text = text ∧ IsSingleSpaced text.toList := by
  constructor
  · intro h
    have hform := nfkd_normalize text
    have hspaced := isSingleSpaced_normalize text
    rw [h] at hform hspaced
    exact ⟨hform, hspaced⟩
  · rintro ⟨hform, hspaced⟩
    have hlist := congrArg String.toList hform
    rw [nfkd, String.toList_ofList] at hlist
    have hwords : (tokens text).map String.toList = words text.toList := by
      rw [tokens, hlist, List.map_map]
      refine (List.map_congr_left fun word _ => ?_).trans (List.map_id _)
      simp
    rw [← String.toList_inj, normalize, toList_join, hwords, hspaced.intercalate_words]

/-! ## Cutting and spacing -/

theorem words_normalize (text : String) :
    Unicode.words (normalize text).toList = (tokens text).map String.toList :=
  words_join fun _ => isToken_of_mem_tokens

theorem tokens_append {gap : String} (hne : gap ≠ "") (hgap : IsBlank gap.toList)
    (left right : String) : tokens (left ++ gap ++ right) = tokens left ++ tokens right := by
  have hnil : gap.toList ≠ [] := fun hnil => hne (String.toList_eq_nil_iff.1 hnil)
  rw [tokens, String.toList_append, String.toList_append, words_compatibilityForm_append hnil hgap,
    List.map_append]
  rfl

/-- **White space keeps the words of the normal form apart.** -/
theorem words_normalize_append {gap : String} (hne : gap ≠ "") (hgap : IsBlank gap.toList)
    (left right : String) :
    Unicode.words (normalize (left ++ gap ++ right)).toList =
      Unicode.words (normalize left).toList ++ Unicode.words (normalize right).toList := by
  rw [words_normalize, words_normalize, words_normalize, tokens_append hne hgap, List.map_append]

theorem isBlank_nil : IsBlank [] := fun _ hc => absurd hc List.not_mem_nil

theorem IsSpaced.cons_whiteSpace {parts : List String} {text : List Char} {c : Char}
    (h : IsSpaced parts text) (hc : isWhiteSpace c = true) : IsSpaced parts (c :: text) := by
  cases h with
  | blank hgap => exact .blank (List.forall_mem_cons.2 ⟨hc, hgap⟩)
  | @single lead _ _ hlead hgap =>
    have hblank : IsBlank (c :: lead) := List.forall_mem_cons.2 ⟨hc, hlead⟩
    exact .single hblank hgap
  | @cons lead _ _ _ _ _ hlead hgap hne hrest =>
    have hblank : IsBlank (c :: lead) := List.forall_mem_cons.2 ⟨hc, hlead⟩
    exact .cons hblank hgap hne hrest

/-- Every text is its words with white space between them and around them. -/
theorem isSpaced_words (text : List Char) :
    IsSpaced ((Unicode.words text).map String.ofList) text := by
  induction text using wordwise_induction with
  | nil => exact .blank isBlank_nil
  | space c rest hc ih =>
    rw [words_cons_of_whiteSpace hc]
    exact ih.cons_whiteSpace hc
  | last word hword =>
    rw [words_of_isWord hword]
    have hsingle : IsSpaced [String.ofList word] ([] ++ (String.ofList word).toList ++ []) :=
      .single isBlank_nil isBlank_nil
    simpa using hsingle
  | word word d behind hword hd ih =>
    rw [words_append hd, words_of_isWord hword, List.singleton_append, List.map_cons]
    cases hw : Unicode.words behind with
    | nil =>
      have hblank : IsBlank (d :: behind) := List.forall_mem_cons.2 ⟨hd, words_eq_nil_iff.1 hw⟩
      have hsingle : IsSpaced [String.ofList word]
          ([] ++ (String.ofList word).toList ++ d :: behind) := .single isBlank_nil hblank
      simpa using hsingle
    | cons next more =>
      rw [hw] at ih
      have hgap : IsBlank [d] := List.forall_mem_cons.2 ⟨hd, isBlank_nil⟩
      have hcons : IsSpaced (String.ofList word :: _)
          ([] ++ (String.ofList word).toList ++ [d] ++ behind) :=
        .cons isBlank_nil hgap (List.cons_ne_nil _ _) ih
      simpa using hcons

/-! ## Reading alike -/

/-- Two texts that nothing which reads phrases tells apart. -/
structure ReadAlike (a b : String) : Prop where
  normalize_eq : normalize a = normalize b
  check_eq : ∀ language, check language a = check language b
  expand_eq : ∀ language, expand language a = expand language b
  ofPhraseWith_eq : ∀ (m : Type → Type) [Monad m] (wordList : WordList m) language passphrase,
    Wallet.ofPhraseWith wordList language a passphrase =
      Wallet.ofPhraseWith wordList language b passphrase

theorem readAlike_of_tokens_eq {a b : String} (h : tokens a = tokens b) : ReadAlike a b := by
  have hnormal : normalize a = normalize b := by
    rw [normalize, normalize, h]
  refine ⟨hnormal, fun language => ?_, fun language => ?_, fun _ _ _ _ _ => ?_⟩
  · rw [← check_normalize, hnormal, check_normalize]
  · rw [expand, expand, h]
  · exact Wallet.ofPhraseWith_congr hnormal

/-- **Spacing does not matter.** -/
theorem readAlike_of_isSpaced {parts : List String} {a b : String}
    (ha : IsSpaced parts a.toList) (hb : IsSpaced parts b.toList) : ReadAlike a b :=
  readAlike_of_tokens_eq ((tokens_eq_flatMap ha).trans (tokens_eq_flatMap hb).symm)

/-- **The normal form is canonical, however a phrase is spaced.** It has one space between each two
words and no other white space, it is in Form KD, and it is its own normal form; no other texts
are their own. Any white space between two texts keeps the words of their normal forms apart. Texts
of the same parts with any white space between them, before the first and behind the last are read
alike, and every text is its own words in such a spacing. -/
theorem normal_form_whatever_spacing :
    (∀ text, IsSingleSpaced (normalize text).toList ∧ nfkd (normalize text) = normalize text ∧
      normalize (normalize text) = normalize text) ∧
    (∀ text, normalize text = text ↔ nfkd text = text ∧ IsSingleSpaced text.toList) ∧
    (∀ left gap right : String, gap ≠ "" → IsBlank gap.toList →
      Unicode.words (normalize (left ++ gap ++ right)).toList =
        Unicode.words (normalize left).toList ++ Unicode.words (normalize right).toList) ∧
    (∀ (parts : List String) (a b : String), IsSpaced parts a.toList → IsSpaced parts b.toList →
      ReadAlike a b) ∧
    ∀ text : String, IsSpaced ((Unicode.words text.toList).map String.ofList) text.toList :=
  ⟨fun text => ⟨isSingleSpaced_normalize text, nfkd_normalize text, normalize_normalize text⟩,
    fun _ => normalize_eq_self_iff,
    fun left _ right hne hgap => words_normalize_append hne hgap left right,
    fun _ _ _ => readAlike_of_isSpaced, fun text => isSpaced_words text.toList⟩

/-- A tab and an ideographic space keep two words apart, the second of which decomposes to a word
behind a space; and two words are read alike with a line break in front of them and a no-break
space between them, or with one space. -/
theorem readAlike_zoo_ice :
    Unicode.words (normalize ("zoo" ++ "\t\u3000" ++ "\u00A8")).toList =
      Unicode.words (normalize "zoo").toList ++ Unicode.words (normalize "\u00A8").toList ∧
    ReadAlike "\nzoo\u00A0ice" "zoo ice" := by
  obtain ⟨-, -, hwords, hread, -⟩ := normal_form_whatever_spacing
  have hspaced : IsSpaced ["zoo", "ice"]
      (['\n'] ++ "zoo".toList ++ ['\u00A0'] ++ ([] ++ "ice".toList ++ [])) :=
    .cons (by decide) (by decide) (by decide) (.single (by decide) (by decide))
  have hsingle : IsSpaced ["zoo", "ice"]
      ([] ++ "zoo".toList ++ [' '] ++ ([] ++ "ice".toList ++ [])) :=
    .cons (by decide) (by decide) (by decide) (.single (by decide) (by decide))
  have htext : "\nzoo\u00A0ice".toList =
      ['\n'] ++ "zoo".toList ++ ['\u00A0'] ++ ([] ++ "ice".toList ++ []) := by decide
  have hother : "zoo ice".toList = [] ++ "zoo".toList ++ [' '] ++ ([] ++ "ice".toList ++ []) := by
    decide
  exact ⟨hwords _ _ _ (by decide) (by decide), hread _ _ _ (htext ▸ hspaced) (hother ▸ hsingle)⟩

end Phrase

end HdWallet
