/-
The words of a text, and the text that words make: cutting at white space undoes joining with
spaces (`words_intercalate`), and white space between two texts keeps their words apart
(`words_append`).
-/
import HdWallet.Unicode.WhiteSpace
import Mathlib.Data.List.TakeWhile

namespace HdWallet.Unicode

/-- What `words` cuts a text into: at least one character, and no white space. -/
structure IsWord (word : List Char) : Prop where
  ne_nil : word ≠ []
  solid : ∀ c ∈ word, isWhiteSpace c = false

theorem isWhiteSpace_space : isWhiteSpace ' ' = true := by decide

theorem IsWord.space_not_mem {word : List Char} (h : IsWord word) : ' ' ∉ word := by
  intro hm
  have := h.solid _ hm
  rw [isWhiteSpace_space] at this
  cases this

/-! ## One character -/

@[simp]
theorem words_nil : words [] = [] := rfl

theorem words_cons (c : Char) (rest : List Char) :
    words (c :: rest) =
      if isWhiteSpace c then words rest
      else match rest, words rest with
        | d :: _, word :: more =>
          if isWhiteSpace d then [c] :: word :: more else (c :: word) :: more
        | _, more => [c] :: more := rfl

theorem words_cons_of_whiteSpace {c : Char} (h : isWhiteSpace c = true) (rest : List Char) :
    words (c :: rest) = words rest := by
  rw [words_cons, if_pos h]

theorem words_singleton {c : Char} (h : isWhiteSpace c = false) : words [c] = [[c]] := by
  simp [words_cons, h]

/-- White space ends a word after its first character. -/
theorem words_cons_cons_of_whiteSpace {c d : Char} (hc : isWhiteSpace c = false)
    (hd : isWhiteSpace d = true) (rest : List Char) :
    words (c :: d :: rest) = [c] :: words rest := by
  rw [words_cons, words_cons_of_whiteSpace hd]
  simp only [hc, Bool.false_eq_true, if_false]
  split
  · next heq hw =>
    cases heq
    rw [hw, if_pos hd]
  · rfl

/-- A character in front of a word belongs to it. -/
theorem words_cons_cons_of_solid {c d : Char} {rest word : List Char} {more : List (List Char)}
    (hc : isWhiteSpace c = false) (hd : isWhiteSpace d = false)
    (h : words (d :: rest) = word :: more) : words (c :: d :: rest) = (c :: word) :: more := by
  rw [words_cons, h]
  simp [hc, hd]

/-- A text that starts with a word has it among its words, from the first character to the
white space behind it. -/
theorem words_cons_of_solid {c : Char} (h : isWhiteSpace c = false) (rest : List Char) :
    words (c :: rest) = (c :: rest.takeWhile (!isWhiteSpace ·)) ::
      words (rest.dropWhile (!isWhiteSpace ·)) := by
  induction rest generalizing c with
  | nil => simp [words_singleton h]
  | cons d rest ih =>
    by_cases hd : isWhiteSpace d = true
    · rw [words_cons_cons_of_whiteSpace h hd]
      simp [hd, words_cons_of_whiteSpace]
    · have hd : isWhiteSpace d = false := by simpa using hd
      rw [words_cons_cons_of_solid h hd (ih hd)]
      simp [hd]

/-! ## Cutting -/

/-- White space between two texts keeps their words apart. -/
theorem words_append {g : Char} (hg : isWhiteSpace g = true) (left right : List Char) :
    words (left ++ g :: right) = words left ++ words right := by
  induction left with
  | nil => simp [words_cons_of_whiteSpace hg]
  | cons c left ih =>
    by_cases hc : isWhiteSpace c = true
    · simp only [List.cons_append, words_cons_of_whiteSpace hc, ih]
    · have hc : isWhiteSpace c = false := by simpa using hc
      cases left with
      | nil =>
        rw [List.singleton_append, words_cons_cons_of_whiteSpace hc hg, words_singleton hc]
        rfl
      | cons d left =>
        by_cases hd : isWhiteSpace d = true
        · simp only [List.cons_append, words_cons_of_whiteSpace hd] at ih ⊢
          rw [words_cons_cons_of_whiteSpace hc hd, words_cons_cons_of_whiteSpace hc hd, ih]
          rfl
        · have hd : isWhiteSpace d = false := by simpa using hd
          have hw := words_cons_of_solid hd left
          have hall : words (d :: (left ++ g :: right)) = _ := ih.trans (by rw [hw, List.cons_append])
          simp only [List.cons_append]
          rw [words_cons_cons_of_solid hc hd hall, words_cons_cons_of_solid hc hd hw]
          rfl

/-- Induction along the cutting of a text: white space is passed over one by one, a word as a
whole. -/
@[elab_as_elim]
theorem words_induction {motive : List Char → Prop} (nil : motive [])
    (space : ∀ c rest, isWhiteSpace c = true → motive rest → motive (c :: rest))
    (word : ∀ c rest, isWhiteSpace c = false → motive (rest.dropWhile (!isWhiteSpace ·)) →
      motive (c :: rest)) (text : List Char) : motive text := by
  induction hn : text.length using Nat.strongRecOn generalizing text with
  | ind n ih =>
  subst hn
  cases text with
  | nil => exact nil
  | cons c rest =>
    by_cases hc : isWhiteSpace c = true
    · exact space c rest hc (ih rest.length (by simp) rest rfl)
    · have hlen := (List.dropWhile_suffix (l := rest) (!isWhiteSpace ·)).length_le
      refine word c rest (by simpa using hc) (ih _ ?_ _ rfl)
      rw [List.length_cons]
      omega

/-- The words of a text are stretches of it. -/
theorem infix_of_mem_words {text word : List Char} (h : word ∈ words text) : word <:+: text := by
  induction text using words_induction with
  | nil => simp at h
  | space c rest hc ih =>
    rw [words_cons_of_whiteSpace hc] at h
    exact (ih h).trans (List.suffix_cons c rest).isInfix
  | word c rest hc ih =>
    rw [words_cons_of_solid hc, List.mem_cons] at h
    rcases h with rfl | h
    · exact ((List.prefix_cons_inj c).2 (List.takeWhile_prefix _)).isInfix
    · exact (ih h).trans ((List.dropWhile_suffix _).trans (List.suffix_cons c rest)).isInfix

theorem isWord_of_mem_words {text word : List Char} (h : word ∈ words text) : IsWord word := by
  induction text using words_induction with
  | nil => simp at h
  | space c rest hc ih =>
    rw [words_cons_of_whiteSpace hc] at h
    exact ih h
  | word c rest hc ih =>
    rw [words_cons_of_solid hc, List.mem_cons] at h
    rcases h with rfl | h
    · refine ⟨by simp, fun d hd => ?_⟩
      rcases List.mem_cons.1 hd with rfl | hd
      · exact hc
      · simpa using List.all_eq_true.1 List.all_takeWhile d hd
    · exact ih h

theorem words_eq_nil_iff {text : List Char} :
    words text = [] ↔ ∀ c ∈ text, isWhiteSpace c = true := by
  induction text with
  | nil => simp
  | cons c rest ih =>
    by_cases hc : isWhiteSpace c = true
    · rw [words_cons_of_whiteSpace hc, ih]
      simp [hc]
    · have hc : isWhiteSpace c = false := by simpa using hc
      rw [words_cons_of_solid hc]
      simp [hc]

/-- Trimming leaves nothing of exactly the texts without words. -/
theorem trim_eq_nil_iff {text : List Char} : trim text = [] ↔ words text = [] := by
  rw [words_eq_nil_iff, trim, List.reverse_eq_nil_iff, List.dropWhile_eq_nil_iff]
  simp only [List.mem_reverse]
  constructor
  · intro h c hc
    rw [← List.takeWhile_append_dropWhile (p := isWhiteSpace) (l := text)] at hc
    rcases List.mem_append.1 hc with hc | hc
    · exact List.all_eq_true.1 List.all_takeWhile c hc
    · exact h c hc
  · intro h c hc
    exact h c (List.dropWhile_subset _ hc)

/-! ## Joining -/

theorem words_of_isWord {word : List Char} (h : IsWord word) : words word = [word] := by
  cases word with
  | nil => exact absurd rfl h.ne_nil
  | cons c rest =>
    have hrest : ∀ d ∈ rest, (!isWhiteSpace d) = true := fun d hd => by
      simp [h.solid d (List.mem_cons_of_mem _ hd)]
    rw [words_cons_of_solid (h.solid c (by simp)), List.takeWhile_eq_self_iff.2 hrest,
      List.dropWhile_eq_nil_iff.2 hrest, words_nil]

/-- Words joined with spaces are cut into the same words again. -/
theorem words_intercalate {parts : List (List Char)} (h : ∀ part ∈ parts, IsWord part) :
    words ([' '].intercalate parts) = parts := by
  induction parts with
  | nil => simp
  | cons part parts ih =>
    have hp : words part = [part] := words_of_isWord (h part (by simp))
    cases parts with
    | nil => simpa using hp
    | cons next parts =>
      have ih := ih fun q hq => h q (List.mem_cons_of_mem _ hq)
      rw [List.intercalate_cons_cons, List.append_assoc, List.singleton_append,
        words_append isWhiteSpace_space, hp, ih]
      rfl

/-- There is one space fewer than there are words. -/
theorem count_space_intercalate {parts : List (List Char)} (h : ∀ part ∈ parts, IsWord part)
    (hne : parts ≠ []) : ([' '].intercalate parts).count ' ' + 1 = parts.length := by
  induction parts with
  | nil => exact absurd rfl hne
  | cons part parts ih =>
    have hp : part.count ' ' = 0 := List.count_eq_zero.2 (h part (by simp)).space_not_mem
    cases parts with
    | nil => simp [hp]
    | cons next parts =>
      have ih := ih (fun q hq => h q (List.mem_cons_of_mem _ hq)) (by simp)
      rw [List.intercalate_cons_cons, List.count_append, List.count_append, hp, List.length_cons,
        ← ih]
      simp
      omega

end HdWallet.Unicode
