/-
The normal form of phrases: tokens joined with single spaces. Its tokens are those of the text
it was made of (`tokens_normalize`), so it is its own normal form, and Form KD leaves it as it
is (`nfkd_normalize`).
-/
import HdWallet.Phrase
import HdWallet.Proofs.Normalization

namespace HdWallet.Phrase

open Unicode

/-- A word as phrases hold it: in Form KD, and without white space. -/
structure IsToken (token : String) : Prop where
  isWord : IsWord token.toList
  isNormal : IsNormal token.toList

theorem isToken_of_mem_tokens {text token : String} (h : token ∈ tokens text) : IsToken token := by
  obtain ⟨word, hword, rfl⟩ := List.mem_map.1 h
  rw [← String.toList_ofList (l := word)] at hword
  have hnormal := isNormal_compatibilityForm text.toList
  exact ⟨isWord_of_mem_words hword, hnormal.infix (infix_of_mem_words hword)⟩

theorem isToken_iff {token : String} :
    IsToken token ↔
      token.toList ≠ [] ∧ nfkd token = token ∧ ∀ c ∈ token.toList, isWhiteSpace c = false := by
  have hnormal : nfkd token = token ↔ IsNormal token.toList := by
    rw [← compatibilityForm_eq_self_iff, nfkd, ← String.toList_inj, String.toList_ofList]
  rw [hnormal]
  exact ⟨fun h => ⟨h.isWord.ne_nil, h.isNormal, h.isWord.solid⟩, fun h => ⟨⟨h.1, h.2.2⟩, h.2.1⟩⟩

/-- What a token starts with is a token. -/
theorem IsToken.of_isPrefix {short long : String} (h : IsToken long)
    (hstart : short.toList <+: long.toList) (hne : short.toList ≠ []) : IsToken short where
  isWord := ⟨hne, fun c hc => h.isWord.solid c (hstart.subset hc)⟩
  isNormal := h.isNormal.infix hstart.isInfix

/-! ## Joining tokens -/

theorem toList_join (words : List String) :
    (join words).toList = [' '].intercalate (words.map String.toList) := by
  rw [join, String.toList_intercalate]
  rfl

section

variable {words : List String} (h : ∀ word ∈ words, IsToken word)

include h

theorem isNormal_join : IsNormal (join words).toList := by
  rw [toList_join]
  refine isNormal_intercalate fun part hp => ?_
  obtain ⟨word, hword, rfl⟩ := List.mem_map.1 hp
  exact (h word hword).isNormal

theorem words_join : Unicode.words (join words).toList = words.map String.toList := by
  rw [toList_join]
  refine words_intercalate fun part hp => ?_
  obtain ⟨word, hword, rfl⟩ := List.mem_map.1 hp
  exact (h word hword).isWord

/-- **Joined tokens are read as the same tokens.** -/
theorem tokens_join : tokens (join words) = words := by
  rw [tokens, (isNormal_join h).compatibilityForm_eq, words_join h, List.map_map]
  refine (List.map_congr_left fun word _ => ?_).trans (List.map_id _)
  simp

theorem normalize_join : normalize (join words) = join words := by
  rw [normalize, tokens_join h]

theorem wordCount_join : wordCount (join words) = words.length := by
  rw [wordCount, words_join h, List.length_map]

theorem join_eq_empty_iff : join words = "" ↔ words = [] := by
  constructor
  · intro he
    rw [← tokens_join h, he]
    rfl
  · rintro rfl
    rfl

/-- There is one space fewer in joined tokens than there are tokens. -/
theorem count_space_join (hne : words ≠ []) :
    (join words).toList.count ' ' + 1 = words.length := by
  have hparts : ∀ part ∈ words.map String.toList, IsWord part := fun part hp => by
    obtain ⟨word, hword, rfl⟩ := List.mem_map.1 hp
    exact (h word hword).isWord
  rw [toList_join, count_space_intercalate hparts (by simpa using hne), List.length_map]

end

/-! ## Normal form -/

/-- The normal form keeps the tokens. -/
theorem tokens_normalize (text : String) : tokens (normalize text) = tokens text :=
  tokens_join fun _ => isToken_of_mem_tokens

/-- **The normal form is its own.** -/
theorem normalize_normalize (text : String) : normalize (normalize text) = normalize text := by
  rw [normalize, tokens_normalize, normalize]

theorem isNormal_normalize (text : String) : IsNormal (normalize text).toList :=
  isNormal_join fun _ => isToken_of_mem_tokens

/-- **The normal form is in Form KD.** -/
theorem nfkd_normalize (text : String) : nfkd (normalize text) = normalize text := by
  rw [nfkd, (isNormal_normalize text).compatibilityForm_eq, String.ofList_toList]

theorem normalize_eq_empty_iff {text : String} : normalize text = "" ↔ tokens text = [] :=
  join_eq_empty_iff fun _ => isToken_of_mem_tokens

/-- The normal form is empty if the text is blank, before Form KD as after it. -/
theorem normalize_eq_empty_iff_trim {text : String} :
    normalize text = "" ↔ trim text.toList = [] := by
  rw [normalize_eq_empty_iff, tokens, List.map_eq_nil_iff, words_compatibilityForm_eq_nil_iff,
    trim_eq_nil_iff]

theorem wordCount_normalize (text : String) : wordCount (normalize text) = (tokens text).length :=
  wordCount_join fun _ => isToken_of_mem_tokens

/-- There is one space fewer in a normal form than there are words. -/
theorem wordCount_normalize_eq_count {text : String} (h : normalize text ≠ "") :
    wordCount (normalize text) = (normalize text).toList.count ' ' + 1 := by
  have hne : tokens text ≠ [] := fun he => h (normalize_eq_empty_iff.2 he)
  rw [wordCount_normalize, normalize, count_space_join (fun _ => isToken_of_mem_tokens) hne]

end HdWallet.Phrase
