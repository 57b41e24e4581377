/-
What an abbreviated phrase means. A token means itself if it is a word of the list, and else the
only word that starts with it, of which it has to show four characters (`Means`); it means none in
three ways (`IsFault`). Expansion writes the words that the tokens mean, or fails as the first token
that means none (`expand_gives_meaning`). The words that start with a token are all that a longer
token can mean, so typing on only ever narrows an expansion (`expand_narrows`).
-/
import HdWallet.Proofs.PhraseExpansion

namespace HdWallet.Phrase

open Unicode

/-! ## The words that start with a token -/

/-- The words of a list that start with a token, in the order of the list. -/
def startingWith (words : List String) (token : String) : List String :=
  words.filter fun word => token.toList.isPrefixOf word.toList

theorem mem_startingWith {words : List String} {token word : String} :
    word ∈ startingWith words token ↔ word ∈ words ∧ token.toList <+: word.toList := by
  rw [startingWith, List.mem_filter, List.isPrefixOf_iff_prefix]

/-- What is given as the words that start with a token: these and no others, each once, in the
order of the list. -/
structure AreCandidates (words : List String) (token : String) (candidates : List String) :
    Prop where
  sublist : candidates.Sublist words
  nodup : candidates.Nodup
  mem_iff : ∀ word, word ∈ candidates ↔ word ∈ words ∧ token.toList <+: word.toList

section

variable {words : List String} (hwords : words.Nodup)

include hwords

theorem areCandidates_startingWith (token : String) :
    AreCandidates words token (startingWith words token) where
  sublist := List.filter_sublist
  nodup := hwords.filter _
  mem_iff _ := mem_startingWith

theorem areCandidates_iff {token : String} {candidates : List String} :
    AreCandidates words token candidates ↔ startingWith words token = candidates := by
  constructor
  · rintro ⟨hsublist, hnodup, hmem⟩
    have hfound := areCandidates_startingWith hwords token
    -- They are a sublist of the words that start with the token, and have the same members.
    have hfilter : (candidates.filter fun word => token.toList.isPrefixOf word.toList) =
        candidates := by
      rw [List.filter_eq_self]
      exact fun word hword => List.isPrefixOf_iff_prefix.2 ((hmem word).1 hword).2
    have hsub : candidates.Sublist (startingWith words token) := by
      rw [← hfilter]
      exact hsublist.filter _
    have hperm : candidates.Perm (startingWith words token) :=
      (List.perm_ext_iff_of_nodup hnodup hfound.nodup).2 fun word => by
        rw [hmem, mem_startingWith]
    exact (hsub.eq_of_length hperm.length_eq).symm
  · rintro rfl
    exact areCandidates_startingWith hwords token

theorem startingWith_eq_singleton_iff {token word : String} :
    startingWith words token = [word] ↔ word ∈ words ∧ token.toList <+: word.toList ∧
      ∀ other ∈ words, token.toList <+: other.toList → other = word := by
  constructor
  · intro h
    have hmem : ∀ other, other ∈ [word] ↔ other ∈ words ∧ token.toList <+: other.toList :=
      fun other => h ▸ mem_startingWith
    obtain ⟨hword, hstart⟩ := (hmem word).1 (by simp)
    exact ⟨hword, hstart, fun other ho hp => List.mem_singleton.1 ((hmem other).2 ⟨ho, hp⟩)⟩
  · rintro ⟨hword, hstart, honly⟩
    refine (areCandidates_iff hwords).1 ⟨List.singleton_sublist.2 hword, List.nodup_singleton word,
      fun other => ?_⟩
    rw [List.mem_singleton]
    constructor
    · rintro rfl
      exact ⟨hword, hstart⟩
    · rintro ⟨ho, hp⟩
      exact honly other ho hp

end

/-! ## One token -/

theorem resolve_of_short {words : List String} {token : String} (hnot : token ∉ words)
    (hlen : token.length < 4) : resolve words token = .error (.prefixTooShort token 4) := by
  rw [resolve, if_neg hnot]
  exact if_pos hlen

theorem resolve_of_long {words : List String} {token : String} (hnot : token ∉ words)
    (hlen : 4 ≤ token.length) :
    resolve words token =
      match startingWith words token with
      | [] => .error (.unknownPrefix token)
      | [word] => .ok word
      | candidates => .error (.ambiguousPrefix token candidates) := by
  rw [resolve, if_neg hnot]
  exact if_neg (Nat.not_lt.2 hlen)

theorem resolve_cases {words : List String} {token : String} (hnot : token ∉ words)
    (hlen : 4 ≤ token.length) :
    (∃ word, resolve words token = .ok word) ∨
    resolve words token = .error (.unknownPrefix token) ∨
    ∃ candidates, resolve words token = .error (.ambiguousPrefix token candidates) := by
  rw [resolve_of_long hnot hlen]
  split
  · exact .inr (.inl rfl)
  · exact .inl ⟨_, rfl⟩
  · exact .inr (.inr ⟨_, rfl⟩)

/-- The word that a token means: itself if it is in the list, and else the only word of the list
that starts with it, if it has four characters or more. -/
inductive Means (words : List String) (token : String) : String → Prop
  | whole (hmem : token ∈ words) : Means words token token
  | abbreviation {word : String} (hnot : token ∉ words) (hlen : 4 ≤ token.length)
    (hmem : word ∈ words) (hstart : token.toList <+: word.toList)
    (honly : ∀ other ∈ words, token.toList <+: other.toList → other = word) :
    Means words token word

/-- Why a token that is not in the list means no word: it has fewer than four characters, or no
word starts with it, or several words do. -/
inductive IsFault (words : List String) (token : String) : PhraseError → Prop
  | tooShort (hnot : token ∉ words) (hlen : token.length < 4) :
    IsFault words token (.prefixTooShort token 4)
  | unknown (hnot : token ∉ words) (hlen : 4 ≤ token.length)
    (hnone : ∀ word ∈ words, ¬ token.toList <+: word.toList) :
    IsFault words token (.unknownPrefix token)
  | ambiguous {candidates : List String} (hnot : token ∉ words) (hlen : 4 ≤ token.length)
    (hcandidates : AreCandidates words token candidates) (hseveral : 2 ≤ candidates.length) :
    IsFault words token (.ambiguousPrefix token candidates)

section

variable {words : List String} (hwords : words.Nodup) {token : String}

include hwords

theorem resolve_eq_ok_iff {word : String} :
    resolve words token = .ok word ↔ Means words token word := by
  constructor
  · intro h
    by_cases hmem : token ∈ words
    · rw [resolve_of_mem hmem] at h
      cases h
      exact .whole hmem
    by_cases hlen : 4 ≤ token.length
    · rw [resolve_of_long hmem hlen] at h
      split at h
      · cases h
      · next found hfound =>
        cases h
        obtain ⟨hword, hstart, honly⟩ := (startingWith_eq_singleton_iff hwords).1 hfound
        exact .abbreviation hmem hlen hword hstart honly
      · cases h
    · rw [resolve_of_short hmem (Nat.lt_of_not_le hlen)] at h
      cases h
  · intro h
    cases h with
    | whole hmem => exact resolve_of_mem hmem
    | abbreviation hnot hlen hmem hstart honly =>
      rw [resolve_of_long hnot hlen,
        (startingWith_eq_singleton_iff hwords).2 ⟨hmem, hstart, honly⟩]

theorem resolve_eq_error_iff {error : PhraseError} :
    resolve words token = .error error ↔ IsFault words token error := by
  constructor
  · intro h
    by_cases hmem : token ∈ words
    · rw [resolve_of_mem hmem] at h
      cases h
    by_cases hlen : 4 ≤ token.length
    · rw [resolve_of_long hmem hlen] at h
      split at h
      · next hnone =>
        cases h
        refine .unknown hmem hlen fun word hword hstart => ?_
        have hfound := mem_startingWith.2 ⟨hword, hstart⟩
        rw [hnone] at hfound
        cases hfound
      · cases h
      · next hnil hsingle =>
        cases h
        refine .ambiguous hmem hlen (areCandidates_startingWith hwords token) ?_
        -- Neither none nor one: there are two at least.
        rcases hfound : startingWith words token with - | ⟨first, - | ⟨second, rest⟩⟩
        · exact absurd hfound hnil
        · exact absurd hfound (hsingle first)
        · simp
    · rw [resolve_of_short hmem (Nat.lt_of_not_le hlen)] at h
      cases h
      exact .tooShort hmem (Nat.lt_of_not_le hlen)
  · intro h
    cases h with
    | tooShort hnot hlen => exact resolve_of_short hnot hlen
    | unknown hnot hlen hnone =>
      have hnil : startingWith words token = [] := by
        rw [List.eq_nil_iff_forall_not_mem]
        exact fun word hword => hnone word (mem_startingWith.1 hword).1 (mem_startingWith.1 hword).2
      rw [resolve_of_long hnot hlen, hnil]
    | ambiguous hnot hlen hcandidates hseveral =>
      rw [resolve_of_long hnot hlen, (areCandidates_iff hwords).1 hcandidates]
      split
      · simp at hseveral
      · simp at hseveral
      · rfl

end

/-! ## Phrases -/

theorem expand_eq_error_iff {language : Language} {text : String} {error : PhraseError} :
    expand language text = .error error ↔
      ∃ before token after, tokens text = before ++ token :: after ∧
        (∀ earlier ∈ before, ∃ word, resolve language.words earlier = .ok word) ∧
        resolve language.words token = .error error := by
  rw [expand, map_eq_error_iff, mapM_eq_error_iff]

/-- **Expansion gives what a phrase means.** What stands between the spaces of its normal form are
its tokens. If each of them means a word then these words are the expansion, with single spaces
between them, and nothing else is. If not, the first token that means none is what expansion fails
with, and why: too short, though only one word may start with it; or unknown; or ambiguous, with
the words that start with it. -/
theorem expand_gives_meaning (language : Language) (text : String) :
    (∀ expanded, expand language text = .ok expanded ↔
      ∃ words, List.Forall₂ (Means language.words) (betweenSpaces (normalize text)) words ∧
        join words = expanded) ∧
    ∀ error, expand language text = .error error ↔
      ∃ before token after, betweenSpaces (normalize text) = before ++ token :: after ∧
        (∀ earlier ∈ before, ∃ word, Means language.words earlier word) ∧
        IsFault language.words token error := by
  have hmeans : ∀ token word, resolve language.words token = .ok word ↔
      Means language.words token word := fun _ _ => resolve_eq_ok_iff language.nodup_words
  have hfault : ∀ token error, resolve language.words token = .error error ↔
      IsFault language.words token error := fun _ _ => resolve_eq_error_iff language.nodup_words
  rw [betweenSpaces_normalize]
  constructor
  · intro expanded
    rw [expand_eq_ok_iff]
    simp only [hmeans]
  · intro error
    rw [expand_eq_error_iff]
    simp only [hmeans, hfault]

/-! ## Longer tokens -/

/-- A token stands for a phrase of itself alone. -/
theorem expand_of_isToken {language : Language} {token : String} (h : IsToken token) :
    expand language token = resolve language.words token := by
  have htokens : tokens token = [token] := by
    have hjoin : tokens (join [token]) = [token] := tokens_join (by simpa using h)
    rwa [join, String.intercalate_singleton] at hjoin
  rw [expand, htokens, List.mapM_cons, List.mapM_nil]
  cases resolve language.words token with
  | error e => rfl
  | ok word => exact congrArg _ String.intercalate_singleton

/-- A longer token leaves some of the words that a shorter one left, in the same order. -/
theorem startingWith_of_isPrefix {words : List String} {short long : String}
    (h : short.toList <+: long.toList) :
    startingWith words long =
      (startingWith words short).filter fun word => long.toList.isPrefixOf word.toList := by
  rw [startingWith, startingWith, List.filter_filter]
  refine List.filter_congr fun word _ => ?_
  rw [Bool.eq_iff_iff, Bool.and_eq_true]
  simp only [List.isPrefixOf_iff_prefix]
  exact ⟨fun hlong => ⟨hlong, h.trans hlong⟩, fun hboth => hboth.1⟩

theorem mem_startingWith_of_means {words : List String} {short long word : String}
    (hstart : short.toList <+: long.toList) (h : Means words long word) :
    word ∈ startingWith words short := by
  cases h with
  | whole hmem => exact mem_startingWith.2 ⟨hmem, hstart⟩
  | abbreviation _ _ hmem hlong _ => exact mem_startingWith.2 ⟨hmem, hstart.trans hlong⟩

section

variable {words : List String} {short long : String} (hlen : 4 ≤ short.length)
  (hstart : short.toList <+: long.toList)

include hlen hstart

theorem four_le_length_of_isPrefix : 4 ≤ long.length := by
  have hle := hstart.length_le
  rw [String.length_toList, String.length_toList] at hle
  exact hlen.trans hle

/-- A token that goes on along the word which the shorter one means means that word, and one that
departs from it means none. -/
theorem resolve_of_resolve_ok (hwords : words.Nodup) (hnot : short ∉ words) {word : String}
    (h : resolve words short = .ok word) :
    resolve words long =
      if long.toList <+: word.toList then .ok word else .error (.unknownPrefix long) := by
  have hfour := four_le_length_of_isPrefix hlen hstart
  cases (resolve_eq_ok_iff hwords).1 h with
  | whole hmem => exact absurd hmem hnot
  | abbreviation _ _ hmem _ honly =>
    have honly : ∀ other ∈ words, long.toList <+: other.toList → other = word :=
      fun other ho hlong => honly other ho (hstart.trans hlong)
    split
    · next hlong =>
      rw [resolve_eq_ok_iff hwords]
      by_cases hmem' : long ∈ words
      · have heq : long = word := honly long hmem' List.prefix_rfl
        rw [← heq]
        exact .whole hmem'
      · exact .abbreviation hmem' hfour hmem hlong honly
    · next hlong =>
      rw [resolve_eq_error_iff hwords]
      refine .unknown (fun hmem' => hlong ?_) hfour fun other ho hother => hlong ?_
      · have heq : long = word := honly long hmem' List.prefix_rfl
        rw [← heq]
      · have heq : other = word := honly other ho hother
        rwa [← heq]

theorem resolve_of_resolve_unknown (hwords : words.Nodup)
    (h : resolve words short = .error (.unknownPrefix short)) :
    resolve words long = .error (.unknownPrefix long) := by
  have hfour := four_le_length_of_isPrefix hlen hstart
  cases (resolve_eq_error_iff hwords).1 h with
  | unknown _ _ hnone =>
    rw [resolve_eq_error_iff hwords]
    exact .unknown (fun hmem => hnone long hmem hstart) hfour
      fun word hword hlong => hnone word hword (hstart.trans hlong)

/-- Of the words that the shorter token leaves, the longer one means one, or leaves some, or
none. -/
theorem resolve_of_resolve_ambiguous (hwords : words.Nodup) {candidates : List String}
    (h : resolve words short = .error (.ambiguousPrefix short candidates)) :
    (∃ word ∈ candidates, resolve words long = .ok word) ∨
    (∃ fewer, fewer.Sublist candidates ∧
      resolve words long = .error (.ambiguousPrefix long fewer)) ∨
    resolve words long = .error (.unknownPrefix long) := by
  have hfour := four_le_length_of_isPrefix hlen hstart
  have hcandidates : startingWith words short = candidates := by
    cases (resolve_eq_error_iff hwords).1 h with
    | ambiguous _ _ hcandidates _ => exact (areCandidates_iff hwords).1 hcandidates
  cases hresult : resolve words long with
  | ok word =>
    have hmeans := (resolve_eq_ok_iff hwords).1 hresult
    exact .inl ⟨word, hcandidates ▸ mem_startingWith_of_means hstart hmeans, rfl⟩
  | error error =>
    cases (resolve_eq_error_iff hwords).1 hresult with
    | tooShort _ hshort => omega
    | unknown _ _ _ => exact .inr (.inr rfl)
    | ambiguous _ _ hfewer _ =>
      refine .inr (.inl ⟨_, ?_, rfl⟩)
      rw [← (areCandidates_iff hwords).1 hfewer, startingWith_of_isPrefix hstart, hcandidates]
      exact List.filter_sublist

end

/-- What becomes of an expansion when its token is typed on: `short` is one that has to be
completed, and `long` starts with it. -/
structure Narrows (language : Language) (short long : String) : Prop where
  short_cases : (∃ word, expand language short = .ok word) ∨
    expand language short = .error (.unknownPrefix short) ∨
    ∃ candidates, expand language short = .error (.ambiguousPrefix short candidates)
  of_ok : ∀ word, expand language short = .ok word →
    expand language long =
      if long.toList <+: word.toList then .ok word else .error (.unknownPrefix long)
  of_unknown : expand language short = .error (.unknownPrefix short) →
    expand language long = .error (.unknownPrefix long)
  of_ambiguous : ∀ candidates,
    expand language short = .error (.ambiguousPrefix short candidates) →
    (∃ word ∈ candidates, expand language long = .ok word) ∨
    (∃ fewer, fewer.Sublist candidates ∧
      expand language long = .error (.ambiguousPrefix long fewer)) ∨
    expand language long = .error (.unknownPrefix long)
  starts_with : ∀ word, expand language long = .ok word →
    word ∈ language.words ∧ short.toList <+: word.toList

/-- **Typing on only narrows an expansion.** Take a token in Form KD, without white space, and what
it starts with, of four characters or more and not a word of the list. If the shorter one means a
word, then so does the longer one as far as that word goes, and nothing behind. If no word starts
with the shorter one, none starts with the longer one. If several do, then the longer one means one
of them, or leaves some of them in their order, or none. It never means any other word. -/
theorem expand_narrows {language : Language} {short long : String}
    (hnormal : nfkd long = long) (hsolid : ∀ c ∈ long.toList, isWhiteSpace c = false)
    (hlen : 4 ≤ short.length) (hnot : short ∉ language.words)
    (hstart : short.toList <+: long.toList) : Narrows language short long := by
  have hwords := language.nodup_words
  have hne : short.toList ≠ [] := by
    rw [← List.length_pos_iff, String.length_toList]
    omega
  have hlong : IsToken long := isToken_iff.2
    ⟨fun hnil => hne (List.prefix_nil.1 (hnil ▸ hstart)), hnormal, hsolid⟩
  have hresolve : expand language short = resolve language.words short :=
    expand_of_isToken (hlong.of_isPrefix hstart hne)
  have hresolve' : expand language long = resolve language.words long := expand_of_isToken hlong
  constructor
  case short_cases =>
    rw [hresolve]
    exact resolve_cases hnot hlen
  case of_ok =>
    rw [hresolve, hresolve']
    exact fun word => resolve_of_resolve_ok hlen hstart hwords hnot
  case of_unknown =>
    rw [hresolve, hresolve']
    exact resolve_of_resolve_unknown hlen hstart hwords
  case of_ambiguous =>
    rw [hresolve, hresolve']
    exact fun candidates => resolve_of_resolve_ambiguous hlen hstart hwords
  case starts_with =>
    intro word hword
    rw [hresolve', resolve_eq_ok_iff hwords] at hword
    exact mem_startingWith.1 (mem_startingWith_of_means hstart hword)

set_option maxRecDepth 20000 in
/-- Two French words start with the same four characters, one of which is an accent. -/
theorem startingWith_aer :
    startingWith Words.french "ae\u0301r" = ["ae\u0301rer", "ae\u0301ronef"] := by
  have hletters : startingWith Words.french "ae\u0301r" =
      Words.french.filter fun word => "ae\u0301r".toList.isPrefixOf (Words.letters word) :=
    List.filter_congr fun word _ => by rw [Words.letters_eq]
  rw [hletters]
  decide +kernel

/-- With one letter more, one of the two words is left. -/
theorem narrows_aer :
    expand .french "ae\u0301r" =
      .error (.ambiguousPrefix "ae\u0301r" ["ae\u0301rer", "ae\u0301ronef"]) ∧
    expand .french "ae\u0301re" = .ok "ae\u0301rer" ∧
    Narrows .french "ae\u0301r" "ae\u0301re" := by
  have hstart : "ae\u0301r".toList <+: "ae\u0301re".toList := by decide
  have hshort : startingWith (Language.words .french) "ae\u0301r" = _ := startingWith_aer
  have hlong : startingWith (Language.words .french) "ae\u0301re" = ["ae\u0301rer"] := by
    rw [startingWith_of_isPrefix hstart, hshort]
    decide
  have hmem : "ae\u0301rer" ∈ Language.words .french :=
    (mem_startingWith.1 (hlong ▸ List.mem_singleton_self _)).1
  -- Neither token is a word: it would be one of those that start with it.
  have hnot : "ae\u0301r" ∉ Language.words .french := fun h =>
    absurd (hshort ▸ mem_startingWith.2 ⟨h, List.prefix_rfl⟩) (by decide)
  have hnot' : "ae\u0301re" ∉ Language.words .french := fun h =>
    absurd (hlong ▸ mem_startingWith.2 ⟨h, List.prefix_rfl⟩) (by decide)
  have htoken : IsToken "ae\u0301re" :=
    (isToken_of_mem_words hmem).of_isPrefix (by decide) (by decide)
  have htoken' : IsToken "ae\u0301r" := htoken.of_isPrefix hstart (by decide)
  obtain ⟨-, hnormal, hsolid⟩ := isToken_iff.1 htoken
  refine ⟨?_, ?_, expand_narrows hnormal hsolid (by decide) hnot hstart⟩
  · rw [expand_of_isToken htoken', resolve_of_long hnot (by decide), hshort]
  · rw [expand_of_isToken htoken, resolve_of_long hnot' (by decide), hlong]

end HdWallet.Phrase
