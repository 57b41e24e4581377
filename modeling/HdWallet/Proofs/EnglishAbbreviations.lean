/-
English words are known by their first four characters (`eq_of_take_four`), so a token that shows
as many of a word, or the whole of a shorter one, means that word (`means_of_isAbbreviation`). An
abbreviated phrase is then completed to the phrase it was made of, whatever white space its tokens
are typed with.
-/
import HdWallet.Proofs.AbbreviationMeaning
import HdWallet.Proofs.SpacedTexts

namespace HdWallet.Phrase

open Unicode

/-! ## First characters -/

set_option maxRecDepth 20000 in
/-- The first four characters of the words, as numbers under the least modulus that tells them
apart. -/
theorem fresh_take_four : BitSet.fresh 0 (Words.english.map fun word =>
    Words.number 148916 ((Words.letters word).take 4)) = true := by
  decide +kernel

/-- **No two English words start with the same four characters.** -/
theorem eq_of_take_four {a b : String} (ha : a ∈ Words.english) (hb : b ∈ Words.english)
    (h : a.toList.take 4 = b.toList.take 4) : a = b := by
  refine List.inj_on_of_nodup_map (BitSet.nodup_of_fresh fresh_take_four).1 ha hb ?_
  simp only [Words.letters_eq, h]

theorem take_four_of_isPrefix {short long : String} (hlen : 4 ≤ short.length)
    (h : short.toList <+: long.toList) : long.toList.take 4 = short.toList.take 4 := by
  obtain ⟨rest, hrest⟩ := h
  rw [← hrest, List.take_append_of_le_length]
  rwa [String.length_toList]

/-! ## Abbreviations -/

/-- An English word as it may be typed: as it is, or its first characters, four of them or more. -/
structure IsAbbreviation (token word : String) : Prop where
  mem_words : word ∈ Words.english
  starts : token = word ∨ 4 ≤ token.length ∧ token.toList <+: word.toList

theorem means_of_isAbbreviation {token word : String} (h : IsAbbreviation token word) :
    Means (Language.words .english) token word := by
  obtain ⟨hword, rfl | ⟨hlen, hstart⟩⟩ := h
  · exact .whole hword
  · have honly : ∀ other ∈ Words.english, token.toList <+: other.toList → other = word := by
      intro other ho hother
      have hfour : other.toList.take 4 = word.toList.take 4 := by
        rw [take_four_of_isPrefix hlen hother, take_four_of_isPrefix hlen hstart]
      exact eq_of_take_four ho hword hfour
    by_cases hmem : token ∈ Words.english
    · -- A word that another one starts with is that word.
      have heq : token = word := honly token hmem List.prefix_rfl
      rw [← heq]
      exact .whole hmem
    · exact .abbreviation hmem hlen hword hstart honly

theorem isToken_of_isAbbreviation {token word : String} (h : IsAbbreviation token word) :
    IsToken token := by
  obtain ⟨hword, hstarts⟩ := h
  have hmem : word ∈ Language.words .english := hword
  have htoken : IsToken word := isToken_of_mem_words hmem
  rcases hstarts with rfl | ⟨hlen, hstart⟩
  · exact htoken
  · refine htoken.of_isPrefix hstart ?_
    rw [← List.length_pos_iff, String.length_toList]
    omega

/-! ## Phrases -/

/-- A text of tokens has the tokens joined for its normal form. -/
theorem normalize_of_isSpaced {spelled : List String} {text : String}
    (h : IsSpaced spelled text.toList) (htoken : ∀ token ∈ spelled, IsToken token) :
    normalize text = join spelled := by
  rw [normalize, tokens_of_isSpaced h htoken]

/-- **Abbreviating an English phrase loses nothing.** Type each word as it is, or only its first
characters, four of them or more, with any white space between the words and around them: the
expansion is the words again. It is accepted, and makes a wallet, exactly if the full words are
accepted and make that wallet, however these are spaced. -/
theorem expand_abbreviated {spelled words : List String} {text : String}
    (h : List.Forall₂ IsAbbreviation spelled words) (hspaced : IsSpaced spelled text.toList) :
    expand .english text = .ok (join words) ∧
    ∀ full : String, IsSpaced words full.toList →
      check .english (join words) = check .english full ∧
      ∀ passphrase, Wallet.ofPhrase .english (join words) passphrase =
        Wallet.ofPhrase .english full passphrase := by
  obtain ⟨htoken, -⟩ := (List.forall₂_and_left spelled words).1 <|
    h.imp fun _ _ hword => ⟨isToken_of_isAbbreviation hword, hword⟩
  obtain ⟨hmem, -⟩ := (List.forall₂_and_left words spelled).1 <|
    h.flip.imp fun _ _ hword => ⟨hword.mem_words, hword⟩
  have htokens : tokens text = spelled := tokens_of_isSpaced hspaced htoken
  have hword : ∀ word ∈ words, IsToken word := fun word hw =>
    have hlist : word ∈ Language.words .english := hmem word hw
    isToken_of_mem_words hlist
  constructor
  · rw [expand_eq_ok_iff, htokens]
    refine ⟨words, h.imp fun token word habbreviation => ?_, rfl⟩
    exact (resolve_eq_ok_iff (Language.nodup_words .english)).2
      (means_of_isAbbreviation habbreviation)
  · intro full hfull
    have hnormal : normalize full = normalize (join words) := by
      rw [normalize_of_isSpaced hfull hword, normalize_join hword]
    refine ⟨?_, fun passphrase => ?_⟩
    · rw [← check_normalize .english full, hnormal, check_normalize]
    · exact Wallet.ofPhrase_congr hnormal.symm

/-- Three words, one in full and two not, between an ideographic space, a tab, a no-break space
with another space behind it, and a line break. -/
theorem expand_illn_spike_brai :
    expand .english "\u3000illn\tspike\u00A0\u2003brai\n" = .ok "illness spike brain" := by
  have hlast : IsSpaced ["brai"] ([] ++ "brai".toList ++ ['\n']) :=
    .single (by decide) (by decide)
  have hnext : IsSpaced ["spike", "brai"]
      ([] ++ "spike".toList ++ ['\u00A0', '\u2003'] ++ ([] ++ "brai".toList ++ ['\n'])) :=
    .cons (by decide) (by decide) (by decide) hlast
  have hspaced : IsSpaced ["illn", "spike", "brai"] (['\u3000'] ++ "illn".toList ++ ['\t'] ++
      ([] ++ "spike".toList ++ ['\u00A0', '\u2003'] ++ ([] ++ "brai".toList ++ ['\n']))) :=
    .cons (by decide) (by decide) (by decide) hnext
  have htext : "\u3000illn\tspike\u00A0\u2003brai\n".toList =
      ['\u3000'] ++ "illn".toList ++ ['\t'] ++
        ([] ++ "spike".toList ++ ['\u00A0', '\u2003'] ++ ([] ++ "brai".toList ++ ['\n'])) := by
    decide
  have hillness : IsAbbreviation "illn" "illness" := ⟨by decide +kernel, .inr (by decide)⟩
  have hspike : IsAbbreviation "spike" "spike" := ⟨by decide +kernel, .inl rfl⟩
  have hbrain : IsAbbreviation "brai" "brain" := ⟨by decide +kernel, .inr (by decide)⟩
  exact (expand_abbreviated (.cons hillness (.cons hspike (.cons hbrain .nil)))
    (htext ▸ hspaced)).1

end HdWallet.Phrase
