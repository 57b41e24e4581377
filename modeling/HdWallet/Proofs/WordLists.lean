/-
The word lists are what a phrase needs of them: each has 2048 words, no two the same
(`Language.nodup_words`), and every word comes through the normal form of phrases unchanged
(`Language.isNormal_of_mem_words`, `Language.isWord_of_mem_words`).

The lists are checked word by word from the bytes of the words, which are much quicker to
compute in a proof than their characters.
-/
import HdWallet.Language
import HdWallet.Proofs.Normalization
import HdWallet.Proofs.Utf8

namespace HdWallet.Words

open Unicode

/-! ## Letters -/

/-- The kana that decompose: those with a voicing mark. -/
def voicedKana : List Nat := [
  0x304C, 0x304E, 0x3050, 0x3052, 0x3054, 0x3056, 0x3058, 0x305A, 0x305C, 0x305E, 0x3060, 0x3062,
  0x3065, 0x3067, 0x3069, 0x3070, 0x3071, 0x3073, 0x3074, 0x3076, 0x3077, 0x3079, 0x307A, 0x307C,
  0x307D, 0x3094]

/-- The code points of the characters that start a letter: Latin, jamo, kana and ideographs. -/
def isStarter (code : Nat) : Bool :=
  (0x61 ≤ code && code ≤ 0x7A) || (0x1100 ≤ code && code ≤ 0x11FF) ||
    (0x3041 ≤ code && code ≤ 0x3096 && !(BitSet.ofList voicedKana).testBit code) ||
    (0x4E00 ≤ code && code ≤ 0x9FFF)

/-- The code points of the marks on Latin letters and on kana. -/
def isMark (code : Nat) : Bool :=
  (0x300 ≤ code && code ≤ 0x303) || (0x3099 ≤ code && code ≤ 0x309A)

/-- The code points of letters and of marks. -/
def isLetter (code : Nat) : Bool := isStarter code || isMark code

theorem isLetter_bounds {code : Nat} (h : isLetter code = true) :
    (0x61 ≤ code ∧ code ≤ 0x7A) ∨ (0x300 ≤ code ∧ code ≤ 0x303) ∨
      (0x1100 ≤ code ∧ code ≤ 0x11FF) ∨ (0x3041 ≤ code ∧ code ≤ 0x309A) ∨
      (0x4E00 ≤ code ∧ code ≤ 0x9FFF) := by
  simp only [isLetter, isStarter, isMark, Bool.or_eq_true, Bool.and_eq_true,
    decide_eq_true_eq] at h
  omega

set_option maxRecDepth 20000 in
theorem isLetter_of_mem_keys : ∀ key ∈ Decomposition.keys, isLetter key = false := by
  decide +kernel

theorem settled_of_isLetter {c : Char} (h : isLetter c.toNat = true) : Settled c := by
  refine settled_of_not_mem_keys (fun hs => ?_) (fun hk => ?_)
  · have hb := isLetter_bounds h
    simp only [Hangul.IsSyllable, Hangul.firstSyllable] at hs
    omega
  · rw [isLetter_of_mem_keys _ hk] at h
    cases h

theorem isWhiteSpace_of_isLetter {c : Char} (h : isLetter c.toNat = true) :
    isWhiteSpace c = false := by
  have hb := isLetter_bounds h
  simp only [isWhiteSpace, Bool.or_eq_false_iff, Bool.and_eq_false_iff, decide_eq_false_iff_not,
    beq_eq_false_iff_ne]
  omega

theorem isStarter_of_mem_run : ∀ run ∈ combiningRuns,
    ∀ code ∈ List.range' run.1 (run.2.1 + 1 - run.1), isStarter code = false := by
  decide +kernel

theorem combiningClass_of_isStarter {c : Char} (h : isStarter c.toNat = true) :
    combiningClass c = 0 :=
  combiningClass_eq_zero isStarter_of_mem_run h

/-! ## Spelling -/

/-- Whether a text is letters with no more than one mark each. `marked` says whether the
character in front is a mark. -/
def isSpelled : Bool → List Char → Bool
  | _, [] => true
  | marked, c :: rest =>
    if isStarter c.toNat then isSpelled false rest
    else !marked && isMark c.toNat && isSpelled true rest

theorem isLetter_of_isSpelled {marked : Bool} {text : List Char} (h : isSpelled marked text = true) :
    ∀ c ∈ text, isLetter c.toNat = true := by
  induction text generalizing marked with
  | nil => simp
  | cons c rest ih =>
    intro d hd
    rw [isSpelled] at h
    split at h
    · next hs =>
      rcases List.mem_cons.1 hd with rfl | hd
      · simp [isLetter, hs]
      · exact ih h d hd
    · simp only [Bool.and_eq_true] at h
      rcases List.mem_cons.1 hd with rfl | hd
      · simp [isLetter, h.1.2]
      · exact ih h.2 d hd

theorem starter_of_isSpelled_true {c : Char} {rest : List Char}
    (h : isSpelled true (c :: rest) = true) : combiningClass c = 0 := by
  rw [isSpelled] at h
  split at h
  · next hs => exact combiningClass_of_isStarter hs
  · simp at h

theorem isChain_of_isSpelled {marked : Bool} {text : List Char} (h : isSpelled marked text = true) :
    text.IsChain InOrder := by
  induction text generalizing marked with
  | nil => exact .nil
  | cons c rest ih =>
    rw [isSpelled] at h
    split at h
    · next hs =>
      refine List.isChain_cons.2 ⟨fun d _ => ?_, ih h⟩
      exact inOrder_of_starter_left (combiningClass_of_isStarter hs) d
    · simp only [Bool.and_eq_true] at h
      refine List.isChain_cons.2 ⟨fun d hd => ?_, ih h.2⟩
      cases rest with
      | nil => simp at hd
      | cons e rest =>
        have hd : d = e := by simpa [eq_comm] using hd
        exact hd ▸ inOrder_of_starter_right (starter_of_isSpelled_true h.2) c

theorem isNormal_of_isSpelled {text : List Char} (h : isSpelled false text = true) :
    IsNormal text :=
  ⟨fun c hc => settled_of_isLetter (isLetter_of_isSpelled h c hc), isChain_of_isSpelled h⟩

theorem isWord_of_isSpelled {text : List Char} (hne : text ≠ []) (h : isSpelled false text = true) :
    IsWord text :=
  ⟨hne, fun c hc => isWhiteSpace_of_isLetter (isLetter_of_isSpelled h c hc)⟩

/-! ## Lists -/

/-- The characters of a word, read from its bytes. -/
def letters (word : String) : List Char :=
  match Utf8.decode word.toByteArray.data.toList with
  | .ok text => text
  | .error _ => []

theorem letters_eq (word : String) : letters word = word.toList := by
  rw [letters, ← Utf8.bytes_eq, Utf8.bytes, Utf8.decode_encode]

/-- A number for a text, less than a modulus. -/
def number (modulus : Nat) (text : List Char) : Nat :=
  text.foldl (fun n c => n * 65536 + c.toNat) 0 % modulus

/-- Whether the words are 2048 spelled ones that have different numbers under a modulus. -/
def isWordList (modulus : Nat) (words : List String) : Bool :=
  words.length == 2048 &&
    (words.all fun word => !(letters word).isEmpty && isSpelled false (letters word)) &&
    BitSet.fresh 0 (words.map fun word => number modulus (letters word))

/-- The least modulus under which the words of the language have different numbers. -/
def modulus : Language → Nat
  | .english => 215194
  | .japanese => 182022
  | .french => 234461
  | .spanish => 209887
  | .italian => 190359
  | .korean => 196362
  | .chineseSimplified => 19862
  | .chineseTraditional => 19710

set_option maxRecDepth 20000 in
/-- The lists of words in letters. -/
theorem isWordList_latin {language : Language}
    (h : language ∈ [Language.english, .french, .spanish, .italian]) :
    isWordList (modulus language) language.words = true := by
  simp only [List.mem_cons, List.not_mem_nil, or_false] at h
  -- One list after the other: together they take the kernel several times the memory.
  rcases h with rfl | rfl | rfl | rfl <;> decide +kernel

set_option maxRecDepth 20000 in
/-- The lists of words in kana, in jamo and in ideographs. -/
theorem isWordList_eastAsian {language : Language}
    (h : language ∈ [Language.japanese, .korean, .chineseSimplified, .chineseTraditional]) :
    isWordList (modulus language) language.words = true := by
  simp only [List.mem_cons, List.not_mem_nil, or_false] at h
  rcases h with rfl | rfl | rfl | rfl <;> decide +kernel

theorem isWordList_words (language : Language) :
    isWordList (modulus language) language.words = true := by
  cases language with
  | english | french | spanish | italian => exact isWordList_latin (by simp)
  | japanese | korean | chineseSimplified | chineseTraditional =>
    exact isWordList_eastAsian (by simp)

end HdWallet.Words

namespace HdWallet.Language

open Unicode

theorem length_words (language : Language) : language.words.length = 2048 := by
  have h := Words.isWordList_words language
  simp only [Words.isWordList, Bool.and_eq_true, beq_iff_eq] at h
  exact h.1.1

/-- **No word stands in its list twice.** -/
theorem nodup_words (language : Language) : language.words.Nodup := by
  have h := Words.isWordList_words language
  simp only [Words.isWordList, Bool.and_eq_true] at h
  exact List.Nodup.of_map _ (BitSet.nodup_of_fresh h.2).1

theorem isSpelled_of_mem_words {language : Language} {word : String} (h : word ∈ language.words) :
    word.toList ≠ [] ∧ Words.isSpelled false word.toList = true := by
  have hlist := Words.isWordList_words language
  simp only [Words.isWordList, Bool.and_eq_true, List.all_eq_true] at hlist
  have hword := hlist.1.2 word h
  rw [Words.letters_eq] at hword
  simpa using hword

/-- **The words of a list are in Form KD.** -/
theorem isNormal_of_mem_words {language : Language} {word : String} (h : word ∈ language.words) :
    IsNormal word.toList :=
  Words.isNormal_of_isSpelled (isSpelled_of_mem_words h).2

/-- **The words of a list are single words.** -/
theorem isWord_of_mem_words {language : Language} {word : String} (h : word ∈ language.words) :
    IsWord word.toList :=
  Words.isWord_of_isSpelled (isSpelled_of_mem_words h).1 (isSpelled_of_mem_words h).2

end HdWallet.Language
