/-
Trimming. A text without white space is left as it is, and of a text with white space around it
the core is left (`trim_of_isPadded`), so trimming a second time takes nothing off.
-/
import HdWallet.Unicode.WhiteSpace
import Mathlib

namespace HdWallet.Unicode

/-- A text with nothing but white space before and behind a core. -/
def IsPadded (core text : List Char) : Prop :=
  ∃ before behind, (∀ c ∈ before, isWhiteSpace c = true) ∧
    (∀ c ∈ behind, isWhiteSpace c = true) ∧ text = before ++ core ++ behind

theorem trim_eq_rdropWhile (text : List Char) :
    trim text = (text.dropWhile isWhiteSpace).rdropWhile isWhiteSpace := rfl

theorem isPadded_trim (text : List Char) : IsPadded (trim text) text := by
  refine ⟨text.takeWhile isWhiteSpace, (text.dropWhile isWhiteSpace).rtakeWhile isWhiteSpace,
    List.all_eq_true.1 List.all_takeWhile, fun c => List.mem_rtakeWhile_imp, ?_⟩
  rw [trim_eq_rdropWhile, List.append_assoc, List.rdropWhile_append_rtakeWhile,
    List.takeWhile_append_dropWhile]

theorem dropWhile_padded {before core behind : List Char}
    (hbefore : ∀ c ∈ before, isWhiteSpace c = true) (hne : core ≠ [])
    (hcore : ∀ c ∈ core, isWhiteSpace c = false) :
    (before ++ core ++ behind).dropWhile isWhiteSpace = core ++ behind := by
  rw [List.append_assoc, List.dropWhile_append_of_pos hbefore]
  cases core with
  | nil => exact absurd rfl hne
  | cons c core =>
    rw [List.cons_append, List.dropWhile_cons_of_neg]
    simp [hcore c]

/-- The padding is all that is trimmed off. -/
theorem trim_of_isPadded {core text : List Char} (h : IsPadded core text) (hne : core ≠ [])
    (hcore : ∀ c ∈ core, isWhiteSpace c = false) : trim text = core := by
  obtain ⟨before, behind, hbefore, hbehind, rfl⟩ := h
  have hreverse : ∀ c ∈ core.reverse, isWhiteSpace c = false := fun c hc =>
    hcore c (List.mem_reverse.1 hc)
  have hback : ∀ c ∈ behind.reverse, isWhiteSpace c = true := fun c hc =>
    hbehind c (List.mem_reverse.1 hc)
  have hend : (behind.reverse ++ core.reverse ++ []).dropWhile isWhiteSpace = core.reverse ++ [] :=
    dropWhile_padded hback (by simpa using hne) hreverse
  rw [List.append_nil, List.append_nil] at hend
  rw [trim, dropWhile_padded hbefore hne hcore, List.reverse_append, hend, List.reverse_reverse]

theorem trim_of_solid {text : List Char} (h : ∀ c ∈ text, isWhiteSpace c = false) :
    trim text = text := by
  cases text with
  | nil => rfl
  | cons c text =>
    exact trim_of_isPadded ⟨[], [], by simp, by simp, by simp⟩ (List.cons_ne_nil c text) h

theorem trimmed_of_solid {text : String} (h : ∀ c ∈ text.toList, isWhiteSpace c = false) :
    trimmed text = text := by
  rw [trimmed, trim_of_solid h, String.ofList_toList]

theorem trim_trim (text : List Char) : trim (trim text) = trim text := by
  have hstart : trim text <+: text.dropWhile isWhiteSpace := List.rdropWhile_prefix _ _
  -- The first character left over stands in front of what the first pass left.
  have hfirst : (trim text).dropWhile isWhiteSpace = trim text := by
    rw [List.dropWhile_eq_self_iff]
    intro hl
    rw [hstart.getElem hl]
    exact List.dropWhile_get_zero_not _ _ (Nat.lt_of_lt_of_le hl hstart.length_le)
  rw [trim_eq_rdropWhile (trim text), hfirst, trim_eq_rdropWhile text, List.rdropWhile_idempotent]

theorem trimmed_trimmed (text : String) : trimmed (trimmed text) = trimmed text := by
  rw [trimmed, trimmed, String.toList_ofList, trim_trim]

end HdWallet.Unicode
