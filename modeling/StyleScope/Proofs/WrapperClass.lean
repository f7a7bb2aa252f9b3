/-
  StyleScope.Proofs.WrapperClass

  What the selector of a wrapper class is made of.

  The classes that tokens name are all there are: the selector of a class is itself a token for
  it (`ofToken_selector`). The selector holds no blank, brace or comma, so it is a trimmed text
  and stays in front of a text that is trimmed (`prefix_trim_of_prefix_selector`).
-/
import StyleScope.Proofs.Text.Trimmed
import StyleScope.WrapperClass

namespace StyleScope.WrapperClass

open Text

variable (w : WrapperClass)

/-! ## Characters -/

theorem isNameChar_of_mem_selector {c : Char} (h : c ∈ w.selector) : isNameChar c = true := by
  rcases List.mem_cons.1 h with rfl | h
  · rfl
  · exact w.name_clean c h

theorem not_isBlank_of_mem_selector {c : Char} (h : c ∈ w.selector) : isBlank c = false := by
  have hc := isNameChar_of_mem_selector w h
  simp only [isNameChar, Bool.and_eq_true, Bool.not_eq_true'] at hc
  exact hc.1.1.1

theorem notMem_selector {c : Char} (hc : isNameChar c = false) : c ∉ w.selector := by
  intro h
  have := isNameChar_of_mem_selector w h
  rw [hc] at this
  exact Bool.false_ne_true this

theorem isTrimmed_selector : IsTrimmed w.selector where
  head _ _ h := not_isBlank_of_mem_selector w (h ▸ List.mem_cons_self)
  last _ _ h := not_isBlank_of_mem_selector w (h ▸ List.mem_append_right _ List.mem_cons_self)

/-! ## Reading a token -/

/-- A token is read as the class whose name is left when its blanks and its dot are taken off. -/
theorem ofToken_eq_ok_iff {w : WrapperClass} {raw : Text} :
    ofToken raw = .ok w ↔ dropDot (trim raw) = w.name := by
  simp only [ofToken]
  constructor
  · intro h
    split at h
    · obtain rfl := Except.ok.inj h
      rfl
    · exact absurd h (by simp)
  · intro h
    have hempty : (dropDot (trim raw)).isEmpty = false :=
      List.isEmpty_eq_false_iff.2 (h ▸ w.name_ne_nil)
    have hall : (dropDot (trim raw)).all isNameChar = true :=
      List.all_eq_true.2 (h ▸ w.name_clean)
    rw [dif_pos ⟨hempty, hall⟩]
    exact congrArg Except.ok (selector_injective (congrArg ('.' :: ·) h))

theorem ofToken_selector : ofToken w.selector = .ok w := by
  rw [ofToken_eq_ok_iff, trim_of_isTrimmed (isTrimmed_selector w)]
  rfl

/-! ## A selector in front of a text -/

/-- A text that starts with a selector loses nothing of the selector when it is trimmed. -/
theorem prefix_trim_of_prefix_selector {t : Text} (h : w.selector <+: t) :
    w.selector <+: trim t := by
  obtain ⟨r, rfl⟩ := h
  have hstart : trimStart (w.selector ++ r) = w.selector ++ r := trimStart_cons rfl
  obtain ⟨b, hb, heq⟩ := exists_trimEnd_append (w.selector ++ r)
  rw [trim, hstart]
  rcases List.append_eq_append_iff.1 heq with ⟨s, hs, -⟩ | ⟨s, hs, hbs⟩
  · exact ⟨s, hs.symm⟩
  · -- The blanks at the end would reach into the selector.
    cases s with
    | nil =>
      rw [List.append_nil] at hs
      exact ⟨[], (List.append_nil _).trans hs⟩
    | cons c s =>
      have hsel : isBlank c = false :=
        not_isBlank_of_mem_selector w (hs ▸ List.mem_append_right _ List.mem_cons_self)
      have hblank : isBlank c = true := hb c (hbs ▸ List.mem_append_left r List.mem_cons_self)
      exact absurd rfl (ne_of_isBlank hblank hsel)

/-! ## Two classes -/

/-- The class `.dash`. -/
def dash : WrapperClass where
  name := ['d', 'a', 's', 'h']
  name_ne_nil := by decide
  name_clean := List.all_eq_true.1 (by decide)

/-- A class that starts like `.dash` and holds a word of the scanner. -/
def dashMedia : WrapperClass where
  name := ['d', 'a', 's', 'h', '@', 'm', 'e', 'd', 'i', 'a']
  name_ne_nil := by decide
  name_clean := List.all_eq_true.1 (by decide)

end StyleScope.WrapperClass
