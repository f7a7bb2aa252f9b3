/-
  StyleScope.Proofs.Text.Trimmed

  What trimming a text leaves and takes.

  A text is its indentation, its trimmed text and the blanks behind it
  (`exists_eq_indent_append_trim`). Conversely a text that neither starts nor ends with a blank
  is what trimming leaves, whatever blanks stand around it (`trim_between_blanks`), so the three
  parts are determined by the text (`indent_append`).
-/
import Mathlib.Data.List.DropRight
import Mathlib.Data.List.TakeWhile
import StyleScope.Text.Basic

namespace StyleScope.Text

/-- A text that neither starts nor ends with a blank. -/
structure IsTrimmed (t : Text) : Prop where
  head : ∀ c r, t = c :: r → isBlank c = false
  last : ∀ r c, t = r ++ [c] → isBlank c = false

/-! ## Blanks and other characters -/

theorem ne_of_isBlank {c d : Char} (hc : isBlank c = true) (hd : isBlank d = false) : c ≠ d := by
  rintro rfl
  rw [hd] at hc
  exact Bool.false_ne_true hc

theorem takeWhile_ne_blanks_append {a : Text} {d : Char} (ha : ∀ c ∈ a, isBlank c = true)
    (hd : isBlank d = false) (t : Text) :
    (a ++ t).takeWhile (· ≠ d) = a ++ t.takeWhile (· ≠ d) := by
  apply List.takeWhile_append_of_pos
  intro c hc
  exact decide_eq_true (ne_of_isBlank (ha c hc) hd)

/-! ## The blanks behind a text -/

theorem trimEnd_eq_rdropWhile (t : Text) : trimEnd t = t.rdropWhile isBlank := rfl

theorem exists_trimEnd_append (t : Text) :
    ∃ w, (∀ c ∈ w, isBlank c = true) ∧ t = trimEnd t ++ w := by
  refine ⟨t.rtakeWhile isBlank, fun c hc => List.mem_rtakeWhile_imp hc, ?_⟩
  rw [trimEnd_eq_rdropWhile]
  exact List.rdropWhile_append_rtakeWhile.symm

theorem trimEnd_concat {t : Text} {c : Char} (hc : isBlank c = false) :
    trimEnd (t ++ [c]) = t ++ [c] := by
  rw [trimEnd_eq_rdropWhile]
  exact List.rdropWhile_concat_neg isBlank t c (by simp [hc])

theorem not_isBlank_last_trimEnd {t r : Text} {c : Char} (h : trimEnd t = r ++ [c]) :
    isBlank c = false := by
  have hne : t.rdropWhile isBlank ≠ [] := by
    rw [← trimEnd_eq_rdropWhile, h]
    simp
  have hlast := List.rdropWhile_last_not isBlank t hne
  simp only [← trimEnd_eq_rdropWhile, h, List.getLast_append_singleton] at hlast
  simpa using hlast

/-! ## A text and its trimmed text -/

theorem trimStart_cons {c : Char} {t : Text} (hc : isBlank c = false) :
    trimStart (c :: t) = c :: t := by
  simp [trimStart, hc]

theorem isTrimmed_trim (t : Text) : IsTrimmed (trim t) where
  head c r h := by
    obtain ⟨w, -, hw⟩ := exists_trimEnd_append (trimStart t)
    have hstart : trimStart t = c :: (r ++ w) := by
      rw [hw]
      exact congrArg (· ++ w) h
    exact not_isBlank_head_trimStart hstart
  last r c h := not_isBlank_last_trimEnd h

theorem exists_eq_indent_append_trim (t : Text) :
    ∃ w, (∀ c ∈ w, isBlank c = true) ∧ t = indent t ++ trim t ++ w := by
  obtain ⟨w, hw, h⟩ := exists_trimEnd_append (trimStart t)
  refine ⟨w, hw, ?_⟩
  calc t = indent t ++ trimStart t := (indent_append_trimStart t).symm
    _ = indent t ++ (trim t ++ w) := by rw [trim, ← h]
    _ = indent t ++ trim t ++ w := (List.append_assoc ..).symm

/-- Blanks around a trimmed text are what trimming takes away. -/
theorem trim_between_blanks {a t b : Text} (ha : ∀ c ∈ a, isBlank c = true) (ht : IsTrimmed t)
    (hb : ∀ c ∈ b, isBlank c = true) : trim (a ++ t ++ b) = t := by
  have hstart : trimStart (a ++ t ++ b) = trimStart (t ++ b) := by
    rw [List.append_assoc]
    exact trimStart_blanks_append ha (t ++ b)
  -- An empty text leaves blanks only; any other stops the trimming at both of its ends.
  rcases List.eq_nil_or_concat' t with rfl | ⟨r, c, rfl⟩
  · have hnil : trimStart b = [] := List.dropWhile_eq_nil_iff.2 hb
    rw [trim, hstart, List.nil_append, hnil]
    rfl
  · have hkeep : trimStart (r ++ [c] ++ b) = r ++ [c] ++ b := by
      cases r with
      | nil => exact trimStart_cons (ht.head c [] rfl)
      | cons d s => exact trimStart_cons (ht.head d (s ++ [c]) rfl)
    rw [trim, hstart, hkeep, trimEnd_append_blanks hb]
    exact trimEnd_concat (ht.last r c rfl)

theorem trim_of_isTrimmed {t : Text} (ht : IsTrimmed t) : trim t = t := by
  simpa using trim_between_blanks (a := []) (b := []) (by simp) ht (by simp)

theorem trimEnd_of_isTrimmed {t : Text} (ht : IsTrimmed t) : trimEnd t = t := by
  rcases List.eq_nil_or_concat' t with rfl | ⟨r, c, rfl⟩
  · rfl
  · exact trimEnd_concat (ht.last r c rfl)

/-- A text that starts with no blank loses only its end. -/
theorem trim_prefix {c : Char} {t : Text} (hc : isBlank c = false) : trim (c :: t) <+: c :: t := by
  rw [trim, trimStart_cons hc]
  obtain ⟨w, -, h⟩ := exists_trimEnd_append (c :: t)
  exact ⟨w, h.symm⟩

theorem trim_blanks_append {a : Text} (ha : ∀ c ∈ a, isBlank c = true) (t : Text) :
    trim (a ++ t) = trim t := by
  rw [trim, trimStart_blanks_append ha, ← trim]

theorem trim_append_blanks {b : Text} (hb : ∀ c ∈ b, isBlank c = true) (t : Text) :
    trim (t ++ b) = trim t := by
  obtain ⟨w, hw, h⟩ := exists_eq_indent_append_trim t
  -- The new blanks join those that trimming takes off anyway.
  conv_lhs => rw [h, List.append_assoc _ w b]
  refine trim_between_blanks (fun c hc => isBlank_of_mem_indent hc) (isTrimmed_trim t) ?_
  intro c hc
  rcases List.mem_append.1 hc with hc | hc
  · exact hw c hc
  · exact hb c hc

theorem indent_append {a t : Text} {c : Char} (ha : ∀ c ∈ a, isBlank c = true)
    (hc : isBlank c = false) : indent (a ++ c :: t) = a := by
  rw [indent, List.takeWhile_append_of_pos ha, List.takeWhile_cons_of_neg (by simp [hc]),
    List.append_nil]

/-- Nothing but the indentation stands before the first character that trimming leaves. -/
theorem takeWhile_ne_of_trim_eq_cons {t r : Text} {d : Char} (h : trim t = d :: r) :
    t.takeWhile (· ≠ d) = indent t := by
  have hd : isBlank d = false := (isTrimmed_trim t).head d r h
  have hindent : ∀ c ∈ indent t, isBlank c = true := fun c hc => isBlank_of_mem_indent hc
  obtain ⟨w, -, ht⟩ := exists_eq_indent_append_trim t
  conv_lhs => rw [ht, h, List.append_assoc]
  rw [takeWhile_ne_blanks_append hindent hd]
  simp

theorem mem_of_mem_trim {t : Text} {c : Char} (h : c ∈ trim t) : c ∈ t := by
  obtain ⟨w, -, ht⟩ := exists_eq_indent_append_trim t
  rw [ht]
  simp [h]

end StyleScope.Text
