/-
  StyleScope.Proofs.Text.Tokens

  Where a token can stand in a text that is put together from pieces.

  A character that is not part of a token cannot stand inside it, so a text that is cut at such a
  character holds the token just when one of its two sides does (`occurs_cut_iff`). The same goes
  for a whole gap of such characters (`occurs_gap_iff`), for pieces put together with such a gap
  between any two (`occurs_intercalate_iff`), and for the blanks that trimming takes off
  (`occurs_trim_iff`).
-/
import StyleScope.Proofs.Text.Trimmed
import StyleScope.Text.Basic

namespace StyleScope.Text

variable {token a b w : Text} {c : Char}

/-! ## One character -/

theorem occurs_cut_iff (hc : c ∉ token) :
    Occurs token (a ++ c :: b) ↔ Occurs token a ∨ Occurs token b := by
  -- A part of the token that starts at the cut would start with the character.
  have hnil : ∀ s : Text, (∀ d ∈ s, d ∈ token) → s <+: c :: b → s = [] := by
    intro s hs hpre
    cases s with
    | nil => rfl
    | cons d r =>
      obtain ⟨rfl, -⟩ := List.cons_prefix_cons.1 hpre
      exact absurd (hs d List.mem_cons_self) hc
  constructor
  · intro h
    -- The token stands before the cut, behind it, or across it.
    rcases List.infix_append_iff.1 h with h | h | ⟨s, t, rfl, hs, ht⟩
    · exact Or.inl h
    · rcases List.infix_cons_iff.1 h with hpre | h
      · have := hnil token (fun d hd => hd) hpre
        exact Or.inr (this ▸ List.nil_infix)
      · exact Or.inr h
    · have := hnil t (fun d hd => List.mem_append_right s hd) ht
      rw [this, List.append_nil]
      exact Or.inl hs.isInfix
  · rintro (h | h)
    · exact List.infix_append_of_infix_left h
    · exact List.infix_append_of_infix_right (List.infix_cons h)

/-! ## Gaps -/

theorem not_occurs_gap (hne : token ≠ []) (hw : ∀ c ∈ w, c ∉ token) : ¬ Occurs token w := by
  intro h
  obtain ⟨d, r, rfl⟩ := List.exists_cons_of_ne_nil hne
  -- The gap would hold the first character of the token.
  have hd : d ∈ w := h.subset List.mem_cons_self
  exact hw d hd List.mem_cons_self

theorem occurs_gap_append_iff (hne : token ≠ []) (hw : ∀ c ∈ w, c ∉ token) :
    Occurs token (w ++ b) ↔ Occurs token b := by
  induction w with
  | nil => rfl
  | cons c r ih =>
    have hcut := occurs_cut_iff (a := []) (b := r ++ b) (hw c List.mem_cons_self)
    have hnil : ¬ Occurs token [] := not_occurs_gap hne (by simp)
    rw [List.cons_append, ← List.nil_append (c :: (r ++ b)), hcut, or_iff_right hnil]
    exact ih fun d hd => hw d (List.mem_cons_of_mem c hd)

theorem occurs_gap_iff (hne : token ≠ []) (hwne : w ≠ []) (hw : ∀ c ∈ w, c ∉ token) :
    Occurs token (a ++ w ++ b) ↔ Occurs token a ∨ Occurs token b := by
  obtain ⟨c, r, rfl⟩ := List.exists_cons_of_ne_nil hwne
  have hr : ∀ d ∈ r, d ∉ token := fun d hd => hw d (List.mem_cons_of_mem c hd)
  rw [List.append_assoc, List.cons_append, occurs_cut_iff (hw c List.mem_cons_self),
    occurs_gap_append_iff hne hr]

theorem occurs_append_gap_iff (hne : token ≠ []) (hw : ∀ c ∈ w, c ∉ token) :
    Occurs token (a ++ w) ↔ Occurs token a := by
  cases w with
  | nil => rw [List.append_nil]
  | cons c r =>
    rw [← List.append_nil (a ++ c :: r), occurs_gap_iff hne (List.cons_ne_nil c r) hw]
    exact or_iff_left (not_occurs_gap hne (by simp))

/-- Pieces with the same gap between any two hold a token just when one of them does. -/
theorem occurs_intercalate_iff (hne : token ≠ []) (hwne : w ≠ []) (hw : ∀ c ∈ w, c ∉ token)
    (pieces : List Text) :
    Occurs token (w.intercalate pieces) ↔ ∃ piece ∈ pieces, Occurs token piece := by
  induction pieces with
  | nil => simpa using not_occurs_gap hne (w := []) (by simp)
  | cons p rest ih =>
    rcases rest with _ | ⟨q, rest⟩
    · simp
    · rw [List.intercalate_cons_cons, occurs_gap_iff hne hwne hw, ih]
      simp only [List.mem_cons, exists_eq_or_imp]

/-! ## Blanks -/

theorem notMem_of_blanks (hb : ∀ c ∈ token, isBlank c = false) (hw : ∀ c ∈ w, isBlank c = true) :
    ∀ c ∈ w, c ∉ token :=
  fun c hc hmem => ne_of_isBlank (hw c hc) (hb c hmem) rfl

/-- A token without blanks stands in a text just when it stands in the trimmed text. -/
theorem occurs_trim_iff (hne : token ≠ []) (hb : ∀ c ∈ token, isBlank c = false) (t : Text) :
    Occurs token (trim t) ↔ Occurs token t := by
  obtain ⟨w, hw, h⟩ := exists_eq_indent_append_trim t
  conv_rhs => rw [h]
  rw [occurs_append_gap_iff hne (notMem_of_blanks hb hw), occurs_gap_append_iff hne]
  exact notMem_of_blanks hb fun c hc => isBlank_of_mem_indent hc

end StyleScope.Text
