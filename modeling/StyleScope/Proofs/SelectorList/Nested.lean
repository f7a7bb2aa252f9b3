/-
  StyleScope.Proofs.SelectorList.Nested

  What a selector list holds once it is nested under a wrapper.

  The nested list starts with the wrapper (`prefix_scope`) and brings in no character but those of
  the wrapper, a comma and a space (`mem_scope`). The seams of the list, where a selector meets a
  wrapper, are all made of characters that the tokens of the scanner do not have. So such a token
  (`IsSolid`) stands in the nested list just when it stands in the wrapper or stood in the list
  (`occurs_scope_iff`).
-/
import StyleScope.Proofs.Text.Pieces
import StyleScope.Proofs.Text.Tokens
import StyleScope.SelectorList

namespace StyleScope

open Text

/-- A token that holds none of the characters at which rule lines are cut and put together. -/
structure IsSolid (token : Text) : Prop where
  ne_nil : token ≠ []
  no_blank : ∀ c ∈ token, isBlank c = false
  no_comma : ',' ∉ token
  no_colon : ':' ∉ token
  no_brace : '{' ∉ token

namespace IsSolid

variable {token : Text} (h : IsSolid token)
include h

theorem no_space : ' ' ∉ token := fun hmem => absurd (h.no_blank ' ' hmem) (by decide)

theorem no_comma_space : ∀ c ∈ [',', ' '], c ∉ token := by
  simp [h.no_comma, h.no_space]

theorem occurs_trim_iff (t : Text) : Occurs token (trim t) ↔ Occurs token t :=
  Text.occurs_trim_iff h.ne_nil h.no_blank t

end IsSolid

namespace SelectorList

variable {token : Text}

/-! ## Characters -/

/-- The characters of a selector are characters of its list. -/
theorem mem_of_mem_fragments {selectors f : Text} {c : Char} (hf : f ∈ fragments selectors)
    (hc : c ∈ f) : c ∈ selectors := by
  obtain ⟨piece, hpiece, rfl⟩ := List.mem_map.1 hf
  exact mem_of_mem_splitOn hpiece (mem_of_mem_trim hc)

theorem mem_scopeFragment {wrapper f : Text} {c : Char} (h : c ∈ scopeFragment wrapper f) :
    c ∈ wrapper ∨ c = ' ' ∨ c ∈ f := by
  rcases scopeFragment_eq wrapper f with heq | heq
  · rw [heq, List.mem_append] at h
    exact h.imp_right Or.inr
  · rw [heq, List.mem_append, List.mem_cons] at h
    exact h

theorem mem_scope {wrapper selectors : Text} {c : Char} (h : c ∈ scope wrapper selectors) :
    c ∈ wrapper ∨ c = ' ' ∨ c = ',' ∨ c ∈ selectors := by
  rcases (mem_intercalate_iff _).1 h with ⟨piece, hpiece, hc⟩ | ⟨hsep, -⟩
  · obtain ⟨f, hf, rfl⟩ := List.mem_map.1 hpiece
    rcases mem_scopeFragment hc with h | h | h
    · exact Or.inl h
    · exact Or.inr (Or.inl h)
    · exact Or.inr (Or.inr (Or.inr (mem_of_mem_fragments hf h)))
  · rcases List.mem_pair.1 hsep with rfl | rfl
    · exact Or.inr (Or.inr (Or.inl rfl))
    · exact Or.inr (Or.inl rfl)

/-! ## The start -/

theorem prefix_scopeFragment (wrapper f : Text) : wrapper <+: scopeFragment wrapper f := by
  rcases scopeFragment_eq wrapper f with heq | heq
  · exact ⟨f, heq.symm⟩
  · exact ⟨' ' :: f, heq.symm⟩

theorem prefix_scope (wrapper selectors : Text) : wrapper <+: scope wrapper selectors := by
  obtain ⟨f, fs, hf⟩ := List.exists_cons_of_ne_nil (fragments_ne_nil selectors)
  rw [scope, hf, List.map_cons]
  cases fs with
  | nil =>
    rw [List.map_nil, List.intercalate_singleton]
    exact prefix_scopeFragment wrapper f
  | cons g gs =>
    rw [List.map_cons, List.intercalate_cons_cons, List.append_assoc]
    exact (prefix_scopeFragment wrapper f).trans (List.prefix_append _ _)

/-! ## Tokens -/

theorem occurs_scopeFragment_iff (h : IsSolid token) (wrapper f : Text) :
    Occurs token (scopeFragment wrapper f) ↔ Occurs token wrapper ∨ Occurs token f := by
  by_cases hf : [':'] <+: f
  · obtain ⟨r, rfl⟩ := hf
    have hcolon : ∀ c ∈ [':'], c ∉ token := by simpa using h.no_colon
    rw [scopeFragment, if_pos (List.prefix_append _ r), occurs_gap_append_iff h.ne_nil hcolon]
    exact occurs_cut_iff h.no_colon
  · rw [scopeFragment, if_neg hf]
    exact occurs_cut_iff h.no_space

/-- A list holds a token just when one of its selectors does. -/
theorem occurs_fragments_iff (h : IsSolid token) (selectors : Text) :
    (∃ f ∈ fragments selectors, Occurs token f) ↔ Occurs token selectors := by
  have hcut := occurs_intercalate_iff h.ne_nil (List.cons_ne_nil ',' [])
    (by simpa using h.no_comma) (selectors.splitOn ',')
  rw [List.intercalate_splitOn] at hcut
  rw [hcut, fragments]
  simp only [List.mem_map, exists_exists_and_eq_and, h.occurs_trim_iff]

theorem occurs_scope_iff (h : IsSolid token) (wrapper selectors : Text) :
    Occurs token (scope wrapper selectors) ↔ Occurs token wrapper ∨ Occurs token selectors := by
  rw [scope, occurs_intercalate_iff h.ne_nil (List.cons_ne_nil ',' [' ']) h.no_comma_space,
    ← occurs_fragments_iff h selectors]
  simp only [List.mem_map, exists_exists_and_eq_and, occurs_scopeFragment_iff h]
  constructor
  · rintro ⟨f, hf, hw | hf'⟩
    · exact Or.inl hw
    · exact Or.inr ⟨f, hf, hf'⟩
  · rintro (hw | ⟨f, hf, hf'⟩)
    -- There is at least one selector to put the wrapper in front of.
    · obtain ⟨f, hf⟩ := List.exists_mem_of_ne_nil _ (fragments_ne_nil selectors)
      exact ⟨f, hf, Or.inl hw⟩
    · exact ⟨f, hf, Or.inr hf'⟩

end SelectorList

end StyleScope
