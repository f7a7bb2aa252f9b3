/-
  StyleScope.Proofs.RuleLine.Wrapped

  Rule lines that were given a wrapper.

  Such a line is found to be settled, for the wrapper and for every class that the wrapper starts
  with (`scopeText?_scopeText?`). No line that can be given the wrapper is, so a line that is
  given one always changes (`scopeText?_ne`). The new line starts with the wrapper's dot, opens a
  rule and ends in no blank, and it holds a token of the scanner just when the wrapper
  or the old line does (`occurs_iff_of_scopeText?`).
-/
import StyleScope.Proofs.RuleLine.Reading
import StyleScope.Proofs.SelectorList.Nested
import StyleScope.Proofs.WrapperClass

namespace StyleScope.RuleLine

open Text

variable {w v : WrapperClass} {line out token : Text} {r : RuleLine}

/-- A line can be given a wrapper if it holds a brace and what stands before the first one is not
    settled. -/
theorem scopeText?_isSome_iff {wrapper line : Text} :
    (scopeText? wrapper line).isSome = true ↔
      '{' ∈ trim line ∧ ¬ wrapper <+: trim (line.takeWhile (· ≠ '{')) ∧
        ¬ SelectorList.IsGlobal (trim (line.takeWhile (· ≠ '{'))) := by
  rw [← ofText?_isSome_iff]
  cases hr : ofText? line with
  | none => simp [scopeText?, hr]
  | some r =>
    have hsettled : r.IsSettled wrapper ↔
        wrapper <+: r.selectors ∨ SelectorList.IsGlobal r.selectors := Iff.rfl
    rw [← selectors_of_ofText? hr, ← not_or, ← hsettled]
    by_cases hs : r.IsSettled wrapper
    · simp [scopeText?, hr, hs]
    · simp [scopeText?, hr, hs]

theorem isWritable_scope (w : WrapperClass) (h : r.IsRead) :
    (r.scope w.selector).IsWritable where
  indent_blank := h.indent_blank
  selectors_start := by
    obtain ⟨t, ht⟩ := SelectorList.prefix_scope w.selector r.selectors
    exact ⟨'.', w.name ++ t, ht.symm, rfl⟩
  brace_notMem := by
    intro hmem
    rcases SelectorList.mem_scope hmem with hc | hc | hc | hc
    · exact WrapperClass.notMem_selector w (by decide) hc
    · exact absurd hc (by decide)
    · exact absurd hc (by decide)
    · exact h.brace_notMem hc
  block_open := h.block_open
  block_trimmed := h.block_trimmed

/-- A line that is given a wrapper, with its parts. -/
theorem exists_of_scopeText? (h : scopeText? w.selector line = some out) :
    ∃ r, ofText? line = some r ∧ r.IsRead ∧ (r.scope w.selector).IsWritable ∧
      out = (r.scope w.selector).toText := by
  obtain ⟨r, hr, -, rfl⟩ := scopeText?_eq_some_iff.1 h
  exact ⟨r, hr, ofText?_isRead hr, isWritable_scope w (ofText?_isRead hr), rfl⟩

/-! ## Scoping again -/

/-- A line that was given a wrapper is left as it is by every class that the wrapper starts
    with. -/
theorem scopeText?_scopeText? (h : scopeText? w.selector line = some out)
    (hv : v.selector <+: w.selector) : scopeText? v.selector out = none := by
  obtain ⟨r, -, -, hwrite, rfl⟩ := exists_of_scopeText? h
  have hstart : v.selector <+: trim (r.scope w.selector).selectors :=
    WrapperClass.prefix_trim_of_prefix_selector v
      (hv.trans (SelectorList.prefix_scope w.selector r.selectors))
  simp only [scopeText?, hwrite.ofText?_toText]
  exact if_pos (Or.inl hstart)

/-- What a wrapper leaves as it is, everything that the wrapper starts with leaves as it is. -/
theorem scopeText?_eq_none_of_prefix {a b : Text} (hab : a <+: b) (h : scopeText? b line = none) :
    scopeText? a line = none := by
  cases hr : ofText? line with
  | none => simp [scopeText?, hr]
  | some r =>
    have hsettled : r.IsSettled b := by
      by_contra hnot
      have hsome := scopeText?_eq_some_iff.2 ⟨r, hr, hnot, rfl⟩
      rw [h] at hsome
      exact absurd hsome (by simp)
    have hsettled' : r.IsSettled a := hsettled.imp_left hab.trans
    simp [scopeText?, hr, hsettled']

/-- A line that is given a wrapper changes. -/
theorem scopeText?_ne (h : scopeText? w.selector line = some out) : out ≠ line := by
  rintro rfl
  -- The line would be settled, and a settled line is given no wrapper.
  have hnone := scopeText?_scopeText? h List.prefix_rfl
  rw [h] at hnone
  exact absurd hnone (by simp)

/-- A rule with one selector, which no wrapper class starts like. -/
def plainRule : Text := ['a', ' ', '{']

theorem exists_scopeText?_plainRule (w : WrapperClass) :
    ∃ out, scopeText? w.selector plainRule = some out := by
  have hread : ofText? plainRule = some ⟨[], ['a'], ['{']⟩ := by decide
  have hsettled : ¬ IsSettled w.selector ⟨[], ['a'], ['{']⟩ := by
    rintro (hstart | hglobal)
    · exact absurd (List.cons_prefix_cons.1 hstart).1 (by decide)
    · exact absurd hglobal (by decide)
  exact ⟨_, scopeText?_eq_some_iff.2 ⟨_, hread, hsettled, rfl⟩⟩

/-! ## What the new line holds -/

/-- Trimmed, the new line starts with the wrapper's dot. -/
theorem trim_eq_cons_of_scopeText? (h : scopeText? w.selector line = some out) :
    ∃ t, trim out = '.' :: t := by
  obtain ⟨r, -, -, hwrite, rfl⟩ := exists_of_scopeText? h
  obtain ⟨t, ht⟩ := SelectorList.prefix_scope w.selector r.selectors
  refine ⟨w.name ++ t ++ ' ' :: r.block, ?_⟩
  rw [hwrite.trim_toText]
  exact congrArg (· ++ ' ' :: r.block) ht.symm

theorem brace_mem_of_scopeText? (h : scopeText? w.selector line = some out) :
    '{' ∈ trim out := by
  obtain ⟨r, -, hread, hwrite, rfl⟩ := exists_of_scopeText? h
  obtain ⟨b, hb⟩ := hread.block_open
  rw [hwrite.trim_toText]
  refine List.mem_append_right _ (List.mem_cons_of_mem _ ?_)
  exact hb ▸ List.mem_cons_self

/-- The new line ends in no blank, so a carriage return put behind it is not part of it. -/
theorem getLast?_ne_of_scopeText? (h : scopeText? w.selector line = some out) :
    out.getLast? ≠ some '\r' := by
  obtain ⟨r, -, -, hwrite, rfl⟩ := exists_of_scopeText? h
  intro hlast
  obtain ⟨s, hs⟩ := List.getLast?_eq_some_iff.1 hlast
  exact absurd (hwrite.not_isBlank_last hs) (by decide)

/-- The new line holds no character but those of the wrapper and the line, a comma and a space. -/
theorem mem_of_scopeText? {c : Char} (h : scopeText? w.selector line = some out) (hc : c ∈ out) :
    c ∈ w.selector ∨ c = ' ' ∨ c = ',' ∨ c ∈ line := by
  obtain ⟨r, hr, -, -, rfl⟩ := exists_of_scopeText? h
  obtain ⟨hindent, hselectors, hblock⟩ := subset_of_ofText? hr
  rw [toText, List.mem_append, List.mem_append, List.mem_cons] at hc
  rcases hc with (hc | hc) | rfl | hc
  · exact Or.inr (Or.inr (Or.inr (hindent hc)))
  · rcases SelectorList.mem_scope hc with hc | hc | hc | hc
    · exact Or.inl hc
    · exact Or.inr (Or.inl hc)
    · exact Or.inr (Or.inr (Or.inl hc))
    · exact Or.inr (Or.inr (Or.inr (hselectors hc)))
  · exact Or.inr (Or.inl rfl)
  · exact Or.inr (Or.inr (Or.inr (hblock hc)))

/-! ## Tokens -/

/-- A rule line holds a token just when its selectors or its block do. -/
theorem occurs_toText_iff (h : IsSolid token) (hr : ∀ c ∈ r.indent, isBlank c = true) :
    Occurs token r.toText ↔ Occurs token r.selectors ∨ Occurs token r.block := by
  rw [toText, List.append_assoc, occurs_gap_append_iff h.ne_nil (notMem_of_blanks h.no_blank hr)]
  exact occurs_cut_iff h.no_space

theorem occurs_iff_of_ofText? (h : IsSolid token) (hr : ofText? line = some r) :
    Occurs token line ↔ Occurs token r.selectors ∨ Occurs token r.block := by
  obtain ⟨b, hb⟩ := (ofText?_isRead hr).block_open
  have hbrace : ∀ c ∈ ['{'], c ∉ token := by simpa using h.no_brace
  rw [← h.occurs_trim_iff line, ← takeWhile_append_block hr, (ofText?_eq_some hr).2.2.1,
    h.occurs_trim_iff, ← hb, occurs_gap_append_iff h.ne_nil hbrace]
  exact occurs_cut_iff h.no_brace

theorem occurs_iff_of_scopeText? (h : IsSolid token)
    (hout : scopeText? w.selector line = some out) :
    Occurs token out ↔ Occurs token w.selector ∨ Occurs token line := by
  obtain ⟨r, hr, -, hwrite, rfl⟩ := exists_of_scopeText? hout
  rw [occurs_toText_iff h hwrite.indent_blank, occurs_iff_of_ofText? h hr, ← or_assoc]
  exact or_congr_left (SelectorList.occurs_scope_iff h w.selector r.selectors)

end StyleScope.RuleLine
