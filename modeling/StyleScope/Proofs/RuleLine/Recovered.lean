/-
  StyleScope.Proofs.RuleLine.Recovered

  What the line that was given a wrapper tells of the line that it was.

  The new line is cut at its first brace where it was put together (`dropWhile_of_scopeText?`), its
  selectors are the nested ones (`fragments_takeWhile_of_scopeText?`), and each of them gives back
  the selector that it was made from (`unscopeFragment_scopeFragment`). So two lines become the same
  just when they have the same indentation, selectors and block (`scopeText?_layout`). What is lost
  is the blanks around the selectors and those at the end of the line.
-/
import StyleScope.Proofs.RuleLine.Rescoped

namespace StyleScope

open Text

variable {w : WrapperClass} {f line line' out out' : Text}

namespace SelectorList

/-! ## One selector -/

/-- A nested selector without the wrapper and without the space behind it. -/
def unscopeFragment (wrapper nested : Text) : Text :=
  let rest := nested.drop wrapper.length
  if rest.head? = some ' ' then rest.tail else rest

theorem unscopeFragment_append (wrapper rest : Text) :
    unscopeFragment wrapper (wrapper ++ rest) =
      if rest.head? = some ' ' then rest.tail else rest := by
  simp only [unscopeFragment, List.drop_left]

/-- Blanks around a nested selector tell nothing of the selector that it was made from. -/
theorem unscopeFragment_scopeFragment (w : WrapperClass) (hf : IsTrimmed f) :
    unscopeFragment w.selector (trim (scopeFragment w.selector f)) = f := by
  by_cases hne : f = []
  · subst hne
    have hnil := unscopeFragment_append w.selector []
    rw [List.append_nil] at hnil
    rw [trim_scopeFragment_nil, hnil]
    rfl
  · rw [trim_of_isTrimmed (isTrimmed_scopeFragment w hne hf)]
    by_cases hcolon : [':'] <+: f
    · obtain ⟨rest, rfl⟩ := hcolon
      rw [scopeFragment, if_pos (List.prefix_append _ rest), unscopeFragment_append]
      rfl
    · rw [scopeFragment, if_neg hcolon, unscopeFragment_append]
      rfl

/-- The selectors of a list, read off the nested list. -/
theorem map_unscopeFragment (w : WrapperClass) (selectors : Text) :
    ((fragments selectors).map fun f => trim (scopeFragment w.selector f)).map
      (unscopeFragment w.selector) = fragments selectors := by
  rw [List.map_map]
  refine (List.map_congr_left fun f hf => ?_).trans (List.map_id _)
  exact unscopeFragment_scopeFragment w (isTrimmed_of_mem_fragments hf)

end SelectorList

namespace RuleLine

open SelectorList

/-! ## The first brace -/

/-- A written line goes on from its first brace with its block. -/
theorem IsWritable.dropWhile_toText {r : RuleLine} (h : r.IsWritable) :
    r.toText.dropWhile (· ≠ '{') = r.block := by
  have hbefore : ∀ c ∈ r.indent ++ r.selectors ++ [' '], (decide (c ≠ '{')) = true := by
    intro c hc
    apply decide_eq_true
    rcases List.mem_append.1 hc with hc | hc
    · rcases List.mem_append.1 hc with hc | hc
      · exact ne_of_isBlank (h.indent_blank c hc) (by decide)
      · exact fun heq => h.brace_notMem (heq ▸ hc)
    · obtain rfl := List.mem_singleton.1 hc
      decide
  obtain ⟨b, hb⟩ := h.block_open
  have hsplit : r.toText = r.indent ++ r.selectors ++ [' '] ++ r.block := by
    simp [toText]
  rw [hsplit, List.dropWhile_append_of_pos hbefore, ← hb]
  simp

theorem dropWhile_of_scopeText? (h : scopeText? w.selector line = some out) :
    out.dropWhile (· ≠ '{') = blockText line := by
  obtain ⟨r, hr, -, hwrite, rfl⟩ := exists_of_scopeText? h
  have hline := ofText?_eq_parts (ofText?_eq_some hr).1
  obtain rfl := Option.some.inj (hr.symm.trans hline)
  exact hwrite.dropWhile_toText

/-! ## The selectors -/

/-- The selectors of a line are those of its list. -/
theorem fragments_takeWhile (line : Text) :
    fragments (line.takeWhile (· ≠ '{')) = fragments (listText line) :=
  (fragments_trim _).symm

theorem fragments_takeWhile_of_scopeText? (h : scopeText? w.selector line = some out) :
    fragments (out.takeWhile (· ≠ '{')) =
      (fragments (line.takeWhile (· ≠ '{'))).map fun f => trim (scopeFragment w.selector f) := by
  rw [fragments_takeWhile, fragments_takeWhile, fragments_of_scopeText? h, fragments_scope]

/-! ## The whole line -/

/-- A line that is given a wrapper is made of its indentation, selectors and block. -/
theorem eq_of_scopeText? (h : scopeText? w.selector line = some out) :
    out = Text.indent line ++
      [',', ' '].intercalate
        ((fragments (line.takeWhile (· ≠ '{'))).map (scopeFragment w.selector)) ++
      ' ' :: trimEnd (line.dropWhile (· ≠ '{')) := by
  rw [fragments_takeWhile]
  exact eq_nestedText_of_scopeText? h

theorem eq_iff_of_scopeText? (h : scopeText? w.selector line = some out)
    (h' : scopeText? w.selector line' = some out') :
    out = out' ↔
      Text.indent line = Text.indent line' ∧
      fragments (line.takeWhile (· ≠ '{')) = fragments (line'.takeWhile (· ≠ '{')) ∧
      trimEnd (line.dropWhile (· ≠ '{')) = trimEnd (line'.dropWhile (· ≠ '{')) := by
  constructor
  · rintro rfl
    refine ⟨?_, ?_, ?_⟩
    · rw [← (parts_of_scopeText? h).1, ← (parts_of_scopeText? h').1]
    · -- The nested selectors are the same, so what they were made from is.
      rw [← map_unscopeFragment w, ← fragments_takeWhile_of_scopeText? h,
        fragments_takeWhile_of_scopeText? h', map_unscopeFragment]
    · exact (dropWhile_of_scopeText? h).symm.trans (dropWhile_of_scopeText? h')
  · rintro ⟨hindent, hselectors, hblock⟩
    rw [eq_of_scopeText? h, eq_of_scopeText? h', hindent, hselectors, hblock]

/-- What the line that is given a wrapper keeps. It is laid out as its own indentation, each selector
    under the wrapper, and its block, and cutting it at the first brace and at the commas in front of
    it gives these parts back. Two lines become the same just when they have the same indentation,
    selectors and block. -/
theorem scopeText?_layout (w : WrapperClass) :
    (∀ line out, scopeText? w.selector line = some out →
      out = Text.indent line ++
        [',', ' '].intercalate ((fragments (line.takeWhile (· ≠ '{'))).map fun f =>
          if [':'] <+: f then w.selector ++ f else w.selector ++ ' ' :: f) ++
        ' ' :: trimEnd (line.dropWhile (· ≠ '{')) ∧
      Text.indent out = Text.indent line ∧
      fragments (out.takeWhile (· ≠ '{')) =
        (fragments (line.takeWhile (· ≠ '{'))).map (fun f => trim (scopeFragment w.selector f)) ∧
      out.dropWhile (· ≠ '{') = trimEnd (line.dropWhile (· ≠ '{'))) ∧
    ∀ line line' out out', scopeText? w.selector line = some out →
      scopeText? w.selector line' = some out' →
      (out = out' ↔
        Text.indent line = Text.indent line' ∧
        fragments (line.takeWhile (· ≠ '{')) = fragments (line'.takeWhile (· ≠ '{')) ∧
        trimEnd (line.dropWhile (· ≠ '{')) = trimEnd (line'.dropWhile (· ≠ '{'))) := by
  refine ⟨fun line out h => ⟨?_, ?_, ?_, ?_⟩, fun line line' out out' h h' => ?_⟩
  · exact eq_of_scopeText? h
  · exact (parts_of_scopeText? h).1
  · exact fragments_takeWhile_of_scopeText? h
  · exact dropWhile_of_scopeText? h
  · exact eq_iff_of_scopeText? h h'

/-- A rule for `a` and `:h`, with blanks between its parts. -/
def spacedRule : Text := ['\t', 'a', ',', ' ', ':', 'h', ' ', ' ', '{', ' ']

/-- The same line without the blanks that it loses. -/
def tightRule : Text := ['\t', 'a', ',', ':', 'h', '{']

/-- Both lines become the same, and from that line it is read off that their selectors were. -/
theorem scopeText?_layout_spacedRule :
    ∃ out, scopeText? WrapperClass.dash.selector spacedRule = some out ∧
      scopeText? WrapperClass.dash.selector tightRule = some out ∧
      Text.indent out = ['\t'] ∧ out.dropWhile (· ≠ '{') = ['{'] ∧
      fragments (spacedRule.takeWhile (· ≠ '{')) = fragments (tightRule.takeWhile (· ≠ '{')) := by
  obtain ⟨out, hout⟩ : ∃ out, scopeText? WrapperClass.dash.selector spacedRule = some out :=
    Option.isSome_iff_exists.1 (by decide)
  obtain ⟨out', hout'⟩ : ∃ out, scopeText? WrapperClass.dash.selector tightRule = some out :=
    Option.isSome_iff_exists.1 (by decide)
  obtain ⟨hparts, hsame⟩ := scopeText?_layout WrapperClass.dash
  obtain ⟨-, hindent, -, hblock⟩ := hparts spacedRule out hout
  have hparts : Text.indent spacedRule = Text.indent tightRule ∧
      fragments (spacedRule.takeWhile (· ≠ '{')) = fragments (tightRule.takeWhile (· ≠ '{')) ∧
      trimEnd (spacedRule.dropWhile (· ≠ '{')) = trimEnd (tightRule.dropWhile (· ≠ '{')) := by
    decide
  obtain rfl : out = out' := (hsame spacedRule tightRule out out' hout hout').2 hparts
  exact ⟨out, hout, hout', hindent, hblock, hparts.2.1⟩

end RuleLine

end StyleScope
