/-
  StyleScope.Proofs.RuleLine.Visible

  What is seen of a rule line before and after it is given a wrapper.

  For a choice of characters that takes no blank, a selector list is its selectors with commas
  between them, and the nested list is the same with the wrapper in front of each selector
  (`filter_scope`). A line is its list and its block (`filter_parts`), and the line that is given a
  wrapper is the nested list and the same block (`filter_of_scopeText?`).
-/
import StyleScope.Proofs.RuleLine.Rescoped
import StyleScope.Proofs.Text.Visible

namespace StyleScope

open Text

variable {keep : Char → Bool} {wrapper line out : Text}

theorem WrapperClass.visible_selector (w : WrapperClass) : visible w.selector = w.selector := by
  apply List.filter_eq_self.2
  intro c hc
  simp [not_isBlank_of_mem_selector w hc]

namespace SelectorList

/-- A list is seen as its selectors between commas. -/
theorem filter_fragments (h : SkipsBlanks keep) (selectors : Text) :
    ([','].filter keep).intercalate ((fragments selectors).map (·.filter keep)) =
      selectors.filter keep := by
  have htrim : (fragments selectors).map (·.filter keep) =
      (selectors.splitOn ',').map (·.filter keep) := by
    rw [fragments, List.map_map]
    exact List.map_congr_left fun piece _ => h.filter_trim piece
  rw [htrim, ← filter_intercalate, List.intercalate_splitOn]

theorem filter_scopeFragment (h : SkipsBlanks keep) (wrapper f : Text) :
    (scopeFragment wrapper f).filter keep = wrapper.filter keep ++ f.filter keep := by
  have hspace : keep ' ' = false := h ' ' rfl
  -- A pseudo-class takes the wrapper without a space, but the space is not seen anyway.
  rcases scopeFragment_eq wrapper f with heq | heq
  · rw [heq, List.filter_append]
  · rw [heq, List.filter_append, List.filter_cons_of_neg (by simp [hspace])]

/-- The nested list is seen with the wrapper in front of each selector. -/
theorem filter_scope (h : SkipsBlanks keep) (wrapper selectors : Text) :
    (scope wrapper selectors).filter keep =
      ([','].filter keep).intercalate
        (((fragments selectors).map (·.filter keep)).map (wrapper.filter keep ++ ·)) := by
  have hgap : [',', ' '].filter keep = [','].filter keep := by
    have hspace : keep ' ' = false := h ' ' rfl
    simp [List.filter_cons, hspace]
  rw [scope, filter_intercalate, hgap, List.map_map, List.map_map]
  exact congrArg _ (List.map_congr_left fun f _ => filter_scopeFragment h wrapper f)

end SelectorList

namespace RuleLine

/-- A line is seen as its list and its block. -/
theorem filter_parts (h : SkipsBlanks keep) (line : Text) :
    (listText line).filter keep ++ (blockText line).filter keep = line.filter keep := by
  rw [listText, blockText, h.filter_trim, h.filter_trimEnd, ← List.filter_append,
    List.takeWhile_append_dropWhile]

/-- The line that is given a wrapper is seen as the nested list and the same block. -/
theorem filter_of_scopeText? (h : SkipsBlanks keep) (hout : scopeText? wrapper line = some out) :
    out.filter keep =
      (SelectorList.scope wrapper (listText line)).filter keep ++
        (blockText line).filter keep := by
  have hindent : (Text.indent line).filter keep = [] :=
    h.filter_blanks fun c hc => isBlank_of_mem_indent hc
  have hspace : keep ' ' = false := h ' ' rfl
  rw [eq_nestedText_of_scopeText? hout, nestedText, List.filter_append, List.filter_append,
    hindent, List.nil_append, List.filter_cons_of_neg (by simp [hspace])]

end RuleLine

end StyleScope
