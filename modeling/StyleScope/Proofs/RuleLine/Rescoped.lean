/-
  StyleScope.Proofs.RuleLine.Rescoped

  Rule lines told from their text, and the line that a wrapped line becomes under a second class.

  `listText` and `blockText` read the parts of a line off the line itself, so `scopeText?` can be
  written without parts (`scopeText?_eq`). A line that was given a wrapper keeps its indentation
  and its block, and its list is the nested list (`parts_of_scopeText?`). A second class that the
  wrapper does not start with is put in front of the wrapper: the line becomes what it would
  have become under the two at once (`scopeText?_nested`).
-/
import StyleScope.Proofs.RuleLine.Wrapped
import StyleScope.Proofs.SelectorList.Rescoped

namespace StyleScope.RuleLine

open Text

variable {v w : WrapperClass} {line out : Text}

/-! ## The parts of a line, told from its text -/

/-- What stands before the first brace of a line, trimmed. -/
def listText (line : Text) : Text := trim (line.takeWhile (· ≠ '{'))

/-- What stands from the first brace of a line on, without the blanks at the end. -/
def blockText (line : Text) : Text := trimEnd (line.dropWhile (· ≠ '{'))

/-- A line with its list nested under a wrapper. -/
def nestedText (wrapper line : Text) : Text :=
  Text.indent line ++ SelectorList.scope wrapper (listText line) ++ ' ' :: blockText line

theorem ofText?_eq_parts (h : '{' ∈ trim line) :
    ofText? line = some ⟨Text.indent line, listText line, blockText line⟩ := by
  obtain ⟨r, hr⟩ := Option.isSome_iff_exists.1 (ofText?_isSome_iff.2 h)
  have hindent : r.indent = Text.indent line := (ofText?_eq_some hr).2.1
  have hselectors : r.selectors = listText line := selectors_of_ofText? hr
  have hblock : r.block = blockText line := block_of_ofText? hr
  rw [hr, ← hindent, ← hselectors, ← hblock]

theorem scopeText?_eq (wrapper : Text) (h : '{' ∈ trim line) :
    scopeText? wrapper line =
      if wrapper <+: listText line ∨ SelectorList.IsGlobal (listText line) then none
      else some (nestedText wrapper line) := by
  rw [scopeText?, ofText?_eq_parts h]
  rfl

/-- A line that is given a wrapper becomes its nested text. -/
theorem eq_nestedText_of_scopeText? {wrapper : Text} (h : scopeText? wrapper line = some out) :
    out = nestedText wrapper line := by
  obtain ⟨r, hr, -, -⟩ := scopeText?_eq_some_iff.1 h
  rw [scopeText?_eq wrapper (ofText?_eq_some hr).1] at h
  split at h
  · exact absurd h (by simp)
  · exact (Option.some.inj h).symm

/-! ## A line that was given a wrapper -/

theorem parts_of_scopeText? (h : scopeText? w.selector line = some out) :
    Text.indent out = Text.indent line ∧
      listText out = trim (SelectorList.scope w.selector (listText line)) ∧
      blockText out = blockText line := by
  obtain ⟨r, hr, -, hwrite, rfl⟩ := exists_of_scopeText? h
  have hline := ofText?_eq_parts (ofText?_eq_some hr).1
  have hout := ofText?_eq_parts (brace_mem_of_scopeText? h)
  -- Both lines are read through their parts, and the written parts are read back.
  obtain rfl := Option.some.inj (hr.symm.trans hline)
  obtain ⟨hindent, hlist, hblock⟩ :=
    RuleLine.mk.inj (Option.some.inj (hout.symm.trans hwrite.ofText?_toText))
  exact ⟨hindent, hlist, hblock⟩

theorem fragments_of_scopeText? (h : scopeText? w.selector line = some out) :
    SelectorList.fragments (listText out) =
      SelectorList.fragments (SelectorList.scope w.selector (listText line)) := by
  rw [(parts_of_scopeText? h).2.1, SelectorList.fragments_trim]

theorem prefix_listText_of_scopeText? (h : scopeText? w.selector line = some out) :
    w.selector <+: listText out := by
  rw [(parts_of_scopeText? h).2.1]
  exact WrapperClass.prefix_trim_of_prefix_selector w (SelectorList.prefix_scope w.selector _)

/-- The new list starts with no other classes than those that the wrapper starts with, unless one
    goes on behind the wrapper with a colon. -/
theorem prefix_or_of_prefix_listText (h : scopeText? w.selector line = some out)
    (hv : v.selector <+: listText out) :
    v.selector <+: w.selector ∨ w.selector ++ [':'] <+: v.selector := by
  obtain ⟨t, ht⟩ := SelectorList.prefix_scope w.selector (listText line)
  have htrim : trim (SelectorList.scope w.selector (listText line)) <+:
      SelectorList.scope w.selector (listText line) := by
    rw [← ht]
    exact trim_prefix rfl
  rw [(parts_of_scopeText? h).2.1] at hv
  exact SelectorList.prefix_or_of_prefix_scope (hv.trans htrim)

/-! ## A second class -/

theorem scopeText?_nested (h : scopeText? w.selector line = some out)
    (hvw : ¬ v.selector <+: w.selector) (hcolon : ¬ w.selector ++ [':'] <+: v.selector)
    (hne : ∀ f ∈ SelectorList.fragments (listText line), f ≠ []) :
    scopeText? v.selector out = some (nestedText (v.selector ++ ' ' :: w.selector) line) := by
  have hstart : ¬ v.selector <+: listText out := fun hv =>
    (prefix_or_of_prefix_listText h hv).elim hvw hcolon
  have hglobal : ¬ SelectorList.IsGlobal (listText out) :=
    SelectorList.not_isGlobal_of_prefix (prefix_listText_of_scopeText? h)
  obtain ⟨hindent, hlist, hblock⟩ := parts_of_scopeText? h
  rw [scopeText?_eq v.selector (brace_mem_of_scopeText? h), if_neg (not_or_intro hstart hglobal)]
  rw [nestedText, hindent, hlist, hblock, SelectorList.scope_trim,
    SelectorList.scope_scope v w hne, nestedText]

end StyleScope.RuleLine
