/-
  StyleScope.SelectorList

  The selectors that stand before the brace of a rule, and the wrapper put in front of each.

  The list is cut at every comma. A selector that starts with `:` has no base of its own and is
  glued to the wrapper; any other becomes a descendant of it.
-/
import StyleScope.Text.Basic

namespace StyleScope.SelectorList

open Text

/-- The selectors for the document itself. Nested under a class they would match nothing. -/
def globals : List Text :=
  [[':', 'r', 'o', 'o', 't'], ['h', 't', 'm', 'l'], ['b', 'o', 'd', 'y'], ['*']]

/-- A selector list that starts with a selector for the document itself. -/
def IsGlobal (selectors : Text) : Prop := ∃ word ∈ globals, word <+: selectors

instance (selectors : Text) : Decidable (IsGlobal selectors) :=
  inferInstanceAs (Decidable (∃ word ∈ globals, word <+: selectors))

/-- The trimmed texts between the commas of a selector list. -/
def fragments (selectors : Text) : List Text := (selectors.splitOn ',').map trim

/-- One selector nested under the wrapper. -/
def scopeFragment (wrapper fragment : Text) : Text :=
  if [':'] <+: fragment then wrapper ++ fragment else wrapper ++ ' ' :: fragment

/-- Every selector of the list nested under the wrapper. -/
def scope (wrapper selectors : Text) : Text :=
  [',', ' '].intercalate ((fragments selectors).map (scopeFragment wrapper))

theorem fragments_ne_nil (selectors : Text) : fragments selectors ≠ [] := by
  simp [fragments, List.splitOn_ne_nil]

/-- A nested selector starts with the wrapper and ends with the selector it was. -/
theorem scopeFragment_eq (wrapper fragment : Text) :
    scopeFragment wrapper fragment = wrapper ++ fragment ∨
      scopeFragment wrapper fragment = wrapper ++ ' ' :: fragment := by
  unfold scopeFragment
  split
  · exact Or.inl rfl
  · exact Or.inr rfl

end StyleScope.SelectorList
