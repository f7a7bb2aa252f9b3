/-
  StyleScope.RuleLine

  A line that opens a rule, such as `  .card, .tile {`, as its three parts: the blanks it starts
  with, the trimmed selector list, and everything from the first `{` on without the blanks at
  the end. Scoping such a line nests its selectors under the wrapper and keeps the other two
  parts.
-/
import StyleScope.SelectorList

namespace StyleScope

open Text

/-- The parts of a line that opens a rule. -/
structure RuleLine where
  indent : Text
  selectors : Text
  block : Text
deriving DecidableEq

namespace RuleLine

/-- The parts of a line, if it holds a `{`. -/
def ofText? (line : Text) : Option RuleLine :=
  let trimmed := trim line
  -- The first brace counts, so the block may hold further ones.
  if '{' ∈ trimmed then
    some {
      indent := Text.indent line
      selectors := trim (trimmed.takeWhile (· ≠ '{'))
      block := trimmed.dropWhile (· ≠ '{') }
  else none

/-- The line with these parts. -/
def toText (r : RuleLine) : Text := r.indent ++ r.selectors ++ ' ' :: r.block

/-- A rule that is left as it is: its selectors start with the wrapper already, or are for the
    document itself. -/
def IsSettled (wrapper : Text) (r : RuleLine) : Prop :=
  wrapper <+: r.selectors ∨ SelectorList.IsGlobal r.selectors

instance (wrapper : Text) (r : RuleLine) : Decidable (r.IsSettled wrapper) :=
  inferInstanceAs (Decidable (_ ∨ _))

/-- The rule with its selectors nested under the wrapper. -/
def scope (wrapper : Text) (r : RuleLine) : RuleLine :=
  { r with selectors := SelectorList.scope wrapper r.selectors }

/-- A line with its selectors nested under the wrapper; nothing if the line opens no rule or is
    to be left as it is. -/
def scopeText? (wrapper line : Text) : Option Text := do
  let r ← ofText? line
  if r.IsSettled wrapper then none else some (r.scope wrapper).toText

theorem ofText?_isSome_iff {line : Text} : (ofText? line).isSome ↔ '{' ∈ trim line := by
  by_cases h : '{' ∈ trim line <;> simp [ofText?, h]

theorem scopeText?_eq_some_iff {wrapper line out : Text} :
    scopeText? wrapper line = some out ↔
      ∃ r, ofText? line = some r ∧ ¬ r.IsSettled wrapper ∧ (r.scope wrapper).toText = out := by
  cases h : ofText? line with
  | none => simp [scopeText?, h]
  | some r => by_cases hs : r.IsSettled wrapper <;> simp [scopeText?, h, hs]

end RuleLine

end StyleScope
