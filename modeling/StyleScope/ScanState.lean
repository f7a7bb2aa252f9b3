/-
  StyleScope.ScanState

  What one line of a stylesheet is, and what the lines before it leave behind.

  A stylesheet is scanned line by line without looking ahead. `classify` decides what a line is
  from its own text and from the state after the line before it, by rules in a fixed order of
  which the first that fits wins:

    * a line that starts like an import or a comment is a literal and changes nothing;
    * a line with `*/` ends a comment, also one that it opens itself;
    * a line inside a comment, or one with `/*`, is a comment;
    * a line with `@media` or `@keyframes` opens an at-rule block;
    * inside such a block, a lone `}` closes it and every other line belongs to it;
    * elsewhere a line with `{` is a selector, unless it starts with `@`.

  Only selector lines are ever given a wrapper class.
-/
import StyleScope.Text.Basic

namespace StyleScope

open Text

/-! ## Kinds and states -/

/-- An at-rule whose block is passed over. -/
inductive AtRule where
  | media
  | keyframes
deriving DecidableEq, Repr

/-- What the lines read so far leave behind. -/
inductive ScanState where
  /-- At the top level of the stylesheet. -/
  | normal
  /-- Inside a comment; `resume` is the at-rule block that the comment stands in. -/
  | comment (resume : Option AtRule)
  /-- Inside the block of an at-rule. -/
  | block (rule : AtRule)
deriving DecidableEq, Repr

/-- What a line is. -/
inductive LineKind where
  | literal
  | commentClose
  | comment
  | atRuleOpen (rule : AtRule)
  | inAtRule
  | atRuleClose
  | selector
  | other
deriving DecidableEq, Repr

/-! ## The tokens that lines are told apart by -/

/-- The token that opens a comment. -/
def commentOpener : Text := ['/', '*']

/-- The token that closes a comment. -/
def commentCloser : Text := ['*', '/']

/-- The word that opens an at-rule. -/
def AtRule.keyword : AtRule → Text
  | .media => ['@', 'm', 'e', 'd', 'i', 'a']
  | .keyframes => ['@', 'k', 'e', 'y', 'f', 'r', 'a', 'm', 'e', 's']

/-- What the trimmed text of a literal line starts with: an import, a comment opener, or the
    star of a comment's next line. -/
def literalStarts : List Text := [['@', 'i', 'm', 'p', 'o', 'r', 't'], commentOpener, ['*']]

/-- A trimmed line that is passed over whatever stands before it. -/
def IsLiteral (trimmed : Text) : Prop := ∃ start ∈ literalStarts, start <+: trimmed

instance (trimmed : Text) : Decidable (IsLiteral trimmed) :=
  inferInstanceAs (Decidable (∃ start ∈ literalStarts, start <+: trimmed))

/-- A line that closes an at-rule block: a lone `}` between blanks, with neither `{` nor `;`
    before it. Nested blocks are not counted. -/
def ClosesBlock (line : Text) : Prop :=
  trim line = ['}'] ∧ ∀ c ∈ line.takeWhile (· ≠ '}'), c ≠ '{' ∧ c ≠ ';'

instance (line : Text) : Decidable (ClosesBlock line) :=
  inferInstanceAs (Decidable (_ ∧ _))

/-- A trimmed line that opens a rule: it holds `{` and is no at-rule. -/
def OpensRule (trimmed : Text) : Prop := '{' ∈ trimmed ∧ ¬ ['@'] <+: trimmed

instance (trimmed : Text) : Decidable (OpensRule trimmed) :=
  inferInstanceAs (Decidable (_ ∧ _))

/-! ## One line -/

namespace ScanState

/-- The at-rule block that is open, comments left aside. -/
def atRule? : ScanState → Option AtRule
  | .normal => none
  | .comment resume => resume
  | .block rule => some rule

/-- Whether a comment is open. -/
def inComment : ScanState → Bool
  | .comment _ => true
  | .normal | .block _ => false

/-- The state outside comments with this at-rule block open. -/
def outside : Option AtRule → ScanState
  | none => .normal
  | some rule => .block rule

/-- What a line is, and the state after it. -/
def classify (state : ScanState) (line : Text) : LineKind × ScanState :=
  let trimmed := trim line
  -- A literal line does not even open or close a comment.
  if IsLiteral trimmed then (.literal, state)
  -- On a line that opens and closes a comment the closing counts, in either order.
  else if Occurs commentCloser trimmed then (.commentClose, outside state.atRule?)
  else if state.inComment ∨ Occurs commentOpener trimmed then (.comment, .comment state.atRule?)
  -- An at-rule inside the block of another takes its place.
  else if Occurs AtRule.media.keyword trimmed then (.atRuleOpen .media, .block .media)
  else if Occurs AtRule.keyframes.keyword trimmed then (.atRuleOpen .keyframes, .block .keyframes)
  else if state.atRule?.isSome then
    if ClosesBlock line then (.atRuleClose, .normal) else (.inAtRule, state)
  else if OpensRule trimmed then (.selector, state)
  else (.other, state)

theorem atRule?_outside (rule : Option AtRule) : (outside rule).atRule? = rule := by
  cases rule <;> rfl

theorem inComment_outside (rule : Option AtRule) : (outside rule).inComment = false := by
  cases rule <;> rfl

/-- A state is known by its at-rule block and by whether a comment is open. -/
theorem eq_of_atRule?_inComment {a b : ScanState} (hr : a.atRule? = b.atRule?)
    (hc : a.inComment = b.inComment) : a = b := by
  cases a <;> cases b <;> simp_all [atRule?, inComment]

end ScanState

end StyleScope
