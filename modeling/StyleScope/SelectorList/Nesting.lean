/-
  StyleScope.SelectorList.Nesting

  Selector lists as their parentheses, brackets and quotes nest.

  What is open at a place is a list of the characters that would close it, the innermost first.
  Inside a quote nothing but its end counts. `pieces` cuts a list at the commas where nothing is
  open, and `IsBalanced` says that all that is opened is closed and nothing else.
-/
import StyleScope.Text.Basic

namespace StyleScope.SelectorList

open Text

/-- The character that closes what a character opens, if it opens anything. -/
def closerOf? : Char → Option Char
  | '(' => some ')'
  | '[' => some ']'
  | '"' => some '"'
  | '\'' => some '\''
  | _ => none

/-- Whether a character closes a quote. -/
def isQuote (c : Char) : Bool := c == '"' || c == '\''

/-- What is open after one more character. -/
def openAfter : List Char → Char → List Char
  | [], c => (closerOf? c).toList
  | closer :: outer, c =>
    if c = closer then outer
    else if isQuote closer then closer :: outer
    else (closerOf? c).toList ++ closer :: outer

/-- Whether a text closes all that is open before it and all that it opens, and never closes
    anything else. -/
def closesAll : List Char → Text → Bool
  | opened, [] => opened.isEmpty
  | opened, c :: rest =>
    -- Inside a quote a closing character is text.
    let expected := opened.head?.any fun closer => c == closer || isQuote closer
    (expected || !(c == ')' || c == ']')) && closesAll (openAfter opened c) rest

/-- A text in which parentheses, brackets and quotes are balanced. -/
def IsBalanced (t : Text) : Prop := closesAll [] t = true

instance (t : Text) : Decidable (IsBalanced t) := inferInstanceAs (Decidable (_ = _))

/-- The pieces of a text between the commas at which nothing is open. -/
def piecesFrom : List Char → Text → List Text
  | _, [] => [[]]
  | opened, c :: rest =>
    if c = ',' ∧ opened = [] then [] :: piecesFrom [] rest
    else (piecesFrom (openAfter opened c) rest).modifyHead (c :: ·)

/-- The selectors of a list: its pieces between the commas at which nothing is open. -/
def pieces (selectors : Text) : List Text := piecesFrom [] selectors

theorem piecesFrom_ne_nil (opened : List Char) (t : Text) : piecesFrom opened t ≠ [] := by
  induction t generalizing opened with
  | nil => simp [piecesFrom]
  | cons c rest ih =>
    unfold piecesFrom
    split
    · simp
    · intro h
      exact ih (openAfter opened c) (by simpa [List.modifyHead_eq_nil_iff] using h)

/-- The pieces with their commas make up the text. -/
theorem intercalate_piecesFrom (opened : List Char) (t : Text) :
    [','].intercalate (piecesFrom opened t) = t := by
  induction t generalizing opened with
  | nil => simp [piecesFrom, List.intercalate]
  | cons c rest ih =>
    unfold piecesFrom
    split
    · rename_i h
      obtain ⟨p, ps, hp⟩ := List.exists_cons_of_ne_nil (piecesFrom_ne_nil [] rest)
      have hrest := ih []
      rw [hp] at hrest ⊢
      rw [List.intercalate_cons_cons, hrest, h.1]
      rfl
    · obtain ⟨p, ps, hp⟩ :=
        List.exists_cons_of_ne_nil (piecesFrom_ne_nil (openAfter opened c) rest)
      have hrest := ih (openAfter opened c)
      rw [hp] at hrest ⊢
      rw [List.modifyHead_cons]
      -- The character belongs to the first piece, whether or not it is the only one.
      cases ps with
      | nil => simpa [List.intercalate] using hrest
      | cons q qs =>
        rw [List.intercalate_cons_cons] at hrest ⊢
        rw [← hrest]
        simp

end StyleScope.SelectorList
