/-
  StyleScope.Text.Comments

  Comments as the characters of a text delimit them.

  A text is read from left to right. Outside a comment `/*` opens one, inside a comment `*/`
  closes it, and a character belongs to one delimiter at most, so `/*/` opens a comment and
  leaves it open. `leavesComment_append` cuts a reading at a place where no delimiter is cut.
-/
import StyleScope.Text.Basic

namespace StyleScope.Text

/-- Whether a comment is open after a text, if one was open before it or not. -/
def leavesComment : Bool → Text → Bool
  | inside, [] => inside
  | false, '/' :: '*' :: rest => leavesComment true rest
  | true, '*' :: '/' :: rest => leavesComment false rest
  | inside, _ :: rest => leavesComment inside rest

/-- No text that goes on with a line feed goes on with another character. -/
theorem head_append_newline {rest b r : Text} {c : Char} (hc : c ≠ '\n')
    (h : rest ++ '\n' :: b = c :: r) : ∃ more, rest = c :: more := by
  cases rest with
  | nil => exact absurd (List.cons.inj h).1.symm hc
  | cons d more =>
    obtain ⟨rfl, -⟩ := List.cons.inj h
    exact ⟨more, rfl⟩

/-- Line feeds cut no delimiter, so behind one the reading goes on as it stands before it. -/
theorem leavesComment_append (inside : Bool) (a b : Text) :
    leavesComment inside (a ++ '\n' :: b) = leavesComment (leavesComment inside a) b := by
  fun_induction leavesComment inside a with
  | case1 inside => cases inside <;> simp [leavesComment]
  | case2 rest ih => simpa [leavesComment] using ih
  | case3 rest ih => simpa [leavesComment] using ih
  | case4 inside c rest hopen hclose ih =>
    -- The line feed completes no delimiter that starts at `c`.
    rw [List.cons_append, leavesComment, ih]
    · intro r hi hc hr
      obtain ⟨more, rfl⟩ := head_append_newline (by decide) hr
      exact hopen more hi hc rfl
    · intro r hi hc hr
      obtain ⟨more, rfl⟩ := head_append_newline (by decide) hr
      exact hclose more hi hc rfl

end StyleScope.Text
