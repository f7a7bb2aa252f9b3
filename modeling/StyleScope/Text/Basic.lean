/-
  StyleScope.Text.Basic

  Text as a list of characters: its blanks, its tokens and its lines.

  `isBlank` is the Unicode property White_Space (25 characters). A text splits into its
  `indent`, the blanks it starts with, and `trimStart`, the rest (`indent_append_trimStart`).
  `trim` takes the blanks off both ends: what it leaves neither starts nor ends with a blank
  (`not_isBlank_head_trimStart`, `trimEnd_append_blanks`).

  Lines are what stands between line feeds, so a text has one line more than it has line feeds
  and `joinLines` puts them together again (`joinLines_lines`, `lines_joinLines`). A line is its
  `body` followed by its `ending`, which is empty or one carriage return (`body_append_ending`).
-/

namespace StyleScope

/-- Text is the list of its characters. -/
abbrev Text := List Char

namespace Text

/-! ## The class of blanks -/

/-- The Unicode property White_Space: tab to carriage return, the space, and the blanks outside
    ASCII. The zero-width space and the byte order mark do not belong to it. -/
def isBlank (c : Char) : Bool :=
  let n := c.toNat
  decide (0x09 ≤ n ∧ n ≤ 0x0D) || n == 0x20 || n == 0x85 || n == 0xA0 || n == 0x1680 ||
    decide (0x2000 ≤ n ∧ n ≤ 0x200A) || n == 0x2028 || n == 0x2029 || n == 0x202F ||
    n == 0x205F || n == 0x3000

/-! ## Blanks at the ends -/

/-- The blanks that a text starts with. -/
def indent (t : Text) : Text := t.takeWhile isBlank

/-- A text without the blanks that it starts with. -/
def trimStart (t : Text) : Text := t.dropWhile isBlank

/-- A text without the blanks that it ends with. -/
def trimEnd (t : Text) : Text := (t.reverse.dropWhile isBlank).reverse

/-- A text without the blanks at its two ends. -/
def trim (t : Text) : Text := trimEnd (trimStart t)

/-- Taking the indentation off a text loses nothing else. -/
theorem indent_append_trimStart (t : Text) : indent t ++ trimStart t = t :=
  List.takeWhile_append_dropWhile

/-- The indentation is made of blanks. -/
theorem isBlank_of_mem_indent {t : Text} {c : Char} (h : c ∈ indent t) : isBlank c = true := by
  induction t with
  | nil => simp [indent] at h
  | cons d r ih =>
    by_cases hd : isBlank d
    · simp only [indent, List.takeWhile_cons, hd, if_true, List.mem_cons] at h
      rcases h with rfl | h
      · exact hd
      · exact ih h
    · simp [indent, hd] at h

/-- What is left without the indentation starts with no blank. -/
theorem not_isBlank_head_trimStart {t r : Text} {c : Char} (h : trimStart t = c :: r) :
    isBlank c = false := by
  induction t with
  | nil => simp [trimStart] at h
  | cons d s ih =>
    by_cases hd : isBlank d
    · exact ih (by simpa [trimStart, hd] using h)
    · simp only [trimStart, List.dropWhile_cons, hd] at h
      simp_all

/-- Blanks in front of a text do not show once it is trimmed at its start. -/
theorem trimStart_blanks_append {w : Text} (hw : ∀ c ∈ w, isBlank c = true) (t : Text) :
    trimStart (w ++ t) = trimStart t := by
  induction w with
  | nil => rfl
  | cons c r ih =>
    have hc : isBlank c = true := hw c (by simp)
    have hr : trimStart (r ++ t) = trimStart t := ih fun d hd => hw d (by simp [hd])
    simpa [trimStart, hc] using hr

/-- Blanks behind a text do not show once it is trimmed at its end. -/
theorem trimEnd_append_blanks {w : Text} (hw : ∀ c ∈ w, isBlank c = true) (t : Text) :
    trimEnd (t ++ w) = trimEnd t := by
  have h := trimStart_blanks_append (w := w.reverse) (fun c hc => hw c (by simpa using hc))
    t.reverse
  simpa [trimEnd, trimStart] using congrArg List.reverse h

/-! ## Tokens -/

/-- The token stands somewhere in the text. -/
def Occurs (token t : Text) : Prop := token <:+: t

instance (token t : Text) : Decidable (Occurs token t) :=
  List.instDecidableIsInfixOfDecidableEq token t

theorem occurs_iff {token t : Text} : Occurs token t ↔ ∃ a b, a ++ token ++ b = t := Iff.rfl

/-! ## Line feeds -/

/-- The lines of a text: what stands between its line feeds. -/
def lines (t : Text) : List Text := t.splitOn '\n'

/-- Lines put together with a line feed between any two. -/
def joinLines (ls : List Text) : Text := ['\n'].intercalate ls

theorem lines_ne_nil (t : Text) : lines t ≠ [] := List.splitOn_ne_nil '\n' t

theorem joinLines_lines (t : Text) : joinLines (lines t) = t := List.intercalate_splitOn '\n'

theorem lines_joinLines {ls : List Text} (h : ∀ l ∈ ls, '\n' ∉ l) (hne : ls ≠ []) :
    lines (joinLines ls) = ls := List.splitOn_intercalate '\n' h hne

/-! ## The carriage return at the end of a line -/

/-- A line without one carriage return at its end. -/
def body (line : Text) : Text :=
  if line.getLast? = some '\r' then line.dropLast else line

/-- The carriage return that a line ends in, if it ends in one. -/
def ending (line : Text) : Text :=
  if line.getLast? = some '\r' then ['\r'] else []

theorem body_append_ending (line : Text) : body line ++ ending line = line := by
  by_cases h : line.getLast? = some '\r'
  · obtain ⟨r, rfl⟩ := List.getLast?_eq_some_iff.1 h
    simp [body, ending]
  · simp [body, ending, h]

end Text

end StyleScope
