/-
  StyleScope.Proofs.Text.Visible

  Texts seen through a choice of their characters.

  A choice that takes no blank (`SkipsBlanks`) does not see the trimming of a text (`filter_trim`),
  and sees pieces put together as the pieces that it sees (`filter_intercalate`). Two such choices
  matter for stylesheets: the visible characters, and the marks that divide a line into selectors
  and blocks. Line feeds are blanks, so what divides a whole text is told from its lines
  (`dividers_joinLines`).
-/
import Mathlib.Data.List.Flatten
import StyleScope.Proofs.Text.Pieces

namespace StyleScope.Text

variable {keep : Char → Bool} {sep t w : Text}

/-! ## Choices without blanks -/

/-- A choice of characters that takes no blank. -/
def SkipsBlanks (keep : Char → Bool) : Prop := ∀ c, isBlank c = true → keep c = false

theorem SkipsBlanks.filter_blanks (h : SkipsBlanks keep) (hw : ∀ c ∈ w, isBlank c = true) :
    w.filter keep = [] := by
  apply List.filter_eq_nil_iff.2
  intro c hc
  simp [h c (hw c hc)]

theorem SkipsBlanks.filter_trim (h : SkipsBlanks keep) (t : Text) :
    (trim t).filter keep = t.filter keep := by
  obtain ⟨b, hb, ht⟩ := exists_eq_indent_append_trim t
  have hindent : (indent t).filter keep = [] := h.filter_blanks fun c hc => isBlank_of_mem_indent hc
  have hbehind : b.filter keep = [] := h.filter_blanks hb
  conv_rhs => rw [ht]
  rw [List.filter_append, List.filter_append, hindent, hbehind, List.nil_append, List.append_nil]

theorem SkipsBlanks.filter_trimEnd (h : SkipsBlanks keep) (t : Text) :
    (trimEnd t).filter keep = t.filter keep := by
  obtain ⟨b, hb, ht⟩ := exists_trimEnd_append t
  have hbehind : b.filter keep = [] := h.filter_blanks hb
  conv_rhs => rw [ht]
  rw [List.filter_append, hbehind, List.append_nil]

/-! ## Pieces -/

theorem filter_intercalate (keep : Char → Bool) (sep : Text) (pieces : List Text) :
    (sep.intercalate pieces).filter keep =
      (sep.filter keep).intercalate (pieces.map (·.filter keep)) := by
  induction pieces with
  | nil => rfl
  | cons p rest ih =>
    cases rest with
    | nil => simp
    | cons q more =>
      rw [List.intercalate_cons_cons, List.filter_append, List.filter_append, ih]
      simp only [List.map_cons, List.intercalate_cons_cons]

/-- Something put in front of each piece loses nothing of the pieces. -/
theorem intercalate_sublist (sep w : Text) (pieces : List Text) :
    (sep.intercalate pieces).Sublist (sep.intercalate (pieces.map (w ++ ·))) := by
  induction pieces with
  | nil => exact List.Sublist.refl _
  | cons p rest ih =>
    cases rest with
    | nil => simp
    | cons q more =>
      rw [List.map_cons, List.map_cons, List.intercalate_cons_cons, List.intercalate_cons_cons]
      exact ((List.sublist_append_right w p).append_right sep).append ih

theorem length_intercalate_map_append (sep w : Text) (pieces : List Text) :
    (sep.intercalate (pieces.map (w ++ ·))).length =
      (sep.intercalate pieces).length + w.length * pieces.length := by
  induction pieces with
  | nil => rfl
  | cons p rest ih =>
    cases rest with
    | nil =>
      simp
      omega
    | cons q more =>
      rw [List.map_cons] at ih ⊢
      rw [List.map_cons, List.intercalate_cons_cons, List.intercalate_cons_cons]
      simp only [List.length_append, List.length_cons, ih, Nat.mul_add, Nat.mul_one]
      omega

/-! ## What is seen of a stylesheet -/

/-- The characters of a text that are no blanks. -/
def visible (t : Text) : Text := t.filter fun c => !isBlank c

/-- A brace or a comma. -/
def isMark (c : Char) : Bool := c == '{' || c == '}' || c == ','

/-- A character that divides a stylesheet: a brace, a comma or a line feed. -/
def isDivider (c : Char) : Bool := isMark c || c == '\n'

theorem skipsBlanks_visible : SkipsBlanks fun c => !isBlank c := by
  intro c hc
  simp [hc]

theorem skipsBlanks_isMark : SkipsBlanks isMark := by
  intro c hc
  have hopen : c ≠ '{' := ne_of_isBlank hc (by decide)
  have hclose : c ≠ '}' := ne_of_isBlank hc (by decide)
  have hcomma : c ≠ ',' := ne_of_isBlank hc (by decide)
  simp [isMark, hopen, hclose, hcomma]

theorem filter_isDivider (h : '\n' ∉ t) : t.filter isDivider = t.filter isMark := by
  apply List.filter_congr
  intro c hc
  have hfeed : c ≠ '\n' := fun heq => h (heq ▸ hc)
  simp [isDivider, hfeed]

/-- Lines are divided by their marks, and a text by its lines. -/
theorem dividers_joinLines (ls : List Text) (h : ∀ l ∈ ls, '\n' ∉ l) :
    (joinLines ls).filter isDivider = ['\n'].intercalate (ls.map (·.filter isMark)) := by
  have hlines : ls.map (·.filter isDivider) = ls.map (·.filter isMark) :=
    List.map_congr_left fun l hl => filter_isDivider (h l hl)
  rw [joinLines, filter_intercalate, hlines]
  rfl

theorem visible_joinLines (ls : List Text) : visible (joinLines ls) = ls.flatMap visible := by
  induction ls with
  | nil => rfl
  | cons l rest ih =>
    by_cases hrest : rest = []
    · subst hrest
      simp [joinLines]
    · have hfeed : visible ['\n'] = [] := by decide
      rw [joinLines_cons l hrest, ← List.singleton_append, List.flatMap_cons, ← ih]
      unfold visible at hfeed ⊢
      rw [List.filter_append, List.filter_append, hfeed, List.nil_append]

end StyleScope.Text
