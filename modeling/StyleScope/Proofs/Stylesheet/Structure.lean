/-
  StyleScope.Proofs.Stylesheet.Structure

  What scoping keeps of the characters of a stylesheet.

  A line that is given the wrapper shows the same commas and the same block as before, and the
  wrapper in front of each of its selectors (`filter_wrapped`). The wrapper holds no brace, comma or
  blank. So every line keeps its marks (`filter_isMark_output`), its visible characters stay in order
  (`visible_sublist_output`), and it grows by one wrapper for each selector if it changes
  (`length_visible_output`). The whole text is put together from its lines
  (`scope_keeps_structure`).
-/
import StyleScope.Proofs.RuleLine.Visible
import StyleScope.Proofs.Stylesheet.Record

namespace StyleScope

open Text

/-- The selector of a class holds none of the marks that divide a line. -/
theorem WrapperClass.filter_isMark_selector (w : WrapperClass) : w.selector.filter isMark = [] := by
  apply List.filter_eq_nil_iff.2
  intro c hc
  have hname := isNameChar_of_mem_selector w hc
  simp only [isNameChar, Bool.and_eq_true, bne_iff_ne] at hname
  obtain ⟨⟨⟨-, hopen⟩, hclose⟩, hcomma⟩ := hname
  simp [isMark, hopen, hclose, hcomma]

namespace Stylesheet

namespace ScannedLine

variable {keep : Char → Bool} {w : WrapperClass} {l : ScannedLine} {t : Text}

/-- The selectors of a line. -/
def selectors (l : ScannedLine) : List Text :=
  SelectorList.fragments (RuleLine.listText (body l.text))

/-- A line that is given the wrapper shows its selectors between commas and a rest, and then the same
    with the wrapper in front of each selector. -/
theorem filter_wrapped (hk : SkipsBlanks keep) (h : l.wrapped? w.selector = some t) :
    ∃ rest, l.text.filter keep =
        ([','].filter keep).intercalate (l.selectors.map (·.filter keep)) ++ rest ∧
      (l.output w.selector).filter keep = ([','].filter keep).intercalate
        ((l.selectors.map (·.filter keep)).map (w.selector.filter keep ++ ·)) ++ rest := by
  obtain ⟨-, out, hout, rfl⟩ := wrapped?_eq_some_iff.1 h
  refine ⟨(RuleLine.blockText (body l.text)).filter keep ++ (ending l.text).filter keep, ?_, ?_⟩
  · -- The carriage return at the end is on both sides, so it is part of the rest.
    conv_lhs => rw [← body_append_ending l.text]
    rw [List.filter_append, ← RuleLine.filter_parts hk (body l.text),
      ← SelectorList.filter_fragments hk, List.append_assoc]
    rfl
  · rw [output_of_wrapped? h, List.filter_append, RuleLine.filter_of_scopeText? hk hout,
      SelectorList.filter_scope hk, List.append_assoc]
    rfl

theorem filter_isMark_output (w : WrapperClass) (l : ScannedLine) :
    (l.output w.selector).filter isMark = l.text.filter isMark := by
  cases h : l.wrapped? w.selector with
  | none => rw [output_of_wrapped?_eq_none h]
  | some t =>
    obtain ⟨rest, htext, houtput⟩ := filter_wrapped skipsBlanks_isMark h
    have hnone : ∀ pieces : List Text, pieces.map (w.selector.filter isMark ++ ·) = pieces := by
      simp [w.filter_isMark_selector]
    rw [htext, houtput, hnone]

theorem visible_sublist_output (w : WrapperClass) (l : ScannedLine) :
    (visible l.text).Sublist (visible (l.output w.selector)) := by
  cases h : l.wrapped? w.selector with
  | none =>
    rw [output_of_wrapped?_eq_none h]
  | some t =>
    obtain ⟨rest, htext, houtput⟩ := filter_wrapped skipsBlanks_visible h
    rw [visible, visible, htext, houtput]
    exact (intercalate_sublist _ _ _).append_right rest

/-- A line that changes grows by one wrapper for each of its selectors. -/
theorem length_visible_output (w : WrapperClass) (l : ScannedLine) :
    (visible (l.output w.selector)).length =
      (visible l.text).length +
        if l.output w.selector ≠ l.text then w.selector.length * l.selectors.length else 0 := by
  cases h : l.wrapped? w.selector with
  | none =>
    have hsame := output_of_wrapped?_eq_none h
    rw [if_neg (not_not.2 hsame), hsame]
    rfl
  | some t =>
    have hchanged : l.output w.selector ≠ l.text := by
      rw [output_ne_text_iff, h]
      rfl
    obtain ⟨rest, htext, houtput⟩ := filter_wrapped skipsBlanks_visible h
    have hvisible : w.selector.filter (fun c => !isBlank c) = w.selector := w.visible_selector
    rw [if_pos hchanged, visible, visible, htext, houtput, hvisible, List.length_append,
      List.length_append, length_intercalate_map_append, List.length_map]
    omega

end ScannedLine

/-! ## All lines -/

/-- The selectors of the lines that change. -/
def changedSelectors (w : WrapperClass) (record : List ScannedLine) : List Text :=
  (record.filter fun l => l.output w.selector ≠ l.text).flatMap ScannedLine.selectors

/-- The lines grow by one wrapper for each selector of those that change. -/
theorem length_flatMap_visible (w : WrapperClass) (record : List ScannedLine) :
    (record.flatMap fun l => visible (l.output w.selector)).length =
      (record.flatMap fun l => visible l.text).length +
        w.selector.length * (changedSelectors w record).length := by
  unfold changedSelectors
  induction record with
  | nil => rfl
  | cons l rest ih =>
    have hline := ScannedLine.length_visible_output w l
    rw [List.flatMap_cons, List.flatMap_cons, List.length_append, List.length_append, ih, hline]
    by_cases hchanged : l.output w.selector ≠ l.text
    · rw [if_pos hchanged, List.filter_cons_of_pos (by simpa using hchanged), List.flatMap_cons,
        List.length_append, Nat.mul_add]
      omega
    · rw [if_neg hchanged, List.filter_cons_of_neg (by simpa using hchanged)]
      omega

/-! ## The whole text -/

/-- A stylesheet is made of the lines of its record. -/
theorem joinLines_map_text (state : ScanState) (css : Text) :
    joinLines ((scan state (lines css)).map ScannedLine.text) = css := by
  rw [map_text_scan, joinLines_lines]

theorem visible_eq_flatMap (state : ScanState) (css : Text) :
    visible css = (scan state (lines css)).flatMap fun l => visible l.text := by
  have hjoin := visible_joinLines ((scan state (lines css)).map ScannedLine.text)
  rw [joinLines_map_text, List.flatMap_map] at hjoin
  exact hjoin

theorem visible_scope_eq_flatMap (w : WrapperClass) (css : Text) :
    visible (scope w.selector css).text =
      (scan .normal (lines css)).flatMap fun l => visible (l.output w.selector) := by
  have hjoin := visible_joinLines ((scan .normal (lines css)).map (·.output w.selector))
  rw [List.flatMap_map] at hjoin
  exact hjoin

theorem filter_isDivider_scope (w : WrapperClass) (css : Text) :
    (scope w.selector css).text.filter isDivider = css.filter isDivider := by
  have hfeed : ∀ l ∈ scan .normal (lines css), '\n' ∉ l.text := by
    intro l hl
    obtain ⟨s, line, hline, rfl⟩ := exists_read_of_mem_scan hl
    exact newline_notMem_of_mem_lines hline
  have hmarks : ((scan .normal (lines css)).map (·.output w.selector)).map (·.filter isMark) =
      ((scan .normal (lines css)).map ScannedLine.text).map (·.filter isMark) := by
    rw [List.map_map, List.map_map]
    exact List.map_congr_left fun l _ => ScannedLine.filter_isMark_output w l
  have htext := dividers_joinLines ((scan .normal (lines css)).map ScannedLine.text)
    (List.forall_mem_map.2 hfeed)
  have hout := dividers_joinLines ((scan .normal (lines css)).map (·.output w.selector))
    (List.forall_mem_map.2 fun l hl => ScannedLine.newline_notMem_output (hfeed l hl))
  rw [joinLines_map_text] at htext
  rw [htext, ← hmarks]
  exact hout

/-- Scoping keeps all braces, commas and line feeds of a stylesheet in their order. It keeps all
    visible characters in their order too, and what it puts between them is one wrapper for each
    selector of the lines that change. -/
theorem scope_keeps_structure (w : WrapperClass) (css : Text) :
    (scope w.selector css).text.filter isDivider = css.filter isDivider ∧
      (visible css).Sublist (visible (scope w.selector css).text) ∧
      (visible (scope w.selector css).text).length = (visible css).length +
        w.selector.length * (changedSelectors w (scan .normal (lines css))).length := by
  have hbefore := visible_eq_flatMap .normal css
  have hafter := visible_scope_eq_flatMap w css
  refine ⟨filter_isDivider_scope w css, ?_, ?_⟩
  · rw [hbefore, hafter]
    exact List.Sublist.flatMap_right _ fun l _ => ScannedLine.visible_sublist_output w l
  · rw [hbefore, hafter]
    exact length_flatMap_visible w _

end Stylesheet

end StyleScope
