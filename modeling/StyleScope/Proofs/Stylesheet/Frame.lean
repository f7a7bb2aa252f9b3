/-
  StyleScope.Proofs.Stylesheet.Frame

  What scoping leaves alone, and how its report counts what it changes.

  The two counts of a report share out the selector lines of a record (`wrapped_add_skipped`). Since
  a line that is given a wrapper always changes, the first of them counts the places at which the
  lines that come out differ from those that went in (`wrapped_eq_countP_range`). So it is zero just
  when the text is what it was (`wrapped_eq_zero_iff`).
-/
import StyleScope.Proofs.Stylesheet.Record

namespace StyleScope.Stylesheet

open Text

variable {w : WrapperClass} {state : ScanState} {css : Text}

/-! ## The counts of a record -/

theorem wrapped_add_skipped (wrapper : Text) (record : List ScannedLine) :
    (Report.ofScan wrapper record).wrapped + (Report.ofScan wrapper record).skipped =
      record.countP (·.kind = .selector) := by
  induction record with
  | nil => rfl
  | cons l rest ih =>
    -- A line is counted on one side just when it is counted on the other.
    have hline : (if (l.wrapped? wrapper).isSome = true then 1 else 0) +
        (if l.kind = .selector ∧ (l.wrapped? wrapper).isNone = true then 1 else 0) =
          if l.kind = .selector then 1 else 0 := by
      cases hl : l.wrapped? wrapper with
      | none => simp
      | some t => simp [(ScannedLine.wrapped?_eq_some_iff.1 hl).1]
    simp only [Report.ofScan, List.countP_cons, decide_eq_true_eq] at ih ⊢
    omega

theorem wrapped_eq_countP_ne (w : WrapperClass) (record : List ScannedLine) :
    (Report.ofScan w.selector record).wrapped =
      record.countP fun l => l.text ≠ l.output w.selector := by
  refine List.countP_congr fun l _ => ?_
  rw [decide_eq_true_iff, ne_comm, ScannedLine.output_ne_text_iff]

/-- Counting the places at which two lists made from one record differ. -/
theorem countP_range_ne (record : List ScannedLine) (f g : ScannedLine → Text) :
    ((List.range record.length).countP fun i => (record.map f)[i]? ≠ (record.map g)[i]?) =
      record.countP fun l => f l ≠ g l := by
  induction record with
  | nil => rfl
  | cons l rest ih =>
    -- The places behind the first line are those of the rest, each one further on.
    rw [List.length_cons, List.range_succ_eq_map, List.countP_cons, List.countP_map,
      List.countP_cons, ← ih]
    congr 1
    simp

/-! ## A whole text -/

theorem length_lines_scopeFrom (state : ScanState) (w : WrapperClass) (css : Text) :
    (lines (scopeFrom state w.selector css).text).length = (lines css).length := by
  rw [lines_scopeFrom, List.length_map, length_scan]

theorem wrapped_eq_countP_range (state : ScanState) (w : WrapperClass) (css : Text) :
    (scopeFrom state w.selector css).report.wrapped =
      (List.range (lines css).length).countP fun i =>
        (lines css)[i]? ≠ (lines (scopeFrom state w.selector css).text)[i]? := by
  have hcount := countP_range_ne (scan state (lines css)) ScannedLine.text (·.output w.selector)
  rw [map_text_scan, length_scan] at hcount
  rw [lines_scopeFrom, hcount]
  exact wrapped_eq_countP_ne w (scan state (lines css))

theorem wrapped_eq_zero_iff :
    (scopeFrom state w.selector css).report.wrapped = 0 ↔
      (scopeFrom state w.selector css).text = css := by
  rw [wrapped_eq_countP_range, List.countP_eq_zero]
  constructor
  · intro h
    refine eq_of_lines_eq (List.ext_getElem? fun i => ?_)
    by_cases hi : i < (lines css).length
    · have hsame := h i (List.mem_range.2 hi)
      simpa using Eq.symm (not_not.1 fun hne => hsame (decide_eq_true hne))
    -- Behind the last line there is nothing in either text.
    · have hout : ¬ i < (lines (scopeFrom state w.selector css).text).length := by
        rwa [length_lines_scopeFrom]
      rw [List.getElem?_eq_none (Nat.le_of_not_lt hi),
        List.getElem?_eq_none (Nat.le_of_not_lt hout)]
  · intro h i _
    rw [h]
    simp

/-- Lines are neither added nor lost, and only selector lines can change. The report counts the
    lines, and its two other counts are those of the selector lines that changed and of those that
    did not. -/
theorem scope_frame_report (w : WrapperClass) (css : Text) :
    (lines (scope w.selector css).text).length = (lines css).length ∧
      (scope w.selector css).report.lines = (lines css).length ∧
      (∀ (i : Nat) (l : ScannedLine), (scan .normal (lines css))[i]? = some l → l.kind ≠ .selector →
        (lines (scope w.selector css).text)[i]? = (lines css)[i]?) ∧
      (scope w.selector css).report.wrapped =
        ((List.range (lines css).length).countP fun i =>
          (lines css)[i]? ≠ (lines (scope w.selector css).text)[i]?) ∧
      (scope w.selector css).report.wrapped + (scope w.selector css).report.skipped =
        (scan .normal (lines css)).countP (·.kind = .selector) ∧
      ((scope w.selector css).report.wrapped = 0 ↔ (scope w.selector css).text = css) := by
  refine ⟨length_lines_scopeFrom .normal w css, length_scan .normal (lines css), ?_,
    wrapped_eq_countP_range .normal w css, wrapped_add_skipped w.selector _, wrapped_eq_zero_iff⟩
  intro i l hl hk
  have hline : (lines css)[i]? = some l.text := by
    have htext := congrArg (·[i]?) (map_text_scan .normal (lines css))
    simpa [hl] using htext.symm
  rw [lines_scope, List.getElem?_map, hl, hline]
  exact congrArg some (ScannedLine.output_of_kind_ne hk)

/-- The lone brace behind a rule keeps its carriage return. -/
theorem scope_frame_report_carriageReturn :
    (ScannedLine.read .normal ['}', '\r']).kind ≠ .selector ∧
      (lines (scope WrapperClass.dash.selector
        (joinLines [RuleLine.plainRule ++ ['\r'], ['}', '\r']])).text)[1]? =
          some ['}', '\r'] := by
  have hlines : lines (joinLines [RuleLine.plainRule ++ ['\r'], ['}', '\r']]) =
      [RuleLine.plainRule ++ ['\r'], ['}', '\r']] := lines_joinLines (by decide) (by decide)
  have hkind : (ScannedLine.read .normal ['}', '\r']).kind ≠ .selector := by decide
  have hentry : (scan .normal (lines (joinLines [RuleLine.plainRule ++ ['\r'], ['}', '\r']])))[1]? =
      some (.read .normal ['}', '\r']) := by
    rw [hlines]
    decide
  refine ⟨hkind, ?_⟩
  rw [(scope_frame_report WrapperClass.dash _).2.2.1 1 _ hentry hkind, hlines]
  rfl

end StyleScope.Stylesheet
