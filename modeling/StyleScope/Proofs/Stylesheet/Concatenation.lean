/-
  StyleScope.Proofs.Stylesheet.Concatenation

  Stylesheets put together from two texts.

  With a line feed between them, the lines of two texts are the lines of the first and then those of
  the second. So scoping both is scoping the first and then the second from the state that the first
  leaves (`scopeFrom_append`): texts, reports and records are put together in the same way
  (`Scoped.followedBy`). If that state is the top level, the second text is scoped as if it stood
  alone (`scope_append_of_normal`). Whatever came before, a line that closes a comment and a lone `}`
  behind it take the scan back to the top level (`lastState_closer_brace`).
-/
import StyleScope.Proofs.Stylesheet.Record

namespace StyleScope.Stylesheet

open Text ScanState

variable {wrapper a b c x y : Text} {s : ScanState}

/-! ## One text behind another -/

/-- Two texts that have been scoped, put together with a line feed between them. -/
def Scoped.followedBy (first second : Scoped) : Scoped where
  text := first.text ++ '\n' :: second.text
  report := first.report + second.report
  record := first.record ++ second.record

/-- The second text is read in the state that the first leaves. -/
theorem scopeFrom_append (s : ScanState) (wrapper a b : Text) :
    scopeFrom s wrapper (a ++ '\n' :: b) =
      (scopeFrom s wrapper a).followedBy (scopeFrom (lastState s (lines a)) wrapper b) := by
  have hscan : scan s (lines (a ++ '\n' :: b)) =
      scan s (lines a) ++ scan (lastState s (lines a)) (lines b) := by
    rw [lines_append_newline, scan_append]
  have htext : joinLines ((scan s (lines (a ++ '\n' :: b))).map (·.output wrapper)) =
      joinLines ((scan s (lines a)).map (·.output wrapper)) ++
        '\n' :: joinLines ((scan (lastState s (lines a)) (lines b)).map (·.output wrapper)) := by
    rw [hscan, List.map_append]
    exact joinLines_append (map_output_scan_ne_nil s wrapper a) (map_output_scan_ne_nil _ wrapper b)
  have hreport : Report.ofScan wrapper (scan s (lines (a ++ '\n' :: b))) =
      Report.ofScan wrapper (scan s (lines a)) +
        Report.ofScan wrapper (scan (lastState s (lines a)) (lines b)) := by
    rw [hscan, Report.ofScan_append]
  rw [scopeFrom, htext, hreport, hscan]
  rfl

theorem scope_append_of_normal (h : lastState .normal (lines a) = .normal) (wrapper b : Text) :
    scope wrapper (a ++ '\n' :: b) = (scope wrapper a).followedBy (scope wrapper b) := by
  have happend := scopeFrom_append .normal wrapper a b
  rw [h] at happend
  exact happend

/-! ## Back to the top level -/

/-- A lone `}` outside comments leaves no block open. -/
theorem classify_lone_brace (hs : s.inComment = false) (h : trim y = ['}']) :
    (s.classify y).2 = .normal := by
  have hactive : s.IsActive y := isActive_of_lone_brace hs h
  have hrule : (s.classify y).2.atRule? = none := by
    rw [atRule?_classify, if_pos hactive, h, openedRule?_lone_brace, if_pos rfl]
    rfl
  have hcomment : (s.classify y).2.inComment = false := by
    rw [Bool.eq_false_iff, Ne, inComment_classify_iff, hs]
    simp [hactive.2.1]
  exact eq_of_atRule?_inComment hrule hcomment

/-- The first line closes a comment that may be open, and the second a block. -/
theorem lastState_closer_brace (s : ScanState) (hx : ¬ IsLiteral (trim x))
    (hclose : Occurs commentCloser x) (hy : trim y = ['}']) : lastState s [x, y] = .normal := by
  have hfirst : (s.classify (body x)).2 = outside s.atRule? := by
    rw [classify_body, classify_closer hx hclose]
  have hsecond : ((outside s.atRule?).classify (body y)).2 = .normal := by
    rw [classify_body]
    exact classify_lone_brace (inComment_outside s.atRule?) hy
  rw [lastState_cons, hfirst, lastState_cons, hsecond]
  rfl

theorem lastState_lines_closer_brace (s : ScanState) (a : Text) (hxn : '\n' ∉ x)
    (hx : ¬ IsLiteral (trim x)) (hclose : Occurs commentCloser x) (hyn : '\n' ∉ y)
    (hy : trim y = ['}']) : lastState s (lines (a ++ '\n' :: (x ++ '\n' :: y))) = .normal := by
  rw [lines_append_newline, lines_append_newline, lines_of_newline_notMem hxn,
    lines_of_newline_notMem hyn, lastState_append]
  exact lastState_closer_brace _ hx hclose hy

/-! ## Piece by piece -/

/-- Two texts with a line feed between them are scoped one after the other, the second from the state
    that the first leaves: what comes out, the report and the record are those of the two. The second
    is scoped as if it stood alone if that state is the top level, which it always is behind a line
    that closes a comment, if it is no literal line, and a lone `}`. -/
theorem scope_append (wrapper a b : Text) :
    ((scope wrapper (a ++ '\n' :: b)).text = (scope wrapper a).text ++
        '\n' :: (scopeFrom (lastState .normal (lines a)) wrapper b).text ∧
      (scope wrapper (a ++ '\n' :: b)).report = (scope wrapper a).report +
        (scopeFrom (lastState .normal (lines a)) wrapper b).report ∧
      (scope wrapper (a ++ '\n' :: b)).record = (scope wrapper a).record ++
        (scopeFrom (lastState .normal (lines a)) wrapper b).record) ∧
    (lastState .normal (lines a) = .normal →
      (scope wrapper (a ++ '\n' :: b)).text =
          (scope wrapper a).text ++ '\n' :: (scope wrapper b).text ∧
        (scope wrapper (a ++ '\n' :: b)).report =
          (scope wrapper a).report + (scope wrapper b).report) ∧
    ∀ x y c : Text, '\n' ∉ x → ¬ IsLiteral (trim x) → Occurs commentCloser x → '\n' ∉ y →
      trim y = ['}'] →
      lastState .normal (lines (a ++ '\n' :: (x ++ '\n' :: y))) = .normal ∧
      (scope wrapper (a ++ '\n' :: (x ++ '\n' :: y) ++ '\n' :: c)).text =
        (scope wrapper (a ++ '\n' :: (x ++ '\n' :: y))).text ++ '\n' :: (scope wrapper c).text ∧
      (scope wrapper (a ++ '\n' :: (x ++ '\n' :: y) ++ '\n' :: c)).report =
        (scope wrapper (a ++ '\n' :: (x ++ '\n' :: y))).report + (scope wrapper c).report := by
  have happend := scopeFrom_append .normal wrapper a b
  refine ⟨⟨congrArg Scoped.text happend, congrArg Scoped.report happend,
    congrArg Scoped.record happend⟩, fun h => ?_, fun x y c hxn hx hclose hyn hy => ?_⟩
  · have hnormal := scope_append_of_normal h wrapper b
    exact ⟨congrArg Scoped.text hnormal, congrArg Scoped.report hnormal⟩
  · have hback := lastState_lines_closer_brace .normal a hxn hx hclose hyn hy
    have hnormal := scope_append_of_normal hback wrapper c
    exact ⟨hback, congrArg Scoped.text hnormal, congrArg Scoped.report hnormal⟩

/-- A comment in the block of a media rule is left open, and a rule behind the two lines that close
    both is given the wrapper. -/
theorem scope_append_plainRule :
    lastState .normal (lines (AtRule.media.keyword ++ '\n' :: 'x' :: commentOpener)) =
        .comment (some .media) ∧
      ¬ IsLiteral (trim ('x' :: commentCloser)) ∧
      lastState .normal (lines (AtRule.media.keyword ++ '\n' :: 'x' :: commentOpener ++
        '\n' :: ('x' :: commentCloser ++ '\n' :: ['}']))) = .normal ∧
      (scope WrapperClass.dash.selector (AtRule.media.keyword ++ '\n' :: 'x' :: commentOpener ++
        '\n' :: ('x' :: commentCloser ++ '\n' :: ['}']) ++ '\n' :: RuleLine.plainRule)).text =
        (scope WrapperClass.dash.selector (AtRule.media.keyword ++ '\n' :: 'x' :: commentOpener ++
          '\n' :: ('x' :: commentCloser ++ '\n' :: ['}']))).text ++
        '\n' :: (WrapperClass.dash.selector ++ ' ' :: RuleLine.plainRule) ∧
      (scope WrapperClass.dash.selector (['}'] ++ '\n' :: RuleLine.plainRule)).text =
        ['}'] ++ '\n' :: (WrapperClass.dash.selector ++ ' ' :: RuleLine.plainRule) := by
  have halone : (scope WrapperClass.dash.selector RuleLine.plainRule).text =
      WrapperClass.dash.selector ++ ' ' :: RuleLine.plainRule := by decide
  obtain ⟨hstate, htext, -⟩ := (scope_append WrapperClass.dash.selector
    (AtRule.media.keyword ++ '\n' :: 'x' :: commentOpener) []).2.2 ('x' :: commentCloser) ['}']
    RuleLine.plainRule (by decide) (by decide) (by decide) (by decide) (by decide)
  have hbrace := ((scope_append WrapperClass.dash.selector ['}'] RuleLine.plainRule).2.1
    (by decide)).1
  refine ⟨by decide, by decide, hstate, ?_, ?_⟩
  · rw [htext, halone]
  · rw [hbrace, halone]
    decide

end StyleScope.Stylesheet
