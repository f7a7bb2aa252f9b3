/-
  StyleScope.Proofs.Stylesheet.Twice

  Scoping under one class and then under another.

  Every line of the second text is what the second class makes of what the first made of the line
  (`getElem?_scope_scope`), because a wrapper that holds no token of the scanner leaves every line
  the kind that it was. So a line that the first class changed is now nested under the two, the
  second one outside (`output_read_output_nested`), and a line that the first class left alone is
  seen by the second as it was. The second class may neither start the first nor go on behind it
  with a colon.
-/
import StyleScope.Proofs.RuleLine.Rescoped
import StyleScope.Proofs.Stylesheet.History
import StyleScope.Proofs.Stylesheet.Reclassification

namespace StyleScope.Stylesheet

open Text RuleLine

variable {v w : WrapperClass} {css line : Text} {k : Nat} {s : ScanState} {l : ScannedLine}

/-! ## One line -/

theorem output_read_ne_iff :
    (ScannedLine.read s line).output w.selector ≠ line ↔
      (s.classify (body line)).1 = .selector ∧ ¬ w.selector <+: listText (body line) ∧
        ¬ SelectorList.IsGlobal (listText (body line)) :=
  ScannedLine.output_ne_text_iff.trans (History.wrapped?_read_isSome_iff s line)

/-- What a second class makes of a line that a first one changed. -/
theorem output_read_output_nested (hw : ∀ token ∈ scanTokens, ¬ Occurs token w.selector)
    (hvw : ¬ v.selector <+: w.selector) (hcolon : ¬ w.selector ++ [':'] <+: v.selector)
    (hchanged : (ScannedLine.read s line).output w.selector ≠ line)
    (hne : ∀ f ∈ SelectorList.fragments (listText (body line)), f ≠ []) :
    (ScannedLine.read s ((ScannedLine.read s line).output w.selector)).output v.selector =
      nestedText (v.selector ++ ' ' :: w.selector) (body line) ++ ending line := by
  obtain ⟨t, ht⟩ := Option.isSome_iff_exists.1 (ScannedLine.output_ne_text_iff.1 hchanged)
  obtain ⟨hnormal, hline, out, hout, houtput, hbody⟩ := ScannedLine.exists_of_wrapped?_read ht
  have hagain : (s.classify (body (out ++ ending line))).1 = .selector := by
    have hfinding := finding_read_output hw s line
    rw [houtput] at hfinding
    rw [classify_eq_of_finding_eq hfinding, hline]
  have hending : ending (out ++ ending line) = ending line :=
    ending_append_ending_of (RuleLine.getLast?_ne_of_scopeText? hout) line
  have hnested := scopeText?_nested hout hvw hcolon hne
  rw [houtput]
  apply ScannedLine.output_of_wrapped?
  rw [ScannedLine.wrapped?_eq_some_iff, ScannedLine.text_read, hbody, hending]
  exact ⟨hagain, _, hnested, rfl⟩

/-! ## All lines -/

theorem getElem?_scope (w : WrapperClass) (hl : (scan .normal (lines css))[k]? = some l) :
    (lines (scope w.selector css).text)[k]? = some (l.output w.selector) := by
  rw [lines_scope, List.getElem?_map, hl]
  rfl

/-- A second scan reads what comes out of a line in the state in which the first read the line. -/
theorem getElem?_scan_scope (hw : ∀ token ∈ scanTokens, ¬ Occurs token w.selector)
    (hl : (scan .normal (lines css))[k]? = some l) :
    (scan .normal (lines (scope w.selector css).text))[k]? =
      some (.read l.before (l.output w.selector)) := by
  have hentry := getElem?_scan .normal (lines (scope w.selector css).text) k
  rw [getElem?_scope w hl, Option.map_some] at hentry
  have hfinding := congrArg (·[k]?) (map_finding_scan_scope hw css)
  rw [List.getElem?_map, List.getElem?_map, hentry, hl] at hfinding
  have hbefore := congrArg (·.2.1) (Option.some.inj hfinding)
  rw [hentry]
  exact congrArg (fun s => some (ScannedLine.read s (l.output w.selector))) hbefore

theorem getElem?_scope_scope (hw : ∀ token ∈ scanTokens, ¬ Occurs token w.selector)
    (v : WrapperClass) (hl : (scan .normal (lines css))[k]? = some l) :
    (lines (scope v.selector (scope w.selector css).text).text)[k]? =
      some ((ScannedLine.read l.before (l.output w.selector)).output v.selector) :=
  getElem?_scope v (getElem?_scan_scope hw hl)

/-! ## Two classes in turn -/

/-- What two classes in turn make of a line. If the first changes it and none of its selectors is
    empty, the line is nested under the two. If the first leaves a selector line alone because it
    starts with that class, the second changes it unless it starts with the second one too. Lines
    that are no selector lines and lines for the document itself come out of both as they were. -/
theorem scope_in_turn (v w : WrapperClass)
    (hw : ∀ token ∈ scanTokens, ¬ Occurs token w.selector)
    (hvw : ¬ v.selector <+: w.selector) (hcolon : ¬ w.selector ++ [':'] <+: v.selector)
    (css : Text) (k : Nat) (l : ScannedLine) (hl : (scan .normal (lines css))[k]? = some l) :
    ((lines (scope w.selector css).text)[k]? ≠ some l.text →
      (∀ f ∈ SelectorList.fragments (listText (body l.text)), f ≠ []) →
      (lines (scope v.selector (scope w.selector css).text).text)[k]? =
        some (Text.indent (body l.text) ++
          SelectorList.scope (v.selector ++ ' ' :: w.selector) (listText (body l.text)) ++
          ' ' :: blockText (body l.text) ++ ending l.text)) ∧
    (l.kind = .selector → w.selector <+: listText (body l.text) →
      (lines (scope w.selector css).text)[k]? = some l.text ∧
      ((lines (scope v.selector (scope w.selector css).text).text)[k]? ≠ some l.text ↔
        ¬ v.selector <+: listText (body l.text))) ∧
    (l.kind ≠ .selector ∨ SelectorList.IsGlobal (listText (body l.text)) →
      (lines (scope w.selector css).text)[k]? = some l.text ∧
      (lines (scope v.selector (scope w.selector css).text).text)[k]? = some l.text) := by
  rw [getElem?_scope w hl, getElem?_scope_scope hw v hl]
  obtain ⟨s, line, -, rfl⟩ := exists_read_of_mem_scan (List.mem_of_getElem? hl)
  simp only [ne_eq, Option.some.injEq]
  refine ⟨fun hchanged hne => ?_, fun hk hstart => ?_, fun hkept => ?_⟩
  · exact output_read_output_nested hw hvw hcolon hchanged hne
  · have hfirst : (ScannedLine.read s line).output w.selector = line := by
      by_contra hchanged
      exact (output_read_ne_iff.1 hchanged).2.1 hstart
    refine ⟨hfirst, ?_⟩
    rw [hfirst]
    have hglobal := SelectorList.not_isGlobal_of_prefix hstart
    exact output_read_ne_iff.trans ⟨fun h => h.2.1, fun hv => ⟨hk, hv, hglobal⟩⟩
  · have hout : ∀ u : WrapperClass, (ScannedLine.read s line).output u.selector = line := by
      intro u
      by_contra hchanged
      obtain ⟨hk, -, hglobal⟩ := output_read_ne_iff.1 hchanged
      exact hkept.elim (fun hne => hne hk) hglobal
    refine ⟨hout w, ?_⟩
    rw [hout w]
    exact hout v

/-- A class that starts like `.dash` is put in front of it. -/
theorem scope_in_turn_dash :
    (∀ token ∈ scanTokens, ¬ Occurs token WrapperClass.dash.selector) ∧
      ¬ WrapperClass.dashMedia.selector <+: WrapperClass.dash.selector ∧
      ¬ WrapperClass.dash.selector ++ [':'] <+: WrapperClass.dashMedia.selector ∧
      (scan .normal (lines plainRule))[0]? = some (.read .normal plainRule) ∧
      (lines (scope WrapperClass.dashMedia.selector
        (scope WrapperClass.dash.selector plainRule).text).text)[0]? =
          some (WrapperClass.dashMedia.selector ++ ' ' :: WrapperClass.dash.selector ++
            ' ' :: plainRule) := by
  have hentry : (scan .normal (lines plainRule))[0]? = some (.read .normal plainRule) := by decide
  have hturn := scope_in_turn WrapperClass.dashMedia WrapperClass.dash (by decide) (by decide)
    (by decide) plainRule 0 _ hentry
  refine ⟨by decide, by decide, by decide, hentry, ?_⟩
  rw [hturn.1 (by decide) (by decide)]
  decide

end StyleScope.Stylesheet
