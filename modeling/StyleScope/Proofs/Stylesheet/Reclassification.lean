/-
  StyleScope.Proofs.Stylesheet.Reclassification

  Scanning what has been scoped.

  The line that a selector line becomes holds a token of the scanner just when the wrapper does, so
  it is a selector line again just when the wrapper holds none (`classify_wrapped_iff`). Then the
  scan of the new text finds line by line what the first scan found (`map_finding_scan`), and
  scoping again changes nothing and skips the selector lines that were wrapped or skipped before.
-/
import StyleScope.Proofs.Stylesheet.Absorption
import StyleScope.Proofs.Stylesheet.Frame

namespace StyleScope.Stylesheet

open Text ScanState

variable {w : WrapperClass} {s : ScanState}

/-- What a scan says of a line: its kind and the states around it. -/
def ScannedLine.finding (l : ScannedLine) : LineKind × ScanState × ScanState :=
  (l.kind, l.before, l.after)

theorem classify_eq_of_finding_eq {a b : Text}
    (h : (ScannedLine.read s a).finding = (ScannedLine.read s b).finding) :
    s.classify (body a) = s.classify (body b) := by
  simp only [ScannedLine.finding, ScannedLine.read, Prod.mk.injEq] at h
  obtain ⟨hkind, -, hafter⟩ := h
  exact Prod.ext hkind hafter

/-! ## A line that was given the wrapper -/

theorem classify_wrapped_iff {line out : Text} (hline : (normal.classify line).1 = .selector)
    (hout : RuleLine.scopeText? w.selector line = some out) :
    (normal.classify out).1 = .selector ↔ ∀ token ∈ scanTokens, ¬ Occurs token w.selector := by
  obtain ⟨-, -, hnone⟩ := (classify_normal_eq_selector_iff line).1 hline
  obtain ⟨r, hr⟩ := RuleLine.trim_eq_cons_of_scopeText? hout
  have hliteral : ¬ IsLiteral (trim out) := by
    rw [hr]
    exact not_isLiteral_of_dot r
  have hopens : OpensRule (trim out) := by
    refine ⟨RuleLine.brace_mem_of_scopeText? hout, ?_⟩
    rw [hr]
    simp
  have htokens : ∀ token ∈ scanTokens, (Occurs token out ↔ Occurs token w.selector) := by
    intro token htoken
    rw [RuleLine.occurs_iff_of_scopeText? (isSolid_of_mem_scanTokens token htoken) hout]
    exact or_iff_left (hnone token htoken)
  rw [classify_normal_eq_selector_iff]
  constructor
  · rintro ⟨-, -, hfree⟩ token htoken
    rw [← htokens token htoken]
    exact hfree token htoken
  · intro hfree
    refine ⟨hliteral, hopens, fun token htoken => ?_⟩
    rw [htokens token htoken]
    exact hfree token htoken

/-! ## All lines -/

/-- A line that comes out is found to be what the line that went in was. -/
theorem finding_read_output (hw : ∀ token ∈ scanTokens, ¬ Occurs token w.selector)
    (s : ScanState) (line : Text) :
    (ScannedLine.read s ((ScannedLine.read s line).output w.selector)).finding =
      (ScannedLine.read s line).finding := by
  cases hwrap : (ScannedLine.read s line).wrapped? w.selector with
  | none => rw [ScannedLine.output_of_wrapped?_eq_none hwrap, ScannedLine.text_read]
  | some t =>
    obtain ⟨rfl, hline, out, hout, houtput, hbody⟩ := ScannedLine.exists_of_wrapped?_read hwrap
    have hagain : (normal.classify out).1 = .selector :=
      (classify_wrapped_iff (congrArg Prod.fst hline) hout).2 hw
    have hnew : normal.classify (body (out ++ ending line)) = (.selector, .normal) := by
      rw [hbody]
      exact Prod.ext hagain (classify_snd_of_selector hagain)
    rw [houtput]
    simp only [ScannedLine.finding, ScannedLine.read, hline, hnew]

theorem map_finding_scan (hw : ∀ token ∈ scanTokens, ¬ Occurs token w.selector) (s : ScanState)
    (ls : List Text) :
    (scan s ((scan s ls).map (·.output w.selector))).map ScannedLine.finding =
      (scan s ls).map ScannedLine.finding := by
  induction ls generalizing s with
  | nil => rfl
  | cons line rest ih =>
    have hfinding := finding_read_output hw s line
    -- The state after the line is part of what is found, so the rest is read from the same one.
    have hafter := congrArg Prod.snd (classify_eq_of_finding_eq hfinding)
    rw [scan_cons, List.map_cons, scan_cons, List.map_cons, List.map_cons, hfinding, hafter, ih]

theorem map_finding_scan_scope (hw : ∀ token ∈ scanTokens, ¬ Occurs token w.selector)
    (css : Text) :
    (scan .normal (lines (scope w.selector css).text)).map ScannedLine.finding =
      (scan .normal (lines css)).map ScannedLine.finding := by
  rw [lines_scope]
  exact map_finding_scan hw .normal (lines css)

theorem kind_eq_of_map_finding {a b : Text} {as bs : List Text}
    (h : (scan s (a :: as)).map ScannedLine.finding = (scan s (b :: bs)).map ScannedLine.finding) :
    (s.classify (body a)).1 = (s.classify (body b)).1 := by
  rw [scan_cons, scan_cons, List.map_cons, List.map_cons] at h
  exact congrArg Prod.fst (classify_eq_of_finding_eq (List.cons.inj h).1)

/-- A wrapper that holds a token of the scanner turns the selector line of a plain rule into
    another. -/
theorem notMem_scanTokens_of_map_finding
    (h : (scan .normal (lines (scope w.selector RuleLine.plainRule).text)).map
        ScannedLine.finding = (scan .normal (lines RuleLine.plainRule)).map ScannedLine.finding) :
    ∀ token ∈ scanTokens, ¬ Occurs token w.selector := by
  obtain ⟨out, hout⟩ := RuleLine.exists_scopeText?_plainRule w
  have hselector : (normal.classify RuleLine.plainRule).1 = .selector := by decide
  have hlines : lines RuleLine.plainRule = [RuleLine.plainRule] := by decide
  have hout' : (scan .normal [RuleLine.plainRule]).map (·.output w.selector) = [out] := by
    rw [scan_cons, List.map_cons, output_read_plainRule hout]
    rfl
  rw [lines_scope, hlines, hout'] at h
  have hkind : (normal.classify (body out)).1 = .selector :=
    (kind_eq_of_map_finding h).trans hselector
  rw [body_of_getLast?_ne (RuleLine.getLast?_ne_of_scopeText? hout)] at hkind
  exact (classify_wrapped_iff hselector hout).1 hkind

/-! ## The report of scoping again -/

theorem countP_selector_of_map_finding {a b : List ScannedLine}
    (h : a.map ScannedLine.finding = b.map ScannedLine.finding) :
    a.countP (·.kind = .selector) = b.countP (·.kind = .selector) := by
  have hcount : ∀ r : List ScannedLine, r.countP (·.kind = .selector) =
      (r.map ScannedLine.finding).countP (·.1 = .selector) := by
    intro r
    rw [List.countP_map]
    rfl
  rw [hcount, hcount, h]

theorem report_scope_scope (hw : ∀ token ∈ scanTokens, ¬ Occurs token w.selector) (css : Text) :
    (scope w.selector (scope w.selector css).text).report =
      { lines := (scope w.selector css).report.lines
        wrapped := 0
        skipped := (scope w.selector css).report.wrapped +
          (scope w.selector css).report.skipped } := by
  have hopener : ¬ Occurs commentOpener w.selector := hw commentOpener (by decide)
  have hsame : (scope w.selector (scope w.selector css).text).text =
      (scope w.selector css).text :=
    scope_scope_of_closes List.prefix_rfl (fun h => absurd h hopener) css
  have hwrapped : (scope w.selector (scope w.selector css).text).report.wrapped = 0 :=
    wrapped_eq_zero_iff.2 hsame
  have hlines : (scope w.selector (scope w.selector css).text).report.lines =
      (scope w.selector css).report.lines :=
    (length_scan .normal _).trans
      ((length_lines_scopeFrom .normal w css).trans (length_scan .normal (lines css)).symm)
  have hskipped : (scope w.selector (scope w.selector css).text).report.skipped =
      (scope w.selector css).report.wrapped + (scope w.selector css).report.skipped := by
    -- Both scans find as many selector lines, and the second changes none of them.
    have hfirst := wrapped_add_skipped w.selector (scan .normal (lines css))
    have hsecond := wrapped_add_skipped w.selector
      (scan .normal (lines (scope w.selector css).text))
    rw [countP_selector_of_map_finding (map_finding_scan_scope hw css), ← hfirst] at hsecond
    have hzero : (Report.ofScan w.selector
        (scan .normal (lines (scope w.selector css).text))).wrapped = 0 := hwrapped
    rw [hzero, Nat.zero_add] at hsecond
    exact hsecond
  rw [← hwrapped, ← hlines, ← hskipped]

/-- Scoping leaves every line of every stylesheet what it was for the scanner just when the wrapper
    holds none of the scanner's tokens. Scoping again by such a wrapper then reports the same lines,
    none of them changed, and as skipped all selector lines that were changed or skipped before. -/
theorem finding_scope_iff (w : WrapperClass) :
    ((∀ css : Text, (scan .normal (lines (scope w.selector css).text)).map ScannedLine.finding =
        (scan .normal (lines css)).map ScannedLine.finding) ↔
      ∀ token ∈ scanTokens, ¬ Occurs token w.selector) ∧
    ((∀ token ∈ scanTokens, ¬ Occurs token w.selector) → ∀ css : Text,
      (scope w.selector (scope w.selector css).text).report =
        { lines := (scope w.selector css).report.lines
          wrapped := 0
          skipped := (scope w.selector css).report.wrapped +
            (scope w.selector css).report.skipped }) := by
  refine ⟨⟨fun h => ?_, fun hw css => map_finding_scan_scope hw css⟩,
    fun hw css => report_scope_scope hw css⟩
  exact notMem_scanTokens_of_map_finding (h RuleLine.plainRule)

/-- Two rules that `.dash` was put in front of are two rules to skip. -/
theorem report_scope_scope_dash :
    (∀ token ∈ scanTokens, ¬ Occurs token WrapperClass.dash.selector) ∧
      (scope WrapperClass.dash.selector (scope WrapperClass.dash.selector
        (joinLines [RuleLine.plainRule, RuleLine.plainRule])).text).report = ⟨2, 0, 2⟩ := by
  have hfirst : (scope WrapperClass.dash.selector
      (joinLines [RuleLine.plainRule, RuleLine.plainRule])).report = ⟨2, 2, 0⟩ := by decide
  refine ⟨by decide, ?_⟩
  rw [(finding_scope_iff WrapperClass.dash).2 (by decide), hfirst]
  rfl

end StyleScope.Stylesheet
