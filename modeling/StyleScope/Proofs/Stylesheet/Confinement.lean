/-
  StyleScope.Proofs.Stylesheet.Confinement

  Which selectors are confined to the wrapper.

  All selectors of a line that is given the wrapper are (`isConfined_of_scopeText?`). A line that
  starts with the wrapper is left as it is, and that test compares characters: it looks at the first
  selector only, and it does not ask whether the name of the class ends where the wrapper does.
  So the selectors of such a line are confined just when they were before
  (`forall_isConfined_scope_iff`). A class whose name goes on behind the wrapper's is not, and its
  rule applies outside the wrapper (`not_isConfined_dashboard`).
-/
import StyleScope.Proofs.Stylesheet.Twice

namespace StyleScope.Stylesheet

open Text RuleLine SelectorList

variable {w : WrapperClass} {line out : Text}

theorem isConfined_of_scopeText? (h : scopeText? w.selector line = some out) :
    ∀ f ∈ fragments (listText out), IsConfined w.selector f := by
  rw [fragments_of_scopeText? h]
  exact fun f hf => isConfined_of_mem_fragments_scope w hf

/-- The selectors of a selector line that is not for the document itself are all confined to the
    wrapper once the line was scoped, unless it starts like the wrapper and has a selector that
    is not. -/
theorem forall_isConfined_scope_iff (w : WrapperClass) (css : Text) (k : Nat) (l : ScannedLine)
    (hl : (scan .normal (lines css))[k]? = some l) (hk : l.kind = .selector)
    (hglobal : ¬ IsGlobal (listText (body l.text))) :
    ∃ out, (lines (scope w.selector css).text)[k]? = some out ∧
      ((∀ f ∈ fragments (listText (body out)), IsConfined w.selector f) ↔
        (w.selector <+: listText (body l.text) →
          ∀ f ∈ fragments (listText (body l.text)), IsConfined w.selector f)) := by
  refine ⟨l.output w.selector, getElem?_scope w hl, ?_⟩
  obtain ⟨s, line, -, rfl⟩ := exists_read_of_mem_scan (List.mem_of_getElem? hl)
  cases hwrap : (ScannedLine.read s line).wrapped? w.selector with
  | none =>
    -- The line is left as it is, and the only reason is that it starts with the wrapper.
    have hsame := ScannedLine.output_of_wrapped?_eq_none hwrap
    have hstart : w.selector <+: listText (body line) := by
      by_contra hstart
      exact output_read_ne_iff.2 ⟨hk, hstart, hglobal⟩ hsame
    rw [hsame]
    exact ⟨fun h _ => h, fun h => h hstart⟩
  | some t =>
    obtain ⟨-, -, out, hout, houtput, hbody⟩ := ScannedLine.exists_of_wrapped?_read hwrap
    have hconfined := isConfined_of_scopeText? hout
    have hstart : ¬ w.selector <+: listText (body line) := by
      have hsome := RuleLine.scopeText?_isSome_iff.1 (Option.isSome_iff_exists.2 ⟨out, hout⟩)
      exact hsome.2.1
    rw [houtput, hbody]
    exact ⟨fun _ h => absurd h hstart, fun _ => hconfined⟩

theorem forall_isConfined_scope_plainRule :
    (scan .normal (lines plainRule))[0]? = some (.read .normal plainRule) ∧
      (ScannedLine.read .normal plainRule).kind = .selector ∧ ¬ IsGlobal (listText plainRule) ∧
      ∃ out, (lines (scope WrapperClass.dash.selector plainRule).text)[0]? = some out ∧
        ∀ f ∈ fragments (listText (body out)), IsConfined WrapperClass.dash.selector f := by
  have hentry : (scan .normal (lines plainRule))[0]? = some (.read .normal plainRule) := by decide
  obtain ⟨out, hout, hiff⟩ :=
    forall_isConfined_scope_iff WrapperClass.dash plainRule 0 _ hentry (by decide) (by decide)
  exact ⟨hentry, by decide, by decide, out, hout, hiff.2 fun h => absurd h (by decide)⟩

/-! ## A rule that applies outside the wrapper -/

/-- A rule for a class whose name starts with `dash`. -/
def dashboardRule : Text := ['.', 'd', 'a', 's', 'h', 'b', 'o', 'a', 'r', 'd', ' ', '{']

/-- Under `.dash` the rule for `.dashboard` comes out as it was, with a selector that is not
    confined to the wrapper. -/
theorem not_isConfined_dashboard :
    (scan .normal (lines dashboardRule))[0]? = some (.read .normal dashboardRule) ∧
      (ScannedLine.read .normal dashboardRule).kind = .selector ∧
      ¬ IsGlobal (listText dashboardRule) ∧
      (lines (scope WrapperClass.dash.selector dashboardRule).text)[0]? = some dashboardRule ∧
      ∃ f ∈ fragments (listText dashboardRule), ¬ IsConfined WrapperClass.dash.selector f := by
  refine ⟨by decide, by decide, by decide, by decide, ?_⟩
  refine ⟨WrapperClass.dash.selector ++ 'b' :: ['o', 'a', 'r', 'd'], by decide, ?_⟩
  exact not_isConfined_append _ rfl

end StyleScope.Stylesheet
