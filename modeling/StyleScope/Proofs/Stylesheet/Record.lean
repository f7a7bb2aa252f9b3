/-
  StyleScope.Proofs.Stylesheet.Record

  The record of a scan, and the lines that come out of it.

  A record holds for each line what the classifier says of it in the state that the lines before
  it leave (`getElem?_scan`). Of such an entry, a line comes out changed just when it is given the
  wrapper (`output_ne_text_iff`), which happens at the top level only and makes its body a line that
  was given the wrapper (`exists_of_wrapped?_read`). The report is read off the kinds of the lines and
  whether they are given the wrapper (`Report.ofScan_eq_of_verdicts`). A class brings no line feed
  into a line, so the lines of the text that comes out are the lines that come out
  (`lines_scopeFrom`).
-/
import StyleScope.Proofs.RuleLine.Wrapped
import StyleScope.Proofs.ScanState.Transition
import StyleScope.Stylesheet

namespace StyleScope.Stylesheet

open Text

/-! ## Entries -/

namespace ScannedLine

/-- The entry of a line that is read in a state. -/
def read (state : ScanState) (line : Text) : ScannedLine where
  text := line
  kind := (state.classify (body line)).1
  before := state
  after := (state.classify (body line)).2

@[simp] theorem text_read (state : ScanState) (line : Text) : (read state line).text = line := rfl

end ScannedLine

/-- The carriage return of a line means nothing to the scanner. -/
theorem classify_body (state : ScanState) (line : Text) :
    state.classify (body line) = state.classify line :=
  ScanState.classify_eq_of_trim_eq (trim_body line) state

theorem scan_cons (state : ScanState) (line : Text) (rest : List Text) :
    scan state (line :: rest) =
      .read state line :: scan (state.classify (body line)).2 rest := rfl

theorem lastState_cons (state : ScanState) (line : Text) (rest : List Text) :
    lastState state (line :: rest) = lastState (state.classify (body line)).2 rest := rfl

theorem getElem?_scan (state : ScanState) (ls : List Text) (k : Nat) :
    (scan state ls)[k]? = ls[k]?.map (.read (lastState state (ls.take k))) := by
  induction ls generalizing state k with
  | nil => rfl
  | cons line rest ih =>
    cases k with
    | zero => rfl
    | succ k =>
      rw [scan_cons, List.getElem?_cons_succ, List.getElem?_cons_succ, List.take_succ_cons,
        lastState_cons]
      exact ih (state.classify (body line)).2 k

theorem exists_read_of_mem_scan {state : ScanState} {ls : List Text} {l : ScannedLine}
    (h : l ∈ scan state ls) : ∃ s, ∃ line ∈ ls, l = .read s line := by
  obtain ⟨k, hk⟩ := List.mem_iff_getElem?.1 h
  rw [getElem?_scan, Option.map_eq_some_iff] at hk
  obtain ⟨line, hline, rfl⟩ := hk
  exact ⟨_, line, List.mem_of_getElem? hline, rfl⟩

/-! ## What comes out of an entry -/

namespace ScannedLine

variable {wrapper t : Text} {w : WrapperClass} {l : ScannedLine}

theorem wrapped?_eq_some_iff :
    l.wrapped? wrapper = some t ↔
      l.kind = .selector ∧
        ∃ out, RuleLine.scopeText? wrapper (body l.text) = some out ∧ t = out ++ ending l.text := by
  by_cases hk : l.kind = .selector
  · simp [wrapped?, hk, @eq_comm _ t]
  · simp [wrapped?, hk]

/-- A line is not given the wrapper if it is no selector line or is left as it is. -/
theorem wrapped?_eq_none_iff :
    l.wrapped? wrapper = none ↔
      (l.kind = .selector → RuleLine.scopeText? wrapper (body l.text) = none) := by
  by_cases hk : l.kind = .selector
  · simp [wrapped?, hk]
  · simp [wrapped?, hk]

theorem wrapped?_isSome_iff :
    (l.wrapped? wrapper).isSome = true ↔
      l.kind = .selector ∧ (RuleLine.scopeText? wrapper (body l.text)).isSome = true := by
  by_cases hk : l.kind = .selector
  · simp [wrapped?, hk]
  · simp [wrapped?, hk]

theorem output_of_wrapped? (h : l.wrapped? wrapper = some t) : l.output wrapper = t := by
  rw [output, h, Option.getD_some]

theorem output_of_wrapped?_eq_none (h : l.wrapped? wrapper = none) :
    l.output wrapper = l.text := by
  rw [output, h, Option.getD_none]

/-- If a change to a line can be seen behind the wrapper too, the line comes out with the change. -/
theorem output_eq_of_map {f : Text → Text} {a b : ScannedLine} (htext : b.text = f a.text)
    (h : b.wrapped? wrapper = (a.wrapped? wrapper).map f) :
    b.output wrapper = f (a.output wrapper) := by
  rw [output, output, h, htext]
  cases a.wrapped? wrapper with
  | none => rfl
  | some t => rfl

/-- Without a selector line all lines come out as they were. -/
theorem map_output_eq_map_text {record : List ScannedLine}
    (h : ∀ l ∈ record, l.kind ≠ .selector) :
    record.map (·.output wrapper) = record.map text :=
  List.map_congr_left fun l hl => output_of_kind_ne (h l hl)

/-- A line that is given a wrapper keeps its carriage return apart from its new body. -/
theorem body_wrapped {out : Text}
    (h : RuleLine.scopeText? w.selector (body l.text) = some out) :
    body (out ++ ending l.text) = out :=
  body_append_ending_of (RuleLine.getLast?_ne_of_scopeText? h) l.text

/-- What is known of a line that was given the wrapper: it was read as a selector line at the top
    level, and what comes out is its new body in front of its own ending. -/
theorem exists_of_wrapped?_read {s : ScanState} {line : Text}
    (h : (read s line).wrapped? w.selector = some t) :
    s = .normal ∧ s.classify (body line) = (.selector, .normal) ∧
      ∃ out, RuleLine.scopeText? w.selector (body line) = some out ∧
        (read s line).output w.selector = out ++ ending line ∧ body (out ++ ending line) = out := by
  obtain ⟨hk, out, hout, rfl⟩ := wrapped?_eq_some_iff.1 h
  have hselector : (s.classify (body line)).1 = .selector := hk
  have hnormal : s = .normal := ScanState.eq_normal_of_selector hselector
  have hafter : (s.classify (body line)).2 = .normal :=
    (ScanState.classify_snd_of_selector hselector).trans hnormal
  exact ⟨hnormal, Prod.ext hselector hafter, out, hout, output_of_wrapped? h,
    body_wrapped (l := .read s line) hout⟩

/-- A line changes just when it is given the wrapper. -/
theorem output_ne_text_iff :
    l.output w.selector ≠ l.text ↔ (l.wrapped? w.selector).isSome = true := by
  cases h : l.wrapped? w.selector with
  | none => simp [output_of_wrapped?_eq_none h]
  | some t =>
    obtain ⟨-, out, hout, rfl⟩ := wrapped?_eq_some_iff.1 h
    rw [output_of_wrapped? h]
    refine ⟨fun _ => rfl, fun _ heq => RuleLine.scopeText?_ne hout ?_⟩
    rw [← body_wrapped hout, heq]

theorem newline_notMem_output (h : '\n' ∉ l.text) : '\n' ∉ l.output w.selector := by
  cases ht : l.wrapped? w.selector with
  | none =>
    rw [output_of_wrapped?_eq_none ht]
    exact h
  | some t =>
    obtain ⟨-, out, hout, rfl⟩ := wrapped?_eq_some_iff.1 ht
    rw [output_of_wrapped? ht]
    intro hmem
    have hline : '\n' ∉ body l.text := fun hbody => h (mem_of_mem_body hbody)
    rcases List.mem_append.1 hmem with hmem | hmem
    · rcases RuleLine.mem_of_scopeText? hout hmem with hc | hc | hc | hc
      · exact WrapperClass.notMem_selector w (by decide) hc
      · exact absurd hc (by decide)
      · exact absurd hc (by decide)
      · exact hline hc
    · refine h ?_
      rw [← body_append_ending l.text]
      exact List.mem_append_right _ hmem

end ScannedLine

/-! ## The counts of a record -/

/-- What a line is counted by: its kind, and whether it is given the wrapper. -/
def ScannedLine.verdict (wrapper : Text) (l : ScannedLine) : LineKind × Bool :=
  (l.kind, (l.wrapped? wrapper).isSome)

theorem ScannedLine.verdict_eq_of_map {wrapper : Text} {f : Text → Text} {a b : ScannedLine}
    (hkind : b.kind = a.kind) (h : b.wrapped? wrapper = (a.wrapped? wrapper).map f) :
    b.verdict wrapper = a.verdict wrapper := by
  rw [verdict, verdict, hkind, h, Option.isSome_map]

/-- The report tells of the verdicts on the lines and of nothing else. -/
theorem Report.ofScan_eq_of_verdicts {wrapper : Text} {a b : List ScannedLine}
    (h : a.map (·.verdict wrapper) = b.map (·.verdict wrapper)) :
    Report.ofScan wrapper a = Report.ofScan wrapper b := by
  have hcounts : ∀ record : List ScannedLine, Report.ofScan wrapper record =
      { lines := (record.map (·.verdict wrapper)).length
        wrapped := (record.map (·.verdict wrapper)).countP (·.2)
        skipped := (record.map (·.verdict wrapper)).countP fun v =>
          v.1 = .selector ∧ v.2 = false } := by
    intro record
    rw [List.length_map, List.countP_map, List.countP_map, Report.ofScan]
    congr 1
    apply List.countP_congr
    intro l _
    simp [ScannedLine.verdict]
  rw [hcounts, hcounts, h]

/-! ## The lines of the text that comes out -/

theorem map_output_scan_ne_nil (state : ScanState) (wrapper css : Text) :
    (scan state (lines css)).map (·.output wrapper) ≠ [] := by
  have hlen := length_scan state (lines css)
  intro hnil
  rw [List.map_eq_nil_iff.1 hnil, List.length_nil] at hlen
  exact lines_ne_nil css (List.length_eq_zero_iff.1 hlen.symm)

theorem newline_notMem_of_mem_map_output {state : ScanState} {w : WrapperClass} {css out : Text}
    (h : out ∈ (scan state (lines css)).map (·.output w.selector)) : '\n' ∉ out := by
  obtain ⟨l, hl, rfl⟩ := List.mem_map.1 h
  obtain ⟨s, line, hline, rfl⟩ := exists_read_of_mem_scan hl
  exact ScannedLine.newline_notMem_output (newline_notMem_of_mem_lines hline)

theorem lines_scopeFrom (state : ScanState) (w : WrapperClass) (css : Text) :
    lines (scopeFrom state w.selector css).text =
      (scan state (lines css)).map (·.output w.selector) :=
  lines_joinLines (fun _ => newline_notMem_of_mem_map_output)
    (map_output_scan_ne_nil state w.selector css)

theorem lines_scope (w : WrapperClass) (css : Text) :
    lines (scope w.selector css).text =
      (scan .normal (lines css)).map (·.output w.selector) :=
  lines_scopeFrom .normal w css

/-! ## A text that is given by its lines -/

section

variable {xs : List Text}

theorem lines_scope_joinLines (w : WrapperClass) (hne : xs ≠ []) (h : ∀ l ∈ xs, '\n' ∉ l) :
    lines (scope w.selector (joinLines xs)).text =
      (scan .normal xs).map (·.output w.selector) := by
  rw [lines_scope, lines_joinLines h hne]

theorem report_scope_joinLines (w : WrapperClass) (hne : xs ≠ []) (h : ∀ l ∈ xs, '\n' ∉ l) :
    (scope w.selector (joinLines xs)).report = Report.ofScan w.selector (scan .normal xs) := by
  show Report.ofScan w.selector (scan .normal (lines (joinLines xs))) = _
  rw [lines_joinLines h hne]

end

/-- A text is known by its lines. -/
theorem eq_of_lines_eq {a b : Text} (h : lines a = lines b) : a = b := by
  rw [← joinLines_lines a, h, joinLines_lines b]

end StyleScope.Stylesheet
