/-
  StyleScope.Proofs.Stylesheet.Indentation

  Stylesheets whose lines are indented further, each in its own way.

  More blanks in front of a line are trimmed off with those that it has, so the scanner finds what
  it found before (`read_blanks_append`). A line that is given the wrapper keeps its indentation,
  and any other line is left as it is, so the line that comes out has the new blanks in front
  (`output_indentBy`). Which blanks they are does not matter, and neither does it if there is
  nothing behind them: a carriage return among them may then be taken for the end of the line, but
  such a line holds no brace (`scopeText?_body_append`).
-/
import StyleScope.Proofs.Stylesheet.Reclassification

namespace StyleScope

open Text

namespace Text

variable {a t : Text} {indents ls : List Text}

/-! ## Blanks in front of a line -/

/-- Blanks that stand on one line. -/
def IsIndentation (a : Text) : Prop := ∀ c ∈ a, isBlank c = true ∧ c ≠ '\n'

/-- Lines with an indentation put in front of each. -/
def indentLines (indents ls : List Text) : List Text := List.zipWith (· ++ ·) indents ls

theorem IsIndentation.blank (h : IsIndentation a) : ∀ c ∈ a, isBlank c = true :=
  fun c hc => (h c hc).1

theorem indent_blanks_append (ha : ∀ c ∈ a, isBlank c = true) (t : Text) :
    indent (a ++ t) = a ++ indent t :=
  List.takeWhile_append_of_pos ha

theorem ending_append (a : Text) (ht : t ≠ []) : ending (a ++ t) = ending t := by
  rw [ending, ending, List.getLast?_append_of_ne_nil a ht]

/-- Only a line with nothing in it can get its carriage return from the blanks in front. -/
theorem body_append (a : Text) (ht : t ≠ []) : body (a ++ t) = a ++ body t := by
  have hwhole : body (a ++ t) ++ ending t = a ++ body t ++ ending t := by
    rw [← ending_append a ht, body_append_ending, ending_append a ht, List.append_assoc,
      body_append_ending]
  exact List.append_cancel_right hwhole

theorem length_indentLines (h : indents.length = ls.length) :
    (indentLines indents ls).length = ls.length := by
  rw [indentLines, List.length_zipWith, h, Nat.min_self]

theorem newline_notMem_of_mem_indentLines (hindents : ∀ a ∈ indents, IsIndentation a)
    (hls : ∀ l ∈ ls, '\n' ∉ l) : ∀ l ∈ indentLines indents ls, '\n' ∉ l := by
  intro l hl hfeed
  have hzip : indentLines indents ls = (indents.zip ls).map fun p => p.1 ++ p.2 :=
    List.map_uncurry_zip_eq_zipWith.symm
  rw [hzip] at hl
  obtain ⟨⟨a, line⟩, hmem, rfl⟩ := List.mem_map.1 hl
  obtain ⟨ha, hline⟩ := List.of_mem_zip hmem
  rcases List.mem_append.1 hfeed with hfeed | hfeed
  · exact (hindents a ha '\n' hfeed).2 rfl
  · exact hls line hline hfeed

end Text

namespace RuleLine

variable {a line wrapper : Text}

/-- The parts of a line that is indented further. -/
def indentBy (a : Text) (r : RuleLine) : RuleLine := { r with indent := a ++ r.indent }

theorem toText_indentBy (a : Text) (r : RuleLine) : (r.indentBy a).toText = a ++ r.toText := by
  simp only [toText, indentBy, List.append_assoc]

theorem ofText?_blanks_append (ha : ∀ c ∈ a, isBlank c = true) (line : Text) :
    ofText? (a ++ line) = (ofText? line).map (indentBy a) := by
  rw [ofText?, ofText?, trim_blanks_append ha, indent_blanks_append ha]
  by_cases hbrace : '{' ∈ trim line
  · simp only [if_pos hbrace, Option.map_some, indentBy]
  · simp only [if_neg hbrace, Option.map_none]

/-- Whether a line is settled does not depend on its indentation, and the line that is given a
    wrapper keeps it. -/
theorem scopeText?_blanks_append (ha : ∀ c ∈ a, isBlank c = true) (wrapper line : Text) :
    scopeText? wrapper (a ++ line) = (scopeText? wrapper line).map (a ++ ·) := by
  rw [scopeText?, scopeText?, ofText?_blanks_append ha]
  cases ofText? line with
  | none => rfl
  | some r =>
    have hsettled : (r.indentBy a).IsSettled wrapper ↔ r.IsSettled wrapper := Iff.rfl
    show (if (r.indentBy a).IsSettled wrapper then none
        else some ((r.indentBy a).scope wrapper).toText) =
      (if r.IsSettled wrapper then none else some (r.scope wrapper).toText).map (a ++ ·)
    by_cases hs : r.IsSettled wrapper
    · rw [if_pos (hsettled.2 hs), if_pos hs]
      rfl
    · rw [if_neg (mt hsettled.1 hs), if_neg hs]
      exact congrArg some (toText_indentBy a (r.scope wrapper))

theorem scopeText?_body_append (ha : ∀ c ∈ a, isBlank c = true) (wrapper line : Text) :
    scopeText? wrapper (body (a ++ line)) = (scopeText? wrapper (body line)).map (a ++ ·) := by
  by_cases hline : line = []
  · -- Both lines are blank, and a blank line opens no rule.
    subst hline
    have hblank : trim (body (a ++ [])) = [] := by
      rw [trim_body, trim_blanks_append ha]
      rfl
    have hnone : ofText? (body (a ++ [])) = none := by
      rw [ofText?, hblank]
      rfl
    rw [scopeText?, hnone]
    rfl
  · rw [body_append a hline, scopeText?_blanks_append ha]

end RuleLine

namespace Stylesheet

variable {a line wrapper : Text} {indents ls : List Text} {s : ScanState} {l : ScannedLine}
  {record : List ScannedLine}

/-! ## Entries -/

namespace ScannedLine

/-- The entry of a line that is indented further. -/
def indentBy (a : Text) (l : ScannedLine) : ScannedLine := { l with text := a ++ l.text }

theorem read_blanks_append (ha : ∀ c ∈ a, isBlank c = true) (s : ScanState) (line : Text) :
    read s (a ++ line) = (read s line).indentBy a := by
  have hclassify : s.classify (body (a ++ line)) = s.classify (body line) := by
    apply ScanState.classify_eq_of_trim_eq
    rw [trim_body, trim_body, trim_blanks_append ha]
  rw [read, hclassify]
  rfl

theorem wrapped?_indentBy (ha : ∀ c ∈ a, isBlank c = true) (wrapper : Text) (l : ScannedLine) :
    (l.indentBy a).wrapped? wrapper = (l.wrapped? wrapper).map (a ++ ·) := by
  have hscope := RuleLine.scopeText?_body_append ha wrapper l.text
  by_cases hk : l.kind = .selector
  · rw [wrapped?, wrapped?, if_pos hk, if_pos (show (l.indentBy a).kind = .selector from hk)]
    show (RuleLine.scopeText? wrapper (body (a ++ l.text))).map (· ++ ending (a ++ l.text)) = _
    rw [hscope]
    cases hout : RuleLine.scopeText? wrapper (body l.text) with
    | none => rfl
    | some out =>
      -- A line that is given the wrapper is not empty, so its ending is its own.
      have hne : l.text ≠ [] := by
        intro hnil
        rw [hnil] at hout
        exact absurd hout (by simp [RuleLine.scopeText?, RuleLine.ofText?, body, trim, trimStart,
          trimEnd])
      rw [ending_append a hne]
      exact congrArg some (List.append_assoc a out (ending l.text))
  · rw [wrapped?, wrapped?, if_neg hk, if_neg (show ¬ (l.indentBy a).kind = .selector from hk)]
    rfl

theorem output_indentBy (ha : ∀ c ∈ a, isBlank c = true) (wrapper : Text) (l : ScannedLine) :
    (l.indentBy a).output wrapper = a ++ l.output wrapper :=
  output_eq_of_map rfl (wrapped?_indentBy ha wrapper l)

theorem verdict_indentBy (ha : ∀ c ∈ a, isBlank c = true) (wrapper : Text) (l : ScannedLine) :
    (l.indentBy a).verdict wrapper = l.verdict wrapper :=
  verdict_eq_of_map rfl (wrapped?_indentBy ha wrapper l)

end ScannedLine

/-! ## All lines -/

/-- Indentations show in the texts of a record only. -/
theorem scan_indentLines (h : ∀ a ∈ indents, IsIndentation a) (s : ScanState) :
    scan s (indentLines indents ls) =
      List.zipWith ScannedLine.indentBy indents (scan s ls) := by
  induction ls generalizing indents s with
  | nil =>
    rw [indentLines, List.zipWith_nil_right]
    exact List.zipWith_nil_right.symm
  | cons line rest ih =>
    cases indents with
    | nil => rfl
    | cons a more =>
      have hread := ScannedLine.read_blanks_append (h a List.mem_cons_self).blank s line
      -- The state behind the line is the same, so the rest is read from the same one.
      have hafter : (s.classify (body (a ++ line))).2 = (s.classify (body line)).2 :=
        congrArg ScannedLine.after hread
      show scan s ((a ++ line) :: indentLines more rest) = _
      rw [scan_cons, hread, hafter, ih fun b hb => h b (List.mem_cons_of_mem a hb), scan_cons]
      rfl

theorem map_output_zipWith_indentBy (h : ∀ a ∈ indents, IsIndentation a) (wrapper : Text) :
    (List.zipWith ScannedLine.indentBy indents record).map (·.output wrapper) =
      indentLines indents (record.map (·.output wrapper)) := by
  induction indents generalizing record with
  | nil => rfl
  | cons a more ih =>
    cases record with
    | nil => rfl
    | cons l rest =>
      have hline := ScannedLine.output_indentBy (h a List.mem_cons_self).blank wrapper l
      have hrest : (List.zipWith ScannedLine.indentBy more rest).map (·.output wrapper) =
          indentLines more (rest.map (·.output wrapper)) :=
        ih fun b hb => h b (List.mem_cons_of_mem a hb)
      rw [List.zipWith_cons_cons, List.map_cons, hline, hrest]
      rfl

/-- What indentations do not show in is read off a record as before. -/
theorem map_zipWith_indentBy {α : Type} {f : ScannedLine → α}
    (hf : ∀ a ∈ indents, ∀ l, f (ScannedLine.indentBy a l) = f l)
    (hlen : indents.length = record.length) :
    (List.zipWith ScannedLine.indentBy indents record).map f = record.map f := by
  induction indents generalizing record with
  | nil =>
    obtain rfl := List.eq_nil_of_length_eq_zero hlen.symm
    rfl
  | cons a more ih =>
    cases record with
    | nil => rfl
    | cons l rest =>
      have hrest := ih (fun b hb => hf b (List.mem_cons_of_mem a hb)) (Nat.succ.inj hlen)
      rw [List.zipWith_cons_cons, List.map_cons, hf a List.mem_cons_self, hrest, List.map_cons]

/-! ## The whole text -/

/-- The lines of a stylesheet may be indented further, each in its own way, before or after it is
    scoped: the text is the same, and so are the report and what is found of each line. -/
theorem scope_indentLines (w : WrapperClass) (indents ls : List Text) (hne : ls ≠ [])
    (hlen : indents.length = ls.length) (hls : ∀ l ∈ ls, '\n' ∉ l)
    (hindents : ∀ a ∈ indents, IsIndentation a) :
    (scope w.selector (joinLines (indentLines indents ls))).text =
        joinLines (indentLines indents (lines (scope w.selector (joinLines ls)).text)) ∧
      (scope w.selector (joinLines (indentLines indents ls))).report =
        (scope w.selector (joinLines ls)).report ∧
      (scan .normal (lines (joinLines (indentLines indents ls)))).map ScannedLine.finding =
        (scan .normal (lines (joinLines ls))).map ScannedLine.finding := by
  have hfeed : ∀ l ∈ indentLines indents ls, '\n' ∉ l :=
    newline_notMem_of_mem_indentLines hindents hls
  have hne' : indentLines indents ls ≠ [] := by
    intro hnil
    have hzero := length_indentLines hlen
    rw [hnil] at hzero
    exact hne (List.eq_nil_of_length_eq_zero hzero.symm)
  have hscan : scan .normal (indentLines indents ls) =
      List.zipWith ScannedLine.indentBy indents (scan .normal ls) :=
    scan_indentLines hindents .normal
  have hrecord : indents.length = (scan .normal ls).length := by
    rw [length_scan, hlen]
  refine ⟨?_, ?_, ?_⟩
  · show joinLines ((scan .normal (lines (joinLines (indentLines indents ls)))).map
      (·.output w.selector)) = _
    rw [lines_joinLines hfeed hne', hscan, map_output_zipWith_indentBy hindents,
      lines_scope_joinLines w hne hls]
  · rw [report_scope_joinLines w hne' hfeed, report_scope_joinLines w hne hls, hscan]
    apply Report.ofScan_eq_of_verdicts
    apply map_zipWith_indentBy _ hrecord
    intro a ha l
    exact ScannedLine.verdict_indentBy (hindents a ha).blank w.selector l
  · rw [lines_joinLines hfeed hne', lines_joinLines hls hne, hscan]
    apply map_zipWith_indentBy _ hrecord
    intro a _ l
    rfl

/-- A rule behind a no-break space and a tab, and an empty line that gets nothing but a carriage
    return. -/
theorem scope_indentLines_plainRule :
    (∀ a ∈ [['\u00a0', '\t'], ['\r']], IsIndentation a) ∧
      (scope WrapperClass.dash.selector
        (joinLines [['\u00a0', '\t'] ++ RuleLine.plainRule ++ ['\r'], ['\r']])).text =
          joinLines [['\u00a0', '\t'] ++ WrapperClass.dash.selector ++ ' ' :: RuleLine.plainRule ++
            ['\r'], ['\r']] := by
  have hindents : ∀ a ∈ [['\u00a0', '\t'], ['\r']], IsIndentation a := by
    intro a ha c hc
    rcases List.mem_pair.1 ha with rfl | rfl
    · rcases List.mem_pair.1 hc with rfl | rfl
      · decide
      · decide
    · obtain rfl := List.mem_singleton.1 hc
      decide
  have hscope := (scope_indentLines WrapperClass.dash [['\u00a0', '\t'], ['\r']]
    [RuleLine.plainRule ++ ['\r'], []] (by decide) (by decide) (by decide) hindents).1
  refine ⟨hindents, hscope.trans ?_⟩
  decide

end Stylesheet

end StyleScope
