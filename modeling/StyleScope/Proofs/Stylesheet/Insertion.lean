/-
  StyleScope.Proofs.Stylesheet.Insertion

  Lines put into a stylesheet that its other lines do not notice.

  `Passes s xs t` says that the scan reads the lines from the state `s`, takes none of them for a
  selector line, and is in the state `t` behind them. Literal lines pass in every state and leave it
  as it was (`passes_literals`). A comment passes from every state outside comments back to that
  state: it may hold anything that does not close it, because an open comment keeps the block that
  it stands in (`passes_comment`). Lines that pass from a state to the same state can be put in
  wherever the scan is in that state (`isTransparent_of_passes`).
-/
import StyleScope.Proofs.Stylesheet.Record

namespace StyleScope.Stylesheet

open Text ScanState

variable {w : WrapperClass} {s t u : ScanState} {line o c : Text} {xs ys as bs middle : List Text}

/-! ## Lines that pass -/

/-- Read from the first state, the lines lead to the second, and none is a selector line. -/
structure Passes (s : ScanState) (xs : List Text) (t : ScanState) : Prop where
  lastState_eq : lastState s xs = t
  kind_ne : ∀ l ∈ scan s xs, l.kind ≠ .selector

theorem Passes.nil (s : ScanState) : Passes s [] s := by
  refine ⟨rfl, fun l hl => ?_⟩
  exact absurd hl List.not_mem_nil

/-- A line that is no selector line passes to the state after it. -/
theorem Passes.cons (hk : (s.classify line).1 ≠ .selector)
    (h : Passes (s.classify line).2 xs t) : Passes s (line :: xs) t := by
  rw [← classify_body] at hk h
  refine ⟨h.lastState_eq, fun l hl => ?_⟩
  rw [scan_cons] at hl
  rcases List.mem_cons.1 hl with rfl | hl
  · exact hk
  · exact h.kind_ne l hl

theorem Passes.append (h : Passes s xs t) (h' : Passes t ys u) : Passes s (xs ++ ys) u := by
  have hlast : lastState s xs = t := h.lastState_eq
  refine ⟨?_, fun l hl => ?_⟩
  · rw [lastState_append, hlast]
    exact h'.lastState_eq
  · rw [scan_append, hlast] at hl
    rcases List.mem_append.1 hl with hl | hl
    · exact h.kind_ne l hl
    · exact h'.kind_ne l hl

theorem Passes.map_output (h : Passes s xs t) (wrapper : Text) :
    (scan s xs).map (·.output wrapper) = xs := by
  rw [ScannedLine.map_output_eq_map_text h.kind_ne, map_text_scan]

/-- Lines that pass count as lines only. -/
theorem Passes.report (h : Passes s xs t) (wrapper : Text) :
    Report.ofScan wrapper (scan s xs) = ⟨xs.length, 0, 0⟩ := by
  have hwrapped : ∀ l ∈ scan s xs, ¬ (l.wrapped? wrapper).isSome = true := by
    intro l hl hsome
    exact h.kind_ne l hl (ScannedLine.wrapped?_isSome_iff.1 hsome).1
  have hskipped : ∀ l ∈ scan s xs,
      ¬ decide (l.kind = .selector ∧ (l.wrapped? wrapper).isNone = true) = true := by
    intro l hl hskip
    exact h.kind_ne l hl (of_decide_eq_true hskip).1
  rw [Report.ofScan, length_scan, List.countP_eq_zero.2 hwrapped, List.countP_eq_zero.2 hskipped]

theorem passes_literals (s : ScanState) (h : ∀ l ∈ xs, IsLiteral (trim l)) : Passes s xs s := by
  induction xs with
  | nil => exact Passes.nil s
  | cons line rest ih =>
    have hl : IsLiteral (trim line) := h line List.mem_cons_self
    have hline : s.classify line = (.literal, s) := if_pos hl
    have hrest : Passes s rest s := ih fun l hmem => h l (List.mem_cons_of_mem line hmem)
    apply Passes.cons
    · rw [hline]
      simp
    · rw [hline]
      exact hrest

/-- Inside a comment, lines that do not close it pass. -/
theorem passes_inside (rule : Option AtRule)
    (h : ∀ l ∈ xs, IsLiteral (trim l) ∨ ¬ Occurs commentCloser l) :
    Passes (.comment rule) xs (.comment rule) := by
  induction xs with
  | nil => exact Passes.nil _
  | cons line rest ih =>
    obtain ⟨hkind, hafter⟩ := classify_inside (h line List.mem_cons_self) rule
    have hrest := ih fun l hmem => h l (List.mem_cons_of_mem line hmem)
    apply Passes.cons hkind
    rw [hafter]
    exact hrest

/-- A comment passes back to the state that it was opened in. -/
theorem passes_comment (hs : s.inComment = false) (ho : ¬ IsLiteral (trim o))
    (hopen : Occurs commentOpener o) (hnot : ¬ Occurs commentCloser o)
    (hmiddle : ∀ l ∈ middle, IsLiteral (trim l) ∨ ¬ Occurs commentCloser l)
    (hc : ¬ IsLiteral (trim c)) (hclose : Occurs commentCloser c) :
    Passes s (o :: (middle ++ [c])) s := by
  have hfirst := classify_opener ho hopen hnot s
  have hlast := classify_closer hc hclose (.comment s.atRule?)
  have hback : Passes (.comment s.atRule?) [c] s := by
    apply Passes.cons
    · rw [hlast]
      simp
    · rw [hlast]
      show Passes (outside s.atRule?) [] s
      rw [outside_atRule? hs]
      exact Passes.nil s
  apply Passes.cons
  · rw [hfirst]
    simp
  · -- From here on the block that the comment stands in is kept by the open comment.
    rw [hfirst]
    exact (passes_inside s.atRule? hmiddle).append hback

/-! ## Putting lines in -/

/-- Lines put in between others come out as they are, and the others as without them. The report
    counts the lines that were put in, and is the same otherwise. -/
structure IsTransparent (w : WrapperClass) (as xs bs : List Text) : Prop where
  lines_eq : ∃ before after, before.length = as.length ∧ after.length = bs.length ∧
    lines (scope w.selector (joinLines (as ++ bs))).text = before ++ after ∧
    lines (scope w.selector (joinLines (as ++ xs ++ bs))).text = before ++ xs ++ after
  report_eq : (scope w.selector (joinLines (as ++ xs ++ bs))).report =
    (scope w.selector (joinLines (as ++ bs))).report + ⟨xs.length, 0, 0⟩

theorem isTransparent_of_passes (w : WrapperClass) (hne : as ++ bs ≠ [])
    (hlines : ∀ l ∈ as ++ bs, '\n' ∉ l) (hxs : ∀ l ∈ xs, '\n' ∉ l)
    (h : Passes (lastState .normal as) xs (lastState .normal as)) : IsTransparent w as xs bs := by
  have hne' : as ++ xs ++ bs ≠ [] := by
    intro hnil
    obtain ⟨hleft, hbs⟩ := List.append_eq_nil_iff.1 hnil
    obtain ⟨has, -⟩ := List.append_eq_nil_iff.1 hleft
    exact hne (List.append_eq_nil_iff.2 ⟨has, hbs⟩)
  have hlines' : ∀ l ∈ as ++ xs ++ bs, '\n' ∉ l := by
    intro l hl
    rcases List.mem_append.1 hl with hl | hl
    · rcases List.mem_append.1 hl with hl | hl
      · exact hlines l (List.mem_append_left bs hl)
      · exact hxs l hl
    · exact hlines l (List.mem_append_right as hl)
  -- Behind the lines that were put in, the scan goes on as it would have in their place.
  have hscan : scan .normal (as ++ xs ++ bs) =
      scan .normal as ++ scan (lastState .normal as) xs ++ scan (lastState .normal as) bs := by
    rw [scan_append, scan_append, lastState_append, h.lastState_eq]
  refine ⟨⟨(scan .normal as).map (·.output w.selector),
    (scan (lastState .normal as) bs).map (·.output w.selector), ?_, ?_, ?_, ?_⟩, ?_⟩
  · rw [List.length_map, length_scan]
  · rw [List.length_map, length_scan]
  · rw [lines_scope_joinLines w hne hlines, scan_append, List.map_append]
  · rw [lines_scope_joinLines w hne' hlines', hscan, List.map_append, List.map_append,
      h.map_output]
  · rw [report_scope_joinLines w hne' hlines', report_scope_joinLines w hne hlines, hscan,
      scan_append, Report.ofScan_append, Report.ofScan_append, Report.ofScan_append, h.report]
    simp only [Report.add_def, Report.mk.injEq]
    omega

/-- A comment on lines of its own can be put in wherever no comment is open, and literal lines can be
    put in anywhere. -/
theorem insertion_isTransparent (w : WrapperClass) (as bs : List Text) (hne : as ++ bs ≠ [])
    (hlines : ∀ l ∈ as ++ bs, '\n' ∉ l) :
    (∀ (o : Text) (middle : List Text) (c : Text), (∀ l ∈ o :: (middle ++ [c]), '\n' ∉ l) →
      ¬ IsLiteral (trim o) → Occurs commentOpener o → ¬ Occurs commentCloser o →
      (∀ l ∈ middle, IsLiteral (trim l) ∨ ¬ Occurs commentCloser l) →
      ¬ IsLiteral (trim c) → Occurs commentCloser c →
      (lastState .normal as).inComment = false →
      IsTransparent w as (o :: (middle ++ [c])) bs) ∧
    (∀ xs : List Text, (∀ l ∈ xs, '\n' ∉ l) → (∀ l ∈ xs, IsLiteral (trim l)) →
      IsTransparent w as xs bs) := by
  refine ⟨fun o middle c hfeed ho hopen hnot hmiddle hc hclose hs => ?_, fun xs hfeed hxs => ?_⟩
  · have hpass := passes_comment hs ho hopen hnot hmiddle hc hclose
    exact isTransparent_of_passes w hne hlines hfeed hpass
  · have hpass := passes_literals (lastState .normal as) hxs
    exact isTransparent_of_passes w hne hlines hfeed hpass

/-- The lone brace in a comment does not close the block that the comment stands in, and a literal line
    does not close the comment. -/
theorem insertion_isTransparent_block :
    (lastState .normal [AtRule.media.keyword]).inComment = false ∧
      IsTransparent WrapperClass.dash [AtRule.media.keyword]
        ['x' :: commentOpener, ['}'], commentCloser, 'x' :: commentCloser]
        [RuleLine.plainRule] ∧
      (lastState .normal ['x' :: commentOpener]).inComment = true ∧
      IsTransparent WrapperClass.dash ['x' :: commentOpener] [commentCloser]
        [RuleLine.plainRule] := by
  have hblock : (lastState .normal [AtRule.media.keyword]).inComment = false := by decide
  refine ⟨hblock, ?_, by decide, ?_⟩
  · have hinsert := insertion_isTransparent WrapperClass.dash [AtRule.media.keyword]
      [RuleLine.plainRule] (by decide) (by decide)
    exact hinsert.1 ('x' :: commentOpener) [['}'], commentCloser] ('x' :: commentCloser)
      (by decide) (by decide) (by decide) (by decide) (by decide) (by decide) (by decide) hblock
  · have hinsert := insertion_isTransparent WrapperClass.dash ['x' :: commentOpener]
      [RuleLine.plainRule] (by decide) (by decide)
    exact hinsert.2 [commentCloser] (by decide) (by decide)

end StyleScope.Stylesheet
