/-
  StyleScope.Proofs.Stylesheet.Absorption

  Scoping what is scoped already.

  A wrapper may hold a word that opens the block of an at-rule, so a second scan can be inside a
  block where the first is outside. `IsCovered` is what the two scans keep: comments are open in
  both or in neither, and the block of the first is also that of the second. It is kept by a line
  that both read (`IsCovered.classify`) and by a line that the first was given a wrapper for
  (`isCovered_output`), as long as the wrapper opens no comment that it does not close. The second
  scan then finds no selector that the first does not find, and those it finds are settled
  (`output_read_output`), so nothing changes (`map_output_scan_map_output`).

  A wrapper that does leave a comment open hides from the second scan that a block is opened, and
  the second scan changes a line of the block (`exists_scope_scope_ne`).
-/
import StyleScope.Proofs.Stylesheet.Record

namespace StyleScope

open Text

namespace ScanState

/-! ## States of which the second may be inside a block -/

/-- Comments are open in both states or in neither, and a block that is open in the first is open
    in the second. -/
structure IsCovered (s t : ScanState) : Prop where
  inComment_eq : s.inComment = t.inComment
  atRule?_eq : s.atRule? = none ∨ s.atRule? = t.atRule?

variable {s t : ScanState}

theorem IsCovered.refl (s : ScanState) : IsCovered s s := ⟨rfl, Or.inr rfl⟩

/-- Outside comments the top level is covered by every block. -/
theorem isCovered_normal (h : t.inComment = false) : IsCovered .normal t := ⟨h.symm, Or.inl rfl⟩

theorem IsCovered.isActive_iff (h : IsCovered s t) (line : Text) :
    s.IsActive line ↔ t.IsActive line := by
  rw [IsActive, IsActive, h.inComment_eq]

/-- A line that both scans read keeps the second over the first. -/
theorem IsCovered.classify (h : IsCovered s t) (line : Text) :
    IsCovered (s.classify line).2 (t.classify line).2 where
  inComment_eq := by
    rw [Bool.eq_iff_iff, inComment_classify_iff, inComment_classify_iff, h.inComment_eq]
  atRule?_eq := by
    rw [atRule?_classify, atRule?_classify]
    by_cases ha : t.IsActive line
    · rw [if_pos ((h.isActive_iff line).2 ha), if_pos ha]
      -- The block that the line opens, or that it closes, is the same for both.
      cases openedRule? (trim line) with
      | some rule => exact Or.inr rfl
      | none =>
        by_cases hc : trim line = ['}']
        · exact Or.inl (if_pos hc)
        · simpa only [if_neg hc, Option.none_or] using h.atRule?_eq
    · rw [if_neg fun hs => ha ((h.isActive_iff line).1 hs), if_neg ha]
      exact h.atRule?_eq

/-- The second scan finds no selector that the first does not find. -/
theorem IsCovered.selector_of_selector (h : IsCovered s t) {line : Text}
    (ht : (t.classify line).1 = .selector) : (s.classify line).1 = .selector := by
  rw [classify_fst_eq_selector_iff] at ht ⊢
  obtain ⟨ha, hk, hb, ho⟩ := ht
  refine ⟨(h.isActive_iff line).2 ha, hk, ?_, ho⟩
  rcases h.atRule?_eq with hs | hs
  · exact hs
  · rw [hs, hb]

/-- No comment is open after a line that closes what it opens, if none was open before. -/
theorem inComment_classify_eq_false {line : Text} (hs : s.inComment = false)
    (h : Occurs commentOpener line → Occurs commentCloser line) :
    (s.classify line).2.inComment = false := by
  rw [Bool.eq_false_iff]
  intro hin
  rcases (inComment_classify_iff s line).1 hin with ⟨-, hopen, hclose⟩ | ⟨-, hbefore⟩
  · rw [isSolid_commentOpener.occurs_trim_iff] at hopen
    rw [isSolid_commentCloser.occurs_trim_iff] at hclose
    exact hclose (h hopen)
  · rw [hs] at hbefore
    exact Bool.false_ne_true hbefore

end ScanState

namespace Stylesheet

open ScanState

variable {w v : WrapperClass} {s t : ScanState}

/-! ## One line -/

/-- A line that the first scan lets out is left as it is by the second. -/
theorem output_read_output (h : IsCovered s t) (hv : v.selector <+: w.selector) (line : Text) :
    (ScannedLine.read t ((ScannedLine.read s line).output w.selector)).output v.selector =
      (ScannedLine.read s line).output w.selector := by
  refine ScannedLine.output_of_wrapped?_eq_none (ScannedLine.wrapped?_eq_none_iff.2 fun hk => ?_)
  rw [ScannedLine.text_read]
  cases hw : (ScannedLine.read s line).wrapped? w.selector with
  | none =>
    have hout := ScannedLine.output_of_wrapped?_eq_none hw
    rw [hout] at hk ⊢
    -- The first scan found this selector too and left the line as it is.
    have hsettled := ScannedLine.wrapped?_eq_none_iff.1 hw (h.selector_of_selector hk)
    exact RuleLine.scopeText?_eq_none_of_prefix hv hsettled
  | some t =>
    obtain ⟨-, -, out, hout, houtput, hbody⟩ := ScannedLine.exists_of_wrapped?_read hw
    rw [houtput, hbody]
    exact RuleLine.scopeText?_scopeText? hout hv

/-- What the first scan lets out of a line keeps the second over the first. -/
theorem isCovered_output (h : IsCovered s t)
    (hw : Occurs commentOpener w.selector → Occurs commentCloser w.selector) (line : Text) :
    IsCovered (s.classify (body line)).2
      (t.classify (body ((ScannedLine.read s line).output w.selector))).2 := by
  cases hwrap : (ScannedLine.read s line).wrapped? w.selector with
  | none =>
    rw [ScannedLine.output_of_wrapped?_eq_none hwrap]
    exact h.classify (body line)
  | some t =>
    obtain ⟨rfl, hline, out, hout, houtput, hbody⟩ := ScannedLine.exists_of_wrapped?_read hwrap
    rw [houtput, hbody, hline]
    -- The first scan stays at the top level, so only a comment can come between the two.
    refine isCovered_normal (inComment_classify_eq_false h.inComment_eq.symm ?_)
    intro hopen
    rw [RuleLine.occurs_iff_of_scopeText? isSolid_commentOpener hout] at hopen
    rw [RuleLine.occurs_iff_of_scopeText? isSolid_commentCloser hout]
    refine Or.inl (hw (hopen.resolve_right fun hbefore => ?_))
    have hselector : (normal.classify (body line)).1 = .selector := congrArg Prod.fst hline
    obtain ⟨⟨-, hno, -, -⟩, -⟩ := (classify_fst_eq_selector_iff .normal _).1 hselector
    rw [isSolid_commentOpener.occurs_trim_iff] at hno
    exact hno hbefore

/-! ## All lines -/

theorem map_output_scan_map_output (hv : v.selector <+: w.selector)
    (hw : Occurs commentOpener w.selector → Occurs commentCloser w.selector)
    (h : IsCovered s t) (ls : List Text) :
    (scan t ((scan s ls).map (·.output w.selector))).map (·.output v.selector) =
      (scan s ls).map (·.output w.selector) := by
  -- The two states drift apart on the way, so both are free in the induction.
  induction ls generalizing s t with
  | nil => rfl
  | cons line rest ih =>
    rw [scan_cons, List.map_cons, scan_cons, List.map_cons, output_read_output h hv line]
    exact congrArg _ (ih (isCovered_output h hw line))

theorem scope_scope_of_closes (hv : v.selector <+: w.selector)
    (hw : Occurs commentOpener w.selector → Occurs commentCloser w.selector) (css : Text) :
    (scope v.selector (scope w.selector css).text).text = (scope w.selector css).text := by
  refine eq_of_lines_eq ?_
  rw [lines_scope, lines_scope]
  exact map_output_scan_map_output hv hw (IsCovered.refl .normal) (lines css)

/-! ## A wrapper that leaves a comment open -/

theorem output_read_plainRule {out : Text}
    (hout : RuleLine.scopeText? w.selector RuleLine.plainRule = some out) :
    (ScannedLine.read .normal RuleLine.plainRule).output w.selector = out := by
  apply ScannedLine.output_of_wrapped?
  rw [ScannedLine.wrapped?_eq_some_iff]
  exact ⟨by decide, out, hout, (List.append_nil out).symm⟩

/-- A rule, and a block with a rule behind the end of a comment. -/
def blockBehindRule : List Text :=
  [RuleLine.plainRule, AtRule.media.keyword, 'x' :: commentCloser, RuleLine.plainRule]

/-- Scoping the first rule opens a comment. -/
theorem classify_opensComment {out : Text} (ho : Occurs commentOpener w.selector)
    (hc : ¬ Occurs commentCloser w.selector)
    (hout : RuleLine.scopeText? w.selector RuleLine.plainRule = some out) :
    ScanState.normal.classify out = (.comment, .comment none) := by
  have hliteral : ¬ IsLiteral (trim out) := by
    obtain ⟨r, hr⟩ := RuleLine.trim_eq_cons_of_scopeText? hout
    rw [hr]
    exact not_isLiteral_of_dot r
  have hclose : ¬ Occurs commentCloser out := by
    rw [RuleLine.occurs_iff_of_scopeText? isSolid_commentCloser hout]
    exact not_or_intro hc (by decide)
  have hopen : Occurs commentOpener out := by
    rw [RuleLine.occurs_iff_of_scopeText? isSolid_commentOpener hout]
    exact Or.inl ho
  exact classify_opener hliteral hopen hclose .normal

theorem exists_scope_scope_ne (ho : Occurs commentOpener w.selector)
    (hc : ¬ Occurs commentCloser w.selector) :
    ∃ css, (scope w.selector (scope w.selector css).text).text ≠ (scope w.selector css).text := by
  obtain ⟨out, hout⟩ := RuleLine.exists_scopeText?_plainRule w
  have hrule := output_read_plainRule hout
  -- The first scan reads the last line inside the block, so it changes the first line only.
  have hfirst : lines (scope w.selector (joinLines blockBehindRule)).text =
      out :: blockBehindRule.tail := by
    have hrest : (scan .normal blockBehindRule.tail).map (·.output w.selector) =
        blockBehindRule.tail := by
      rw [ScannedLine.map_output_eq_map_text (by decide), map_text_scan]
    have hlines : lines (joinLines blockBehindRule) = blockBehindRule :=
      lines_joinLines (by decide) (by decide)
    rw [lines_scope, hlines, ← hrest, ← hrule]
    rfl
  -- For the second scan the wrapper's comment hides the line that opens the block.
  have hstate : lastState .normal ((out :: blockBehindRule.tail).take 3) = .normal := by
    rw [List.take_succ_cons, lastState_cons,
      body_of_getLast?_ne (RuleLine.getLast?_ne_of_scopeText? hout),
      classify_opensComment ho hc hout]
    decide
  refine ⟨joinLines blockBehindRule, fun heq => RuleLine.scopeText?_ne hout ?_⟩
  have hlines := congrArg lines heq
  rw [lines_scope w (scope w.selector (joinLines blockBehindRule)).text, hfirst] at hlines
  have hlast := congrArg (·[3]?) hlines
  rw [List.getElem?_map, getElem?_scan, hstate] at hlast
  rw [← hrule]
  exact Option.some.inj hlast

/-! ## The limit of absorption -/

/-- A wrapper absorbs every class that it starts with, itself included, just when it closes the
    comments that it opens. For a wrapper that does not, scoping twice by it already differs from
    scoping once on some stylesheet. -/
theorem scope_absorbs_iff (w : WrapperClass) :
    ((¬ Occurs commentOpener w.selector ∨ Occurs commentCloser w.selector) ↔
      ∀ (css : Text) (v : WrapperClass), v.selector <+: w.selector →
        (scope v.selector (scope w.selector css).text).text = (scope w.selector css).text) ∧
    ((¬ Occurs commentOpener w.selector ∨ Occurs commentCloser w.selector) ↔
      ∀ css : Text,
        (scope w.selector (scope w.selector css).text).text = (scope w.selector css).text) := by
  have hclosed : (¬ Occurs commentOpener w.selector ∨ Occurs commentCloser w.selector) ↔
      (Occurs commentOpener w.selector → Occurs commentCloser w.selector) :=
    Decidable.imp_iff_not_or.symm
  have hopen : (∀ css : Text,
      (scope w.selector (scope w.selector css).text).text = (scope w.selector css).text) →
        Occurs commentOpener w.selector → Occurs commentCloser w.selector := by
    intro hall ho
    by_contra hc
    obtain ⟨css, hne⟩ := exists_scope_scope_ne ho hc
    exact hne (hall css)
  rw [hclosed]
  refine ⟨⟨fun hw css v hv => scope_scope_of_closes hv hw css, fun hall => ?_⟩,
    ⟨fun hw css => scope_scope_of_closes List.prefix_rfl hw css, hopen⟩⟩
  exact hopen fun css => hall css w List.prefix_rfl

/-- A class that opens a block on every line it is put on still absorbs `.dash`. -/
theorem scope_absorbs_dash :
    WrapperClass.dash.selector <+: WrapperClass.dashMedia.selector ∧
      (scope WrapperClass.dash.selector
        (scope WrapperClass.dashMedia.selector RuleLine.plainRule).text).text =
          (scope WrapperClass.dashMedia.selector RuleLine.plainRule).text := by
  have hdash : WrapperClass.dash.selector <+: WrapperClass.dashMedia.selector := by decide
  refine ⟨hdash, ?_⟩
  exact (scope_absorbs_iff WrapperClass.dashMedia).1.1 (Or.inl (by decide)) _ _ hdash

end Stylesheet

end StyleScope
