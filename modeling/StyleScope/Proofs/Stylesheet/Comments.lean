/-
  StyleScope.Proofs.Stylesheet.Comments

  Comments as a scan follows them, and comments as the characters delimit them.

  The scan looks at whole lines and passes over literal ones, whatever delimiters they hold. On a
  stylesheet whose lines are paired and whose literal lines keep to themselves (`IsLaidOut`) a
  comment is open for the scan after a line just when it is open for a reader of the characters
  (`inComment_lastState`). One line is enough for the step (`inComment_classify_eq`), since line
  feeds cut no delimiter.

  Literal lines have to keep to themselves: a literal line that opens a comment hides it from the
  scan, which then changes a line inside (`openedByLiteral`), and one that closes a comment leaves
  the scan inside for good (`closedByLiteral`).
-/
import StyleScope.Proofs.Stylesheet.Absorption
import StyleScope.Proofs.Text.Comments

namespace StyleScope.Stylesheet

open Text ScanState

variable {ls : List Text} {line : Text} {s : ScanState} {k : Nat}

/-! ## The text in front of a line -/

/-- The text in front of the line with this number. -/
def textBefore (ls : List Text) (k : Nat) : Text := (ls.take k).flatMap (· ++ ['\n'])

theorem textBefore_succ (h : ls[k]? = some line) :
    textBefore ls (k + 1) = textBefore ls k ++ line ++ ['\n'] := by
  rw [textBefore, List.take_add_one, List.flatMap_append, h, textBefore, List.append_assoc]
  simp

theorem textBefore_succ_of_none (h : ls[k]? = none) : textBefore ls (k + 1) = textBefore ls k := by
  rw [textBefore, List.take_add_one, h, textBefore]
  simp

theorem textBefore_append_prefix (h : ls[k]? = some line) :
    textBefore ls k ++ line <+: joinLines ls := by
  induction ls generalizing k with
  | nil => exact absurd h (by simp)
  | cons l rest ih =>
    cases k with
    | zero =>
      obtain rfl : l = line := Option.some.inj h
      cases rest with
      | nil => simp [textBefore, joinLines]
      | cons m more =>
        rw [joinLines, List.intercalate_cons_cons, List.append_assoc]
        exact List.prefix_append l _
    | succ k =>
      rw [List.getElem?_cons_succ] at h
      have hne : rest ≠ [] := List.ne_nil_of_mem (List.mem_of_getElem? h)
      rw [joinLines, List.intercalate_cons_of_ne_nil hne, textBefore, List.take_succ_cons,
        List.flatMap_cons, List.append_assoc]
      exact (List.prefix_append_right_inj _).2 (ih h)

/-- Line feeds cut no delimiter, so lines can be read one after the other. -/
theorem leavesComment_flatMap (inside : Bool) (ls : List Text) (t : Text) :
    leavesComment inside (ls.flatMap (· ++ ['\n']) ++ t) =
      leavesComment (ls.foldl leavesComment inside) t := by
  induction ls generalizing inside with
  | nil => rfl
  | cons line rest ih =>
    rw [List.flatMap_cons, List.append_assoc, List.append_assoc, List.singleton_append,
      leavesComment_append, ih, List.foldl_cons]

theorem leavesComment_textBefore (inside : Bool) (ls : List Text) (k : Nat) :
    leavesComment inside (textBefore ls k) = (ls.take k).foldl leavesComment inside := by
  have h := leavesComment_flatMap inside (ls.take k) []
  rwa [List.append_nil, leavesComment_nil] at h

theorem leavesComment_textBefore_append (inside : Bool) (ls : List Text) (k : Nat) (t : Text) :
    leavesComment inside (textBefore ls k ++ t) =
      leavesComment (leavesComment inside (textBefore ls k)) t := by
  rw [leavesComment_textBefore, ← leavesComment_flatMap, textBefore]

theorem foldl_leavesComment_of_not_occurs {inside : Bool}
    (h : ∀ line ∈ ls, ¬ Occurs (delimiter inside) line) :
    ls.foldl leavesComment inside = inside := by
  induction ls with
  | nil => rfl
  | cons line rest ih =>
    rw [List.foldl_cons, leavesComment_of_not_occurs inside (h line List.mem_cons_self)]
    exact ih fun l hl => h l (List.mem_cons_of_mem line hl)

/-! ## One line -/

/-- A paired line does to the scan what it does to a reader of its characters, if it is no literal
    line or keeps to itself. -/
theorem inComment_classify_eq (hp : IsPaired line)
    (hl : IsLiteral (trim line) →
      ¬ Occurs commentOpener line ∧ ¬ Occurs commentCloser line ∨
        Occurs commentCloser line ∧ s.inComment = false) :
    (s.classify (body line)).2.inComment = leavesComment s.inComment line := by
  rw [Bool.eq_iff_iff, inComment_classify_iff, trim_body, isSolid_commentOpener.occurs_trim_iff,
    isSolid_commentCloser.occurs_trim_iff, hp.leavesComment_iff]
  by_cases hliteral : IsLiteral (trim line)
  · rcases hl hliteral with ⟨ho, hc⟩ | ⟨hc, hs⟩
    · simp [hliteral, ho, hc]
    · simp [hliteral, hc, hs]
  · by_cases hc : Occurs commentCloser line
    · simp [hliteral, hc]
    · simp [hliteral, hc, or_comm]

/-- A scan that is inside a comment stays there on a line that closes none. -/
theorem inComment_classify_of_not_occurs (hs : s.inComment = true)
    (h : ¬ Occurs commentCloser line) : (s.classify (body line)).2.inComment = true := by
  rw [inComment_classify_iff, trim_body, isSolid_commentCloser.occurs_trim_iff]
  exact Or.inr ⟨Or.inr h, hs⟩

theorem inComment_before_of_not_occurs (hs : s.inComment = true)
    (h : ∀ line ∈ ls, ¬ Occurs commentCloser line) :
    ∀ l ∈ scan s ls, l.before.inComment = true := by
  induction ls generalizing s with
  | nil => exact fun l hl => absurd hl List.not_mem_nil
  | cons line rest ih =>
    intro l hl
    rw [scan_cons] at hl
    rcases List.mem_cons.1 hl with rfl | hl
    · exact hs
    · have hnext := inComment_classify_of_not_occurs hs (h line List.mem_cons_self)
      exact ih hnext (fun m hm => h m (List.mem_cons_of_mem line hm)) l hl

/-- Inside a comment no line is a selector line. -/
theorem kind_ne_selector_of_inComment {l : ScannedLine} (hl : l ∈ scan s ls)
    (h : l.before.inComment = true) : l.kind ≠ .selector := by
  obtain ⟨s, line, -, rfl⟩ := exists_read_of_mem_scan hl
  intro hk
  obtain rfl : s = .normal := eq_normal_of_selector hk
  exact absurd h Bool.false_ne_true

/-! ## All lines -/

/-- Every line is paired, and a literal line holds no delimiter, or holds both and starts outside a
    comment. -/
structure IsLaidOut (ls : List Text) : Prop where
  paired : ∀ line ∈ ls, IsPaired line
  literal : ∀ k line, ls[k]? = some line → IsLiteral (trim line) →
    ¬ Occurs commentOpener line ∧ ¬ Occurs commentCloser line ∨
      Occurs commentOpener line ∧ Occurs commentCloser line ∧
        leavesComment false (textBefore ls k) = false

theorem lastState_take_succ (h : ls[k]? = some line) :
    lastState s (ls.take (k + 1)) = ((lastState s (ls.take k)).classify (body line)).2 := by
  rw [List.take_add_one, lastState_append, h]
  rfl

theorem inComment_lastState (h : IsLaidOut ls) (k : Nat) :
    (lastState .normal (ls.take k)).inComment = leavesComment false (textBefore ls k) := by
  induction k with
  | zero => rfl
  | succ k ih =>
    cases hk : ls[k]? with
    | none =>
      rw [textBefore_succ_of_none hk, ← ih, List.take_add_one, hk]
      simp
    | some line =>
      have hstep : ((lastState .normal (ls.take k)).classify (body line)).2.inComment =
          leavesComment (lastState .normal (ls.take k)).inComment line := by
        refine inComment_classify_eq (h.paired line (List.mem_of_getElem? hk)) fun hl => ?_
        rcases h.literal k line hk hl with hnone | ⟨-, hc, hbefore⟩
        · exact Or.inl hnone
        · exact Or.inr ⟨hc, ih.trans hbefore⟩
      rw [lastState_take_succ hk, hstep, ih, textBefore_succ hk, leavesComment_append_newline,
        leavesComment_textBefore_append]

theorem inComment_after (h : IsLaidOut ls) {l : ScannedLine} (hl : (scan .normal ls)[k]? = some l) :
    l.after.inComment = leavesComment false (textBefore ls k ++ l.text) := by
  rw [getElem?_scan, Option.map_eq_some_iff] at hl
  obtain ⟨line, hline, rfl⟩ := hl
  have hafter := inComment_lastState h (k + 1)
  rwa [lastState_take_succ hline, textBefore_succ hline, leavesComment_append_newline] at hafter

/-- A line that scoping changes neither starts nor ends inside a comment. -/
theorem leavesComment_of_changed {w : WrapperClass} {css : Text} (h : IsLaidOut (lines css))
    (hline : (lines css)[k]? = some line)
    (hne : (lines (scope w.selector css).text)[k]? ≠ some line) :
    leavesComment false (textBefore (lines css) k) = false ∧
      leavesComment false (textBefore (lines css) k ++ line) = false := by
  have hentry : (scan .normal (lines css))[k]? =
      some (.read (lastState .normal ((lines css).take k)) line) := by
    rw [getElem?_scan, hline, Option.map_some]
  have hafter := inComment_after h hentry
  have hbefore := inComment_lastState h k
  rw [lines_scope, List.getElem?_map, hentry, Option.map_some, Ne, Option.some.injEq] at hne
  obtain ⟨t, ht⟩ := Option.isSome_iff_exists.1 (ScannedLine.output_ne_text_iff.1 hne)
  -- Such a line is read at the top level and leaves the scan there.
  obtain ⟨hnormal, hclassify, -⟩ := ScannedLine.exists_of_wrapped?_read ht
  have hstate : (ScannedLine.read (lastState .normal ((lines css).take k)) line).after =
      .normal := congrArg Prod.snd hclassify
  rw [hstate] at hafter
  rw [hnormal] at hbefore
  exact ⟨hbefore.symm, hafter.symm⟩

/-! ## Literal lines that do not keep to themselves -/

/-- A literal line opens a comment, and a rule stands inside it. -/
def openedByLiteral : List Text := [commentOpener, RuleLine.plainRule]

theorem lines_openedByLiteral : lines (joinLines openedByLiteral) = openedByLiteral :=
  lines_joinLines (by decide) (by decide)

theorem isPaired_openedByLiteral : ∀ line ∈ openedByLiteral, IsPaired line := by
  intro line hline
  rcases List.mem_pair.1 hline with rfl | rfl
  · exact ⟨by decide, by decide, by decide⟩
  · exact ⟨by decide, by decide, by decide⟩

/-- The scan has not seen the comment, so the rule inside it is given the wrapper. -/
theorem getElem?_scope_openedByLiteral (w : WrapperClass) :
    (lines (scope w.selector (joinLines openedByLiteral)).text)[1]? ≠
      some RuleLine.plainRule := by
  obtain ⟨out, hout⟩ := RuleLine.exists_scopeText?_plainRule w
  have hentry : (scan .normal openedByLiteral)[1]? = some (.read .normal RuleLine.plainRule) := by
    decide
  rw [lines_scope, lines_openedByLiteral, List.getElem?_map, hentry, Option.map_some,
    output_read_plainRule hout, Ne, Option.some.injEq]
  exact RuleLine.scopeText?_ne hout

/-- A comment is opened inside a line and closed by a literal line. -/
def closedByLiteral : List Text := ['x' :: commentOpener, commentCloser]

theorem isPaired_closedByLiteral : ∀ line ∈ closedByLiteral, IsPaired line := by
  intro line hline
  rcases List.mem_pair.1 hline with rfl | rfl
  · exact ⟨by decide, by decide, by decide⟩
  · exact ⟨by decide, by decide, by decide⟩

theorem lastState_closedByLiteral : lastState .normal closedByLiteral = .comment none := by
  decide

/-- The comment is closed for a reader of the characters. -/
theorem leavesComment_closedByLiteral (h : ∀ line ∈ ls, ¬ Occurs commentOpener line)
    (hk : closedByLiteral.length ≤ k) :
    leavesComment false (textBefore (closedByLiteral ++ ls) k) = false := by
  obtain ⟨n, rfl⟩ := Nat.exists_eq_add_of_le hk
  have hclosed : closedByLiteral.foldl leavesComment false = false := by decide
  rw [leavesComment_textBefore, List.take_length_add_append, List.foldl_append, hclosed]
  exact foldl_leavesComment_of_not_occurs fun line hline => h line (List.mem_of_mem_take hline)

/-- The scan stays inside the comment. -/
theorem inComment_before_closedByLiteral (h : ∀ line ∈ ls, ¬ Occurs commentCloser line) :
    ∀ l ∈ (scan .normal (closedByLiteral ++ ls)).drop closedByLiteral.length,
      l.before.inComment = true := by
  rw [scan_append, List.drop_left' (length_scan .normal closedByLiteral),
    lastState_closedByLiteral]
  exact inComment_before_of_not_occurs rfl h

theorem lines_closedByLiteral (hfeed : ∀ line ∈ ls, '\n' ∉ line) :
    lines (joinLines (closedByLiteral ++ ls)) = closedByLiteral ++ ls := by
  refine lines_joinLines (fun line hline => ?_) (by simp [closedByLiteral])
  rcases List.mem_append.1 hline with hline | hline
  · rcases List.mem_pair.1 hline with rfl | rfl
    · decide
    · decide
  · exact hfeed line hline

theorem scope_closedByLiteral (w : WrapperClass) (hfeed : ∀ line ∈ ls, '\n' ∉ line)
    (h : ∀ line ∈ ls, ¬ Occurs commentCloser line) :
    (scope w.selector (joinLines (closedByLiteral ++ ls))).text =
      joinLines (closedByLiteral ++ ls) := by
  have hfirst : ∀ l ∈ scan .normal closedByLiteral, l.kind ≠ .selector := by decide
  have hkinds : ∀ l ∈ scan .normal (closedByLiteral ++ ls), l.kind ≠ .selector := by
    rw [scan_append, lastState_closedByLiteral]
    intro l hl
    rcases List.mem_append.1 hl with hl | hl
    · exact hfirst l hl
    · exact kind_ne_selector_of_inComment hl (inComment_before_of_not_occurs rfl h l hl)
  refine eq_of_lines_eq ?_
  rw [lines_scope, lines_closedByLiteral hfeed, ScannedLine.map_output_eq_map_text hkinds,
    map_text_scan]

/-! ## The limit of following comments by lines -/

/-- On a stylesheet that is laid out, a comment is open for the scan after a line just when it is
    open for a reader of the characters, so that no changed line starts or ends inside a comment.
    With paired lines alone this does not hold: there is a stylesheet of which a line inside a
    comment is changed, and there are those in which no rule behind a closed comment is changed,
    because the scan stays inside. -/
theorem scan_follows_comments :
    (∀ css : Text, IsLaidOut (lines css) →
      (∀ (k : Nat) (l : ScannedLine), (scan .normal (lines css))[k]? = some l →
        textBefore (lines css) k ++ l.text <+: css ∧
        l.after.inComment = leavesComment false (textBefore (lines css) k ++ l.text)) ∧
      ∀ (w : WrapperClass) (k : Nat) (line : Text), (lines css)[k]? = some line →
        (lines (scope w.selector css).text)[k]? ≠ some line →
        leavesComment false (textBefore (lines css) k) = false ∧
          leavesComment false (textBefore (lines css) k ++ line) = false) ∧
    (lines (joinLines openedByLiteral) = openedByLiteral ∧
      (∀ line ∈ openedByLiteral, IsPaired line) ∧
      leavesComment false (textBefore openedByLiteral 1) = true ∧
      leavesComment false (textBefore openedByLiteral 1 ++ RuleLine.plainRule) = true ∧
      openedByLiteral[1]? = some RuleLine.plainRule ∧
      ∀ w : WrapperClass, (lines (scope w.selector (joinLines openedByLiteral)).text)[1]? ≠
        some RuleLine.plainRule) ∧
    ∀ rest : List Text, (∀ line ∈ rest, '\n' ∉ line ∧ ¬ Occurs commentOpener line ∧
        ¬ Occurs commentCloser line) →
      lines (joinLines (closedByLiteral ++ rest)) = closedByLiteral ++ rest ∧
      (∀ line ∈ closedByLiteral ++ rest, IsPaired line) ∧
      (∀ k, closedByLiteral.length ≤ k →
        leavesComment false (textBefore (closedByLiteral ++ rest) k) = false) ∧
      (∀ l ∈ (scan .normal (closedByLiteral ++ rest)).drop closedByLiteral.length,
        l.before.inComment = true) ∧
      ∀ w : WrapperClass, (scope w.selector (joinLines (closedByLiteral ++ rest))).text =
        joinLines (closedByLiteral ++ rest) := by
  refine ⟨fun css h => ⟨fun k l hl => ⟨?_, inComment_after h hl⟩, fun w k line hline hne => ?_⟩,
    ⟨lines_openedByLiteral, isPaired_openedByLiteral, by decide, by decide, rfl,
      getElem?_scope_openedByLiteral⟩, fun rest hrest => ?_⟩
  · rw [getElem?_scan, Option.map_eq_some_iff] at hl
    obtain ⟨line, hline, rfl⟩ := hl
    have hpre := textBefore_append_prefix hline
    rwa [joinLines_lines] at hpre
  · exact leavesComment_of_changed h hline hne
  · have hopener : ∀ line ∈ rest, ¬ Occurs commentOpener line := fun l hl => (hrest l hl).2.1
    have hcloser : ∀ line ∈ rest, ¬ Occurs commentCloser line := fun l hl => (hrest l hl).2.2
    have hfeed : ∀ line ∈ rest, '\n' ∉ line := fun l hl => (hrest l hl).1
    refine ⟨lines_closedByLiteral hfeed, fun line hline => ?_,
      fun k hk => leavesComment_closedByLiteral hopener hk,
      inComment_before_closedByLiteral hcloser, fun w => scope_closedByLiteral w hfeed hcloser⟩
    rcases List.mem_append.1 hline with hline | hline
    · exact isPaired_closedByLiteral line hline
    · exact isPaired_of_not_occurs (hopener line hline) (hcloser line hline)

/-- A comment on a line of its own, and a rule behind it. -/
def ruleBehindComment : List Text :=
  [commentOpener ++ ' ' :: commentCloser, RuleLine.plainRule]

/-- The rule is outside the comment and is given the wrapper. Behind a comment that a literal line
    closes it is not. -/
theorem scan_follows_comments_rule :
    IsLaidOut (lines (joinLines ruleBehindComment)) ∧
      leavesComment false (textBefore ruleBehindComment 1 ++ RuleLine.plainRule) = false ∧
      (scope WrapperClass.dash.selector (joinLines (closedByLiteral ++ [RuleLine.plainRule]))).text =
        joinLines (closedByLiteral ++ [RuleLine.plainRule]) := by
  have hlines : lines (joinLines ruleBehindComment) = ruleBehindComment :=
    lines_joinLines (by decide) (by decide)
  have hlaid : IsLaidOut ruleBehindComment := by
    refine ⟨fun line hline => ?_, fun k line hline hliteral => ?_⟩
    · rcases List.mem_pair.1 hline with rfl | rfl
      · exact ⟨by decide, by decide, by decide⟩
      · exact ⟨by decide, by decide, by decide⟩
    · -- Only the first line is a literal line, and nothing stands in front of it.
      match k, hline with
      | 0, hline =>
        obtain rfl := Option.some.inj hline
        exact Or.inr ⟨by decide, by decide, rfl⟩
      | 1, hline =>
        obtain rfl := Option.some.inj hline
        exact absurd hliteral (by decide)
      | k + 2, hline => exact absurd hline (by simp [ruleBehindComment])
  refine ⟨hlines.symm ▸ hlaid, ?_, ?_⟩
  · have hchanged := (scan_follows_comments.1 (joinLines ruleBehindComment) (hlines.symm ▸ hlaid)).2
      WrapperClass.dash 1 RuleLine.plainRule (by decide) (by decide)
    rw [hlines] at hchanged
    exact hchanged.2
  · refine (scan_follows_comments.2.2 [RuleLine.plainRule] ?_).2.2.2.2 WrapperClass.dash
    exact List.forall_mem_singleton.2 (by decide)

end StyleScope.Stylesheet
