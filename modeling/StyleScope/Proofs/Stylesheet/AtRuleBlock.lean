/-
  StyleScope.Proofs.Stylesheet.AtRuleBlock

  The block of an at-rule as its braces nest, and as far as a scan follows it.

  The block that a line opens ends where as many braces are closed as were opened
  (`IsAtRuleBlock`). A scan counts no braces: it leaves the block at the first lone `}`, whichever
  brace that one closes, and is inside again behind the next line that opens an at-rule (`IsLeft`).
  Without comments this is all that the state depends on (`atRule?_lastState_eq_none_iff`). So a
  line of the block changes just when the block was left before it and it would change on its own
  (`changed_in_block_iff`). Of two nested rules over several lines, the second does
  (`changed_behind_nested_rule`).
-/
import StyleScope.Proofs.Stylesheet.Comments
import StyleScope.Proofs.Stylesheet.Twice

namespace StyleScope.Stylesheet

open Text ScanState History

variable {ls : List Text} {line css : Text} {s : ScanState} {w : WrapperClass} {i j k : Nat}

/-! ## Blocks as their braces nest -/

/-- A trimmed line that starts with the word of an at-rule and ends with its only `{`. -/
def OpensAtRule (trimmed : Text) : Prop :=
  (AtRule.media.keyword <+: trimmed ∨ AtRule.keyframes.keyword <+: trimmed) ∧
    trimmed.getLast? = some '{' ∧ trimmed.count '{' = 1

instance (trimmed : Text) : Decidable (OpensAtRule trimmed) :=
  inferInstanceAs (Decidable ((_ ∨ _) ∧ _))

/-- A line with nothing but a `}`. -/
def IsLoneBrace (line : Text) : Prop := trim line = ['}']

instance (line : Text) : Decidable (IsLoneBrace line) := inferInstanceAs (Decidable (_ = _))

/-- The text of the lines `i` to `k`, without their line feeds. -/
def between (ls : List Text) (i k : Nat) : Text := ((ls.take (k + 1)).drop i).flatten

/-- Lines `i` to `k` close as many braces as they open. -/
def BracesMatch (ls : List Text) (i k : Nat) : Prop :=
  (between ls i k).count '{' = (between ls i k).count '}'

instance (ls : List Text) (i k : Nat) : Decidable (BracesMatch ls i k) :=
  inferInstanceAs (Decidable (_ = _))

/-- Lines `i` to `j` are the block of an at-rule: the first opens it, and the last is a lone `}` and
    the first line at which as many braces are closed as were opened. -/
structure IsAtRuleBlock (ls : List Text) (i j : Nat) : Prop where
  lt : i < j
  opens : LineIs ls (fun line => OpensAtRule (trim line)) i
  closes : LineIs ls IsLoneBrace j
  braces_match : BracesMatch ls i j
  not_before : ∀ k < j, i ≤ k → ¬ BracesMatch ls i k

/-! ## Blocks as a scan follows them -/

/-- A line that takes the scan into the block of an at-rule, if it stands outside comments. -/
def EntersBlock (line : Text) : Prop := ¬ IsLiteral (trim line) ∧ openedRule? (trim line) ≠ none

instance (line : Text) : Decidable (EntersBlock line) := inferInstanceAs (Decidable (_ ∧ _))

/-- Behind line `i` and before line `k` stands a lone `}`, and no line from there to line `k` enters
    a block. -/
def IsLeft (ls : List Text) (i k : Nat) : Prop :=
  ∃ m < k, (i < m ∧ LineIs ls IsLoneBrace m) ∧ ∀ n < k, m < n → ¬ LineIs ls EntersBlock n

theorem not_isLiteral_of_isLoneBrace (h : IsLoneBrace line) : ¬ IsLiteral (trim line) := by
  have hbrace : trim line = ['}'] := h
  rw [hbrace]
  decide

theorem not_entersBlock_of_isLoneBrace (h : IsLoneBrace line) : ¬ EntersBlock line := by
  have hbrace : trim line = ['}'] := h
  rw [EntersBlock, hbrace]
  decide

/-- A line that starts with the word of an at-rule is no literal line. -/
theorem entersBlock_of_opensAtRule (h : OpensAtRule (trim line)) : EntersBlock line := by
  obtain ⟨rule, hrule⟩ : ∃ rule : AtRule, rule.keyword <+: trim line :=
    h.1.elim (fun hm => ⟨.media, hm⟩) (fun hk => ⟨.keyframes, hk⟩)
  constructor
  · rintro ⟨start, hstart, hline⟩
    -- Of two starts of one line the shorter starts the longer.
    have hwords : ∀ start ∈ literalStarts, ¬ start <+: rule.keyword ∧ ¬ rule.keyword <+: start := by
      cases rule <;> decide
    rcases List.prefix_or_prefix_of_prefix hline hrule with hpre | hpre
    · exact (hwords start hstart).1 hpre
    · exact (hwords start hstart).2 hpre
  · intro hnone
    obtain ⟨hmedia, hkeyframes⟩ := openedRule?_eq_none_iff.1 hnone
    have hoccurs : Occurs rule.keyword (trim line) := hrule.isInfix
    cases rule with
    | media => exact hmedia hoccurs
    | keyframes => exact hkeyframes hoccurs

/-! ## One line without comments -/

/-- Without comment openers a scan does not get into a comment. -/
theorem inComment_lastState_of_not_occurs (hs : s.inComment = false)
    (h : ∀ line ∈ ls, ¬ Occurs commentOpener line) : (lastState s ls).inComment = false := by
  induction ls generalizing s with
  | nil => exact hs
  | cons line rest ih =>
    have hopener : ¬ Occurs commentOpener line := h line List.mem_cons_self
    have hnext : (s.classify (body line)).2.inComment = false := by
      rw [Bool.eq_false_iff]
      intro hin
      rw [inComment_classify_iff, trim_body, isSolid_commentOpener.occurs_trim_iff] at hin
      simp [hopener, hs] at hin
    rw [lastState_cons]
    exact ih hnext fun l hl => h l (List.mem_cons_of_mem line hl)

/-- A token that a stylesheet does not hold, none of its lines holds. -/
theorem not_occurs_of_mem_lines {token : Text} (ht : IsSolid token) (h : ¬ Occurs token css) :
    ∀ line ∈ lines css, ¬ Occurs token line := by
  intro line hline hoccurs
  have hfeed : ∀ c ∈ ['\n'], c ∉ token := by
    intro c hc hmem
    obtain rfl := List.mem_singleton.1 hc
    exact absurd (ht.no_blank '\n' hmem) (by decide)
  have hjoined : Occurs token (joinLines (lines css)) :=
    (occurs_intercalate_iff ht.ne_nil (List.cons_ne_nil '\n' []) hfeed _).2 ⟨line, hline, hoccurs⟩
  rw [joinLines_lines] at hjoined
  exact h hjoined

/-- Outside comments, a line without a delimiter leaves the scan at the top level if it enters no
    block and the scan was there before or the line is a lone `}`. -/
theorem atRule?_classify_eq_none_iff (hs : s.inComment = false)
    (ho : ¬ Occurs commentOpener line) (hc : ¬ Occurs commentCloser line) :
    (s.classify (body line)).2.atRule? = none ↔
      ¬ EntersBlock line ∧ (IsLoneBrace line ∨ s.atRule? = none) := by
  rw [atRule?_classify, trim_body]
  by_cases hl : IsLiteral (trim line)
  · have hactive : ¬ s.IsActive (body line) := by
      intro ha
      rw [IsActive, trim_body] at ha
      exact ha.1 hl
    have henters : ¬ EntersBlock line := fun h => h.1 hl
    have hbrace : ¬ IsLoneBrace line := fun h => not_isLiteral_of_isLoneBrace h hl
    simp [hactive, henters, hbrace]
  · have hactive : s.IsActive (body line) := by
      rw [IsActive, trim_body, isSolid_commentOpener.occurs_trim_iff,
        isSolid_commentCloser.occurs_trim_iff]
      exact ⟨hl, ho, hc, hs⟩
    have henters : EntersBlock line ↔ openedRule? (trim line) ≠ none := and_iff_right hl
    rw [if_pos hactive, henters, not_not, Option.or_eq_none_iff]
    by_cases hbrace : IsLoneBrace line
    · have htrim : trim line = ['}'] := hbrace
      simp [hbrace, htrim]
    · have htrim : trim line ≠ ['}'] := hbrace
      simp [hbrace, htrim]

/-! ## The lines of a block -/

theorem inComment_lastState_take (h : ∀ line ∈ ls, ¬ Occurs commentOpener line) (k : Nat) :
    (lastState .normal (ls.take k)).inComment = false :=
  inComment_lastState_of_not_occurs rfl fun line hline => h line (List.mem_of_mem_take hline)

theorem atRule?_lastState_succ (ho : ∀ line ∈ ls, ¬ Occurs commentOpener line)
    (hc : ∀ line ∈ ls, ¬ Occurs commentCloser line) (hline : ls[k]? = some line) :
    (lastState .normal (ls.take (k + 1))).atRule? = none ↔
      ¬ EntersBlock line ∧
        (IsLoneBrace line ∨ (lastState .normal (ls.take k)).atRule? = none) := by
  rw [lastState_take_succ hline]
  exact atRule?_classify_eq_none_iff (inComment_lastState_take ho k)
    (ho line (List.mem_of_getElem? hline)) (hc line (List.mem_of_getElem? hline))

theorem isLeft_succ_iff :
    IsLeft ls i (k + 1) ↔
      (i < k ∧ LineIs ls IsLoneBrace k) ∨ IsLeft ls i k ∧ ¬ LineIs ls EntersBlock k :=
  exists_since_succ_iff

theorem not_isLeft_of_le (h : k ≤ i + 1) : ¬ IsLeft ls i k := by
  rintro ⟨m, hm, ⟨him, -⟩, -⟩
  omega

/-- Behind the line that opens a block, the scan is at the top level just when it has left the
    block. -/
theorem atRule?_lastState_eq_none_iff
    (ho : ∀ line ∈ ls, ¬ Occurs commentOpener line) (hc : ∀ line ∈ ls, ¬ Occurs commentCloser line)
    (hi : LineIs ls EntersBlock i) (hik : i < k) :
    (lastState .normal (ls.take k)).atRule? = none ↔ IsLeft ls i k := by
  -- By induction on the lines read behind the opener.
  induction k, hik using Nat.le_induction with
  | base =>
    obtain ⟨line, hline, henters⟩ := hi
    rw [atRule?_lastState_succ ho hc hline]
    constructor
    · exact fun h => absurd henters h.1
    · exact fun h => absurd h (not_isLeft_of_le (Nat.le_refl _))
  | succ k hik ih =>
    have hbefore : (lastState .normal (ls.take k)).atRule? = none ↔ IsLeft ls i k := ih
    have hlt : i < k := hik
    rw [isLeft_succ_iff]
    cases hk : ls[k]? with
    | none =>
      have hstay : ls.take (k + 1) = ls.take k := by
        rw [List.take_add_one, hk]
        exact List.append_nil _
      rw [hstay, hbefore]
      simp [not_lineIs_of_none hk]
    | some line =>
      rw [atRule?_lastState_succ ho hc hk, hbefore, lineIs_iff hk, lineIs_iff hk]
      constructor
      · rintro ⟨henters, hbrace | hleft⟩
        · exact Or.inl ⟨hlt, hbrace⟩
        · exact Or.inr ⟨hleft, henters⟩
      · rintro (⟨-, hbrace⟩ | ⟨hleft, henters⟩)
        · exact ⟨not_entersBlock_of_isLoneBrace hbrace, Or.inl hbrace⟩
        · exact ⟨henters, Or.inr hleft⟩

/-! ## What changes in a block -/

/-- A line changes just when it is read at the top level and would change on its own. -/
theorem output_read_ne_iff_alone (h : '\n' ∉ line) (hs : s.inComment = false) :
    (ScannedLine.read s line).output w.selector ≠ line ↔
      s.atRule? = none ∧ (scope w.selector line).text ≠ line := by
  have hlines : lines line = [line] := lines_of_newline_notMem h
  have halone : (scope w.selector line).text = (ScannedLine.read .normal line).output w.selector := by
    show joinLines ((scan .normal (lines line)).map (·.output w.selector)) = _
    rw [hlines]
    exact joinLines_singleton _
  rw [halone]
  constructor
  · intro hchanged
    obtain rfl : s = .normal := eq_normal_of_selector (output_read_ne_iff.1 hchanged).1
    exact ⟨rfl, hchanged⟩
  · rintro ⟨hrule, hchanged⟩
    obtain rfl : s = .normal := eq_of_atRule?_inComment hrule hs
    exact hchanged

/-- The line that enters a block does not change. -/
theorem scope_line_of_entersBlock (h : '\n' ∉ line) (henters : EntersBlock line) :
    (scope w.selector line).text = line := by
  by_contra hne
  have hchanged := (output_read_ne_iff_alone (s := .normal) h rfl).2 ⟨rfl, hne⟩
  have hselector := (output_read_ne_iff.1 hchanged).1
  obtain ⟨-, hnone, -⟩ := (classify_fst_eq_selector_iff _ _).1 hselector
  rw [trim_body] at hnone
  exact henters.2 hnone

/-- In a block of a stylesheet without comments, all lines up to the first lone `}` behind the opener
    come out as they were. A line changes just when a lone `}` stands before it in the block, no line
    in between opens an at-rule, and it would change on its own. -/
theorem changed_in_block_iff (w : WrapperClass) (css : Text) (hopener : ¬ Occurs commentOpener css)
    (hcloser : ¬ Occurs commentCloser css) (i j k : Nat) (hblock : IsAtRuleBlock (lines css) i j)
    (hik : i ≤ k) (hkj : k ≤ j) :
    ∃ line, (lines css)[k]? = some line ∧
      ((∀ m < k, i < m → ¬ LineIs (lines css) IsLoneBrace m) →
        (lines (scope w.selector css).text)[k]? = some line) ∧
      ((lines (scope w.selector css).text)[k]? ≠ some line ↔
        IsLeft (lines css) i k ∧ (scope w.selector line).text ≠ line) := by
  have hlen : k < (lines css).length := by
    obtain ⟨last, hlast, -⟩ := hblock.closes
    obtain ⟨hj, -⟩ := List.getElem?_eq_some_iff.1 hlast
    omega
  have hline : (lines css)[k]? = some (lines css)[k] := List.getElem?_eq_getElem hlen
  have hfeed : '\n' ∉ (lines css)[k] := newline_notMem_of_mem_lines (List.getElem_mem hlen)
  have ho := not_occurs_of_mem_lines isSolid_commentOpener hopener
  have hc := not_occurs_of_mem_lines isSolid_commentCloser hcloser
  have hi : LineIs (lines css) EntersBlock i := by
    obtain ⟨line, hline, hopens⟩ := hblock.opens
    exact ⟨line, hline, entersBlock_of_opensAtRule hopens⟩
  have houtside := inComment_lastState_take ho k
  have hchanged : (lines (scope w.selector css).text)[k]? ≠ some (lines css)[k] ↔
      IsLeft (lines css) i k ∧ (scope w.selector (lines css)[k]).text ≠ (lines css)[k] := by
    rw [lines_scope, List.getElem?_map, getElem?_scan, hline, Option.map_some, Option.map_some, Ne,
      Option.some.injEq]
    rw [← Ne, output_read_ne_iff_alone hfeed houtside]
    rcases Nat.lt_or_eq_of_le hik with hlt | rfl
    · rw [atRule?_lastState_eq_none_iff ho hc hi hlt]
    · -- The opener itself stands in no block of its own, and is no selector line anywhere.
      obtain ⟨line, hopens, henters⟩ := hi
      obtain rfl : (lines css)[i] = line := Option.some.inj (hline.symm.trans hopens)
      have hsame := scope_line_of_entersBlock (w := w) hfeed henters
      constructor
      · exact fun h => absurd hsame h.2
      · exact fun h => absurd hsame h.2
  refine ⟨_, hline, ?_, hchanged⟩
  intro hbraces
  by_contra hne
  obtain ⟨⟨m, hm, ⟨him, hbrace⟩, -⟩, -⟩ := hchanged.1 hne
  exact hbraces m hm him hbrace

/-! ## Two rules in one block -/

/-- A media rule that holds two rules, each written over two lines. -/
def nestedRules : List Text :=
  [AtRule.media.keyword ++ [' ', '{'], RuleLine.plainRule, ['}'], RuleLine.plainRule, ['}'], ['}']]

theorem lines_nestedRules : lines (joinLines nestedRules) = nestedRules :=
  lines_joinLines (by decide) (by decide)

theorem isAtRuleBlock_nestedRules : IsAtRuleBlock nestedRules 0 5 where
  lt := by decide
  opens := by decide
  closes := by decide
  braces_match := by decide
  not_before := by decide

/-- The first of the two rules and its brace come out as they were, and the second rule changes. -/
theorem changed_in_block_iff_nestedRules :
    ¬ Occurs commentOpener (joinLines nestedRules) ∧
      ¬ Occurs commentCloser (joinLines nestedRules) ∧
      IsAtRuleBlock (lines (joinLines nestedRules)) 0 5 ∧
      (lines (scope WrapperClass.dash.selector (joinLines nestedRules)).text)[2]? = some ['}'] ∧
      (lines (scope WrapperClass.dash.selector (joinLines nestedRules)).text)[3]? ≠
        some RuleLine.plainRule := by
  have hblock : IsAtRuleBlock (lines (joinLines nestedRules)) 0 5 := by
    rw [lines_nestedRules]
    exact isAtRuleBlock_nestedRules
  have hopener : ¬ Occurs commentOpener (joinLines nestedRules) := by decide
  have hcloser : ¬ Occurs commentCloser (joinLines nestedRules) := by decide
  refine ⟨hopener, hcloser, hblock, ?_, ?_⟩
  · obtain ⟨line, hline, hkept, -⟩ := changed_in_block_iff WrapperClass.dash _ hopener hcloser 0 5 2
      hblock (by decide) (by decide)
    rw [lines_nestedRules] at hline hkept
    obtain rfl : ['}'] = line := Option.some.inj hline
    exact hkept (by decide)
  · obtain ⟨line, hline, -, hchanged⟩ := changed_in_block_iff WrapperClass.dash _ hopener hcloser 0
      5 3 hblock (by decide) (by decide)
    rw [lines_nestedRules] at hline hchanged
    obtain rfl : RuleLine.plainRule = line := Option.some.inj hline
    exact hchanged.2 ⟨⟨2, by decide⟩, by decide⟩

/-- The lone brace of a nested rule lets the scan out of the block, so a rule behind it that the
    block holds as well is given the wrapper. -/
theorem changed_behind_nested_rule :
    ¬ Occurs commentOpener (joinLines nestedRules) ∧
      ¬ Occurs commentCloser (joinLines nestedRules) ∧
      IsAtRuleBlock (lines (joinLines nestedRules)) 0 5 ∧
      (lines (joinLines nestedRules))[3]? = some RuleLine.plainRule ∧
      (lines (scope WrapperClass.dash.selector (joinLines nestedRules)).text)[3]? =
        some (WrapperClass.dash.selector ++ ' ' :: RuleLine.plainRule) := by
  have hopener : ∀ line ∈ nestedRules, ¬ Occurs commentOpener line := by decide
  have hcloser : ∀ line ∈ nestedRules, ¬ Occurs commentCloser line := by decide
  have hleft : IsLeft nestedRules 0 3 := ⟨2, by decide⟩
  have hnormal : lastState .normal (nestedRules.take 3) = .normal := by
    apply eq_of_atRule?_inComment
    · exact (atRule?_lastState_eq_none_iff hopener hcloser (by decide) (by decide)).2 hleft
    · exact inComment_lastState_take hopener 3
  have hrule : (ScannedLine.read .normal RuleLine.plainRule).output WrapperClass.dash.selector =
      WrapperClass.dash.selector ++ ' ' :: RuleLine.plainRule := by decide
  have hline : nestedRules[3]? = some RuleLine.plainRule := rfl
  rw [lines_nestedRules]
  refine ⟨by decide, by decide, isAtRuleBlock_nestedRules, hline, ?_⟩
  rw [lines_scope, lines_nestedRules, List.getElem?_map, getElem?_scan, hline, hnormal]
  exact congrArg some hrule

end StyleScope.Stylesheet
