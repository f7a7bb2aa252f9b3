/-
  StyleScope.Proofs.ScanState.Transition

  What a line does to the state of a scan.

  `Reading` has one constructor for each rule of the scanner, with all that holds when the rule is
  the first that fits, and `reading_classify` says that the scanner goes by these rules. It goes by
  the trimmed line alone (`classify_eq_of_trim_eq`), also where it looks for the end of a block,
  because only blanks stand before a lone `}` (`closesBlock_iff`). A state is known by two things,
  whether a comment is open and which at-rule block is. What follows for each of the two is one
  equation (`inComment_classify_iff`, `atRule?_classify`), in which the comment does not depend on
  the block. The lines that close a block and the selector lines are told apart by
  `classify_fst_eq_atRuleClose_iff` and `classify_fst_eq_selector_iff`, and a selector line leaves
  the state as it is (`classify_snd_of_selector`).
-/
import StyleScope.Proofs.SelectorList.Nested
import StyleScope.ScanState

namespace StyleScope

open Text

/-! ## The tokens of the scanner -/

/-- The tokens that the scanner looks for anywhere in a line. -/
def scanTokens : List Text :=
  [commentOpener, commentCloser, AtRule.media.keyword, AtRule.keyframes.keyword]

theorem isSolid_of_mem_scanTokens : ∀ token ∈ scanTokens, IsSolid token := by
  have hcheck : ∀ token ∈ scanTokens, token ≠ [] ∧ token.all (!isBlank ·) = true ∧
      ',' ∉ token ∧ ':' ∉ token ∧ '{' ∉ token := by decide
  intro token htoken
  obtain ⟨hne, hblank, hcomma, hcolon, hbrace⟩ := hcheck token htoken
  refine ⟨hne, fun c hc => ?_, hcomma, hcolon, hbrace⟩
  simpa using List.all_eq_true.1 hblank c hc

theorem isSolid_commentOpener : IsSolid commentOpener :=
  isSolid_of_mem_scanTokens _ (by decide)

theorem isSolid_commentCloser : IsSolid commentCloser :=
  isSolid_of_mem_scanTokens _ (by decide)

theorem isSolid_keyword (rule : AtRule) : IsSolid rule.keyword :=
  isSolid_of_mem_scanTokens _ (by cases rule <;> decide)

/-- The at-rule that a trimmed line opens the block of, if it has to do with no comment. -/
def openedRule? (trimmed : Text) : Option AtRule :=
  if Occurs AtRule.media.keyword trimmed then some .media
  else if Occurs AtRule.keyframes.keyword trimmed then some .keyframes
  else none

theorem openedRule?_eq_none_iff {trimmed : Text} :
    openedRule? trimmed = none ↔
      ¬ Occurs AtRule.media.keyword trimmed ∧ ¬ Occurs AtRule.keyframes.keyword trimmed := by
  unfold openedRule?
  split
  · simp [*]
  · split <;> simp [*]

/-! ## How a line starts and ends -/

/-- No literal line starts like a class. -/
theorem not_isLiteral_of_dot (t : Text) : ¬ IsLiteral ('.' :: t) := by
  simp [IsLiteral, literalStarts, commentOpener]

/-- Nothing but blanks stands before the brace of a lone `}`. -/
theorem closesBlock_iff {line : Text} : ClosesBlock line ↔ trim line = ['}'] := by
  constructor
  · exact And.left
  · intro h
    refine ⟨h, fun c hc => ?_⟩
    rw [takeWhile_ne_of_trim_eq_cons h] at hc
    have hblank : isBlank c = true := isBlank_of_mem_indent hc
    exact ⟨ne_of_isBlank hblank (by decide), ne_of_isBlank hblank (by decide)⟩

namespace ScanState

/-! ## The two things that a state holds -/

@[simp] theorem inComment_normal : inComment .normal = false := rfl

@[simp] theorem inComment_comment (rule : Option AtRule) : inComment (.comment rule) = true := rfl

@[simp] theorem inComment_block (rule : AtRule) : inComment (.block rule) = false := rfl

@[simp] theorem atRule?_normal : atRule? .normal = none := rfl

@[simp] theorem atRule?_block (rule : AtRule) : atRule? (.block rule) = some rule := rfl

/-! ## The rules -/

/-- The line is neither a literal nor has to do with a comment. -/
def IsActive (s : ScanState) (line : Text) : Prop :=
  ¬ IsLiteral (trim line) ∧ ¬ Occurs commentOpener (trim line) ∧
    ¬ Occurs commentCloser (trim line) ∧ s.inComment = false

instance (s : ScanState) (line : Text) : Decidable (s.IsActive line) :=
  inferInstanceAs (Decidable (_ ∧ _))

/-- What a line is and the state after it, by the first rule that fits. -/
inductive Reading (s : ScanState) (line : Text) : LineKind × ScanState → Prop where
  | literal (hl : IsLiteral (trim line)) : Reading s line (.literal, s)
  | commentClose (hl : ¬ IsLiteral (trim line)) (hc : Occurs commentCloser (trim line)) :
      Reading s line (.commentClose, outside s.atRule?)
  | comment (hl : ¬ IsLiteral (trim line)) (hc : ¬ Occurs commentCloser (trim line))
      (ho : s.inComment = true ∨ Occurs commentOpener (trim line)) :
      Reading s line (.comment, .comment s.atRule?)
  | atRuleOpen (rule : AtRule) (ha : s.IsActive line) (hk : openedRule? (trim line) = some rule) :
      Reading s line (.atRuleOpen rule, .block rule)
  | atRuleClose (ha : s.IsActive line) (hk : openedRule? (trim line) = none)
      (hb : s.atRule?.isSome = true) (hc : trim line = ['}']) :
      Reading s line (.atRuleClose, .normal)
  | inAtRule (ha : s.IsActive line) (hk : openedRule? (trim line) = none)
      (hb : s.atRule?.isSome = true) (hc : trim line ≠ ['}']) : Reading s line (.inAtRule, s)
  | selector (ha : s.IsActive line) (hk : openedRule? (trim line) = none) (hb : s.atRule? = none)
      (ho : OpensRule (trim line)) : Reading s line (.selector, s)
  | other (ha : s.IsActive line) (hk : openedRule? (trim line) = none) (hb : s.atRule? = none)
      (ho : ¬ OpensRule (trim line)) : Reading s line (.other, s)

theorem reading_classify (s : ScanState) (line : Text) : Reading s line (s.classify line) := by
  rw [classify]
  -- Each case leaves behind that its own rule does not fit.
  by_cases hl : IsLiteral (trim line)
  · rw [if_pos hl]
    exact .literal hl
  rw [if_neg hl]
  by_cases hc : Occurs commentCloser (trim line)
  · rw [if_pos hc]
    exact .commentClose hl hc
  rw [if_neg hc]
  by_cases ho : s.inComment = true ∨ Occurs commentOpener (trim line)
  · rw [if_pos ho]
    exact .comment hl hc ho
  rw [if_neg ho]
  have ha : s.IsActive line :=
    ⟨hl, fun h => ho (Or.inr h), hc, Bool.eq_false_iff.2 fun h => ho (Or.inl h)⟩
  by_cases hm : Occurs AtRule.media.keyword (trim line)
  · rw [if_pos hm]
    exact .atRuleOpen .media ha (if_pos hm)
  rw [if_neg hm]
  by_cases hf : Occurs AtRule.keyframes.keyword (trim line)
  · rw [if_pos hf]
    exact .atRuleOpen .keyframes ha ((if_neg hm).trans (if_pos hf))
  rw [if_neg hf]
  have hk : openedRule? (trim line) = none := openedRule?_eq_none_iff.2 ⟨hm, hf⟩
  by_cases hb : s.atRule?.isSome = true
  · rw [if_pos hb]
    by_cases hclose : ClosesBlock line
    · rw [if_pos hclose]
      exact .atRuleClose ha hk hb hclose.1
    · rw [if_neg hclose]
      exact .inAtRule ha hk hb fun h => hclose (closesBlock_iff.2 h)
  rw [if_neg hb]
  have hnone : s.atRule? = none := by simpa using hb
  by_cases hr : OpensRule (trim line)
  · rw [if_pos hr]
    exact .selector ha hk hnone hr
  · rw [if_neg hr]
    exact .other ha hk hnone hr

/-- The scanner sees no more of a line than its trimmed text. -/
theorem classify_eq_of_trim_eq {a b : Text} (h : trim a = trim b) (s : ScanState) :
    s.classify a = s.classify b := by
  have hcloses : ClosesBlock a ↔ ClosesBlock b := by
    rw [closesBlock_iff, closesBlock_iff, h]
  simp only [classify, h, hcloses]

/-- Blanks around a line mean nothing to the scanner. -/
theorem classify_between_blanks {a b : Text} (ha : ∀ c ∈ a, isBlank c = true)
    (hb : ∀ c ∈ b, isBlank c = true) (s : ScanState) (line : Text) :
    s.classify (a ++ line ++ b) = s.classify line := by
  apply classify_eq_of_trim_eq
  rw [trim_append_blanks hb, trim_blanks_append ha]

/-! ## The lines of a comment -/

/-- The line that opens a comment keeps in mind the block that the comment stands in. -/
theorem classify_opener {line : Text} (hl : ¬ IsLiteral (trim line))
    (ho : Occurs commentOpener line) (hc : ¬ Occurs commentCloser line) (s : ScanState) :
    s.classify line = (.comment, .comment s.atRule?) := by
  have hopen : Occurs commentOpener (trim line) := (isSolid_commentOpener.occurs_trim_iff line).2 ho
  have hclose : ¬ Occurs commentCloser (trim line) :=
    mt (isSolid_commentCloser.occurs_trim_iff line).1 hc
  rw [classify, if_neg hl, if_neg hclose, if_pos (Or.inr hopen)]

/-- The line that closes a comment goes back to the block that the comment stands in. -/
theorem classify_closer {line : Text} (hl : ¬ IsLiteral (trim line))
    (hc : Occurs commentCloser line) (s : ScanState) :
    s.classify line = (.commentClose, outside s.atRule?) := by
  have hclose : Occurs commentCloser (trim line) :=
    (isSolid_commentCloser.occurs_trim_iff line).2 hc
  rw [classify, if_neg hl, if_pos hclose]

/-- A line inside a comment that does not close it. -/
theorem classify_inside {line : Text} (h : IsLiteral (trim line) ∨ ¬ Occurs commentCloser line)
    (rule : Option AtRule) :
    ((comment rule).classify line).1 ≠ .selector ∧
      ((comment rule).classify line).2 = comment rule := by
  by_cases hl : IsLiteral (trim line)
  · rw [classify, if_pos hl]
    exact ⟨by simp, rfl⟩
  · have hclose : ¬ Occurs commentCloser (trim line) :=
      mt (isSolid_commentCloser.occurs_trim_iff line).1 (h.resolve_left hl)
    rw [classify, if_neg hl, if_neg hclose, if_pos (Or.inl (inComment_comment rule))]
    exact ⟨by simp, rfl⟩

/-- Outside comments a state is known by its block. -/
theorem outside_atRule? {s : ScanState} (h : s.inComment = false) : outside s.atRule? = s := by
  apply eq_of_atRule?_inComment
  · exact atRule?_outside s.atRule?
  · rw [inComment_outside, h]

/-! ## The state after a line -/

/-- Whether a comment is open after a line does not depend on the block that is. -/
theorem inComment_classify_iff (s : ScanState) (line : Text) :
    (s.classify line).2.inComment = true ↔
      (¬ IsLiteral (trim line) ∧ Occurs commentOpener (trim line) ∧
          ¬ Occurs commentCloser (trim line)) ∨
        ((IsLiteral (trim line) ∨ ¬ Occurs commentCloser (trim line)) ∧ s.inComment = true) := by
  have h := reading_classify s line
  generalize s.classify line = result at h ⊢
  cases h with
  | literal hl => simp [hl]
  | commentClose hl hc => simp [hl, hc, inComment_outside]
  | comment hl hc ho => simp [hl, hc, ho.symm]
  -- An active line opens no comment and is in none.
  | atRuleOpen rule ha hk => simp [ha.2.1, ha.2.2.2]
  | atRuleClose ha hk hb hc => simp [ha.2.1, ha.2.2.2]
  | inAtRule ha hk hb hc => simp [ha.2.1, ha.2.2.2]
  | selector ha hk hb ho => simp [ha.2.1, ha.2.2.2]
  | other ha hk hb ho => simp [ha.2.1, ha.2.2.2]

theorem not_isActive_of_inComment_or {s : ScanState} {line : Text}
    (h : s.inComment = true ∨ Occurs commentOpener (trim line)) : ¬ s.IsActive line := by
  rintro ⟨-, ho, -, hs⟩
  rcases h with h | h
  · rw [hs] at h
    exact Bool.false_ne_true h
  · exact ho h

/-- Only active lines open or close the block of an at-rule. -/
theorem atRule?_classify (s : ScanState) (line : Text) :
    (s.classify line).2.atRule? =
      if s.IsActive line then
        (openedRule? (trim line)).or (if trim line = ['}'] then none else s.atRule?)
      else s.atRule? := by
  have h := reading_classify s line
  generalize s.classify line = result at h ⊢
  cases h with
  | literal hl => exact (if_neg fun ha => ha.1 hl).symm
  | commentClose hl hc =>
    rw [if_neg fun ha : s.IsActive line => ha.2.2.1 hc]
    exact atRule?_outside s.atRule?
  | comment hl hc ho => exact (if_neg (not_isActive_of_inComment_or ho)).symm
  | atRuleOpen rule ha hk => simp [ha, hk]
  | atRuleClose ha hk hb hc =>
    rw [if_pos ha, hk, if_pos hc]
    rfl
  | inAtRule ha hk hb hc => simp [ha, hk, hc]
  | selector ha hk hb ho => simp [ha, hk, hb]
  | other ha hk hb ho => simp [ha, hk, hb]

/-! ## Lines that close a block -/

theorem isActive_of_lone_brace {s : ScanState} {line : Text} (hs : s.inComment = false)
    (h : trim line = ['}']) : s.IsActive line := by
  rw [IsActive, h]
  exact ⟨by decide, by decide, by decide, hs⟩

theorem openedRule?_lone_brace : openedRule? ['}'] = none := by decide

/-- In the block of an at-rule a lone `}` closes it, and nothing else closes a block. -/
theorem classify_fst_eq_atRuleClose_iff (s : ScanState) (line : Text) :
    (s.classify line).1 = .atRuleClose ↔ (∃ rule, s = .block rule) ∧ trim line = ['}'] := by
  have h := reading_classify s line
  generalize s.classify line = result at h ⊢
  constructor
  · intro hkind
    cases h with
    | atRuleClose ha hk hb hc =>
      obtain ⟨rule, hrule⟩ := Option.isSome_iff_exists.1 hb
      have hs : s.inComment = false := ha.2.2.2
      exact ⟨⟨rule, eq_of_atRule?_inComment hrule hs⟩, hc⟩
    | _ => exact absurd hkind (by simp)
  · rintro ⟨⟨rule, rfl⟩, hline⟩
    have hactive : (block rule).IsActive line := isActive_of_lone_brace rfl hline
    -- No other rule fits a lone brace that is read in a block.
    cases h with
    | literal hl => exact absurd hl hactive.1
    | commentClose hl hc => exact absurd hc hactive.2.2.1
    | comment hl hc ho => exact absurd hactive (not_isActive_of_inComment_or ho)
    | atRuleOpen rule' ha hk =>
      rw [hline, openedRule?_lone_brace] at hk
      exact absurd hk (by simp)
    | atRuleClose => rfl
    | inAtRule ha hk hb hc => exact absurd hline hc
    | selector ha hk hb ho => exact absurd hb (by simp)
    | other ha hk hb ho => exact absurd hb (by simp)

/-! ## Selector lines -/

theorem classify_fst_eq_selector_iff (s : ScanState) (line : Text) :
    (s.classify line).1 = .selector ↔
      s.IsActive line ∧ openedRule? (trim line) = none ∧ s.atRule? = none ∧
        OpensRule (trim line) := by
  have h := reading_classify s line
  generalize s.classify line = result at h ⊢
  cases h with
  | literal hl => simp [IsActive, hl]
  | commentClose hl hc => simp [IsActive, hc]
  | comment hl hc ho => simp [not_isActive_of_inComment_or ho]
  | atRuleOpen rule ha hk => simp [hk]
  | atRuleClose ha hk hb hc => simp [Option.ne_none_iff_isSome.2 hb]
  | inAtRule ha hk hb hc => simp [Option.ne_none_iff_isSome.2 hb]
  | selector ha hk hb ho => simp [ha, hk, hb, ho]
  | other ha hk hb ho => simp [ho]

/-- At the top level a selector line is one that opens a rule and holds no token of the scanner. -/
theorem classify_normal_eq_selector_iff (line : Text) :
    (normal.classify line).1 = .selector ↔
      ¬ IsLiteral (trim line) ∧ OpensRule (trim line) ∧
        ∀ token ∈ scanTokens, ¬ Occurs token line := by
  have htokens : (∀ token ∈ scanTokens, ¬ Occurs token line) ↔
      ¬ Occurs commentOpener (trim line) ∧ ¬ Occurs commentCloser (trim line) ∧
        openedRule? (trim line) = none := by
    rw [isSolid_commentOpener.occurs_trim_iff, isSolid_commentCloser.occurs_trim_iff,
      openedRule?_eq_none_iff, (isSolid_keyword _).occurs_trim_iff,
      (isSolid_keyword _).occurs_trim_iff]
    simp [scanTokens]
  rw [classify_fst_eq_selector_iff, htokens, IsActive]
  simp only [inComment_normal, atRule?_normal, and_true, true_and]
  constructor
  · rintro ⟨⟨hl, ho, hc⟩, hk, hr⟩
    exact ⟨hl, hr, ho, hc, hk⟩
  · rintro ⟨hl, hr, ho, hc, hk⟩
    exact ⟨⟨hl, ho, hc⟩, hk, hr⟩

/-- A selector line is read at the top level and leaves the scan there. -/
theorem eq_normal_of_selector {s : ScanState} {line : Text}
    (h : (s.classify line).1 = .selector) : s = .normal := by
  obtain ⟨⟨-, -, -, hs⟩, -, hb, -⟩ := (classify_fst_eq_selector_iff s line).1 h
  exact eq_of_atRule?_inComment hb hs

theorem classify_snd_of_selector {s : ScanState} {line : Text}
    (h : (s.classify line).1 = .selector) : (s.classify line).2 = s := by
  have hread := reading_classify s line
  generalize s.classify line = result at h hread ⊢
  cases hread with
  | selector => rfl
  | _ => exact absurd h (by simp)

end ScanState

end StyleScope
