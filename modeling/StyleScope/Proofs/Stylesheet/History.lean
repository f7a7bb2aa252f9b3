/-
  StyleScope.Proofs.Stylesheet.History

  The state of a scan, told from the lines before it.

  `stateAt ls k` is the state in which line `k` is read. That a comment is open in it
  (`inComment_stateAt_iff`) or a block (`atRule?_stateAt_iff`) is what `InComment` and `InBlock` say
  of the history. Both are conditions of the form "some line did this, and no line since did that",
  and such a condition for the next line is told from the one for this line
  (`exists_since_succ_iff`) as the scanner tells the next state from this one.
-/
import StyleScope.Proofs.Stylesheet.Record
import StyleScope.Stylesheet.History

namespace StyleScope.Stylesheet.History

open Text ScanState

variable {ls : List Text} {k : Nat} {line : Text}

/-! ## One step of the history -/

/-- What happened before the next line and was kept up since happened on this line, or it happened
    before this line and this line keeps it up. -/
theorem exists_since_succ_iff {did keeps : Nat → Prop} :
    (∃ j < k + 1, did j ∧ ∀ m < k + 1, j < m → keeps m) ↔
      did k ∨ (∃ j < k, did j ∧ ∀ m < k, j < m → keeps m) ∧ keeps k := by
  constructor
  · rintro ⟨j, hj, hdid, hkeeps⟩
    rcases Nat.lt_or_eq_of_le (Nat.le_of_lt_succ hj) with hlt | rfl
    · refine Or.inr ⟨⟨j, hlt, hdid, fun m hm hjm => ?_⟩, hkeeps k (Nat.lt_succ_self k) hlt⟩
      exact hkeeps m (Nat.lt_succ_of_lt hm) hjm
    · exact Or.inl hdid
  · rintro (hdid | ⟨⟨j, hj, hdid, hkeeps⟩, hk⟩)
    · exact ⟨k, Nat.lt_succ_self k, hdid, fun m hm hkm => absurd hm (by omega)⟩
    · refine ⟨j, Nat.lt_succ_of_lt hj, hdid, fun m hm hjm => ?_⟩
      rcases Nat.lt_or_eq_of_le (Nat.le_of_lt_succ hm) with hlt | rfl
      · exact hkeeps m hlt hjm
      · exact hk

theorem lineIs_iff {p : Text → Prop} (h : ls[k]? = some line) : LineIs ls p k ↔ p line := by
  rw [LineIs, h]
  simp

theorem not_lineIs_of_none {p : Text → Prop} (h : ls[k]? = none) : ¬ LineIs ls p k := by
  rw [LineIs, h]
  simp

theorem literal_iff (h : ls[k]? = some line) : Literal ls k ↔ IsLiteral (trim line) := lineIs_iff h

/-- The history looks for tokens in whole lines, the scanner in trimmed ones. -/
theorem holds_iff {token : Text} (h : ls[k]? = some line) (ht : IsSolid token) :
    Holds ls token k ↔ Occurs token (trim line) :=
  (lineIs_iff h).trans (ht.occurs_trim_iff line).symm

/-! ## The state in which a line is read -/

/-- The state that the lines before the one with this number leave. -/
def stateAt (ls : List Text) (k : Nat) : ScanState :=
  (ls.take k).foldl (fun s line => (s.classify line).2) .normal

theorem stateAt_zero (ls : List Text) : stateAt ls 0 = .normal := rfl

theorem stateAt_succ (h : ls[k]? = some line) :
    stateAt ls (k + 1) = ((stateAt ls k).classify line).2 := by
  rw [stateAt, List.take_add_one, List.foldl_append, h]
  rfl

/-- Behind the last line the state stays as it is. -/
theorem stateAt_succ_of_none (h : ls[k]? = none) : stateAt ls (k + 1) = stateAt ls k := by
  rw [stateAt, List.take_add_one, List.foldl_append, h]
  rfl

theorem lastState_take (ls : List Text) (k : Nat) :
    lastState .normal (ls.take k) = stateAt (ls.map body) k := by
  rw [stateAt, ← List.map_take, List.foldl_map]
  rfl

/-! ## Comments -/

theorem inComment_succ_iff :
    InComment ls (k + 1) ↔
      (¬ Literal ls k ∧ Holds ls commentOpener k ∧ ¬ Holds ls commentCloser k) ∨
        InComment ls k ∧ (Literal ls k ∨ ¬ Holds ls commentCloser k) :=
  exists_since_succ_iff

theorem inComment_stateAt_iff (ls : List Text) (k : Nat) :
    (stateAt ls k).inComment = true ↔ InComment ls k := by
  -- By induction on the lines read; a line that is not there changes neither side.
  induction k with
  | zero => simp [stateAt_zero, InComment]
  | succ k ih =>
    rw [inComment_succ_iff]
    cases h : ls[k]? with
    | none =>
      have hnone : ∀ token, ¬ Holds ls token k := fun token => not_lineIs_of_none h
      simp [stateAt_succ_of_none h, ih, hnone]
    | some line =>
      rw [stateAt_succ h, inComment_classify_iff, ih, literal_iff h,
        holds_iff h isSolid_commentOpener, holds_iff h isSolid_commentCloser]
      exact or_congr_right and_comm

theorem active_iff (h : ls[k]? = some line) :
    Active ls k ↔ (stateAt ls k).IsActive line := by
  rw [Active, IsActive, literal_iff h, holds_iff h isSolid_commentOpener,
    holds_iff h isSolid_commentCloser, ← inComment_stateAt_iff, Bool.not_eq_true]

/-! ## Blocks -/

theorem opensBlock_iff (h : ls[k]? = some line) :
    OpensBlock ls k ↔ (stateAt ls k).IsActive line ∧ openedRule? (trim line) ≠ none := by
  rw [OpensBlock, active_iff h, holds_iff h (isSolid_keyword .media),
    holds_iff h (isSolid_keyword .keyframes), Ne, openedRule?_eq_none_iff, ← not_or, not_not]

theorem closesBlock_iff (h : ls[k]? = some line) :
    ClosesBlock ls k ↔ (stateAt ls k).IsActive line ∧ trim line = ['}'] := by
  rw [ClosesBlock, active_iff h, lineIs_iff h]

theorem inBlock_succ_iff :
    InBlock ls (k + 1) ↔ OpensBlock ls k ∨ InBlock ls k ∧ ¬ ClosesBlock ls k :=
  exists_since_succ_iff

theorem atRule?_stateAt_iff (ls : List Text) (k : Nat) :
    (stateAt ls k).atRule? ≠ none ↔ InBlock ls k := by
  induction k with
  | zero => simp [stateAt_zero, InBlock]
  | succ k ih =>
    rw [inBlock_succ_iff]
    cases h : ls[k]? with
    | none =>
      have hopens : ¬ OpensBlock ls k := by
        rintro ⟨-, hmedia | hkeyframes⟩
        · exact not_lineIs_of_none h hmedia
        · exact not_lineIs_of_none h hkeyframes
      have hcloses : ¬ ClosesBlock ls k := fun hc => not_lineIs_of_none h hc.2
      rw [stateAt_succ_of_none h, ih]
      simp [hopens, hcloses]
    | some line =>
      rw [stateAt_succ h, atRule?_classify, opensBlock_iff h, closesBlock_iff h, ← ih]
      by_cases ha : (stateAt ls k).IsActive line
      · rw [if_pos ha]
        -- A line that opens a block does so whatever stands open, and no such line closes one.
        cases openedRule? (trim line) with
        | some rule => simp [ha]
        | none => by_cases hc : trim line = ['}'] <;> simp [ha, hc]
      · rw [if_neg ha]
        simp [ha]

/-! ## Selectors and changes -/

theorem isSelector_iff (h : ls[k]? = some line) :
    IsSelector ls k ↔ ((stateAt ls k).classify line).1 = .selector := by
  rw [classify_fst_eq_selector_iff, IsSelector, active_iff h, opensBlock_iff h,
    ← atRule?_stateAt_iff, lineIs_iff h, not_not]
  constructor
  · rintro ⟨ha, hk, hb, ho⟩
    exact ⟨ha, not_not.1 fun hne => hk ⟨ha, hne⟩, hb, ho⟩
  · rintro ⟨ha, hk, hb, ho⟩
    exact ⟨ha, fun hopens => hopens.2 hk, hb, ho⟩

/-- The entry of a line in a scan from the top level. -/
theorem getElem?_scan_normal (css : List Text) (k : Nat) :
    (scan .normal css)[k]? = css[k]?.map (.read (stateAt (css.map body) k)) := by
  rw [getElem?_scan, lastState_take]

theorem kind_scan_eq_selector_iff (css : List Text) (k : Nat) :
    (scan .normal css)[k]?.map ScannedLine.kind = some .selector ↔
      IsSelector (css.map body) k := by
  rw [getElem?_scan_normal]
  cases h : css[k]? with
  | none =>
    have hbody : (css.map body)[k]? = none := by rw [List.getElem?_map, h, Option.map_none]
    have hnot : ¬ IsSelector (css.map body) k := fun hs => not_lineIs_of_none hbody hs.2.2.2
    simp [hnot]
  | some line =>
    have hbody : (css.map body)[k]? = some (body line) := by
      rw [List.getElem?_map, h, Option.map_some]
    rw [isSelector_iff hbody]
    simp [ScannedLine.read]

/-- A selector line is given the wrapper just when what stands before its first brace is not
    settled. -/
theorem wrapped?_read_isSome_iff {wrapper : Text} (s : ScanState) (line : Text) :
    ((ScannedLine.read s line).wrapped? wrapper).isSome = true ↔
      (s.classify (body line)).1 = .selector ∧
        ¬ wrapper <+: trim ((body line).takeWhile (· ≠ '{')) ∧
          ¬ SelectorList.IsGlobal (trim ((body line).takeWhile (· ≠ '{'))) := by
  rw [ScannedLine.wrapped?_isSome_iff, RuleLine.scopeText?_isSome_iff]
  refine and_congr_right fun hk => and_iff_right ?_
  obtain ⟨-, -, -, hbrace, -⟩ := (classify_fst_eq_selector_iff s (body line)).1 hk
  exact hbrace

/-- What decides on every line, without any state: the scanner takes the line for a selector just
    when the history says so, and scoping changes the line just when what stands before its first
    brace starts neither with the wrapper nor with a selector for the document itself. -/
theorem scan_and_scope_iff_history (w : WrapperClass) (css : Text) (k : Nat) :
    ((scan .normal (lines css))[k]?.map ScannedLine.kind = some .selector ↔
      IsSelector ((lines css).map body) k) ∧
    ((lines (scope w.selector css).text)[k]? ≠ (lines css)[k]? ↔
      IsSelector ((lines css).map body) k ∧
        LineIs ((lines css).map body) (fun line =>
          ¬ w.selector <+: trim (line.takeWhile (· ≠ '{')) ∧
            ∀ word ∈ SelectorList.globals, ¬ word <+: trim (line.takeWhile (· ≠ '{'))) k) := by
  refine ⟨kind_scan_eq_selector_iff (lines css) k, ?_⟩
  rw [lines_scope, List.getElem?_map, ← kind_scan_eq_selector_iff, getElem?_scan_normal]
  cases h : (lines css)[k]? with
  | none => simp
  | some line =>
    have hbody : ((lines css).map body)[k]? = some (body line) := by
      rw [List.getElem?_map, h, Option.map_some]
    have hchange : (ScannedLine.read (stateAt ((lines css).map body) k) line).output w.selector ≠
        line ↔ _ := ScannedLine.output_ne_text_iff.trans (wrapped?_read_isSome_iff _ line)
    rw [lineIs_iff hbody]
    simpa [SelectorList.IsGlobal, ScannedLine.read] using hchange

end StyleScope.Stylesheet.History
