/-
  StyleScope.Proofs.RuleLine.Reading

  Rule lines written and read back.

  The parts that a line is read as (`ofText?_isRead`) are blanks, a trimmed selector list without
  a brace and a trimmed block that starts with one. Parts with a selector list that starts with
  no blank (`IsWritable`) are read back from the line that they are written as, with the list
  trimmed (`ofText?_toText`).
-/
import StyleScope.Proofs.Text.Trimmed
import StyleScope.RuleLine

namespace StyleScope.RuleLine

open Text

/-! ## Parts that a line can be read as -/

/-- What holds of the parts of every line that opens a rule. -/
structure IsRead (r : RuleLine) : Prop where
  indent_blank : ∀ c ∈ r.indent, isBlank c = true
  selectors_trimmed : IsTrimmed r.selectors
  brace_notMem : '{' ∉ r.selectors
  block_open : ['{'] <+: r.block
  block_trimmed : IsTrimmed r.block

/-- A text with a brace is what stands before it and the rest. -/
theorem prefix_dropWhile_brace {t : Text} (h : '{' ∈ t) : ['{'] <+: t.dropWhile (· ≠ '{') := by
  induction t with
  | nil => exact absurd h List.not_mem_nil
  | cons c r ih =>
    by_cases hc : c = '{'
    · subst hc
      exact ⟨r, by simp⟩
    · have hr : '{' ∈ r := (List.mem_cons.1 h).resolve_left (Ne.symm hc)
      simpa [hc] using ih hr

theorem brace_notMem_takeWhile (t : Text) : '{' ∉ t.takeWhile (· ≠ '{') := by
  intro h
  simpa using List.mem_takeWhile_imp h

theorem ofText?_eq_some {line : Text} {r : RuleLine} (h : ofText? line = some r) :
    '{' ∈ trim line ∧ r.indent = Text.indent line ∧
      r.selectors = trim ((trim line).takeWhile (· ≠ '{')) ∧
      r.block = (trim line).dropWhile (· ≠ '{') := by
  rw [ofText?] at h
  split at h
  · rename_i hbrace
    obtain rfl := Option.some.inj h
    exact ⟨hbrace, rfl, rfl, rfl⟩
  · exact absurd h (by simp)

theorem ofText?_isRead {line : Text} {r : RuleLine} (h : ofText? line = some r) : r.IsRead := by
  obtain ⟨hbrace, hindent, hselectors, hblock⟩ := ofText?_eq_some h
  have hopen : ['{'] <+: r.block := hblock ▸ prefix_dropWhile_brace hbrace
  refine ⟨?_, ?_, ?_, hopen, ?_⟩
  · rw [hindent]
    exact fun c hc => isBlank_of_mem_indent hc
  · rw [hselectors]
    exact isTrimmed_trim _
  · rw [hselectors]
    exact fun hmem => brace_notMem_takeWhile _ (mem_of_mem_trim hmem)
  · obtain ⟨b, hb⟩ := hopen
    refine ⟨fun c s hcs => ?_, fun s c hsc => ?_⟩
    · obtain ⟨rfl, -⟩ := List.cons.inj (hb.trans hcs)
      decide
    · -- The block ends where the trimmed line ends.
      have hline : (trim line).takeWhile (· ≠ '{') ++ s ++ [c] = trim line := by
        rw [List.append_assoc, ← hsc, hblock]
        exact List.takeWhile_append_dropWhile
      exact (isTrimmed_trim line).last _ c hline.symm

/-- A trimmed line is the text before its brace and the block. -/
theorem takeWhile_append_block {line : Text} {r : RuleLine} (h : ofText? line = some r) :
    (trim line).takeWhile (· ≠ '{') ++ r.block = trim line := by
  rw [(ofText?_eq_some h).2.2.2]
  exact List.takeWhile_append_dropWhile

/-- The parts of a line are made of its characters. -/
theorem subset_of_ofText? {line : Text} {r : RuleLine} (h : ofText? line = some r) :
    r.indent ⊆ line ∧ r.selectors ⊆ line ∧ r.block ⊆ line := by
  obtain ⟨-, hindent, hselectors, hblock⟩ := ofText?_eq_some h
  rw [hindent, hselectors, hblock]
  refine ⟨List.takeWhile_subset _, fun c hc => ?_, fun c hc => ?_⟩
  · exact mem_of_mem_trim (List.takeWhile_subset _ (mem_of_mem_trim hc))
  · exact mem_of_mem_trim (List.dropWhile_subset _ hc)

/-- A line is the text before its first brace, which is the indentation and the selectors with what
    trimming takes off them, the block, and blanks. -/
theorem exists_eq_append_block {line : Text} {r : RuleLine} (h : ofText? line = some r) :
    ∃ a b, (∀ c ∈ a, (decide (c ≠ '{')) = true) ∧ (∀ c ∈ b, isBlank c = true) ∧
      trim a = r.selectors ∧ line = a ++ (r.block ++ b) := by
  obtain ⟨-, -, hselectors, -⟩ := ofText?_eq_some h
  obtain ⟨b, hb, hline⟩ := exists_eq_indent_append_trim line
  have hindent : ∀ c ∈ Text.indent line, isBlank c = true := fun c hc => isBlank_of_mem_indent hc
  refine ⟨Text.indent line ++ (trim line).takeWhile (· ≠ '{'), b, ?_, hb, ?_, ?_⟩
  · intro c hc
    rcases List.mem_append.1 hc with hc | hc
    · exact decide_eq_true (ne_of_isBlank (hindent c hc) (by decide))
    · exact List.mem_takeWhile_imp (p := (· ≠ '{')) hc
  · rw [trim_blanks_append hindent, hselectors]
  · conv_lhs => rw [hline, ← takeWhile_append_block h]
    simp only [List.append_assoc]

/-- The selectors of a line are what stands before its first brace, trimmed. -/
theorem selectors_of_ofText? {line : Text} {r : RuleLine} (h : ofText? line = some r) :
    r.selectors = trim (line.takeWhile (· ≠ '{')) := by
  obtain ⟨a, b, ha, -, hselectors, hline⟩ := exists_eq_append_block h
  obtain ⟨t, ht⟩ := (ofText?_isRead h).block_open
  have htake : line.takeWhile (· ≠ '{') = a := by
    rw [hline, ← ht, List.takeWhile_append_of_pos ha]
    simp
  rw [htake, hselectors]

/-- The block of a line is what stands from its first brace on, without the blanks at the end. -/
theorem block_of_ofText? {line : Text} {r : RuleLine} (h : ofText? line = some r) :
    r.block = trimEnd (line.dropWhile (· ≠ '{')) := by
  obtain ⟨a, b, ha, hb, -, hline⟩ := exists_eq_append_block h
  have hread := ofText?_isRead h
  obtain ⟨t, ht⟩ := hread.block_open
  have hdrop : line.dropWhile (· ≠ '{') = r.block ++ b := by
    rw [hline, List.dropWhile_append_of_pos ha, ← ht]
    simp
  rw [hdrop, trimEnd_append_blanks hb, trimEnd_of_isTrimmed hread.block_trimmed]

/-! ## Reading a written line -/

/-- Parts that can be told apart in the line that they are written as. -/
structure IsWritable (r : RuleLine) : Prop where
  indent_blank : ∀ c ∈ r.indent, isBlank c = true
  selectors_start : ∃ c s, r.selectors = c :: s ∧ isBlank c = false
  brace_notMem : '{' ∉ r.selectors
  block_open : ['{'] <+: r.block
  block_trimmed : IsTrimmed r.block

namespace IsWritable

variable {r : RuleLine}

/-- The line ends where its block ends. -/
theorem not_isBlank_last (h : r.IsWritable) {t s : Text} {c : Char}
    (hs : t ++ ' ' :: r.block = s ++ [c]) : isBlank c = false := by
  obtain ⟨b, d, hb⟩ : ∃ b d, r.block = b ++ [d] := by
    rcases List.eq_nil_or_concat' r.block with hnil | hconcat
    · have hopen := h.block_open
      simp [hnil] at hopen
    · exact hconcat
  have hlast : t ++ ' ' :: b ++ [d] = s ++ [c] := by
    rw [← hs, hb]
    simp
  obtain ⟨-, hdc⟩ := List.append_inj' hlast rfl
  exact (List.cons.inj hdc).1 ▸ h.block_trimmed.last b d hb

/-- What trimming leaves of the line. -/
theorem trim_toText (h : r.IsWritable) : trim r.toText = r.selectors ++ ' ' :: r.block := by
  have htrimmed : IsTrimmed (r.selectors ++ ' ' :: r.block) := by
    refine ⟨fun d t hd => ?_, fun t d hd => h.not_isBlank_last hd⟩
    obtain ⟨c, s, hs, hc⟩ := h.selectors_start
    rw [hs, List.cons_append] at hd
    exact (List.cons.inj hd).1 ▸ hc
  have htrim := trim_between_blanks (b := []) h.indent_blank htrimmed (by simp)
  rwa [List.append_nil, ← List.append_assoc] at htrim

theorem ofText?_toText (h : r.IsWritable) :
    ofText? r.toText = some { r with selectors := trim r.selectors } := by
  obtain ⟨b, hb⟩ := h.block_open
  have hbefore : ∀ d ∈ r.selectors ++ [' '], (decide (d ≠ '{')) = true := by
    intro d hd
    rcases List.mem_append.1 hd with hd | hd
    · exact decide_eq_true fun heq => h.brace_notMem (heq ▸ hd)
    · obtain rfl := List.mem_singleton.1 hd
      decide
  -- So the first brace of the line is the one that the block starts with.
  have hsplit : trim r.toText = r.selectors ++ [' '] ++ '{' :: b := by
    rw [h.trim_toText, ← hb]
    simp
  have htake : (trim r.toText).takeWhile (· ≠ '{') = r.selectors ++ [' '] := by
    rw [hsplit, List.takeWhile_append_of_pos hbefore]
    simp
  have hdrop : (trim r.toText).dropWhile (· ≠ '{') = r.block := by
    rw [hsplit, List.dropWhile_append_of_pos hbefore, ← hb]
    simp
  have hindent : Text.indent r.toText = r.indent := by
    obtain ⟨c, s, hs, hc⟩ := h.selectors_start
    rw [toText, hs, List.append_assoc, List.cons_append]
    exact indent_append h.indent_blank hc
  have hmem : '{' ∈ trim r.toText := by
    rw [hsplit]
    simp
  have hspace : ∀ c ∈ [' '], isBlank c = true := List.forall_mem_singleton.2 rfl
  rw [ofText?, if_pos hmem, htake, hdrop, hindent, trim_append_blanks hspace]

end IsWritable

end StyleScope.RuleLine
