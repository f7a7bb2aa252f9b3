/-
  StyleScope.Proofs.Stylesheet.Trimming

  What the scanner sees of a line.

  The scanner looks at the trimmed line everywhere but at the end of a block, where it also looks for
  `{` and `;` in the line as it stands, before the first `}`. Behind the comparison with a lone `}`
  that look finds the indentation and nothing else, so it changes no verdict, and a line is read as
  its trimmed text is. This goes for one line in one state, and so for all the lines of a stylesheet
  one after the other (`map_finding_scan_of_map_trim_eq`).
-/
import StyleScope.Proofs.Stylesheet.Reclassification

namespace StyleScope.Stylesheet

open Text ScanState

variable {a b : Text} {as bs : List Text}

theorem finding_read_of_trim_eq (h : trim a = trim b) (s : ScanState) :
    (ScannedLine.read s a).finding = (ScannedLine.read s b).finding := by
  have hclassify : s.classify (body a) = s.classify (body b) := by
    rw [classify_body, classify_body, classify_eq_of_trim_eq h]
  simp only [ScannedLine.finding, ScannedLine.read, hclassify]

/-- Lines with the same trimmed texts are read alike, each in the same state. -/
theorem map_finding_scan_of_map_trim_eq (h : as.map trim = bs.map trim) (s : ScanState) :
    (scan s as).map ScannedLine.finding = (scan s bs).map ScannedLine.finding := by
  induction as generalizing bs s with
  | nil =>
    obtain rfl : bs = [] := List.map_eq_nil_iff.1 h.symm
    rfl
  | cons a rest ih =>
    obtain ⟨b, rest', rfl, hline, hrest⟩ := List.map_eq_cons_iff.1 h.symm
    have hfinding := finding_read_of_trim_eq hline.symm s
    -- The state behind the line is part of what is found, so the rest is read from the same one.
    have hafter := congrArg Prod.snd (classify_eq_of_finding_eq hfinding)
    rw [scan_cons, List.map_cons, scan_cons, List.map_cons, hfinding, hafter, ih hrest.symm]

/-- Two lines with the same trimmed text are taken for the same thing in every state and leave the
    same state behind, so blanks around a line do not matter. A line closes a block just when a lone
    `}` is all that trimming leaves of it: what the scanner looks through before that brace is the
    indentation. So what is found of the lines of a stylesheet, read in turn, is told by their trimmed
    texts. -/
theorem classify_sees_trimmed :
    (∀ (s : ScanState) (a b : Text), trim a = trim b → s.classify a = s.classify b) ∧
      (∀ (s : ScanState) (a line b : Text), (∀ c ∈ a, isBlank c = true) →
        (∀ c ∈ b, isBlank c = true) → s.classify (a ++ line ++ b) = s.classify line) ∧
      (∀ line : Text, (ClosesBlock line ↔ trim line = ['}']) ∧
        (trim line = ['}'] → line.takeWhile (· ≠ '}') = indent line)) ∧
      (∀ (s : ScanState) (line : Text), (s.classify line).1 = .atRuleClose ↔
        (∃ rule, s = .block rule) ∧ trim line = ['}']) ∧
      ∀ (s : ScanState) (as bs : List Text), as.map trim = bs.map trim →
        (scan s as).map ScannedLine.finding = (scan s bs).map ScannedLine.finding := by
  refine ⟨fun s a b h => classify_eq_of_trim_eq h s,
    fun s a line b ha hb => classify_between_blanks ha hb s line, fun line => ?_,
    classify_fst_eq_atRuleClose_iff, fun s as bs h => map_finding_scan_of_map_trim_eq h s⟩
  exact ⟨closesBlock_iff, takeWhile_ne_of_trim_eq_cons⟩

/-- A lone `}` between a no-break space, a tab and a carriage return closes the block of a media
    rule, and what is found of two indented lines is what is found of them without indentation. -/
theorem classify_sees_trimmed_paddedBrace :
    trim ['\u00a0', '\t', '}', '\r'] = ['}'] ∧
      (block .media).classify ['\u00a0', '\t', '}', '\r'] = (block .media).classify ['}'] ∧
      (∀ c ∈ ['\u00a0', '\t'], isBlank c = true) ∧ (∀ c ∈ ['\r'], isBlank c = true) ∧
      normal.classify (['\u00a0', '\t'] ++ RuleLine.plainRule ++ ['\r']) = (.selector, .normal) ∧
      ClosesBlock ['\u00a0', '\t', '}', '\r'] ∧
      ['\u00a0', '\t', '}', '\r'].takeWhile (· ≠ '}') = ['\u00a0', '\t'] ∧
      ((block .media).classify ['\u00a0', '\t', '}', '\r']).1 = .atRuleClose ∧
      (scan .normal [' ' :: AtRule.media.keyword, '\u00a0' :: RuleLine.plainRule]).map
        ScannedLine.finding =
          [(.atRuleOpen .media, .normal, .block .media),
            (.inAtRule, .block .media, .block .media)] := by
  have htrim : trim ['\u00a0', '\t', '}', '\r'] = ['}'] := by decide
  have hbefore : ∀ c ∈ ['\u00a0', '\t'], isBlank c = true := by
    intro c hc
    rcases List.mem_pair.1 hc with rfl | rfl
    · decide
    · decide
  have hbehind : ∀ c ∈ ['\r'], isBlank c = true := List.forall_mem_singleton.2 rfl
  have hlines : [' ' :: AtRule.media.keyword, '\u00a0' :: RuleLine.plainRule].map trim =
      [AtRule.media.keyword, RuleLine.plainRule].map trim := by decide
  obtain ⟨hclassify, hblanks, hcloses, hverdict, hscan⟩ := classify_sees_trimmed
  refine ⟨htrim, hclassify (block .media) _ _ htrim, hbefore, hbehind, ?_, (hcloses _).1.2 htrim, ?_,
    (hverdict (block .media) _).2 ⟨⟨.media, rfl⟩, htrim⟩, ?_⟩
  · rw [hblanks .normal _ RuleLine.plainRule _ hbefore hbehind]
    decide
  · rw [(hcloses _).2 htrim]
    decide
  · rw [hscan .normal _ _ hlines]
    decide

end StyleScope.Stylesheet
