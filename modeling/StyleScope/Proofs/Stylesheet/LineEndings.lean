/-
  StyleScope.Proofs.Stylesheet.LineEndings

  Carriage returns at the ends of the lines of a stylesheet.

  `crlf` puts a carriage return in front of every line feed, so every line but the last gets one at
  its end (`lines_crlf`). The scan sets it aside and finds what it found before (`scan_crlf`), and
  what comes out of a line gets it back (`output_withReturn`). So scoping a stylesheet without such
  carriage returns and then putting them in is the same as putting them in first. Whatever endings
  are mixed in a stylesheet, each line keeps its own (`getLast?_output_iff`).
-/
import StyleScope.Proofs.Stylesheet.History
import StyleScope.Proofs.Stylesheet.Reclassification

namespace StyleScope

open Text

/-! ## All but the last -/

section

variable {α β : Type} {f : α → α} {xs : List α}

/-- A list with all its entries but the last changed. -/
def mapInit (f : α → α) : List α → List α
  | [] => []
  | [x] => [x]
  | x :: y :: rest => f x :: mapInit f (y :: rest)

theorem mapInit_cons (f : α → α) (x : α) (h : xs ≠ []) :
    mapInit f (x :: xs) = f x :: mapInit f xs := by
  obtain ⟨y, rest, rfl⟩ := List.exists_cons_of_ne_nil h
  rfl

theorem mapInit_ne_nil (f : α → α) (h : xs ≠ []) : mapInit f xs ≠ [] := by
  obtain ⟨x, rest, rfl⟩ := List.exists_cons_of_ne_nil h
  cases rest with
  | nil => exact List.cons_ne_nil x []
  | cons y more => exact List.cons_ne_nil _ _

theorem mem_mapInit {y : α} (h : y ∈ mapInit f xs) : ∃ x ∈ xs, y = x ∨ y = f x := by
  induction xs with
  | nil => exact absurd h List.not_mem_nil
  | cons x rest ih =>
    by_cases hrest : rest = []
    · subst hrest
      exact ⟨x, List.mem_cons_self, Or.inl (List.mem_singleton.1 h)⟩
    · rw [mapInit_cons f x hrest] at h
      rcases List.mem_cons.1 h with rfl | h
      · exact ⟨x, List.mem_cons_self, Or.inr rfl⟩
      · obtain ⟨z, hz, hy⟩ := ih h
        exact ⟨z, List.mem_cons_of_mem x hz, hy⟩

/-- What is read off the entries of a list changes as the entries do. -/
theorem map_mapInit {g : α → β} {f' : β → β} (h : ∀ x ∈ xs, g (f x) = f' (g x)) :
    (mapInit f xs).map g = mapInit f' (xs.map g) := by
  induction xs with
  | nil => rfl
  | cons x rest ih =>
    by_cases hrest : rest = []
    · subst hrest
      rfl
    · have hmap : rest.map g ≠ [] := by simpa using hrest
      have htail := ih fun y hy => h y (List.mem_cons_of_mem x hy)
      rw [mapInit_cons f x hrest, List.map_cons, List.map_cons, mapInit_cons f' (g x) hmap, htail,
        h x List.mem_cons_self]

theorem mapInit_id (xs : List β) : mapInit id xs = xs := by
  induction xs with
  | nil => rfl
  | cons x rest ih =>
    by_cases hrest : rest = []
    · subst hrest
      rfl
    · rw [mapInit_cons id x hrest, ih]
      rfl

/-- What the change does not show in is read off the list as before. -/
theorem map_mapInit_of_eq {g : α → β} (h : ∀ x ∈ xs, g (f x) = g x) :
    (mapInit f xs).map g = xs.map g := by
  have hid : (mapInit f xs).map g = mapInit id (xs.map g) := map_mapInit h
  rw [hid, mapInit_id]

end

namespace Text

variable {t l : Text} {ls : List Text}

/-! ## Carriage returns in a text -/

/-- A text with a carriage return in front of every line feed. -/
def crlf (t : Text) : Text := t.flatMap fun c => if c = '\n' then ['\r', '\n'] else [c]

/-- Lines with a carriage return at the end of each but the last. -/
def withReturns (ls : List Text) : List Text := mapInit (· ++ ['\r']) ls

theorem crlf_of_newline_notMem (h : '\n' ∉ t) : crlf t = t := by
  induction t with
  | nil => rfl
  | cons c rest ih =>
    obtain ⟨hc, hrest⟩ := not_or.1 (mt List.mem_cons.2 h)
    rw [crlf, List.flatMap_cons, if_neg (Ne.symm hc), ← crlf, ih hrest]
    rfl

theorem crlf_append_newline (s t : Text) :
    crlf (s ++ '\n' :: t) = crlf s ++ '\r' :: '\n' :: crlf t := by
  rw [crlf, List.flatMap_append, List.flatMap_cons]
  rfl

theorem crlf_joinLines (h : ∀ l ∈ ls, '\n' ∉ l) :
    crlf (joinLines ls) = joinLines (withReturns ls) := by
  induction ls with
  | nil => rfl
  | cons l rest ih =>
    have hl : '\n' ∉ l := h l List.mem_cons_self
    by_cases hrest : rest = []
    · subst hrest
      show crlf (joinLines [l]) = joinLines [l]
      rw [joinLines_singleton, crlf_of_newline_notMem hl]
    · have hreturns : withReturns (l :: rest) = (l ++ ['\r']) :: withReturns rest :=
        mapInit_cons _ l hrest
      have hne : withReturns rest ≠ [] := mapInit_ne_nil _ hrest
      have htail := ih fun m hm => h m (List.mem_cons_of_mem l hm)
      rw [joinLines_cons l hrest, crlf_append_newline, crlf_of_newline_notMem hl, htail, hreturns,
        joinLines_cons _ hne, List.append_assoc, List.singleton_append]

theorem lines_crlf (t : Text) : lines (crlf t) = withReturns (lines t) := by
  have hjoin : crlf (joinLines (lines t)) = joinLines (withReturns (lines t)) :=
    crlf_joinLines fun _ hl => newline_notMem_of_mem_lines hl
  rw [joinLines_lines] at hjoin
  rw [hjoin]
  refine lines_joinLines (fun l hl => ?_) (mapInit_ne_nil _ (lines_ne_nil t))
  obtain ⟨m, hm, heq⟩ := mem_mapInit hl
  have hfeed : '\n' ∉ m := newline_notMem_of_mem_lines hm
  rcases heq with rfl | rfl
  · exact hfeed
  · simpa using hfeed

/-! ## One line -/

theorem body_append_return (l : Text) : body (l ++ ['\r']) = l := by
  simp [body]

theorem ending_append_return (l : Text) : ending (l ++ ['\r']) = ['\r'] := by
  simp [ending]

theorem ending_of_getLast?_ne (h : l.getLast? ≠ some '\r') : ending l = [] := if_neg h

theorem ending_eq_iff : ending l = ['\r'] ↔ l.getLast? = some '\r' := by
  by_cases h : l.getLast? = some '\r'
  · simp [ending, h]
  · simp [ending, h]

end Text

namespace Stylesheet

variable {w : WrapperClass} {wrapper line css : Text} {s : ScanState} {l : ScannedLine}
  {ls : List Text}

/-! ## Entries -/

namespace ScannedLine

/-- The entry of the line with a carriage return at its end. -/
def withReturn (l : ScannedLine) : ScannedLine := { l with text := l.text ++ ['\r'] }

theorem read_append_return (h : line.getLast? ≠ some '\r') (s : ScanState) :
    read s (line ++ ['\r']) = (read s line).withReturn := by
  rw [read, body_append_return, read, body_of_getLast?_ne h]
  rfl

theorem wrapped?_withReturn (h : l.text.getLast? ≠ some '\r') (wrapper : Text) :
    l.withReturn.wrapped? wrapper = (l.wrapped? wrapper).map (· ++ ['\r']) := by
  have hbody : body (l.text ++ ['\r']) = body l.text := by
    rw [body_append_return, body_of_getLast?_ne h]
  have hending : ending (l.text ++ ['\r']) = ending l.text ++ ['\r'] := by
    rw [ending_append_return, ending_of_getLast?_ne h]
    rfl
  by_cases hk : l.kind = .selector
  · simp [wrapped?, withReturn, hk, hbody, hending, Function.comp_def]
  · simp [wrapped?, withReturn, hk]

theorem output_withReturn (h : l.text.getLast? ≠ some '\r') (wrapper : Text) :
    l.withReturn.output wrapper = l.output wrapper ++ ['\r'] :=
  output_eq_of_map rfl (wrapped?_withReturn h wrapper)

/-- A line keeps the carriage return at its end, and gets none if it has none. -/
theorem getLast?_output_iff (w : WrapperClass) (l : ScannedLine) :
    (l.output w.selector).getLast? = some '\r' ↔ l.text.getLast? = some '\r' := by
  cases h : l.wrapped? w.selector with
  | none => rw [output_of_wrapped?_eq_none h]
  | some t =>
    obtain ⟨-, out, hout, rfl⟩ := wrapped?_eq_some_iff.1 h
    have hlast : out.getLast? ≠ some '\r' := RuleLine.getLast?_ne_of_scopeText? hout
    rw [output_of_wrapped? h, ← ending_eq_iff, ending_append_ending_of hlast, ending_eq_iff]

end ScannedLine

/-! ## All lines -/

/-- Carriage returns behind lines that have none show in the texts of a record only. -/
theorem scan_withReturns (h : ∀ l ∈ ls, l.getLast? ≠ some '\r') (s : ScanState) :
    scan s (withReturns ls) = mapInit ScannedLine.withReturn (scan s ls) := by
  induction ls generalizing s with
  | nil => rfl
  | cons line rest ih =>
    by_cases hrest : rest = []
    · subst hrest
      rfl
    · have hline : line.getLast? ≠ some '\r' := h line List.mem_cons_self
      have hreturns : withReturns (line :: rest) = (line ++ ['\r']) :: withReturns rest :=
        mapInit_cons _ line hrest
      have hbody : body (line ++ ['\r']) = body line := by
        rw [body_append_return, body_of_getLast?_ne hline]
      have hscan : scan (s.classify (body line)).2 rest ≠ [] := by
        intro hnil
        have hlen := length_scan (s.classify (body line)).2 rest
        rw [hnil] at hlen
        exact hrest (List.length_eq_zero_iff.1 hlen.symm)
      -- The state behind the line is the same, so the rest is read from the same one.
      rw [hreturns, scan_cons, hbody, ih (fun l hl => h l (List.mem_cons_of_mem line hl)), scan_cons,
        mapInit_cons _ _ hscan, ScannedLine.read_append_return hline]

theorem getLast?_text_of_mem_scan (h : ∀ line ∈ ls, line.getLast? ≠ some '\r')
    (hl : l ∈ scan s ls) : l.text.getLast? ≠ some '\r' := by
  obtain ⟨_, line, hline, rfl⟩ := exists_read_of_mem_scan hl
  exact h line hline

/-- What comes out of the lines gets the same carriage returns. -/
theorem map_output_scan_withReturns (h : ∀ line ∈ ls, line.getLast? ≠ some '\r') (s : ScanState)
    (wrapper : Text) :
    (scan s (withReturns ls)).map (·.output wrapper) =
      withReturns ((scan s ls).map (·.output wrapper)) := by
  rw [scan_withReturns h]
  exact map_mapInit fun l hl =>
    ScannedLine.output_withReturn (getLast?_text_of_mem_scan h hl) wrapper

/-- The scan finds the same kinds and states. -/
theorem map_finding_scan_withReturns (h : ∀ line ∈ ls, line.getLast? ≠ some '\r')
    (s : ScanState) :
    (scan s (withReturns ls)).map ScannedLine.finding = (scan s ls).map ScannedLine.finding := by
  rw [scan_withReturns h]
  exact map_mapInit_of_eq fun _ _ => rfl

theorem report_scan_withReturns (h : ∀ line ∈ ls, line.getLast? ≠ some '\r') (s : ScanState)
    (wrapper : Text) :
    Report.ofScan wrapper (scan s (withReturns ls)) = Report.ofScan wrapper (scan s ls) := by
  rw [scan_withReturns h]
  apply Report.ofScan_eq_of_verdicts
  apply map_mapInit_of_eq
  intro l hl
  have hline : l.text.getLast? ≠ some '\r' := getLast?_text_of_mem_scan h hl
  exact ScannedLine.verdict_eq_of_map rfl (ScannedLine.wrapped?_withReturn hline wrapper)

/-! ## The whole text -/

/-- In a stylesheet no line of which ends in a carriage return, putting one in front of every line
    feed and scoping can be done in either order, and the report and what is found of each line are
    the same. In any stylesheet a line ends in a carriage return after scoping just when it did
    before. -/
theorem scope_crlf (w : WrapperClass) :
    (∀ css : Text, (∀ line ∈ lines css, line.getLast? ≠ some '\r') →
      (scope w.selector (crlf css)).text = crlf (scope w.selector css).text ∧
      (scope w.selector (crlf css)).report = (scope w.selector css).report ∧
      (scan .normal (lines (crlf css))).map ScannedLine.finding =
        (scan .normal (lines css)).map ScannedLine.finding) ∧
    ∀ (css : Text) (k : Nat),
      History.LineIs (lines (scope w.selector css).text) (·.getLast? = some '\r') k ↔
        History.LineIs (lines css) (·.getLast? = some '\r') k := by
  refine ⟨fun css h => ?_, fun css k => ?_⟩
  · have htext : (scope w.selector (crlf css)).text = crlf (scope w.selector css).text := by
      show joinLines ((scan .normal (lines (crlf css))).map (·.output w.selector)) =
        crlf (joinLines ((scan .normal (lines css)).map (·.output w.selector)))
      rw [crlf_joinLines fun _ => newline_notMem_of_mem_map_output, lines_crlf,
        map_output_scan_withReturns h]
    have hreport : (scope w.selector (crlf css)).report = (scope w.selector css).report := by
      show Report.ofScan w.selector (scan .normal (lines (crlf css))) = _
      rw [lines_crlf, report_scan_withReturns h]
      rfl
    refine ⟨htext, hreport, ?_⟩
    rw [lines_crlf, map_finding_scan_withReturns h]
  · rw [lines_scope, History.LineIs, History.LineIs, List.getElem?_map, getElem?_scan]
    cases hk : (lines css)[k]? with
    | none => simp
    | some line =>
      have houtput := ScannedLine.getLast?_output_iff w
        (.read (lastState .normal ((lines css).take k)) line)
      simpa using houtput

/-- The rule of two lines, the first of which is given the wrapper. -/
theorem scope_crlf_plainRule :
    (∀ line ∈ lines (joinLines [RuleLine.plainRule, ['}']]), line.getLast? ≠ some '\r') ∧
      (scope WrapperClass.dash.selector
        (joinLines [RuleLine.plainRule ++ ['\r'], ['}']])).text =
          joinLines [WrapperClass.dash.selector ++ ' ' :: RuleLine.plainRule ++ ['\r'], ['}']] := by
  have hlines : ∀ line ∈ lines (joinLines [RuleLine.plainRule, ['}']]),
      line.getLast? ≠ some '\r' := by decide
  have hcrlf : crlf (joinLines [RuleLine.plainRule, ['}']]) =
      joinLines [RuleLine.plainRule ++ ['\r'], ['}']] := by decide
  have hscope := ((scope_crlf WrapperClass.dash).1 _ hlines).1
  rw [hcrlf] at hscope
  refine ⟨hlines, hscope.trans ?_⟩
  decide

end Stylesheet

end StyleScope
