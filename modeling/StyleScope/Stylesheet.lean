/-
  StyleScope.Stylesheet

  Scoping a whole stylesheet.

  `scan` runs the classifier over a list of lines from any state and records each line with its
  kind and the states around it; `scan_append` and `lastState_append` say that a scan of two
  pieces is the scan of the first followed by the scan of the second from where the first ends.
  All else is read off the record: the text that comes out, line by line, and the report that
  counts its lines. A line keeps its carriage return, and a line that is not given a wrapper
  comes out as it was.
-/
import StyleScope.ScanState
import StyleScope.RuleLine
import StyleScope.Text.Basic

namespace StyleScope.Stylesheet

open Text

/-! ## The record of a scan -/

/-- A line, what it was found to be, and the states before and after it. -/
structure ScannedLine where
  text : Text
  kind : LineKind
  before : ScanState
  after : ScanState
deriving DecidableEq

/-- The record of the lines read from a state on. Lines are classified without the carriage
    return that they end in. -/
def scan (state : ScanState) : List Text → List ScannedLine
  | [] => []
  | line :: rest =>
    let (kind, next) := state.classify (body line)
    { text := line, kind := kind, before := state, after := next } :: scan next rest

/-- The state after the lines read from a state on. -/
def lastState (state : ScanState) (ls : List Text) : ScanState :=
  ls.foldl (fun s line => (s.classify (body line)).2) state

theorem scan_append (state : ScanState) (a b : List Text) :
    scan state (a ++ b) = scan state a ++ scan (lastState state a) b := by
  induction a generalizing state with
  | nil => rfl
  | cons line rest ih => simp [scan, lastState, ih]

theorem lastState_append (state : ScanState) (a b : List Text) :
    lastState state (a ++ b) = lastState (lastState state a) b := by
  simp [lastState]

theorem map_text_scan (state : ScanState) (ls : List Text) :
    (scan state ls).map ScannedLine.text = ls := by
  induction ls generalizing state with
  | nil => rfl
  | cons line rest ih => simp [scan, ih]

theorem length_scan (state : ScanState) (ls : List Text) : (scan state ls).length = ls.length := by
  simpa using congrArg List.length (map_text_scan state ls)

/-! ## What becomes of a line -/

namespace ScannedLine

/-- A selector line nested under the wrapper, if it is one and is not left as it is. -/
def wrapped? (wrapper : Text) (l : ScannedLine) : Option Text :=
  -- The carriage return was set aside for the classifier and comes back here.
  if l.kind = .selector then
    (RuleLine.scopeText? wrapper (body l.text)).map (· ++ ending l.text)
  else none

/-- The line that comes out. -/
def output (wrapper : Text) (l : ScannedLine) : Text := (l.wrapped? wrapper).getD l.text

/-- Only selector lines change. -/
theorem output_of_kind_ne {wrapper : Text} {l : ScannedLine} (h : l.kind ≠ .selector) :
    l.output wrapper = l.text := by
  simp [output, wrapped?, h]

end ScannedLine

/-! ## The report -/

/-- What scoping did: how many lines it read, how many selector lines it gave the wrapper, and
    how many it left as they were. -/
structure Report where
  lines : Nat
  wrapped : Nat
  skipped : Nat
deriving DecidableEq, Repr

instance : Add Report where
  add a b := ⟨a.lines + b.lines, a.wrapped + b.wrapped, a.skipped + b.skipped⟩

theorem Report.add_def (a b : Report) :
    a + b = ⟨a.lines + b.lines, a.wrapped + b.wrapped, a.skipped + b.skipped⟩ := rfl

/-- The counts of a record. -/
def Report.ofScan (wrapper : Text) (record : List ScannedLine) : Report where
  lines := record.length
  wrapped := record.countP fun l => (l.wrapped? wrapper).isSome
  skipped := record.countP fun l => l.kind = .selector ∧ (l.wrapped? wrapper).isNone

theorem Report.ofScan_append (wrapper : Text) (a b : List ScannedLine) :
    Report.ofScan wrapper (a ++ b) = Report.ofScan wrapper a + Report.ofScan wrapper b := by
  simp [Report.ofScan, Report.add_def]

/-! ## The whole text -/

/-- A stylesheet that has been scoped: its new text, the report, and the record of the scan. -/
structure Scoped where
  text : Text
  report : Report
  record : List ScannedLine

/-- Scopes a text whose first line is read in the given state. -/
def scopeFrom (state : ScanState) (wrapper css : Text) : Scoped :=
  let record := scan state (lines css)
  { text := joinLines (record.map (·.output wrapper))
    report := .ofScan wrapper record
    record := record }

/-- Nests every top-level rule of a stylesheet under the wrapper. -/
def scope (wrapper css : Text) : Scoped := scopeFrom .normal wrapper css

end StyleScope.Stylesheet
