/-
  StyleScope.Log

  What is worth telling about a run.

  Every event has a level, the part of the program that it comes from, and a message.
-/
import StyleScope.FileTree.Basic
import StyleScope.Stylesheet

namespace StyleScope

open Stylesheet

/-! ## Levels -/

/-- How much an event matters, the most important first. -/
inductive Level where
  | error
  | warn
  | info
  | debug
  | trace
deriving DecidableEq, Repr

namespace Level

def name : Level → String
  | .error => "ERROR"
  | .warn => "WARN"
  | .info => "INFO"
  | .debug => "DEBUG"
  | .trace => "TRACE"

end Level

/-! ## Names of kinds and states -/

def AtRule.shown : AtRule → String
  | .media => "Media"
  | .keyframes => "Keyframes"

def LineKind.shown : LineKind → String
  | .literal => "Literal"
  | .commentClose => "CommentClose"
  | .comment => "Comment"
  | .atRuleOpen rule => "AtRuleOpen(" ++ rule.shown ++ ")"
  | .inAtRule => "InAtRule"
  | .atRuleClose => "AtRuleClose"
  | .selector => "Selector"
  | .other => "Other"

def ScanState.shown : ScanState → String
  | .normal => "Normal"
  | .comment none => "InComment \x7b resume: None \x7d"
  | .comment (some rule) => "InComment \x7b resume: Some(" ++ rule.shown ++ ") \x7d"
  | .block rule => "InAtRuleBlock(" ++ rule.shown ++ ")"

/-! ## Events -/

/-- Something that happened on a run. -/
inductive Event where
  /-- A stylesheet was read. -/
  | read (path : Path) (bytes : Nat)
  /-- A line was scanned; lines are numbered from one. -/
  | line (number : Nat) (found : ScannedLine)
  /-- A stylesheet was scoped. -/
  | scoping (path : Path) (report : Report)
  /-- A backup was written. -/
  | backup (path : Path)

namespace Event

def level : Event → Level
  | .read .. | .scoping .. => .debug
  | .line .. => .trace
  | .backup .. => .info

/-- The part of the program that an event comes from. -/
def origin : Event → String
  | .line .. => "cssscope_lib::scope"
  | .read .. | .scoping .. | .backup .. => "cssscope_lib::scope_file"

def message : Event → String
  | .read path bytes => "Read " ++ toString bytes ++ " bytes from " ++ path.display
  | .line number found =>
    "line " ++ toString number ++ ": " ++ found.kind.shown ++ " (" ++ found.before.shown ++
      " -> " ++ found.after.shown ++ ")"
  | .scoping path report =>
    "Scoped " ++ path.display ++ ": " ++ toString report.lines ++ " lines, " ++
      toString report.wrapped ++ " selectors rewritten, " ++ toString report.skipped ++
      " left as is"
  | .backup path => "Backup written to " ++ path.display

/-- An event in one line: level, origin and message. -/
def shown (e : Event) : String := e.level.name ++ " " ++ e.origin ++ ": " ++ e.message

/-- The lines of a scan, numbered. -/
def ofRecord (record : List ScannedLine) : List Event :=
  record.mapIdx fun k found => .line (k + 1) found

end Event

end StyleScope
