/-
  StyleScope.Log.Filter

  Which events a log shows, and the lines that show them.

  A filter has rules and maybe a pattern. A rule sets the threshold for the parts of the program
  whose names start with a given text; of several rules for an event the one with the longest
  text counts (`rule?`), and an event that no rule is for is not shown. With a pattern only
  events are shown in whose messages it occurs.

  A filter is changed by a text such as `warn,library=debug/Read`: rules between commas, and a
  pattern after a slash (`refine`). What cannot be read is left out with a warning.
-/
import StyleScope.Log
import StyleScope.Log.Pattern.Reader
import StyleScope.Text.ControlSequence

namespace StyleScope.Log

open Text

/-! ## Lines -/

/-- The name of a level, filled up with spaces to five characters. -/
def paddedName (level : Level) : String := String.ofList (level.name.toList.rightpad 5 ' ')

/-- The lines after the first of a message are set in by four spaces. -/
def setIn (message : String) : String :=
  String.ofList (message.toList.flatMap fun c => if c = '\n' then "\n    ".toList else [c])

/-- An event as a line of a log, without its time. The line holds no control sequences. -/
def logLine (e : Event) : String :=
  let line := "[" ++ paddedName e.level ++ " " ++ e.origin ++ "] " ++ setIn e.message ++ "\n"
  String.ofList (plain line.toList)

/-! ## Thresholds -/

/-- The place of a level among the levels, the most important first. -/
def rank : Level → Nat
  | .error => 1
  | .warn => 2
  | .info => 3
  | .debug => 4
  | .trace => 5

/-- The least important level that a log shows; nothing if it shows no event at all. -/
abbrev Threshold := Option Level

/-- Whether a log with this threshold shows events of a level. -/
def Threshold.shows (threshold : Threshold) (level : Level) : Bool :=
  threshold.any fun least => decide (rank level ≤ rank least)

/-- The words for the thresholds. -/
def thresholdWords : List (Text × Threshold) :=
  [("off".toList, none), ("error".toList, some .error), ("warn".toList, some .warn),
    ("info".toList, some .info), ("debug".toList, some .debug), ("trace".toList, some .trace)]

/-- The threshold that a word stands for, in letters of either case. -/
def threshold? (word : Text) : Option Threshold := thresholdWords.lookup (word.map Char.toLower)

/-! ## Filters -/

/-- A threshold for the parts of the program whose names start with a text; without a text, for
    the whole program. -/
structure Rule where
  start : Option Text
  threshold : Threshold
deriving DecidableEq, Repr

/-- The text of a rule, empty if there is none. -/
def Rule.text (r : Rule) : Text := r.start.getD []

/-- Whether a rule is for a part of the program. -/
def Rule.isFor (r : Rule) (origin : Text) : Bool := r.text.isPrefixOf origin

/-- Which events a log shows. -/
structure Filter where
  rules : List Rule
  pattern : Option Pattern

namespace Filter

/-- The filter with one threshold for the whole program. -/
def ofThreshold (threshold : Threshold) : Filter := ⟨[⟨none, threshold⟩], none⟩

/-- The rule that counts for a part of the program, if there is one: of those with the longest
    text the last. -/
def rule? (f : Filter) (origin : Text) : Option Rule :=
  f.rules.foldl (fun best r =>
    if r.isFor origin && best.all fun b => decide (b.text.length ≤ r.text.length) then some r
    else best) none

/-- Whether an event is shown. -/
def shows (f : Filter) (e : Event) : Bool :=
  (f.rule? e.origin.toList).any (fun r => r.threshold.shows e.level) &&
    f.pattern.all fun p => p.occursIn e.message.toList

/-- Adds a rule, in the place of one with the same text if there is one. -/
def insert (f : Filter) (r : Rule) : Filter :=
  if f.rules.any fun other => other.start = r.start then
    { f with rules := f.rules.map fun other => if other.start = r.start then r else other }
  else { f with rules := f.rules ++ [r] }

/-! ## Written filters -/

/-- What was left out of a written filter. -/
inductive Warning where
  | ruleInvalid (written : Text)
  /-- The text has more than one slash. -/
  | tooManyParts (written : Text)
  | patternRefused (written : Text) (cause : Pattern.Refusal)
deriving DecidableEq, Repr

def Warning.message : Warning → String
  | .ruleInvalid written => "invalid logging spec '" ++ String.ofList written ++ "'"
  | .tooManyParts written =>
    "invalid logging spec '" ++ String.ofList written ++ "' (too many '/'s)"
  | .patternRefused written cause => "invalid regex filter - " ++ cause.message written

/-- A warning as a line. -/
def Warning.line (w : Warning) : String := "warning: " ++ w.message ++ ", ignoring it\n"

/-- Reads a rule: a threshold, the start of a name, or the two with `=` between them. A start of
    a name alone shows all events. -/
def ruleOf (written : Text) : Except Warning Rule :=
  match written.splitOn '=' with
  | [word] =>
    match threshold? word with
    | some threshold => .ok ⟨none, threshold⟩
    | none => .ok ⟨some word, some .trace⟩
  | [start, word] =>
    if trim word = [] then .ok ⟨some start, some .trace⟩
    else
      match threshold? (trim word) with
      | some threshold => .ok ⟨some start, threshold⟩
      | none => .error (.ruleInvalid (trim word))
  | _ => .error (.ruleInvalid written)

/-- Reads rules between commas into a filter. -/
def withRules (f : Filter) (written : Text) : Filter × List Warning :=
  (((written.splitOn ',').map trim).filter (· ≠ [])).foldl
    (fun (f, warnings) item =>
      match ruleOf item with
      | .ok rule => (f.insert rule, warnings)
      | .error warning => (f, warnings ++ [warning]))
    (f, [])

/-- Changes a filter by a text of rules and maybe a pattern. -/
def refine (f : Filter) (written : Text) : Filter × List Warning :=
  match written.splitOn '/' with
  | [rules] => f.withRules rules
  | [rules, pattern] =>
    let (f, warnings) := f.withRules rules
    match Pattern.ofText pattern with
    | .ok p => ({ f with pattern := some p }, warnings)
    | .error cause => (f, warnings ++ [.patternRefused pattern cause])
  | _ => (f, [.tooManyParts written])

end Filter

end StyleScope.Log
