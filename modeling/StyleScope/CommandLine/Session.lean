/-
  StyleScope.CommandLine.Session

  A session at the command line: what is printed for the arguments of a call, and the exit code.

  The exit code is 0 after a run that did what was asked, and 1 after a run that failed. A dry run
  prints the scoped stylesheet and nothing else on the standard output. How the log of a run is
  shown is left open: a logger is given the events, and what it shows goes to the standard error.
-/
import StyleScope.InPlace

namespace StyleScope.CommandLine

/-! ## What a call asks for -/

/-- The arguments of a call. -/
structure Arguments where
  file : Path
  wrapper : WrapperClass
  noBackup : Bool
  dryRun : Bool
  /-- How often more log output was asked for. -/
  verbosity : Nat
deriving DecidableEq

/-- The options of the run that the arguments ask for. -/
def Arguments.options (a : Arguments) : InPlace.Options :=
  { backup := !a.noBackup, dryRun := a.dryRun }

/-- The least important level that the arguments ask the log for. -/
def Arguments.level (a : Arguments) : Level :=
  match a.verbosity with
  | 0 => .warn
  | 1 => .debug
  | _ => .trace

/-! ## The log -/

/-- What a log shows, once it was asked for a level. Both may depend on more than the level and
    the events, such as the environment and the time. -/
structure Logger where
  /-- What is shown when the log is opened. -/
  opening : Level → String
  /-- What is shown of the events of a run. -/
  shown : Level → List Event → String

/-! ## The session -/

def banner : String :=
  "\n    cssscope - keep every rule of a stylesheet inside one wrapper class\n\n"

/-- How a session ends. -/
structure Exit where
  code : Nat
  stdout : String
  stderr : String
deriving DecidableEq, Repr

/-- The lines that tell that a file was scoped. -/
def summary (a : Arguments) (outcome : InPlace.Outcome) : String :=
  (match outcome.backup with
    | some path => "Backup created: " ++ path.display ++ "\n"
    | none => "") ++
  "Scope '" ++ String.ofList a.wrapper.selector ++ "' applied to " ++ a.file.display ++
    " (" ++ toString outcome.report.wrapped ++ " selectors rewritten)\n"

/-- The end of a session whose run has ended, with what the log showed before the run and of it.
    On a dry run the banner goes to the standard error, so that the standard output holds the
    stylesheet alone. -/
def Exit.ofRun (a : Arguments) (opening log : String) :
    Except InPlace.Failure InPlace.Outcome → Exit
  | .ok outcome =>
    if a.dryRun then
      { code := 0, stdout := String.ofList outcome.text, stderr := opening ++ banner ++ log }
    else
      { code := 0, stdout := banner ++ summary a outcome, stderr := opening ++ log }
  | .error failure =>
    let line := "Error: " ++ failure.message ++ "\n"
    if a.dryRun then
      { code := 1, stdout := "", stderr := opening ++ banner ++ log ++ line }
    else
      { code := 1, stdout := banner, stderr := opening ++ log ++ line }

/-- A session with the given arguments. -/
def session {m : Type → Type} [Monad m] [FileStore m] (logger : Logger) (a : Arguments) :
    m Exit := do
  let run ← InPlace.scopeFile a.file a.wrapper a.options
  return Exit.ofRun a (logger.opening a.level) (logger.shown a.level run.events) run.result

/-- A session on the files of a tree that is accessed through a store: how it ends, and the tree
    after it. -/
def sessionOn (store : FileStore FileTree.Action) (t : FileTree) (logger : Logger)
    (a : Arguments) : Exit × FileTree :=
  (@session FileTree.Action _ store logger a).run t

end StyleScope.CommandLine
