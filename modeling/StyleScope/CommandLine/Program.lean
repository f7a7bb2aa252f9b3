/-
  StyleScope.CommandLine.Program

  The program behind the words of a command line.

  The words are read into the arguments of a session, whose log is filtered as the environment
  asks. The exit code is that of the session, 0 after help, and 2 for words that ask for nothing
  that can be done. This is the outer layer: what is proved of sessions holds for any arguments and
  any logger, however they come about.
-/
import StyleScope.CommandLine.Words
import StyleScope.Log.Filter

namespace StyleScope.CommandLine

open Text

def helpText : String :=
  "Prefix CSS selectors with a wrapper class to avoid style leakage\n" ++
  "\n" ++
  "Usage: cssscope [OPTIONS] <FILE> <SCOPE>\n" ++
  "\n" ++
  "Arguments:\n" ++
  "  <FILE>   Stylesheet to rewrite in place\n" ++
  "  <SCOPE>  Wrapper class, with or without the leading dot (e.g. `dashboard`)\n" ++
  "\n" ++
  "Options:\n" ++
  "      --no-backup   Do not write a `.backup` copy of the original file\n" ++
  "      --dry-run     Print the scoped CSS instead of writing any file\n" ++
  "  -v, --verbose...  More log output (-v debug, -vv trace)\n" ++
  "  -h, --help        Print help\n"

/-- The filter of a log and the warnings about it: the level that was asked for, changed by the
    text in the environment, if there is one. -/
def filterOf (environment : Option Text) (level : Level) : Log.Filter × List Log.Filter.Warning :=
  let asked := Log.Filter.ofThreshold (some level)
  match environment with
  | some written => asked.refine written
  | none => (asked, [])

/-- The logger that filters as the environment asks. -/
def Logger.ofEnvironment (environment : Option Text) : Logger where
  opening level := String.join ((filterOf environment level).2.map Log.Filter.Warning.line)
  shown level events :=
    String.join ((events.filter (filterOf environment level).1.shows).map Log.logLine)

/-- The program with the given words, and with the text for the log that the environment holds, if
    any. -/
def program {m : Type → Type} [Monad m] [FileStore m] (ws : List Text)
    (environment : Option Text) : m Exit := do
  match Arguments.ofWords ws with
  | .error .help => return { code := 0, stdout := helpText, stderr := "" }
  | .error (.usage cause) =>
    return { code := 2, stdout := "", stderr := "error: " ++ cause.message ++ "\n" }
  | .ok a => session (Logger.ofEnvironment environment) a

/-- The program on the files of a tree: how it ends, and the tree after it. -/
def programIn (t : FileTree) (ws : List Text) (environment : Option Text) : Exit × FileTree :=
  (program ws environment : FileTree.Action Exit).run t

end StyleScope.CommandLine
