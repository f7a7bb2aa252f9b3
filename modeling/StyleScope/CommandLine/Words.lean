/-
  StyleScope.CommandLine.Words

  The words of a command line, and the arguments that they stand for.

  Words are read from left to right. A word that starts with a dash names options, by a name
  after two dashes or by one letter each after one dash; any other word is the file, then the
  wrapper class. After `--` no word names an option. A file or a class is checked when the next
  one, the next option or the end is reached, so an unknown option is reported before a class
  that is no class. Asking for help ends the reading.
-/
import StyleScope.CommandLine.Session
import StyleScope.Text.ControlSequence

namespace StyleScope.CommandLine

open Text

/-! ## Options -/

/-- An option. -/
inductive Flag where
  | noBackup
  | dryRun
  | verbose
  | help
deriving DecidableEq, Repr

namespace Flag

/-- The name of an option after two dashes. -/
def longName : Flag → Text
  | .noBackup => "no-backup".toList
  | .dryRun => "dry-run".toList
  | .verbose => "verbose".toList
  | .help => "help".toList

/-- The letter of an option after one dash. -/
def letter? : Flag → Option Char
  | .noBackup | .dryRun => none
  | .verbose => some 'v'
  | .help => some 'h'

def all : List Flag := [.noBackup, .dryRun, .verbose, .help]

def ofLong? (name : Text) : Option Flag := all.find? fun f => f.longName = name

def ofLetter? (letter : Char) : Option Flag := all.find? fun f => f.letter? = some letter

/-- An option as messages show it; dots mark the one that may be repeated. -/
def shown (f : Flag) : String :=
  "--" ++ String.ofList f.longName ++ (if f = .verbose then "..." else "")

end Flag

/-! ## What can be wrong -/

/-- Why a command line asks for nothing that can be done. -/
inductive UsageError where
  /-- The file or the class is missing. -/
  | missingArguments
  /-- An unknown option, or a word too many. -/
  | unexpectedArgument (word : Text)
  /-- An option that may be given once was repeated. -/
  | repeated (flag : Flag)
  /-- An option that takes no value was given one. -/
  | unexpectedValue (value : Text) (flag : Flag)
  /-- The file is the empty word. -/
  | emptyFile
  /-- The word for the class names none. -/
  | invalidScope (word : Text) (cause : InvalidToken)
deriving DecidableEq

/-- A message about a word shows it without control sequences. -/
def UsageError.message : UsageError → String
  | .missingArguments => "the following required arguments were not provided:"
  | .unexpectedArgument word => "unexpected argument '" ++ String.ofList (plain word) ++ "' found"
  | .repeated flag => "the argument '" ++ flag.shown ++ "' cannot be used multiple times"
  | .unexpectedValue value flag =>
    "unexpected value '" ++ String.ofList (plain value) ++ "' for '" ++ flag.shown ++
      "' found; no more were expected"
  | .emptyFile => "a value is required for '<FILE>' but none was supplied"
  | .invalidScope word cause =>
    "invalid value '" ++ String.ofList (plain word) ++ "' for '<SCOPE>': " ++ cause.message

/-- A reading of the command line that ends without a run. -/
inductive Stop where
  | help
  | usage (cause : UsageError)
deriving DecidableEq

/-! ## Reading the words -/

/-- What was read so far. The word in `pending` stands for the file or the class, whichever is
    still missing, and is not checked yet. -/
structure Reading where
  file : Option Text
  wrapper : Option WrapperClass
  pending : Option Text
  noBackup : Bool
  dryRun : Bool
  verbosity : Nat

namespace Reading

/-- Nothing was read. -/
def start : Reading := ⟨none, none, none, false, false, 0⟩

/-- Checks the word that is not checked yet. -/
def settle (r : Reading) : Except Stop Reading :=
  match r.pending, r.file with
  | none, _ => .ok r
  -- The first word is for the file, the second for the class.
  | some word, none =>
    if word = [] then .error (.usage .emptyFile)
    else .ok { r with file := some word, pending := none }
  | some word, some _ =>
    match WrapperClass.ofToken word with
    | .ok wrapper => .ok { r with wrapper := some wrapper, pending := none }
    | .error cause => .error (.usage (.invalidScope word cause))

/-- Whether the words for the file and for the class were both read. -/
def isFull (r : Reading) : Bool := r.wrapper.isSome || r.file.isSome && r.pending.isSome

/-- Reads a word that stands for itself. -/
def positional (r : Reading) (word : Text) : Except Stop Reading :=
  -- A third word is reported before the second is checked.
  if r.isFull then .error (.usage (.unexpectedArgument word))
  else do
    let r ← r.settle
    .ok { r with pending := some word }

/-- Reads an option. -/
def flag (r : Reading) (f : Flag) : Except Stop Reading := do
  -- A word that is wrong is reported before the option after it counts, help included.
  let r ← r.settle
  match f with
  | .help => .error .help
  | .verbose => .ok { r with verbosity := r.verbosity + 1 }
  | .noBackup =>
    if r.noBackup then .error (.usage (.repeated .noBackup)) else .ok { r with noBackup := true }
  | .dryRun =>
    if r.dryRun then .error (.usage (.repeated .dryRun)) else .ok { r with dryRun := true }

/-- Reads what stands after two dashes: the name of an option, and maybe a value after `=`. -/
def long (r : Reading) (text : Text) : Except Stop Reading :=
  let name := text.takeWhile (· ≠ '=')
  match Flag.ofLong? name, text.dropWhile (· ≠ '=') with
  | none, _ => .error (.usage (.unexpectedArgument ('-' :: '-' :: name)))
  | some f, [] => r.flag f
  | some f, _ :: value => .error (.usage (.unexpectedValue value f))

/-- Reads the letters that stand after one dash. -/
def letters (r : Reading) (text : Text) : Except Stop Reading :=
  text.foldlM (fun r c =>
    match Flag.ofLetter? c with
    | none => .error (.usage (.unexpectedArgument ['-', c]))
    | some f => r.flag f) r

/-- Reads the words of a command line. -/
def words (r : Reading) : List Text → Except Stop Reading
  | [] => .ok r
  -- All words after two dashes stand for themselves.
  | ['-', '-'] :: rest => rest.foldlM positional r
  | ('-' :: '-' :: text) :: rest => do (← r.long text).words rest
  -- A single dash alone is a word like any other.
  | ('-' :: c :: text) :: rest => do (← r.letters (c :: text)).words rest
  | word :: rest => do (← r.positional word).words rest

end Reading

/-- The arguments that words stand for. -/
def Arguments.ofWords (ws : List Text) : Except Stop Arguments := do
  let r ← (← Reading.start.words ws).settle
  match r.file, r.wrapper with
  | some file, some wrapper =>
    .ok {
      file := Path.ofText file
      wrapper := wrapper
      noBackup := r.noBackup
      dryRun := r.dryRun
      verbosity := r.verbosity }
  | _, _ => .error (.usage .missingArguments)

end StyleScope.CommandLine
