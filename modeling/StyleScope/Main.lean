/-
  StyleScope.Main

  The program on real files: it is given the words of the command line and the files of the
  system, prints what it prints there, and ends with its exit code.
-/
import StyleScope.CommandLine.Program

namespace StyleScope.Main

/-- The failure that an error number of the system stands for. -/
def errorOfNumber? : UInt32 → Option AccessError
  | 2 => some .notFound
  | 13 => some .permissionDenied
  | 20 => some .notADirectory
  | 21 => some .isADirectory
  | 36 => some .nameTooLong
  | _ => none

/-- The failure that an error of the system stands for. -/
def accessError (e : IO.Error) : AccessError :=
  let known := match e with
    | .noFileOrDirectory _ number _ | .permissionDenied _ number _
    | .inappropriateType _ number _ | .resourceExhausted _ number _
    | .invalidArgument _ number _ =>
      -- The number comes with its sign reversed from some accesses.
      errorOfNumber? number <|> errorOfNumber? (0 - number)
    | _ => none
  known.getD (.device (toString e))

/-- Runs an access to a file, unless its path holds the null character. The words of a command
    line are text, so that a path from them is its own display. -/
def guarded {α : Type} (path : Path) (access : String → IO α) : IO (Except AccessError α) := do
  if 0 ∈ path then
    return .error .nullInPath
  try
    return .ok (← access path.display)
  catch e =>
    return .error (accessError e)

instance : FileStore IO where
  read path := guarded path fun name => IO.FS.readBinFile name
  write path bytes := guarded path fun name => IO.FS.writeBinFile name bytes

end StyleScope.Main

/-- The command line. -/
def main (args : List String) : IO UInt32 := do
  let environment ← IO.getEnv "RUST_LOG"
  let exit : StyleScope.CommandLine.Exit ←
    StyleScope.CommandLine.program (args.map String.toList) (environment.map String.toList)
  IO.print exit.stdout
  IO.eprint exit.stderr
  return exit.code.toUInt32
