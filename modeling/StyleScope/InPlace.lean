/-
  StyleScope.InPlace

  Scoping a stylesheet where it lies.

  The file is read, scoped, and written back; before that its bytes are written to a backup
  beside it, unless no backup is wanted. A dry run stops before the first write. A run tells
  what happened on the way, also when it fails.
-/
import StyleScope.FileStore
import StyleScope.Log
import StyleScope.WrapperClass

namespace StyleScope.InPlace

open Text

/-! ## Options, failures and outcomes -/

/-- How a run treats the file. -/
structure Options where
  /-- Keep the bytes of the file in a backup before it is overwritten. -/
  backup : Bool
  /-- Write nothing. -/
  dryRun : Bool
deriving DecidableEq, Repr

/-- A backup is kept and the file is written unless the caller says otherwise. -/
def Options.standard : Options := { backup := true, dryRun := false }

/-- The access that failed, with the path that it was for. -/
inductive Failure where
  | read (path : Path) (cause : AccessError)
  | backup (path : Path) (cause : AccessError)
  | write (path : Path) (cause : AccessError)
deriving DecidableEq

def Failure.message : Failure → String
  | .read path cause => "Could not read " ++ path.display ++ ": " ++ cause.message
  | .backup path cause => "Could not write backup " ++ path.display ++ ": " ++ cause.message
  | .write path cause => "Could not write " ++ path.display ++ ": " ++ cause.message

/-- What a run that did not fail gives. -/
structure Outcome where
  /-- The scoped stylesheet. -/
  text : Text
  report : Stylesheet.Report
  /-- The path of the backup, if one was written. -/
  backup : Option Path
deriving DecidableEq

/-- A run: what happened, and how it ended. -/
structure Run where
  events : List Event
  result : Except Failure Outcome

/-! ## The run -/

/-- The path of the backup of a file. -/
def backupPath (path : Path) : Path :=
  path ++ Path.ofText ['.', 'b', 'a', 'c', 'k', 'u', 'p']

/-- The text that a file with these bytes holds. -/
def textOfBytes (bytes : ByteArray) : Except AccessError Text :=
  match decode? bytes with
  | none => .error .notUtf8
  | some text => .ok text

/-- What has happened once a file was read and its text scoped. -/
def scopingEvents (path : Path) (css : Text) (sheet : Stylesheet.Scoped) : List Event :=
  .read path (byteLength css) :: (Event.ofRecord sheet.record ++ [.scoping path sheet.report])

section

variable {m : Type → Type} [Monad m] [FileStore m]

/-- The text of a file, which must be UTF-8. -/
def readText (path : Path) : m (Except AccessError Text) := do
  return (← FileStore.read path) >>= textOfBytes

/-- Writes the scoped text back, once the backup is done. -/
def writeBack (path : Path) (sheet : Stylesheet.Scoped) (events : List Event)
    (backup : Option Path) : m Run := do
  match ← FileStore.write path (encode sheet.text) with
  | .error cause => return { events := events, result := .error (.write path cause) }
  | .ok () =>
    return { events := events, result := .ok ⟨sheet.text, sheet.report, backup⟩ }

/-- Nests the stylesheet at a path under a wrapper class. -/
def scopeFile (path : Path) (wrapper : WrapperClass) (options : Options) : m Run := do
  match ← readText path with
  | .error cause => return { events := [], result := .error (.read path cause) }
  | .ok css =>
    let sheet := Stylesheet.scope wrapper.selector css
    let events := scopingEvents path css sheet
    -- From here on nothing is read any more: the bytes of the backup are those of the text.
    if options.dryRun then
      return { events := events, result := .ok ⟨sheet.text, sheet.report, none⟩ }
    else if options.backup then
      match ← FileStore.write (backupPath path) (encode css) with
      | .error cause =>
        return { events := events, result := .error (.backup (backupPath path) cause) }
      | .ok () =>
        writeBack path sheet (events ++ [.backup (backupPath path)]) (some (backupPath path))
    else
      writeBack path sheet events none

end

/-! ## Files of a tree -/

/-- Scopes a file of a tree: the run, and the tree after it. -/
def scopeFileIn (t : FileTree) (path : Path) (wrapper : WrapperClass) (options : Options) :
    Run × FileTree :=
  (scopeFile path wrapper options : FileTree.Action Run).run t

/-- Scopes a file of a tree that is accessed through a store: the run, and the tree after it. -/
def scopeFileOn (store : FileStore FileTree.Action) (t : FileTree) (path : Path)
    (wrapper : WrapperClass) (options : Options) : Run × FileTree :=
  (@scopeFile FileTree.Action _ store path wrapper options).run t

theorem scopeFileIn_eq (t : FileTree) (path : Path) (wrapper : WrapperClass) (options : Options) :
    scopeFileIn t path wrapper options =
      scopeFileOn FileTree.instFileStoreAction t path wrapper options := rfl

section

variable (store : FileStore FileTree.Action) {t u : FileTree} {path : Path} {css : Text}

/-- What reading a path as text gives, and the tree after it. -/
def readTextIn (t : FileTree) (path : Path) : Except AccessError Text × FileTree :=
  ((store.readIn t path).1 >>= textOfBytes, (store.readIn t path).2)

theorem run_readText (t : FileTree) (path : Path) :
    (@readText FileTree.Action _ store path).run t = readTextIn store t path := rfl

/-- Writes the scoped text back into a tree: the run, and the tree after it. -/
def writeBackIn (t : FileTree) (path : Path) (sheet : Stylesheet.Scoped) (events : List Event)
    (backup : Option Path) : Run × FileTree :=
  match store.writeIn t path (encode sheet.text) with
  | (.error cause, u) => ({ events := events, result := .error (.write path cause) }, u)
  | (.ok (), u) => ({ events := events, result := .ok ⟨sheet.text, sheet.report, backup⟩ }, u)

theorem run_writeBack (t : FileTree) (path : Path) (sheet : Stylesheet.Scoped)
    (events : List Event) (backup : Option Path) :
    (@writeBack FileTree.Action _ store path sheet events backup).run t =
      writeBackIn store t path sheet events backup := by
  unfold writeBack writeBackIn
  rw [StateT.run_bind, FileStore.run_write_eq]
  obtain ⟨_ | _, u⟩ := store.writeIn t path (encode sheet.text)
  · rfl
  · rfl

/-- A file that cannot be read as text ends the run. -/
theorem scopeFileOn_unread {cause : AccessError} (h : readTextIn store t path = (.error cause, u))
    (wrapper : WrapperClass) (options : Options) :
    scopeFileOn store t path wrapper options =
      ({ events := [], result := .error (.read path cause) }, u) := by
  unfold scopeFileOn scopeFile
  rw [StateT.run_bind, run_readText, h]
  rfl

/-- A file that was read as text: a dry run ends here, a backup comes before the file is written
    back, and a backup that fails ends the run. -/
theorem scopeFileOn_read (h : readTextIn store t path = (.ok css, u)) (wrapper : WrapperClass)
    (options : Options) :
    scopeFileOn store t path wrapper options =
      let sheet := Stylesheet.scope wrapper.selector css
      let events := scopingEvents path css sheet
      if options.dryRun then
        ({ events := events, result := .ok ⟨sheet.text, sheet.report, none⟩ }, u)
      else if options.backup then
        match store.writeIn u (backupPath path) (encode css) with
        | (.error cause, v) =>
          ({ events := events, result := .error (.backup (backupPath path) cause) }, v)
        | (.ok (), v) =>
          writeBackIn store v path sheet (events ++ [.backup (backupPath path)])
            (some (backupPath path))
      else writeBackIn store u path sheet events none := by
  unfold scopeFileOn scopeFile
  rw [StateT.run_bind, run_readText, h]
  obtain ⟨backup, dryRun⟩ := options
  cases dryRun with
  | true => rfl
  | false =>
    cases backup with
    | false => exact run_writeBack store u path _ _ none
    | true =>
      show StateT.run (store.write (backupPath path) (encode css) >>= _) u = _
      rw [StateT.run_bind, FileStore.run_write_eq]
      obtain ⟨_ | _, v⟩ := store.writeIn u (backupPath path) (encode css)
      · rfl
      · exact run_writeBack store v path _ _ _

end

end StyleScope.InPlace
