/-
  StyleScope.FileStore

  What scoping a file needs of the place that holds it: to read a file and to write one. A file
  tree is such a place, with the tree as the state that reads leave alone and writes change. Other
  stores on a tree may refuse accesses that the tree allows; `readIn` and `writeIn` are what their
  accesses give and leave.
-/
import StyleScope.FileTree.Access

namespace StyleScope

/-- A computation with access to files. -/
class FileStore (m : Type → Type) where
  /-- The bytes of a file. -/
  read (path : Path) : m (Except AccessError ByteArray)
  /-- Replaces a file, or makes a new one. A write that fails changes nothing. -/
  write (path : Path) (bytes : ByteArray) : m (Except AccessError Unit)

namespace FileTree

/-- A computation on a file tree. -/
abbrev Action := StateM FileTree

instance : FileStore Action where
  read path := fun t => (t.read path, t)
  write path bytes := fun t =>
    match t.write path bytes with
    | .error cause => (.error cause, t)
    | .ok u => (.ok (), u)

theorem run_write_ok {t u : FileTree} {path : Path} {bytes : ByteArray}
    (h : t.write path bytes = .ok u) :
    (FileStore.write path bytes : Action _).run t = (.ok (), u) := by
  simp [FileStore.write, StateT.run, h]

theorem run_write_error {t : FileTree} {path : Path} {bytes : ByteArray} {cause : AccessError}
    (h : t.write path bytes = .error cause) :
    (FileStore.write path bytes : Action _).run t = (.error cause, t) := by
  simp [FileStore.write, StateT.run, h]

end FileTree

namespace FileStore

/-- What reading a path of a tree gives, and the tree after it. -/
def readIn (store : FileStore FileTree.Action) (t : FileTree) (path : Path) :
    Except AccessError ByteArray × FileTree :=
  (store.read path).run t

/-- What writing to a path of a tree gives, and the tree after it. -/
def writeIn (store : FileStore FileTree.Action) (t : FileTree) (path : Path) (bytes : ByteArray) :
    Except AccessError Unit × FileTree :=
  (store.write path bytes).run t

theorem run_write_eq (store : FileStore FileTree.Action) (t : FileTree) (path : Path)
    (bytes : ByteArray) : (store.write path bytes).run t = store.writeIn t path bytes := rfl

end FileStore

end StyleScope
