/-
  StyleScope.FileTree.Path

  Where a path leads in a tree.

  A path that starts with a slash is followed from the root, any other from the place where
  relative paths start. It is followed name by name. A name is looked up in a directory that may
  be searched, and the last one may be free. An empty name, as a slash at the end or one slash too
  many makes, asks for a directory and stays there; `.` stays too, and `..` leads one place up,
  or nowhere from the root.
-/
import StyleScope.FileTree.Basic

namespace StyleScope.FileTree

/-! ## Names in a path -/

/-- What stands between the names of a path. -/
def slash : UInt8 := '/'.toUInt8

/-- The names in a path, empty ones included. -/
def names (path : Path) : List Path := path.splitOn slash

/-- The name of the directory itself. -/
def here : Path := Path.ofText ['.']

/-- The name of the directory above. -/
def up : Path := Path.ofText ['.', '.']

/-- The longest name, in bytes. -/
def maxName : Nat := 255

/-- The longest path, in bytes. -/
def maxPath : Nat := 4095

/-! ## Following a path -/

/-- The permissions of the directory at a place. -/
def directoryAt (t : FileTree) (place : Place) : Except AccessError Permissions :=
  match t.at? place with
  | none => .error .notFound
  | some (.file ..) => .error .notADirectory
  | some (.directory permissions) => .ok permissions

/-- Looks into the directory at a place. -/
def enter (t : FileTree) (place : Place) : Except AccessError Unit := do
  let permissions ← t.directoryAt place
  if permissions.search then .ok () else .error .permissionDenied

/-- Where a name leads from a place. -/
def follow (t : FileTree) (place : Place) (name : Path) : Except AccessError Place := do
  if name = [] then
    -- Nothing is looked up, but a directory must stand here.
    let _ ← t.directoryAt place
    .ok place
  else
    t.enter place
    if name = here then .ok place
    else if name = up then
      -- Nothing is above the root, which `dropLast` leaves as it is.
      let _ ← t.directoryAt place.dropLast
      .ok place.dropLast
    else if maxName < name.length then .error .nameTooLong
    -- Whether anything stands there shows when the next name is looked up.
    else .ok (place ++ [name])

/-- Where a path starts. -/
def start (t : FileTree) (path : Path) : Place := if [slash] <+: path then [] else t.working

/-- The place that a path leads to, which may be free. -/
def locate (t : FileTree) (path : Path) : Except AccessError Place :=
  if 0 ∈ path then .error .nullInPath
  else if path = [] then .error .notFound
  else if maxPath < path.length then .error .nameTooLong
  else (names path).foldlM t.follow (t.start path)

end StyleScope.FileTree
