/-
  StyleScope.FileTree.Basic

  A tree of files as a map from places to what stands there.

  A place is the list of names that leads to it from the root of the tree. Files hold bytes,
  files and directories carry the permissions that the program has on them, and there are no
  links. A tree also knows the place at which relative paths start. Two trees are equal as soon as
  these places are and the same stands at every place (`FileTree.ext_at`).
-/
import Std.Data.ExtTreeMap
import StyleScope.Text.Utf8

namespace StyleScope

/-! ## Why an access fails -/

/-- Why a file could not be read or written. -/
inductive AccessError where
  | notFound
  | permissionDenied
  | notADirectory
  | isADirectory
  | nameTooLong
  /-- The path holds the null character. -/
  | nullInPath
  /-- The file holds bytes that are no text. -/
  | notUtf8
  /-- A failure of the device, in the words of the system. -/
  | device (words : String)
deriving DecidableEq, Repr

def AccessError.message : AccessError → String
  | .notFound => "No such file or directory (os error 2)"
  | .permissionDenied => "Permission denied (os error 13)"
  | .notADirectory => "Not a directory (os error 20)"
  | .isADirectory => "Is a directory (os error 21)"
  | .nameTooLong => "File name too long (os error 36)"
  | .nullInPath => "file name contained an unexpected NUL byte"
  | .notUtf8 => "stream did not contain valid UTF-8"
  | .device words => words

/-- One access after another succeeds just when both do. -/
theorem bind_eq_ok_iff {α β : Type} {x : Except AccessError α} {f : α → Except AccessError β}
    {b : β} : x >>= f = .ok b ↔ ∃ a, x = .ok a ∧ f a = .ok b := by
  cases x with
  | error cause => simp [bind, Except.bind]
  | ok a => simp [bind, Except.bind]

/-- An access that asks for something succeeds just when that is so. -/
theorem ite_eq_ok_iff {α : Type} {p : Prop} [Decidable p] {a b : α} {cause : AccessError} :
    (if p then .ok a else .error cause : Except AccessError α) = .ok b ↔ p ∧ a = b := by
  by_cases hp : p
  · simp [hp]
  · simp [hp]

/-! ## Paths and places -/

/-- A path, or a name in one: bytes, which need not be text. -/
abbrev Path := List UInt8

namespace Path

/-- The path that is written as a text. -/
def ofText (t : Text) : Path := t.flatMap String.utf8EncodeChar

/-- A path as messages show it. -/
def display (path : Path) : String := String.ofList (Text.decodeLossy path)

end Path

/-- A place in the tree: the names that lead to it from the root. -/
abbrev Place := List Path

/-! ## What stands in a tree -/

/-- What the program may do with a file or directory, as the user that it runs for. To search a
    directory is to pass through it on the way to something inside. -/
structure Permissions where
  read : Bool
  write : Bool
  search : Bool
deriving DecidableEq, Repr

namespace Permissions

/-- The permissions of a new file. -/
def newFile : Permissions := { read := true, write := true, search := false }

/-- The permissions of a new directory. -/
def newDirectory : Permissions := { read := true, write := true, search := true }

/-- The permissions that one octal digit stands for. -/
def ofDigit (digit : Nat) : Permissions where
  read := digit.testBit 2
  write := digit.testBit 1
  search := digit.testBit 0

end Permissions

/-- What stands at a place of the tree. -/
inductive Node where
  | file (permissions : Permissions) (bytes : ByteArray)
  | directory (permissions : Permissions)

/-- Files and directories by their places. The root is a place like any other. -/
structure FileTree where
  nodes : Std.ExtTreeMap Place Node
  /-- Where relative paths start. -/
  working : Place

namespace FileTree

/-- The tree in which nothing stands but the directories down to the one where relative paths
    start. -/
def startingIn (working : Place) : FileTree where
  nodes := (List.range (working.length + 1)).foldl
    (fun nodes k => nodes.insert (working.take k) (.directory .newDirectory)) ∅
  working := working

/-- What stands at a place. -/
def at? (t : FileTree) (place : Place) : Option Node := t.nodes[place]?

/-- Everything in the tree, with its place. -/
def entries (t : FileTree) : List (Place × Node) := t.nodes.toList

/-- The tree with something put at a place, whatever stood there before. -/
def put (t : FileTree) (place : Place) (node : Node) : FileTree :=
  { t with nodes := t.nodes.insert place node }

theorem working_put (t : FileTree) (place : Place) (node : Node) :
    (t.put place node).working = t.working := rfl

theorem ext_at {a b : FileTree} (hworking : a.working = b.working)
    (h : ∀ place, a.at? place = b.at? place) : a = b := by
  obtain ⟨m, v⟩ := a
  obtain ⟨n, w⟩ := b
  obtain rfl : v = w := hworking
  exact congrArg (FileTree.mk · v) (Std.ExtTreeMap.ext_getElem? h)

theorem at?_put (t : FileTree) (place other : Place) (node : Node) :
    (t.put place node).at? other = if place = other then some node else t.at? other := by
  simp [at?, put, Std.ExtTreeMap.getElem?_insert, Std.LawfulEqCmp.compare_eq_iff_eq]

/-- Puts at different places may change places. -/
theorem put_comm (t : FileTree) {a b : Place} (h : a ≠ b) (x y : Node) :
    (t.put a x).put b y = (t.put b y).put a x := by
  refine ext_at rfl fun place => ?_
  simp only [at?_put]
  by_cases ha : a = place <;> by_cases hb : b = place <;> simp_all

/-- Of two puts at one place the later counts. -/
theorem put_put (t : FileTree) (place : Place) (x y : Node) :
    (t.put place x).put place y = t.put place y := by
  refine ext_at rfl fun other => ?_
  simp only [at?_put]
  split <;> rfl

end FileTree

end StyleScope
