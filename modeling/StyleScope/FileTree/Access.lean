/-
  StyleScope.FileTree.Access

  Reading and writing by path, and what a tree holds.

  A write replaces the bytes of a file that may be written, or makes a new file in a directory
  that may be written; it changes one place of the tree and no other, and keeps the permissions
  of a file that was there (`write_eq_ok_iff`).
-/
import StyleScope.FileTree.Path

namespace StyleScope.FileTree

variable {t u : FileTree} {path : Path} {place : Place} {permissions : Permissions}
  {bytes : ByteArray}

/-! ## Reading -/

/-- The bytes of the file that a path leads to. -/
def read (t : FileTree) (path : Path) : Except AccessError ByteArray := do
  let place ← t.locate path
  match t.at? place with
  | none => .error .notFound
  | some (.directory permissions) =>
    .error (if permissions.read then .isADirectory else .permissionDenied)
  | some (.file permissions bytes) =>
    if permissions.read then .ok bytes else .error .permissionDenied

/-- What is read is what the file holds that the path leads to. -/
theorem read_eq_ok_iff :
    t.read path = .ok bytes ↔ ∃ place permissions, t.locate path = .ok place ∧
      t.at? place = some (.file permissions bytes) ∧ permissions.read = true := by
  rw [read, bind_eq_ok_iff]
  refine exists_congr fun place => ?_
  rw [exists_and_left]
  refine and_congr_right fun _ => ?_
  cases t.at? place with
  | none => simp
  | some node =>
    cases node with
    | directory permissions => simp
    | file p held =>
      refine ite_eq_ok_iff.trans ⟨?_, ?_⟩
      · rintro ⟨hread, rfl⟩
        exact ⟨p, rfl, hread⟩
      · rintro ⟨q, hnode, hread⟩
        obtain ⟨rfl, rfl⟩ := Node.file.inj (Option.some.inj hnode)
        exact ⟨hread, rfl⟩

/-! ## Writing -/

/-- Whether the directory at a place takes new entries. -/
def takesEntries (t : FileTree) (place : Place) : Bool :=
  match t.at? place with
  | some (.directory permissions) => permissions.write
  | _ => false

/-- The permissions that a file written at a place has: those of the file that is there, or
    those of a new file. -/
def writable (t : FileTree) (place : Place) : Except AccessError Permissions :=
  match t.at? place with
  | some (.directory _) => .error .isADirectory
  | some (.file permissions _) =>
    if permissions.write then .ok permissions else .error .permissionDenied
  | none => if t.takesEntries place.dropLast then .ok .newFile else .error .permissionDenied

/-- A file can be written where it is there and may be, or where a directory takes a new one. -/
theorem writable_eq_ok_iff :
    t.writable place = .ok permissions ↔
      (∃ old, t.at? place = some (.file permissions old) ∧ permissions.write = true) ∨
        t.at? place = none ∧ t.takesEntries place.dropLast = true ∧ permissions = .newFile := by
  unfold writable
  cases t.at? place with
  | none =>
    refine ite_eq_ok_iff.trans ⟨?_, ?_⟩
    · rintro ⟨htakes, rfl⟩
      exact Or.inr ⟨rfl, htakes, rfl⟩
    · rintro (⟨old, hnode, -⟩ | ⟨-, htakes, rfl⟩)
      · exact absurd hnode (by simp)
      · exact ⟨htakes, rfl⟩
  | some node =>
    cases node with
    | directory p => simp
    | file p old =>
      refine ite_eq_ok_iff.trans ⟨?_, ?_⟩
      · rintro ⟨hwrite, rfl⟩
        exact Or.inl ⟨old, rfl, hwrite⟩
      · rintro (⟨other, hnode, hwrite⟩ | ⟨hnone, -⟩)
        · obtain ⟨rfl, rfl⟩ := Node.file.inj (Option.some.inj hnode)
          exact ⟨hwrite, rfl⟩
        · exact absurd hnone (by simp)

/-- The tree after bytes are written to a path. -/
def write (t : FileTree) (path : Path) (bytes : ByteArray) : Except AccessError FileTree := do
  let place ← t.locate path
  let permissions ← t.writable place
  .ok (t.put place (.file permissions bytes))

/-- A write changes the place that its path leads to and no other. -/
theorem write_eq_ok_iff :
    t.write path bytes = .ok u ↔ ∃ place permissions, t.locate path = .ok place ∧
      t.writable place = .ok permissions ∧ u = t.put place (.file permissions bytes) := by
  rw [write, bind_eq_ok_iff]
  refine exists_congr fun place => ?_
  rw [exists_and_left, bind_eq_ok_iff]
  refine and_congr_right fun _ => exists_congr fun permissions => and_congr_right fun _ => ?_
  exact ⟨fun h => (Except.ok.inj h).symm, fun h => congrArg Except.ok h.symm⟩

/-! ## Making a tree -/

/-- The tree with a directory at a path, in a directory that is there already. -/
def makeDirectory (t : FileTree) (path : Path) : Except AccessError FileTree := do
  let place ← t.locate path
  match t.at? place with
  | some (.directory _) => .ok t
  | some (.file ..) => .error .notADirectory
  | none =>
    if t.takesEntries place.dropLast then .ok (t.put place (.directory .newDirectory))
    else .error .permissionDenied

/-- The tree with a directory at a path and at every place on the way to it. -/
def makeDirectories (t : FileTree) (path : Path) : Except AccessError FileTree :=
  let parts := names path
  (List.range parts.length).foldlM (fun tree k =>
    -- The first of the parts of an absolute path is the root.
    if parts.take (k + 1) = [[]] then .ok tree
    else tree.makeDirectory ([slash].intercalate (parts.take (k + 1)))) t

/-- The tree with other permissions on what a path leads to. -/
def setPermissions (t : FileTree) (path : Path) (permissions : Permissions) :
    Except AccessError FileTree := do
  let place ← t.locate path
  match t.at? place with
  | none => .error .notFound
  | some (.file _ bytes) => .ok (t.put place (.file permissions bytes))
  | some (.directory _) => .ok (t.put place (.directory permissions))

/-! ## Listing a tree -/

/-- What a listing shows of one place. -/
inductive Entry where
  | directory
  | unreadable
  | content (bytes : ByteArray)

def Entry.ofNode : Node → Entry
  | .directory _ => .directory
  | .file permissions bytes => if permissions.read then .content bytes else .unreadable

/-- Everything below the place where relative paths start, with its relative path, in ascending
    order of paths. -/
def listing (t : FileTree) : List (Path × Entry) :=
  (t.entries.filterMap fun (place, node) =>
    if t.working <+: place ∧ place ≠ t.working then
      some ([slash].intercalate (place.drop t.working.length), Entry.ofNode node)
    else none).mergeSort fun a b => (compare a.1 b.1).isLE

end StyleScope.FileTree
