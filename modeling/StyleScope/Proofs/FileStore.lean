/-
  StyleScope.Proofs.FileStore

  What may be relied on when the files of a tree are read and written.

  A store is sound if a read changes nothing and gives the bytes that are there, a write that fails
  changes nothing, and a write that does not fail stores the file and does nothing else. It may fail
  for reasons of its own, such as a full disk. The tree itself is sound (`isSound_tree`).
-/
import StyleScope.FileStore
import StyleScope.Proofs.FileTree.Stored

namespace StyleScope.FileStore

open FileTree

/-- The accesses of a store do what they say. Any of them may fail. -/
structure IsSound (store : FileStore FileTree.Action) : Prop where
  read_keeps : ∀ t path, (store.readIn t path).2 = t
  read_ok : ∀ t path bytes, (store.readIn t path).1 = .ok bytes →
    ∃ permissions, t.HasFile path permissions bytes
  write_error : ∀ t path bytes cause, (store.writeIn t path bytes).1 = .error cause →
    (store.writeIn t path bytes).2 = t
  write_ok : ∀ t path bytes, (store.writeIn t path bytes).1 = .ok () →
    IsStored path bytes t (store.writeIn t path bytes).2

theorem hasFile_of_read {t : FileTree} {path : Path} {bytes : ByteArray}
    (h : t.read path = .ok bytes) : ∃ permissions, t.HasFile path permissions bytes := by
  obtain ⟨place, permissions, hplace, hfile, -⟩ := read_eq_ok_iff.1 h
  exact ⟨permissions, place, hplace, hfile⟩

theorem writeIn_tree_ok {t u : FileTree} {path : Path} {bytes : ByteArray}
    (h : t.write path bytes = .ok u) : instFileStoreAction.writeIn t path bytes = (.ok (), u) :=
  run_write_ok h

theorem writeIn_tree_error {t : FileTree} {path : Path} {bytes : ByteArray} {cause : AccessError}
    (h : t.write path bytes = .error cause) :
    instFileStoreAction.writeIn t path bytes = (.error cause, t) :=
  run_write_error h

theorem isSound_tree : IsSound instFileStoreAction where
  read_keeps _ _ := rfl
  read_ok _ _ _ h := hasFile_of_read h
  write_error t path bytes cause h := by
    cases hw : t.write path bytes with
    | error e => rw [writeIn_tree_error hw]
    | ok u =>
      rw [writeIn_tree_ok hw] at h
      exact absurd h (by simp)
  write_ok t path bytes h := by
    cases hw : t.write path bytes with
    | error e =>
      rw [writeIn_tree_error hw] at h
      exact absurd h (by simp)
    | ok u =>
      rw [writeIn_tree_ok hw]
      exact isStored_of_write hw

end StyleScope.FileStore
