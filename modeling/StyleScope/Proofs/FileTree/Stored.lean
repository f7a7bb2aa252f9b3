/-
  StyleScope.Proofs.FileTree.Stored

  What storing a file changes in a tree.

  A stored file keeps the permissions of the file that it replaces, and nothing but its place
  changes (`IsStored.at?_eq`). Every path still leads where it led (`IsStored.locate`), so a file at
  another place is found as it was (`IsStored.hasFile_other`). Writing stores a file
  (`isStored_of_write`). Of two stores of one file the later counts (`IsStored.again`), and stores of
  two files may change places (`IsStored.swap`).
-/
import StyleScope.Proofs.FileTree.Location

namespace StyleScope.FileTree

variable {t u v : FileTree} {path other : Path} {place : Place} {permissions : Permissions}
  {bytes old new : ByteArray}

/-- The path leads to a file with these permissions and bytes. -/
def HasFile (t : FileTree) (path : Path) (permissions : Permissions) (bytes : ByteArray) : Prop :=
  ∃ place, t.locate path = .ok place ∧ t.at? place = some (.file permissions bytes)

/-- The second tree is the first with these bytes in the file that the path leads to. The file is
    made if nothing is there, and keeps its permissions if it is there. -/
def IsStored (path : Path) (bytes : ByteArray) (t u : FileTree) : Prop :=
  ∃ place permissions, t.locate path = .ok place ∧
    (t.at? place = none ∨ ∃ old, t.at? place = some (.file permissions old)) ∧
    u = t.put place (.file permissions bytes)

theorem not_isDirectory_of_free_or_file
    (h : t.at? place = none ∨ ∃ old, t.at? place = some (.file permissions old)) :
    ¬ t.IsDirectory place := by
  rcases h with hnone | ⟨old, hold⟩
  · rintro ⟨other, hother⟩
    rw [hnone] at hother
    exact absurd hother (by simp)
  · exact not_isDirectory_of_file hold

theorem free_or_file_of_writable (h : t.writable place = .ok permissions) :
    t.at? place = none ∨ ∃ old, t.at? place = some (.file permissions old) := by
  rcases writable_eq_ok_iff.1 h with ⟨old, hold, -⟩ | ⟨hnone, -⟩
  · exact Or.inr ⟨old, hold⟩
  · exact Or.inl hnone

theorem isStored_of_write (h : t.write path bytes = .ok u) : IsStored path bytes t u := by
  obtain ⟨place, permissions, hplace, hwritable, rfl⟩ := write_eq_ok_iff.1 h
  exact ⟨place, permissions, hplace, free_or_file_of_writable hwritable, rfl⟩

namespace IsStored

variable (h : IsStored path bytes t u)
include h

/-- Every path leads where it led. -/
theorem locate (hother : t.locate other = .ok place) : u.locate other = .ok place := by
  obtain ⟨stored, permissions, -, hfree, rfl⟩ := h
  exact locate_put_file (not_isDirectory_of_free_or_file hfree) hother

theorem working_eq : u.working = t.working := by
  obtain ⟨stored, permissions, -, -, rfl⟩ := h
  exact working_put t stored _

theorem at?_eq (hplace : t.locate path ≠ .ok place) : u.at? place = t.at? place := by
  obtain ⟨stored, permissions, hstored, -, rfl⟩ := h
  have hne : stored ≠ place := fun heq => hplace (heq ▸ hstored)
  rw [at?_put, if_neg hne]

theorem exists_hasFile : ∃ permissions, u.HasFile path permissions bytes := by
  obtain ⟨stored, permissions, hstored, -, hu⟩ := id h
  refine ⟨permissions, stored, h.locate hstored, ?_⟩
  rw [hu, at?_put, if_pos rfl]

/-- A file that is replaced keeps its permissions. -/
theorem hasFile_of_hasFile (hold : t.HasFile path permissions old) :
    u.HasFile path permissions bytes := by
  obtain ⟨place, hplace, hfile⟩ := hold
  obtain ⟨stored, p, hstored, hfree, hu⟩ := id h
  obtain rfl : place = stored := Except.ok.inj (hplace.symm.trans hstored)
  have hp : permissions = p := by
    rcases hfree with hnone | ⟨old', hold'⟩
    · rw [hnone] at hfile
      exact absurd hfile (by simp)
    · rw [hold'] at hfile
      simp only [Option.some.injEq, Node.file.injEq] at hfile
      exact hfile.1.symm
  refine ⟨place, h.locate hstored, ?_⟩
  rw [hu, at?_put, if_pos rfl, hp]

/-- A file that another path leads to, and to another place, stays as it is. -/
theorem hasFile_other (hother : t.HasFile other permissions old)
    (hne : t.locate path ≠ t.locate other) : u.HasFile other permissions old := by
  obtain ⟨place, hplace, hfile⟩ := hother
  refine ⟨place, h.locate hplace, ?_⟩
  rw [h.at?_eq (hplace ▸ hne), hfile]

/-! ## Storing twice -/

/-- The paths that lead somewhere are the same, and lead to the same places. -/
theorem locate_iff : u.locate other = .ok place ↔ t.locate other = .ok place := by
  refine ⟨fun hother => ?_, h.locate⟩
  obtain ⟨stored, permissions, -, -, rfl⟩ := h
  exact locate_of_locate_put_file hother

/-- Of two stores of one file the later counts. -/
theorem again (h' : IsStored path new u v) : IsStored path new t v := by
  obtain ⟨place, permissions', hplace', hfree', rfl⟩ := h'
  have hplace : t.locate path = .ok place := h.locate_iff.1 hplace'
  obtain ⟨stored, permissions, hstored, hfree, rfl⟩ := h
  obtain rfl : stored = place := Except.ok.inj (hstored.symm.trans hplace)
  -- The first store decides on the permissions, and the second keeps them.
  obtain rfl : permissions = permissions' := by
    rw [at?_put, if_pos rfl] at hfree'
    simpa using hfree'
  exact ⟨stored, permissions, hplace, hfree, put_put t stored _ _⟩

/-- Stores of two files may change places. -/
theorem swap (h' : IsStored other new u v) (hne : t.locate path ≠ t.locate other) :
    ∃ m, IsStored other new t m ∧ IsStored path bytes m v := by
  obtain ⟨place', permissions', hplace', hfree', rfl⟩ := h'
  have hother : t.locate other = .ok place' := h.locate_iff.1 hplace'
  have hsame : u.at? place' = t.at? place' := h.at?_eq (hother ▸ hne)
  obtain ⟨place, permissions, hplace, hfree, rfl⟩ := h
  have hplaces : place ≠ place' := by
    rintro rfl
    exact hne (hplace.trans hother.symm)
  rw [hsame] at hfree'
  have hfirst : IsStored other new t (t.put place' (.file permissions' new)) :=
    ⟨place', permissions', hother, hfree', rfl⟩
  refine ⟨_, hfirst, place, permissions, hfirst.locate hplace, ?_, ?_⟩
  · rw [hfirst.at?_eq fun heq => hplaces (Except.ok.inj (heq.symm.trans hother))]
    exact hfree
  · exact put_comm t hplaces _ _

end IsStored

end StyleScope.FileTree
