/-
  StyleScope.Proofs.FileTree.Writes

  Writes to different files.

  What a write needs is that its path leads somewhere, that the file there or the directory around
  it may be written, and no more. A write to another file takes nothing of that away, since it makes
  no directory and no directory goes: a file that can be written or read can be written or read
  afterwards (`writable_put_file`, `read_put_file`). So two writes to different files can be done in
  either order, with the same tree in the end (`write_swap`), and the same holds of two lists of
  writes (`Writes.swap`).
-/
import StyleScope.Proofs.FileTree.Stored

namespace StyleScope.FileTree

variable {t u v : FileTree} {path other : Path} {place b : Place} {permissions p : Permissions}
  {bytes x y : ByteArray} {ws vs : List (Path × ByteArray)}

/-! ## Behind one write -/

theorem not_isDirectory_of_writable (h : t.writable place = .ok permissions) :
    ¬ t.IsDirectory place :=
  not_isDirectory_of_free_or_file (free_or_file_of_writable h)

/-- A file is no directory, before it is written and after. -/
theorem takesEntries_put_file (hb : ¬ t.IsDirectory b) (place : Place) :
    (t.put b (.file p x)).takesEntries place = t.takesEntries place := by
  rw [takesEntries, takesEntries, at?_put]
  by_cases heq : b = place
  · subst heq
    rw [if_pos rfl]
    cases hnode : t.at? b with
    | none => rfl
    | some node =>
      cases node with
      | file q old => rfl
      | directory q => exact absurd ⟨q, hnode⟩ hb
  · rw [if_neg heq]

theorem writable_put_file (hb : ¬ t.IsDirectory b) (hne : b ≠ place) :
    (t.put b (.file p x)).writable place = t.writable place := by
  rw [writable, writable, at?_put, if_neg hne, takesEntries_put_file hb]

/-- A file that another path leads to is read as before. -/
theorem read_put_file (hb : ¬ t.IsDirectory b) (hplace : t.locate path = .ok place)
    (hne : b ≠ place) : (t.put b (.file p x)).read path = t.read path := by
  have hlocate : (t.put b (.file p x)).locate path = .ok place := locate_put_file hb hplace
  have hnode : (t.put b (.file p x)).at? place = t.at? place := by
    rw [at?_put, if_neg hne]
  simp only [read, hlocate, hplace, hnode, bind, Except.bind]

/-- Writes to different files can be done in either order. -/
theorem write_swap (hx : t.write path x = .ok u) (hy : t.write other y = .ok v)
    (hne : t.locate path ≠ t.locate other) :
    ∃ z, u.write other y = .ok z ∧ v.write path x = .ok z := by
  obtain ⟨a, permissions, ha, hwritable, rfl⟩ := write_eq_ok_iff.1 hx
  obtain ⟨b, permissions', hb, hwritable', rfl⟩ := write_eq_ok_iff.1 hy
  have hplaces : a ≠ b := by
    rintro rfl
    exact hne (ha.trans hb.symm)
  have hadir : ¬ t.IsDirectory a := not_isDirectory_of_writable hwritable
  have hbdir : ¬ t.IsDirectory b := not_isDirectory_of_writable hwritable'
  refine ⟨(t.put a (.file permissions x)).put b (.file permissions' y), ?_, ?_⟩
  · apply write_eq_ok_iff.2
    refine ⟨b, permissions', locate_put_file hadir hb, ?_, rfl⟩
    rw [writable_put_file hadir hplaces, hwritable']
  · apply write_eq_ok_iff.2
    refine ⟨a, permissions, locate_put_file hbdir ha, ?_, put_comm t hplaces _ _⟩
    rw [writable_put_file hbdir hplaces.symm, hwritable]

/-- Paths that lead to different places do so in every tree in which paths lead to the same places.
    -/
theorem locate_ne_of_locate_iff {a : Path}
    (h : ∀ path place, u.locate path = .ok place ↔ t.locate path = .ok place)
    (ha : t.locate a = .ok place) (hne : t.locate a ≠ t.locate other) :
    u.locate a ≠ u.locate other := by
  intro heq
  rw [(h a place).2 ha] at heq
  exact hne (ha.trans ((h other place).1 heq.symm).symm)

theorem IsStored.locate_ne {a : Path} (h : IsStored path bytes t u) (ha : t.locate a = .ok place)
    (hne : t.locate a ≠ t.locate other) : u.locate a ≠ u.locate other :=
  locate_ne_of_locate_iff (fun _ _ => h.locate_iff) ha hne

/-! ## Many writes -/

/-- Files are written one after the other, and no write fails. -/
inductive Writes : FileTree → List (Path × ByteArray) → FileTree → Prop
  | nil (t : FileTree) : Writes t [] t
  | cons {t m u : FileTree} {path : Path} {x : ByteArray} {ws : List (Path × ByteArray)}
      (hx : t.write path x = .ok m) (h : Writes m ws u) : Writes t ((path, x) :: ws) u

namespace Writes

/-- The paths that lead somewhere are the same, and lead to the same places. -/
theorem locate_iff (h : Writes t ws u) :
    u.locate other = .ok place ↔ t.locate other = .ok place := by
  induction h with
  | nil t => exact Iff.rfl
  | cons hx h ih => exact ih.trans (isStored_of_write hx).locate_iff

theorem locate_ne {a : Path} (h : Writes t ws u) (ha : t.locate a = .ok place)
    (hne : t.locate a ≠ t.locate other) : u.locate a ≠ u.locate other :=
  locate_ne_of_locate_iff (fun _ _ => h.locate_iff) ha hne

/-- What is written is at a place that its path led to from the start. -/
theorem exists_locate (h : Writes t ws u) : ∀ f ∈ ws, ∃ place, t.locate f.1 = .ok place := by
  induction h with
  | nil t =>
    intro f hf
    exact absurd hf List.not_mem_nil
  | cons hx h ih =>
    intro f hf
    rcases List.mem_cons.1 hf with rfl | hf
    · obtain ⟨place, -, hplace, -, -⟩ := write_eq_ok_iff.1 hx
      exact ⟨place, hplace⟩
    · obtain ⟨place, hplace⟩ := ih f hf
      exact ⟨place, (isStored_of_write hx).locate_iff.1 hplace⟩

/-- A file that is not written is read as before. -/
theorem read_eq (h : Writes t ws u) (hplace : t.locate path = .ok place)
    (hne : ∀ f ∈ ws, t.locate path ≠ t.locate f.1) : u.read path = t.read path := by
  induction h with
  | nil t => rfl
  | @cons t m u name x ws hx h ih =>
    have hstored := isStored_of_write hx
    have hfirst : t.locate path ≠ t.locate name := hne (name, x) List.mem_cons_self
    have hread : m.read path = t.read path := by
      obtain ⟨b, p, hb, hwritable, rfl⟩ := write_eq_ok_iff.1 hx
      apply read_put_file (not_isDirectory_of_writable hwritable) hplace
      rintro rfl
      exact hfirst (hplace.trans hb.symm)
    have hrest : ∀ f ∈ ws, m.locate path ≠ m.locate f.1 := by
      intro f hf
      exact hstored.locate_ne hplace (hne f (List.mem_cons_of_mem _ hf))
    rw [ih (hstored.locate hplace) hrest, hread]

/-- A write to another file can come before the writes or behind them. -/
theorem swap_write (h : Writes t ws u) (hx : t.write path x = .ok v)
    (hne : ∀ f ∈ ws, t.locate path ≠ t.locate f.1) :
    ∃ z, u.write path x = .ok z ∧ Writes v ws z := by
  induction h generalizing v with
  | nil t => exact ⟨v, hx, .nil v⟩
  | @cons t m u name y ws hy h ih =>
    obtain ⟨place, -, hplace, -, -⟩ := write_eq_ok_iff.1 hx
    obtain ⟨n, hn, hn'⟩ := write_swap hx hy (hne (name, y) List.mem_cons_self)
    have hrest : ∀ f ∈ ws, m.locate path ≠ m.locate f.1 := by
      intro f hf
      exact (isStored_of_write hy).locate_ne hplace (hne f (List.mem_cons_of_mem _ hf))
    obtain ⟨z, hz, hz'⟩ := ih hn' hrest
    exact ⟨z, hz, .cons hn hz'⟩

/-- Two lists of writes that have no file in common can be done in either order. -/
theorem swap (h : Writes t ws u) (h' : Writes t vs v)
    (hne : ∀ g ∈ vs, ∀ f ∈ ws, t.locate g.1 ≠ t.locate f.1) :
    ∃ z, Writes u vs z ∧ Writes v ws z := by
  induction h' generalizing u with
  | nil t => exact ⟨u, .nil u, h⟩
  | @cons t m v name y vs hy h' ih =>
    -- The first of the writes goes behind the other list, and the rest follow it there.
    obtain ⟨n, hn, hn'⟩ := h.swap_write hy (hne (name, y) List.mem_cons_self)
    have hrest : ∀ g ∈ vs, ∀ f ∈ ws, m.locate g.1 ≠ m.locate f.1 := by
      intro g hg f hf
      obtain ⟨place, hplace⟩ := h'.exists_locate g hg
      have hold : t.locate g.1 = .ok place := (isStored_of_write hy).locate_iff.1 hplace
      exact (isStored_of_write hy).locate_ne hold (hne g (List.mem_cons_of_mem _ hg) f hf)
    obtain ⟨z, hz, hz'⟩ := ih hn' hrest
    exact ⟨z, .cons hn hz, hz'⟩

end Writes

end StyleScope.FileTree
