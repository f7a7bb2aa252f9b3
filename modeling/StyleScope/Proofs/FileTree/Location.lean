/-
  StyleScope.Proofs.FileTree.Location

  Where paths lead, before and after a file is written.

  `Follows` has one constructor for each thing that a name in a path can do, and a path leads to a
  place just when its names do, one after the other (`locate_eq_ok_iff`). An empty name, `.` and `..`
  end at a directory, so a path that leads to a file ends in the name of the file
  (`exists_name_of_leads_file`), whether it is absolute or relative. On the way only directories
  count, and a file that is written where no directory stands turns no path away and opens none
  (`locate_put_file`, `locate_of_locate_put_file`). A suffix on the path of a file leads to the entry
  of the same directory whose name has the suffix (`exists_names_of_locate_append`): to another one
  than the path (`locate_append_ne`), and to different ones from the paths of different files
  (`locate_append_injective`).
-/
import Mathlib.Data.List.Basic
import StyleScope.FileTree.Access
import StyleScope.Proofs.Text.Pieces

namespace StyleScope.FileTree

open Text

variable {t u : FileTree} {place q r b : Place} {name path suffix : Path} {ns : List Path}
  {permissions p : Permissions} {bytes : ByteArray}

/-! ## Directories -/

/-- A directory stands at the place. -/
def IsDirectory (t : FileTree) (place : Place) : Prop :=
  ∃ permissions, t.at? place = some (.directory permissions)

theorem directoryAt_eq_ok_iff :
    t.directoryAt place = .ok permissions ↔ t.at? place = some (.directory permissions) := by
  unfold directoryAt
  cases t.at? place with
  | none => simp
  | some node =>
    cases node with
    | file p bytes => simp
    | directory p => simp

theorem enter_eq_ok_iff :
    t.enter place = .ok () ↔
      ∃ permissions, t.at? place = some (.directory permissions) ∧ permissions.search = true := by
  rw [enter, bind_eq_ok_iff]
  refine exists_congr fun permissions => ?_
  rw [directoryAt_eq_ok_iff, ite_eq_ok_iff, and_iff_left rfl]

theorem isDirectory_of_enter (h : t.enter place = .ok ()) : t.IsDirectory place := by
  obtain ⟨permissions, hnode, -⟩ := enter_eq_ok_iff.1 h
  exact ⟨permissions, hnode⟩

theorem not_isDirectory_of_file (h : t.at? place = some (.file permissions bytes)) :
    ¬ t.IsDirectory place := by
  rintro ⟨p, hp⟩
  rw [h] at hp
  exact absurd hp (by simp)

/-! ## The steps of a path -/

/-- A name that an entry of a directory may have. -/
def IsEntryName (name : Path) : Prop :=
  name ≠ [] ∧ name ≠ here ∧ name ≠ up ∧ name.length ≤ maxName

/-- What a name of a path does. -/
inductive Follows (t : FileTree) : Place → Path → Place → Prop
  | slash {place : Place} (hd : t.IsDirectory place) : Follows t place [] place
  | stay {place : Place} (he : t.enter place = .ok ()) : Follows t place here place
  | above {place : Place} (he : t.enter place = .ok ()) (hd : t.IsDirectory place.dropLast) :
      Follows t place up place.dropLast
  | entry {place : Place} {name : Path} (he : t.enter place = .ok ()) (hn : IsEntryName name) :
      Follows t place name (place ++ [name])

theorem here_ne_nil : here ≠ [] := by decide

theorem up_ne_nil : up ≠ [] := by decide

theorem up_ne_here : up ≠ here := by decide

theorem follows_of_follow (h : t.follow place name = .ok q) : Follows t place name q := by
  unfold follow at h
  -- The cases are those of `follow`, in its order.
  by_cases hne : name = []
  · subst hne
    rw [if_pos rfl, bind_eq_ok_iff] at h
    obtain ⟨permissions, hd, hq⟩ := h
    obtain rfl := Except.ok.inj hq
    exact .slash ⟨permissions, directoryAt_eq_ok_iff.1 hd⟩
  rw [if_neg hne, bind_eq_ok_iff] at h
  obtain ⟨⟨⟩, he, h⟩ := h
  by_cases hh : name = here
  · subst hh
    rw [if_pos rfl] at h
    obtain rfl := Except.ok.inj h
    exact .stay he
  rw [if_neg hh] at h
  by_cases hu : name = up
  · subst hu
    rw [if_pos rfl, bind_eq_ok_iff] at h
    obtain ⟨permissions, hd, hq⟩ := h
    obtain rfl := Except.ok.inj hq
    exact .above he ⟨permissions, directoryAt_eq_ok_iff.1 hd⟩
  rw [if_neg hu] at h
  by_cases hl : maxName < name.length
  · rw [if_pos hl] at h
    exact absurd h (by simp)
  · rw [if_neg hl] at h
    obtain rfl := Except.ok.inj h
    exact .entry he ⟨hne, hh, hu, Nat.le_of_not_lt hl⟩

theorem Follows.follow_eq (h : Follows t place name q) : t.follow place name = .ok q := by
  unfold follow
  cases h with
  | slash hd =>
    obtain ⟨permissions, hd⟩ := hd
    rw [if_pos rfl, bind_eq_ok_iff]
    exact ⟨permissions, directoryAt_eq_ok_iff.2 hd, rfl⟩
  | stay he =>
    rw [if_neg here_ne_nil, bind_eq_ok_iff]
    exact ⟨(), he, if_pos rfl⟩
  | above he hd =>
    obtain ⟨permissions, hd⟩ := hd
    rw [if_neg up_ne_nil, bind_eq_ok_iff]
    refine ⟨(), he, ?_⟩
    rw [if_neg up_ne_here, if_pos rfl, bind_eq_ok_iff]
    exact ⟨permissions, directoryAt_eq_ok_iff.2 hd, rfl⟩
  | entry he hn =>
    rw [if_neg hn.1, bind_eq_ok_iff]
    refine ⟨(), he, ?_⟩
    rw [if_neg hn.2.1, if_neg hn.2.2.1, if_neg (Nat.not_lt.2 hn.2.2.2)]

theorem follow_eq_ok_iff : t.follow place name = .ok q ↔ Follows t place name q :=
  ⟨follows_of_follow, Follows.follow_eq⟩

/-! ## Names one after the other -/

/-- Where the names of a path lead from a place. -/
inductive Leads (t : FileTree) : Place → List Path → Place → Prop
  | nil (place : Place) : Leads t place [] place
  | cons {place m q : Place} {name : Path} {rest : List Path} (hname : Follows t place name m)
      (h : Leads t m rest q) : Leads t place (name :: rest) q

theorem foldlM_follow_eq_ok_iff : ns.foldlM t.follow place = .ok q ↔ Leads t place ns q := by
  induction ns generalizing place with
  | nil =>
    constructor
    · intro h
      obtain rfl := Except.ok.inj h
      exact .nil place
    · rintro ⟨⟩
      rfl
  | cons name rest ih =>
    rw [List.foldlM_cons, bind_eq_ok_iff]
    constructor
    · rintro ⟨m, hname, h⟩
      exact .cons (follow_eq_ok_iff.1 hname) (ih.1 h)
    · rintro (_ | ⟨hname, h⟩)
      exact ⟨_, hname.follow_eq, ih.2 h⟩

/-- Names lead to one place at most. -/
theorem Leads.unique (h : Leads t place ns q) (h' : Leads t place ns r) : q = r := by
  have heq := (foldlM_follow_eq_ok_iff.2 h).symm.trans (foldlM_follow_eq_ok_iff.2 h')
  exact Except.ok.inj heq

theorem leads_concat_iff :
    Leads t place (ns ++ [name]) q ↔ ∃ m, Leads t place ns m ∧ Follows t m name q := by
  induction ns generalizing place with
  | nil =>
    constructor
    · rintro (_ | ⟨hname, ⟨⟩⟩)
      exact ⟨place, .nil place, hname⟩
    · rintro ⟨m, ⟨⟩, hname⟩
      exact .cons hname (.nil q)
  | cons first rest ih =>
    constructor
    · rintro (_ | ⟨hfirst, h⟩)
      obtain ⟨m, hm, hname⟩ := ih.1 h
      exact ⟨m, .cons hfirst hm, hname⟩
    · rintro ⟨m, (_ | ⟨hfirst, hm⟩), hname⟩
      exact .cons hfirst (ih.2 ⟨m, hm, hname⟩)

theorem locate_eq_ok_iff :
    t.locate path = .ok q ↔
      0 ∉ path ∧ path ≠ [] ∧ path.length ≤ maxPath ∧ Leads t (t.start path) (names path) q := by
  rw [← foldlM_follow_eq_ok_iff, locate]
  -- Each of the three refusals contradicts one part of the right side.
  by_cases hnull : 0 ∈ path
  · simp [hnull]
  by_cases hempty : path = []
  · simp [hempty]
  by_cases hlong : maxPath < path.length
  · simp [hnull, hempty, hlong, Nat.not_le.2 hlong]
  · simp [hnull, hempty, hlong, Nat.not_lt.1 hlong]

/-- An absolute path and a relative one to the same place; nothing is above the root. -/
example :
    (startingIn [Path.ofText ['t']]).locate (Path.ofText ['/', '.', '.', '/', 't', '/', 'a']) =
        .ok [Path.ofText ['t'], Path.ofText ['a']] ∧
      (startingIn [Path.ofText ['t']]).locate (Path.ofText ['a']) =
        .ok [Path.ofText ['t'], Path.ofText ['a']] := ⟨rfl, rfl⟩

/-- A path that leads to a file ends in the name of the file. -/
theorem exists_name_of_leads_file (hne : ns ≠ []) (h : Leads t place ns q)
    (hq : t.at? q = some (.file permissions bytes)) :
    ∃ before name dir, ns = before ++ [name] ∧ Leads t place before dir ∧
      t.enter dir = .ok () ∧ IsEntryName name ∧ q = dir ++ [name] := by
  obtain ⟨before, name, rfl⟩ := (List.eq_nil_or_concat' ns).resolve_left hne
  obtain ⟨dir, hdir, hlast⟩ := leads_concat_iff.1 h
  have hnot : ¬ t.IsDirectory q := not_isDirectory_of_file hq
  refine ⟨before, name, dir, rfl, hdir, ?_⟩
  -- A name that is no entry's ends at a directory.
  cases hlast with
  | slash hd => exact absurd hd hnot
  | stay he => exact absurd (isDirectory_of_enter he) hnot
  | above he hd => exact absurd hd hnot
  | entry he hn => exact ⟨he, hn, rfl⟩

/-! ## A written file -/

theorem ne_of_isDirectory (hb : ¬ t.IsDirectory b) (h : t.IsDirectory place) : b ≠ place :=
  fun heq => hb (heq ▸ h)

theorem IsDirectory.put_file (hb : ¬ t.IsDirectory b) (h : t.IsDirectory place) :
    (t.put b (.file permissions bytes)).IsDirectory place := by
  rw [IsDirectory, at?_put, if_neg (ne_of_isDirectory hb h)]
  exact h

theorem enter_put_file (hb : ¬ t.IsDirectory b) (h : t.enter place = .ok ()) :
    (t.put b (.file permissions bytes)).enter place = .ok () := by
  rw [enter_eq_ok_iff, at?_put, if_neg (ne_of_isDirectory hb (isDirectory_of_enter h))]
  exact enter_eq_ok_iff.1 h

theorem Follows.put_file (hb : ¬ t.IsDirectory b) (h : Follows t place name q) :
    Follows (t.put b (.file permissions bytes)) place name q := by
  cases h with
  | slash hd => exact .slash (hd.put_file hb)
  | stay he => exact .stay (enter_put_file hb he)
  | above he hd => exact .above (enter_put_file hb he) (hd.put_file hb)
  | entry he hn => exact .entry (enter_put_file hb he) hn

theorem Leads.put_file (hb : ¬ t.IsDirectory b) (h : Leads t place ns q) :
    Leads (t.put b (.file permissions bytes)) place ns q := by
  induction h with
  | nil place => exact .nil place
  | cons hname h ih => exact .cons (hname.put_file hb) ih

/-- A file that is written where no directory stands is in no path's way. -/
theorem locate_put_file (hb : ¬ t.IsDirectory b) (h : t.locate path = .ok q) :
    (t.put b (.file permissions bytes)).locate path = .ok q := by
  obtain ⟨hnull, hempty, hlong, hleads⟩ := locate_eq_ok_iff.1 h
  exact locate_eq_ok_iff.2 ⟨hnull, hempty, hlong, hleads.put_file hb⟩

theorem IsDirectory.of_put_file (h : (t.put b (.file permissions bytes)).IsDirectory place) :
    b ≠ place ∧ t.IsDirectory place := by
  obtain ⟨p, hp⟩ := h
  rw [at?_put] at hp
  by_cases hb : b = place
  · rw [if_pos hb] at hp
    exact absurd hp (by simp)
  · rw [if_neg hb] at hp
    exact ⟨hb, p, hp⟩

theorem enter_of_enter_put_file (h : (t.put b (.file permissions bytes)).enter place = .ok ()) :
    t.enter place = .ok () := by
  have hb := (isDirectory_of_enter h).of_put_file.1
  rw [enter_eq_ok_iff, at?_put, if_neg hb] at h
  exact enter_eq_ok_iff.2 h

theorem Follows.of_put_file (h : Follows (t.put b (.file permissions bytes)) place name q) :
    Follows t place name q := by
  cases h with
  | slash hd => exact .slash hd.of_put_file.2
  | stay he => exact .stay (enter_of_enter_put_file he)
  | above he hd => exact .above (enter_of_enter_put_file he) hd.of_put_file.2
  | entry he hn => exact .entry (enter_of_enter_put_file he) hn

theorem Leads.of_put_file (h : Leads (t.put b (.file permissions bytes)) place ns q) :
    Leads t place ns q := by
  induction h with
  | nil place => exact .nil place
  | cons hname h ih => exact .cons hname.of_put_file ih

/-- A file that is written opens no new paths. -/
theorem locate_of_locate_put_file
    (h : (t.put b (.file permissions bytes)).locate path = .ok q) : t.locate path = .ok q := by
  obtain ⟨hnull, hempty, hlong, hleads⟩ := locate_eq_ok_iff.1 h
  exact locate_eq_ok_iff.2 ⟨hnull, hempty, hlong, hleads.of_put_file⟩

/-! ## Suffixes -/

/-- A suffix on a path that leads somewhere starts where the path does. -/
theorem start_append (hne : path ≠ []) (suffix : Path) :
    t.start (path ++ suffix) = t.start path := by
  -- Where a path starts hangs on its first byte alone.
  obtain ⟨c, rest, rfl⟩ := List.exists_cons_of_ne_nil hne
  simp [start]

/-- A suffix on the path of a file leads to the entry of the same directory whose name has the
    suffix. -/
theorem exists_names_of_locate_append
    (hq : t.locate path = .ok q) (hfile : t.at? q = some (.file permissions bytes))
    (hslash : slash ∉ suffix) (hlen : 3 ≤ suffix.length) (hb : t.locate (path ++ suffix) = .ok b) :
    ∃ dir name, q = dir ++ [name] ∧ b = dir ++ [name ++ suffix] := by
  obtain ⟨-, hne, -, hleads⟩ := locate_eq_ok_iff.1 hq
  obtain ⟨-, -, -, hleads'⟩ := locate_eq_ok_iff.1 hb
  obtain ⟨before, name, dir, hnames, hdir, -, -, rfl⟩ :=
    exists_name_of_leads_file (List.splitOn_ne_nil slash path) hleads hfile
  rw [start_append hne, names, splitOn_append_of_notMem hnames hslash] at hleads'
  obtain ⟨dir', hdir', hlast⟩ := leads_concat_iff.1 hleads'
  obtain rfl := hdir.unique hdir'
  refine ⟨dir, name, rfl, ?_⟩
  -- The new name is longer than `.` and `..`.
  have hlong : 3 ≤ (name ++ suffix).length := by
    rw [List.length_append]
    omega
  generalize name ++ suffix = new at hlast hlong
  cases hlast with
  | slash hd => exact absurd hlong (by decide)
  | stay he => exact absurd hlong (by decide)
  | above he hd => exact absurd hlong (by decide)
  | entry he hn => rfl

/-- A suffix on the path of a file leads to another entry of the directory of the file. -/
theorem locate_append_ne
    (hq : t.locate path = .ok q) (hfile : t.at? q = some (.file permissions bytes))
    (hslash : slash ∉ suffix) (hlen : 3 ≤ suffix.length) (hb : t.locate (path ++ suffix) = .ok b) :
    b ≠ q := by
  obtain ⟨dir, name, rfl, rfl⟩ := exists_names_of_locate_append hq hfile hslash hlen hb
  intro heq
  -- In one directory the two names would be equal, but one is longer.
  obtain ⟨-, hnames⟩ := List.append_inj' heq rfl
  have hsame := congrArg List.length (List.cons.inj hnames).1
  rw [List.length_append] at hsame
  omega

/-- With one suffix on both, paths of two files lead to two entries. -/
theorem locate_append_injective {other : Path} {bytes' : ByteArray}
    (hq : t.locate path = .ok q) (hqfile : t.at? q = some (.file permissions bytes))
    (hr : t.locate other = .ok r) (hrfile : t.at? r = some (.file p bytes'))
    (hslash : slash ∉ suffix) (hlen : 3 ≤ suffix.length)
    (hqb : t.locate (path ++ suffix) = .ok b) (hrb : t.locate (other ++ suffix) = .ok b) :
    q = r := by
  obtain ⟨dir, name, rfl, rfl⟩ := exists_names_of_locate_append hq hqfile hslash hlen hqb
  obtain ⟨dir', name', rfl, heq⟩ := exists_names_of_locate_append hr hrfile hslash hlen hrb
  obtain ⟨rfl, hnames⟩ := List.append_inj' heq rfl
  obtain rfl : name = name' := List.append_cancel_right (List.cons.inj hnames).1
  rfl

end StyleScope.FileTree
