/-
  StyleScope.Proofs.InPlace.Independence

  Runs on different files, one after the other in any order.

  A run that succeeds reads a text and then writes its files, and what it tells depends on that text
  alone (`succeeds_iff`, `runIn_eq`). Two runs are apart if neither writes the file of the other.
  Their backups are apart then too: they stand beside two files, under the names of these with one
  suffix (`locate_backupPath_ne_of_ne`). So each run reads what it would have read alone, its writes
  go well behind those of the other, and both orders leave one tree (`runIn_runIn`). What is left of
  a list of runs after the first is apart in the tree that the first leaves, and so the list can be
  run in any order (`runEach_of_perm`).
-/
import StyleScope.Proofs.FileTree.Writes
import StyleScope.Proofs.InPlace.Ending

namespace StyleScope.InPlace

open Text FileTree

/-! ## Calls -/

/-- What a run is asked for: a file, a class, and how the file is treated. -/
structure Call where
  path : Path
  wrapper : WrapperClass
  options : Options

variable {t u v m : FileTree} {path other : Path} {css : Text} {a b c d : Call} {calls order : List Call}
  {outcome : Outcome} {ws : List (Path × ByteArray)}

namespace Call

/-- The run on a tree, and the tree after it. -/
def runIn (c : Call) (t : FileTree) : Run × FileTree := scopeFileIn t c.path c.wrapper c.options

/-- The run on the tree gives an outcome. -/
def Succeeds (t : FileTree) (c : Call) : Prop := ∃ outcome, (c.runIn t).1.result = .ok outcome

/-- The text that was read, scoped. -/
def sheet (c : Call) (css : Text) : Stylesheet.Scoped := Stylesheet.scope c.wrapper.selector css

/-- The files that are written, in order, once the text was read. -/
def writes (c : Call) (css : Text) : List (Path × ByteArray) :=
  if c.options.dryRun then []
  else if c.options.backup then
    [(backupPath c.path, encode css), (c.path, encode (c.sheet css).text)]
  else [(c.path, encode (c.sheet css).text)]

/-- What a run tells that read the text and went well. -/
def told (c : Call) (css : Text) : Run :=
  if !c.options.dryRun && c.options.backup then
    { events := scopingEvents c.path css (c.sheet css) ++ [.backup (backupPath c.path)]
      result := .ok ⟨(c.sheet css).text, (c.sheet css).report, some (backupPath c.path)⟩ }
  else
    { events := scopingEvents c.path css (c.sheet css)
      result := .ok ⟨(c.sheet css).text, (c.sheet css).report, none⟩ }

/-- No file is written but the one of the call and its backup. -/
theorem path_of_mem_writes {f : Path × ByteArray} (h : f ∈ c.writes css) :
    f.1 = c.path ∨ f.1 = backupPath c.path := by
  unfold writes at h
  split at h
  · exact absurd h List.not_mem_nil
  · split at h
    · rcases List.mem_pair.1 h with rfl | rfl
      · exact Or.inr rfl
      · exact Or.inl rfl
    · obtain rfl := List.mem_singleton.1 h
      exact Or.inl rfl

theorem told_result (c : Call) (css : Text) : ∃ outcome, (c.told css).result = .ok outcome := by
  unfold told
  split
  · exact ⟨_, rfl⟩
  · exact ⟨_, rfl⟩

end Call

/-! ## One run -/

theorem writeBackIn_of_write {sheet : Stylesheet.Scoped} {events : List Event}
    {backup : Option Path} (h : t.write path (encode sheet.text) = .ok u) :
    writeBackIn FileTree.instFileStoreAction t path sheet events backup =
      ({ events := events, result := .ok ⟨sheet.text, sheet.report, backup⟩ }, u) := by
  rw [writeBackIn, FileStore.writeIn_tree_ok h]

theorem write_of_writeBackIn {sheet : Stylesheet.Scoped} {events : List Event}
    {backup : Option Path}
    (h : (writeBackIn FileTree.instFileStoreAction t path sheet events backup).1.result =
      .ok outcome) : ∃ u, t.write path (encode sheet.text) = .ok u := by
  cases hw : t.write path (encode sheet.text) with
  | error cause =>
    rw [writeBackIn, FileStore.writeIn_tree_error hw] at h
    exact absurd h (by simp)
  | ok u => exact ⟨u, rfl⟩

/-- A file that is read as text is read in this way by every run. -/
theorem runIn_of_read (h : t.read c.path = .ok (encode css)) :
    c.runIn t =
      if c.options.dryRun then
        ({ events := scopingEvents c.path css (c.sheet css)
           result := .ok ⟨(c.sheet css).text, (c.sheet css).report, none⟩ }, t)
      else if c.options.backup then
        match FileTree.instFileStoreAction.writeIn t (backupPath c.path) (encode css) with
        | (.error cause, v) =>
          ({ events := scopingEvents c.path css (c.sheet css)
             result := .error (.backup (backupPath c.path) cause) }, v)
        | (.ok (), v) =>
          writeBackIn FileTree.instFileStoreAction v c.path (c.sheet css)
            (scopingEvents c.path css (c.sheet css) ++ [.backup (backupPath c.path)])
            (some (backupPath c.path))
      else
        writeBackIn FileTree.instFileStoreAction t c.path (c.sheet css)
          (scopingEvents c.path css (c.sheet css)) none := by
  have htext : IsText FileTree.instFileStoreAction t c.path css := h
  rw [Call.runIn, scopeFileIn_eq,
    scopeFileOn_read _ (readTextIn_of_isText FileStore.isSound_tree htext)]
  rfl

/-- A run that reads a text and can write its files goes well. -/
theorem runIn_eq (hread : t.read c.path = .ok (encode css)) (h : Writes t (c.writes css) u) :
    c.runIn t = (c.told css, u) := by
  rw [runIn_of_read hread]
  unfold Call.writes at h
  unfold Call.told
  cases hdry : c.options.dryRun with
  | true =>
    simp only [hdry, if_true] at h
    cases h
    rfl
  | false =>
    cases hbackup : c.options.backup with
    | false =>
      simp only [hdry, hbackup, Bool.false_eq_true, if_false] at h
      cases h with
      | cons hx hrest =>
        cases hrest
        exact writeBackIn_of_write hx
    | true =>
      simp only [hdry, hbackup, Bool.false_eq_true, if_false, if_true] at h
      cases h with
      | cons hx hrest =>
        cases hrest with
        | cons hy hnone =>
          cases hnone
          simp only [Bool.false_eq_true, if_false, if_true, FileStore.writeIn_tree_ok hx]
          exact writeBackIn_of_write hy

theorem exists_writes_of_succeeds (h : c.Succeeds t) :
    ∃ css u, t.read c.path = .ok (encode css) ∧ Writes t (c.writes css) u := by
  obtain ⟨outcome, hok⟩ := h
  rcases isUnreadable_or_isText FileTree.instFileStoreAction t c.path with
    ⟨cause, hcause⟩ | ⟨css, htext⟩
  · have hrun := scopeFileOn_unread FileTree.instFileStoreAction
      (readTextIn_of_isUnreadable FileStore.isSound_tree hcause) c.wrapper c.options
    rw [Call.runIn, scopeFileIn_eq, hrun] at hok
    exact absurd hok (by simp)
  have hread : t.read c.path = .ok (encode css) := htext
  rw [runIn_of_read hread] at hok
  refine ⟨css, ?_⟩
  unfold Call.writes
  cases hdry : c.options.dryRun with
  | true => exact ⟨t, hread, Writes.nil t⟩
  | false =>
    cases hbackup : c.options.backup with
    | false =>
      simp only [hdry, hbackup, Bool.false_eq_true, if_false] at hok ⊢
      obtain ⟨u, hu⟩ := write_of_writeBackIn hok
      exact ⟨u, hread, .cons hu (.nil u)⟩
    | true =>
      simp only [hdry, hbackup, Bool.false_eq_true, if_false, if_true] at hok ⊢
      cases hw : t.write (backupPath c.path) (encode css) with
      | error cause =>
        rw [FileStore.writeIn_tree_error hw] at hok
        exact absurd hok (by simp)
      | ok m =>
        rw [FileStore.writeIn_tree_ok hw] at hok
        obtain ⟨u, hu⟩ := write_of_writeBackIn hok
        exact ⟨u, hread, .cons hw (.cons hu (.nil u))⟩

/-- A run succeeds just when the file can be read as text and its files can be written. -/
theorem succeeds_iff :
    c.Succeeds t ↔ ∃ css u, t.read c.path = .ok (encode css) ∧ Writes t (c.writes css) u := by
  constructor
  · exact exists_writes_of_succeeds
  · rintro ⟨css, u, hread, hwrites⟩
    obtain ⟨outcome, hok⟩ := c.told_result css
    rw [Call.Succeeds, runIn_eq hread hwrites]
    exact ⟨outcome, hok⟩

/-! ## Two runs -/

/-- The paths of two calls name two files, and neither of them is the backup of the other. -/
def AreApart (t : FileTree) (a b : Call) : Prop :=
  t.locate a.path ≠ t.locate b.path ∧ t.locate a.path ≠ t.locate (backupPath b.path) ∧
    t.locate b.path ≠ t.locate (backupPath a.path)

theorem AreApart.symm (h : AreApart t a b) : AreApart t b a := ⟨h.1.symm, h.2.2, h.2.1⟩

/-- The backups of two files are two files. -/
theorem locate_backupPath_ne_of_ne {place : Place} {permissions permissions' : Permissions}
    {bytes bytes' : ByteArray} (hp : t.HasFile path permissions bytes)
    (hq : t.HasFile other permissions' bytes') (hne : t.locate path ≠ t.locate other)
    (hplace : t.locate (backupPath path) = .ok place) :
    t.locate (backupPath path) ≠ t.locate (backupPath other) := by
  obtain ⟨p, hpplace, hpfile⟩ := hp
  obtain ⟨q, hqplace, hqfile⟩ := hq
  intro heq
  have hsame : p = q := locate_append_injective hpplace hpfile hqplace hqfile (by decide)
    (by decide) hplace (heq ▸ hplace)
  exact hne (hpplace.trans (hsame ▸ hqplace.symm))

/-- Runs that are apart write no file in common. -/
theorem AreApart.locate_ne_of_mem_writes {cssa cssb : Text} (h : AreApart t a b)
    (ha : t.read a.path = .ok (encode cssa)) (hb : t.read b.path = .ok (encode cssb))
    (hwrites : Writes t (b.writes cssb) v) :
    ∀ g ∈ b.writes cssb, ∀ f ∈ a.writes cssa, t.locate g.1 ≠ t.locate f.1 := by
  intro g hg f hf
  obtain ⟨place, hplace⟩ := hwrites.exists_locate g hg
  rcases Call.path_of_mem_writes hg with hgp | hgp
  · rcases Call.path_of_mem_writes hf with hfp | hfp
    · rw [hgp, hfp]
      exact h.1.symm
    · rw [hgp, hfp]
      exact h.2.2
  · rcases Call.path_of_mem_writes hf with hfp | hfp
    · rw [hgp, hfp]
      exact h.2.1.symm
    · -- Both are backups, of files that were read.
      obtain ⟨p, hafile⟩ := FileStore.hasFile_of_read ha
      obtain ⟨q, hbfile⟩ := FileStore.hasFile_of_read hb
      rw [hgp] at hplace
      rw [hgp, hfp]
      exact locate_backupPath_ne_of_ne hbfile hafile h.1.symm hplace

/-- What a run reads is not written by a run that is apart from it. -/
theorem AreApart.read_eq (h : AreApart t a b) (hwrites : Writes t (a.writes css) u)
    {place : Place} (hplace : t.locate b.path = .ok place) : u.read b.path = t.read b.path := by
  apply hwrites.read_eq hplace
  intro f hf
  rcases Call.path_of_mem_writes hf with hfp | hfp
  · rw [hfp]
    exact h.1.symm
  · rw [hfp]
    exact h.2.2

theorem exists_locate_of_read {bytes : ByteArray} (h : t.read path = .ok bytes) :
    ∃ place, t.locate path = .ok place := by
  obtain ⟨p, place, hplace, -⟩ := FileStore.hasFile_of_read h
  exact ⟨place, hplace⟩

/-- Behind a run that is apart from it, a run tells what it tells alone, and both orders leave one
    tree. -/
theorem runIn_runIn (h : AreApart t a b) (ha : a.Succeeds t) (hb : b.Succeeds t) :
    (b.runIn (a.runIn t).2).1 = (b.runIn t).1 ∧
      (b.runIn (a.runIn t).2).2 = (a.runIn (b.runIn t).2).2 := by
  obtain ⟨cssa, u, hreada, hwritesa⟩ := succeeds_iff.1 ha
  obtain ⟨cssb, v, hreadb, hwritesb⟩ := succeeds_iff.1 hb
  obtain ⟨p, hp⟩ := exists_locate_of_read hreada
  obtain ⟨q, hq⟩ := exists_locate_of_read hreadb
  have hbread : u.read b.path = .ok (encode cssb) := (h.read_eq hwritesa hq).trans hreadb
  have haread : v.read a.path = .ok (encode cssa) := (h.symm.read_eq hwritesb hp).trans hreada
  obtain ⟨z, hz, hz'⟩ :=
    hwritesa.swap hwritesb (h.locate_ne_of_mem_writes hreada hreadb hwritesb)
  rw [runIn_eq hreada hwritesa, runIn_eq hreadb hwritesb]
  show (b.runIn u).1 = b.told cssb ∧ (b.runIn u).2 = (a.runIn v).2
  rw [runIn_eq hbread hz, runIn_eq haread hz']
  exact ⟨rfl, rfl⟩

/-- Calls that are apart stay so. -/
theorem AreApart.behind (h : AreApart t a b) (ha : a.Succeeds t) (hb : b.Succeeds t)
    (hwrites : Writes t ws u) : AreApart u a b := by
  obtain ⟨cssa, -, hreada, -⟩ := succeeds_iff.1 ha
  obtain ⟨cssb, -, hreadb, -⟩ := succeeds_iff.1 hb
  obtain ⟨p, hp⟩ := exists_locate_of_read hreada
  obtain ⟨q, hq⟩ := exists_locate_of_read hreadb
  exact ⟨hwrites.locate_ne hp h.1, hwrites.locate_ne hp h.2.1, hwrites.locate_ne hq h.2.2⟩

/-! ## Any number of runs -/

/-- Calls that are run one after the other: the runs, and the tree after them. -/
def runEach : FileTree → List Call → List Run × FileTree
  | t, [] => ([], t)
  | t, c :: rest =>
    ((c.runIn t).1 :: (runEach (c.runIn t).2 rest).1, (runEach (c.runIn t).2 rest).2)

/-- Calls that are apart from each other, each of which succeeds if it is run alone. -/
structure AreIndependent (t : FileTree) (calls : List Call) : Prop where
  apart : calls.Pairwise (AreApart t)
  succeed : ∀ c ∈ calls, c.Succeeds t

namespace AreIndependent

theorem perm (h : AreIndependent t calls) (hperm : calls.Perm order) : AreIndependent t order where
  apart := (hperm.pairwise_iff fun hab => AreApart.symm hab).1 h.apart
  succeed c hc := h.succeed c (hperm.mem_iff.2 hc)

theorem run_eq (h : AreIndependent t (c :: calls)) :
    ∀ d ∈ calls, (d.runIn (c.runIn t).2).1 = (d.runIn t).1 := by
  intro d hd
  have hapart : AreApart t c d := (List.pairwise_cons.1 h.apart).1 d hd
  have hc : c.Succeeds t := h.succeed c List.mem_cons_self
  have hsucceeds : d.Succeeds t := h.succeed d (List.mem_cons_of_mem c hd)
  exact (runIn_runIn hapart hc hsucceeds).1

/-- Behind the first of them, the others are independent as before. -/
theorem behind (h : AreIndependent t (c :: calls)) : AreIndependent (c.runIn t).2 calls := by
  obtain ⟨css, u, hread, hwrites⟩ := succeeds_iff.1 (h.succeed c List.mem_cons_self)
  have hsucceed : ∀ d ∈ calls, d.Succeeds t := fun d hd => h.succeed d (List.mem_cons_of_mem c hd)
  refine ⟨?_, ?_⟩
  · rw [runIn_eq hread hwrites]
    apply (List.pairwise_cons.1 h.apart).2.imp_of_mem
    intro a b ha hb hab
    exact hab.behind (hsucceed a ha) (hsucceed b hb) hwrites
  · intro d hd
    rw [Call.Succeeds, h.run_eq d hd]
    exact hsucceed d hd

/-- Each of them tells what it tells alone. -/
theorem fst_runEach (h : AreIndependent t calls) :
    (runEach t calls).1 = calls.map fun c => (c.runIn t).1 := by
  induction calls generalizing t with
  | nil => rfl
  | cons c rest ih =>
    have hrest : (runEach (c.runIn t).2 rest).1 = rest.map fun d => (d.runIn t).1 := by
      rw [ih h.behind]
      exact List.map_congr_left h.run_eq
    rw [runEach, hrest, List.map_cons]

/-- The order does not show in the tree that is left. -/
theorem snd_runEach_perm (hperm : calls.Perm order) (h : AreIndependent t calls) :
    (runEach t calls).2 = (runEach t order).2 := by
  induction hperm generalizing t with
  | nil => rfl
  | cons c hperm ih => exact ih h.behind
  | swap a b rest =>
    have hapart : AreApart t b a := (List.pairwise_cons.1 h.apart).1 a List.mem_cons_self
    have hb : b.Succeeds t := h.succeed b List.mem_cons_self
    have ha : a.Succeeds t := h.succeed a (List.mem_cons_of_mem b List.mem_cons_self)
    show (runEach (a.runIn (b.runIn t).2).2 rest).2 = (runEach (b.runIn (a.runIn t).2).2 rest).2
    rw [(runIn_runIn hapart hb ha).2]
  | trans hperm _ ih ih' => exact (ih h).trans (ih' (h.perm hperm))

end AreIndependent

/-- Calls on different files, none of which is the backup of another, can be run in any order if
    each of them would succeed alone: all succeed, each with what it gives alone, and what is left
    is the same tree. -/
theorem runEach_of_perm (t : FileTree) (calls : List Call) (hapart : calls.Pairwise (AreApart t))
    (hsucceed : ∀ c ∈ calls, c.Succeeds t) :
    ∃ u, ∀ order : List Call, order.Perm calls →
      (runEach t order).1 = order.map (fun c => (c.runIn t).1) ∧
        (∀ run ∈ (runEach t order).1, ∃ outcome, run.result = .ok outcome) ∧
        (runEach t order).2 = u := by
  refine ⟨(runEach t calls).2, ?_⟩
  intro order hperm
  have hcalls : AreIndependent t calls := ⟨hapart, hsucceed⟩
  have horder : AreIndependent t order := hcalls.perm hperm.symm
  refine ⟨horder.fst_runEach, ?_, horder.snd_runEach_perm hperm⟩
  intro run hrun
  rw [horder.fst_runEach] at hrun
  obtain ⟨c, hc, rfl⟩ := List.mem_map.1 hrun
  exact horder.succeed c hc

/-- The path of a second file beside the first, from where relative paths start. -/
def secondPath : Path := Path.ofText ['b']

/-- A tree with the same rule in two files. -/
def twoRules : FileTree :=
  ruleFile.put [Path.ofText ['t', 'm', 'p'], secondPath]
    (.file .newFile (encode RuleLine.plainRule))

/-- Calls on both files, of which one keeps no backup. -/
def twoCalls : List Call :=
  [⟨rulePath, WrapperClass.dash, .standard⟩, ⟨secondPath, WrapperClass.dash, ⟨false, false⟩⟩]

/-- Both orders leave the same tree, in which three files were written: the rule is nested in both
    files, and the first of them has a backup. -/
theorem runEach_of_perm_twoCalls :
    twoCalls.Pairwise (AreApart twoRules) ∧ (∀ c ∈ twoCalls, c.Succeeds twoRules) ∧
      (runEach twoRules twoCalls.reverse).1 =
        (twoCalls.reverse.map fun c => (c.runIn twoRules).1) ∧
      (runEach twoRules twoCalls.reverse).2 = (runEach twoRules twoCalls).2 ∧
      (runEach twoRules twoCalls).2.HasFile rulePath .newFile
        (encode (Stylesheet.scope WrapperClass.dash.selector RuleLine.plainRule).text) ∧
      (runEach twoRules twoCalls).2.HasFile (backupPath rulePath) .newFile
        (encode RuleLine.plainRule) ∧
      (runEach twoRules twoCalls).2.HasFile secondPath .newFile
        (encode (Stylesheet.scope WrapperClass.dash.selector RuleLine.plainRule).text) := by
  have hapart : twoCalls.Pairwise (AreApart twoRules) := by
    refine List.pairwise_pair.2 ⟨?_, ?_, ?_⟩
    · decide
    · decide
    · decide
  have hsucceed : ∀ c ∈ twoCalls, c.Succeeds twoRules := by
    intro c hc
    rcases List.mem_pair.1 hc with rfl | rfl
    · exact ⟨_, rfl⟩
    · exact ⟨_, rfl⟩
  obtain ⟨u, hu⟩ := runEach_of_perm twoRules twoCalls hapart hsucceed
  obtain ⟨hruns, -, htree⟩ := hu twoCalls.reverse twoCalls.reverse_perm
  obtain ⟨-, -, htree'⟩ := hu twoCalls (List.Perm.refl twoCalls)
  exact ⟨hapart, hsucceed, hruns, htree.trans htree'.symm, ⟨_, rfl, rfl⟩, ⟨_, rfl, rfl⟩,
    ⟨_, rfl, rfl⟩⟩

end StyleScope.InPlace
