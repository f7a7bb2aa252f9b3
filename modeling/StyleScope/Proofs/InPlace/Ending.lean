/-
  StyleScope.Proofs.InPlace.Ending

  How a run on a file can end, and what it leaves.

  There are five endings, each with its result and with what became of the tree. A run ends in one
  of them and in no other (`existsUnique_ending`), whatever accesses fail. The tree changes only
  when a file is stored: first the backup, which is never the file itself, then the file
  (`leaves_backup`, `Leaves.stored`). So where a backup is wanted, the bytes that were read are in the
  tree at the end.
-/
import Mathlib.Logic.ExistsUnique
import StyleScope.InPlace
import StyleScope.Proofs.FileStore
import StyleScope.Proofs.RuleLine.Wrapped

namespace StyleScope.InPlace

open Text FileTree

variable {store : FileStore FileTree.Action} {t u m : FileTree} {path : Path}
  {wrapper : WrapperClass} {options : Options} {before after : ByteArray} {backedUp : Bool}

/-! ## What is left -/

/-- A path leads to the same file in both trees, with these bytes in the first and those in the
    second. -/
def Turns (path : Path) (before after : ByteArray) (t u : FileTree) : Prop :=
  ∃ place permissions, t.locate path = .ok place ∧ u.locate path = .ok place ∧
    t.at? place = some (.file permissions before) ∧ u.at? place = some (.file permissions after)

/-- The bytes of a file are others than before, those from before are in its backup if there is to
    be one, and all else is as it was. -/
structure Leaves (path : Path) (backedUp : Bool) (before after : ByteArray) (t u : FileTree) :
    Prop where
  target : Turns path before after t u
  backup : backedUp = true → ∃ permissions, u.HasFile (backupPath path) permissions before
  /-- A backup from an earlier run is replaced, permissions aside. -/
  backup_permissions : backedUp = true → ∀ permissions old,
    t.HasFile (backupPath path) permissions old → u.HasFile (backupPath path) permissions before
  rest : ∀ place, t.locate path ≠ .ok place →
    (backedUp = true → t.locate (backupPath path) ≠ .ok place) → u.at? place = t.at? place
  working : u.working = t.working

/-- The backup of a file is another file. -/
theorem locate_backupPath_ne {permissions : Permissions} (h : t.HasFile path permissions before) :
    t.locate (backupPath path) ≠ t.locate path := by
  obtain ⟨place, hplace, hfile⟩ := h
  intro heq
  exact locate_append_ne hplace hfile (by decide) (by decide) (heq.trans hplace) rfl

theorem Turns.hasFile_right (h : Turns path before after t u) :
    ∃ permissions, u.HasFile path permissions after := by
  obtain ⟨place, permissions, -, hplace, -, hfile⟩ := h
  exact ⟨permissions, place, hplace, hfile⟩

theorem turns_refl {permissions : Permissions} (h : t.HasFile path permissions before) :
    Turns path before before t t := by
  obtain ⟨place, hplace, hfile⟩ := h
  exact ⟨place, permissions, hplace, hplace, hfile, hfile⟩

/-- Storing another file keeps the path where it leads and the file as it is. -/
theorem Turns.stored_other {other : Path} {bytes : ByteArray} (h : Turns path before after t m)
    (hu : IsStored other bytes m u) (hne : m.locate other ≠ m.locate path) :
    Turns path before after t u := by
  obtain ⟨place, permissions, ht, hm, hfile, hfile'⟩ := h
  exact ⟨place, permissions, ht, hu.locate hm, hfile, (hu.at?_eq (hm ▸ hne)).trans hfile'⟩

theorem Turns.stored {bytes : ByteArray} (h : Turns path before bytes t m)
    (hu : IsStored path after m u) : Turns path before after t u := by
  obtain ⟨place, permissions, ht, hm, hfile, hfile'⟩ := h
  obtain ⟨place', hplace', hafter⟩ := hu.hasFile_of_hasFile ⟨place, hm, hfile'⟩
  have heq : place' = place := Except.ok.inj (hplace'.symm.trans (hu.locate hm))
  exact ⟨place, permissions, ht, hu.locate hm, hfile, heq ▸ hafter⟩

theorem leaves_refl {permissions : Permissions} (h : t.HasFile path permissions before) :
    Leaves path false before before t t where
  target := turns_refl h
  backup hno := absurd hno Bool.false_ne_true
  backup_permissions hno := absurd hno Bool.false_ne_true
  rest _ _ _ := rfl
  working := rfl

theorem leaves_backup {permissions : Permissions} (h : t.HasFile path permissions before)
    (hm : IsStored (backupPath path) before t m) : Leaves path true before before t m where
  target := (turns_refl h).stored_other hm (locate_backupPath_ne h)
  backup _ := hm.exists_hasFile
  backup_permissions _ _ _ hold := hm.hasFile_of_hasFile hold
  rest _ _ hbackup := hm.at?_eq (hbackup rfl)
  working := hm.working_eq

/-- Storing the file last leaves the backup alone. -/
theorem Leaves.stored (h : Leaves path backedUp before before t m)
    (hu : IsStored path after m u) : Leaves path backedUp before after t u := by
  obtain ⟨place, permissions, ht, hm, hfile, hfile'⟩ := h.target
  have hkeep : ∀ p, m.HasFile (backupPath path) p before → u.HasFile (backupPath path) p before :=
    fun p hp => hu.hasFile_other hp (locate_backupPath_ne ⟨place, hm, hfile'⟩).symm
  refine ⟨h.target.stored hu, fun hb => ?_, fun hb p old hold => ?_,
    fun other hother hbackup => ?_, hu.working_eq.trans h.working⟩
  · obtain ⟨p, hp⟩ := h.backup hb
    exact ⟨p, hkeep p hp⟩
  · exact hkeep p (h.backup_permissions hb p old hold)
  · have hne : m.locate path ≠ .ok other := by
      rw [hm, ← ht]
      exact hother
    rw [hu.at?_eq hne]
    exact h.rest other hother hbackup

/-! ## The endings -/

/-- The ways in which a run ends. -/
inductive Ending where
  /-- The file could not be read as text. -/
  | unread
  /-- Nothing was to be written. -/
  | dryRun
  /-- The backup could not be written. -/
  | noBackup
  /-- The file could not be written back. -/
  | unwritten
  | written

/-- A path cannot be read as text: the access fails, or the bytes are not UTF-8. -/
def IsUnreadable (store : FileStore FileTree.Action) (t : FileTree) (path : Path)
    (cause : AccessError) : Prop :=
  (store.readIn t path).1 = .error cause ∨
    cause = .notUtf8 ∧ ∃ bytes, (store.readIn t path).1 = .ok bytes ∧ ∀ css, bytes ≠ encode css

/-- A path can be read as text. -/
def IsText (store : FileStore FileTree.Action) (t : FileTree) (path : Path) (css : Text) :
    Prop :=
  (store.readIn t path).1 = .ok (encode css)

/-- What a run that ends in this way met, gave and left. -/
def Ending.Holds (store : FileStore FileTree.Action) (t : FileTree) (path : Path)
    (wrapper : WrapperClass) (options : Options) (result : Except Failure Outcome)
    (u : FileTree) : Ending → Prop
  | .unread => ∃ cause, IsUnreadable store t path cause ∧ result = .error (.read path cause) ∧ u = t
  | .dryRun => ∃ css, IsText store t path css ∧ options.dryRun = true ∧
      result = .ok ⟨(Stylesheet.scope wrapper.selector css).text,
        (Stylesheet.scope wrapper.selector css).report, none⟩ ∧ u = t
  | .noBackup => ∃ css cause, IsText store t path css ∧
      options.dryRun = false ∧ options.backup = true ∧
      (store.writeIn t (backupPath path) (encode css)).1 = .error cause ∧
      result = .error (.backup (backupPath path) cause) ∧ u = t
  | .unwritten => ∃ css cause, IsText store t path css ∧ options.dryRun = false ∧
      (store.writeIn u path (encode (Stylesheet.scope wrapper.selector css).text)).1 =
        .error cause ∧
      result = .error (.write path cause) ∧
      Leaves path options.backup (encode css) (encode css) t u
  | .written => ∃ css, IsText store t path css ∧ options.dryRun = false ∧
      result = .ok ⟨(Stylesheet.scope wrapper.selector css).text,
        (Stylesheet.scope wrapper.selector css).report,
        if options.backup then some (backupPath path) else none⟩ ∧
      Leaves path options.backup (encode css)
        (encode (Stylesheet.scope wrapper.selector css).text) t u

/-- The ending that the result tells. -/
def Ending.ofResult (dryRun : Bool) : Except Failure Outcome → Ending
  | .error (.read ..) => .unread
  | .error (.backup ..) => .noBackup
  | .error (.write ..) => .unwritten
  | .ok _ => if dryRun then .dryRun else .written

theorem Ending.eq_ofResult {e : Ending} {result : Except Failure Outcome}
    (h : e.Holds store t path wrapper options result u) : e = ofResult options.dryRun result := by
  cases e with
  | unread =>
    obtain ⟨cause, -, rfl, -⟩ := h
    rfl
  | dryRun =>
    obtain ⟨css, -, hdry, rfl, -⟩ := h
    rw [hdry]
    rfl
  | noBackup =>
    obtain ⟨css, cause, -, -, -, -, rfl, -⟩ := h
    rfl
  | unwritten =>
    obtain ⟨css, cause, -, -, -, rfl, -⟩ := h
    rfl
  | written =>
    obtain ⟨css, -, hdry, rfl, -⟩ := h
    rw [hdry]
    rfl

/-! ## Every run ends -/

theorem readTextIn_of_isText (hs : store.IsSound) {css : Text} (h : IsText store t path css) :
    readTextIn store t path = (.ok css, t) := by
  have htext : textOfBytes (encode css) = .ok css := by
    rw [textOfBytes, decode?_encode]
  rw [readTextIn, h, hs.read_keeps]
  exact congrArg (·, t) htext

theorem readTextIn_of_isUnreadable (hs : store.IsSound) {cause : AccessError}
    (h : IsUnreadable store t path cause) : readTextIn store t path = (.error cause, t) := by
  rw [readTextIn, hs.read_keeps]
  rcases h with h | ⟨rfl, bytes, h, hnot⟩
  · rw [h]
    rfl
  · have hnone : decode? bytes = none := by
      cases hd : decode? bytes with
      | none => rfl
      | some css => exact absurd (decode?_eq_some_iff.1 hd) (hnot css)
    have htext : textOfBytes bytes = .error .notUtf8 := by
      rw [textOfBytes, hnone]
    rw [h]
    exact congrArg (·, t) htext

theorem isUnreadable_or_isText (store : FileStore FileTree.Action) (t : FileTree) (path : Path) :
    (∃ cause, IsUnreadable store t path cause) ∨ ∃ css, IsText store t path css := by
  cases h : (store.readIn t path).1 with
  | error cause => exact Or.inl ⟨cause, Or.inl h⟩
  | ok bytes =>
    by_cases htext : ∃ css, bytes = encode css
    · obtain ⟨css, rfl⟩ := htext
      exact Or.inr ⟨css, h⟩
    · exact Or.inl ⟨.notUtf8, Or.inr ⟨rfl, bytes, h, fun css hcss => htext ⟨css, hcss⟩⟩⟩

/-- The last step of a run that writes. -/
theorem holds_writeBackIn (options : Options) (hs : store.IsSound) {css : Text}
    (htext : IsText store t path css) (hdry : options.dryRun = false)
    (hm : Leaves path options.backup (encode css) (encode css) t m) (events : List Event) :
    ∃ e : Ending, e.Holds store t path wrapper options
      (writeBackIn store m path (Stylesheet.scope wrapper.selector css) events
        (if options.backup then some (backupPath path) else none)).1.result
      (writeBackIn store m path (Stylesheet.scope wrapper.selector css) events
        (if options.backup then some (backupPath path) else none)).2 := by
  unfold writeBackIn
  have herror := hs.write_error m path (encode (Stylesheet.scope wrapper.selector css).text)
  have hok := hs.write_ok m path (encode (Stylesheet.scope wrapper.selector css).text)
  cases hw : store.writeIn m path (encode (Stylesheet.scope wrapper.selector css).text) with
  | mk written u =>
    rw [hw] at herror hok
    cases written with
    | error cause =>
      obtain rfl : u = m := herror cause rfl
      refine ⟨.unwritten, css, cause, htext, hdry, ?_, rfl, hm⟩
      exact congrArg Prod.fst hw
    | ok v => exact ⟨.written, css, htext, hdry, rfl, hm.stored (hok rfl)⟩

theorem exists_ending (hs : store.IsSound) (t : FileTree) (path : Path) (wrapper : WrapperClass)
    (options : Options) :
    ∃ e : Ending, e.Holds store t path wrapper options
      (scopeFileOn store t path wrapper options).1.result
      (scopeFileOn store t path wrapper options).2 := by
  rcases isUnreadable_or_isText store t path with ⟨cause, hcause⟩ | ⟨css, htext⟩
  · rw [scopeFileOn_unread store (readTextIn_of_isUnreadable hs hcause)]
    exact ⟨.unread, cause, hcause, rfl, rfl⟩
  obtain ⟨permissions, hfile⟩ := hs.read_ok t path (encode css) htext
  rw [scopeFileOn_read store (readTextIn_of_isText hs htext)]
  obtain ⟨backup, dryRun⟩ := options
  cases dryRun with
  | true => exact ⟨.dryRun, css, htext, rfl, rfl, rfl⟩
  | false =>
    cases backup with
    | false =>
      exact holds_writeBackIn ⟨false, false⟩ hs htext rfl (leaves_refl hfile) _
    | true =>
      have herror := hs.write_error t (backupPath path) (encode css)
      have hok := hs.write_ok t (backupPath path) (encode css)
      cases hw : store.writeIn t (backupPath path) (encode css) with
      | mk written m =>
        rw [hw] at herror hok
        cases written with
        | error cause =>
          obtain rfl : m = t := herror cause rfl
          refine ⟨.noBackup, css, cause, htext, rfl, rfl, congrArg Prod.fst hw, rfl, ?_⟩
          rfl
        | ok v =>
          exact holds_writeBackIn ⟨true, false⟩ hs htext rfl
            (leaves_backup hfile (hok rfl)) _

/-- With a backup, what was read is in the tree at every ending. -/
theorem Ending.hasFile_of_backup (hs : store.IsSound) {e : Ending} {css : Text}
    {result : Except Failure Outcome}
    (h : e.Holds store t path wrapper options result u) (htext : IsText store t path css)
    (hbackup : options.backup = true) :
    ∃ permissions, u.HasFile path permissions (encode css) ∨
      u.HasFile (backupPath path) permissions (encode css) := by
  obtain ⟨permissions, hfile⟩ := hs.read_ok t path (encode css) htext
  have hsame : ∀ {css'}, IsText store t path css' → encode css' = encode css :=
    fun h => Except.ok.inj (Eq.trans (Eq.symm h) htext)
  cases e with
  | unread =>
    obtain ⟨cause, hcause, -, rfl⟩ := h
    exact ⟨permissions, Or.inl hfile⟩
  | dryRun =>
    obtain ⟨css', -, -, -, rfl⟩ := h
    exact ⟨permissions, Or.inl hfile⟩
  | noBackup =>
    obtain ⟨css', cause, -, -, -, -, -, rfl⟩ := h
    exact ⟨permissions, Or.inl hfile⟩
  | unwritten =>
    obtain ⟨css', cause, htext', -, -, -, hleaves⟩ := h
    obtain ⟨p, hp⟩ := hleaves.target.hasFile_right
    exact ⟨p, Or.inl (hsame htext' ▸ hp)⟩
  | written =>
    obtain ⟨css', htext', -, -, hleaves⟩ := h
    obtain ⟨p, hp⟩ := hleaves.backup hbackup
    exact ⟨p, Or.inr (hsame htext' ▸ hp)⟩

/-- A run ends in exactly one of the five ways. Whenever a backup is wanted and the file could be
    read, its bytes are afterwards in the file or in its backup. -/
theorem existsUnique_ending (store : FileStore FileTree.Action) (hs : store.IsSound) (t : FileTree)
    (path : Path) (wrapper : WrapperClass) (options : Options) :
    (∃! e : Ending, e.Holds store t path wrapper options
      (scopeFileOn store t path wrapper options).1.result
      (scopeFileOn store t path wrapper options).2) ∧
    ∀ css, IsText store t path css → options.backup = true → ∃ permissions,
      (scopeFileOn store t path wrapper options).2.HasFile path permissions (encode css) ∨
      (scopeFileOn store t path wrapper options).2.HasFile (backupPath path) permissions
        (encode css) := by
  obtain ⟨e, he⟩ := exists_ending hs t path wrapper options
  refine ⟨⟨e, he, fun other hother => ?_⟩, fun css htext hbackup => ?_⟩
  · rw [Ending.eq_ofResult hother, Ending.eq_ofResult he]
  · exact Ending.hasFile_of_backup hs he htext hbackup

/-- A path from the root. -/
def rulePath : Path := Path.ofText ['/', 't', 'm', 'p', '/', 'a']

/-- A tree with one rule in the file that `rulePath` leads to. -/
def ruleWith (permissions : Permissions) : FileTree :=
  (FileTree.startingIn [Path.ofText ['t', 'm', 'p']]).put
    [Path.ofText ['t', 'm', 'p'], Path.ofText ['a']]
    (.file permissions (encode RuleLine.plainRule))

/-- The rule in a file that may be read and written. -/
def ruleFile : FileTree := ruleWith .newFile

/-- The rule in a file that may be read and not written. -/
def readOnlyRule : FileTree := ruleWith ⟨true, false, false⟩

/-- The rule is left in its file, and a backup of it is made. -/
theorem ending_readOnlyRule :
    FileTree.instFileStoreAction.IsSound ∧
      Ending.unwritten.Holds FileTree.instFileStoreAction readOnlyRule rulePath WrapperClass.dash
        .standard (scopeFileIn readOnlyRule rulePath WrapperClass.dash .standard).1.result
        (scopeFileIn readOnlyRule rulePath WrapperClass.dash .standard).2 := by
  obtain ⟨e, he, -⟩ := (existsUnique_ending FileTree.instFileStoreAction FileStore.isSound_tree
    readOnlyRule rulePath WrapperClass.dash .standard).1
  have hresult : (scopeFileIn readOnlyRule rulePath WrapperClass.dash .standard).1.result =
      .error (.write rulePath .permissionDenied) := by rfl
  have hending : e = .unwritten := (Ending.eq_ofResult he).trans (congrArg _ hresult)
  exact ⟨FileStore.isSound_tree, hending ▸ he⟩

end StyleScope.InPlace
