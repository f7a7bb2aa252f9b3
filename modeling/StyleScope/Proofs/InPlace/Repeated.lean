/-
  StyleScope.Proofs.InPlace.Repeated

  Runs on one file, one after the other.

  A run that succeeds stores two files: the text that it read as the backup, and then the scoped text
  (`isRewritten_of_ok`). The stores of a second run take the place of those of the first
  (`IsRewritten.trans`), so after any number of runs the file is scoped under all classes in turn and
  the backup under all but the last (`isRewritten_of_runInTurn`). The text that was there before the
  first run is lost with the second one, unless scoping changes nothing
  (`hasFile_or_hasFile_iff`).
-/
import StyleScope.Proofs.InPlace.Ending
import StyleScope.Proofs.Stylesheet.Absorption

namespace StyleScope.InPlace

open Text FileTree

variable {store : FileStore FileTree.Action} {t u v : FileTree} {path : Path} {css : Text}
  {w : WrapperClass} {ws : List WrapperClass} {permissions : Permissions}
  {before kept kept' after after' : ByteArray} {outcome : Outcome}

/-! ## Texts -/

theorem encode_injective {a b : Text} (h : encode a = encode b) : a = b := by
  have hdecode := decode?_encode a
  rw [h, decode?_encode] at hdecode
  exact (Option.some.inj hdecode).symm

/-- A text scoped under one class after the other. -/
def scopedInTurn : List WrapperClass → Text → Text
  | [], css => css
  | w :: rest, css => scopedInTurn rest (Stylesheet.scope w.selector css).text

/-- Under one class that opens no comment, once is as good as often. -/
theorem scopedInTurn_of_forall_eq (hw : ¬ Occurs commentOpener w.selector) (hne : ws ≠ [])
    (h : ∀ v ∈ ws, v = w) (css : Text) :
    scopedInTurn ws css = (Stylesheet.scope w.selector css).text := by
  induction ws generalizing css with
  | nil => exact absurd rfl hne
  | cons v rest ih =>
    obtain rfl : v = w := h v List.mem_cons_self
    cases rest with
    | nil => rfl
    | cons x more =>
      have hrest : ∀ y ∈ x :: more, y = v := fun y hy => h y (List.mem_cons_of_mem v hy)
      have hopens : Occurs commentOpener v.selector → Occurs commentCloser v.selector :=
        fun hopen => absurd hopen hw
      rw [scopedInTurn, ih (List.cons_ne_nil x more) hrest]
      exact Stylesheet.scope_scope_of_closes List.prefix_rfl hopens css

/-! ## One run -/

theorem hasFile_unique {p q : Permissions} {a b : ByteArray} (ha : t.HasFile path p a)
    (hb : t.HasFile path q b) : p = q ∧ a = b := by
  obtain ⟨place, hplace, hnode⟩ := ha
  obtain ⟨place', hplace', hnode'⟩ := hb
  obtain rfl : place = place' := Except.ok.inj (hplace.symm.trans hplace')
  have hsame := Option.some.inj (hnode.symm.trans hnode')
  exact Node.file.inj hsame

/-- The backup of a file and then the file itself were stored. -/
def IsRewritten (path : Path) (kept after : ByteArray) (t u : FileTree) : Prop :=
  ∃ m, IsStored (backupPath path) kept t m ∧ IsStored path after m u

theorem hasFile_of_isRewritten (hfile : t.HasFile path permissions before)
    (h : IsRewritten path kept after t u) : u.HasFile path permissions after := by
  obtain ⟨m, hbackup, hafter⟩ := h
  exact hafter.hasFile_of_hasFile (hbackup.hasFile_other hfile (locate_backupPath_ne hfile))

/-- The last step of a run that succeeds stores the file. -/
theorem isStored_of_writeBackIn (hs : store.IsSound) {m : FileTree} {sheet : Stylesheet.Scoped}
    {events : List Event} {backup : Option Path}
    (hok : (writeBackIn store m path sheet events backup).1.result = .ok outcome) :
    IsStored path (encode sheet.text) m (writeBackIn store m path sheet events backup).2 := by
  have hwrite := hs.write_ok m path (encode sheet.text)
  unfold writeBackIn at hok ⊢
  cases hw : store.writeIn m path (encode sheet.text) with
  | mk written u =>
    rw [hw] at hok hwrite
    cases written with
    | error cause => exact absurd hok (by simp)
    | ok _ => exact hwrite rfl

/-- A run with a backup that succeeds stores what it read in the backup, and then the scoped text in
    the file. -/
theorem isRewritten_of_ok (hs : store.IsSound) (hfile : t.HasFile path permissions (encode css))
    (hok : (scopeFileOn store t path w .standard).1.result = .ok outcome) :
    IsRewritten path (encode css) (encode (Stylesheet.scope w.selector css).text) t
      (scopeFileOn store t path w .standard).2 := by
  rcases isUnreadable_or_isText store t path with ⟨cause, hcause⟩ | ⟨css', htext⟩
  · rw [scopeFileOn_unread store (readTextIn_of_isUnreadable hs hcause)] at hok
    exact absurd hok (by simp)
  obtain ⟨p, hread⟩ := hs.read_ok t path (encode css') htext
  obtain rfl : css' = css := encode_injective (hasFile_unique hread hfile).2
  have hbackup := hs.write_ok t (backupPath path) (encode css')
  have hrun := scopeFileOn_read store (readTextIn_of_isText hs htext) w .standard
  rw [hrun] at hok ⊢
  cases hw : store.writeIn t (backupPath path) (encode css') with
  | mk written m =>
    simp only [Options.standard, Bool.false_eq_true, if_false, if_true, hw] at hok hbackup ⊢
    cases written with
    | error cause => exact absurd hok (by simp)
    | ok _ => exact ⟨m, hbackup rfl, isStored_of_writeBackIn hs hok⟩

/-! ## Any number of runs -/

/-- The tree after runs on one file with a backup, one for each class in turn; the first failure
    ends them. -/
def runInTurn (store : FileStore FileTree.Action) (path : Path) :
    FileTree → List WrapperClass → Except Failure FileTree
  | t, [] => .ok t
  | t, w :: rest =>
    match (scopeFileOn store t path w .standard).1.result with
    | .error failure => .error failure
    | .ok _ => runInTurn store path (scopeFileOn store t path w .standard).2 rest

theorem runInTurn_cons_eq_ok_iff :
    runInTurn store path t (w :: ws) = .ok u ↔
      (∃ outcome, (scopeFileOn store t path w .standard).1.result = .ok outcome) ∧
        runInTurn store path (scopeFileOn store t path w .standard).2 ws = .ok u := by
  rw [runInTurn]
  cases (scopeFileOn store t path w .standard).1.result with
  | error failure => simp
  | ok outcome => simp

/-- The stores of a later run take the place of those of an earlier one. -/
theorem IsRewritten.trans (hfile : t.HasFile path permissions before)
    (h : IsRewritten path kept after t u) (h' : IsRewritten path kept' after' u v) :
    IsRewritten path kept' after' t v := by
  obtain ⟨m, hbackup, hafter⟩ := h
  obtain ⟨n, hbackup', hafter'⟩ := h'
  have hfile' : m.HasFile path permissions before :=
    hbackup.hasFile_other hfile (locate_backupPath_ne hfile)
  -- The later backup goes in front of the earlier file.
  obtain ⟨k, hswapped, hstored⟩ := hafter.swap hbackup' (locate_backupPath_ne hfile').symm
  exact ⟨k, hbackup.again hswapped, hstored.again hafter'⟩

theorem isRewritten_of_runInTurn (hs : store.IsSound)
    (hfile : t.HasFile path permissions (encode css)) (hne : ws ≠ [])
    (hruns : runInTurn store path t ws = .ok u) :
    IsRewritten path (encode (scopedInTurn ws.dropLast css)) (encode (scopedInTurn ws css)) t u := by
  -- Each run starts from the tree and the text that the one before it left.
  induction ws generalizing t css with
  | nil => exact absurd rfl hne
  | cons w rest ih =>
    obtain ⟨⟨outcome, hok⟩, hrest⟩ := runInTurn_cons_eq_ok_iff.1 hruns
    have hfirst := isRewritten_of_ok hs hfile hok
    cases rest with
    | nil =>
      obtain rfl := Except.ok.inj hrest
      exact hfirst
    | cons v more =>
      have hnext := ih (hasFile_of_isRewritten hfile hfirst) (List.cons_ne_nil v more) hrest
      exact hfirst.trans hfile hnext

/-! ## What is left -/

/-- The file went from one text to another, the backup holds a third, and all else is as it was. -/
structure LeavesKept (path : Path) (before kept after : ByteArray) (t u : FileTree) : Prop where
  target : Turns path before after t u
  backup : ∃ permissions, u.HasFile (backupPath path) permissions kept
  backup_permissions : ∀ permissions old, t.HasFile (backupPath path) permissions old →
    u.HasFile (backupPath path) permissions kept
  rest : ∀ place, t.locate path ≠ .ok place → t.locate (backupPath path) ≠ .ok place →
    u.at? place = t.at? place
  working : u.working = t.working

theorem IsRewritten.leavesKept (hfile : t.HasFile path permissions before)
    (h : IsRewritten path kept after t u) : LeavesKept path before kept after t u := by
  obtain ⟨m, hbackup, hafter⟩ := h
  have hne : t.locate (backupPath path) ≠ t.locate path := locate_backupPath_ne hfile
  have hturns : Turns path before before t m := (turns_refl hfile).stored_other hbackup hne
  have hfile' : m.HasFile path permissions before := hbackup.hasFile_other hfile hne
  have hne' : m.locate path ≠ m.locate (backupPath path) := (locate_backupPath_ne hfile').symm
  refine ⟨hturns.stored hafter, ?_, fun p old hold => ?_, fun place hplace hplace' => ?_,
    hafter.working_eq.trans hbackup.working_eq⟩
  · obtain ⟨p, hp⟩ := hbackup.exists_hasFile
    exact ⟨p, hafter.hasFile_other hp hne'⟩
  · exact hafter.hasFile_other (hbackup.hasFile_of_hasFile hold) hne'
  · have hplace'' : m.locate path ≠ .ok place := fun heq => hplace (hbackup.locate_iff.1 heq)
    rw [hafter.at?_eq hplace'', hbackup.at?_eq hplace']

/-- Two files that hold one text hold another just when it is the same. -/
theorem hasFile_or_hasFile_iff {a b : Text} {other : Path} (h : u.HasFile path permissions (encode a))
    (hother : ∃ p, u.HasFile other p (encode a)) :
    ((∃ p, u.HasFile path p (encode b)) ∨ ∃ p, u.HasFile other p (encode b)) ↔ a = b := by
  constructor
  · rintro (⟨p, hp⟩ | ⟨p, hp⟩)
    · exact encode_injective (hasFile_unique h hp).2
    · obtain ⟨q, hq⟩ := hother
      exact encode_injective (hasFile_unique hq hp).2
  · rintro rfl
    exact Or.inl ⟨permissions, h⟩

/-- After runs on one file with a backup that all succeed, the file holds its text scoped under all
    classes in turn, the backup holds it scoped under all but the last, and nothing else changed. If
    the classes are one, which opens no comment, and there were at least two runs, both hold the
    text scoped once, and neither holds the text from before, unless scoping leaves it as it is. -/
theorem leavesKept_of_runInTurn (store : FileStore FileTree.Action) (hs : store.IsSound)
    (t u : FileTree) (path : Path) (css : Text) (permissions : Permissions)
    (hfile : t.HasFile path permissions (encode css)) (ws : List WrapperClass) (hne : ws ≠ [])
    (hruns : runInTurn store path t ws = .ok u) :
    LeavesKept path (encode css) (encode (scopedInTurn ws.dropLast css))
      (encode (scopedInTurn ws css)) t u ∧
    ∀ w : WrapperClass, ¬ Occurs commentOpener w.selector → 2 ≤ ws.length → (∀ v ∈ ws, v = w) →
      (∃ p, u.HasFile path p (encode (Stylesheet.scope w.selector css).text)) ∧
      (∃ p, u.HasFile (backupPath path) p (encode (Stylesheet.scope w.selector css).text)) ∧
      (((∃ p, u.HasFile path p (encode css)) ∨ ∃ p, u.HasFile (backupPath path) p (encode css)) ↔
        (Stylesheet.scope w.selector css).text = css) := by
  have hleaves := (isRewritten_of_runInTurn hs hfile hne hruns).leavesKept hfile
  refine ⟨hleaves, fun w hw hlen hall => ?_⟩
  have hall' : ∀ v ∈ ws.dropLast, v = w := fun v hv => hall v ((List.dropLast_sublist ws).subset hv)
  -- There are at least two runs, so the backup was scoped too.
  have hne' : ws.dropLast ≠ [] := by
    intro hnil
    have hzero := congrArg List.length hnil
    rw [List.length_dropLast, List.length_nil] at hzero
    omega
  obtain ⟨p, hp⟩ := hleaves.target.hasFile_right
  have hbackup := hleaves.backup
  rw [scopedInTurn_of_forall_eq hw hne hall] at hp
  rw [scopedInTurn_of_forall_eq hw hne' hall'] at hbackup
  exact ⟨⟨p, hp⟩, hbackup, hasFile_or_hasFile_iff hp hbackup⟩

/-- With the second run under one class the rule as it was is lost. -/
theorem leavesKept_ruleFile :
    FileTree.instFileStoreAction.IsSound ∧
      ruleFile.HasFile rulePath .newFile (encode RuleLine.plainRule) ∧ ∃ u : FileTree,
        runInTurn FileTree.instFileStoreAction rulePath ruleFile
          [WrapperClass.dash, WrapperClass.dash] = .ok u ∧
        ¬ ((∃ p, u.HasFile rulePath p (encode RuleLine.plainRule)) ∨
          ∃ p, u.HasFile (backupPath rulePath) p (encode RuleLine.plainRule)) := by
  have hfile : ruleFile.HasFile rulePath .newFile (encode RuleLine.plainRule) :=
    ⟨_, rfl, rfl⟩
  have hruns : runInTurn FileTree.instFileStoreAction rulePath ruleFile
      [WrapperClass.dash, WrapperClass.dash] = .ok (scopeFileIn (scopeFileIn ruleFile rulePath
        WrapperClass.dash .standard).2 rulePath WrapperClass.dash .standard).2 := by rfl
  refine ⟨FileStore.isSound_tree, hfile, _, hruns, ?_⟩
  have hleft := leavesKept_of_runInTurn FileTree.instFileStoreAction FileStore.isSound_tree
    ruleFile _ rulePath RuleLine.plainRule .newFile hfile [WrapperClass.dash, WrapperClass.dash]
    (by decide) hruns
  have hchanged : (Stylesheet.scope WrapperClass.dash.selector RuleLine.plainRule).text ≠
      RuleLine.plainRule := by decide
  rw [(hleft.2 WrapperClass.dash (by decide) (by decide) (by decide)).2.2]
  exact hchanged

end StyleScope.InPlace
