/-
  StyleScope.Proofs.InPlace.DryRun

  What a dry run tells of the real one.

  Both read the file first, so a dry run fails just when the real one cannot read the file
  (`dryRun_error_iff`). A real run that succeeds wrote the text that the dry run gives
  (`dryRun_of_ok`), and one that fails, wherever it does, leaves the file what it was
  (`hasFile_iff_of_error`).
-/
import StyleScope.Proofs.InPlace.Ending

namespace StyleScope.InPlace

open Text FileTree

variable {store : FileStore FileTree.Action} {t u : FileTree} {path : Path} {css : Text}
  {wrapper : WrapperClass} {options : Options} {backup : Bool} {bytes : ByteArray}
  {outcome : Outcome} {failure : Failure}

/-! ## The two kinds of files -/

theorem scopeFileOn_dryRun (hs : store.IsSound) (htext : IsText store t path css)
    (wrapper : WrapperClass) (backup : Bool) :
    (scopeFileOn store t path wrapper { backup := backup, dryRun := true }).1.result =
        .ok ⟨(Stylesheet.scope wrapper.selector css).text,
          (Stylesheet.scope wrapper.selector css).report, none⟩ ∧
      (scopeFileOn store t path wrapper { backup := backup, dryRun := true }).2 = t := by
  rw [scopeFileOn_read store (readTextIn_of_isText hs htext)]
  exact ⟨rfl, rfl⟩

/-- A file that cannot be read ends every run in the same way. -/
theorem scopeFileOn_isUnreadable (hs : store.IsSound) {cause : AccessError}
    (h : IsUnreadable store t path cause) (wrapper : WrapperClass) (options : Options) :
    scopeFileOn store t path wrapper options =
      ({ events := [], result := .error (.read path cause) }, t) :=
  scopeFileOn_unread store (readTextIn_of_isUnreadable hs h) wrapper options

theorem not_isUnreadable_of_isText (hs : store.IsSound) (htext : IsText store t path css)
    (cause : AccessError) : ¬ IsUnreadable store t path cause := by
  intro hcause
  have hread := (readTextIn_of_isText hs htext).symm.trans (readTextIn_of_isUnreadable hs hcause)
  exact absurd (congrArg Prod.fst hread) (by simp)

/-- A run that writes and gives an outcome could read the file, and wrote what the outcome tells. -/
theorem leaves_of_ok (hs : store.IsSound) (hdry : options.dryRun = false)
    (h : (scopeFileOn store t path wrapper options).1.result = .ok outcome) :
    ∃ css, IsText store t path css ∧
      outcome = ⟨(Stylesheet.scope wrapper.selector css).text,
        (Stylesheet.scope wrapper.selector css).report,
        if options.backup then some (backupPath path) else none⟩ ∧
      Leaves path options.backup (encode css)
        (encode (Stylesheet.scope wrapper.selector css).text) t
        (scopeFileOn store t path wrapper options).2 := by
  obtain ⟨e, he⟩ := exists_ending hs t path wrapper options
  -- The result tells which of the endings it was.
  have hending : e = .written := by
    rw [Ending.eq_ofResult he, h, hdry]
    rfl
  subst hending
  obtain ⟨css, htext, -, hresult, hleaves⟩ := he
  rw [h] at hresult
  exact ⟨css, htext, Except.ok.inj hresult, hleaves⟩

/-! ## The dry run and the real run -/

theorem dryRun_of_ok (hs : store.IsSound)
    (h : (scopeFileOn store t path wrapper { backup := backup, dryRun := false }).1.result =
      .ok outcome) :
    (scopeFileOn store t path wrapper { backup := backup, dryRun := true }).1.result =
        .ok { outcome with backup := none } ∧
      (scopeFileOn store t path wrapper { backup := backup, dryRun := true }).2 = t ∧
      ∃ permissions,
        (scopeFileOn store t path wrapper { backup := backup, dryRun := false }).2.HasFile path
          permissions (encode outcome.text) := by
  obtain ⟨css, htext, rfl, hleaves⟩ := leaves_of_ok hs rfl h
  obtain ⟨hresult, htree⟩ := scopeFileOn_dryRun hs htext wrapper backup
  exact ⟨hresult, htree, hleaves.target.hasFile_right⟩

theorem dryRun_error_iff (hs : store.IsSound) :
    (scopeFileOn store t path wrapper { backup := backup, dryRun := true }).1.result =
        .error failure ↔
      (scopeFileOn store t path wrapper { backup := backup, dryRun := false }).1.result =
          .error failure ∧ ∃ cause, failure = .read path cause := by
  rcases isUnreadable_or_isText store t path with ⟨cause, hcause⟩ | ⟨css, htext⟩
  · rw [scopeFileOn_isUnreadable hs hcause, scopeFileOn_isUnreadable hs hcause]
    constructor
    · intro h
      exact ⟨h, cause, (Except.error.inj h).symm⟩
    · exact And.left
  · -- The dry run cannot fail any more, and the real run not with `read`.
    rw [(scopeFileOn_dryRun hs htext wrapper backup).1]
    constructor
    · intro h
      exact absurd h (by simp)
    · rintro ⟨hresult, cause, rfl⟩
      obtain ⟨e, he⟩ := exists_ending hs t path wrapper { backup := backup, dryRun := false }
      have hending : e = .unread := by
        rw [Ending.eq_ofResult he, hresult]
        rfl
      subst hending
      obtain ⟨cause', hcause, -⟩ := he
      exact absurd hcause (not_isUnreadable_of_isText hs htext cause')

/-! ## Runs that fail -/

theorem Turns.hasFile_iff {permissions : Permissions} {before : ByteArray}
    (h : Turns path before before t u) :
    u.HasFile path permissions bytes ↔ t.HasFile path permissions bytes := by
  obtain ⟨place, p, ht, hu, hfile, hfile'⟩ := h
  constructor
  · rintro ⟨place', hplace, hnode⟩
    obtain rfl : place = place' := Except.ok.inj (hu.symm.trans hplace)
    exact ⟨place, ht, hfile.trans (hfile'.symm.trans hnode)⟩
  · rintro ⟨place', hplace, hnode⟩
    obtain rfl : place = place' := Except.ok.inj (ht.symm.trans hplace)
    exact ⟨place, hu, hfile'.trans (hfile.symm.trans hnode)⟩

/-- A run that fails leaves the file what it was, also when the file is not there. -/
theorem hasFile_iff_of_error {permissions : Permissions} (hs : store.IsSound)
    (h : (scopeFileOn store t path wrapper options).1.result = .error failure) :
    (scopeFileOn store t path wrapper options).2.HasFile path permissions bytes ↔
      t.HasFile path permissions bytes := by
  obtain ⟨e, he⟩ := exists_ending hs t path wrapper options
  rw [h] at he
  cases e with
  | unread =>
    obtain ⟨cause, -, -, htree⟩ := he
    rw [htree]
  | dryRun =>
    obtain ⟨css, -, -, hresult, -⟩ := he
    exact absurd hresult (by simp)
  | noBackup =>
    obtain ⟨css, cause, -, -, -, -, -, htree⟩ := he
    rw [htree]
  | unwritten =>
    obtain ⟨css, cause, -, -, -, -, hleaves⟩ := he
    exact hleaves.target.hasFile_iff
  | written =>
    obtain ⟨css, -, -, hresult, -⟩ := he
    exact absurd hresult (by simp)

end StyleScope.InPlace
