/-
  StyleScope.Proofs.CommandLine.DryRun

  What a session with `dryRun` tells of the session without it.

  A session is a run with its result put into words (`sessionOn_eq`), and its exit code tells whether
  the run failed (`exists_outcome_of_code`, `exists_failure_of_code`), whatever the log shows. So what
  a dry run prints is what the real one leaves in the file, to the byte (`dryRun_session_of_code`),
  and a session that fails leaves the file alone (`exit_of_code_eq_one`).
-/
import StyleScope.CommandLine.Session
import StyleScope.Proofs.InPlace.DryRun

namespace StyleScope.CommandLine

open Text FileTree InPlace

variable {store : FileStore FileTree.Action} {t : FileTree} {logger logger' : Logger}
  {a : Arguments} {opening log : String} {result : Except Failure Outcome}

/-! ## Sessions -/

/-- The run that the arguments ask for. -/
def runOn (store : FileStore FileTree.Action) (t : FileTree) (a : Arguments) : Run × FileTree :=
  scopeFileOn store t a.file a.wrapper a.options

theorem sessionOn_eq (store : FileStore FileTree.Action) (t : FileTree) (logger : Logger)
    (a : Arguments) :
    sessionOn store t logger a =
      (Exit.ofRun a (logger.opening a.level) (logger.shown a.level (runOn store t a).1.events)
        (runOn store t a).1.result, (runOn store t a).2) := rfl

theorem runOn_of_dryRun_eq_false (h : a.dryRun = false) :
    runOn store t a =
      scopeFileOn store t a.file a.wrapper { backup := !a.noBackup, dryRun := false } := by
  have hoptions : a.options = { backup := !a.noBackup, dryRun := false } :=
    congrArg (Options.mk (!a.noBackup)) h
  rw [runOn, hoptions]

/-! ## Exit codes -/

theorem exit_of_error (a : Arguments) (opening log : String) (failure : Failure) :
    (Exit.ofRun a opening log (.error failure)).code = 1 ∧
      (Exit.ofRun a opening log (.error failure)).stdout = (if a.dryRun then "" else banner) ∧
      ∃ told, (Exit.ofRun a opening log (.error failure)).stderr =
        told ++ ("Error: " ++ failure.message ++ "\n") := by
  unfold Exit.ofRun
  cases a.dryRun with
  | true => exact ⟨rfl, rfl, _, rfl⟩
  | false => exact ⟨rfl, rfl, _, rfl⟩

theorem code_of_ok (a : Arguments) (opening log : String) (outcome : Outcome) :
    (Exit.ofRun a opening log (.ok outcome)).code = 0 := by
  unfold Exit.ofRun
  cases a.dryRun with
  | true => rfl
  | false => rfl

theorem exists_outcome_of_code (h : (Exit.ofRun a opening log result).code = 0) :
    ∃ outcome, result = .ok outcome := by
  cases result with
  | ok outcome => exact ⟨outcome, rfl⟩
  | error failure =>
    rw [(exit_of_error a opening log failure).1] at h
    exact absurd h (by decide)

theorem exists_failure_of_code (h : (Exit.ofRun a opening log result).code = 1) :
    ∃ failure, result = .error failure := by
  cases result with
  | ok outcome =>
    rw [code_of_ok] at h
    exact absurd h (by decide)
  | error failure => exact ⟨failure, rfl⟩

/-! ## The two sessions -/

/-- What a dry run prints is what the real one leaves in the file, to the byte. -/
theorem dryRun_session_of_code (hs : store.IsSound) (hdry : a.dryRun = false)
    (hcode : (sessionOn store t logger a).1.code = 0) :
    (sessionOn store t logger' { a with dryRun := true }).1.code = 0 ∧
      (sessionOn store t logger' { a with dryRun := true }).2 = t ∧
      ∃ permissions, (sessionOn store t logger a).2.HasFile a.file permissions
        (sessionOn store t logger' { a with dryRun := true }).1.stdout.toUTF8 := by
  rw [sessionOn_eq] at hcode
  -- The exit code is that of the run, so the logs of the two sessions need not agree.
  obtain ⟨outcome, houtcome⟩ := exists_outcome_of_code hcode
  rw [runOn_of_dryRun_eq_false hdry] at houtcome
  obtain ⟨hresult, htree, hfile⟩ := dryRun_of_ok hs houtcome
  have hrun : runOn store t { a with dryRun := true } =
      scopeFileOn store t a.file a.wrapper { backup := !a.noBackup, dryRun := true } := rfl
  rw [sessionOn_eq, sessionOn_eq, runOn_of_dryRun_eq_false hdry, hrun, hresult]
  exact ⟨rfl, htree, hfile⟩

theorem exit_of_code_eq_one (hs : store.IsSound)
    (hcode : (sessionOn store t logger a).1.code = 1) :
    ∃ failure, (scopeFileOn store t a.file a.wrapper a.options).1.result = .error failure ∧
      (∀ permissions bytes, (sessionOn store t logger a).2.HasFile a.file permissions bytes ↔
        t.HasFile a.file permissions bytes) ∧
      (sessionOn store t logger a).1.stdout = (if a.dryRun then "" else banner) ∧
      ∃ told, (sessionOn store t logger a).1.stderr =
        told ++ ("Error: " ++ failure.message ++ "\n") := by
  rw [sessionOn_eq] at hcode ⊢
  obtain ⟨failure, hfailure⟩ := exists_failure_of_code hcode
  rw [hfailure]
  obtain ⟨-, hstdout, hstderr⟩ := exit_of_error a (logger.opening a.level)
    (logger.shown a.level (runOn store t a).1.events) failure
  exact ⟨failure, hfailure, fun permissions bytes => hasFile_iff_of_error hs hfailure, hstdout,
    hstderr⟩

/-- A dry run and the real run on the same tree agree, as runs and as sessions. If the real run
    succeeds, the dry run gives what the real run writes, and the two fail alike where the file
    cannot be read. If a session succeeds, the dry run with the same arguments prints what the first
    leaves in the file, whatever the logs of the two show. A session that fails leaves the file as it
    was and ends its standard error with the failure. -/
theorem dryRun_agrees (store : FileStore FileTree.Action) (hs : store.IsSound) (t : FileTree) :
    (∀ (path : Path) (wrapper : WrapperClass) (backup : Bool),
      (∀ outcome : Outcome,
        (scopeFileOn store t path wrapper { backup := backup, dryRun := false }).1.result =
            .ok outcome →
          (scopeFileOn store t path wrapper { backup := backup, dryRun := true }).1.result =
              .ok { outcome with backup := none } ∧
            (scopeFileOn store t path wrapper { backup := backup, dryRun := true }).2 = t ∧
            ∃ permissions,
              (scopeFileOn store t path wrapper { backup := backup, dryRun := false }).2.HasFile
                path permissions (encode outcome.text)) ∧
      (∀ failure : Failure,
        (scopeFileOn store t path wrapper { backup := backup, dryRun := true }).1.result =
            .error failure ↔
          (scopeFileOn store t path wrapper { backup := backup, dryRun := false }).1.result =
              .error failure ∧ ∃ cause, failure = .read path cause)) ∧
    (∀ (a : Arguments) (logger logger' : Logger), a.dryRun = false →
      (sessionOn store t logger a).1.code = 0 →
        (sessionOn store t logger' { a with dryRun := true }).1.code = 0 ∧
          (sessionOn store t logger' { a with dryRun := true }).2 = t ∧
          ∃ permissions, (sessionOn store t logger a).2.HasFile a.file permissions
            (sessionOn store t logger' { a with dryRun := true }).1.stdout.toUTF8) ∧
    (∀ (a : Arguments) (logger : Logger), (sessionOn store t logger a).1.code = 1 →
      ∃ failure, (scopeFileOn store t a.file a.wrapper a.options).1.result = .error failure ∧
        (∀ permissions bytes, (sessionOn store t logger a).2.HasFile a.file permissions bytes ↔
          t.HasFile a.file permissions bytes) ∧
        (sessionOn store t logger a).1.stdout = (if a.dryRun then "" else banner) ∧
        ∃ told, (sessionOn store t logger a).1.stderr =
          told ++ ("Error: " ++ failure.message ++ "\n")) := by
  refine ⟨fun path wrapper backup => ⟨fun outcome h => ?_, fun failure => ?_⟩, ?_, ?_⟩
  · exact dryRun_of_ok hs h
  · exact dryRun_error_iff hs
  · intro a logger logger' hdry hcode
    exact dryRun_session_of_code hs hdry hcode
  · intro a logger hcode
    exact exit_of_code_eq_one hs hcode

/-- A log that shows every event in a line of its own, whatever level it was asked for. -/
def fullLogger : Logger where
  opening _ := ""
  shown _ events := String.join (events.map fun e => e.shown ++ "\n")

/-- A call on the file with the rule. -/
def ruleCall : Arguments where
  file := rulePath
  wrapper := WrapperClass.dash
  noBackup := false
  dryRun := false
  verbosity := 1

/-- The dry run of a scoping prints the rule nested under the class, as the real run leaves it in the
    file. Where the file may not be written, the session fails and the rule stays as it is. -/
theorem dryRun_agrees_ruleFile :
    FileTree.instFileStoreAction.IsSound ∧ ruleCall.dryRun = false ∧
      (sessionOn FileTree.instFileStoreAction ruleFile fullLogger ruleCall).1.code = 0 ∧
      (sessionOn FileTree.instFileStoreAction ruleFile fullLogger
        { ruleCall with dryRun := true }).1.stdout = ".dash a \x7b" ∧
      (∃ permissions,
        (sessionOn FileTree.instFileStoreAction ruleFile fullLogger ruleCall).2.HasFile rulePath
          permissions ".dash a \x7b".toUTF8) ∧
      (sessionOn FileTree.instFileStoreAction readOnlyRule fullLogger ruleCall).1.code = 1 ∧
      (sessionOn FileTree.instFileStoreAction readOnlyRule fullLogger ruleCall).1.stdout = banner ∧
      (sessionOn FileTree.instFileStoreAction readOnlyRule fullLogger ruleCall).2.HasFile rulePath
        ⟨true, false, false⟩ (encode RuleLine.plainRule) := by
  have hcode : (sessionOn FileTree.instFileStoreAction ruleFile fullLogger ruleCall).1.code = 0 := by
    rfl
  have hprinted : (sessionOn FileTree.instFileStoreAction ruleFile fullLogger
      { ruleCall with dryRun := true }).1.stdout = ".dash a \x7b" := by
    rfl
  have hfails :
      (sessionOn FileTree.instFileStoreAction readOnlyRule fullLogger ruleCall).1.code = 1 := by
    rfl
  have hfile : readOnlyRule.HasFile rulePath ⟨true, false, false⟩ (encode RuleLine.plainRule) :=
    ⟨_, rfl, rfl⟩
  have hagrees := dryRun_agrees FileTree.instFileStoreAction FileStore.isSound_tree
  obtain ⟨-, -, hleft⟩ := (hagrees ruleFile).2.1 ruleCall fullLogger fullLogger rfl hcode
  obtain ⟨failure, -, hsame, hstdout, -⟩ :=
    (hagrees readOnlyRule).2.2 ruleCall fullLogger hfails
  rw [hprinted] at hleft
  exact ⟨FileStore.isSound_tree, rfl, hcode, hprinted, hleft, hfails, hstdout,
    (hsame _ _).2 hfile⟩

end StyleScope.CommandLine
