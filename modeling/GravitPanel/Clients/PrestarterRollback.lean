import GravitPanel.Clients.WorkspaceRollback

/-!
# Rollback of the prestarter

Which failures of `installPrestarter` leave the prestarter as it was, and both
rollbacks together.
-/

namespace GravitPanel.Clients

open Program Volume

variable {Content : Type}

def PrestarterRestored (before after : Volume Content) : Prop :=
  after.file prestarterPath = before.file prestarterPath

def prestarterBackup (environment : PrestarterEnvironment Content) :
    String :=
  backupPath prestarterPath environment.timestamp

def LeavesPrestarter (environment : PrestarterEnvironment Content)
    (call : ServiceCall Content) : Prop :=
  ∀ volume,
    (call.change volume).file prestarterPath = volume.file prestarterPath ∧
      (call.change volume).file (prestarterBackup environment) =
        volume.file (prestarterBackup environment)

/-- What is documented of the LaunchServer: loading the module and a restart
leave the prestarter and its backup alone. -/
structure DocumentedPrestarter
    (environment : PrestarterEnvironment Content) : Prop where
  install : LeavesPrestarter environment environment.install
  restart : LeavesPrestarter environment environment.restart
  verify : LeavesPrestarter environment environment.verify

structure PrestarterWritten
    (environment : PrestarterEnvironment Content) (start : Volume Content)
    (bytes : Content) : Prop where
  downloading : environment.faults .downloading = none
  fetched : environment.fetch = .ok bytes
  prestarterExists : environment.faults .prestarterExists = none
  snapshot : (start.file prestarterPath).isSome →
    environment.faults .prestarterCopy = none ∧
      environment.faults .prestarterSnapshot = none
  written : environment.faults .prestarterWrite = none

structure PrestarterInitialized
    (environment : PrestarterEnvironment Content) : Prop where
  installed : environment.install.answer = .ok ()
  restarting : environment.faults .restarting = none
  restarted : environment.restart.answer = .ok ()
  verified : environment.verify.answer = .ok ()

/-- No step fails where the rollback does not reach, unless the prestarter was
the pinned one. -/
structure PrestarterSafe
    (environment : PrestarterEnvironment Content) (start : Volume Content) :
    Prop where
  verified : ∀ bytes, PrestarterWritten environment start bytes →
    environment.faults .prestarterVerified = none ∨
      start.file prestarterPath = some bytes
  installed : ∀ bytes, PrestarterWritten environment start bytes →
    environment.faults .prestarterVerified = none →
      PrestarterInitialized environment →
        environment.faults .installed = none ∨
          start.file prestarterPath = some bytes

section Prestarter

variable {environment : PrestarterEnvironment Content}
variable {start volume reached : Volume Content} {bytes : Content}

theorem prestarterBackup_ne
    (environment : PrestarterEnvironment Content) :
    prestarterPath ≠ prestarterBackup environment :=
  backupPath_ne _ _

structure PrestarterBacked (environment : PrestarterEnvironment Content)
    (bytes : Content) (backup : Option Content) (volume : Volume Content) :
    Prop where
  pinned : volume.file prestarterPath = some bytes
  backup : volume.file (prestarterBackup environment) = backup

theorem keeps_callService {backup : Option Content}
    {call : ServiceCall Content}
    (leaves : LeavesPrestarter environment call) :
    Keeps (PrestarterBacked environment bytes backup) (callService call) := by
  refine Keeps.bind (keeps_update fun volume backed => ?_) fun _ =>
    keeps_lift _
  exact ⟨(leaves volume).1.trans backed.pinned,
    (leaves volume).2.trans backed.backup⟩

theorem keeps_initializePrestarter {backup : Option Content}
    (documented : DocumentedPrestarter environment) :
    Keeps (PrestarterBacked environment bytes backup)
      (initializePrestarter environment) := by
  unfold initializePrestarter
  refine (keeps_callService documented.install).bind fun _ => ?_
  refine (keeps_pass _).bind fun _ => ?_
  refine (keeps_callService documented.restart).bind fun _ => ?_
  exact keeps_callService documented.verify

theorem callService_bind_eq_ok
    {call : ServiceCall Content}
    {next : Unit → Program (Volume Content) String Unit} {value : Unit} :
    (callService call >>= next) start = (.ok value, reached) ↔
      call.answer = .ok () ∧
        next () (call.change start) = (.ok value, reached) := by
  rw [bind_eq_ok]
  constructor
  · rintro ⟨_, _, run, rest⟩
    obtain ⟨answer, rfl⟩ := callService_ok.mp run
    exact ⟨answer, rest⟩
  · rintro ⟨answer, rest⟩
    exact ⟨(), _, callService_ok.mpr ⟨answer, rfl⟩, rest⟩

theorem initializePrestarter_ok :
    (∃ reached, initializePrestarter environment start = (.ok (), reached)) ↔
      PrestarterInitialized environment := by
  have run : ∀ {reached},
      initializePrestarter environment start = (.ok (), reached) ↔
        environment.install.answer = .ok () ∧
          environment.faults .restarting = none ∧
            environment.restart.answer = .ok () ∧
              environment.verify.answer = .ok () ∧
                environment.verify.change (environment.restart.change
                  (environment.install.change start)) = reached := by
    intro reached
    rw [initializePrestarter, callService_bind_eq_ok, pass_bind_eq_ok,
      callService_bind_eq_ok, callService_ok]
  constructor
  · rintro ⟨reached, ended⟩
    obtain ⟨installed, restarting, restarted, verified, -⟩ := run.mp ended
    exact ⟨installed, restarting, restarted, verified⟩
  · rintro ⟨installed, restarting, restarted, verified⟩
    exact ⟨_, run.mpr ⟨installed, restarting, restarted, verified, rfl⟩⟩

/-- Once the module is being loaded, only the last progress can leave a
change. -/
theorem throwsInto_initializeOrRestore
    (documented : DocumentedPrestarter environment)
    {backup : Option Content}
    (backed : PrestarterBacked environment bytes backup volume)
    (copied : (start.file prestarterPath).isSome →
      backup = start.file prestarterPath) :
    ThrowsInto (PrestarterRestored start)
        (initializeOrRestore environment
            (start.file prestarterPath).isSome >>= fun _ =>
          pass environment.faults .installed) volume ↔
      (PrestarterInitialized environment →
        environment.faults .installed = none ∨
          start.file prestarterPath = some bytes) := by
  have kept := @keeps_initializePrestarter _ environment bytes backup
    documented
  have rollback : ThrowsInto (PrestarterRestored start)
      (initializeOrRestore environment
        (start.file prestarterPath).isSome) volume := by
    rw [initializeOrRestore, throwsInto_restore]
    refine (kept.throwsInto backed).mono fun reached backed => ?_
    rw [PrestarterRestored, restorePrestarter, file_setFile_self]
    cases had : start.file prestarterPath with
    | none => rfl
    | some content =>
        have same := copied (by rw [had]; rfl)
        rw [Option.isSome_some, if_pos rfl]
        exact backed.backup.trans (same.trans had)
  rw [throwsInto_bind]
  constructor
  · rintro ⟨-, rest⟩ initialized
    obtain ⟨reached, run⟩ :=
      (@initializePrestarter_ok _ environment volume).mpr initialized
    have last := throwsInto_pass.mp (rest () reached (restore_eq_ok.mpr run))
    by_cases clear : environment.faults .installed = none
    · exact .inl clear
    · have after := kept.reached backed
      rw [run] at after
      exact .inr ((last clear).symm.trans after.pinned)
  · intro safe
    refine ⟨rollback, fun value reached run => ?_⟩
    have run := restore_eq_ok.mp run
    rw [throwsInto_pass]
    intro fault
    have after := kept.reached backed
    rw [run] at after
    rcases safe (initializePrestarter_ok.mp ⟨reached, run⟩) with clear | same
    · exact absurd clear fault
    · exact after.pinned.trans same.symm

def prestarterCopied (environment : PrestarterEnvironment Content)
    (start : Volume Content) : Volume Content :=
  if (start.file prestarterPath).isSome then
    start.setFile (prestarterBackup environment) (start.file prestarterPath)
  else
    start

theorem prestarterCopied_restored :
    PrestarterRestored start (prestarterCopied environment start) := by
  unfold prestarterCopied
  split
  · exact file_setFile_of_ne (prestarterBackup_ne environment) _ _
  · rfl

theorem prestarterCopied_backed (bytes : Content) :
    ∃ backup, PrestarterBacked environment bytes backup
        ((prestarterCopied environment start).setFile prestarterPath
          (some bytes)) ∧
      ((start.file prestarterPath).isSome →
        backup = start.file prestarterPath) := by
  refine ⟨_, ⟨file_setFile_self _ _ _, rfl⟩, fun had => ?_⟩
  rw [file_setFile_of_ne (prestarterBackup_ne environment).symm,
    prestarterCopied, if_pos had, file_setFile_self]

theorem snapshotPrestarter_run :
    ThrowsInto (PrestarterRestored start)
        (snapshotPrestarter environment (start.file prestarterPath).isSome)
        start ∧
      ∀ {value : Unit} {reached : Volume Content},
        snapshotPrestarter environment (start.file prestarterPath).isSome
            start = (.ok value, reached) ↔
          ((start.file prestarterPath).isSome →
            environment.faults .prestarterCopy = none ∧
              environment.faults .prestarterSnapshot = none) ∧
            prestarterCopied environment start = reached := by
  have copied := @prestarterCopied_restored _ environment start
  unfold prestarterCopied at copied ⊢
  cases had : (start.file prestarterPath).isSome with
  | false =>
      refine ⟨throwsInto_pure _, fun {value reached} => ?_⟩
      constructor
      · intro run
        cases run
        exact ⟨fun absurdity => Bool.noConfusion absurdity, rfl⟩
      · rintro ⟨-, rfl⟩
        rfl
  | true =>
      rw [had, if_pos rfl] at copied
      rw [if_pos rfl, snapshotPrestarter, if_pos rfl, copyFile]
      constructor
      · rw [throwsInto_change_bind, throwsInto_pass]
        exact ⟨fun _ => rfl, fun _ _ => copied⟩
      · intro value reached
        rw [update_bind_eq_ok, pass_eq_ok, ← and_assoc]
        exact and_congr_left' ⟨fun clear _ => clear, fun clear => clear rfl⟩

/-- Installing the prestarter leaves it as before whenever it throws, exactly
when it is safe. -/
theorem installPrestarter_restores_iff
    (documented : DocumentedPrestarter environment)
    (start : Volume Content) :
    ThrowsInto (PrestarterRestored start) (installPrestarter environment)
        start ↔
      PrestarterSafe environment start := by
  obtain ⟨copyThrows, copyEnds⟩ :=
    @snapshotPrestarter_run _ environment start
  have copied := @prestarterCopied_restored _ environment start
  have rest : ∀ bytes, ThrowsInto (PrestarterRestored start)
      (pass environment.faults .prestarterVerified >>= fun _ =>
        initializeOrRestore environment
            (start.file prestarterPath).isSome >>= fun _ =>
          pass environment.faults .installed)
      ((prestarterCopied environment start).setFile prestarterPath
        (some bytes)) ↔
      (environment.faults .prestarterVerified ≠ none →
          start.file prestarterPath = some bytes) ∧
        (environment.faults .prestarterVerified = none →
          PrestarterInitialized environment →
            environment.faults .installed = none ∨
              start.file prestarterPath = some bytes) := by
    intro bytes
    obtain ⟨backup, backed, same⟩ :=
      @prestarterCopied_backed _ environment start bytes
    rw [throwsInto_pass_bind,
      throwsInto_initializeOrRestore documented backed same,
      PrestarterRestored, file_setFile_self, eq_comm]
  constructor
  · intro throws
    have reach : ∀ bytes, PrestarterWritten environment start bytes → _ :=
      fun bytes written => (rest bytes).mp (by
        have run := (throwsInto_pass_bind.mp throws).2 written.downloading
        rw [throwsInto_bind] at run
        have run := run.2 bytes _ (by rw [lift_apply, written.fetched])
        have run := (throwsInto_existsFile_bind.mp run).2
          written.prestarterExists
        rw [throwsInto_bind] at run
        have run := run.2 () _ (copyEnds.mpr ⟨written.snapshot, rfl⟩)
        rw [writeFileAtomic] at run
        exact (throwsInto_change_bind.mp run).2 written.written)
    refine ⟨fun bytes written => ?_, fun bytes written => ?_⟩
    · exact Classical.or_iff_not_imp_left.mpr (reach bytes written).1
    · exact (reach bytes written).2
  · intro safe
    refine throwsInto_pass_bind.mpr ⟨fun _ => rfl, fun downloading => ?_⟩
    refine throwsInto_bind.mpr
      ⟨throwsInto_lift.mpr fun _ _ => rfl, fun bytes _ fetch => ?_⟩
    rw [lift_apply, Prod.mk.injEq] at fetch
    obtain ⟨fetched, rfl⟩ := fetch
    refine throwsInto_existsFile_bind.mpr
      ⟨fun _ => rfl, fun prestarterExists => ?_⟩
    refine throwsInto_bind.mpr ⟨copyThrows, fun _ _ copy => ?_⟩
    obtain ⟨snapshot, rfl⟩ := copyEnds.mp copy
    rw [writeFileAtomic]
    refine throwsInto_change_bind.mpr ⟨fun _ => copied, fun write => ?_⟩
    have written : PrestarterWritten environment start bytes :=
      ⟨downloading, fetched, prestarterExists, snapshot, write⟩
    exact (rest bytes).mpr
      ⟨fun fault => (safe.verified bytes written).resolve_left fault,
        safe.installed bytes written⟩

end Prestarter

/-- Both rollbacks: whenever one of the updates throws, what it replaces is
exactly as before, if and only if no step fails where its rollback does not
reach. -/
theorem updates_roll_back_iff
    {workspace : WorkspaceEnvironment Content}
    {prestarter : PrestarterEnvironment Content}
    (documentedWorkspace : DocumentedWorkspace workspace)
    (documentedPrestarter : DocumentedPrestarter prestarter)
    (start : Volume Content) :
    (ThrowsInto (WorkspaceRestored start) (applyWorkspace workspace) start ∧
        ThrowsInto (PrestarterRestored start)
          (installPrestarter prestarter) start) ↔
      WorkspaceSafe workspace start ∧ PrestarterSafe prestarter start :=
  and_congr (applyWorkspace_restores_iff documentedWorkspace start)
    (installPrestarter_restores_iff documentedPrestarter start)

def sampleWorkspace (faults : WorkspacePoint → Option String) :
    WorkspaceEnvironment String where
  faults := faults
  install := ⟨.ok (), id⟩
  fetch := .ok "pinned manifest"
  manifestTimestamp := "2026-01-01T00-00-00-000Z"
  workspaceTimestamp := "2026-01-01T00-00-00-100Z"
  attempts := fun _ => ⟨.ok ["Applied"], some [("authlib", "new")], id⟩

def samplePrestarter : PrestarterEnvironment String where
  faults := fun _ => none
  fetch := .ok "pinned prestarter"
  timestamp := "2026-01-01T00-00-00-000Z"
  install := ⟨.ok (), id⟩
  restart := ⟨.ok (), id⟩
  verify := ⟨.ok (), id⟩

def appliedVolume : Volume String where
  file := fun path => if path = manifestPath then some "manifest" else none
  directory := fun path =>
    if path = workspaceDirectory then some [("authlib", "old")] else none

theorem sampleWorkspace_documented
    (faults : WorkspacePoint → Option String) :
    DocumentedWorkspace (sampleWorkspace faults) where
  installed := fun _ => ⟨rfl, rfl⟩
  manifest := fun _ _ => rfl
  backup := fun _ _ => rfl
  snapshot := fun _ _ => rfl

theorem samplePrestarter_documented :
    DocumentedPrestarter samplePrestarter where
  install := fun _ => ⟨rfl, rfl⟩
  restart := fun _ => ⟨rfl, rfl⟩
  verify := fun _ => ⟨rfl, rfl⟩

def cancelledAtSnapshot (point : WorkspacePoint) : Option String :=
  if point = .workspaceSnapshot then some "Job cancelled by user" else none

theorem updates_roll_back_sample :
    (ThrowsInto (WorkspaceRestored appliedVolume)
          (applyWorkspace (sampleWorkspace cancelledAtSnapshot))
          appliedVolume ∧
        ThrowsInto (PrestarterRestored appliedVolume)
          (installPrestarter samplePrestarter) appliedVolume) ↔
      WorkspaceSafe (sampleWorkspace cancelledAtSnapshot) appliedVolume ∧
        PrestarterSafe samplePrestarter appliedVolume :=
  updates_roll_back_iff (sampleWorkspace_documented cancelledAtSnapshot)
    samplePrestarter_documented appliedVolume

/-- A job that is cancelled after the move leaves the workspace under the name
of its snapshot only. -/
theorem workspace_left_in_snapshot :
    ¬ ∀ (workspace : WorkspaceEnvironment String)
      (prestarter : PrestarterEnvironment String) (start : Volume String),
      DocumentedWorkspace workspace → DocumentedPrestarter prestarter →
        ThrowsInto (WorkspaceRestored start) (applyWorkspace workspace)
            start ∧
          ThrowsInto (PrestarterRestored start)
            (installPrestarter prestarter) start := by
  intro claimed
  have throws := (claimed (sampleWorkspace cancelledAtSnapshot)
    samplePrestarter appliedVolume
    (sampleWorkspace_documented cancelledAtSnapshot)
    samplePrestarter_documented).1
  have restored := throws "Job cancelled by user"
    (applyWorkspace (sampleWorkspace cancelledAtSnapshot) appliedVolume).2
    (Prod.ext rfl rfl)
  have gone : (applyWorkspace (sampleWorkspace cancelledAtSnapshot)
      appliedVolume).2.directory workspaceDirectory = none := rfl
  rw [restored.workspace] at gone
  cases gone

end GravitPanel.Clients
