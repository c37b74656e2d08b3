import GravitPanel.Clients.Workspace

/-!
# Rollback of the workspace

Which failures of `applyWorkspace` leave the workspace and its manifest as they
were.
-/

namespace GravitPanel.Clients

open Program Volume

variable {Content : Type}

/-- The workspace and its manifest are exactly as before. -/
structure WorkspaceRestored (before after : Volume Content) : Prop where
  workspace : after.directory workspaceDirectory =
    before.directory workspaceDirectory
  manifest : after.file manifestPath = before.file manifestPath

/-- What is documented of the LaunchServer: loading the module leaves the
workspace and its manifest alone, and applying the workspace leaves the
manifest and both backups alone. -/
structure DocumentedWorkspace
    (environment : WorkspaceEnvironment Content) : Prop where
  installed : ∀ volume,
    WorkspaceRestored volume (environment.install.change volume)
  manifest : ∀ attempt volume,
    ((environment.attempts attempt).others volume).file manifestPath =
      volume.file manifestPath
  backup : ∀ attempt volume,
    ((environment.attempts attempt).others volume).file
        (manifestBackup environment) =
      volume.file (manifestBackup environment)
  snapshot : ∀ attempt volume,
    ((environment.attempts attempt).others volume).directory
        (workspaceSnapshot environment) =
      volume.directory (workspaceSnapshot environment)

structure ManifestWritten
    (environment : WorkspaceEnvironment Content) (start : Volume Content)
    (bytes : Content) : Prop where
  installed : environment.install.answer = .ok ()
  downloading : environment.faults .downloading = none
  fetched : environment.fetch = .ok bytes
  manifestExists : environment.faults .manifestExists = none
  snapshot : (start.file manifestPath).isSome →
    environment.faults .manifestCopy = none ∧
      environment.faults .manifestSnapshot = none
  written : environment.faults .manifestWrite = none

structure WorkspaceMoved
    (environment : WorkspaceEnvironment Content) (start : Volume Content) :
    Prop where
  verified : environment.faults .manifestVerified = none
  workspaceExists : environment.faults .workspaceExists = none
  moved : (start.directory workspaceDirectory).isSome →
    environment.faults .workspaceMove = none

/-- The log line about the snapshot does not find the job cancelled. -/
def SnapshotLogged
    (environment : WorkspaceEnvironment Content) (start : Volume Content) :
    Prop :=
  (start.directory workspaceDirectory).isSome →
    environment.faults .workspaceSnapshot = none

structure AttemptPassed
    (environment : WorkspaceEnvironment Content) (attempt : Nat) :
    Prop where
  answered : ∃ lines, (environment.attempts attempt).answer = .ok lines ∧
    ∀ index < lines.length, environment.faults (.line attempt index) = none
  inspected : environment.faults (.attemptExists attempt) = none
  created : (environment.attempts attempt).workspace.isSome

structure RetryPrepared
    (environment : WorkspaceEnvironment Content) (attempt : Nat) :
    Prop where
  removed : environment.faults (.partialRemove attempt) = none
  failed : environment.faults (.attemptFailed attempt) = none
  logged : environment.faults (.partialRemoved attempt) = none
  running : environment.faults (.aborted attempt) = none

/-- Some attempt, with so many more after the first, succeeds and leaves this
workspace. -/
inductive AppliedWith (environment : WorkspaceEnvironment Content) :
    Nat → Option (List (String × Content)) → Prop where
  | passed {left : Nat}
      (started : environment.faults (.applying (maximumAttempts - left)) =
        none)
      (ended : AttemptPassed environment (maximumAttempts - left)) :
      AppliedWith environment left
        (environment.attempts (maximumAttempts - left)).workspace
  | retried {left : Nat} {workspace : Option (List (String × Content))}
      (started : environment.faults
        (.applying (maximumAttempts - (left + 1))) = none)
      (failed : ¬ AttemptPassed environment (maximumAttempts - (left + 1)))
      (prepared : RetryPrepared environment (maximumAttempts - (left + 1)))
      (later : AppliedWith environment left workspace) :
      AppliedWith environment (left + 1) workspace

/-- No step fails where the rollback does not reach, unless what was there is
what is written. -/
structure WorkspaceSafe
    (environment : WorkspaceEnvironment Content) (start : Volume Content) :
    Prop where
  moved : ∀ bytes, ManifestWritten environment start bytes →
    start.file manifestPath = some bytes ∨ WorkspaceMoved environment start
  logged : ∀ bytes, ManifestWritten environment start bytes →
    WorkspaceMoved environment start → SnapshotLogged environment start
  applied : ∀ bytes workspace, ManifestWritten environment start bytes →
    WorkspaceMoved environment start → SnapshotLogged environment start →
      AppliedWith environment (maximumAttempts - 1) workspace →
        environment.faults .applied = none ∨
          start.directory workspaceDirectory = workspace ∧
            start.file manifestPath = some bytes

section Attempts

variable {environment : WorkspaceEnvironment Content}
variable {start final : Volume Content}

theorem attemptWorkspace_ok {attempt : Nat} {value : Unit} :
    attemptWorkspace environment attempt start = (.ok value, final) ↔
      AttemptPassed environment attempt ∧
        (environment.attempts attempt).change start = final := by
  have directory :
      ((environment.attempts attempt).change start).directory
        workspaceDirectory = (environment.attempts attempt).workspace :=
    directory_setDirectory_self _ _ _
  have demanded {present : Bool} {value : Unit} :
      demandDirectory present = .ok value ↔ present = true := by
    cases present <;> simp [demandDirectory]
  constructor
  · intro run
    rw [attemptWorkspace] at run
    obtain ⟨_, _, changed, run⟩ := bind_eq_ok.mp run
    cases changed
    obtain ⟨lines, answer, run⟩ := lift_bind_eq_ok.mp run
    obtain ⟨logged, run⟩ := passEach_bind_eq_ok.mp run
    obtain ⟨inspected, run⟩ := existsDirectory_bind_eq_ok.mp run
    rw [lift_apply, Prod.mk.injEq, demanded, directory] at run
    exact ⟨⟨⟨lines, answer, logged⟩, inspected, run.1⟩, run.2⟩
  · rintro ⟨⟨⟨lines, answer, logged⟩, inspected, created⟩, rfl⟩
    rw [attemptWorkspace]
    refine bind_eq_ok.mpr ⟨⟨⟩, _, rfl, ?_⟩
    refine lift_bind_eq_ok.mpr ⟨lines, answer, ?_⟩
    refine passEach_bind_eq_ok.mpr ⟨logged, ?_⟩
    refine existsDirectory_bind_eq_ok.mpr ⟨inspected, ?_⟩
    rw [lift_apply, Prod.mk.injEq, demanded, directory]
    exact ⟨created, rfl⟩

theorem attemptWorkspace_passed {attempt : Nat}
    (passed : AttemptPassed environment attempt) :
    attemptWorkspace environment attempt start =
      (.ok (), (environment.attempts attempt).change start) :=
  attemptWorkspace_ok.mpr ⟨passed, rfl⟩

theorem prepareRetry_ok {attempt : Nat} {value : Unit} :
    prepareRetry environment attempt start = (.ok value, final) ↔
      RetryPrepared environment attempt ∧
        start.setDirectory workspaceDirectory none = final := by
  rw [prepareRetry, removeDirectory, update_bind_eq_ok, pass_bind_eq_ok,
    pass_bind_eq_ok, pass_eq_ok]
  constructor
  · rintro ⟨removed, failed, logged, running, same⟩
    exact ⟨⟨removed, failed, logged, running⟩, same⟩
  · rintro ⟨⟨removed, failed, logged, running⟩, same⟩
    exact ⟨removed, failed, logged, running, same⟩

/-- The attempts end normally with exactly the workspaces that some attempt
leaves. -/
theorem applyAttempts_ok
    {left : Nat} {workspace : Option (List (String × Content))} :
    (∃ reached, applyAttempts environment left start = (.ok (), reached) ∧
        reached.directory workspaceDirectory = workspace) ↔
      AppliedWith environment left workspace := by
  have directory : ∀ attempt (volume : Volume Content),
      ((environment.attempts attempt).change volume).directory
        workspaceDirectory = (environment.attempts attempt).workspace :=
    fun _ _ => directory_setDirectory_self _ _ _
  induction left generalizing start with
  | zero =>
      constructor
      · rintro ⟨reached, run, rfl⟩
        rw [applyAttempts] at run
        obtain ⟨started, run⟩ := pass_bind_eq_ok.mp run
        rcases handle_eq_ok.mp run with ended | ⟨problem, _, _, thrown⟩
        · obtain ⟨passed, rfl⟩ := attemptWorkspace_ok.mp ended
          rw [directory]
          exact .passed started passed
        · obtain ⟨_, _, _, thrown⟩ := bind_eq_ok.mp thrown
          cases thrown
      · intro applied
        cases applied with
        | passed started ended =>
            refine ⟨_, ?_, directory _ start⟩
            rw [applyAttempts]
            refine pass_bind_eq_ok.mpr ⟨started, ?_⟩
            exact handle_eq_ok.mpr (.inl (attemptWorkspace_passed ended))
  | succ left ih =>
      constructor
      · rintro ⟨reached, run, rfl⟩
        rw [applyAttempts] at run
        obtain ⟨started, run⟩ := pass_bind_eq_ok.mp run
        rcases handle_eq_ok.mp run with ended | ⟨problem, middle, failed, run⟩
        · obtain ⟨passed, rfl⟩ := attemptWorkspace_ok.mp ended
          rw [directory]
          exact .passed started passed
        · obtain ⟨_, removed, retry, run⟩ := bind_eq_ok.mp run
          obtain ⟨prepared, rfl⟩ := prepareRetry_ok.mp retry
          have notPassed : ¬ AttemptPassed environment
              (maximumAttempts - (left + 1)) := by
            intro passed
            rw [attemptWorkspace_passed passed] at failed
            cases failed
          exact .retried started notPassed prepared
            (ih.mp ⟨reached, run, rfl⟩)
      · intro applied
        rw [applyAttempts]
        cases applied with
        | passed started ended =>
            refine ⟨_, ?_, directory _ start⟩
            refine pass_bind_eq_ok.mpr ⟨started, ?_⟩
            exact handle_eq_ok.mpr (.inl (attemptWorkspace_passed ended))
        | retried started failed prepared later =>
            rcases shape : attemptWorkspace environment
              (maximumAttempts - (left + 1)) start with
              ⟨problem | value, middle⟩
            · obtain ⟨reached, run, same⟩ :=
                (@ih (middle.setDirectory
                  workspaceDirectory none)).mpr later
              refine ⟨reached, ?_, same⟩
              refine pass_bind_eq_ok.mpr ⟨started, ?_⟩
              refine handle_eq_ok.mpr (.inr ⟨problem, middle, shape, ?_⟩)
              refine bind_eq_ok.mpr ⟨⟨⟩, _, ?_, run⟩
              exact prepareRetry_ok.mpr ⟨prepared, rfl⟩
            · exact absurd (attemptWorkspace_ok.mp shape).1 failed

end Attempts

/-- The manifest is the pinned one, and the backups hold these. -/
structure Backed (environment : WorkspaceEnvironment Content)
    (bytes : Content) (manifest : Option Content)
    (workspace : Option (List (String × Content)))
    (volume : Volume Content) : Prop where
  pinned : volume.file manifestPath = some bytes
  manifest : volume.file (manifestBackup environment) = manifest
  workspace : volume.directory (workspaceSnapshot environment) = workspace

section Backups

variable {environment : WorkspaceEnvironment Content} {bytes : Content}
variable {manifest : Option Content}
variable {workspace : Option (List (String × Content))}

theorem Backed.setDirectory {volume : Volume Content}
    (backed : Backed environment bytes manifest workspace volume)
    (files : Option (List (String × Content))) :
    Backed environment bytes manifest workspace
      (volume.setDirectory workspaceDirectory files) := by
  obtain ⟨pinned, manifest, workspace⟩ := backed
  refine ⟨pinned, manifest, ?_⟩
  have apart : workspaceSnapshot environment ≠ workspaceDirectory :=
    (backupPath_ne _ _).symm
  rw [directory_setDirectory_of_ne apart]
  exact workspace

theorem Backed.change (documented : DocumentedWorkspace environment)
    {volume : Volume Content}
    (backed : Backed environment bytes manifest workspace volume)
    (attempt : Nat) :
    Backed environment bytes manifest workspace
      ((environment.attempts attempt).change volume) := by
  obtain ⟨pinned, manifest, workspace⟩ := backed
  refine Backed.setDirectory ⟨?_, ?_, ?_⟩ _
  · rw [documented.manifest]
    exact pinned
  · rw [documented.backup]
    exact manifest
  · rw [documented.snapshot]
    exact workspace

theorem keeps_removeWorkspace (point : WorkspacePoint) :
    Keeps (Backed environment bytes manifest workspace)
      (removeDirectory environment.faults point workspaceDirectory) :=
  (keeps_pass point).bind fun _ =>
    keeps_update fun _ backed => backed.setDirectory none

theorem keeps_attemptWorkspace
    (documented : DocumentedWorkspace environment) (attempt : Nat) :
    Keeps (Backed environment bytes manifest workspace)
      (attemptWorkspace environment attempt) := by
  unfold attemptWorkspace
  refine Keeps.bind
    (keeps_update fun _ backed => backed.change documented attempt)
    fun _ => ?_
  refine Keeps.lift_bind fun _ => ?_
  refine (keeps_passAll _).bind fun _ => ?_
  exact (keeps_existsDirectory _ _).bind fun _ => keeps_lift _

theorem keeps_applyAttempts
    (documented : DocumentedWorkspace environment) (left : Nat) :
    Keeps (Backed environment bytes manifest workspace)
      (applyAttempts environment left) := by
  induction left with
  | zero =>
      unfold applyAttempts
      refine (keeps_pass _).bind fun _ => ?_
      refine Keeps.handle (keeps_attemptWorkspace documented _) fun _ => ?_
      exact (keeps_removeWorkspace _).bind fun _ => keeps_throw _
  | succ left ih =>
      unfold applyAttempts prepareRetry
      refine (keeps_pass _).bind fun _ => ?_
      refine Keeps.handle (keeps_attemptWorkspace documented _) fun _ => ?_
      refine Keeps.bind ?_ fun _ => ih
      refine (keeps_removeWorkspace _).bind fun _ => ?_
      refine (keeps_pass _).bind fun _ => ?_
      exact (keeps_pass _).bind fun _ => keeps_pass _

theorem file_restoreDirectory (had : Bool) (volume : Volume Content) :
    (restoreDirectory environment had volume).file = volume.file := by
  cases had <;> rfl

theorem restored_of_backed {before volume : Volume Content}
    (backed : Backed environment bytes manifest workspace volume)
    (copied : (before.file manifestPath).isSome →
      manifest = before.file manifestPath)
    (moved : (before.directory workspaceDirectory).isSome →
      workspace = before.directory workspaceDirectory) :
    WorkspaceRestored before (restoreWorkspace environment
      (before.file manifestPath).isSome
      (before.directory workspaceDirectory).isSome volume) := by
  have apart : workspaceSnapshot environment ≠ workspaceDirectory :=
    (backupPath_ne _ _).symm
  constructor
  · rw [restoreWorkspace, restoreManifest, directory_setFile,
      restoreDirectory]
    cases had : before.directory workspaceDirectory with
    | none =>
        rw [Option.isSome_none, if_neg Bool.false_ne_true,
          directory_setDirectory_self]
    | some files =>
        have same := moved (by rw [had]; rfl)
        rw [Option.isSome_some, if_pos rfl,
          directory_setDirectory_of_ne apart.symm,
          directory_setDirectory_self,
          directory_setDirectory_of_ne apart, backed.workspace, same, had]
  · rw [restoreWorkspace, restoreManifest, file_setFile_self,
      file_restoreDirectory]
    cases had : before.file manifestPath with
    | none => rfl
    | some content =>
        have same := copied (by rw [had]; rfl)
        rw [Option.isSome_some, if_pos rfl, backed.manifest, same, had]

end Backups

section Replacement

variable {environment : WorkspaceEnvironment Content}
variable {before volume : Volume Content} {bytes : Content}

/-- The volume once the manifest is written. -/
structure Rewritten (environment : WorkspaceEnvironment Content)
    (before : Volume Content) (bytes : Content) (volume : Volume Content) :
    Prop where
  pinned : volume.file manifestPath = some bytes
  backup : (before.file manifestPath).isSome →
    volume.file (manifestBackup environment) = before.file manifestPath
  workspace : volume.directory workspaceDirectory =
    before.directory workspaceDirectory

theorem Rewritten.restored_iff
    (rewritten : Rewritten environment before bytes volume) :
    WorkspaceRestored before volume ↔
      before.file manifestPath = some bytes := by
  constructor
  · intro restored
    rw [← restored.manifest, rewritten.pinned]
  · intro same
    exact ⟨rewritten.workspace, by rw [rewritten.pinned, same]⟩

/-- Once the workspace is in its snapshot, only the last progress can leave a
change. -/
theorem throwsInto_applyOrRestore
    (documented : DocumentedWorkspace environment)
    {manifest : Option Content}
    {workspace : Option (List (String × Content))}
    (backed : Backed environment bytes manifest workspace volume)
    (copied : (before.file manifestPath).isSome →
      manifest = before.file manifestPath)
    (moved : (before.directory workspaceDirectory).isSome →
      workspace = before.directory workspaceDirectory) :
    ThrowsInto (WorkspaceRestored before)
        (applyOrRestore environment (before.file manifestPath).isSome
            (before.directory workspaceDirectory).isSome >>= fun _ =>
          pass environment.faults .applied) volume ↔
      ∀ applied, AppliedWith environment (maximumAttempts - 1) applied →
        environment.faults .applied = none ∨
          before.directory workspaceDirectory = applied ∧
            before.file manifestPath = some bytes := by
  have kept := @keeps_applyAttempts _ environment bytes manifest workspace
    documented (maximumAttempts - 1)
  have rollback : ThrowsInto (WorkspaceRestored before)
      (applyOrRestore environment (before.file manifestPath).isSome
        (before.directory workspaceDirectory).isSome) volume := by
    rw [applyOrRestore, throwsInto_restore]
    exact (kept.throwsInto backed).mono fun _ backed =>
      restored_of_backed backed copied moved
  rw [throwsInto_bind]
  constructor
  · rintro ⟨-, rest⟩ applied run
    obtain ⟨reached, run, same⟩ :=
      (@applyAttempts_ok _ environment volume _ applied).mpr run
    have last := throwsInto_pass.mp (rest () reached (restore_eq_ok.mpr run))
    by_cases clear : environment.faults .applied = none
    · exact .inl clear
    · have restored := last clear
      have after := kept.reached backed
      rw [run] at after
      exact .inr ⟨by rw [← restored.workspace, same],
        by rw [← restored.manifest, after.pinned]⟩
  · intro safe
    refine ⟨rollback, fun value reached run => ?_⟩
    have run := restore_eq_ok.mp run
    rw [throwsInto_pass]
    intro fault
    have applied := applyAttempts_ok.mp ⟨reached, run, rfl⟩
    have after := kept.reached backed
    rw [run] at after
    rcases safe _ applied with clear | ⟨directory, file⟩
    · exact absurd clear fault
    · exact ⟨directory.symm, by rw [after.pinned, file]⟩

theorem throwsInto_snapshotWorkspace
    (documented : DocumentedWorkspace environment)
    (rewritten : Rewritten environment before bytes volume) :
    ThrowsInto (WorkspaceRestored before)
        (snapshotWorkspace environment
            (before.directory workspaceDirectory).isSome >>= fun _ =>
          applyOrRestore environment (before.file manifestPath).isSome
            (before.directory workspaceDirectory).isSome >>= fun _ =>
          pass environment.faults .applied) volume ↔
      ((before.directory workspaceDirectory).isSome →
          environment.faults .workspaceMove ≠ none →
            before.file manifestPath = some bytes) ∧
        (((before.directory workspaceDirectory).isSome →
            environment.faults .workspaceMove = none) →
          SnapshotLogged environment before ∧
            (SnapshotLogged environment before → ∀ applied,
              AppliedWith environment (maximumAttempts - 1) applied →
                environment.faults .applied = none ∨
                  before.directory workspaceDirectory = applied ∧
                    before.file manifestPath = some bytes)) := by
  cases had : (before.directory workspaceDirectory).isSome with
  | false =>
      have absent : ¬ false = true := Bool.false_ne_true
      have backed : Backed environment bytes
          (volume.file (manifestBackup environment))
          (volume.directory (workspaceSnapshot environment)) volume :=
        ⟨rewritten.pinned, rfl, rfl⟩
      have rest := throwsInto_applyOrRestore documented backed
        rewritten.backup (fun some => absurd (had.symm.trans some) absent)
      rw [had] at rest
      have logged : SnapshotLogged environment before :=
        fun some => absurd (had.symm.trans some) absent
      constructor
      · intro throws
        exact ⟨fun some => absurd some absent,
          fun _ => ⟨logged, fun _ => rest.mp throws⟩⟩
      · rintro ⟨-, safe⟩
        exact rest.mpr ((safe fun some => absurd some absent).2 logged)
  | true =>
      let copied := volume.setDirectory (workspaceSnapshot environment)
        (volume.directory workspaceDirectory)
      let moved := copied.setDirectory workspaceDirectory none
      have inCopy : Backed environment bytes
          (volume.file (manifestBackup environment))
          (volume.directory workspaceDirectory) copied :=
        ⟨rewritten.pinned, rfl, directory_setDirectory_self _ _ _⟩
      have backed : Backed environment bytes
          (volume.file (manifestBackup environment))
          (volume.directory workspaceDirectory) moved :=
        inCopy.setDirectory none
      have rest := throwsInto_applyOrRestore documented backed
        rewritten.backup (fun _ => rewritten.workspace)
      rw [had] at rest
      have lost : ¬ WorkspaceRestored before moved := by
        intro restored
        have gone : moved.directory workspaceDirectory = none :=
          directory_setDirectory_self _ _ _
        rw [restored.workspace] at gone
        rw [gone] at had
        cases had
      have logged : SnapshotLogged environment before ↔
          environment.faults .workspaceSnapshot = none :=
        ⟨fun clear => clear had, fun clear _ => clear⟩
      rw [snapshotWorkspace, if_pos rfl, bind_bind, moveDirectory,
        throwsInto_change_bind, throwsInto_pass_bind, rest,
        rewritten.restored_iff, logged]
      constructor
      · rintro ⟨unmoved, snapshot⟩
        refine ⟨fun _ => unmoved, fun clear => ?_⟩
        obtain ⟨unlogged, safe⟩ := snapshot (clear rfl)
        refine ⟨?_, safe⟩
        by_contra fault
        exact lost (unlogged fault)
      · rintro ⟨unmoved, snapshot⟩
        refine ⟨unmoved rfl, fun clear => ?_⟩
        obtain ⟨passed, safe⟩ := snapshot fun _ => clear
        exact ⟨fun fault => absurd passed fault, safe⟩

/-- What follows the write of the manifest is harmless when the parts of it
are. -/
theorem throwsInto_replaceWorkspace
    (documented : DocumentedWorkspace environment)
    (rewritten : Rewritten environment before bytes volume) :
    ThrowsInto (WorkspaceRestored before)
        (replaceWorkspace environment (before.file manifestPath).isSome)
        volume ↔
      (before.file manifestPath = some bytes ∨
          WorkspaceMoved environment before) ∧
        (WorkspaceMoved environment before →
          SnapshotLogged environment before) ∧
        ∀ applied, WorkspaceMoved environment before →
          SnapshotLogged environment before →
            AppliedWith environment (maximumAttempts - 1) applied →
              environment.faults .applied = none ∨
                before.directory workspaceDirectory = applied ∧
                  before.file manifestPath = some bytes := by
  rw [replaceWorkspace, throwsInto_pass_bind,
    throwsInto_existsDirectory_bind, rewritten.workspace,
    throwsInto_snapshotWorkspace documented rewritten,
    rewritten.restored_iff]
  constructor
  · rintro ⟨unverified, verified⟩
    refine ⟨?_, ?_, ?_⟩
    · by_contra neither
      rw [not_or] at neither
      obtain ⟨different, unmoved⟩ := neither
      apply unmoved
      have first := not_imp_comm.mp unverified different
      obtain ⟨absent, present⟩ := verified first
      have second := not_imp_comm.mp absent different
      refine ⟨first, second, fun had => ?_⟩
      exact not_imp_comm.mp ((present second).1 had) different
    · intro moved
      exact ((verified moved.verified).2 moved.workspaceExists).2
        moved.moved |>.1
    · intro applied moved logged
      exact (((verified moved.verified).2 moved.workspaceExists).2
        moved.moved).2 logged applied
  · rintro ⟨settled, logged, safe⟩
    have unmoved : ∀ point : Prop,
        (WorkspaceMoved environment before → point) → ¬ point →
          before.file manifestPath = some bytes := by
      intro point implied missing
      exact settled.resolve_right fun moved => missing (implied moved)
    refine ⟨unmoved _ WorkspaceMoved.verified, fun first => ?_⟩
    refine ⟨unmoved _ WorkspaceMoved.workspaceExists, fun second => ?_⟩
    refine ⟨fun had => unmoved _ fun moved => moved.moved had,
      fun third => ?_⟩
    have moved : WorkspaceMoved environment before :=
      ⟨first, second, third⟩
    exact ⟨logged moved, fun snapshot applied => safe applied moved snapshot⟩

end Replacement

section Application

variable {environment : WorkspaceEnvironment Content}
variable {start volume : Volume Content} {bytes : Content}

/-- The volume when the manifest is copied to its backup. -/
def afterCopy (environment : WorkspaceEnvironment Content)
    (start : Volume Content) : Volume Content :=
  let installed := environment.install.change start
  if (start.file manifestPath).isSome then
    installed.setFile (manifestBackup environment)
      (installed.file manifestPath)
  else
    installed

theorem manifestBackup_ne (environment : WorkspaceEnvironment Content) :
    manifestPath ≠ manifestBackup environment :=
  backupPath_ne _ _

theorem restored_setFile
    (restored : WorkspaceRestored start volume) (content : Option Content) :
    WorkspaceRestored start
      (volume.setFile (manifestBackup environment) content) := by
  refine ⟨restored.workspace, ?_⟩
  rw [file_setFile_of_ne (manifestBackup_ne environment)]
  exact restored.manifest

theorem afterCopy_restored (documented : DocumentedWorkspace environment) :
    WorkspaceRestored start (afterCopy environment start) := by
  unfold afterCopy
  have installed := documented.installed start
  split
  · exact restored_setFile installed _
  · exact installed

theorem afterCopy_rewritten (documented : DocumentedWorkspace environment)
    (bytes : Content) :
    Rewritten environment start bytes
      ((afterCopy environment start).setFile manifestPath (some bytes)) := by
  refine ⟨file_setFile_self _ _ _, ?_, ?_⟩
  · intro had
    rw [file_setFile_of_ne (manifestBackup_ne environment).symm, afterCopy, if_pos had,
      file_setFile_self]
    exact (documented.installed start).manifest
  · exact (afterCopy_restored documented).workspace

theorem snapshotManifest_run
    (documented : DocumentedWorkspace environment) :
    ThrowsInto (WorkspaceRestored start)
        (snapshotManifest environment (start.file manifestPath).isSome)
        (environment.install.change start) ∧
      ∀ {value : Unit} {reached : Volume Content},
        snapshotManifest environment (start.file manifestPath).isSome
            (environment.install.change start) = (.ok value, reached) ↔
          ((start.file manifestPath).isSome →
            environment.faults .manifestCopy = none ∧
              environment.faults .manifestSnapshot = none) ∧
            afterCopy environment start = reached := by
  have installed := documented.installed start
  unfold afterCopy
  cases had : (start.file manifestPath).isSome with
  | false =>
      refine ⟨throwsInto_pure _, fun {value reached} => ?_⟩
      constructor
      · intro run
        cases run
        exact ⟨fun absurdity => Bool.noConfusion absurdity, rfl⟩
      · rintro ⟨-, rfl⟩
        rfl
  | true =>
      rw [if_pos rfl, snapshotManifest, if_pos rfl, copyFile]
      constructor
      · rw [throwsInto_change_bind, throwsInto_pass]
        exact ⟨fun _ => installed, fun _ _ => restored_setFile installed _⟩
      · intro value reached
        rw [update_bind_eq_ok, pass_eq_ok, ← and_assoc]
        exact and_congr_left' ⟨fun clear _ => clear, fun clear => clear rfl⟩

theorem throwsInto_applyWorkspace
    (documented : DocumentedWorkspace environment) :
    ThrowsInto (WorkspaceRestored start) (applyWorkspace environment) start ↔
      ∀ bytes, ManifestWritten environment start bytes →
        ThrowsInto (WorkspaceRestored start)
          (replaceWorkspace environment (start.file manifestPath).isSome)
          ((afterCopy environment start).setFile manifestPath
            (some bytes)) := by
  have installed := documented.installed start
  have copied := @afterCopy_restored _ environment start documented
  obtain ⟨copyThrows, copyEnds⟩ :=
    @snapshotManifest_run _ environment start documented
  have present : ((environment.install.change start).file
      manifestPath).isSome = (start.file manifestPath).isSome := by
    rw [installed.manifest]
  rw [applyWorkspace, throwsInto_bind]
  constructor
  · rintro ⟨-, rest⟩ bytes written
    have run := rest () _ (callService_ok.mpr ⟨written.installed, rfl⟩)
    have run := (throwsInto_pass_bind.mp run).2 written.downloading
    rw [throwsInto_bind] at run
    have run := run.2 bytes _ (by rw [lift_apply, written.fetched])
    have run := (throwsInto_existsFile_bind.mp run).2
      written.manifestExists
    rw [present, throwsInto_bind] at run
    have run := run.2 () _ (copyEnds.mpr ⟨written.snapshot, rfl⟩)
    rw [writeFileAtomic] at run
    exact (throwsInto_change_bind.mp run).2 written.written
  · intro safe
    refine ⟨throwsInto_callService.mpr fun _ => installed, fun _ _ call => ?_⟩
    obtain ⟨answer, rfl⟩ := callService_ok.mp call
    refine throwsInto_pass_bind.mpr ⟨fun _ => installed, fun downloading => ?_⟩
    refine throwsInto_bind.mpr
      ⟨throwsInto_lift.mpr fun _ _ => installed, fun bytes _ fetch => ?_⟩
    rw [lift_apply, Prod.mk.injEq] at fetch
    obtain ⟨fetched, rfl⟩ := fetch
    refine throwsInto_existsFile_bind.mpr
      ⟨fun _ => installed, fun manifestExists => ?_⟩
    rw [present]
    refine throwsInto_bind.mpr ⟨copyThrows, fun _ _ copy => ?_⟩
    obtain ⟨snapshot, rfl⟩ := copyEnds.mp copy
    rw [writeFileAtomic]
    refine throwsInto_change_bind.mpr ⟨fun _ => copied, fun write => ?_⟩
    exact safe bytes ⟨answer, downloading, fetched, manifestExists,
      snapshot, write⟩

/-- Applying the workspace leaves everything as before whenever it throws,
exactly when it is safe. -/
theorem applyWorkspace_restores_iff
    (documented : DocumentedWorkspace environment)
    (start : Volume Content) :
    ThrowsInto (WorkspaceRestored start) (applyWorkspace environment) start ↔
      WorkspaceSafe environment start := by
  rw [throwsInto_applyWorkspace documented]
  have each : ∀ bytes, _ ↔ _ := fun bytes =>
    throwsInto_replaceWorkspace documented
      (@afterCopy_rewritten _ environment start documented bytes)
  constructor
  · intro throws
    refine ⟨fun bytes written => ?_, fun bytes written => ?_,
      fun bytes applied written moved logged => ?_⟩
    · exact ((each bytes).mp (throws bytes written)).1
    · exact ((each bytes).mp (throws bytes written)).2.1
    · exact ((each bytes).mp (throws bytes written)).2.2 applied moved logged
  · intro safe bytes written
    refine (each bytes).mpr ⟨safe.moved bytes written,
      safe.logged bytes written, fun applied moved logged => ?_⟩
    exact safe.applied bytes applied written moved logged

end Application

end GravitPanel.Clients
