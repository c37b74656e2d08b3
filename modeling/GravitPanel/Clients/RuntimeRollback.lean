import GravitPanel.Clients.LauncherRuntime

/-!
# Rollback of the launcher runtime

Which failures of `ensureInstalled` leave the runtime module and the resources
directory as they were.
-/

namespace GravitPanel.Clients

open Program Volume RuntimeSwap

variable {Content : Type}

/-- The module and the resources are exactly as before; in particular neither
is left only under its backup name. -/
structure RuntimeRestored (before after : Volume Content) : Prop where
  module : after.file runtimeModulePath = before.file runtimeModulePath
  resources : after.directory runtimeDirectory =
    before.directory runtimeDirectory

/-- The module that the rollback leaves when it gets that far. -/
def restoredModule (swap : RuntimeSwap Content) : Option Content :=
  (swap.moduleBackupPath.bind swap.volume.file).or
    (if swap.moduleCreated then none
    else swap.volume.file runtimeModulePath)

def restoredResources (swap : RuntimeSwap Content) :
    Option (List (String × Content)) :=
  (swap.resourcesBackupPath.bind swap.volume.directory).or
    (if swap.resourcesCreated then none
    else swap.volume.directory runtimeDirectory)

/-- The backup of the resources is not there, so its move back throws. -/
def BackupMissing (swap : RuntimeSwap Content) : Prop :=
  ∃ backup, swap.resourcesBackupPath = some backup ∧
    swap.volume.directory backup = none

/-- The backup names are those of this run. -/
structure RuntimeNamed (environment : RuntimeEnvironment Content)
    (swap : RuntimeSwap Content) : Prop where
  module : ∀ backup, swap.moduleBackupPath = some backup →
    backup = moduleBackup environment
  resources : ∀ backup, swap.resourcesBackupPath = some backup →
    backup = resourcesBackup environment

section Rollback

variable {environment : RuntimeEnvironment Content}
variable {start : Volume Content} {swap : RuntimeSwap Content}

theorem moduleBackup_ne (environment : RuntimeEnvironment Content) :
    runtimeModulePath ≠ moduleBackup environment :=
  backupPath_ne _ _

theorem resourcesBackup_ne (environment : RuntimeEnvironment Content) :
    runtimeDirectory ≠ resourcesBackup environment :=
  backupPath_ne _ _

variable {source target : String}

theorem moveFile_of_file {bytes : Content}
    (present : swap.volume.file source = some bytes) :
    moveFile source target swap =
      (.ok (), (swap.setFile target (some bytes)).setFile source none) := by
  rw [moveFile, get_bind, present]
  rfl

theorem moveFile_of_none
    (absent : swap.volume.file source = none) :
    moveFile source target swap = (.error movePath, swap) := by
  rw [moveFile, get_bind, absent]
  rfl

theorem moveDirectory_of_directory
    {files : List (String × Content)}
    (present : swap.volume.directory source = some files) :
    RuntimeSwap.moveDirectory source target swap =
      (.ok (),
        (swap.setDirectory target (some files)).setDirectory source
          none) := by
  rw [RuntimeSwap.moveDirectory, get_bind, present]
  rfl

theorem moveDirectory_of_none
    (absent : swap.volume.directory source = none) :
    RuntimeSwap.moveDirectory source target swap =
      (.error movePath, swap) := by
  rw [RuntimeSwap.moveDirectory, get_bind, absent]
  rfl

theorem restoreModule_volume
    (named : RuntimeNamed environment swap) :
    (restoreModule swap).2.volume.file runtimeModulePath =
        restoredModule swap ∧
      (restoreModule swap).2.volume.directory =
        swap.volume.directory := by
  rw [restoreModule, bind_of_ok (update_apply _ _), get_bind]
  have kept : (removeCreatedModule swap).moduleBackupPath =
      swap.moduleBackupPath := by
    unfold removeCreatedModule
    split <;> rfl
  have directory : (removeCreatedModule swap).volume.directory =
      swap.volume.directory := by
    unfold removeCreatedModule
    split <;> rfl
  have module : (removeCreatedModule swap).volume.file runtimeModulePath =
      if swap.moduleCreated then none
      else swap.volume.file runtimeModulePath := by
    unfold removeCreatedModule
    split
    · exact file_setFile_self _ _ _
    · rfl
  rw [kept, restoredModule]
  cases path : swap.moduleBackupPath with
  | none => exact ⟨module, directory⟩
  | some backup =>
      have apart : backup ≠ runtimeModulePath := by
        rw [named.module backup path]
        exact (moduleBackup_ne environment).symm
      have backed : (removeCreatedModule swap).volume.file backup =
          swap.volume.file backup := by
        unfold removeCreatedModule
        split
        · exact file_setFile_of_ne apart _ _
        · rfl
      rw [Option.bind_some]
      cases content : swap.volume.file backup with
      | none =>
          rw [moveModuleBack, moveFile_of_none (backed.trans content)]
          exact ⟨module, directory⟩
      | some bytes =>
          rw [moveModuleBack, moveFile_of_file (backed.trans content)]
          refine ⟨?_, directory⟩
          exact (file_setFile_of_ne apart.symm _ _).trans
            (file_setFile_self _ _ _)

theorem removeCreatedResources_directory :
    (removeCreatedResources swap).volume.directory runtimeDirectory =
      if swap.resourcesCreated then none
      else swap.volume.directory runtimeDirectory := by
  unfold removeCreatedResources
  split
  · exact directory_setDirectory_self _ _ _
  · rfl

structure SameModule (swap other : RuntimeSwap Content) : Prop where
  file : other.volume.file = swap.volume.file
  created : other.moduleCreated = swap.moduleCreated
  backupPath : other.moduleBackupPath = swap.moduleBackupPath
  resourcesBackupPath :
    other.resourcesBackupPath = swap.resourcesBackupPath

theorem removeCreatedResources_same :
    SameModule swap (removeCreatedResources swap) := by
  unfold removeCreatedResources
  split <;> exact ⟨rfl, rfl, rfl, rfl⟩

theorem restoreResources_run (named : RuntimeNamed environment swap) :
    (restoreResources swap).2.volume.directory runtimeDirectory =
        restoredResources swap ∧
      SameModule swap (restoreResources swap).2 ∧
        (BackupMissing swap ↔
          (restoreResources swap).1 = .error movePath) ∧
          (¬ BackupMissing swap ↔ (restoreResources swap).1 = .ok ()) := by
  rw [restoreResources, bind_of_ok (update_apply _ _), get_bind]
  have kept : (removeCreatedResources swap).resourcesBackupPath =
      swap.resourcesBackupPath := by
    unfold removeCreatedResources
    split <;> rfl
  have same := @removeCreatedResources_same _ swap
  have removed := @removeCreatedResources_directory _ swap
  unfold BackupMissing
  rw [kept, restoredResources]
  cases path : swap.resourcesBackupPath with
  | none => exact ⟨removed, same, by simp [moveResourcesBack]⟩
  | some backup =>
      have apart : backup ≠ runtimeDirectory := by
        rw [named.resources backup path]
        exact (resourcesBackup_ne environment).symm
      have backed : (removeCreatedResources swap).volume.directory backup =
          swap.volume.directory backup := by
        unfold removeCreatedResources
        split
        · exact directory_setDirectory_of_ne apart _ _
        · rfl
      rw [Option.bind_some]
      cases content : swap.volume.directory backup with
      | none =>
          rw [moveResourcesBack, moveDirectory_of_none (backed.trans content)]
          exact ⟨removed, same, by simp [content]⟩
      | some files =>
          rw [moveResourcesBack, moveDirectory_of_directory (backed.trans content)]
          refine ⟨?_, ⟨same.file, same.created, same.backupPath,
            same.resourcesBackupPath⟩, by simp [content]⟩
          exact (directory_setDirectory_of_ne apart.symm _ _).trans
            (directory_setDirectory_self _ _ _)

theorem SameModule.restoredModule {other : RuntimeSwap Content}
    (same : SameModule swap other) :
    restoredModule other = restoredModule swap := by
  unfold Clients.restoredModule
  rw [same.file, same.created, same.backupPath]

theorem rollBackRuntime_restores_iff
    (named : RuntimeNamed environment swap) :
    RuntimeRestored start (rollBackRuntime swap).2.volume ↔
      restoredResources swap = start.directory runtimeDirectory ∧
        (BackupMissing swap →
          swap.volume.file runtimeModulePath =
            start.file runtimeModulePath) ∧
          (¬ BackupMissing swap →
            restoredModule swap = start.file runtimeModulePath) := by
  obtain ⟨resources, same, missing, present⟩ := restoreResources_run named
  rw [rollBackRuntime]
  by_cases lost : BackupMissing swap
  · rw [bind_of_error (Prod.ext (missing.mp lost) rfl)]
    constructor
    · intro restored
      refine ⟨resources.symm.trans restored.resources, fun _ => ?_,
        fun present => absurd lost present⟩
      rw [← same.file]
      exact restored.module
    · rintro ⟨directory, module, -⟩
      exact ⟨(congrFun same.file _).trans (module lost),
        resources.trans directory⟩
  · have moduleNamed : RuntimeNamed environment (restoreResources swap).2 :=
      ⟨fun backup path => named.module backup
          (same.backupPath.symm.trans path),
        fun backup path => named.resources backup
          (same.resourcesBackupPath.symm.trans path)⟩
    obtain ⟨module, directory⟩ := restoreModule_volume moduleNamed
    rw [bind_of_ok (Prod.ext (present.mp lost) rfl)]
    constructor
    · intro restored
      refine ⟨?_, fun missing => absurd missing lost, fun _ => ?_⟩
      · rw [← resources, ← directory]
        exact restored.resources
      · rw [← same.restoredModule, ← module]
        exact restored.module
    · rintro ⟨resourcesSame, -, moduleSame⟩
      constructor
      · rw [module, same.restoredModule]
        exact moduleSame lost
      · rw [directory, resources]
        exact resourcesSame

end Rollback

def resourcesComplete (volume : Volume Content) : Bool :=
  (volume.directory runtimeDirectory).isSome &&
    runtimeSentinels.all (sentinelPresent volume)

/-- The steps before the first change succeed. -/
structure RuntimeInspected (environment : RuntimeEnvironment Content)
    (start : Volume Content) (artifact : Content) : Prop where
  checking : environment.faults .checking = none
  provided : environment.artifact = .ok artifact
  inspected : ∀ path ∈ inspectedPaths,
    environment.faults (.inspect path) = none
  hashed : (start.file runtimeModulePath).isSome →
    environment.faults .moduleDigest = none
  listed : ∃ lines, environment.modulesList = .ok lines ∧
    (∀ index < lines.length, environment.faults (.listed index) = none) ∧
      demandRestart environment
        (isModuleCurrent environment artifact start)
        (isRuntimeLoaded lines) = .ok ()

/-- The steps from there to the move of the module succeed, or it is not
reached. -/
structure ModuleReplaced (environment : RuntimeEnvironment Content)
    (start : Volume Content) : Prop where
  installing : environment.faults .moduleInstalling = none
  snapshot : (start.file runtimeModulePath).isSome →
    environment.faults .moduleMove = none ∧
      environment.faults .moduleSnapshot = none
  written : environment.faults .moduleWrite = none
  verified : environment.faults .moduleVerified = none

/-- A move to a backup name fails only where the rollback finds under that
name what it has to restore, or nothing while nothing else was replaced. -/
structure RuntimeSafe (environment : RuntimeEnvironment Content)
    (start : Volume Content) : Prop where
  moduleMoved : ∀ artifact, RuntimeInspected environment start artifact →
    isModuleCurrent environment artifact start = false →
      environment.faults .moduleInstalling = none →
        environment.faults .moduleMove ≠ none →
          (start.file runtimeModulePath).isSome →
            start.file (moduleBackup environment) = none ∨
              start.file (moduleBackup environment) =
                start.file runtimeModulePath
  resourcesMoved : ∀ artifact, RuntimeInspected environment start artifact →
    resourcesComplete start = false →
      (isModuleCurrent environment artifact start = true ∨
        ModuleReplaced environment start) →
          environment.faults .resourcesMove ≠ none →
            (start.directory runtimeDirectory).isSome →
              start.directory (resourcesBackup environment) = none ∧
                  isModuleCurrent environment artifact start = true ∨
                start.directory (resourcesBackup environment) =
                  start.directory runtimeDirectory

/-- The rollback from here leaves both as at the start. -/
def Recoverable (start : Volume Content) (swap : RuntimeSwap Content) :
    Prop :=
  RuntimeRestored start (rollBackRuntime swap).2.volume

/-- The module comes back when the rollback gets to it. -/
structure ModuleSettled (environment : RuntimeEnvironment Content)
    (start : Volume Content) (swap : RuntimeSwap Content) : Prop where
  named : RuntimeNamed environment swap
  restored : restoredModule swap = start.file runtimeModulePath

/-- Both come back. -/
structure RuntimeSettled (environment : RuntimeEnvironment Content)
    (start : Volume Content) (swap : RuntimeSwap Content) : Prop extends
    ModuleSettled environment start swap where
  resources : restoredResources swap = start.directory runtimeDirectory
  present : ¬ BackupMissing swap

section Replacements

variable {environment : RuntimeEnvironment Content}
variable {start : Volume Content} {swap : RuntimeSwap Content}
variable {artifact : Content}

theorem RuntimeSettled.recoverable
    (settled : RuntimeSettled environment start swap) :
    Recoverable start swap :=
  (rollBackRuntime_restores_iff settled.named).mpr
    ⟨settled.resources, fun missing => absurd missing settled.present,
      fun _ => settled.restored⟩

theorem settled_before :
    RuntimeSettled environment start (.before start) where
  named := by
    constructor
    · intro backup path
      cases path
    · intro backup path
      cases path
  restored := rfl
  resources := rfl
  present := by
    rintro ⟨backup, path, -⟩
    cases path

theorem moduleBackup_ne_archive
    (environment : RuntimeEnvironment Content) :
    moduleBackup environment ≠ runtimeArchivePath := by
  intro same
  have heads := congrArg (fun path => path.toList.head?) same
  simp [moduleBackup, backupPath, runtimeModulePath,
    runtimeArchivePath] at heads

theorem runtimeModulePath_ne_archive :
    runtimeModulePath ≠ runtimeArchivePath := by
  decide

theorem restoredModule_setArchive
    (named : RuntimeNamed environment swap) (bytes : Option Content) :
    restoredModule (swap.setFile runtimeArchivePath bytes) =
      restoredModule swap := by
  have module : (swap.setFile runtimeArchivePath bytes).volume.file
      runtimeModulePath = swap.volume.file runtimeModulePath :=
    file_setFile_of_ne runtimeModulePath_ne_archive _ _
  have backup : swap.moduleBackupPath.bind
      (swap.setFile runtimeArchivePath bytes).volume.file =
        swap.moduleBackupPath.bind swap.volume.file := by
    cases path : swap.moduleBackupPath with
    | none => rfl
    | some backup =>
        rw [named.module backup path]
        exact file_setFile_of_ne (moduleBackup_ne_archive environment) _ _
  unfold restoredModule
  rw [module]
  exact congrArg (Option.or · _) backup

theorem RuntimeSettled.setArchive
    (settled : RuntimeSettled environment start swap)
    (bytes : Option Content) :
    RuntimeSettled environment start
      (swap.setFile runtimeArchivePath bytes) where
  named := ⟨settled.named.module, settled.named.resources⟩
  restored :=
    (restoredModule_setArchive settled.named bytes).trans settled.restored
  resources := settled.resources
  present := settled.present

theorem RuntimeSettled.extracted
    (settled : RuntimeSettled environment start swap)
    (free : swap.volume.directory runtimeDirectory = none)
    (files : List (String × Content)) :
    RuntimeSettled environment start
      { swap.setDirectory runtimeDirectory (some files) with
        resourcesCreated := true } := by
  have backed : swap.resourcesBackupPath.bind
      (swap.volume.setDirectory runtimeDirectory (some files)).directory =
        swap.resourcesBackupPath.bind swap.volume.directory := by
    cases path : swap.resourcesBackupPath with
    | none => rfl
    | some backup =>
        rw [settled.named.resources backup path]
        exact directory_setDirectory_of_ne
          (resourcesBackup_ne environment).symm _ _
  refine { named := ⟨settled.named.module, settled.named.resources⟩,
           restored := settled.restored, resources := ?_, present := ?_ }
  · have before := settled.resources
    rw [restoredResources, free, ite_self] at before
    exact (congrArg (Option.or · none) backed).trans before
  · rintro ⟨backup, path, missing⟩
    refine settled.present ⟨backup, path, ?_⟩
    rw [← missing, settled.named.resources backup path]
    exact (directory_setDirectory_of_ne
      (resourcesBackup_ne environment).symm _ _).symm

theorem throwsInto_extractZipToNewDirectory
    (settled : RuntimeSettled environment start swap) (archive : Content) :
    ThrowsInto (Recoverable start)
      (extractZipToNewDirectory environment archive >>= fun _ =>
        update (fun swap => { swap with resourcesCreated := true }) >>=
          fun _ => reach environment.faults .resourcesInstalled) swap := by
  have recoverable := settled.recoverable
  rw [extractZipToNewDirectory, bind_bind, throwsInto_get_bind]
  split
  · exact throwsInto_bind.mpr
      ⟨throwsInto_throw.mpr recoverable, fun _ _ run => by cases run⟩
  · rename_i taken
    have free : swap.volume.directory runtimeDirectory = none := by
      cases directory : swap.volume.directory runtimeDirectory with
      | none => rfl
      | some files => exact absurd (by simp [directory]) taken
    rw [bind_bind, throwsInto_lift_bind]
    refine ⟨fun _ _ => recoverable, fun files _ => ?_⟩
    refine throwsInto_perform_bind.mpr ⟨fun _ => recoverable, fun _ => ?_⟩
    refine throwsInto_update_bind.mpr (throwsInto_reach.mpr fun _ => ?_)
    exact (settled.extracted free files).recoverable

theorem throwsInto_installResources
    (settled : RuntimeSettled environment start swap) :
    ThrowsInto (Recoverable start) (installResources environment) swap := by
  have recoverable := settled.recoverable
  unfold installResources
  refine throwsInto_reach_bind.mpr ⟨fun _ => recoverable, fun _ => ?_⟩
  refine throwsInto_lift_bind.mpr
    ⟨fun _ _ => recoverable, fun archive _ => ?_⟩
  have written := settled.setArchive (some archive)
  refine throwsInto_perform_bind.mpr ⟨fun _ => recoverable, fun _ => ?_⟩
  refine throwsInto_reach_bind.mpr
    ⟨fun _ => written.recoverable, fun _ => ?_⟩
  exact throwsInto_extractZipToNewDirectory written archive

def resourcesMoved (environment : RuntimeEnvironment Content)
    (swap : RuntimeSwap Content) (files : List (String × Content)) :
    RuntimeSwap Content :=
  (({ swap with
      resourcesBackupPath := some (resourcesBackup environment) }
    ).setDirectory (resourcesBackup environment) (some files)).setDirectory
      runtimeDirectory none

theorem resourcesMoved_backup (files : List (String × Content)) :
    (resourcesMoved environment swap files).volume.directory
      (resourcesBackup environment) = some files := by
  have apart := (resourcesBackup_ne environment).symm
  exact (directory_setDirectory_of_ne apart _ _).trans
    (directory_setDirectory_self _ _ _)

theorem ModuleSettled.resourcesMoved
    (settled : ModuleSettled environment start swap)
    {files : List (String × Content)}
    (present : start.directory runtimeDirectory = some files) :
    RuntimeSettled environment start
      (Clients.resourcesMoved environment swap files) where
  named := ⟨settled.named.module, fun _ path => (Option.some.inj path).symm⟩
  restored := settled.restored
  resources := by
    have backed := @resourcesMoved_backup _ environment swap files
    rw [restoredResources, present]
    exact congrArg (Option.or · _) backed
  present := by
    rintro ⟨backup, path, missing⟩
    cases path
    rw [resourcesMoved_backup] at missing
    cases missing

/-- Whether a failed move of the resources is harmless depends on what is under
the backup name and on whether the module was replaced. -/
theorem recoverable_resourcesMove
    (settled : ModuleSettled environment start swap)
    (untouched : swap.volume.directory = start.directory)
    (fresh : swap.resourcesCreated = false)
    (present : (start.directory runtimeDirectory).isSome) :
    Recoverable start
        { swap with
          resourcesBackupPath := some (resourcesBackup environment) } ↔
      start.directory (resourcesBackup environment) = none ∧
          swap.volume.file runtimeModulePath =
            start.file runtimeModulePath ∨
        start.directory (resourcesBackup environment) =
          start.directory runtimeDirectory := by
  have named : RuntimeNamed environment
      { swap with
        resourcesBackupPath := some (resourcesBackup environment) } :=
    ⟨settled.named.module, fun _ path => (Option.some.inj path).symm⟩
  have missing : BackupMissing
      { swap with
        resourcesBackupPath := some (resourcesBackup environment) } ↔
        start.directory (resourcesBackup environment) = none := by
    rw [← untouched]
    constructor
    · rintro ⟨backup, path, absent⟩
      cases path
      exact absent
    · intro absent
      exact ⟨_, rfl, absent⟩
  rw [Recoverable, rollBackRuntime_restores_iff named, missing,
    restoredResources, fresh, untouched]
  obtain ⟨old, directory⟩ := Option.isSome_iff_exists.mp present
  rw [directory]
  cases backed : start.directory (resourcesBackup environment) with
  | none => simp [backed]
  | some files =>
      simp only [Option.bind_some, Option.some_or, backed,
        reduceCtorEq, false_implies, not_false_eq_true, true_implies,
        true_and, false_and, false_or, and_iff_left_iff_imp]
      exact fun _ => settled.restored

theorem ModuleSettled.unmoved
    (settled : ModuleSettled environment start swap)
    (untouched : swap.volume.directory = start.directory)
    (fresh : swap.resourcesCreated = false)
    (unset : swap.resourcesBackupPath = none) :
    RuntimeSettled environment start swap where
  toModuleSettled := settled
  resources := by
    rw [restoredResources, unset, fresh, untouched]
    rfl
  present := by
    rintro ⟨backup, path, -⟩
    rw [unset] at path
    cases path

theorem throwsInto_snapshotResources
    (settled : ModuleSettled environment start swap)
    (untouched : swap.volume.directory = start.directory)
    (fresh : swap.resourcesCreated = false)
    (present : (start.directory runtimeDirectory).isSome) :
    ThrowsInto (Recoverable start)
        (snapshotResources environment true >>= fun _ =>
          installResources environment) swap ↔
      (environment.faults .resourcesMove ≠ none →
        start.directory (resourcesBackup environment) = none ∧
            swap.volume.file runtimeModulePath =
              start.file runtimeModulePath ∨
          start.directory (resourcesBackup environment) =
            start.directory runtimeDirectory) := by
  obtain ⟨files, directory⟩ := Option.isSome_iff_exists.mp present
  have moved := settled.resourcesMoved directory
  have run : RuntimeSwap.moveDirectory runtimeDirectory
      (resourcesBackup environment)
      { swap with
        resourcesBackupPath := some (resourcesBackup environment) } =
      (.ok (), resourcesMoved environment swap files) :=
    moveDirectory_of_directory
      ((congrFun untouched _).trans directory)
  rw [snapshotResources, if_pos rfl, bind_bind, throwsInto_update_bind,
    bind_bind, throwsInto_reach_bind,
    recoverable_resourcesMove settled untouched fresh present, bind_bind,
    throwsInto_bind_of_ok run]
  refine and_iff_left fun _ => ?_
  refine throwsInto_reach_bind.mpr ⟨fun _ => moved.recoverable, fun _ => ?_⟩
  exact throwsInto_installResources moved

theorem throwsInto_replaceResources
    (settled : ModuleSettled environment start swap)
    (untouched : swap.volume.directory = start.directory)
    (fresh : swap.resourcesCreated = false)
    (unset : swap.resourcesBackupPath = none) :
    ThrowsInto (Recoverable start)
        (replaceResources environment
          (runtimeFound environment artifact start)) swap ↔
      (resourcesComplete start = false →
        environment.faults .resourcesMove ≠ none →
          (start.directory runtimeDirectory).isSome →
            start.directory (resourcesBackup environment) = none ∧
                swap.volume.file runtimeModulePath =
                  start.file runtimeModulePath ∨
              start.directory (resourcesBackup environment) =
                start.directory runtimeDirectory) := by
  have complete : (runtimeFound environment artifact start).resourcesExist =
      resourcesComplete start := rfl
  have found : (runtimeFound environment artifact start).directoryExists =
      (start.directory runtimeDirectory).isSome := rfl
  rw [replaceResources, complete, found]
  cases resourcesComplete start with
  | true =>
      rw [if_pos rfl]
      exact iff_of_true (throwsInto_pure _)
        (fun absurdity => by cases absurdity)
  | false =>
      rw [if_neg Bool.false_ne_true]
      cases present : (start.directory runtimeDirectory).isSome with
      | false =>
          have rest := throwsInto_installResources
            (settled.unmoved untouched fresh unset)
          exact iff_of_true rest fun _ _ absurdity => by cases absurdity
      | true =>
          rw [throwsInto_snapshotResources settled untouched fresh present]
          exact ⟨fun safe _ fault _ => safe fault,
            fun safe fault => safe rfl fault rfl⟩

/-! ## The module -/

def moduleMoved (environment : RuntimeEnvironment Content)
    (start : Volume Content) (bytes : Content) : RuntimeSwap Content :=
  (({ RuntimeSwap.before start with
      moduleBackupPath := some (moduleBackup environment) }
    ).setFile (moduleBackup environment) (some bytes)).setFile
      runtimeModulePath none

/-- The state when the new module is about to be written. -/
def moduleAside (environment : RuntimeEnvironment Content)
    (start : Volume Content) : RuntimeSwap Content :=
  match start.file runtimeModulePath with
  | none => .before start
  | some bytes => moduleMoved environment start bytes

/-- The state after the module phase. -/
def moduleReplaced (environment : RuntimeEnvironment Content)
    (start : Volume Content) (artifact : Content) : RuntimeSwap Content :=
  if isModuleCurrent environment artifact start then
    .before start
  else
    { (moduleAside environment start).setFile runtimeModulePath
        (some artifact) with
      moduleCreated := true }

theorem moduleMoved_backup (bytes : Content) :
    (moduleMoved environment start bytes).volume.file
      (moduleBackup environment) = some bytes := by
  have apart := (moduleBackup_ne environment).symm
  exact (file_setFile_of_ne apart _ _).trans (file_setFile_self _ _ _)

theorem moduleMoved_settled {bytes : Content}
    (present : start.file runtimeModulePath = some bytes) :
    RuntimeSettled environment start
      (moduleMoved environment start bytes) where
  named := by
    constructor
    · exact fun _ path => (Option.some.inj path).symm
    · intro backup path
      cases path
  restored := by
    have backed := @moduleMoved_backup _ environment start bytes
    rw [restoredModule, present]
    exact congrArg (Option.or · _) backed
  resources := rfl
  present := by
    rintro ⟨backup, path, -⟩
    cases path

theorem moduleAside_settled :
    RuntimeSettled environment start (moduleAside environment start) := by
  unfold moduleAside
  cases present : start.file runtimeModulePath with
  | none => exact settled_before
  | some bytes => exact moduleMoved_settled present

theorem moduleAside_written (artifact : Content) :
    RuntimeSettled environment start
      { (moduleAside environment start).setFile runtimeModulePath
          (some artifact) with
        moduleCreated := true } := by
  have settled := @moduleAside_settled _ environment start
  refine { named := ⟨settled.named.module, settled.named.resources⟩,
           restored := ?_, resources := settled.resources,
           present := settled.present }
  unfold moduleAside
  cases present : start.file runtimeModulePath with
  | none => rfl
  | some bytes =>
      have backed := @moduleMoved_backup _ environment start bytes
      have apart := (moduleBackup_ne environment).symm
      exact congrArg (Option.or · none)
        ((file_setFile_of_ne apart _ _).trans backed)

theorem moduleAside_fresh :
    (moduleAside environment start).volume.directory = start.directory ∧
      (moduleAside environment start).resourcesCreated = false ∧
        (moduleAside environment start).resourcesBackupPath = none := by
  unfold moduleAside
  cases start.file runtimeModulePath <;> exact ⟨rfl, rfl, rfl⟩

theorem recoverable_moduleMove :
    Recoverable start
        { RuntimeSwap.before start with
          moduleBackupPath := some (moduleBackup environment) } ↔
      start.file (moduleBackup environment) = none ∨
        start.file (moduleBackup environment) =
          start.file runtimeModulePath := by
  have named : RuntimeNamed environment
      { RuntimeSwap.before start with
        moduleBackupPath := some (moduleBackup environment) } := by
    constructor
    · exact fun _ path => (Option.some.inj path).symm
    · intro backup path
      cases path
  have missing : ¬ BackupMissing
      { RuntimeSwap.before start with
        moduleBackupPath := some (moduleBackup environment) } := by
    rintro ⟨backup, path, -⟩
    cases path
  have module : restoredModule
      { RuntimeSwap.before start with
        moduleBackupPath := some (moduleBackup environment) } =
      (start.file (moduleBackup environment)).or
        (start.file runtimeModulePath) := rfl
  rw [Recoverable, rollBackRuntime_restores_iff named, module]
  cases backed : start.file (moduleBackup environment) with
  | none => exact iff_of_true ⟨rfl, fun lost => absurd lost missing,
      fun _ => rfl⟩ (.inl rfl)
  | some bytes =>
      rw [Option.some_or]
      constructor
      · exact fun restored => .inr (restored.2.2 missing)
      · rintro (absurdity | same)
        · cases absurdity
        · exact ⟨rfl, fun lost => absurd lost missing, fun _ => same⟩

theorem snapshotModule_run :
    (ThrowsInto (Recoverable start)
        (snapshotModule environment (start.file runtimeModulePath).isSome)
        (.before start) ↔
      (environment.faults .moduleMove ≠ none →
        (start.file runtimeModulePath).isSome →
          start.file (moduleBackup environment) = none ∨
            start.file (moduleBackup environment) =
              start.file runtimeModulePath)) ∧
      ∀ {value : Unit} {reached : RuntimeSwap Content},
        snapshotModule environment (start.file runtimeModulePath).isSome
            (.before start) = (.ok value, reached) ↔
          ((start.file runtimeModulePath).isSome →
            environment.faults .moduleMove = none ∧
              environment.faults .moduleSnapshot = none) ∧
            moduleAside environment start = reached := by
  rw [moduleAside]
  cases file : start.file runtimeModulePath with
  | none =>
      constructor
      · exact iff_of_true (throwsInto_pure _)
          fun _ absurdity => by cases absurdity
      · intro value reached
        constructor
        · intro run
          cases run
          exact ⟨(fun absurdity => by cases absurdity), rfl⟩
        · rintro ⟨-, rfl⟩
          rfl
  | some bytes =>
      have run : moveFile runtimeModulePath (moduleBackup environment)
          { RuntimeSwap.before start with
            moduleBackupPath := some (moduleBackup environment) } =
          (.ok (), moduleMoved environment start bytes) :=
        moveFile_of_file file
      rw [Option.isSome_some, snapshotModule, if_pos rfl]
      constructor
      · rw [throwsInto_update_bind, throwsInto_reach_bind,
          recoverable_moduleMove, throwsInto_bind_of_ok run, file]
        have moved :=
          (@moduleMoved_settled _ environment start _ file).recoverable
        constructor
        · exact fun throws fault _ => throws.1 fault
        · exact fun safe => ⟨fun fault => safe fault rfl,
            fun _ => throwsInto_reach.mpr fun _ => moved⟩
      · intro value reached
        rw [bind_of_ok (update_apply _ _), reach_bind_eq_ok,
          bind_of_ok run, reach_eq_ok, ← and_assoc]
        exact and_congr_left' ⟨fun clear _ => clear, fun clear => clear rfl⟩

theorem throwsInto_replaceModule :
    ThrowsInto (Recoverable start)
        (replaceModule environment (runtimeFound environment artifact start))
        (.before start) ↔
      (isModuleCurrent environment artifact start = false →
        environment.faults .moduleInstalling = none →
          environment.faults .moduleMove ≠ none →
            (start.file runtimeModulePath).isSome →
              start.file (moduleBackup environment) = none ∨
                start.file (moduleBackup environment) =
                  start.file runtimeModulePath) := by
  have before := (@settled_before _ environment start).recoverable
  have aside := (@moduleAside_settled _ environment start).recoverable
  have written :=
    (@moduleAside_written _ environment start artifact).recoverable
  have current : (runtimeFound environment artifact start).moduleCurrent =
      isModuleCurrent environment artifact start := rfl
  have found : (runtimeFound environment artifact start).moduleExists =
      (start.file runtimeModulePath).isSome := rfl
  rw [replaceModule, current, found]
  cases isModuleCurrent environment artifact start with
  | true =>
      rw [if_pos rfl]
      exact iff_of_true (throwsInto_pure _)
        fun absurdity => by cases absurdity
  | false =>
      rw [if_neg Bool.false_ne_true, throwsInto_reach_bind, throwsInto_bind,
        snapshotModule_run.1]
      constructor
      · exact fun throws _ clear => (throws.2 clear).1
      · intro safe
        refine ⟨fun _ => before, fun clear =>
          ⟨safe rfl clear, fun value reached run => ?_⟩⟩
        obtain ⟨-, rfl⟩ := snapshotModule_run.2.mp run
        refine throwsInto_perform_bind.mpr ⟨fun _ => aside, fun _ => ?_⟩
        refine throwsInto_update_bind.mpr (throwsInto_reach.mpr fun _ => ?_)
        exact written

theorem replaceModule_ok {value : Unit} {reached : RuntimeSwap Content} :
    replaceModule environment (runtimeFound environment artifact start)
        (.before start) = (.ok value, reached) ↔
      (isModuleCurrent environment artifact start = true ∨
        ModuleReplaced environment start) ∧
        moduleReplaced environment start artifact = reached := by
  have current : (runtimeFound environment artifact start).moduleCurrent =
      isModuleCurrent environment artifact start := rfl
  have found : (runtimeFound environment artifact start).moduleExists =
      (start.file runtimeModulePath).isSome := rfl
  rw [replaceModule, moduleReplaced, current, found]
  cases isModuleCurrent environment artifact start with
  | true =>
      rw [if_pos rfl, if_pos rfl]
      constructor
      · intro run
        cases run
        exact ⟨.inl rfl, rfl⟩
      · rintro ⟨-, rfl⟩
        rfl
  | false =>
      rw [if_neg Bool.false_ne_true, if_neg Bool.false_ne_true,
        reach_bind_eq_ok, bind_eq_ok]
      constructor
      · rintro ⟨installing, _, _, snapshot, rest⟩
        obtain ⟨moved, rfl⟩ := snapshotModule_run.2.mp snapshot
        obtain ⟨written, rest⟩ := perform_bind_eq_ok.mp rest
        rw [bind_of_ok (update_apply _ _), reach_eq_ok] at rest
        exact ⟨.inr ⟨installing, moved, written, rest.1⟩, rest.2⟩
      · rintro ⟨absurdity | replaced, rfl⟩
        · cases absurdity
        · refine ⟨replaced.installing, (), _,
            snapshotModule_run.2.mpr ⟨replaced.snapshot, rfl⟩, ?_⟩
          rw [perform_bind_eq_ok, bind_of_ok (update_apply _ _),
            reach_eq_ok]
          exact ⟨replaced.written, replaced.verified, rfl⟩

theorem moduleReplaced_settled :
    ModuleSettled environment start
        (moduleReplaced environment start artifact) ∧
      (moduleReplaced environment start artifact).volume.directory =
          start.directory ∧
        (moduleReplaced environment start artifact).resourcesCreated =
            false ∧
          (moduleReplaced environment start artifact).resourcesBackupPath =
            none := by
  unfold moduleReplaced
  split
  · exact ⟨settled_before.toModuleSettled, rfl, rfl, rfl⟩
  · exact ⟨(moduleAside_written artifact).toModuleSettled,
      moduleAside_fresh.1, moduleAside_fresh.2.1, moduleAside_fresh.2.2⟩

/-- The module that is there afterwards is the old one only if that was
current. -/
theorem moduleReplaced_file :
    (moduleReplaced environment start artifact).volume.file
          runtimeModulePath = start.file runtimeModulePath ↔
      isModuleCurrent environment artifact start = true := by
  unfold moduleReplaced
  split
  · rename_i current
    exact iff_of_true rfl current
  · rename_i outdated
    refine iff_of_false (fun same => outdated ?_) outdated
    have written : start.file runtimeModulePath = some artifact :=
      same.symm.trans (file_setFile_self _ _ _)
    rw [isModuleCurrent, written]
    exact beq_self_eq_true _

theorem readOnly_hashModule (present : Bool) :
    ReadOnly (hashModule environment present) := by
  unfold hashModule
  split
  · exact readOnly_reach _
  · exact readOnly_pure _

theorem readOnly_inspectRuntime : ReadOnly (inspectRuntime environment) := by
  unfold inspectRuntime
  refine (readOnly_reach _).bind fun _ => ?_
  refine ReadOnly.lift_bind fun artifact => ?_
  refine (readOnly_reachAll _).bind fun _ => ?_
  refine readOnly_get.bind fun found => ?_
  refine (readOnly_hashModule _).bind fun _ => ?_
  refine ReadOnly.lift_bind fun lines => ?_
  refine (readOnly_reachAll _).bind fun _ => ?_
  exact ReadOnly.lift_bind fun _ => readOnly_pure _

theorem hashModule_bind_eq_ok {Result : Type} {present : Bool}
    {next : Unit → Program (RuntimeSwap Content) String Result}
    {result : Result} {final : RuntimeSwap Content} :
    (hashModule environment present >>= next) swap = (.ok result, final) ↔
      (present = true → environment.faults .moduleDigest = none) ∧
        next () swap = (.ok result, final) := by
  cases present with
  | false =>
      constructor
      · exact fun run => ⟨(fun absurdity => by cases absurdity), run⟩
      · exact And.right
  | true =>
      rw [hashModule, if_pos rfl, reach_bind_eq_ok]
      exact and_congr_left' ⟨fun clear _ => clear, fun clear => clear rfl⟩

theorem inspectRuntime_ok {found : RuntimeFound Content} :
    inspectRuntime environment (.before start) =
        (.ok found, .before start) ↔
      ∃ artifact, RuntimeInspected environment start artifact ∧
        runtimeFound environment artifact start = found := by
  rw [inspectRuntime, reach_bind_eq_ok, lift_bind_eq_ok]
  constructor
  · rintro ⟨checking, artifact, provided, run⟩
    rw [reachAll_bind_eq_ok, get_bind, hashModule_bind_eq_ok,
      lift_bind_eq_ok, List.forall_mem_map] at run
    obtain ⟨inspected, hashed, lines, listed, run⟩ := run
    rw [reachEach_bind_eq_ok, lift_bind_eq_ok] at run
    obtain ⟨logged, _, demanded, run⟩ := run
    rw [pure_apply, Prod.mk.injEq, Except.ok.injEq] at run
    exact ⟨artifact, ⟨checking, provided, inspected, hashed,
      lines, listed, logged, demanded⟩, run.1⟩
  · rintro ⟨artifact, steps, rfl⟩
    obtain ⟨lines, listed, logged, demanded⟩ := steps.listed
    refine ⟨steps.checking, artifact, steps.provided, ?_⟩
    rw [reachAll_bind_eq_ok, get_bind, hashModule_bind_eq_ok,
      lift_bind_eq_ok, List.forall_mem_map]
    refine ⟨steps.inspected, steps.hashed, lines, listed, ?_⟩
    rw [reachEach_bind_eq_ok, lift_bind_eq_ok]
    exact ⟨logged, (), demanded, rfl⟩

theorem restored_removeArchive :
    RuntimeRestored start
        (swap.setFile runtimeArchivePath none).volume ↔
      RuntimeRestored start swap.volume := by
  have module : (swap.setFile runtimeArchivePath none).volume.file
      runtimeModulePath = swap.volume.file runtimeModulePath :=
    file_setFile_of_ne runtimeModulePath_ne_archive _ _
  constructor
  · exact fun restored => ⟨module.symm.trans restored.module,
      restored.resources⟩
  · exact fun restored => ⟨module.trans restored.module,
      restored.resources⟩

theorem throwsInto_replacements :
    ThrowsInto (Recoverable start)
        (replaceModule environment
            (runtimeFound environment artifact start) >>= fun _ =>
          replaceResources environment
            (runtimeFound environment artifact start))
        (.before start) ↔
      (isModuleCurrent environment artifact start = false →
        environment.faults .moduleInstalling = none →
          environment.faults .moduleMove ≠ none →
            (start.file runtimeModulePath).isSome →
              start.file (moduleBackup environment) = none ∨
                start.file (moduleBackup environment) =
                  start.file runtimeModulePath) ∧
        ((isModuleCurrent environment artifact start = true ∨
            ModuleReplaced environment start) →
          resourcesComplete start = false →
            environment.faults .resourcesMove ≠ none →
              (start.directory runtimeDirectory).isSome →
                start.directory (resourcesBackup environment) = none ∧
                    isModuleCurrent environment artifact start = true ∨
                  start.directory (resourcesBackup environment) =
                    start.directory runtimeDirectory) := by
  obtain ⟨settled, untouched, fresh, unset⟩ :=
    @moduleReplaced_settled _ environment start artifact
  have rest := @throwsInto_replaceResources _ environment start _ artifact
    settled untouched fresh unset
  rw [moduleReplaced_file] at rest
  rw [throwsInto_bind, throwsInto_replaceModule]
  refine and_congr_right fun _ => ?_
  constructor
  · intro throws replaced
    exact rest.mp (throws () _ (replaceModule_ok.mpr ⟨replaced, rfl⟩))
  · intro safe value reached run
    obtain ⟨replaced, rfl⟩ := replaceModule_ok.mp run
    exact rest.mpr (safe replaced)

theorem throwsInto_replaceRuntime (found : RuntimeFound Content) :
    ThrowsInto (fun swap => RuntimeRestored start swap.volume)
        (replaceRuntime environment found) swap ↔
      ThrowsInto (Recoverable start)
        (replaceModule environment found >>= fun _ =>
          replaceResources environment found) swap := by
  rw [replaceRuntime, throwsInto_cleanUp]
  simp only [restored_removeArchive]
  exact throwsInto_recover

end Replacements

/-- Installing the runtime leaves module and resources as before whenever it
throws up to the extraction, exactly when it is safe. -/
theorem ensureInstalled_restores_iff
    (environment : RuntimeEnvironment Content) (start : Volume Content) :
    ThrowsInto (fun swap => RuntimeRestored start swap.volume)
        (ensureInstalled environment) (.before start) ↔
      RuntimeSafe environment start := by
  rw [ensureInstalled, readOnly_inspectRuntime.throwsInto_bind ⟨rfl, rfl⟩]
  constructor
  · intro throws
    have both : ∀ artifact, RuntimeInspected environment start artifact →
        _ := fun artifact inspected =>
      throwsInto_replacements.mp ((throwsInto_replaceRuntime _).mp
        (throws _ (inspectRuntime_ok.mpr ⟨artifact, inspected, rfl⟩)))
    constructor
    · exact fun artifact inspected => (both artifact inspected).1
    · exact fun artifact inspected incomplete replaced =>
        (both artifact inspected).2 replaced incomplete
  · intro safe found run
    obtain ⟨artifact, inspected, rfl⟩ := inspectRuntime_ok.mp run
    rw [throwsInto_replaceRuntime, throwsInto_replacements]
    exact ⟨safe.moduleMoved artifact inspected,
      fun replaced incomplete =>
        safe.resourcesMoved artifact inspected incomplete replaced⟩

/-- A LaunchServer with an older module and an incomplete directory. -/
def outdatedRuntime : Volume String where
  file := fun path =>
    if path = runtimeModulePath then some "old module" else none
  directory := fun path =>
    if path = runtimeDirectory then
      some [("runtime_en.properties", "old texts")]
    else
      none

def sampleRuntime (faults : RuntimePoint → Option String) :
    RuntimeEnvironment String where
  faults := faults
  artifact := .ok "patched module"
  sha256 := id
  modulesList := .ok []
  lifecycle := true
  moduleTimestamp := "2026-01-01T00-00-00-000Z"
  resourcesTimestamp := "2026-01-01T00-00-01-000Z"
  fetch := .ok "resources"
  unzip := fun _ => .ok [("runtime_en.properties", "new texts")]

def resourcesMoveFails (point : RuntimePoint) : Option String :=
  if point = .resourcesMove then some movePath else none

/-- The move of the resources back throws before the module is moved back. -/
theorem replaced_module_stays :
    ¬ ThrowsInto (fun swap => RuntimeRestored outdatedRuntime swap.volume)
      (ensureInstalled (sampleRuntime resourcesMoveFails))
        (.before outdatedRuntime) := by
  intro throws
  have restored := throws movePath
    (ensureInstalled (sampleRuntime resourcesMoveFails)
      (.before outdatedRuntime)).2 (by
        refine Prod.ext ?_ rfl
        decide +kernel)
  have module := restored.module
  revert module
  decide +kernel

end GravitPanel.Clients
