import GravitPanel.Clients.JavaRuntimes

/-!
# Rollback of the Java runtimes

After which failures `LaunchServer.json` and the directory of the runtime are
as they were.
-/

namespace GravitPanel.Clients

open Program Volume JavaScript JavaState

/-- `LaunchServer.json` and the directory of this runtime are as they were. -/
structure RuntimeKept (start : JavaVolume) (directory : String)
    (state : JavaState) : Prop where
  config : state.volume.file launchServerConfigPath =
    start.file launchServerConfigPath
  updates : state.volume.directory (runtimeTarget directory) =
    start.directory (runtimeTarget directory)

/-- What a rollback makes of these bytes of `LaunchServer.json`. -/
def recovered (environment : JavaEnvironment) (bytes : List UInt8) :
    List UInt8 :=
  environment.synchronize (TextDecoder.encode (TextDecoder.decode bytes))

/-- Neither a restart nor a build changes this directory. -/
structure Untouched (environment : JavaEnvironment) (path : String) :
    Prop where
  restart : ∀ volume,
    (environment.restart.change volume).directory path =
      volume.directory path
  build : ∀ volume,
    (environment.build.change volume).directory path = volume.directory path

/-- The LaunchServer serves the runtimes and does not know the trash. -/
structure LauncherDocumented (environment : JavaEnvironment) : Prop where
  target : ∀ directory, Untouched environment (runtimeTarget directory)
  trash : ∀ directory, Untouched environment (trashPath environment directory)

structure ConfigFound (environment : JavaEnvironment) (start : JavaVolume)
    (bytes : List UInt8) (config : JsonFields) : Prop where
  clear : environment.faults .configRead = none
  stored : start.file launchServerConfigPath = some bytes
  parsed : environment.parse (TextDecoder.decode bytes) =
    some (.object config)

structure LauncherReloaded (environment : JavaEnvironment) : Prop where
  announced : environment.faults .reloading = none
  cacheRemoved : environment.faults .cacheRemove = none
  restarted : environment.restart.answer = .ok ()
  rebuilding : environment.faults .rebuilding = none
  rebuilt : environment.build.answer = .ok ()

structure ConfigApplied (environment : JavaEnvironment) : Prop where
  written : environment.faults .configWrite = none
  reloaded : LauncherReloaded environment
  finished : environment.faults .finished = none
  stateRead : environment.faults .stateRead = none

/-- The request is valid and its runtime is new. -/
structure InstallChecked (environment : JavaEnvironment)
    (input : JavaRuntimeInput) (archive : List UInt8) (start : JavaVolume)
    (bytes : List UInt8) (config : JsonFields) : Prop where
  valid : validateRuntime input = .ok ()
  sized : demandArchive archive = .ok ()
  found : ConfigFound environment start bytes config
  unregistered : isRegistered environment config input.directory = false
  inspected : environment.faults .targetInspected = none
  absent : start.directory (runtimeTarget input.directory) = none

/-- The archive is unpacked, and its directory is renamed to the target. -/
structure RuntimePublished (environment : JavaEnvironment)
    (input : JavaRuntimeInput) (archive : List UInt8) (start : JavaVolume)
    (unpacked : Unpacked) : Prop where
  uploading : environment.faults .uploading = none
  archiveWritten : environment.faults .archiveWrite = none
  inspected : environment.faults .extractionInspected = none
  free : start.file (runtimeTarget input.directory) = none
  listed : environment.faults .archiveListed = none
  unpacks : environment.unpack input.archiveFormat archive = .ok unpacked
  pendingCreated : environment.faults .pendingCreate = none
  unpacked : environment.faults .unpack = none
  published : environment.faults .publish = none

structure RuntimeRegistered (environment : JavaEnvironment)
    (input : JavaRuntimeInput) (unpacked : Unpacked) : Prop where
  pendingRemoved : unpacked.singleRoot = true →
    environment.faults .pendingRemove = none
  inspected : environment.faults .executableInspected = none
  executable : (unpacked.files.any fun entry =>
    entry.1 == executableName input.os) = true
  permissions : environment.faults .permissions = none
  copied : environment.faults .configCopy = none
  applied : ConfigApplied environment

/-- A rollback writes the bytes that were there, and what is left of the
pending directory is removed when the target is published. -/
structure InstallRuntimeSafe (environment : JavaEnvironment)
    (input : JavaRuntimeInput) (archive : List UInt8) (start : JavaVolume) :
    Prop where
  rewritten : ∀ bytes config,
    InstallChecked environment input archive start bytes config →
      (¬ ∃ unpacked,
        RuntimePublished environment input archive start unpacked ∧
          RuntimeRegistered environment input unpacked) →
        recovered environment bytes = bytes
  cleared : ∀ bytes config unpacked,
    InstallChecked environment input archive start bytes config →
      RuntimePublished environment input archive start unpacked →
        unpacked.singleRoot = true →
          environment.faults .pendingRemove = none

structure RemoveChecked (environment : JavaEnvironment)
    (directory : String) (start : JavaVolume) (bytes : List UInt8)
    (config : JsonFields) : Prop where
  valid : isRuntimeDirectory directory = true
  found : ConfigFound environment start bytes config
  registered : isRegistered environment config directory = true
  inspected : environment.faults .targetInspected = none

structure RuntimeTrashed (environment : JavaEnvironment)
    (directory : String) (start : JavaVolume) : Prop where
  copied : environment.faults .configCopy = none
  moved : (start.directory (runtimeTarget directory)).isSome = true →
    environment.faults .trashMove = none

/-- A rollback writes the bytes that were there. -/
def RemoveRuntimeSafe (environment : JavaEnvironment) (directory : String)
    (start : JavaVolume) : Prop :=
  ∀ bytes config, RemoveChecked environment directory start bytes config →
    RuntimeTrashed environment directory start →
      ¬ ConfigApplied environment → recovered environment bytes = bytes

structure SettingsWritten (environment : JavaEnvironment) : Prop where
  copied : environment.faults .configCopy = none
  written : environment.faults .configWrite = none

structure SettingsLoaded (environment : JavaEnvironment) : Prop where
  reloaded : LauncherReloaded environment
  stateRead : environment.faults .stateRead = none

/-- A rollback writes the bytes that were there. -/
def SettingsSafe (environment : JavaEnvironment) (start : JavaVolume) :
    Prop :=
  ∀ bytes config, ConfigFound environment start bytes config →
    SettingsWritten environment → ¬ SettingsLoaded environment →
      recovered environment bytes = bytes

section Paths

variable {environment : JavaEnvironment}

theorem first_append {text : String} {first : Char}
    (starts : text.toList.head? = some first) (rest : String) :
    (text ++ rest).toList.head? = some first := by
  rw [String.toList_append, List.head?_append, starts]
  rfl

theorem ne_of_first {left right : String} {first other : Char}
    (starts : left.toList.head? = some first)
    (begins : right.toList.head? = some other) (different : first ≠ other) :
    left ≠ right := by
  rintro rfl
  rw [starts, Option.some.injEq] at begins
  exact different begins

theorem runtimeTarget_first (directory : String) :
    (runtimeTarget directory).toList.head? = some 'u' :=
  first_append (by decide) _

theorem archivePath_first (format : ArchiveFormat) :
    (archivePath environment format).toList.head? = some '.' :=
  first_append (first_append (by decide) _) _

theorem configBackupPath_ne :
    launchServerConfigPath ≠ configBackupPath environment := by
  have config : launchServerConfigPath.toList.head? = some 'L' := by decide
  have backup : (configBackupPath environment).toList.head? = some '.' :=
    first_append (first_append (by decide) _) _
  exact ne_of_first config backup (by decide)

theorem archivePath_ne_config (format : ArchiveFormat) :
    launchServerConfigPath ≠ archivePath environment format := by
  have config : launchServerConfigPath.toList.head? = some 'L' := by decide
  exact ne_of_first config (archivePath_first format) (by decide)

theorem archivePath_ne_target (format : ArchiveFormat)
    (directory : String) :
    runtimeTarget directory ≠ archivePath environment format :=
  ne_of_first (runtimeTarget_first directory) (archivePath_first format)
    (by decide)

theorem trashPath_ne_target (directory : String) :
    runtimeTarget directory ≠ trashPath environment directory := by
  have trash : (trashPath environment directory).toList.head? = some '.' :=
    first_append (first_append (first_append (by decide) _) _) _
  exact ne_of_first (runtimeTarget_first directory) trash (by decide)

theorem pendingPath_ne (target : String) :
    target ≠ pendingPath environment target := by
  intro same
  have lengths := congrArg String.length same
  have suffix : ".pending-".length = 9 := by decide
  rw [pendingPath, String.length_append, String.length_append, suffix]
    at lengths
  omega

end Paths

section Steps

variable {environment : JavaEnvironment}
variable {state final : JavaState} {start : JavaVolume}

theorem parseConfig_ok {raw : List Char} {read : JavaConfig} :
    parseConfig environment raw = .ok read ↔
      ∃ config, environment.parse raw = some (.object config) ∧
        read = ⟨raw, config⟩ := by
  unfold parseConfig
  cases parsed : environment.parse raw with
  | none => simp
  | some value =>
      cases value <;> simp [eq_comm]

theorem readOnly_readConfig :
    ReadOnly (readConfig environment) :=
  (readOnly_reach _).bind fun _ => readOnly_get.bind fun _ =>
    ReadOnly.lift_bind fun _ => readOnly_lift _

theorem demandConfig_ok {stored : Option (List UInt8)}
    {bytes : List UInt8} :
    demandConfig stored = .ok bytes ↔ stored = some bytes := by
  unfold demandConfig
  cases stored <;> simp

theorem readConfig_ok {read : JavaConfig} :
    readConfig environment state = (.ok read, final) ↔
      (∃ bytes config, ConfigFound environment state.volume bytes config ∧
        read = ⟨TextDecoder.decode bytes, config⟩) ∧ state = final := by
  simp only [readConfig, reach_bind_eq_ok, get_bind, lift_bind_eq_ok,
    lift_apply, Prod.mk.injEq, demandConfig_ok, parseConfig_ok]
  constructor
  · rintro ⟨clear, bytes, stored, ⟨config, parsed, same⟩, rfl⟩
    exact ⟨⟨bytes, config, ⟨clear, stored, parsed⟩, same⟩, rfl⟩
  · rintro ⟨⟨bytes, config, found, same⟩, rfl⟩
    exact ⟨found.clear, bytes, found.stored, ⟨config, found.parsed, same⟩,
      rfl⟩

theorem ends_callLauncher_bind {call : ServiceCall (List UInt8)}
    {Result : Type} {next : Unit → Program JavaState String Result} :
    Ends (callLauncher call >>= next) state ↔
      call.answer = .ok () ∧
        Ends (next ()) (onVolume call.change state) := by
  rw [callLauncher, bind_bind, ends_update_bind, ends_lift_bind]
  constructor
  · rintro ⟨_, ended, rest⟩
    exact ⟨ended, rest⟩
  · exact fun ends => ⟨(), ends⟩

theorem ends_reloadAndBuild :
    Ends (reloadAndBuild environment) state ↔
      LauncherReloaded environment := by
  have built : ∀ reached : JavaState,
      Ends (callLauncher environment.build) reached ↔
        environment.build.answer = .ok () := by
    intro reached
    rw [callLauncher, ends_update_bind, ends_lift]
    constructor
    · rintro ⟨_, ended⟩
      exact ended
    · exact fun ended => ⟨(), ended⟩
  rw [reloadAndBuild, ends_reach_bind, ends_perform_bind,
    ends_callLauncher_bind, ends_reach_bind, built]
  constructor
  · rintro ⟨announced, cleared, restarted, rebuilding, rebuilt⟩
    exact ⟨announced, cleared, restarted, rebuilding, rebuilt⟩
  · rintro ⟨announced, cleared, restarted, rebuilding, rebuilt⟩
    exact ⟨announced, cleared, restarted, rebuilding, rebuilt⟩

theorem ends_loadSettings :
    Ends (loadSettings environment) state ↔ SettingsLoaded environment := by
  have last : ∀ (value : Unit) (reached : JavaState),
      Ends (reach environment.faults .stateRead) reached ↔
        environment.faults .stateRead = none :=
    fun _ _ => ends_reach
  rw [loadSettings, ends_bind_of_forall last, ends_reloadAndBuild]
  exact ⟨fun ends => ⟨ends.1, ends.2⟩,
    fun loaded => ⟨loaded.reloaded, loaded.stateRead⟩⟩

theorem ends_applyConfig {next : Json} :
    Ends (applyConfig environment next) state ↔
      ConfigApplied environment := by
  have last : ∀ (value : Unit) (reached : JavaState),
      Ends (reach environment.faults .finished >>= fun _ =>
        reach environment.faults .stateRead) reached ↔
        environment.faults .finished = none ∧
          environment.faults .stateRead = none :=
    fun _ _ => ends_reach_bind.trans (and_congr_right' ends_reach)
  rw [applyConfig, writeConfig, ends_perform_bind, ends_bind_of_forall last,
    ends_reloadAndBuild]
  constructor
  · rintro ⟨written, reloaded, finished, read⟩
    exact ⟨written, reloaded, finished, read⟩
  · rintro ⟨written, reloaded, finished, read⟩
    exact ⟨written, reloaded, finished, read⟩

/-- A directory has these contents. -/
def Holds (path : String)
    (contents : Option (List (String × List UInt8))) (state : JavaState) :
    Prop :=
  state.volume.directory path = contents

variable {path : String} {contents : Option (List (String × List UInt8))}

theorem Untouched.keeps_reloadAndBuild
    (untouched : Untouched environment path) :
    Keeps (Holds path contents) (reloadAndBuild environment) := by
  have call : ∀ call : ServiceCall (List UInt8),
      (∀ volume, (call.change volume).directory path =
        volume.directory path) →
        Keeps (Holds path contents) (callLauncher call) :=
    fun call same => (keeps_update fun state holds =>
      (same state.volume).trans holds).bind fun _ => keeps_lift _
  have cleared : Keeps (Holds path contents)
      (perform environment.faults .cacheRemove
        (onVolume (setFile updatesCachePath none))) :=
    (readOnly_reach _).keeps.bind fun _ => keeps_update fun _ holds => holds
  refine (readOnly_reach _).keeps.bind fun _ => cleared.bind fun _ => ?_
  refine (call _ untouched.restart).bind fun _ => ?_
  exact (readOnly_reach _).keeps.bind fun _ => call _ untouched.build

theorem Untouched.keeps_loadSettings
    (untouched : Untouched environment path) :
    Keeps (Holds path contents) (loadSettings environment) :=
  untouched.keeps_reloadAndBuild.bind fun _ => (readOnly_reach _).keeps

theorem Untouched.keeps_applyConfig
    (untouched : Untouched environment path) {next : Json} :
    Keeps (Holds path contents) (applyConfig environment next) := by
  have written : Keeps (Holds path contents)
      (writeConfig environment next) :=
    (readOnly_reach _).keeps.bind fun _ => keeps_update fun _ holds => holds
  refine written.bind fun _ => untouched.keeps_reloadAndBuild.bind fun _ => ?_
  exact (readOnly_reach _).keeps.bind fun _ => (readOnly_reach _).keeps

theorem file_restoreRuntimeConfig {volume : JavaVolume}
    {bytes : List UInt8}
    (written : volume.file launchServerConfigPath =
      some (TextDecoder.encode (TextDecoder.decode bytes))) :
    (restoreRuntimeConfig environment volume).file launchServerConfigPath =
      some (recovered environment bytes) := by
  have other : launchServerConfigPath ≠ updatesCachePath := by decide
  rw [restoreRuntimeConfig, file_setFile_self, file_setFile_of_ne other,
    written]
  rfl

theorem directory_moveTree {source target : String}
    (apart : target ≠ source) (volume : JavaVolume) :
    (moveTree source target volume).directory target =
      volume.directory source :=
  (directory_setDirectory_of_ne apart _ _).trans
    (directory_setDirectory_self _ _ _)

end Steps

section Settings

variable {environment : JavaEnvironment} {start : JavaVolume}

theorem file_configBackup (start : JavaVolume)
    (bytes : Option (List UInt8)) :
    (start.setFile (configBackupPath environment) bytes).file
        launchServerConfigPath = start.file launchServerConfigPath :=
  file_setFile_of_ne configBackupPath_ne _ _

theorem throwsInto_loadOrUndo (documented : LauncherDocumented environment)
    {bytes : List UInt8} {state : JavaState}
    (same : state.volume.directory = start.directory) :
    ThrowsInto (fun reached => ∀ directory,
        RuntimeKept start directory reached)
        (loadOrUndo environment (TextDecoder.decode bytes)) state ↔
      (¬ SettingsLoaded environment →
        start.file launchServerConfigPath =
          some (recovered environment bytes)) := by
  have kept : Keeps (fun reached => ∀ directory,
      Holds (runtimeTarget directory)
        (start.directory (runtimeTarget directory)) reached)
      (loadSettings environment) :=
    keeps_of_reached fun reached holds directory =>
      (documented.target directory).keeps_loadSettings.reached
        (holds directory)
  have holds : ∀ directory, Holds (runtimeTarget directory)
      (start.directory (runtimeTarget directory)) state :=
    fun directory => congrFun same _
  rw [loadOrUndo, throwsInto_restore, ← @ends_loadSettings environment state]
  refine kept.throwsInto_iff holds fun reached unchanged => ?_
  have written : (undoSettings environment (TextDecoder.decode bytes)
      reached).volume.file launchServerConfigPath =
        some (recovered environment bytes) :=
    file_restoreRuntimeConfig (file_setFile_self _ _ _)
  constructor
  · intro restored
    exact ((restored "").config).symm.trans written
  · intro equal directory
    exact ⟨written.trans equal.symm, unchanged directory⟩

theorem updateSettings_iff (documented : LauncherDocumented environment)
    (forceUseCustomJava : Bool) :
    ThrowsInto (fun reached => ∀ directory,
        RuntimeKept start directory reached)
        (updateSettings environment forceUseCustomJava) (before start) ↔
      SettingsSafe environment start := by
  have copied : ∀ directory, RuntimeKept start directory
      (onVolume (fun volume => volume.setFile (configBackupPath environment)
        (volume.file launchServerConfigPath)) (before start)) :=
    fun directory => ⟨file_configBackup _ _, rfl⟩
  rw [updateSettings,
    readOnly_readConfig.throwsInto_bind fun directory => ⟨rfl, rfl⟩]
  simp only [readConfig_ok, copyConfig, writeConfig,
    throwsInto_perform_bind, throwsInto_bind_pure]
  constructor
  · intro throws bytes config found written loads
    have rest := (throws _ ⟨⟨bytes, config, found, rfl⟩, trivial⟩).2
      written.copied
    have equal := (throwsInto_loadOrUndo documented (by rfl)).mp
      (rest.2 written.written) loads
    exact Option.some.inj (equal.symm.trans found.stored)
  · rintro safe _ ⟨⟨bytes, config, found, rfl⟩, -⟩
    refine ⟨fun _ directory => ⟨rfl, rfl⟩, fun copying => ?_⟩
    refine ⟨fun _ => copied, fun writing => ?_⟩
    refine (throwsInto_loadOrUndo documented (by rfl)).mpr fun loads => ?_
    rw [safe bytes config found ⟨copying, writing⟩ loads]
    exact found.stored

end Settings

section Removal

variable {environment : JavaEnvironment} {start : JavaVolume}
variable {directory : String}

theorem readOnly_checkRemove :
    ReadOnly (checkRemove environment directory) :=
  ReadOnly.lift_bind fun _ => readOnly_readConfig.bind fun _ =>
    ReadOnly.lift_bind fun _ => (readOnly_reach _).bind fun _ =>
      readOnly_pure _

theorem demandRuntimeDirectory_ok {value : Unit} :
    demandRuntimeDirectory directory = .ok value ↔
      isRuntimeDirectory directory = true := by
  unfold demandRuntimeDirectory
  split <;> simp_all

theorem demandRegistered_ok {config : JsonFields} {value : Unit} :
    demandRegistered environment config directory = .ok value ↔
      isRegistered environment config directory = true := by
  unfold demandRegistered
  split <;> simp_all

theorem checkRemove_ok {read : JavaConfig} {final : JavaState} :
    checkRemove environment directory (before start) = (.ok read, final) ↔
      (∃ bytes config,
        RemoveChecked environment directory start bytes config ∧
          read = ⟨TextDecoder.decode bytes, config⟩) ∧
        before start = final := by
  simp only [checkRemove, lift_bind_eq_ok, readOnly_readConfig.bind_eq_ok,
    readConfig_ok, reach_bind_eq_ok, pure_apply, Prod.mk.injEq,
    Except.ok.injEq, demandRuntimeDirectory_ok, demandRegistered_ok,
    and_true]
  constructor
  · rintro ⟨_, valid, _, ⟨bytes, config, found, rfl⟩, _, registered,
      inspected, rfl, rfl⟩
    exact ⟨⟨bytes, config, ⟨valid, found, registered, inspected⟩, rfl⟩,
      rfl⟩
  · rintro ⟨⟨bytes, config, checked, rfl⟩, rfl⟩
    exact ⟨(), checked.valid, _, ⟨bytes, config, checked.found, rfl⟩, (),
      checked.registered, checked.inspected, rfl, rfl⟩

/-- The runtime is in the trash if it was installed. -/
def trashed (environment : JavaEnvironment) (directory : String)
    (installed : Bool) (state : JavaState) : JavaState :=
  if installed then
    onVolume (moveTree (runtimeTarget directory)
      (trashPath environment directory)) state
  else
    state

variable {installed : Bool}

theorem throwsInto_moveToTrash_bind {good : JavaState → Prop}
    {state : JavaState} {Result : Type}
    {next : Unit → Program JavaState String Result} (holds : good state) :
    ThrowsInto good
        (moveToTrash environment directory installed >>= next) state ↔
      ((installed = true → environment.faults .trashMove = none) →
        ThrowsInto good (next ())
          (trashed environment directory installed state)) := by
  cases installed with
  | false =>
      exact ⟨fun throws _ => throws, fun throws => throws (by simp)⟩
  | true =>
      refine throwsInto_perform_bind.trans ?_
      constructor
      · exact fun throws moved => throws.2 (moved rfl)
      · exact fun throws => ⟨fun _ => holds, fun moved => throws fun _ => moved⟩

/-- Where the runtime is while its removal is tried. -/
def removedPath (environment : JavaEnvironment) (directory : String)
    (installed : Bool) : String :=
  if installed then trashPath environment directory
  else runtimeTarget directory

theorem holds_trashed {state : JavaState}
    {contents : Option (List (String × List UInt8))}
    (present : Holds (runtimeTarget directory) contents state) :
    Holds (removedPath environment directory installed) contents
      (trashed environment directory installed state) := by
  cases installed with
  | false => exact present
  | true =>
      exact (directory_moveTree (trashPath_ne_target _).symm _).trans present

theorem directory_undoRemove {state : JavaState} {installed : Bool}
    {raw : List Char} :
    (undoRemove environment directory installed raw state).volume.directory
        (runtimeTarget directory) =
      state.volume.directory
        (removedPath environment directory installed) := by
  cases installed with
  | false => rfl
  | true => exact directory_moveTree (trashPath_ne_target _) _

theorem file_undoRemove {state : JavaState}
    {bytes : List UInt8} :
    (undoRemove environment directory installed
        (TextDecoder.decode bytes) state).volume.file
      launchServerConfigPath = some (recovered environment bytes) := by
  refine file_restoreRuntimeConfig ?_
  have written : (writeBack (TextDecoder.decode bytes) state.volume).file
      launchServerConfigPath =
        some (TextDecoder.encode (TextDecoder.decode bytes)) :=
    file_setFile_self _ _ _
  cases installed <;> exact written

theorem throwsInto_removeOrUndo
    (documented : LauncherDocumented environment)
    {bytes : List UInt8} {config : JsonFields}
    {state : JavaState}
    (moved : Holds (removedPath environment directory installed)
      (start.directory (runtimeTarget directory)) state) :
    ThrowsInto (RuntimeKept start directory)
        (removeOrUndo environment directory installed
          ⟨TextDecoder.decode bytes, config⟩) state ↔
      (¬ ConfigApplied environment →
        start.file launchServerConfigPath =
          some (recovered environment bytes)) := by
  have untouched : Untouched environment
      (removedPath environment directory installed) := by
    cases installed with
    | false => exact documented.target directory
    | true => exact documented.trash directory
  rw [removeOrUndo, throwsInto_restore,
    ← @ends_applyConfig environment state (withoutRuntime directory config)]
  refine untouched.keeps_applyConfig.throwsInto_iff moved
    fun reached unchanged => ?_
  have updates := (@directory_undoRemove environment directory reached
    installed (TextDecoder.decode bytes)).trans unchanged
  constructor
  · exact fun kept => kept.config.symm.trans file_undoRemove
  · exact fun equal => ⟨file_undoRemove.trans equal.symm, updates⟩

theorem removeRuntime_iff (documented : LauncherDocumented environment) :
    ThrowsInto (RuntimeKept start directory)
        (removeRuntime environment directory) (before start) ↔
      RemoveRuntimeSafe environment directory start := by
  have copied : RuntimeKept start directory
      (onVolume (fun volume => volume.setFile (configBackupPath environment)
        (volume.file launchServerConfigPath)) (before start)) :=
    ⟨file_configBackup _ _, rfl⟩
  rw [removeRuntime, readOnly_checkRemove.throwsInto_bind ⟨rfl, rfl⟩]
  simp only [checkRemove_ok, and_true, throwsInto_get_bind, copyConfig,
    throwsInto_perform_bind, throwsInto_moveToTrash_bind copied,
    throwsInto_bind_pure]
  constructor
  · intro throws bytes config checked trash fails
    have rest := (throws _ ⟨bytes, config, checked, rfl⟩).2 trash.copied
      trash.moved
    have equal := (throwsInto_removeOrUndo documented
      (holds_trashed copied.updates)).mp rest fails
    exact Option.some.inj (equal.symm.trans checked.found.stored)
  · rintro safe _ ⟨bytes, config, checked, rfl⟩
    refine ⟨fun _ => ⟨rfl, rfl⟩, fun copying moving => ?_⟩
    refine (throwsInto_removeOrUndo documented
      (holds_trashed copied.updates)).mpr fun fails => ?_
    rw [safe bytes config checked ⟨copying, moving⟩ fails]
    exact checked.found.stored

end Removal

/-! ## Installation -/

section Installation

variable {environment : JavaEnvironment} {start : JavaVolume}
variable {input : JavaRuntimeInput} {archive : List UInt8}
variable {target : String} {unpacked : Unpacked} {state : JavaState}

theorem readOnly_checkInstall :
    ReadOnly (checkInstall environment input archive) :=
  ReadOnly.lift_bind fun _ => ReadOnly.lift_bind fun _ =>
    readOnly_readConfig.bind fun _ => ReadOnly.lift_bind fun _ =>
      (readOnly_reach _).bind fun _ => readOnly_get.bind fun _ =>
        ReadOnly.lift_bind fun _ => readOnly_pure _

variable {value : Unit}

theorem demandUnregistered_ok {config : JsonFields} {directory : String}
    :
    demandUnregistered environment config directory = .ok value ↔
      isRegistered environment config directory = false := by
  unfold demandUnregistered
  split <;> simp_all

theorem demandAbsent_ok {directory : String} :
    demandAbsent directory start = .ok value ↔
      start.directory (runtimeTarget directory) = none := by
  unfold demandAbsent
  cases start.directory (runtimeTarget directory) <;> simp

theorem checkInstall_ok {read : JavaConfig} {final : JavaState} :
    checkInstall environment input archive (before start) =
        (.ok read, final) ↔
      (∃ bytes config,
        InstallChecked environment input archive start bytes config ∧
          read = ⟨TextDecoder.decode bytes, config⟩) ∧
        before start = final := by
  simp only [checkInstall, lift_bind_eq_ok, readOnly_readConfig.bind_eq_ok,
    readConfig_ok, reach_bind_eq_ok, get_bind, pure_apply, Prod.mk.injEq,
    Except.ok.injEq, demandUnregistered_ok, demandAbsent_ok, and_true]
  constructor
  · rintro ⟨_, valid, _, sized, _, ⟨bytes, config, found, rfl⟩, _,
      unregistered, inspected, _, absent, rfl, rfl⟩
    exact ⟨⟨bytes, config,
      ⟨valid, sized, found, unregistered, inspected, absent⟩, rfl⟩, rfl⟩
  · rintro ⟨⟨bytes, config, checked, rfl⟩, rfl⟩
    exact ⟨(), checked.valid, (), checked.sized, _,
      ⟨bytes, config, checked.found, rfl⟩, (), checked.unregistered,
      checked.inspected, (), checked.absent, rfl, rfl⟩

/-- The target is gone, or the rollback removes it. -/
def Removable (target : String) (state : JavaState) : Prop :=
  state.extracted = true ∨ state.volume.directory target = none

theorem removable_setPending
    {files : Option (List (String × List UInt8))} :
    Removable target (onVolume
        (setDirectory (pendingPath environment target) files) state) ↔
      Removable target state := by
  have same := directory_setDirectory_of_ne
    (@pendingPath_ne environment target) files state.volume
  unfold Removable
  rw [← same]
  exact Iff.rfl

theorem removable_published :
    Removable target (onVolume (publishPending environment target unpacked)
        state) ↔ state.extracted = true := by
  have present : (publishPending environment target unpacked
      state.volume).directory target = some unpacked.files :=
    (directory_setDirectory_of_ne (pendingPath_ne target) _ _).trans
      (directory_setDirectory_self _ _ _)
  constructor
  · rintro (extracted | absent)
    · exact extracted
    · have impossible := present.symm.trans absent
      cases impossible
  · exact .inl

theorem throwsInto_removePending {good : JavaState → Prop} :
    ThrowsInto good (removePending environment target unpacked) state ↔
      (unpacked.singleRoot = true →
        environment.faults .pendingRemove ≠ none → good state) := by
  unfold removePending
  cases unpacked.singleRoot with
  | false => exact iff_of_true (throwsInto_pure _) (by simp)
  | true =>
      rw [if_pos rfl, throwsInto_perform]
      exact ⟨fun throws _ => throws, fun throws => throws rfl⟩

theorem throwsInto_unpackOrRemove
    (fresh : state.extracted = false) (removable : Removable target state) :
    ThrowsInto (Removable target)
        (unpackOrRemove environment target unpacked) state ↔
      (environment.faults .unpack = none →
        environment.faults .publish = none →
          unpacked.singleRoot = true →
            environment.faults .pendingRemove = none) := by
  have stays : ¬ Removable target
      (onVolume (publishPending environment target unpacked)
        (onVolume (setDirectory (pendingPath environment target)
          (some unpacked.files)) state)) := by
    rw [removable_published]
    exact fun extracted => Bool.false_ne_true (fresh.symm.trans extracted)
  rw [unpackOrRemove, throwsInto_restore]
  simp only [removable_setPending]
  rw [unpackAndPublish, throwsInto_perform_bind, throwsInto_perform_bind,
    throwsInto_removePending, removable_setPending]
  constructor
  · intro throws extracting publishing single
    by_contra failed
    exact stays ((throws.2 extracting).2 publishing single failed)
  · intro clear
    refine ⟨fun _ => removable, fun extracting => ?_⟩
    refine ⟨fun _ => removable, fun publishing single failed => ?_⟩
    exact absurd (clear extracting publishing single) failed

theorem demandFree_ok {volume : JavaVolume} :
    demandFree target volume = .ok value ↔
      volume.directory target = none ∧ volume.file target = none := by
  unfold demandFree
  cases volume.directory target <;> cases volume.file target <;> simp

/-- What is left of the pending directory is gone. -/
def pendingRemoved (environment : JavaEnvironment) (target : String)
    (unpacked : Unpacked) (state : JavaState) : JavaState :=
  if unpacked.singleRoot then
    onVolume (setDirectory (pendingPath environment target) none) state
  else
    state

theorem removePending_ok {final : JavaState} :
    removePending environment target unpacked state = (.ok value, final) ↔
      (unpacked.singleRoot = true →
        environment.faults .pendingRemove = none) ∧
        pendingRemoved environment target unpacked state = final := by
  unfold removePending pendingRemoved
  cases unpacked.singleRoot with
  | false => simp
  | true => simp [perform_eq_ok]

/-- The volume when the target is published. -/
def extracted (environment : JavaEnvironment) (target : String)
    (unpacked : Unpacked) (state : JavaState) : JavaState :=
  pendingRemoved environment target unpacked
    (onVolume (publishPending environment target unpacked)
      (onVolume (setDirectory (pendingPath environment target)
          (some unpacked.files))
        (onVolume (setDirectory (pendingPath environment target) (some []))
          state)))

theorem directory_extracted :
    (extracted environment target unpacked state).volume.directory target =
      some unpacked.files := by
  have apart := @pendingPath_ne environment target
  have published : ∀ volume : JavaVolume,
      (publishPending environment target unpacked volume).directory target =
        some unpacked.files := fun volume =>
    (directory_setDirectory_of_ne apart _ _).trans
      (directory_setDirectory_self _ _ _)
  unfold extracted pendingRemoved
  cases unpacked.singleRoot with
  | false => exact published _
  | true =>
      exact (directory_setDirectory_of_ne apart _ _).trans (published _)

theorem extract_ok {format : ArchiveFormat}
    {final : JavaState} :
    extractToNewDirectory environment format archive target state =
        (.ok value, final) ↔
      environment.faults .extractionInspected = none ∧
        (state.volume.directory target = none ∧
          state.volume.file target = none) ∧
        environment.faults .archiveListed = none ∧
        ∃ unpacked, environment.unpack format archive = .ok unpacked ∧
          environment.faults .pendingCreate = none ∧
          environment.faults .unpack = none ∧
          environment.faults .publish = none ∧
          (unpacked.singleRoot = true →
            environment.faults .pendingRemove = none) ∧
          extracted environment target unpacked state = final := by
  simp only [extractToNewDirectory, reach_bind_eq_ok, get_bind,
    lift_bind_eq_ok, perform_bind_eq_ok, unpackOrRemove, restore_eq_ok,
    unpackAndPublish, removePending_ok, demandFree_ok]
  constructor
  · rintro ⟨inspected, _, free, listed, unpacked, unpacks, created, rest⟩
    exact ⟨inspected, free, listed, unpacked, unpacks, created, rest⟩
  · rintro ⟨inspected, free, listed, unpacked, unpacks, created, rest⟩
    exact ⟨inspected, (), free, listed, unpacked, unpacks, created, rest⟩

theorem throwsInto_extract {format : ArchiveFormat}
    (fresh : state.extracted = false) (removable : Removable target state) :
    ThrowsInto (Removable target)
        (extractToNewDirectory environment format archive target) state ↔
      (environment.faults .extractionInspected = none →
        state.volume.directory target = none ∧
          state.volume.file target = none →
        environment.faults .archiveListed = none →
        ∀ unpacked, environment.unpack format archive = .ok unpacked →
          environment.faults .pendingCreate = none →
          environment.faults .unpack = none →
          environment.faults .publish = none →
            unpacked.singleRoot = true →
              environment.faults .pendingRemove = none) := by
  have pending : ∀ unpacked, ThrowsInto (Removable target)
      (unpackOrRemove environment target unpacked)
        (onVolume (setDirectory (pendingPath environment target) (some []))
          state) ↔ _ := fun unpacked =>
    throwsInto_unpackOrRemove fresh (removable_setPending.mpr removable)
  simp only [extractToNewDirectory, throwsInto_reach_bind,
    throwsInto_get_bind, throwsInto_lift_bind, throwsInto_perform_bind,
    pending, removable, implies_true, true_and, demandFree_ok]
  constructor
  · exact fun throws inspected free => throws inspected () free
  · exact fun throws inspected _ free => throws inspected free

def archived (environment : JavaEnvironment) (input : JavaRuntimeInput)
    (archive : List UInt8) (start : JavaVolume) : JavaState :=
  onVolume (setFile (archivePath environment input.archiveFormat)
    (some archive)) (before start)

theorem file_archived :
    (archived environment input archive start).volume.file
        (runtimeTarget input.directory) =
      start.file (runtimeTarget input.directory) :=
  file_setFile_of_ne (archivePath_ne_target _ _) _ _

theorem uploadRuntime_ok {final : JavaState}
    (absent : start.directory (runtimeTarget input.directory) = none) :
    uploadRuntime environment input archive (before start) =
        (.ok value, final) ↔
      ∃ unpacked,
        RuntimePublished environment input archive start unpacked ∧
          (unpacked.singleRoot = true →
            environment.faults .pendingRemove = none) ∧
          extracted environment (runtimeTarget input.directory) unpacked
            (archived environment input archive start) = final := by
  rw [uploadRuntime, reach_bind_eq_ok, perform_bind_eq_ok]
  constructor
  · rintro ⟨uploading, written, run⟩
    obtain ⟨inspected, free, listed, unpacked, unpacks, created, extracting,
      publishing, rest⟩ := extract_ok.mp run
    have noFile := file_archived.symm.trans free.2
    exact ⟨unpacked, ⟨uploading, written, inspected, noFile, listed,
      unpacks, created, extracting, publishing⟩, rest⟩
  · rintro ⟨unpacked, published, rest⟩
    refine ⟨published.uploading, published.archiveWritten, ?_⟩
    exact extract_ok.mpr ⟨published.inspected,
      ⟨absent, file_archived.trans published.free⟩, published.listed,
      unpacked, published.unpacks, published.pendingCreated,
      published.unpacked, published.published, rest⟩

/-- A failed upload leaves the target only when the pending directory cannot
be removed after the target is published. -/
theorem throwsInto_uploadRuntime
    (absent : start.directory (runtimeTarget input.directory) = none) :
    ThrowsInto (Removable (runtimeTarget input.directory))
        (uploadRuntime environment input archive) (before start) ↔
      ∀ unpacked,
        RuntimePublished environment input archive start unpacked →
          unpacked.singleRoot = true →
            environment.faults .pendingRemove = none := by
  have removable : Removable (runtimeTarget input.directory)
      (before start) := .inr absent
  have uploaded : Removable (runtimeTarget input.directory)
      (archived environment input archive start) := .inr absent
  have extraction := @throwsInto_extract environment archive
    (runtimeTarget input.directory) _ input.archiveFormat
    (show (archived environment input archive start).extracted = false by
      rfl) uploaded
  rw [uploadRuntime, throwsInto_reach_bind, throwsInto_perform_bind]
  constructor
  · intro throws unpacked published
    have rest := (throws.2 published.uploading).2 published.archiveWritten
    exact extraction.mp rest published.inspected
      ⟨absent, file_archived.trans published.free⟩ published.listed unpacked
      published.unpacks published.pendingCreated published.unpacked
      published.published
  · intro clear
    refine ⟨fun _ => removable, fun uploading => ?_⟩
    refine ⟨fun _ => removable, fun written => ?_⟩
    refine extraction.mpr fun inspected free listed unpacked unpacks created
      extracting publishing => ?_
    exact clear unpacked ⟨uploading, written, inspected,
      file_archived.symm.trans free.2, listed, unpacks, created, extracting,
      publishing⟩

theorem demandExecutable_ok {files : List (String × List UInt8)}
    {volume : JavaVolume}
    (present : volume.directory (runtimeTarget input.directory) =
      some files) :
    demandExecutable input volume = .ok value ↔
      (files.any fun entry => entry.1 == executableName input.os) = true := by
  simp only [demandExecutable, present]
  split <;> simp_all

theorem ends_registerRuntime {config : JsonFields}
    (present : state.volume.directory (runtimeTarget input.directory) =
      some unpacked.files) :
    Ends (registerRuntime environment input config) state ↔
      environment.faults .executableInspected = none ∧
        (unpacked.files.any fun entry =>
          entry.1 == executableName input.os) = true ∧
        environment.faults .permissions = none ∧
        environment.faults .configCopy = none ∧
        ConfigApplied environment := by
  have applied : ∀ reached : JavaState,
      Ends (writeConfig environment (withRuntime input config) >>= fun _ =>
        reloadAndBuild environment >>= fun _ =>
          reach environment.faults .finished >>= fun _ =>
            reach environment.faults .stateRead) reached ↔
        ConfigApplied environment := fun _ => ends_applyConfig
  simp only [registerRuntime, ends_reach_bind, ends_get_bind,
    ends_lift_bind, ends_update_bind, copyConfig, ends_perform_bind,
    demandExecutable_ok present, applied]
  constructor
  · rintro ⟨inspected, _, executable, rest⟩
    exact ⟨inspected, executable, rest⟩
  · rintro ⟨inspected, executable, rest⟩
    exact ⟨inspected, (), executable, rest⟩

theorem ends_installRuntime {read : JavaConfig}
    (absent : start.directory (runtimeTarget input.directory) = none) :
    Ends (installRuntime environment input archive read) (before start) ↔
      ∃ unpacked,
        RuntimePublished environment input archive start unpacked ∧
          RuntimeRegistered environment input unpacked := by
  have registered := fun unpacked => @ends_registerRuntime environment input
    unpacked (markExtracted (extracted environment
      (runtimeTarget input.directory) unpacked
      (archived environment input archive start))) read.config
    directory_extracted
  rw [installRuntime, ends_bind]
  simp only [uploadRuntime_ok absent, ends_update_bind]
  constructor
  · rintro ⟨_, _, ⟨unpacked, published, cleared, rfl⟩, ends⟩
    obtain ⟨inspected, executable, permissions, copied, applied⟩ :=
      (registered unpacked).mp ends
    exact ⟨unpacked, published,
      ⟨cleared, inspected, executable, permissions, copied, applied⟩⟩
  · rintro ⟨unpacked, published, done⟩
    refine ⟨(), _, ⟨unpacked, published, done.pendingRemoved, rfl⟩, ?_⟩
    exact (registered unpacked).mpr ⟨done.inspected, done.executable,
      done.permissions, done.copied, done.applied⟩

theorem keeps_registerRuntime {config : JsonFields} :
    Keeps (fun state : JavaState => state.extracted = true)
      (registerRuntime environment input config) := by
  have changed : ∀ change : JavaVolume → JavaVolume,
      Keeps (fun state : JavaState => state.extracted = true)
        (update (onVolume change) : Program JavaState String Unit) :=
    fun change => keeps_update fun _ holds => holds
  have performed : ∀ (point : JavaPoint) (change : JavaVolume → JavaVolume),
      Keeps (fun state : JavaState => state.extracted = true)
        (perform environment.faults point (onVolume change)) :=
    fun point change => (readOnly_reach point).keeps.bind fun _ =>
      changed change
  have called : ∀ call : ServiceCall (List UInt8),
      Keeps (fun state : JavaState => state.extracted = true)
        (callLauncher call) :=
    fun call => (changed call.change).bind fun _ => keeps_lift _
  have reloaded : Keeps (fun state : JavaState => state.extracted = true)
      (reloadAndBuild environment) := by
    refine (readOnly_reach _).keeps.bind fun _ => ?_
    refine (performed _ _).bind fun _ => (called _).bind fun _ => ?_
    exact (readOnly_reach _).keeps.bind fun _ => called _
  refine (readOnly_reach _).keeps.bind fun _ => keeps_get.bind fun _ => ?_
  refine Keeps.lift_bind fun _ => (changed _).bind fun _ => ?_
  refine (readOnly_reach _).keeps.bind fun _ =>
    (performed _ _).bind fun _ => (performed _ _).bind fun _ => ?_
  refine reloaded.bind fun _ => (readOnly_reach _).keeps.bind fun _ => ?_
  exact (readOnly_reach _).keeps

theorem throwsInto_installRuntime {read : JavaConfig}
    (absent : start.directory (runtimeTarget input.directory) = none) :
    ThrowsInto (Removable (runtimeTarget input.directory))
        (installRuntime environment input archive read) (before start) ↔
      ∀ unpacked,
        RuntimePublished environment input archive start unpacked →
          unpacked.singleRoot = true →
            environment.faults .pendingRemove = none := by
  rw [installRuntime, throwsInto_bind, throwsInto_uploadRuntime absent]
  refine and_iff_left fun _ reached _ => ?_
  exact (keeps_registerRuntime.throwsInto rfl).mono fun _ => .inl

theorem kept_undoInstall {bytes : List UInt8}
    (absent : start.directory (runtimeTarget input.directory) = none) :
    RuntimeKept start input.directory
        (onVolume
          (setFile (archivePath environment input.archiveFormat) none)
          (undoInstall environment input (TextDecoder.decode bytes)
            state)) ↔
      Removable (runtimeTarget input.directory) state ∧
        start.file launchServerConfigPath =
          some (recovered environment bytes) := by
  have written : (onVolume
      (setFile (archivePath environment input.archiveFormat) none)
      (undoInstall environment input (TextDecoder.decode bytes)
        state)).volume.file launchServerConfigPath =
        some (recovered environment bytes) :=
    (file_setFile_of_ne (archivePath_ne_config _) _ _).trans
      (file_restoreRuntimeConfig (file_setFile_self _ _ _))
  have updates : (undoInstall environment input (TextDecoder.decode bytes)
      state).volume.directory (runtimeTarget input.directory) = none ↔
        Removable (runtimeTarget input.directory) state := by
    unfold Removable
    cases set : state.extracted with
    | false => simp [undoInstall, set, restoreRuntimeConfig, writeBack]
    | true => simp [undoInstall, set, restoreRuntimeConfig, writeBack]
  constructor
  · intro kept
    exact ⟨updates.mp (kept.updates.trans absent),
      kept.config.symm.trans written⟩
  · rintro ⟨removable, equal⟩
    exact ⟨written.trans equal.symm,
      (updates.mpr removable).trans absent.symm⟩

theorem install_iff :
    ThrowsInto (RuntimeKept start input.directory)
        (install environment input archive) (before start) ↔
      InstallRuntimeSafe environment input archive start := by
  have attempt : ∀ {bytes config},
      InstallChecked environment input archive start bytes config →
        (ThrowsInto (RuntimeKept start input.directory)
            (installOrUndo environment input archive
              ⟨TextDecoder.decode bytes, config⟩) (before start) ↔
          (∀ unpacked,
            RuntimePublished environment input archive start unpacked →
              unpacked.singleRoot = true →
                environment.faults .pendingRemove = none) ∧
          ((¬ ∃ unpacked,
            RuntimePublished environment input archive start unpacked ∧
              RuntimeRegistered environment input unpacked) →
            start.file launchServerConfigPath =
              some (recovered environment bytes))) := by
    intro bytes config checked
    rw [installOrUndo, throwsInto_cleanUp, throwsInto_restore]
    simp only [kept_undoInstall checked.absent]
    rw [throwsInto_and, throwsInto_installRuntime checked.absent,
      throwsInto_const, ends_installRuntime checked.absent]
  rw [install, readOnly_checkInstall.throwsInto_bind ⟨rfl, rfl⟩]
  simp only [checkInstall_ok, and_true, throwsInto_bind_pure]
  constructor
  · intro throws
    constructor
    · intro bytes config checked fails
      have rest := (attempt checked).mp
        (throws _ ⟨bytes, config, checked, rfl⟩)
      exact Option.some.inj ((rest.2 fails).symm.trans checked.found.stored)
    · intro bytes config unpacked checked
      exact ((attempt checked).mp
        (throws _ ⟨bytes, config, checked, rfl⟩)).1 unpacked
  · rintro safe _ ⟨bytes, config, checked, rfl⟩
    refine (attempt checked).mpr ⟨?_, fun fails => ?_⟩
    · exact fun unpacked => safe.cleared bytes config unpacked checked
    · rw [safe.rewritten bytes config checked fails]
      exact checked.found.stored

end Installation

/-- When installing, removing and setting up Java runtimes is undone. -/
theorem javaRuntimes_transactional_iff
    (environment : JavaEnvironment)
    (documented : LauncherDocumented environment) (start : JavaVolume)
    (input : JavaRuntimeInput) (archive : List UInt8) (directory : String)
    (forceUseCustomJava : Bool) :
    (ThrowsInto (RuntimeKept start input.directory)
        (install environment input archive) (before start) ↔
      InstallRuntimeSafe environment input archive start) ∧
    (ThrowsInto (RuntimeKept start directory)
        (removeRuntime environment directory) (before start) ↔
      RemoveRuntimeSafe environment directory start) ∧
    (ThrowsInto (fun reached => ∀ directory,
        RuntimeKept start directory reached)
        (updateSettings environment forceUseCustomJava) (before start) ↔
      SettingsSafe environment start) :=
  ⟨install_iff, removeRuntime_iff documented,
    updateSettings_iff documented forceUseCustomJava⟩

def registeredText : List Char :=
  "\x7b\"launcher\":\x7b\"customJavaDownload\":\x7b\"java21\":\"\"\x7d\x7d\x7d".toList

def registeredConfig : JsonFields :=
  [("launcher", .object
    [("customJavaDownload", .object [("java21", .string "")])])]

def unregisteredText : List Char :=
  "\x7b\n  \"launcher\": \x7b\n    \"customJavaDownload\": \x7b\x7d\n  \x7d\n\x7d".toList

/-- A LaunchServer with one runtime. -/
def registeredVolume : JavaVolume where
  file := fun path =>
    if path = launchServerConfigPath then
      some (TextDecoder.encode registeredText)
    else
      none
  directory := fun path =>
    if path = runtimeTarget "java21" then some [("bin/java", [127])] else none

/-- The LaunchServer does not start any more. -/
def sampleJava (faults : JavaPoint → Option String) : JavaEnvironment where
  faults := faults
  parse := fun raw =>
    if raw = registeredText then some (.object registeredConfig) else none
  stringify := fun _ => unregisteredText
  hasMember := fun value key =>
    match value with
    | .object fields => (Json.getField key fields).isSome
    | _ => false
  unpack := fun _ _ => .ok ⟨true, [("bin/java", [127])]⟩
  materialize := id
  restart := ⟨.error "Restart failed", id⟩
  build := ⟨.ok (), id⟩
  synchronize := id
  uuid := "1b9d6bcd-bbfd-4b2d-9b5d-ab8dfbbd4bed"
  timestamp := "2026-01-01T00-00-00-000Z"

theorem registeredText_decode :
    TextDecoder.decode (TextDecoder.encode registeredText) =
      registeredText := by
  decide +kernel

def newRuntime : JavaRuntimeInput :=
  ⟨"java17", 17, 1, .linux, "X86_64", false, .zip⟩

/-- After the failed restart the removed runtime is there again. -/
theorem sample_runtime_comes_back :
    ThrowsInto (RuntimeKept registeredVolume "java21")
      (removeRuntime (sampleJava fun _ => none) "java21")
      (before registeredVolume) := by
  have documented : LauncherDocumented (sampleJava fun _ => none) :=
    ⟨fun _ => ⟨fun _ => rfl, fun _ => rfl⟩,
      fun _ => ⟨fun _ => rfl, fun _ => rfl⟩⟩
  refine (javaRuntimes_transactional_iff _ documented registeredVolume
    newRuntime [80, 75] "java21" true).2.1.mpr ?_
  intro bytes config checked _ _
  have stored : registeredVolume.file launchServerConfigPath =
      some (TextDecoder.encode registeredText) := by
    simp only [registeredVolume, if_pos]
  rw [checked.found.stored, Option.some.injEq] at stored
  rw [stored]
  exact congrArg TextDecoder.encode registeredText_decode

def pendingRemoveFails (point : JavaPoint) : Option String :=
  if point = .pendingRemove then some "Unable to remove volume path"
  else none

/-- The archive has a single root, and the directory that held it cannot be
removed after the runtime is published. -/
theorem published_runtime_stays :
    ¬ ThrowsInto (RuntimeKept registeredVolume newRuntime.directory)
      (install (sampleJava pendingRemoveFails) newRuntime [80, 75])
      (before registeredVolume) := by
  intro throws
  have updates := (throws "Unable to remove volume path"
    (install (sampleJava pendingRemoveFails) newRuntime [80, 75]
      (before registeredVolume)).2 (by
        refine Prod.ext ?_ rfl
        decide +kernel)).updates
  revert updates
  decide +kernel

end GravitPanel.Clients
