import GravitPanel.ModuleManagement.Removal

/-!
# The removal of a module as a transaction

Which failures of `remove` leave `modules.json` and the JAR as they were.
-/

namespace GravitPanel.ModuleManagement

open Program Volume Clients

/-- `modules.json` is byte-identical and the JAR is where it was. -/
structure RemovalUndone (item : CatalogModule) (before after : ByteVolume) :
    Prop where
  config : after.file modulesConfigPath = before.file modulesConfigPath
  jar : after.file (jarPath item) = before.file (jarPath item)

/-- What `modules.json` holds. -/
def configValue (environment : RemovalEnvironment) (volume : ByteVolume) :
    Option JsonFields :=
  match volume.file modulesConfigPath with
  | none => none
  | some bytes =>
      match environment.parse (TextDecoder.decode bytes) with
      | .error _ => none
      | .ok value => value.fields?

/-- The module's entries and its JAR are gone, and everything else in
`modules.json` is as before. -/
structure ModuleRemoved (environment : RemovalEnvironment)
    (item : CatalogModule) (before after : ByteVolume) : Prop where
  jar : after.file (jarPath item) = none
  config : ∃ source next, configValue environment before = some source ∧
    configValue environment after = some next ∧
      (∀ key ∈ [loadModules, loadLauncherModules],
        ∃ entries, entries? (listed key source) = some entries ∧
          entries? (listed key next) =
            some (entries.filter fun entry => !isReference item entry)) ∧
        ∀ key ∉ [loadModules, loadLauncherModules],
          Json.getField key next = Json.getField key source

/-- What is documented: a value of `modules.json` without the module is read
back from its JSON text, an object's text starts with a brace, and a restart
leaves `modules.json`, the JAR and its backup alone. -/
structure DocumentedRemoval (environment : RemovalEnvironment)
    (item : CatalogModule) : Prop where
  readBack : ∀ config next,
    withoutModuleReference environment.parse item config = .ok next →
      environment.parse (environment.stringify next ++ ['\n']) = .ok next
  opening : ∀ fields,
    (environment.stringify (.object fields)).head? = some '\x7b'
  restart : ∀ volume,
    ∀ path ∈ [modulesConfigPath, jarPath item,
        removalBackup environment item],
      (environment.restart.change volume).file path = volume.file path ∧
        (environment.recoveryRestart.change volume).file path =
          volume.file path

/-- The steps before the first change succeed. -/
structure RemovalPlanned (environment : RemovalEnvironment)
    (item : CatalogModule) (start : ByteVolume) (bytes : List UInt8)
    (next : Json) : Prop where
  checking : environment.faults .checking = none
  jarExists : environment.faults .jarExists = none
  jar : (start.file (jarPath item)).isSome
  configRead : environment.faults .configRead = none
  config : start.file modulesConfigPath = some bytes
  parsed : withoutModuleReference environment.parse item
    (TextDecoder.decode bytes) = .ok next
  unlisting : environment.faults .unlisting = none

structure JarStaged (environment : RemovalEnvironment) : Prop where
  staging : environment.faults .staging = none
  moved : environment.faults .jarMove = none

structure ModuleUnloaded (environment : RemovalEnvironment) : Prop where
  restarting : environment.faults .restarting = none
  restarted : environment.restart.answer = .ok ()

structure RemovalFinished (environment : RemovalEnvironment) : Prop where
  finalizing : environment.faults .finalizing = none
  backupRemoved : environment.faults .backupRemove = none
  removed : environment.faults .removed = none

/-- After the restart nothing fails, and what is written back in a rollback is
what was read. -/
structure RemovalSafe (environment : RemovalEnvironment)
    (item : CatalogModule) (start : ByteVolume) : Prop where
  finished : ∀ bytes next, RemovalPlanned environment item start bytes next →
    environment.faults .configWrite = none → JarStaged environment →
      ModuleUnloaded environment → RemovalFinished environment
  readable : ∀ bytes next, RemovalPlanned environment item start bytes next →
    environment.faults .configWrite = none →
      ¬ (JarStaged environment ∧ ModuleUnloaded environment) →
        Utf8.Valid bytes ∧ ¬ TextDecoder.byteOrderMark <+: bytes

section Paths

variable (environment : RemovalEnvironment) (item : CatalogModule)

theorem jarPath_ne_config : jarPath item ≠ modulesConfigPath := by
  intro same
  have letters := congrArg (fun path => path.toList[7]?) same
  simp [jarPath, modulesConfigPath] at letters

theorem removalBackup_ne_config :
    removalBackup environment item ≠ modulesConfigPath := by
  intro same
  have letters := congrArg (fun path => path.toList[7]?) same
  simp [removalBackup, modulesConfigPath] at letters

theorem removalBackup_ne_jar :
    removalBackup environment item ≠ jarPath item := by
  intro same
  have lengths := congrArg String.length same
  have modules : "modules/".length = 8 := by decide
  have hidden : "modules/.".length = 9 := by decide
  rw [removalBackup, jarPath, String.length_append, String.length_append,
    String.length_append, String.length_append, modules, hidden] at lengths
  omega

end Paths

section Config

variable {environment : RemovalEnvironment} {item : CatalogModule}

theorem strings?_map (texts : List String) :
    strings? (texts.map .string) = some texts := by
  induction texts with
  | nil => rfl
  | cons text rest ih =>
      rw [List.map_cons, strings?, ih]
      rfl

theorem withoutReference_eq_ok {key : String} {value next : Json} :
    withoutReference item key value = .ok next ↔
      ∃ entries, entries? value = some entries ∧
        next = .array ((entries.filter fun entry =>
          !isReference item entry).map .string) := by
  unfold withoutReference
  cases entries? value with
  | none => simp
  | some entries => simp [eq_comm]

theorem withoutModuleFields_eq_ok {source : JsonFields} {next : Json}
    (removed : withoutModuleFields item source = .ok next) :
    ∃ fields, next = .object fields ∧
      (∀ key ∈ [loadModules, loadLauncherModules],
        ∃ entries, entries? (listed key source) = some entries ∧
          entries? (listed key fields) =
            some (entries.filter fun entry => !isReference item entry)) ∧
        ∀ key ∉ [loadModules, loadLauncherModules],
          Json.getField key fields = Json.getField key source := by
  obtain ⟨modules, modulesEq, rest⟩ := outcome_bind_eq_ok.mp removed
  obtain ⟨launcher, launcherEq, result⟩ := outcome_bind_eq_ok.mp rest
  cases result
  obtain ⟨entries, listedEntries, rfl⟩ :=
    withoutReference_eq_ok.mp modulesEq
  obtain ⟨launcherEntries, listedLauncher, rfl⟩ :=
    withoutReference_eq_ok.mp launcherEq
  have apart : loadModules ≠ loadLauncherModules := by decide
  refine ⟨_, rfl, ?_, ?_⟩
  · intro key member
    rw [List.mem_cons, List.mem_singleton] at member
    rcases member with rfl | rfl
    · refine ⟨entries, listedEntries, ?_⟩
      rw [listed, Json.getField_setField_of_ne apart,
        Json.getField_setField_self]
      exact strings?_map _
    · refine ⟨launcherEntries, listedLauncher, ?_⟩
      rw [listed, Json.getField_setField_self]
      exact strings?_map _
  · intro key other
    rw [List.mem_cons, List.mem_singleton, not_or] at other
    rw [Json.getField_setField_of_ne other.2,
      Json.getField_setField_of_ne other.1]

theorem withoutModuleReference_eq_ok
    {parse : List Char → Except String Json} {config : List Char}
    {next : Json}
    (removed : withoutModuleReference parse item config = .ok next) :
    ∃ source, parse config = .ok (.object source) ∧
      withoutModuleFields item source = .ok next := by
  unfold withoutModuleReference at removed
  split at removed
  · cases removed
  · rename_i source parsed
    exact ⟨source, parsed, removed⟩
  · cases removed

theorem configValue_written
    (documented : DocumentedRemoval environment item)
    {config : List Char} {fields : JsonFields} {volume : ByteVolume}
    (removed : withoutModuleReference environment.parse item config =
      .ok (.object fields))
    (written : volume.file modulesConfigPath =
      some (TextDecoder.encode
        (environment.stringify (.object fields) ++ ['\n']))) :
    configValue environment volume = some fields := by
  have opening := documented.opening fields
  have unmarked :
      (environment.stringify (.object fields) ++ ['\n']).head? ≠
        some '\uFEFF' := by
    cases text : environment.stringify (.object fields) with
    | nil =>
        rw [text] at opening
        cases opening
    | cons letter rest =>
        rw [text] at opening
        cases opening
        rw [List.cons_append, List.head?_cons]
        decide
  rw [configValue, written]
  simp only
  rw [TextDecoder.decode_encode unmarked, documented.readBack config _ removed]
  rfl

end Config

section Parts

variable {environment : RemovalEnvironment} {item : CatalogModule}
variable {start volume : ByteVolume} {bytes : List UInt8} {next : Json}

/-- What is written back is what was there. -/
def Readable (bytes : List UInt8) : Prop :=
  Utf8.Valid bytes ∧ ¬ TextDecoder.byteOrderMark <+: bytes

theorem undone_writeConfig
    (config : start.file modulesConfigPath = some bytes)
    (jar : volume.file (jarPath item) = start.file (jarPath item)) :
    RemovalUndone item start
        (writeConfig (TextDecoder.decode bytes) volume) ↔
      Readable bytes := by
  have written : (writeConfig (TextDecoder.decode bytes) volume).file
      modulesConfigPath =
        some (TextDecoder.encode (TextDecoder.decode bytes)) :=
    file_setFile_self _ _ _
  have kept : (writeConfig (TextDecoder.decode bytes) volume).file
      (jarPath item) = start.file (jarPath item) :=
    (file_setFile_of_ne (jarPath_ne_config item) _ _).trans jar
  rw [Readable, ← TextDecoder.encode_decode_eq_iff]
  constructor
  · intro undone
    have same := undone.config
    rw [written, config, Option.some.injEq] at same
    exact same
  · intro same
    refine ⟨?_, kept⟩
    rw [written, config, same]

/-- The volume once `modules.json` is replaced. -/
def unlisted (environment : RemovalEnvironment) (next : Json)
    (start : ByteVolume) : ByteVolume :=
  writeConfig (environment.stringify next ++ ['\n']) start

/-- The volume once the JAR is moved aside. -/
def staged (environment : RemovalEnvironment) (item : CatalogModule)
    (next : Json) (start : ByteVolume) : ByteVolume :=
  moveFile (jarPath item) (removalBackup environment item)
    (unlisted environment next start)

theorem unlisted_jar :
    (unlisted environment next start).file (jarPath item) =
      start.file (jarPath item) :=
  file_setFile_of_ne (jarPath_ne_config item) _ _

theorem staged_backup :
    (staged environment item next start).file
        (removalBackup environment item) = start.file (jarPath item) := by
  rw [staged, moveFile, file_setFile_of_ne (removalBackup_ne_jar _ _),
    file_setFile_self]
  exact unlisted_jar

variable {reached : ByteVolume} {value : Unit}

theorem moveJarAside_ok :
    moveJarAside environment item volume = (.ok value, reached) ↔
      JarStaged environment ∧
        moveFile (jarPath item) (removalBackup environment item) volume =
          reached := by
  rw [moveJarAside, reach_bind_eq_ok, perform_eq_ok, ← and_assoc]
  exact and_congr_left' ⟨fun clear => ⟨clear.1, clear.2⟩,
    fun clear => ⟨clear.staging, clear.moved⟩⟩

theorem throwsInto_stageJar
    (config : start.file modulesConfigPath = some bytes) :
    ThrowsInto (RemovalUndone item start)
        (stageJar environment item (TextDecoder.decode bytes))
        (unlisted environment next start) ↔
      (¬ JarStaged environment → Readable bytes) := by
  have undone := @undone_writeConfig item start
    (unlisted environment next start) bytes config unlisted_jar
  rw [stageJar, throwsInto_restore, moveJarAside, throwsInto_reach_bind,
    throwsInto_perform, undone]
  constructor
  · intro throws failed
    by_cases staging : environment.faults .staging = none
    · by_cases moved : environment.faults .jarMove = none
      · exact absurd ⟨staging, moved⟩ failed
      · exact throws.2 staging moved
    · exact throws.1 staging
  · intro readable
    constructor
    · exact fun fault => readable fun clear => fault clear.staging
    · exact fun _ fault => readable fun clear => fault clear.moved

theorem undone_recoverModule
    (documented : DocumentedRemoval environment item)
    (config : start.file modulesConfigPath = some bytes)
    (backup : volume.file (removalBackup environment item) =
      start.file (jarPath item)) :
    RemovalUndone item start
        (recoverModule environment item (TextDecoder.decode bytes)
          volume).2 ↔
      Readable bytes := by
  have back : (moveFile (removalBackup environment item) (jarPath item)
      volume).file (jarPath item) = start.file (jarPath item) := by
    rw [moveFile, file_setFile_of_ne (removalBackup_ne_jar _ _).symm,
      file_setFile_self]
    exact backup
  have kept : ∀ volume, ∀ path ∈ [modulesConfigPath, jarPath item],
      (environment.recoveryRestart.change volume).file path =
        volume.file path := by
    intro volume path member
    exact (documented.restart volume path
      (List.mem_append_left [removalBackup environment item] member)).2
  rw [← undone_writeConfig config back]
  constructor
  · intro undone
    constructor
    · exact (kept _ _ List.mem_cons_self).symm.trans undone.config
    · exact (kept _ _ (List.mem_cons_of_mem _ List.mem_cons_self)).symm.trans
        undone.jar
  · intro undone
    constructor
    · exact (kept _ _ List.mem_cons_self).trans undone.config
    · exact (kept _ _ (List.mem_cons_of_mem _ List.mem_cons_self)).trans
        undone.jar

theorem restarted_backup (documented : DocumentedRemoval environment item) :
    (environment.restart.change volume).file
        (removalBackup environment item) =
      volume.file (removalBackup environment item) :=
  (documented.restart volume _ (by simp)).1

theorem restartWithoutModule_ok :
    restartWithoutModule environment volume = (.ok value, reached) ↔
      ModuleUnloaded environment ∧
        environment.restart.change volume = reached := by
  rw [restartWithoutModule, reach_bind_eq_ok, callService_ok, ← and_assoc]
  exact and_congr_left' ⟨fun clear => ⟨clear.1, clear.2⟩,
    fun clear => ⟨clear.restarting, clear.restarted⟩⟩

theorem throwsInto_unloadModule
    (documented : DocumentedRemoval environment item)
    (config : start.file modulesConfigPath = some bytes)
    (backup : volume.file (removalBackup environment item) =
      start.file (jarPath item)) :
    ThrowsInto (RemovalUndone item start)
        (unloadModule environment item (TextDecoder.decode bytes)) volume ↔
      (¬ ModuleUnloaded environment → Readable bytes) := by
  have before := undone_recoverModule documented config backup
  have after := undone_recoverModule documented config
    ((restarted_backup documented).trans backup)
  rw [unloadModule, throwsInto_recover, restartWithoutModule,
    throwsInto_reach_bind, throwsInto_callService, before, after]
  constructor
  · intro throws failed
    by_cases restarting : environment.faults .restarting = none
    · by_cases restarted : environment.restart.answer = .ok ()
      · exact absurd ⟨restarting, restarted⟩ failed
      · exact throws.2 restarting restarted
    · exact throws.1 restarting
  · intro readable
    constructor
    · exact fun fault => readable fun clear => fault clear.restarting
    · exact fun _ fault => readable fun clear => fault clear.restarted

theorem throwsInto_finishRemoval
    (gone : volume.file (jarPath item) ≠ start.file (jarPath item)) :
    ThrowsInto (RemovalUndone item start) (finishRemoval environment item)
        volume ↔
      RemovalFinished environment := by
  have lost : ¬ RemovalUndone item start volume :=
    fun undone => gone undone.jar
  have stillLost : ¬ RemovalUndone item start
      (volume.setFile (removalBackup environment item) none) := by
    intro undone
    apply gone
    rw [← undone.jar]
    exact (file_setFile_of_ne (removalBackup_ne_jar _ _).symm _ _).symm
  rw [finishRemoval, throwsInto_reach_bind, throwsInto_perform_bind,
    throwsInto_reach]
  constructor
  · rintro ⟨finalizing, rest⟩
    have clear := not_not.mp (mt finalizing lost)
    have removed := not_not.mp (mt (rest clear).1 lost)
    exact ⟨clear, removed, not_not.mp (mt ((rest clear).2 removed) stillLost)⟩
  · intro finished
    refine ⟨fun fault => absurd finished.finalizing fault, fun _ => ?_⟩
    refine ⟨fun fault => absurd finished.backupRemoved fault, fun _ => ?_⟩
    exact fun fault => absurd finished.removed fault

theorem finishRemoval_ok
    (run : finishRemoval environment item volume = (.ok value, reached)) :
    reached = volume.setFile (removalBackup environment item) none := by
  rw [finishRemoval, reach_bind_eq_ok, perform_bind_eq_ok,
    reach_eq_ok] at run
  exact run.2.2.2.symm

theorem demandJar_eq_ok {present : Bool} :
    demandJar item present = .ok value ↔ present = true := by
  cases present <;> simp [demandJar]

theorem demandFile_eq_ok {content : Option (List UInt8)} :
    demandFile content = .ok bytes ↔ content = some bytes := by
  cases content <;> simp [demandFile]

theorem planRemoval_ok {plan : RemovalPlan} :
    planRemoval environment item start = (.ok plan, start) ↔
      ∃ bytes, RemovalPlanned environment item start bytes plan.next ∧
        plan.config = TextDecoder.decode bytes := by
  rw [planRemoval, reach_bind_eq_ok, reach_bind_eq_ok, get_bind,
    lift_bind_eq_ok]
  constructor
  · rintro ⟨checking, jarExists, _, jar, run⟩
    rw [reach_bind_eq_ok, lift_bind_eq_ok] at run
    obtain ⟨configRead, bytes, config, run⟩ := run
    obtain ⟨next, parsed, run⟩ := lift_bind_eq_ok.mp run
    rw [reach_bind_eq_ok] at run
    obtain ⟨unlisting, run⟩ := run
    cases run
    exact ⟨bytes, ⟨checking, jarExists, demandJar_eq_ok.mp jar, configRead,
      demandFile_eq_ok.mp config, parsed, unlisting⟩, rfl⟩
  · rintro ⟨bytes, planned, text⟩
    refine ⟨planned.checking, planned.jarExists, (),
      demandJar_eq_ok.mpr planned.jar, ?_⟩
    rw [reach_bind_eq_ok, lift_bind_eq_ok]
    refine ⟨planned.configRead, bytes,
      demandFile_eq_ok.mpr planned.config, ?_⟩
    rw [lift_bind_eq_ok]
    refine ⟨plan.next, planned.parsed, ?_⟩
    rw [reach_bind_eq_ok, ← text]
    exact ⟨planned.unlisting, rfl⟩

theorem readOnly_planRemoval : ReadOnly (planRemoval environment item) := by
  unfold planRemoval
  refine (readOnly_reach _).bind fun _ => (readOnly_reach _).bind fun _ => ?_
  refine readOnly_get.bind fun volume => ReadOnly.lift_bind fun _ => ?_
  refine (readOnly_reach _).bind fun _ => ReadOnly.lift_bind fun bytes => ?_
  refine ReadOnly.lift_bind fun next => (readOnly_reach _).bind fun _ => ?_
  exact readOnly_pure _

theorem stageJar_ok {config : List Char}
    :
    stageJar environment item config volume = (.ok value, reached) ↔
      JarStaged environment ∧
        moveFile (jarPath item) (removalBackup environment item) volume =
          reached := by
  rw [stageJar, restore_eq_ok, moveJarAside_ok]

theorem unloadModule_ok {config : List Char}
    :
    unloadModule environment item config volume = (.ok value, reached) ↔
      ModuleUnloaded environment ∧
        environment.restart.change volume = reached := by
  rw [unloadModule, recover_eq_ok, restartWithoutModule_ok]

/-- The volume after the restart. -/
def unloaded (environment : RemovalEnvironment) (item : CatalogModule)
    (next : Json) (start : ByteVolume) : ByteVolume :=
  environment.restart.change (staged environment item next start)

theorem unloaded_jar (documented : DocumentedRemoval environment item) :
    (unloaded environment item next start).file (jarPath item) = none := by
  have kept := (documented.restart (staged environment item next start)
    (jarPath item) (by simp)).1
  exact kept.trans (file_setFile_self _ _ _)

theorem unloaded_config (documented : DocumentedRemoval environment item) :
    (unloaded environment item next start).file modulesConfigPath =
      some (TextDecoder.encode (environment.stringify next ++ ['\n'])) := by
  have kept := (documented.restart (staged environment item next start)
    modulesConfigPath (by simp)).1
  rw [unloaded, kept, staged, moveFile,
    file_setFile_of_ne (jarPath_ne_config item).symm,
    file_setFile_of_ne (removalBackup_ne_config environment item).symm]
  exact file_setFile_self _ _ _

/-- A removal that is planned leaves everything as before whenever it throws,
exactly when its later steps are safe. -/
theorem throwsInto_carryOut
    (documented : DocumentedRemoval environment item)
    (planned : RemovalPlanned environment item start bytes next) :
    ThrowsInto (RemovalUndone item start)
        (carryOut environment item ⟨TextDecoder.decode bytes, next⟩)
        start ↔
      (environment.faults .configWrite = none →
        (¬ (JarStaged environment ∧ ModuleUnloaded environment) →
            Readable bytes) ∧
          (JarStaged environment → ModuleUnloaded environment →
            RemovalFinished environment)) := by
  have gone : (unloaded environment item next start).file (jarPath item) ≠
      start.file (jarPath item) := by
    intro same
    rw [unloaded_jar documented] at same
    have present := planned.jar
    rw [← same] at present
    cases present
  have stage := @throwsInto_stageJar environment item start bytes next
    planned.config
  have unload := throwsInto_unloadModule documented planned.config
    (@staged_backup environment item start next)
  have finish := @throwsInto_finishRemoval environment item start _ gone
  rw [carryOut, throwsInto_perform_bind]
  constructor
  · intro throws written
    have run := throws.2 written
    rw [throwsInto_bind] at run
    have staging := stage.mp run.1
    have later : JarStaged environment → _ := fun jarStaged =>
      throwsInto_bind.mp (run.2 () _ (stageJar_ok.mpr ⟨jarStaged, rfl⟩))
    constructor
    · intro failed
      by_cases jarStaged : JarStaged environment
      · exact unload.mp (later jarStaged).1
          fun unloaded => failed ⟨jarStaged, unloaded⟩
      · exact staging jarStaged
    · intro jarStaged unloaded
      exact finish.mp ((later jarStaged).2 () _
        (unloadModule_ok.mpr ⟨unloaded, rfl⟩))
  · intro safe
    refine ⟨fun _ => ⟨rfl, rfl⟩, fun written => ?_⟩
    obtain ⟨readable, finished⟩ := safe written
    refine throwsInto_bind.mpr ⟨stage.mpr fun failed =>
      readable fun both => failed both.1, fun _ reached run => ?_⟩
    obtain ⟨jarStaged, rfl⟩ := stageJar_ok.mp run
    refine throwsInto_bind.mpr ⟨unload.mpr fun failed =>
      readable fun both => failed both.2, fun _ reached run => ?_⟩
    obtain ⟨unloaded, rfl⟩ := unloadModule_ok.mp run
    exact finish.mpr (finished jarStaged unloaded)

theorem returnsInto_carryOut
    (documented : DocumentedRemoval environment item)
    (planned : RemovalPlanned environment item start bytes next) :
    ReturnsInto (ModuleRemoved environment item start)
      (carryOut environment item ⟨TextDecoder.decode bytes, next⟩)
      start := by
  intro value reached run
  rw [carryOut, perform_bind_eq_ok] at run
  obtain ⟨_, _, stage, run⟩ := (bind_eq_ok.mp run.2)
  obtain ⟨-, rfl⟩ := stageJar_ok.mp stage
  obtain ⟨_, _, unload, run⟩ := bind_eq_ok.mp run
  obtain ⟨-, rfl⟩ := unloadModule_ok.mp unload
  rw [finishRemoval_ok run]
  obtain ⟨source, parsed, removed⟩ :=
    withoutModuleReference_eq_ok planned.parsed
  obtain ⟨fields, rfl, entries, others⟩ := withoutModuleFields_eq_ok removed
  constructor
  · rw [file_setFile_of_ne (removalBackup_ne_jar environment item).symm]
    exact unloaded_jar documented
  · refine ⟨source, fields, ?_, ?_, entries, others⟩
    · rw [configValue, planned.config]
      simp only [parsed, Json.fields?]
    · refine configValue_written documented planned.parsed ?_
      rw [file_setFile_of_ne (removalBackup_ne_config environment item).symm]
      exact unloaded_config documented

end Parts

/-- The removal of a module is a transaction exactly when nothing fails after
the restart and what a rollback writes back is what was read. -/
theorem remove_transactional_iff
    {environment : RemovalEnvironment} {item : CatalogModule}
    (documented : DocumentedRemoval environment item)
    (start : ByteVolume) :
    (ThrowsInto (RemovalUndone item start) (remove environment item) start ∧
        ReturnsInto (ModuleRemoved environment item start)
          (remove environment item) start) ↔
      RemovalSafe environment item start := by
  have returns : ReturnsInto (ModuleRemoved environment item start)
      (remove environment item) start := by
    intro value reached run
    rw [remove, readOnly_planRemoval.bind_eq_ok] at run
    obtain ⟨⟨config, next⟩, plan, run⟩ := run
    obtain ⟨bytes, planned, text⟩ := planRemoval_ok.mp plan
    cases text
    exact returnsInto_carryOut documented planned value reached run
  rw [and_iff_left returns, remove,
    readOnly_planRemoval.throwsInto_bind ⟨rfl, rfl⟩]
  constructor
  · intro throws
    have safe : ∀ bytes next,
        RemovalPlanned environment item start bytes next → _ :=
      fun bytes next planned =>
        (throwsInto_carryOut documented planned).mp
          (throws ⟨TextDecoder.decode bytes, next⟩
            (planRemoval_ok.mpr ⟨bytes, planned, rfl⟩))
    constructor
    · exact fun bytes next planned written =>
        (safe bytes next planned written).2
    · exact fun bytes next planned written =>
        (safe bytes next planned written).1
  · rintro safe ⟨config, next⟩ plan
    obtain ⟨bytes, planned, text⟩ := planRemoval_ok.mp plan
    cases text
    refine (throwsInto_carryOut documented planned).mpr fun written => ?_
    constructor
    · exact safe.readable bytes next planned written
    · exact safe.finished bytes next planned written

def sampleModule : CatalogModule where
  id := "MirrorHelper_module"
  name := "MirrorHelper"
  jar := "MirrorHelper_module.jar"

def emptyObject : List Char := "\x7b\x7d".toList

/-- A volume where the module is installed and nothing lists it. -/
def sampleModules : ByteVolume where
  file := fun path =>
    if path = modulesConfigPath then some (TextDecoder.encode emptyObject)
    else if path = jarPath sampleModule then some [0x50, 0x4B]
    else none
  directory := fun _ => none

/-- JSON texts of the two values that occur. -/
def sampleRemoval (faults : RemovalPoint → Option String) :
    RemovalEnvironment where
  faults := faults
  uuid := "9f0c"
  parse := fun text =>
    if text = emptyObject then .ok (.object [])
    else .ok (.object [(loadModules, .array []),
      (loadLauncherModules, .array [])])
  stringify := fun _ =>
    ("\x7b\n  \"loadModules\": [],\n" ++
      "  \"loadLauncherModules\": []\n\x7d").toList
  restart := ⟨.ok (), id⟩
  recoveryRestart := ⟨.ok (), id⟩

theorem sampleRemoval_documented (faults : RemovalPoint → Option String) :
    DocumentedRemoval (sampleRemoval faults) sampleModule where
  readBack := by
    intro config next removed
    obtain ⟨source, parsed, fields⟩ := withoutModuleReference_eq_ok removed
    have value : next = .object [(loadModules, .array []),
        (loadLauncherModules, .array [])] := by
      have either : source = [] ∨ source = [(loadModules, .array []),
          (loadLauncherModules, .array [])] := by
        unfold sampleRemoval at parsed
        simp only at parsed
        split at parsed
        · cases parsed
          exact .inl rfl
        · cases parsed
          exact .inr rfl
      rcases either with rfl | rfl
      · exact (Except.ok.inj fields).symm
      · exact (Except.ok.inj fields).symm
    rw [value]
    rfl
  opening := fun _ => rfl
  restart := fun _ _ _ => ⟨rfl, rfl⟩

/-- Without a failure the removal is a transaction. -/
theorem sample_removal_transactional :
    ThrowsInto (RemovalUndone sampleModule sampleModules)
        (remove (sampleRemoval fun _ => none) sampleModule)
          sampleModules ∧
      ReturnsInto
        (ModuleRemoved (sampleRemoval fun _ => none) sampleModule
          sampleModules)
        (remove (sampleRemoval fun _ => none) sampleModule)
          sampleModules := by
  refine (remove_transactional_iff (sampleRemoval_documented _) _).mpr
    ⟨fun _ _ _ _ _ _ => ⟨rfl, rfl, rfl⟩, fun _ _ _ _ failed => ?_⟩
  exact absurd ⟨⟨rfl, rfl⟩, ⟨rfl, rfl⟩⟩ failed

def cancelledAfterRestart (point : RemovalPoint) : Option String :=
  if point = .finalizing then some "Job cancelled by user" else none

/-- The JAR stays under its backup name, and the module is not listed any
more. -/
theorem removed_module_stays_removed :
    ¬ ThrowsInto (RemovalUndone sampleModule sampleModules)
      (remove (sampleRemoval cancelledAfterRestart) sampleModule)
        sampleModules := by
  intro throws
  have undone := throws "Job cancelled by user"
    (remove (sampleRemoval cancelledAfterRestart) sampleModule
      sampleModules).2 (by
        refine Prod.ext ?_ rfl
        decide +kernel)
  have jar := undone.jar
  revert jar
  decide +kernel

end GravitPanel.ModuleManagement
