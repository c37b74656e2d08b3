import GravitPanel.RemoteControl.Setup

/-!
# RemoteControl setup fails closed

After which failures of `setup` the token is revoked in all three places.
-/

namespace GravitPanel.RemoteControl

open Program

/-- The configuration lets requests with the token in. -/
def Accepts (token : String) (config : Option RemoteControlConfig) : Prop :=
  ∃ loaded, config = some loaded ∧ loaded.enabled = true ∧
    ∃ entry ∈ loaded.list, entry.token = token

/-- The file is disabled, nothing is stored, and the LaunchServer does not
accept the token. -/
structure FailedClosed (token : String) (state : SetupState) : Prop where
  config : state.files configPath = some (safeConfig none)
  credential : state.credential = none
  loaded : ¬ Accepts token state.loaded

/-- A setup that throws after it wrote the token has failed closed. -/
def ClosedOnceWritten (token : String) (state : SetupState) : Prop :=
  state.configWritten = true → FailedClosed token state

/-- The endpoint is valid and the LaunchServer has the module. -/
structure SetupChecked (environment : SetupEnvironment) (endpoint : String) :
    Prop where
  valid : environment.endpoint = .ok endpoint
  validated : environment.faults .validated = none
  available : ∃ lines, environment.modulesAvailable = .ok lines ∧
    (∀ index < lines.length,
      environment.faults (.availableLine index) = none) ∧
      offersRemoteControl lines = true
  artifactVerified : environment.faults .artifactVerified = none
  configExists : environment.faults .configExists = none

structure TokenWritten (environment : SetupEnvironment)
    (start : RemoteControlWorld) : Prop where
  checked : ∃ endpoint, SetupChecked environment endpoint
  snapshot : (start.files configPath).isSome →
    environment.faults .configCopy = none ∧
      environment.faults .snapshotCreated = none
  written : environment.faults .configWrite = none

structure ModulesListed (environment : SetupEnvironment)
    (modules : List String) : Prop where
  tokenWritten : environment.faults .tokenWritten = none
  answered : environment.modulesList = .ok modules
  logged : ∀ index < modules.length,
    environment.faults (.moduleLine index) = none

def TokenLoaded (environment : SetupEnvironment) : Prop :=
  ∃ modules, ModulesListed environment modules ∧
    environment.faults (.command (loadCommand modules)) = none

structure TransportVerified (environment : SetupEnvironment) : Prop where
  output : ∃ output, environment.loadOutput = .ok output ∧
    ∀ index < output.length, environment.faults (.loadLine index) = none
  moduleLoaded : environment.faults .moduleLoaded = none
  serverStatus : environment.serverStatus = .ok ()
  verified : environment.faults .transportVerified = none

structure CredentialStored (environment : SetupEnvironment) : Prop where
  saved : environment.faults .credentialSave = none
  stored : environment.faults .credentialStored = none

/-- When the setup fails and the LaunchServer has the token loaded, the log
line before the reload does not find the job cancelled. -/
def SetupSafe (environment : SetupEnvironment)
    (start : RemoteControlWorld) : Prop :=
  TokenWritten environment start →
    ¬ (TokenLoaded environment ∧ TransportVerified environment ∧
      CredentialStored environment) →
      TokenLoaded environment ∨ Accepts environment.token start.loaded →
        environment.faults .disabledLogged = none

section Recovery

variable {environment : SetupEnvironment} {state : SetupState}

theorem not_accepts_disabled (token : String) :
    ¬ Accepts token (some (safeConfig none)) := by
  rintro ⟨config, same, enabled, -⟩
  cases same
  cases enabled

theorem accepts_token (token : String) :
    Accepts token (some (safeConfig (some token))) :=
  ⟨_, rfl, rfl, tokenEntry token, List.mem_singleton_self _, rfl⟩

/-- The state after the recovery was logged. -/
def disabled (state : SetupState) : SetupState :=
  { writeConfig (safeConfig none) state with credential := none }

theorem reload_reached :
    (handle
      (update loadConfig >>= fun _ =>
        reachEach environment.faults .reloadLine
          environment.reloadOutput.length)
      (fun _ => reach environment.faults .deferredLogged) state).2 =
      loadConfig state := by
  have output := @readOnly_reachAll SetupState String _ environment.faults
    ((List.range environment.reloadOutput.length).map .reloadLine)
    (loadConfig state)
  rcases run : (update loadConfig >>= fun _ =>
      reachEach environment.faults .reloadLine
        environment.reloadOutput.length) state with ⟨failure | value, reached⟩
  · have same : reached = loadConfig state := by
      rw [← output]
      exact (congrArg Prod.snd run).symm
    rw [handle_of_error run, same]
    exact readOnly_reach _ _
  · rw [handle_of_ok run, ← output]
    exact (congrArg Prod.snd run).symm

theorem disable_reached :
    (disable environment state).2 =
      if environment.faults .disabledLogged = none then
        loadConfig (disabled state)
      else
        disabled state := by
  have first : disable environment state =
      (reach environment.faults .disabledLogged >>= fun _ =>
        handle
          (update loadConfig >>= fun _ =>
            reachEach environment.faults .reloadLine
              environment.reloadOutput.length)
          fun _ => reach environment.faults .deferredLogged)
        (disabled state) := rfl
  rw [first]
  cases fault : environment.faults .disabledLogged with
  | none =>
      rw [if_pos rfl, bind_of_ok (reach_eq_ok.mpr ⟨fault, rfl⟩),
        reload_reached]
      exact ()
  | some problem =>
      have thrown : reach environment.faults .disabledLogged
          (disabled state) = (.error problem, disabled state) := by
        rw [reach, lift_apply, outcomeAt_of_fault fault]
      rw [if_neg (by simp), bind_of_error thrown]

/-- The recovery revokes the token exactly when it gets to the reload, or the
token was not loaded. -/
theorem closed_recover_iff (written : state.configWritten = true) :
    ClosedOnceWritten environment.token (recover environment state).2 ↔
      (Accepts environment.token state.loaded →
        environment.faults .disabledLogged = none) := by
  have run : (recover environment state).2 =
      (disable environment state).2 := by
    rw [recover, get_bind, written]
    rfl
  have file : (disabled state).files configPath =
      some (safeConfig none) := by
    simp only [disabled, writeConfig, if_true]
  rw [run, disable_reached]
  cases fault : environment.faults .disabledLogged with
  | none =>
      rw [if_pos rfl]
      refine iff_of_true (fun _ => ⟨file, rfl, ?_⟩) fun _ => rfl
      rw [loadConfig, file]
      exact not_accepts_disabled _
  | some problem =>
      rw [if_neg (by simp)]
      constructor
      · intro closed accepted
        exact absurd accepted (closed written).loaded
      · intro rejected _
        refine ⟨file, rfl, fun accepted => ?_⟩
        cases rejected accepted

theorem closed_recover_unwritten (unwritten : state.configWritten = false) :
    ClosedOnceWritten environment.token (recover environment state).2 := by
  have run : (recover environment state).2 = state := by
    rw [recover, get_bind, unwritten]
    rfl
  rw [run]
  intro written
  rw [unwritten] at written
  cases written

end Recovery

section Parts

variable {environment : SetupEnvironment} {state : SetupState}

/-- The recovery from here fails closed. -/
def Closable (environment : SetupEnvironment) (state : SetupState) : Prop :=
  ClosedOnceWritten environment.token (recover environment state).2

theorem readOnly_listModules : ReadOnly (listModules environment) := by
  unfold listModules
  refine (readOnly_reach _).bind fun _ => ReadOnly.lift_bind fun modules => ?_
  exact (readOnly_reachAll _).bind fun _ => readOnly_pure _

theorem listModules_ok {modules : List String} :
    listModules environment state = (.ok modules, state) ↔
      ModulesListed environment modules := by
  rw [listModules, reach_bind_eq_ok, lift_bind_eq_ok]
  constructor
  · rintro ⟨written, lines, answered, run⟩
    rw [reachEach_bind_eq_ok] at run
    obtain ⟨logged, run⟩ := run
    cases run
    exact ⟨written, answered, logged⟩
  · intro listed
    refine ⟨listed.tokenWritten, modules, listed.answered, ?_⟩
    rw [reachEach_bind_eq_ok]
    exact ⟨listed.logged, rfl⟩

theorem loadToken_ok {value : Unit} {reached : SetupState} :
    loadToken environment state = (.ok value, reached) ↔
      TokenLoaded environment ∧ loadConfig state = reached := by
  rw [loadToken, readOnly_listModules.bind_eq_ok]
  constructor
  · rintro ⟨modules, listed, run⟩
    obtain ⟨issued, rfl⟩ := perform_eq_ok.mp run
    exact ⟨⟨modules, listModules_ok.mp listed, issued⟩, rfl⟩
  · rintro ⟨⟨modules, listed, issued⟩, rfl⟩
    exact ⟨modules, listModules_ok.mpr listed,
      perform_eq_ok.mpr ⟨issued, rfl⟩⟩

theorem atomic_loadToken : Atomic (loadToken environment) :=
  readOnly_listModules.bind_atomic fun _ => atomic_perform _ _

theorem throwsInto_loadToken (written : state.configWritten = true) :
    ThrowsInto (Closable environment) (loadToken environment) state ↔
      (¬ TokenLoaded environment →
        Accepts environment.token state.loaded →
          environment.faults .disabledLogged = none) := by
  rw [atomic_loadToken.throwsInto_iff, Closable, closed_recover_iff written,
    Classical.or_iff_not_imp_left]
  simp only [loadToken_ok, exists_and_left, exists_const, exists_eq', and_true]

theorem readOnly_verifyTransport : ReadOnly (verifyTransport environment) := by
  unfold verifyTransport
  refine ReadOnly.lift_bind fun output => (readOnly_reachAll _).bind fun _ => ?_
  refine (readOnly_reach _).bind fun _ => ReadOnly.lift_bind fun _ => ?_
  exact readOnly_reach _

theorem verifyTransport_ok {value : Unit} {reached : SetupState} :
    verifyTransport environment state = (.ok value, reached) ↔
      TransportVerified environment ∧ state = reached := by
  rw [verifyTransport, lift_bind_eq_ok]
  constructor
  · rintro ⟨output, answered, run⟩
    rw [reachEach_bind_eq_ok, reach_bind_eq_ok, lift_bind_eq_ok] at run
    obtain ⟨logged, loaded, _, status, run⟩ := run
    obtain ⟨verified, rfl⟩ := reach_eq_ok.mp run
    exact ⟨⟨⟨output, answered, logged⟩, loaded, status, verified⟩, rfl⟩
  · rintro ⟨verified, rfl⟩
    obtain ⟨output, answered, logged⟩ := verified.output
    refine ⟨output, answered, ?_⟩
    rw [reachEach_bind_eq_ok, reach_bind_eq_ok, lift_bind_eq_ok]
    exact ⟨logged, verified.moduleLoaded, (), verified.serverStatus,
      reach_eq_ok.mpr ⟨verified.verified, rfl⟩⟩

/-- With the token loaded, a failure is harmless only if the reload is
reached. -/
theorem closable_loaded (written : state.configWritten = true)
    (loaded : state.loaded = some (safeConfig (some environment.token))) :
    Closable environment state ↔
      environment.faults .disabledLogged = none := by
  rw [Closable, closed_recover_iff written, loaded]
  exact ⟨fun closed => closed (accepts_token _), fun clear _ => clear⟩

theorem throwsInto_storeCredential (endpoint : String)
    (written : state.configWritten = true)
    (loaded : state.loaded = some (safeConfig (some environment.token))) :
    ThrowsInto (Closable environment)
        (storeCredential environment endpoint) state ↔
      (¬ CredentialStored environment →
        environment.faults .disabledLogged = none) := by
  have before := closable_loaded written loaded
  have after := @closable_loaded environment
    (saveCredential environment endpoint state) written loaded
  rw [storeCredential, throwsInto_perform_bind, throwsInto_reach, before,
    after]
  constructor
  · intro throws failed
    by_cases saved : environment.faults .credentialSave = none
    · exact throws.2 saved fun stored => failed ⟨saved, stored⟩
    · exact throws.1 saved
  · intro closed
    constructor
    · exact fun fault => closed fun stored => fault stored.saved
    · exact fun _ fault => closed fun stored => fault stored.stored

theorem throwsInto_afterLoad (endpoint : String) {result : SetupResult}
    (written : state.configWritten = true)
    (loaded : state.loaded = some (safeConfig (some environment.token))) :
    ThrowsInto (Closable environment)
        (verifyTransport environment >>= fun _ =>
          storeCredential environment endpoint >>= fun _ => pure result)
        state ↔
      (¬ (TransportVerified environment ∧ CredentialStored environment) →
        environment.faults .disabledLogged = none) := by
  have store := @throwsInto_storeCredential environment state endpoint
    written loaded
  have closable := closable_loaded written loaded
  constructor
  · intro throws failed
    rw [throwsInto_bind] at throws
    by_cases verified : TransportVerified environment
    · have rest := throwsInto_bind_pure.mp
        (throws.2 () state (verifyTransport_ok.mpr ⟨verified, rfl⟩))
      exact store.mp rest fun stored => failed ⟨verified, stored⟩
    · refine closable.mp
        ((readOnly_verifyTransport.atomic.throwsInto_iff.mp
          throws.1).resolve_left ?_)
      rintro ⟨_, _, run⟩
      exact verified (verifyTransport_ok.mp run).1
  · intro closed
    have either : (∃ value reached, verifyTransport environment state =
        (.ok value, reached)) ∨ Closable environment state := by
      by_cases verified : TransportVerified environment
      · exact .inl ⟨(), state, verifyTransport_ok.mpr ⟨verified, rfl⟩⟩
      · exact .inr (closable.mpr (closed fun both => verified both.1))
    refine throwsInto_bind.mpr
      ⟨readOnly_verifyTransport.atomic.throwsInto_iff.mpr either,
        fun _ reached run => throwsInto_bind_pure.mpr ?_⟩
    obtain ⟨-, rfl⟩ := verifyTransport_ok.mp run
    exact store.mpr fun failed => closed fun both => failed both.2

def tokenWritten (environment : SetupEnvironment) (state : SetupState) :
    SetupState :=
  { writeConfig (safeConfig (some environment.token)) state with
    configWritten := true }

theorem tokenWritten_file :
    (tokenWritten environment state).files configPath =
      some (safeConfig (some environment.token)) := by
  simp only [tokenWritten, writeConfig, if_true]

theorem atomic_writeToken : Atomic (writeToken environment) := by
  intro start problem reached run
  rw [writeToken, bind_apply] at run
  rcases shape : perform environment.faults .configWrite
    (writeConfig (safeConfig (some environment.token))) start with
    ⟨failure | value, middle⟩
  · have same := atomic_perform _ _ _ _ _ shape
    rw [shape] at run
    cases run
    exact same
  · rw [shape] at run
    cases run

theorem writeToken_ok {value : Unit} {reached : SetupState} :
    writeToken environment state = (.ok value, reached) ↔
      environment.faults .configWrite = none ∧
        tokenWritten environment state = reached := by
  rw [writeToken, perform_bind_eq_ok, update_apply, Prod.mk.injEq]
  exact and_congr_right fun _ => ⟨And.right, fun same => ⟨rfl, same⟩⟩

/-- After a failure of the `try` block, the recovery fails closed exactly when
it gets to the reload or the token is not loaded. -/
theorem throwsInto_provision (endpoint : String) (backup : Option String)
    (unwritten : state.configWritten = false) :
    ThrowsInto (Closable environment)
        (provision environment endpoint backup) state ↔
      (environment.faults .configWrite = none →
        ¬ (TokenLoaded environment ∧ TransportVerified environment ∧
          CredentialStored environment) →
          TokenLoaded environment ∨
              Accepts environment.token state.loaded →
            environment.faults .disabledLogged = none) := by
  have harmless : Closable environment state :=
    closed_recover_unwritten unwritten
  have load := @throwsInto_loadToken environment
    (tokenWritten environment state) rfl
  have file := @tokenWritten_file environment state
  rw [provision]
  constructor
  · intro throws written failed accepted
    have run := (throwsInto_bind.mp throws).2 () _
      (writeToken_ok.mpr ⟨written, rfl⟩)
    rw [throwsInto_bind] at run
    by_cases loaded : TokenLoaded environment
    · have rest := run.2 () _ (loadToken_ok.mpr ⟨loaded, rfl⟩)
      exact (throwsInto_afterLoad endpoint rfl file).mp rest
        fun both => failed ⟨loaded, both⟩
    · exact load.mp run.1 loaded (accepted.resolve_left loaded)
  · intro closed
    refine throwsInto_bind.mpr
      ⟨atomic_writeToken.throwsInto_iff.mpr (.inr harmless),
        fun _ reached run => ?_⟩
    obtain ⟨written, rfl⟩ := writeToken_ok.mp run
    refine throwsInto_bind.mpr ⟨load.mpr fun unloaded accepted =>
      closed written (fun both => unloaded both.1) (.inr accepted),
        fun _ reached run => ?_⟩
    obtain ⟨loaded, rfl⟩ := loadToken_ok.mp run
    exact (throwsInto_afterLoad endpoint rfl file).mpr fun failed =>
      closed written (fun both => failed both.2) (.inl loaded)

end Parts

section Whole

variable {environment : SetupEnvironment} {start : RemoteControlWorld}

theorem readOnly_checkSetup : ReadOnly (checkSetup environment) := by
  unfold checkSetup
  refine ReadOnly.lift_bind fun _ => (readOnly_reach _).bind fun _ => ?_
  refine ReadOnly.lift_bind fun _ => (readOnly_reachAll _).bind fun _ => ?_
  refine ReadOnly.lift_bind fun _ => (readOnly_reach _).bind fun _ => ?_
  exact (readOnly_reach _).bind fun _ => readOnly_pure _

theorem demandModule_eq_ok {lines : List String} {value : Unit} :
    demandModule lines = .ok value ↔ offersRemoteControl lines = true := by
  unfold demandModule
  cases offersRemoteControl lines <;> simp

theorem checkSetup_ok {state : SetupState} {endpoint : String} :
    checkSetup environment state = (.ok endpoint, state) ↔
      SetupChecked environment endpoint := by
  rw [checkSetup, lift_bind_eq_ok]
  constructor
  · rintro ⟨_, valid, run⟩
    rw [reach_bind_eq_ok, lift_bind_eq_ok] at run
    obtain ⟨validated, lines, available, run⟩ := run
    rw [reachEach_bind_eq_ok, lift_bind_eq_ok] at run
    obtain ⟨logged, _, offered, run⟩ := run
    rw [reach_bind_eq_ok, reach_bind_eq_ok] at run
    obtain ⟨artifact, exists_, run⟩ := run
    cases run
    exact ⟨valid, validated, ⟨lines, available, logged,
      demandModule_eq_ok.mp offered⟩, artifact, exists_⟩
  · intro checked
    obtain ⟨lines, available, logged, offered⟩ := checked.available
    refine ⟨endpoint, checked.valid, ?_⟩
    rw [reach_bind_eq_ok, lift_bind_eq_ok]
    refine ⟨checked.validated, lines, available, ?_⟩
    rw [reachEach_bind_eq_ok, lift_bind_eq_ok]
    refine ⟨logged, (), demandModule_eq_ok.mpr offered, ?_⟩
    rw [reach_bind_eq_ok, reach_bind_eq_ok]
    exact ⟨checked.artifactVerified, checked.configExists, rfl⟩

/-- The token is not written and the LaunchServer has loaded nothing new. -/
structure Unwritten (start : RemoteControlWorld) (state : SetupState) :
    Prop where
  written : state.configWritten = false
  loaded : state.loaded = start.loaded

theorem keeps_snapshotConfig (present : Bool) :
    Keeps (Unwritten start) (snapshotConfig environment present) := by
  unfold snapshotConfig
  split
  · refine Keeps.bind ?_ fun _ =>
      (readOnly_reach _).keeps.bind fun _ => keeps_pure _
    refine (readOnly_reach _).keeps.bind fun _ => keeps_update ?_
    exact fun _ before => ⟨before.written, before.loaded⟩
  · exact keeps_pure _

theorem snapshotConfig_ok {state : SetupState} {present : Bool} :
    (∃ backup reached, snapshotConfig environment present state =
        (.ok backup, reached)) ↔
      (present = true → environment.faults .configCopy = none ∧
        environment.faults .snapshotCreated = none) := by
  cases present with
  | false =>
      exact iff_of_true ⟨_, _, rfl⟩ fun absurdity => by cases absurdity
  | true =>
      rw [snapshotConfig, if_pos rfl]
      simp only [perform_bind_eq_ok, reach_bind_eq_ok]
      constructor
      · rintro ⟨_, _, copied, logged, -⟩ _
        exact ⟨copied, logged⟩
      · intro clear
        exact ⟨_, _, (clear trivial).1, (clear trivial).2, rfl⟩

theorem Unwritten.closed {state : SetupState}
    (unwritten : Unwritten start state) :
    ClosedOnceWritten environment.token state := by
  intro written
  rw [unwritten.written] at written
  cases written

end Whole

/-- A setup that throws once the token is written has failed closed, exactly
when the recovery of a loaded token gets past its log line. -/
theorem setup_fails_closed_iff
    (environment : SetupEnvironment) (start : RemoteControlWorld) :
    ThrowsInto (ClosedOnceWritten environment.token) (setup environment)
        (.before start) ↔
      SetupSafe environment start := by
  have unwritten : Unwritten start (.before start) := ⟨rfl, rfl⟩
  have kept := @keeps_snapshotConfig environment start
    (start.files configPath).isSome
  have provisions : ∀ endpoint backup reached, Unwritten start reached →
      (ThrowsInto (ClosedOnceWritten environment.token)
        (provisionOrDisable environment endpoint backup) reached ↔ _) :=
    fun endpoint backup reached fresh =>
      Iff.trans throwsInto_recover
        (@throwsInto_provision environment reached endpoint backup
          fresh.written)
  rw [setup, readOnly_checkSetup.throwsInto_bind unwritten.closed]
  constructor
  · intro throws written failed accepted
    obtain ⟨endpoint, checked⟩ := written.checked
    have run := throws endpoint (checkSetup_ok.mpr checked)
    rw [throwsInto_get_bind, throwsInto_bind] at run
    obtain ⟨backup, reached, snapshot⟩ :=
      snapshotConfig_ok.mpr written.snapshot
    have fresh := kept.reached unwritten
    rw [snapshot] at fresh
    have rest := (provisions endpoint backup reached fresh).mp
      (run.2 backup reached snapshot)
    rw [fresh.loaded] at rest
    exact rest written.written failed accepted
  · intro safe endpoint checked
    rw [throwsInto_get_bind]
    refine throwsInto_bind.mpr
      ⟨(kept.throwsInto unwritten).mono fun _ fresh => fresh.closed,
        fun backup reached snapshot => ?_⟩
    have fresh := kept.reached unwritten
    rw [show snapshotConfig environment (start.files configPath).isSome
      (.before start) = (.ok backup, reached) from snapshot] at fresh
    refine (provisions endpoint backup reached fresh).mpr fun written => ?_
    rw [fresh.loaded]
    exact safe ⟨⟨endpoint, checkSetup_ok.mp checked⟩,
      snapshotConfig_ok.mp ⟨backup, reached, snapshot⟩, written⟩

def sampleWorld : RemoteControlWorld where
  files := fun _ => none
  loaded := none
  credential := none

/-- The calls that use the job context after the module is loaded. -/
def isJobCall : SetupPoint → Bool
  | .loadLine _ | .moduleLoaded | .transportVerified | .credentialStored
  | .disabledLogged | .reloadLine _ | .deferredLogged => true
  | _ => false

def cancelledOnceLoaded (point : SetupPoint) : Option String :=
  if isJobCall point then some "Job cancelled by user" else none

def sampleSetup : SetupEnvironment where
  faults := cancelledOnceLoaded
  token := "3pK1"
  timestamp := "2026-01-01T00-00-00.000Z"
  sourceRevision := "0fcdfade1960c353a9f0bbb2f92055f05e22867d"
  endpoint := .ok "http://localhost:9274"
  modulesAvailable := .ok ["Found LaunchServer module RemoteControl"]
  modulesList := .ok []
  loadOutput := .ok ["Module RemoteControl loaded"]
  serverStatus := .ok ()
  reloadOutput := []
  hostPath := id

/-- The LaunchServer goes on accepting the token, since no reload is issued. -/
theorem loaded_token_stays_accepted :
    ¬ ThrowsInto (ClosedOnceWritten sampleSetup.token) (setup sampleSetup)
      (.before sampleWorld) := by
  intro throws
  have closed := throws "Job cancelled by user"
    (setup sampleSetup (.before sampleWorld)).2 (by
      refine Prod.ext ?_ rfl
      decide +kernel)
  have failed := closed (by decide +kernel)
  have loaded : (setup sampleSetup (.before sampleWorld)).2.loaded =
      some (safeConfig (some sampleSetup.token)) := by
    decide +kernel
  refine failed.loaded ?_
  rw [loaded]
  exact accepts_token _

end GravitPanel.RemoteControl
