import Mathlib.Data.List.Infix
import GravitPanel.Core.Faults

/-!
# Setting up RemoteControl

`RemoteControlSetupService.setup` over three places: the files of the volume,
the configuration that the LaunchServer loaded last, and the stored credential
of the installation.  The writes and the reload of the recovery succeed once
they are issued.
-/

namespace GravitPanel.RemoteControl

open Program

structure TokenEntry where
  token : String
  permissions : Nat
  allowAll : Bool
  startWithMode : Bool
  commands : List String
  deriving DecidableEq, Repr

structure RemoteControlConfig where
  list : List TokenEntry
  enabled : Bool
  deriving DecidableEq, Repr

def tokenEntry (token : String) : TokenEntry where
  token := token
  permissions := 0
  allowAll := false
  startWithMode := false
  commands := ["serverStatus", "securitycheck"]

def safeConfig (token : Option String) : RemoteControlConfig where
  list := (token.map tokenEntry).toList
  enabled := token.isSome

structure RemoteControlCredential where
  endpoint : String
  token : String
  sourceRevision : String
  deriving DecidableEq, Repr

/-- What is there before and after a setup. -/
structure RemoteControlWorld where
  files : String → Option RemoteControlConfig
  loaded : Option RemoteControlConfig
  credential : Option RemoteControlCredential

/-- The local variable that the `catch` reads is part of the state. -/
structure SetupState extends RemoteControlWorld where
  configWritten : Bool

def SetupState.before (world : RemoteControlWorld) : SetupState where
  toRemoteControlWorld := world
  configWritten := false

inductive SetupPoint where
  | validated
  | availableLine (index : Nat)
  | artifactVerified
  | configExists
  | configCopy
  | snapshotCreated
  | configWrite
  | tokenWritten
  | moduleLine (index : Nat)
  | command (text : String)
  | loadLine (index : Nat)
  | moduleLoaded
  | transportVerified
  | credentialSave
  | credentialStored
  | disabledLogged
  | reloadLine (index : Nat)
  | deferredLogged
  deriving DecidableEq, Repr

/-- The answers of the endpoint check, of the LaunchServer and of its HTTP
transport; an answer that fails comes after the command took effect.
`hostPath` is `join(installation.path, 'launcher', …)`. -/
structure SetupEnvironment where
  faults : SetupPoint → Option String
  token : String
  timestamp : String
  sourceRevision : String
  endpoint : Except String String
  modulesAvailable : Except String (List String)
  modulesList : Except String (List String)
  loadOutput : Except String (List String)
  serverStatus : Except String Unit
  reloadOutput : List String
  hostPath : String → String

structure SetupResult where
  endpoint : String
  allowedCommands : List String
  sourceRevision : String
  configBackupPath : Option String
  deriving DecidableEq, Repr

def configPath : String := "config/RemoteControl/Config.json"

def includes (text part : String) : Bool :=
  decide (part.toList <:+: text.toList)

def offersRemoteControl (lines : List String) : Bool :=
  lines.any fun line =>
    includes line.toLower "found launchserver module" &&
      includes line.toLower "remotecontrol"

def listsRemoteControl (lines : List String) : Bool :=
  lines.any fun line => includes line.toLower "remotecontrol"

def loadCommand (modules : List String) : String :=
  if listsRemoteControl modules then "remotecontrol reload"
  else "modules load RemoteControl"

def writeConfig (config : RemoteControlConfig) (state : SetupState) :
    SetupState :=
  { state with
    files := fun path =>
      if path = configPath then some config else state.files path }

/-- The LaunchServer loads what the file says. -/
def loadConfig (state : SetupState) : SetupState :=
  { state with loaded := state.files configPath }

section Setup

variable (environment : SetupEnvironment)

def configBackup : String :=
  configPath ++ ".backup-" ++ environment.timestamp

def demandModule (available : List String) : Except String Unit :=
  if offersRemoteControl available then .ok ()
  else .error "RemoteControl is not available in this LaunchServer image"

def copyConfig (state : SetupState) : SetupState :=
  { state with
    files := fun path =>
      if path = configBackup environment then state.files configPath
      else state.files path }

/-- Copy the configuration, if there is one, to its backup. -/
def snapshotConfig (present : Bool) :
    Program SetupState String (Option String) :=
  if present then do
    perform environment.faults .configCopy (copyConfig environment)
    reach environment.faults .snapshotCreated
    pure (some (configBackup environment))
  else
    pure none

/-- What `setup` does before it writes the token. -/
def checkSetup : Program SetupState String String := do
  let endpoint ← lift environment.endpoint
  reach environment.faults .validated
  let available ← lift environment.modulesAvailable
  reachEach environment.faults .availableLine available.length
  lift (demandModule available)
  reach environment.faults .artifactVerified
  reach environment.faults .configExists
  pure endpoint

def writeToken : Program SetupState String Unit := do
  perform environment.faults .configWrite
    (writeConfig (safeConfig (some environment.token)))
  update fun state => { state with configWritten := true }

def listModules : Program SetupState String (List String) := do
  reach environment.faults .tokenWritten
  let modules ← lift environment.modulesList
  reachEach environment.faults .moduleLine modules.length
  pure modules

def loadToken : Program SetupState String Unit := do
  let modules ← listModules environment
  perform environment.faults (.command (loadCommand modules)) loadConfig

def verifyTransport : Program SetupState String Unit := do
  let output ← lift environment.loadOutput
  reachEach environment.faults .loadLine output.length
  reach environment.faults .moduleLoaded
  lift environment.serverStatus
  reach environment.faults .transportVerified

def saveCredential (endpoint : String) (state : SetupState) : SetupState :=
  { state with
    credential :=
      some ⟨endpoint, environment.token, environment.sourceRevision⟩ }

def storeCredential (endpoint : String) : Program SetupState String Unit := do
  perform environment.faults .credentialSave
    (saveCredential environment endpoint)
  reach environment.faults .credentialStored

/-- What the `catch` does once the token was written. -/
def disable : Program SetupState String Unit := do
  update (writeConfig (safeConfig none))
  update fun state => { state with credential := none }
  reach environment.faults .disabledLogged
  handle
    (do
      update loadConfig
      reachEach environment.faults .reloadLine
        environment.reloadOutput.length)
    fun _ => reach environment.faults .deferredLogged

def recover : Program SetupState String Unit := do
  let state ← get
  if state.configWritten then disable environment else pure ()

/-- The `try` block of `setup`. -/
def provision (endpoint : String) (backup : Option String) :
    Program SetupState String SetupResult := do
  writeToken environment
  loadToken environment
  verifyTransport environment
  storeCredential environment endpoint
  pure
    { endpoint := endpoint
      allowedCommands := ["serverStatus", "securitycheck"]
      sourceRevision := environment.sourceRevision
      configBackupPath := backup.map environment.hostPath }

def provisionOrDisable (endpoint : String) (backup : Option String) :
    Program SetupState String SetupResult :=
  handle (provision environment endpoint backup) fun problem => do
    recover environment
    throw problem

def setup : Program SetupState String SetupResult := do
  let endpoint ← checkSetup environment
  let state ← get
  let backup ← snapshotConfig environment (state.files configPath).isSome
  provisionOrDisable environment endpoint backup

end Setup

end GravitPanel.RemoteControl
