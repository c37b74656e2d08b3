import GravitPanel.Core.Faults
import GravitPanel.Core.JavaScript

/-!
# Installing LauncherDockered from a clone

`LauncherDockeredService.install` in clone mode over the directories below the
installations root, which are known by their names.  Every call may fail, and
every call that uses the job context throws once the job is cancelled.
-/

namespace GravitPanel.LauncherDockered

open Program JavaScript

variable {Content : Type}

/-- An installation directory: is it marked as pending, and what else does it
hold? -/
structure Installation (Content : Type) where
  pending : Bool
  content : Content
  deriving DecidableEq, Repr

/-- The directories below the installations root; the flags say whether this
call published its directory, and whether the Compose project was told to go
down since then. -/
structure Host (Content : Type) where
  directory : String → Option (Installation Content)
  published : Bool
  stopped : Bool

namespace Host

def setDirectory (name : String) (installation : Option (Installation Content))
    (host : Host Content) : Host Content :=
  { host with
    directory := fun other =>
      if other = name then installation else host.directory other }

@[simp]
theorem directory_setDirectory_self (name : String)
    (installation : Option (Installation Content)) (host : Host Content) :
    (host.setDirectory name installation).directory name = installation :=
  if_pos rfl

theorem directory_setDirectory_of_ne {name other : String}
    (different : other ≠ name)
    (installation : Option (Installation Content)) (host : Host Content) :
    (host.setDirectory name installation).directory other =
      host.directory other :=
  if_neg different

/-- A call changes what a directory holds. -/
def changeContent (name : String) (change : Content → Content)
    (host : Host Content) : Host Content :=
  host.setDirectory name ((host.directory name).map fun installation =>
    { installation with content := change installation.content })

/-- The marker of an installation is written or removed. -/
def setMarker (name : String) (pending : Bool) (host : Host Content) :
    Host Content :=
  host.setDirectory name ((host.directory name).map fun installation =>
    { installation with pending := pending })

/-- `rename`; from now on the directory is the one that this call created. -/
def publish (staging name : String) (host : Host Content) : Host Content :=
  { (host.setDirectory name (host.directory staging)).setDirectory staging
      none with
    published := true
    stopped := false }

def issueDown (host : Host Content) : Host Content :=
  { host with stopped := true }

end Host

open Host

inductive InstallCommand where
  | clone
  | checkout
  | composeUp
  | composePs
  deriving DecidableEq, Repr

/-- The statements of `install` that change or read the new directory without
a command of their own. -/
inductive ProvisionStep where
  | composeProject
  | environment
  | forwardedProto
  | launcherDirectory
  | readiness
  | publicUrls
  | restart
  deriving DecidableEq, Repr

/-- The rollback runs for a directory that an earlier call left behind, and
for the one that this call created. -/
inductive RollbackPhase where
  | recovery
  | failure
  deriving DecidableEq, Repr

inductive InstallPoint where
  | validated
  | rootCreated
  | inspected
  | markerInspected
  | recovering
  | cloning
  | announced (command : InstallCommand)
  | line (command : InstallCommand) (index : Nat)
  | markerWrite
  | rename
  | cloned
  | verified
  | provision (step : ProvisionStep)
  | environmentReady
  | started
  | waiting
  | socketReady
  | markerRemove
  | rollbackStarted (phase : RollbackPhase)
  | downLine (phase : RollbackPhase) (index : Nat)
  | downExited (phase : RollbackPhase)
  | downFailed (phase : RollbackPhase)
  | removed (phase : RollbackPhase)
  deriving DecidableEq, Repr

/-- The number of lines that a command prints, and its exit code unless the
runner itself throws. -/
structure CommandRun where
  lines : Nat
  outcome : Except String Nat

structure InstallInput where
  installationName : String
  address : String
  projectName : String

structure InstallResult where
  installationName : String
  address : String
  projectName : String
  sourceRevision : String
  environmentBackupPath : Option String
  deriving DecidableEq, Repr

structure InstallEnvironment (Content : Type) where
  faults : InstallPoint → Option String
  uuid : String
  sourceRevision : String
  commands : InstallCommand → CommandRun
  down : RollbackPhase → CommandRun
  source : Content
  commandChange : InstallCommand → Content → Content
  change : ProvisionStep → Content → Content
  environmentBackupPath : Option String
  urlsChanged : Bool

def validateInput (input : InstallInput) : Except String Unit :=
  if !isToken ['_', '-'] 63 input.installationName then
    .error ("Installation name must contain only letters, numbers, " ++
      "hyphens, and underscores")
  else if !isToken ['.', '_', ':', '[', ']', '-'] 254 input.address then
    .error ("Address must be a hostname or host:port without a URL scheme " ++
      "or path")
  else if !isToken ['_', '-'] 63 input.projectName then
    .error ("Project name must contain only letters, numbers, hyphens, " ++
      "and underscores")
  else
    .ok ()

/-- Is the directory of that name right below the installations root? -/
def isBelowRoot (name : String) : Bool :=
  !name.toList.contains '/' && name ≠ "" && name ≠ "." && name ≠ ".."

def demandBelowRoot (name : String) : Except String Unit :=
  if isBelowRoot name then .ok ()
  else .error "Refusing to clean installation outside the installations root"

def describe (sourceRevision : String) : InstallCommand → String
  | .clone => "Cloning LauncherDockered repository"
  | .checkout => "Checking out " ++ sourceRevision
  | .composeUp => "Starting LauncherDockered services"
  | .composePs => "Reading Compose service status"

def demandExit (description : String) (outcome : Except String Nat) :
    Except String Unit :=
  match outcome with
  | .error problem => .error problem
  | .ok code =>
      if code = 0 then .ok ()
      else .error (description ++ " failed with exit code " ++ toString code)

section Install

variable (environment : InstallEnvironment Content)

/-- Announce a command, run it and pass its lines to the job. -/
def runChecked (command : InstallCommand)
    (change : Host Content → Host Content) :
    Program (Host Content) String Unit := do
  reach environment.faults (.announced command)
  update change
  reachEach environment.faults (.line command)
    (environment.commands command).lines
  lift (demandExit (describe environment.sourceRevision command)
    (environment.commands command).outcome)

/-- A code other than zero is only logged. -/
def logExit (phase : RollbackPhase) (code : Nat) :
    Program (Host Content) String Unit :=
  if code = 0 then pure ()
  else reach environment.faults (.downExited phase)

def composeDown (phase : RollbackPhase) :
    Program (Host Content) String Unit := do
  update issueDown
  reachEach environment.faults (.downLine phase)
    (environment.down phase).lines
  let code ← lift (environment.down phase).outcome
  logExit environment phase code

def stopProject (phase : RollbackPhase) :
    Program (Host Content) String Unit :=
  handle (composeDown environment phase)
    fun _ => reach environment.faults (.downFailed phase)

/-- The removal of the files succeeds once it is reached. -/
def rollbackFreshInstallation (phase : RollbackPhase) (name : String) :
    Program (Host Content) String Unit := do
  lift (demandBelowRoot name)
  reach environment.faults (.rollbackStarted phase)
  stopProject environment phase
  update (setDirectory name none)
  reach environment.faults (.removed phase)

def stagingName (name : String) : String :=
  name ++ ".staging-" ++ environment.uuid

/-- Only a directory that is marked as pending is cleaned up. -/
def recoverIncomplete (name : String) :
    Option (Installation Content) → Program (Host Content) String Unit
  | none => pure ()
  | some installation => do
      reach environment.faults .markerInspected
      if installation.pending then do
        reach environment.faults .recovering
        rollbackFreshInstallation environment .recovery name
      else
        throw ("Installation path already exists: " ++ name)

/-- Clone into the staging directory, mark it as pending and rename it. -/
def stageClone (name : String) : Program (Host Content) String Unit := do
  runChecked environment .clone
    (setDirectory (stagingName environment name)
      (some ⟨false, environment.source⟩))
  runChecked environment .checkout
    (changeContent (stagingName environment name)
      (environment.commandChange .checkout))
  perform environment.faults .markerWrite
    (setMarker (stagingName environment name) true)
  perform environment.faults .rename
    (publish (stagingName environment name) name)

def stageOrRemove (name : String) : Program (Host Content) String Unit :=
  handle (stageClone environment name) fun problem => do
    update (setDirectory (stagingName environment name) none)
    throw problem

/-- `cloneSource` up to the end of its `try` statement. -/
def publishClone (name : String) : Program (Host Content) String Unit := do
  reach environment.faults .rootCreated
  reach environment.faults .inspected
  let host ← get
  recoverIncomplete environment name (host.directory name)
  reach environment.faults .cloning
  stageOrRemove environment name

def cloneSource (name : String) : Program (Host Content) String Unit := do
  publishClone environment name
  reach environment.faults .cloned

/-- A statement changes the new directory, and fails or not. -/
def provisionStep (name : String) (step : ProvisionStep) :
    Program (Host Content) String Unit := do
  update (changeContent name (environment.change step))
  reach environment.faults (.provision step)

def restartIfChanged (name : String) : Program (Host Content) String Unit :=
  if environment.urlsChanged then provisionStep environment name .restart
  else pure ()

/-- Prepare the files of the new directory. -/
def prepareProject (name : String) : Program (Host Content) String Unit := do
  provisionStep environment name .composeProject
  reach environment.faults .verified
  provisionStep environment name .environment
  provisionStep environment name .forwardedProto
  provisionStep environment name .launcherDirectory
  reach environment.faults .environmentReady

/-- Start the services and wait for the LaunchServer. -/
def startProject (name : String) : Program (Host Content) String Unit := do
  runChecked environment .composeUp
    (changeContent name (environment.commandChange .composeUp))
  reach environment.faults .started
  runChecked environment .composePs
    (changeContent name (environment.commandChange .composePs))
  reach environment.faults .waiting
  provisionStep environment name .readiness
  reach environment.faults .socketReady

/-- The `try` block of `install` in clone mode. -/
def provision (name : String) : Program (Host Content) String Unit := do
  prepareProject environment name
  startProject environment name
  provisionStep environment name .publicUrls
  restartIfChanged environment name
  perform environment.faults .markerRemove (setMarker name false)

def provisionOrRollBack (name : String) :
    Program (Host Content) String Unit :=
  handle (provision environment name) fun problem => do
    rollbackFreshInstallation environment .failure name
    throw problem

def install (input : InstallInput) :
    Program (Host Content) String InstallResult := do
  lift (validateInput input)
  reach environment.faults .validated
  cloneSource environment input.installationName
  provisionOrRollBack environment input.installationName
  pure
    { installationName := input.installationName
      address := input.address
      projectName := input.projectName
      sourceRevision := environment.sourceRevision
      environmentBackupPath := environment.environmentBackupPath }

end Install

end GravitPanel.LauncherDockered
