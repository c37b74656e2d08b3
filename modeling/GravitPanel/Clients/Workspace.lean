import GravitPanel.Core.Volume

/-!
# The workspace and the prestarter

`applyWorkspace` and `installPrestarter` of `client-build.service.ts`: both
replace something in the volume, and roll back when a later step fails.
-/

namespace GravitPanel.Clients

open Program Volume

/-- The calls of `applyWorkspace` that may fail, or find the job cancelled. -/
inductive WorkspacePoint where
  | downloading
  | manifestExists
  | manifestCopy
  | manifestSnapshot
  | manifestWrite
  | manifestVerified
  | workspaceExists
  | workspaceMove
  | workspaceSnapshot
  | applying (attempt : Nat)
  | line (attempt index : Nat)
  | attemptExists (attempt : Nat)
  | partialRemove (attempt : Nat)
  | attemptFailed (attempt : Nat)
  | partialRemoved (attempt : Nat)
  | aborted (attempt : Nat)
  | applied
  deriving DecidableEq, Repr

/-- The calls of `installPrestarter`. -/
inductive PrestarterPoint where
  | downloading
  | prestarterExists
  | prestarterCopy
  | prestarterSnapshot
  | prestarterWrite
  | prestarterVerified
  | restarting
  | installed
  deriving DecidableEq, Repr

/-- A call of another service: how it ends, and what it does to the volume. -/
structure ServiceCall (Content : Type) where
  answer : Except String Unit
  change : Volume Content → Volume Content

/-- An attempt of the LaunchServer to apply the workspace: its answer, the
directory that it leaves, and what else it changes. -/
structure WorkspaceAttempt (Content : Type) where
  answer : Except String (List String)
  workspace : Option (List (String × Content))
  others : Volume Content → Volume Content

structure WorkspaceEnvironment (Content : Type) where
  faults : WorkspacePoint → Option String
  install : ServiceCall Content
  fetch : Except String Content
  manifestTimestamp : String
  workspaceTimestamp : String
  attempts : Nat → WorkspaceAttempt Content

structure PrestarterEnvironment (Content : Type) where
  faults : PrestarterPoint → Option String
  fetch : Except String Content
  timestamp : String
  install : ServiceCall Content
  restart : ServiceCall Content
  verify : ServiceCall Content

def manifestPath : String := "config/MirrorHelper/workspace.panel.json"

def workspaceDirectory : String := "config/MirrorHelper/workspace"

def prestarterPath : String := "Prestarter.exe"

def backupPath (path timestamp : String) : String :=
  path ++ ".backup-" ++ timestamp

theorem backupPath_ne (path timestamp : String) :
    path ≠ backupPath path timestamp := by
  intro same
  have lengths := congrArg String.length same
  have suffix : ".backup-".length = 8 := by decide
  rw [backupPath, String.length_append, String.length_append, suffix]
    at lengths
  omega

variable {Content : Type}

def callService (call : ServiceCall Content) :
    Program (Volume Content) String Unit := do
  update call.change
  lift call.answer

theorem callService_ok {call : ServiceCall Content} {value : Unit}
    {start volume : Volume Content} :
    callService call start = (.ok value, volume) ↔
      call.answer = .ok value ∧ call.change start = volume := by
  have run : callService call start = (call.answer, call.change start) :=
    rfl
  rw [run, Prod.mk.injEq]

theorem throwsInto_callService {call : ServiceCall Content}
    {good : Volume Content → Prop} {start : Volume Content} :
    ThrowsInto good (callService call) start ↔
      (call.answer ≠ .ok () → good (call.change start)) := by
  rw [callService, throwsInto_update_bind, throwsInto_lift]
  cases call.answer <;> simp

section Workspace

variable (environment : WorkspaceEnvironment Content)

def manifestBackup : String :=
  backupPath manifestPath environment.manifestTimestamp

def workspaceSnapshot : String :=
  backupPath workspaceDirectory environment.workspaceTimestamp

/-- Copy the manifest, if there is one, to its backup. -/
def snapshotManifest (present : Bool) :
    Program (Volume Content) String Unit :=
  if present then do
    copyFile environment.faults .manifestCopy manifestPath
      (manifestBackup environment)
    pass environment.faults .manifestSnapshot
  else
    pure ()

def snapshotWorkspace (present : Bool) :
    Program (Volume Content) String Unit :=
  if present then do
    moveDirectory environment.faults .workspaceMove workspaceDirectory
      (workspaceSnapshot environment)
    pass environment.faults .workspaceSnapshot
  else
    pure ()

def WorkspaceAttempt.change
    (attempt : WorkspaceAttempt Content) (volume : Volume Content) :
    Volume Content :=
  (attempt.others volume).setDirectory workspaceDirectory attempt.workspace

def demandDirectory (present : Bool) : Except String Unit :=
  if present then .ok ()
  else .error "MirrorHelper did not create its workspace directory"

def attemptWorkspace (attempt : Nat) :
    Program (Volume Content) String Unit := do
  update (environment.attempts attempt).change
  let lines ← lift (environment.attempts attempt).answer
  passEach environment.faults (.line attempt) lines.length
  let present ← existsDirectory environment.faults (.attemptExists attempt)
    workspaceDirectory
  lift (demandDirectory present)

/-- What follows an attempt that failed before the next one. -/
def prepareRetry (attempt : Nat) : Program (Volume Content) String Unit := do
  removeDirectory environment.faults (.partialRemove attempt)
    workspaceDirectory
  pass environment.faults (.attemptFailed attempt)
  pass environment.faults (.partialRemoved attempt)
  pass environment.faults (.aborted attempt)

def maximumAttempts : Nat := 3

/-- Attempts until one succeeds, with so many more after this one. -/
def applyAttempts : Nat → Program (Volume Content) String Unit
  | 0 => do
      pass environment.faults (.applying maximumAttempts)
      handle (attemptWorkspace environment maximumAttempts)
        fun problem => do
          removeDirectory environment.faults
            (.partialRemove maximumAttempts) workspaceDirectory
          throw problem
  | left + 1 => do
      pass environment.faults (.applying (maximumAttempts - (left + 1)))
      handle (attemptWorkspace environment (maximumAttempts - (left + 1)))
        fun _ => do
          prepareRetry environment (maximumAttempts - (left + 1))
          applyAttempts left

/-- Remove the workspace and move its snapshot back. -/
def restoreDirectory (hadWorkspace : Bool) (volume : Volume Content) :
    Volume Content :=
  let removed := volume.setDirectory workspaceDirectory none
  if hadWorkspace then
    (removed.setDirectory workspaceDirectory (removed.directory
      (workspaceSnapshot environment))).setDirectory
        (workspaceSnapshot environment) none
  else
    removed

/-- Copy the manifest back, or remove it. -/
def restoreManifest (hadManifest : Bool) (volume : Volume Content) :
    Volume Content :=
  volume.setFile manifestPath
    (if hadManifest then volume.file (manifestBackup environment) else none)

/-- The rollback, which does not fail. -/
def restoreWorkspace (hadManifest hadWorkspace : Bool)
    (volume : Volume Content) : Volume Content :=
  restoreManifest environment hadManifest
    (restoreDirectory environment hadWorkspace volume)

/-- Apply the workspace, and roll back when that fails. -/
def applyOrRestore (hadManifest hadWorkspace : Bool) :
    Program (Volume Content) String Unit :=
  handle (applyAttempts environment (maximumAttempts - 1)) fun problem => do
    update (restoreWorkspace environment hadManifest hadWorkspace)
    throw problem

def replaceWorkspace (hadManifest : Bool) :
    Program (Volume Content) String Unit := do
  pass environment.faults .manifestVerified
  let hadWorkspace ← existsDirectory environment.faults .workspaceExists
    workspaceDirectory
  snapshotWorkspace environment hadWorkspace
  applyOrRestore environment hadManifest hadWorkspace
  pass environment.faults .applied

def applyWorkspace : Program (Volume Content) String Unit := do
  callService environment.install
  pass environment.faults .downloading
  let bytes ← lift environment.fetch
  let hadManifest ← existsFile environment.faults .manifestExists
    manifestPath
  snapshotManifest environment hadManifest
  writeFileAtomic environment.faults .manifestWrite manifestPath bytes
  replaceWorkspace environment hadManifest

end Workspace

section Prestarter

variable (environment : PrestarterEnvironment Content)

/-- Copy the prestarter, if there is one, to its backup. -/
def snapshotPrestarter (present : Bool) :
    Program (Volume Content) String Unit :=
  if present then do
    copyFile environment.faults .prestarterCopy prestarterPath
      (backupPath prestarterPath environment.timestamp)
    pass environment.faults .prestarterSnapshot
  else
    pure ()

/-- Load the module, restart the LaunchServer and look at the module again. -/
def initializePrestarter : Program (Volume Content) String Unit := do
  callService environment.install
  pass environment.faults .restarting
  callService environment.restart
  callService environment.verify

def restorePrestarter (hadPrestarter : Bool) (volume : Volume Content) :
    Volume Content :=
  volume.setFile prestarterPath
    (if hadPrestarter then
      volume.file (backupPath prestarterPath environment.timestamp)
    else none)

def initializeOrRestore (hadPrestarter : Bool) :
    Program (Volume Content) String Unit :=
  handle (initializePrestarter environment) fun problem => do
    update (restorePrestarter environment hadPrestarter)
    throw problem

def installPrestarter : Program (Volume Content) String Unit := do
  pass environment.faults .downloading
  let bytes ← lift environment.fetch
  let hadPrestarter ← existsFile environment.faults .prestarterExists
    prestarterPath
  snapshotPrestarter environment hadPrestarter
  writeFileAtomic environment.faults .prestarterWrite prestarterPath bytes
  pass environment.faults .prestarterVerified
  initializeOrRestore environment hadPrestarter
  pass environment.faults .installed

end Prestarter

end GravitPanel.Clients
