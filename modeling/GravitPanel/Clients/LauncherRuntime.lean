import GravitPanel.Core.Faults
import GravitPanel.Core.Volume
import GravitPanel.Clients.Workspace

/-!
# Installing the launcher runtime

`LauncherRuntimeService.ensureInstalled` up to the end of its first `try`
statement, over a volume on which every operation before the rollback may
fail.  The local variables that its `catch` reads are part of the state.
-/

namespace GravitPanel.Clients

open Program Volume

/-- The calls of `ensureInstalled` up to the extraction of the resources. -/
inductive RuntimePoint where
  | checking
  | inspect (path : String)
  | moduleDigest
  | listed (index : Nat)
  | moduleInstalling
  | moduleMove
  | moduleSnapshot
  | moduleWrite
  | moduleVerified
  | resourcesMove
  | resourcesSnapshot
  | resourcesDownloading
  | archiveWrite
  | archiveVerified
  | extraction
  | resourcesInstalled
  deriving DecidableEq, Repr

/-- The digest and the contents of an archive are those of the real digest and
of `unzip`. -/
structure RuntimeEnvironment (Content : Type) where
  faults : RuntimePoint → Option String
  artifact : Except String Content
  sha256 : Content → String
  modulesList : Except String (List String)
  lifecycle : Bool
  moduleTimestamp : String
  resourcesTimestamp : String
  fetch : Except String Content
  unzip : Content → Except String (List (String × Content))

def runtimeModulePath : String := "JavaRuntime.jar"

def runtimeDirectory : String := "runtime"

def runtimeArchivePath : String := ".gravit-panel-runtime.zip"

/-- Inside the resources directory. -/
def runtimeSentinels : List String :=
  ["runtime_en.properties", "scenes/login/login.fxml",
    "overlay/webauth/webauth.fxml"]

def runtimeModuleLine : String := "[launcher module] javaruntime.jar"

def isRuntimeLoaded (lines : List String) : Bool :=
  lines.any fun line => line.toLower.startsWith runtimeModuleLine

/-- The volume and the variables of `ensureInstalled`. -/
structure RuntimeSwap (Content : Type) where
  volume : Volume Content
  moduleCreated : Bool
  moduleBackupPath : Option String
  resourcesCreated : Bool
  resourcesBackupPath : Option String

variable {Content : Type}

namespace RuntimeSwap

def before (volume : Volume Content) : RuntimeSwap Content where
  volume := volume
  moduleCreated := false
  moduleBackupPath := none
  resourcesCreated := false
  resourcesBackupPath := none

def setFile (path : String) (bytes : Option Content)
    (swap : RuntimeSwap Content) : RuntimeSwap Content :=
  { swap with volume := swap.volume.setFile path bytes }

def setDirectory (path : String)
    (files : Option (List (String × Content)))
    (swap : RuntimeSwap Content) : RuntimeSwap Content :=
  { swap with volume := swap.volume.setDirectory path files }

def movePath : String := "Unable to move volume path"

/-- `mv` of a file, which fails where there is none. -/
def moveFile (source target : String) :
    Program (RuntimeSwap Content) String Unit := do
  let swap ← get
  match swap.volume.file source with
  | none => throw movePath
  | some bytes =>
      update fun swap =>
        (swap.setFile target (some bytes)).setFile source none

/-- `mv` of a directory, which fails where there is none. -/
def moveDirectory (source target : String) :
    Program (RuntimeSwap Content) String Unit := do
  let swap ← get
  match swap.volume.directory source with
  | none => throw movePath
  | some files =>
      update fun swap =>
        (swap.setDirectory target (some files)).setDirectory source none

end RuntimeSwap

open RuntimeSwap

/-- What `ensureInstalled` knows before it changes anything. -/
structure RuntimeFound (Content : Type) where
  artifact : Content
  moduleExists : Bool
  moduleCurrent : Bool
  directoryExists : Bool
  resourcesExist : Bool

def sentinelPresent (volume : Volume Content) (path : String) : Bool :=
  match volume.directory runtimeDirectory with
  | none => false
  | some files => files.any fun entry => entry.1 == path

section Installation

variable (environment : RuntimeEnvironment Content)

def moduleBackup : String :=
  backupPath runtimeModulePath environment.moduleTimestamp

def resourcesBackup : String :=
  backupPath runtimeDirectory environment.resourcesTimestamp

/-- Is the module of the volume the one that would be installed? -/
def isModuleCurrent (artifact : Content) (volume : Volume Content) : Bool :=
  match volume.file runtimeModulePath with
  | none => false
  | some bytes => environment.sha256 bytes == environment.sha256 artifact

def runtimeFound (artifact : Content) (volume : Volume Content) :
    RuntimeFound Content where
  artifact := artifact
  moduleExists := (volume.file runtimeModulePath).isSome
  moduleCurrent := isModuleCurrent environment artifact volume
  directoryExists := (volume.directory runtimeDirectory).isSome
  resourcesExist :=
    (volume.directory runtimeDirectory).isSome &&
      runtimeSentinels.all (sentinelPresent volume)

/-- The paths whose presence is asked for together. -/
def inspectedPaths : List String :=
  [runtimeModulePath, runtimeDirectory] ++ runtimeSentinels

/-- A module that is loaded is replaced only if the LaunchServer can be
restarted. -/
def demandRestart (moduleCurrent alreadyLoaded : Bool) :
    Except String Unit :=
  if !moduleCurrent && alreadyLoaded && !environment.lifecycle then
    .error ("LaunchServer restart is unavailable; the patched " ++
      "LauncherRuntime cannot replace the loaded module")
  else
    .ok ()

/-- The digest of the module is asked for only if there is one. -/
def hashModule (present : Bool) : Program (RuntimeSwap Content) String Unit :=
  if present then reach environment.faults .moduleDigest else pure ()

def inspectRuntime :
    Program (RuntimeSwap Content) String (RuntimeFound Content) := do
  reach environment.faults .checking
  let artifact ← lift environment.artifact
  reachAll environment.faults (inspectedPaths.map .inspect)
  let swap ← get
  hashModule environment (swap.volume.file runtimeModulePath).isSome
  let lines ← lift environment.modulesList
  reachEach environment.faults .listed lines.length
  lift (demandRestart environment
    (isModuleCurrent environment artifact swap.volume)
    (isRuntimeLoaded lines))
  pure (runtimeFound environment artifact swap.volume)

/-- The backup path is set before the module is moved there. -/
def snapshotModule (present : Bool) :
    Program (RuntimeSwap Content) String Unit :=
  if present then do
    update fun swap =>
      { swap with moduleBackupPath := some (moduleBackup environment) }
    reach environment.faults .moduleMove
    moveFile runtimeModulePath (moduleBackup environment)
    reach environment.faults .moduleSnapshot
  else
    pure ()

def replaceModule (found : RuntimeFound Content) :
    Program (RuntimeSwap Content) String Unit :=
  if found.moduleCurrent then
    pure ()
  else do
    reach environment.faults .moduleInstalling
    snapshotModule environment found.moduleExists
    perform environment.faults .moduleWrite
      (setFile runtimeModulePath (some found.artifact))
    update fun swap => { swap with moduleCreated := true }
    reach environment.faults .moduleVerified

/-- The backup path is set before the directory is moved there. -/
def snapshotResources (present : Bool) :
    Program (RuntimeSwap Content) String Unit :=
  if present then do
    update fun swap =>
      { swap with resourcesBackupPath := some (resourcesBackup environment) }
    reach environment.faults .resourcesMove
    RuntimeSwap.moveDirectory runtimeDirectory (resourcesBackup environment)
    reach environment.faults .resourcesSnapshot
  else
    pure ()

/-- `extractZipToNewDirectory` replaces nothing, and publishes the directory
in its last step. -/
def extractZipToNewDirectory (archive : Content) :
    Program (RuntimeSwap Content) String Unit := do
  let swap ← get
  if (swap.volume.directory runtimeDirectory).isSome ||
      (swap.volume.file runtimeDirectory).isSome then
    throw ("Refusing to replace existing volume path: " ++ runtimeDirectory)
  else do
    let files ← lift (environment.unzip archive)
    perform environment.faults .extraction
      (setDirectory runtimeDirectory (some files))

/-- Fetch the resources and extract them where no directory is left. -/
def installResources : Program (RuntimeSwap Content) String Unit := do
  reach environment.faults .resourcesDownloading
  let archive ← lift environment.fetch
  perform environment.faults .archiveWrite
    (setFile runtimeArchivePath (some archive))
  reach environment.faults .archiveVerified
  extractZipToNewDirectory environment archive
  update fun swap => { swap with resourcesCreated := true }
  reach environment.faults .resourcesInstalled

def replaceResources (found : RuntimeFound Content) :
    Program (RuntimeSwap Content) String Unit :=
  if found.resourcesExist then
    pure ()
  else do
    snapshotResources environment found.directoryExists
    installResources environment

end Installation

def removeCreatedResources (swap : RuntimeSwap Content) :
    RuntimeSwap Content :=
  if swap.resourcesCreated then swap.setDirectory runtimeDirectory none
  else swap

def removeCreatedModule (swap : RuntimeSwap Content) :
    RuntimeSwap Content :=
  if swap.moduleCreated then swap.setFile runtimeModulePath none else swap

def moveResourcesBack : Option String →
    Program (RuntimeSwap Content) String Unit
  | none => pure ()
  | some backup => RuntimeSwap.moveDirectory backup runtimeDirectory

def moveModuleBack : Option String →
    Program (RuntimeSwap Content) String Unit
  | none => pure ()
  | some backup => moveFile backup runtimeModulePath

def restoreResources : Program (RuntimeSwap Content) String Unit := do
  update removeCreatedResources
  let swap ← get
  moveResourcesBack swap.resourcesBackupPath

def restoreModule : Program (RuntimeSwap Content) String Unit := do
  update removeCreatedModule
  let swap ← get
  moveModuleBack swap.moduleBackupPath

/-- Removals, and moves of what is there, do not fail in the rollback. -/
def rollBackRuntime : Program (RuntimeSwap Content) String Unit := do
  restoreResources
  restoreModule

section Installed

variable (environment : RuntimeEnvironment Content)

/-- The first `try` statement of `ensureInstalled`. -/
def replaceRuntime (found : RuntimeFound Content) :
    Program (RuntimeSwap Content) String Unit :=
  cleanUp
    (handle
      (do
        replaceModule environment found
        replaceResources environment found)
      fun problem => do
        rollBackRuntime
        throw problem)
    (setFile runtimeArchivePath none)

/-- `ensureInstalled` up to the end of that statement. -/
def ensureInstalled : Program (RuntimeSwap Content) String Unit := do
  let found ← inspectRuntime environment
  replaceRuntime environment found

end Installed

end GravitPanel.Clients
