import GravitPanel.Core.Faults
import GravitPanel.Core.Volume
import GravitPanel.Core.Json
import GravitPanel.Core.JavaScript
import GravitPanel.Core.TextDecoder
import GravitPanel.Clients.Workspace

/-!
# Java runtimes of the launcher

`install`, `remove` and `updateSettings` of `JavaRuntimeManagerService` over a
volume on which every operation may fail.  The operations of a rollback
succeed; its restart synchronizes the public URLs of `LaunchServer.json`.
-/

namespace GravitPanel.Clients

open Program Volume JavaScript

abbrev JavaVolume := Volume (List UInt8)

inductive JavaPoint where
  | configRead
  | targetInspected
  | uploading
  | archiveWrite
  | extractionInspected
  | archiveListed
  | pendingCreate
  | unpack
  | publish
  | pendingRemove
  | executableInspected
  | permissions
  | configCopy
  | configWrite
  | trashMove
  | reloading
  | cacheRemove
  | rebuilding
  | finished
  | stateRead
  deriving DecidableEq, Repr

inductive ArchiveFormat where
  | zip
  | tarGz
  deriving DecidableEq, Repr

inductive JavaRuntimeOs where
  | mustdie
  | linux
  | macosx
  deriving DecidableEq, Repr

structure JavaRuntimeInput where
  directory : String
  version : Int
  build : Int
  os : JavaRuntimeOs
  arch : String
  javafx : Bool
  archiveFormat : ArchiveFormat

/-- What an archive holds, and whether all of it is below one directory that
is stripped. -/
structure Unpacked where
  singleRoot : Bool
  files : List (String × List UInt8)

/-- `hasMember value key` is `value[key] !== undefined`; `materialize` is what
`prepareJavaRuntimePermissions` makes of a directory; `synchronize` is what the
restart of a rollback leaves of `LaunchServer.json`. -/
structure JavaEnvironment where
  faults : JavaPoint → Option String
  parse : List Char → Option Json
  stringify : Json → List Char
  hasMember : Json → String → Bool
  unpack : ArchiveFormat → List UInt8 → Except String Unpacked
  materialize : List (String × List UInt8) → List (String × List UInt8)
  restart : ServiceCall (List UInt8)
  build : ServiceCall (List UInt8)
  synchronize : List UInt8 → List UInt8
  uuid : String
  timestamp : String

structure JavaRuntimeResult where
  trashPath : Option String
  backupPath : String
  deriving DecidableEq, Repr

/-- The volume, and the variable that the `catch` of `install` reads. -/
structure JavaState where
  volume : JavaVolume
  extracted : Bool

namespace JavaState

def before (volume : JavaVolume) : JavaState where
  volume := volume
  extracted := false

def onVolume (change : JavaVolume → JavaVolume) (state : JavaState) :
    JavaState :=
  { state with volume := change state.volume }

def markExtracted (state : JavaState) : JavaState :=
  { state with extracted := true }

end JavaState

open JavaState

def launchServerConfigPath : String := "LaunchServer.json"

def updatesCachePath : String := ".updates-cache"

/-- `updates/<directory>` -/
def runtimeTarget (directory : String) : String := "updates/" ++ directory

def isRuntimeDirectory (directory : String) : Bool :=
  isToken ['.', '_', '-'] 63 directory

/-- `{ ...value }` -/
def spread : Json → JsonFields
  | .object fields => fields
  | .array items =>
      items.mapIdx fun index item => (toString index, item)
  | _ => []

def customJavaDownload (config : JsonFields) : Option Json :=
  match Json.getField "launcher" config with
  | some (.object launcher) => Json.getField "customJavaDownload" launcher
  | _ => none

/-- `config.launcher` if it is an object or an array. -/
def launcherFields (config : JsonFields) : JsonFields :=
  ((Json.getField "launcher" config).map spread).getD []

/-- The registered runtimes if they are an object. -/
def downloadFields (launcher : JsonFields) : JsonFields :=
  match Json.getField "customJavaDownload" launcher with
  | some (.object downloads) => downloads
  | _ => []

def withLauncher (launcher : JsonFields) (downloads : JsonFields)
    (config : JsonFields) : Json :=
  .object (Json.setField "launcher"
    (.object (Json.setField "customJavaDownload" (.object downloads)
      launcher)) config)

def osName : JavaRuntimeOs → String
  | .mustdie => "mustdie"
  | .linux => "linux"
  | .macosx => "macosx"

def descriptor (input : JavaRuntimeInput) : String :=
  "Java " ++ toString input.version ++ " b" ++ toString input.build ++ " " ++
    osName input.os ++ " " ++ input.arch ++ " javafx " ++
    toString input.javafx

def withRuntime (input : JavaRuntimeInput) (config : JsonFields) : Json :=
  withLauncher (launcherFields config)
    (Json.setField input.directory (.string (descriptor input))
      (downloadFields (launcherFields config))) config

def withoutRuntime (directory : String) (config : JsonFields) : Json :=
  withLauncher (launcherFields config)
    ((downloadFields (launcherFields config)).filter
      fun field => field.1 ≠ directory) config

def withSettings (forceUseCustomJava : Bool) (config : JsonFields) : Json :=
  withLauncher
    (Json.setField "forceUseCustomJava" (.bool forceUseCustomJava)
      (Json.setField "customJavaDownload"
        (.object (downloadFields (launcherFields config)))
        (launcherFields config)))
    (downloadFields (launcherFields config)) config

/-- The text of `LaunchServer.json` and its fields. -/
structure JavaConfig where
  raw : List Char
  config : JsonFields

section Runtimes

variable (environment : JavaEnvironment)

def isRegistered (config : JsonFields) (directory : String) : Bool :=
  match customJavaDownload config with
  | none => false
  | some .null => false
  | some downloads => environment.hasMember downloads directory

def parseConfig (raw : List Char) : Except String JavaConfig :=
  match environment.parse raw with
  | none => .error "LaunchServer.json contains invalid JSON"
  | some (.object config) => .ok ⟨raw, config⟩
  | some _ => .error "LaunchServer.json has an invalid structure"

def demandConfig (bytes : Option (List UInt8)) :
    Except String (List UInt8) :=
  match bytes with
  | none => .error "Unable to read volume file"
  | some bytes => .ok bytes

def readConfig : Program JavaState String JavaConfig := do
  reach environment.faults .configRead
  let state ← get
  let bytes ← lift (demandConfig (state.volume.file launchServerConfigPath))
  lift (parseConfig environment (TextDecoder.decode bytes))

def encodeConfig (config : Json) : List UInt8 :=
  TextDecoder.encode (environment.stringify config ++ ['\n'])

def writeConfig (config : Json) : Program JavaState String Unit :=
  perform environment.faults .configWrite
    (onVolume (setFile launchServerConfigPath
      (some (encodeConfig environment config))))

def configBackupPath : String :=
  ".gravit-panel-config-backups/LaunchServer.java-" ++
    environment.timestamp ++ ".json"

def copyConfig : Program JavaState String Unit :=
  perform environment.faults .configCopy (onVolume fun volume =>
    volume.setFile (configBackupPath environment)
      (volume.file launchServerConfigPath))

def callLauncher (call : ServiceCall (List UInt8)) :
    Program JavaState String Unit := do
  update (onVolume call.change)
  lift call.answer

def reloadAndBuild : Program JavaState String Unit := do
  reach environment.faults .reloading
  perform environment.faults .cacheRemove
    (onVolume (setFile updatesCachePath none))
  callLauncher environment.restart
  reach environment.faults .rebuilding
  callLauncher environment.build

/-- `restoreRuntimeConfig`: however the restart ends, it may synchronize the
public URLs. -/
def restoreRuntimeConfig (volume : JavaVolume) : JavaVolume :=
  let cleared := volume.setFile updatesCachePath none
  cleared.setFile launchServerConfigPath
    ((cleared.file launchServerConfigPath).map environment.synchronize)

def writeBack (raw : List Char) (volume : JavaVolume) : JavaVolume :=
  volume.setFile launchServerConfigPath (some (TextDecoder.encode raw))

def pendingPath (target : String) : String :=
  target ++ ".pending-" ++ environment.uuid

def demandFree (target : String) (volume : JavaVolume) :
    Except String Unit :=
  if (volume.directory target).isSome || (volume.file target).isSome then
    .error ("Refusing to replace existing volume path: " ++ target)
  else
    .ok ()

/-- The pending directory, or the one directory in it, becomes the target. -/
def publishPending (target : String) (unpacked : Unpacked)
    (volume : JavaVolume) : JavaVolume :=
  (volume.setDirectory target (some unpacked.files)).setDirectory
    (pendingPath environment target)
    (if unpacked.singleRoot then some [] else none)

/-- What is left of the pending directory is removed after the target is
published. -/
def removePending (target : String) (unpacked : Unpacked) :
    Program JavaState String Unit :=
  if unpacked.singleRoot then
    perform environment.faults .pendingRemove
      (onVolume (setDirectory (pendingPath environment target) none))
  else
    pure ()

def unpackAndPublish (target : String) (unpacked : Unpacked) :
    Program JavaState String Unit := do
  perform environment.faults .unpack
    (onVolume (setDirectory (pendingPath environment target)
      (some unpacked.files)))
  perform environment.faults .publish
    (onVolume (publishPending environment target unpacked))
  removePending environment target unpacked

def unpackOrRemove (target : String) (unpacked : Unpacked) :
    Program JavaState String Unit :=
  handle (unpackAndPublish environment target unpacked) fun problem => do
    update (onVolume (setDirectory (pendingPath environment target) none))
    throw problem

/-- `extractZipToNewDirectory` and `extractTarGzToNewDirectory` with a single
root stripped. -/
def extractToNewDirectory (format : ArchiveFormat) (archive : List UInt8)
    (target : String) : Program JavaState String Unit := do
  reach environment.faults .extractionInspected
  let state ← get
  lift (demandFree target state.volume)
  reach environment.faults .archiveListed
  let unpacked ← lift (environment.unpack format archive)
  perform environment.faults .pendingCreate
    (onVolume (setDirectory (pendingPath environment target) (some [])))
  unpackOrRemove environment target unpacked

def validateRuntime (input : JavaRuntimeInput) : Except String Unit :=
  if !isRuntimeDirectory input.directory then
    .error "Java runtime directory contains unsupported characters"
  else if input.version < 8 ∨ 99 < input.version then
    .error "Java version must be between 8 and 99"
  else if input.build < 0 ∨ 999999 < input.build then
    .error "Java build must be between 0 and 999999"
  else
    .ok ()

def demandArchive (archive : List UInt8) : Except String Unit :=
  if archive.length = 0 ∨ 300 * 1024 * 1024 < archive.length then
    .error "Java runtime archive must be between 1 byte and 300 MiB"
  else
    .ok ()

def demandUnregistered (config : JsonFields) (directory : String) :
    Except String Unit :=
  if isRegistered environment config directory then
    .error ("Java runtime " ++ directory ++ " is already registered")
  else
    .ok ()

def demandAbsent (directory : String) (volume : JavaVolume) :
    Except String Unit :=
  if (volume.directory (runtimeTarget directory)).isSome then
    .error ("Updates directory already exists: " ++ directory)
  else
    .ok ()

def executableName : JavaRuntimeOs → String
  | .mustdie => "bin/java.exe"
  | .linux => "bin/java"
  | .macosx => "bin/java"

def demandExecutable (input : JavaRuntimeInput) (volume : JavaVolume) :
    Except String Unit :=
  match volume.directory (runtimeTarget input.directory) with
  | some files =>
      if files.any fun entry => entry.1 == executableName input.os then
        .ok ()
      else
        .error ("Java archive must contain " ++ executableName input.os ++
          " at its root or inside one top-level directory")
  | none =>
      .error ("Java archive must contain " ++ executableName input.os ++
        " at its root or inside one top-level directory")

def archivePath (format : ArchiveFormat) : String :=
  ".gravit-panel-java/" ++ environment.uuid ++
    (match format with
      | .zip => ".zip"
      | .tarGz => ".tar.gz")

def materializeTarget (target : String) (volume : JavaVolume) :
    JavaVolume :=
  volume.setDirectory target
    ((volume.directory target).map environment.materialize)

/-- What `install` does before its `try` statement. -/
def checkInstall (input : JavaRuntimeInput) (archive : List UInt8) :
    Program JavaState String JavaConfig := do
  lift (validateRuntime input)
  lift (demandArchive archive)
  let read ← readConfig environment
  lift (demandUnregistered environment read.config input.directory)
  reach environment.faults .targetInspected
  let state ← get
  lift (demandAbsent input.directory state.volume)
  pure read

/-- Upload the archive and publish its directory. -/
def uploadRuntime (input : JavaRuntimeInput) (archive : List UInt8) :
    Program JavaState String Unit := do
  reach environment.faults .uploading
  perform environment.faults .archiveWrite
    (onVolume (setFile (archivePath environment input.archiveFormat)
      (some archive)))
  extractToNewDirectory environment input.archiveFormat archive
    (runtimeTarget input.directory)

def registerRuntime (input : JavaRuntimeInput) (config : JsonFields) :
    Program JavaState String Unit := do
  reach environment.faults .executableInspected
  let state ← get
  lift (demandExecutable input state.volume)
  update (onVolume (materializeTarget environment
    (runtimeTarget input.directory)))
  reach environment.faults .permissions
  copyConfig environment
  writeConfig environment (withRuntime input config)
  reloadAndBuild environment
  reach environment.faults .finished
  reach environment.faults .stateRead

def installRuntime (input : JavaRuntimeInput) (archive : List UInt8)
    (read : JavaConfig) : Program JavaState String Unit := do
  uploadRuntime environment input archive
  update markExtracted
  registerRuntime environment input read.config

def undoInstall (input : JavaRuntimeInput) (raw : List Char)
    (state : JavaState) : JavaState :=
  let removed :=
    if state.extracted then
      state.volume.setDirectory (runtimeTarget input.directory) none
    else
      state.volume
  { state with
    volume := restoreRuntimeConfig environment (writeBack raw removed) }

def installOrUndo (input : JavaRuntimeInput) (archive : List UInt8)
    (read : JavaConfig) : Program JavaState String Unit :=
  cleanUp
    (handle (installRuntime environment input archive read)
      fun problem => do
        update (undoInstall environment input read.raw)
        throw problem)
    (onVolume (setFile (archivePath environment input.archiveFormat) none))

def install (input : JavaRuntimeInput) (archive : List UInt8) :
    Program JavaState String JavaRuntimeResult := do
  let read ← checkInstall environment input archive
  installOrUndo environment input archive read
  pure ⟨none, configBackupPath environment⟩

def demandRuntimeDirectory (directory : String) : Except String Unit :=
  if isRuntimeDirectory directory then .ok ()
  else .error "Invalid Java runtime directory"

def demandRegistered (config : JsonFields) (directory : String) :
    Except String Unit :=
  if isRegistered environment config directory then .ok ()
  else .error ("Java runtime " ++ directory ++ " is not registered")

def trashPath (directory : String) : String :=
  ".gravit-panel-java-trash/" ++ environment.timestamp ++ "-" ++ directory

def moveTree (source target : String) (volume : JavaVolume) : JavaVolume :=
  (volume.setDirectory target (volume.directory source)).setDirectory source
    none

def moveToTrash (directory : String) (installed : Bool) :
    Program JavaState String Unit :=
  if installed then
    perform environment.faults .trashMove
      (onVolume (moveTree (runtimeTarget directory)
        (trashPath environment directory)))
  else
    pure ()

/-- Write the next configuration and load it. -/
def applyConfig (next : Json) : Program JavaState String Unit := do
  writeConfig environment next
  reloadAndBuild environment
  reach environment.faults .finished
  reach environment.faults .stateRead

def undoRemove (directory : String) (installed : Bool) (raw : List Char)
    (state : JavaState) : JavaState :=
  let written := writeBack raw state.volume
  let moved :=
    if installed then
      moveTree (trashPath environment directory) (runtimeTarget directory)
        written
    else
      written
  { state with volume := restoreRuntimeConfig environment moved }

def removeOrUndo (directory : String) (installed : Bool)
    (read : JavaConfig) : Program JavaState String Unit :=
  handle
    (applyConfig environment (withoutRuntime directory read.config))
    fun problem => do
      update (undoRemove environment directory installed read.raw)
      throw problem

def checkRemove (directory : String) :
    Program JavaState String JavaConfig := do
  lift (demandRuntimeDirectory directory)
  let read ← readConfig environment
  lift (demandRegistered environment read.config directory)
  reach environment.faults .targetInspected
  pure read

def removeRuntime (directory : String) :
    Program JavaState String JavaRuntimeResult := do
  let read ← checkRemove environment directory
  let state ← get
  let installed :=
    (state.volume.directory (runtimeTarget directory)).isSome
  copyConfig environment
  moveToTrash environment directory installed
  removeOrUndo environment directory installed read
  pure
    { trashPath :=
        if installed then some (trashPath environment directory) else none
      backupPath := configBackupPath environment }

def loadSettings : Program JavaState String Unit := do
  reloadAndBuild environment
  reach environment.faults .stateRead

def undoSettings (raw : List Char) (state : JavaState) : JavaState :=
  { state with
    volume := restoreRuntimeConfig environment
      (writeBack raw state.volume) }

def loadOrUndo (raw : List Char) : Program JavaState String Unit :=
  handle (loadSettings environment) fun problem => do
    update (undoSettings environment raw)
    throw problem

def updateSettings (forceUseCustomJava : Bool) :
    Program JavaState String JavaRuntimeResult := do
  let read ← readConfig environment
  copyConfig environment
  writeConfig environment (withSettings forceUseCustomJava read.config)
  loadOrUndo environment read.raw
  pure ⟨none, configBackupPath environment⟩

end Runtimes

end GravitPanel.Clients
