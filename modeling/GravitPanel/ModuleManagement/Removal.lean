import GravitPanel.Core.Faults
import GravitPanel.Core.Volume
import GravitPanel.Core.Json
import GravitPanel.Core.TextDecoder
import GravitPanel.Clients.Workspace

/-!
# Removing a module of the LaunchServer

`ModuleManagementService.remove` over a volume on which every operation and
every call that reports progress may fail.  The operations of a rollback
succeed.
-/

namespace GravitPanel.ModuleManagement

open Program Clients

abbrev ByteVolume := Volume (List UInt8)

inductive RemovalPoint where
  | checking
  | jarExists
  | configRead
  | unlisting
  | configWrite
  | staging
  | jarMove
  | restarting
  | finalizing
  | backupRemove
  | removed
  deriving DecidableEq, Repr

structure CatalogModule where
  id : String
  name : String
  jar : String
  deriving DecidableEq, Repr

/-- `parse` is `JSON.parse`, `stringify` is `JSON.stringify` with an indent of
two; the LaunchServer is restarted once, and once more in a rollback. -/
structure RemovalEnvironment where
  faults : RemovalPoint → Option String
  uuid : String
  parse : List Char → Except String Json
  stringify : Json → List Char
  restart : ServiceCall (List UInt8)
  recoveryRestart : ServiceCall (List UInt8)

def modulesConfigPath : String := "modules.json"

def jarPath (item : CatalogModule) : String := "modules/" ++ item.jar

/-- The entries that stand for the module. -/
def references (item : CatalogModule) : List String :=
  [item.id, item.name, item.jar, jarPath item,
    "/app/data/" ++ jarPath item]

/-- The items if all of them are strings. -/
def strings? : List Json → Option (List String)
  | [] => some []
  | item :: rest => do
      let text ← item.string?
      let texts ← strings? rest
      pure (text :: texts)

/-- `source[key] ?? []` -/
def listed (key : String) (source : JsonFields) : Json :=
  match Json.getField key source with
  | none => .array []
  | some .null => .array []
  | some value => value

def entries? (value : Json) : Option (List String) :=
  value.items?.bind strings?

def isReference (item : CatalogModule) (entry : String) : Bool :=
  (references item).contains entry

def withoutReference (item : CatalogModule) (key : String) (value : Json) :
    Except String Json :=
  match entries? value with
  | none =>
      .error ("Unable to parse modules.json: " ++ key ++
        " must be an array of strings")
  | some entries =>
      .ok (.array
        ((entries.filter fun entry => !isReference item entry).map .string))

def loadModules : String := "loadModules"

def loadLauncherModules : String := "loadLauncherModules"

def withoutModuleFields (item : CatalogModule) (source : JsonFields) :
    Except String Json := do
  let modules ← withoutReference item loadModules (listed loadModules source)
  let launcherModules ← withoutReference item loadLauncherModules
    (listed loadLauncherModules source)
  pure (.object
    (Json.setField loadLauncherModules launcherModules
      (Json.setField loadModules modules source)))

def withoutModuleReference (parse : List Char → Except String Json)
    (item : CatalogModule) (config : List Char) : Except String Json :=
  match parse config with
  | .error problem =>
      .error ("Unable to parse modules.json: " ++ problem)
  | .ok (.object source) => withoutModuleFields item source
  | .ok _ => .error "Unable to parse modules.json: expected an object"

/-- The path of a file after `mv`. -/
def moveFile (source target : String) (volume : ByteVolume) : ByteVolume :=
  (volume.setFile target (volume.file source)).setFile source none

/-- The text of `modules.json` and its value without the module. -/
structure RemovalPlan where
  config : List Char
  next : Json

section Removal

variable (environment : RemovalEnvironment) (item : CatalogModule)

def removalBackup : String :=
  "modules/." ++ item.jar ++ ".remove-" ++ environment.uuid

def demandJar (present : Bool) : Except String Unit :=
  if present then .ok ()
  else .error (item.name ++
    " module JAR is not installed in this LaunchServer volume")

def demandFile (bytes : Option (List UInt8)) :
    Except String (List UInt8) :=
  match bytes with
  | none => .error "Unable to read volume file"
  | some bytes => .ok bytes

/-- What `remove` does before it changes anything. -/
def planRemoval : Program ByteVolume String RemovalPlan := do
  reach environment.faults .checking
  reach environment.faults .jarExists
  let volume ← get
  lift (demandJar item (volume.file (jarPath item)).isSome)
  reach environment.faults .configRead
  let bytes ← lift (demandFile (volume.file modulesConfigPath))
  let next ← lift (withoutModuleReference environment.parse item
    (TextDecoder.decode bytes))
  reach environment.faults .unlisting
  pure ⟨TextDecoder.decode bytes, next⟩

def writeConfig (text : List Char) (volume : ByteVolume) : ByteVolume :=
  volume.setFile modulesConfigPath (some (TextDecoder.encode text))

def moveJarAside : Program ByteVolume String Unit := do
  reach environment.faults .staging
  perform environment.faults .jarMove
    (moveFile (jarPath item) (removalBackup environment item))

/-- The JAR is moved aside, or `modules.json` is written back. -/
def stageJar (config : List Char) : Program ByteVolume String Unit :=
  handle (moveJarAside environment item) fun problem => do
    update (writeConfig config)
    throw problem

def restartWithoutModule : Program ByteVolume String Unit := do
  reach environment.faults .restarting
  callService environment.restart

/-- The restart that follows the rollback may fail; its error is reported. -/
def recoverModule (config : List Char) :
    Program ByteVolume String Unit := do
  update (moveFile (removalBackup environment item) (jarPath item))
  update (writeConfig config)
  update environment.recoveryRestart.change

def recoveryDetails : String :=
  match environment.recoveryRestart.answer with
  | .ok _ => ""
  | .error problem =>
      " Recovery issues: recovery restart failed: " ++ problem

def removalFailure : String :=
  "Unable to remove " ++ item.name ++
    "; the previous module state was restored." ++
    recoveryDetails environment

/-- The LaunchServer is restarted without the module, or the module is put
back. -/
def unloadModule (config : List Char) : Program ByteVolume String Unit :=
  handle (restartWithoutModule environment) fun _ => do
    recoverModule environment item config
    throw (removalFailure environment item)

/-- What follows the restart is not rolled back. -/
def finishRemoval : Program ByteVolume String Unit := do
  reach environment.faults .finalizing
  perform environment.faults .backupRemove
    (Volume.setFile (removalBackup environment item) none)
  reach environment.faults .removed

/-- What `remove` does once it knows the next `modules.json`. -/
def carryOut (plan : RemovalPlan) : Program ByteVolume String Unit := do
  perform environment.faults .configWrite
    (writeConfig (environment.stringify plan.next ++ ['\n']))
  stageJar environment item plan.config
  unloadModule environment item plan.config
  finishRemoval environment item

def remove : Program ByteVolume String Unit := do
  let plan ← planRemoval environment item
  carryOut environment item plan

end Removal

end GravitPanel.ModuleManagement
