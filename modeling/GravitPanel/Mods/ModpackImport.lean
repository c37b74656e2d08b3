import GravitPanel.Core.Program
import GravitPanel.Clients.OptionalMods
import GravitPanel.Mods.ModpackArchive
import GravitPanel.Servers.ProfileServers

/-!
# Importing a modpack

`applyResolvedModpack` of `mod-manager.service.ts`.  The state of an import is
what it wrote to the volume, what it asked the agents, and the optional mods it
collected.
-/

namespace GravitPanel.Mods

open FileTree Program Clients

inductive ClientMode where
  | required
  | optional
  | none
  deriving DecidableEq, Repr

structure PackSelection where
  path : String
  clientMode : ClientMode
  enabledByDefault : Bool
  installOnServer : Bool
  name : String
  description : String
  deriving DecidableEq, Repr

structure ModpackImportInput where
  profile : String
  projectId : String
  minecraftVersion : String
  loader : String
  loaderVersion : String
  serverBindingIds : List String
  files : List PackSelection
  deriving DecidableEq, Repr

structure InspectedFile where
  path : String
  name : String
  description : String
  deriving DecidableEq, Repr

structure ModpackInspection where
  projectId : String
  minecraftVersion : String
  loader : String
  loaderVersion : String
  files : List InspectedFile
  deriving DecidableEq, Repr

structure ResolvedModrinthPack where
  inspection : ModpackInspection
  files : List PackFile
  overrides : List PackOverride
  deriving DecidableEq, Repr

inductive LiveRequest where
  | list (bindingId path : String)
  | mkdir (bindingId path : String)
  | write (bindingId path : String) (data : List UInt8)
  deriving DecidableEq, Repr

def LiveRequest.path : LiveRequest → String
  | .list _ path => path
  | .mkdir _ path => path
  | .write _ path _ => path

structure ImportState where
  volumeWrites : List (String × List UInt8)
  requests : List LiveRequest
  optionals : List OptionalModInput
  deriving DecidableEq, Repr

def ImportState.empty : ImportState := ⟨[], [], []⟩

structure ProfileLoader where
  minecraftVersion : Option String
  loader : Option String
  loaderVersion : Option String
  deriving DecidableEq, Repr

/-- What an import meets: the profile, the outcome of a rebuild, the bindings
of the profile, downloads, writes to the volume, the answers of the agents in
their order, and the digest in hexadecimal. -/
structure ImportHost where
  profile : Option ProfileLoader
  build : Except String PUnit
  belongs : String → Bool
  download : PackFile → Except String (List UInt8)
  writeVolume : String → Except String PUnit
  answer : Nat → Except String PUnit
  sha1 : String → String

def maxServerFileBytes : Nat := 256 * 1024 * 1024

/-- Record a request and wait for its answer. -/
def requestFilesystem (host : ImportHost) (request : LiveRequest) :
    Program ImportState String PUnit := do
  let state ← get
  update fun state =>
    { state with requests := state.requests ++ [request] }
  lift (host.answer state.requests.length)

/-- The directories that the loop over the parts of a path visits. -/
def directoriesFrom : String → List String → List String
  | _, [] => []
  | directory, part :: rest =>
      let next := if directory = "" then part else directory ++ "/" ++ part
      next :: directoriesFrom next rest

def parentDirectories (path : String) : List String :=
  directoriesFrom "" (pathSteps path).dropLast

/-- List a directory, or create it if that fails. -/
def ensureLiveDirectory
    (host : ImportHost) (bindingId directory : String) :
    Program ImportState String PUnit :=
  handle (requestFilesystem host (.list bindingId directory)) fun _ =>
    requestFilesystem host (.mkdir bindingId directory)

def writeLiveServerFile
    (host : ImportHost) (path : String) (bytes : List UInt8)
    (bindingId : String) : Program ImportState String PUnit := do
  lift (reject (maxServerFileBytes < bytes.length)
    "Server file exceeds 256 MiB")
  forEach (parentDirectories path) (ensureLiveDirectory host bindingId)
  requestFilesystem host (.write bindingId path bytes)

def writeToServers
    (host : ImportHost) (bindings : List String) (path : String)
    (bytes : List UInt8) : Program ImportState String PUnit :=
  forEach bindings (writeLiveServerFile host path bytes)

/-- `writeFileAtomic` below the updates of the profile. -/
def writeVolumeFile
    (host : ImportHost) (path : String) (bytes : List UInt8) :
    Program ImportState String PUnit := do
  lift (host.writeVolume path)
  update fun state =>
    { state with volumeWrites := state.volumeWrites ++ [(path, bytes)] }

def optionalProjectIdOf (host : ImportHost) (packId path : String) : String :=
  "mrpack-" ++ packId ++ "-" ++
    String.ofList ((host.sha1 path).toList.take 12)

def optionalSourcePath (projectId path : String) : String :=
  posixJoin [".gravit-panel-optional", "mods", projectId, basename path]

def firstNamed (texts : List String) : String :=
  (texts.find? (· ≠ "")).getD ""

def optionalInput
    (host : ImportHost) (pack : ResolvedModrinthPack) (file : PackFile)
    (selection : PackSelection) : OptionalModInput :=
  let identity := pack.inspection.files.find? fun item =>
    item.path = file.path
  let projectId := optionalProjectIdOf host pack.inspection.projectId
    file.path
  { projectId
    title := firstNamed [JavaScript.trim selection.name,
      (identity.map InspectedFile.name).getD "", basename file.path]
    description := some (firstNamed
      [JavaScript.trim selection.description,
        (identity.map InspectedFile.description).getD ""])
    category := none
    filename := basename file.path
    sourcePath := optionalSourcePath projectId file.path
    destinationPath := some file.path
    enabledByDefault := some selection.enabledByDefault }

/-- `optionals.set(projectId, …)`: an existing entry keeps its place. -/
def setOptional (optionals : List OptionalModInput) (input : OptionalModInput) :
    List OptionalModInput :=
  if optionals.any fun other => other.projectId = input.projectId then
    optionals.map fun other =>
      if other.projectId = input.projectId then input else other
  else
    optionals ++ [input]

def applyToClient
    (host : ImportHost) (pack : ResolvedModrinthPack) (file : PackFile)
    (selection : PackSelection) (bytes : List UInt8) :
    Program ImportState String PUnit :=
  match selection.clientMode with
  | .required => writeVolumeFile host file.path bytes
  | .optional => do
      let input := optionalInput host pack file selection
      writeVolumeFile host input.sourcePath bytes
      update fun state =>
        { state with optionals := setOptional state.optionals input }
  | .none => pure ⟨⟩

def sideOf (side : Option String) : String :=
  side.getD "required"

/-- The selection of a file; of two selections for a path the later counts. -/
def selectionOf (input : ModpackImportInput) (path : String) :
    Option PackSelection :=
  input.files.reverse.find? fun item => item.path = path

def checkSides (file : PackFile) (selection : PackSelection) :
    Except String PUnit := do
  reject (selection.clientMode ≠ .none && sideOf file.client = "unsupported")
    ("Client-unsupported file selected for client: " ++ file.path)
  reject (selection.installOnServer && sideOf file.server = "unsupported")
    ("Server-unsupported file selected for server: " ++ file.path)

def installSelected
    (host : ImportHost) (pack : ResolvedModrinthPack)
    (bindings : List String) (file : PackFile) (selection : PackSelection) :
    Program ImportState String PUnit :=
  if selection.clientMode = .none ∧ selection.installOnServer = false then
    pure ⟨⟩
  else do
    let bytes ← lift (host.download file)
    applyToClient host pack file selection bytes
    (if selection.installOnServer then
      writeToServers host bindings file.path bytes
    else pure ⟨⟩ : Program ImportState String PUnit)

def applyFile
    (host : ImportHost) (input : ModpackImportInput)
    (pack : ResolvedModrinthPack) (bindings : List String)
    (file : PackFile) : Program ImportState String PUnit :=
  match selectionOf input file.path with
  | none => throw "undefined is not an object"
  | some selection => do
      lift (checkSides file selection)
      installSelected host pack bindings file selection

def applyOverride
    (host : ImportHost) (bindings : List String)
    (override : PackOverride) : Program ImportState String PUnit := do
  (if override.side ≠ .server then
    writeVolumeFile host override.path override.bytes
  else pure ⟨⟩ : Program ImportState String PUnit)
  (if override.side ≠ .client then
    writeToServers host bindings override.path override.bytes
  else pure ⟨⟩ : Program ImportState String PUnit)

/-- The profile exists and has the pack's loader, or is rebuilt with it. -/
def checkProfile
    (host : ImportHost) (input : ModpackImportInput)
    (pack : ResolvedModrinthPack) : Except String PUnit :=
  match host.profile with
  | none =>
      .error ("Profile " ++ input.profile ++
        " must be created before importing a modpack")
  | some current =>
      if current.minecraftVersion ≠ some pack.inspection.minecraftVersion ∨
          current.loader ≠ some pack.inspection.loader ∨
            current.loaderVersion ≠ some pack.inspection.loaderVersion then
        if input.loader ≠ "FORGE" ∧ input.loader ≠ "NEOFORGE" then
          .error ("Profile loader " ++
            current.loaderVersion.getD "unknown" ++
              " does not match modpack loader " ++ input.loaderVersion)
        else
          host.build
      else
        .ok ⟨⟩

def selectionsMatch
    (input : ModpackImportInput) (pack : ResolvedModrinthPack) : Bool :=
  let paths := input.files.map PackSelection.path
  decide paths.Nodup && pack.files.length = paths.length &&
    pack.files.all fun file => paths.contains file.path

def checkImport
    (host : ImportHost) (input : ModpackImportInput)
    (pack : ResolvedModrinthPack) : Except String PUnit := do
  Servers.validateProfile input.profile
  reject (input.loaderVersion ≠ pack.inspection.loaderVersion)
    "Modpack loader version changed after inspection"
  checkProfile host input pack
  reject (!selectionsMatch input pack)
    "Modpack file selections do not match the resolved version"
  reject (!input.serverBindingIds.eraseDups.all host.belongs)
    "Selected server does not belong to the target profile"

/-- Up to the registration of the optional mods in the profile. -/
def applyResolvedModpack
    (host : ImportHost) (input : ModpackImportInput)
    (pack : ResolvedModrinthPack) : Program ImportState String PUnit := do
  lift (checkImport host input pack)
  forEach pack.files
    (applyFile host input pack input.serverBindingIds.eraseDups)
  forEach pack.overrides (applyOverride host input.serverBindingIds.eraseDups)

end GravitPanel.Mods
