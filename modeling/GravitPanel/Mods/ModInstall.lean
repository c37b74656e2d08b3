import GravitPanel.Clients.OptionalProfiles
import GravitPanel.Mods.ModpackImport
import GravitPanel.Mods.ModrinthResolve

/-!
# Installing selected mods

`install` of `mod-manager.service.ts` for a request with selections.  Mods of
required selections and dependencies are written to the mods of the profile,
the others beside them as optional mods; then the servers get theirs.
-/

namespace GravitPanel.Mods

open FileTree Program Clients Json

structure ModInstallSelection where
  slug : String
  clientMode : ClientMode
  optionalEnabledByDefault : Option Bool
  optionalName : Option String
  optionalDescription : Option String
  serverBindingIds : List String
  deriving DecidableEq, Repr

structure ModInstallInput where
  profile : String
  minecraftVersion : String
  loader : String
  slugs : List String
  selections : List ModInstallSelection
  deriving DecidableEq, Repr

/-- What an install meets besides what an import meets: the API, its downloads,
the optional collaborators, the write of the profile with its backup, and the
reloads of the LaunchServer. -/
structure InstallHost extends ImportHost where
  api : ModrinthApi
  downloadMod : ModrinthFile → Except String (List UInt8)
  unifiedDestinations : Bool
  serverAgent : Bool
  toLowerCase : String → String
  writeProfile : Except String PUnit
  reloadProfilesAndUpdates : Except String PUnit
  reloadProfileUpdates : Except String PUnit

/-- What an install wrote and collected, with the profile of the client. -/
structure InstallState extends ImportState where
  requiredClientChanged : Bool
  optionalDependencyProjectIds : List String
  profile : JsonFields

def InstallState.started (profile : JsonFields) : InstallState where
  toImportState := ImportState.empty
  requiredClientChanged := false
  optionalDependencyProjectIds := []
  profile := profile

def onImport (program : Program ImportState String PUnit) :
    Program InstallState String PUnit :=
  focus InstallState.toImportState
    (fun state reached => { state with toImportState := reached }) program

def modSearch
    (host : InstallHost) (input : ModInstallInput) (target : InstallTarget) :
    ModSearch where
  api := host.api
  minecraftVersion := input.minecraftVersion
  loader := input.loader
  target := target

/-- The slugs are those of the selections, and both are distinct. -/
def assignmentsMatch (input : ModInstallInput) : Bool :=
  let selected := input.selections.map ModInstallSelection.slug
  decide input.slugs.Nodup && decide selected.Nodup &&
    input.slugs.length = selected.length &&
      input.slugs.all fun slug => selected.contains slug

def clientSelections (input : ModInstallInput) : List ModInstallSelection :=
  input.selections.filter fun selection => selection.clientMode ≠ .none

def missingDestinations (input : ModInstallInput) :
    List ModInstallSelection :=
  input.selections.filter fun selection =>
    selection.clientMode = .none ∧ selection.serverBindingIds = []

def checkSelections (host : InstallHost) (input : ModInstallInput) :
    Except String PUnit := do
  Servers.validateProfile input.profile
  reject (!assignmentsMatch input)
    "Selected mods and destination assignments do not match"
  reject (!host.unifiedDestinations)
    "Unified mod destinations are unavailable"
  reject (missingDestinations input ≠ [])
    ("Select an install destination for: " ++ ", ".intercalate
      ((missingDestinations input).map ModInstallSelection.slug))

def modsRelativeDirectory (profile : String) : String :=
  posixJoin ["updates", profile, "mods"]

def requiredPath (profile filename : String) : String :=
  posixJoin [modsRelativeDirectory profile, filename]

def optionalModPath (projectId filename : String) : String :=
  posixJoin [".gravit-panel-optional", "mods", projectId, filename]

/-- `set.add(value)`. -/
def addToSet (values : List String) (value : String) : List String :=
  if value ∈ values then values else values ++ [value]

def optionalSelection
    (selection : ModInstallSelection) (item : ResolvedMod) :
    OptionalModInput where
  projectId := item.projectId
  title := firstNamed
    [JavaScript.trim (selection.optionalName.getD ""), item.title]
  filename := item.file.filename
  sourcePath := optionalModPath item.projectId item.file.filename
  destinationPath := none
  enabledByDefault := some (selection.optionalEnabledByDefault.getD false)
  description :=
    some (JavaScript.trim (selection.optionalDescription.getD ""))
  category := none

def becomesFile (selection : ModInstallSelection) (item : ResolvedMod) :
    Bool :=
  selection.clientMode = .required || !item.root

def InstallState.requiredWritten
    (selection : ModInstallSelection) (item : ResolvedMod)
    (state : InstallState) : InstallState :=
  { state with
    requiredClientChanged := true
    optionalDependencyProjectIds :=
      if selection.clientMode = .optional ∧ item.root = false then
        addToSet state.optionalDependencyProjectIds item.projectId
      else
        state.optionalDependencyProjectIds }

def InstallState.collect
    (input : OptionalModInput) (state : InstallState) : InstallState :=
  { state with optionals := setOptional state.optionals input }

def installResolved
    (host : InstallHost) (profile : String) (selection : ModInstallSelection)
    (item : ResolvedMod) : Program InstallState String PUnit := do
  let bytes ← lift (host.downloadMod item.file)
  if becomesFile selection item then do
    onImport (writeVolumeFile host.toImportHost
      (requiredPath profile item.file.filename) bytes)
    update (InstallState.requiredWritten selection item)
  else do
    let input := optionalSelection selection item
    onImport (writeVolumeFile host.toImportHost
      (posixJoin ["updates", profile, input.sourcePath]) bytes)
    update (InstallState.collect input)

def installClientSelection
    (host : InstallHost) (input : ModInstallInput)
    (selection : ModInstallSelection) : Program InstallState String PUnit := do
  let resolved ← lift
    (resolveInstall (modSearch host input .client) selection.slug)
  forEach resolved (installResolved host input.profile selection)

def setProfile (profile : JsonFields) (state : InstallState) : InstallState :=
  { state with profile := profile }

/-- Write the collected mods to the profile; if the reload fails, the profile
is as before. -/
def upsertCollected (host : InstallHost) :
    Program InstallState String PUnit := do
  let state ← get
  if state.optionals = [] then
    pure ⟨⟩
  else do
    lift host.writeProfile
    update (setProfile (upsertProfile host.toLowerCase state.profile
      state.optionals state.optionalDependencyProjectIds))
    handle (lift host.reloadProfilesAndUpdates) fun problem => do
      update (setProfile state.profile)
      throw problem

/-- The slugs of the bindings, in the order of their first selection. -/
def addServerSelection
    (selections : List (String × List String)) (bindingId slug : String) :
    List (String × List String) :=
  if selections.any fun entry => entry.1 = bindingId then
    selections.map fun entry =>
      if entry.1 = bindingId then (entry.1, addToSet entry.2 slug) else entry
  else
    selections ++ [(bindingId, [slug])]

def serverSelections (host : InstallHost) (input : ModInstallInput) :
    Except String (List (String × List String)) :=
  let wanted := input.selections.flatMap fun selection =>
    selection.serverBindingIds.eraseDups.map fun bindingId =>
      (bindingId, selection.slug)
  wanted.foldlM (fun selections pair => do
    reject (!host.belongs pair.1)
      "Selected server does not belong to the target profile"
    .ok (addServerSelection selections pair.1 pair.2)) []

def installLiveFile
    (host : InstallHost) (bindingId : String) (installed : List String)
    (item : ResolvedMod) : Program ImportState String (List String) :=
  if item.file.filename ∈ installed then
    pure installed
  else do
    let bytes ← lift (host.downloadMod item.file)
    writeLiveServerFile host.toImportHost
      (posixJoin ["mods", item.file.filename]) bytes bindingId
    pure (installed ++ [item.file.filename])

def installLiveMod
    (host : InstallHost) (input : ModInstallInput) (bindingId : String)
    (installed : List String) (slug : String) :
    Program ImportState String (List String) := do
  let resolved ← lift (resolveInstall (modSearch host input .server) slug)
  resolved.foldlM (installLiveFile host bindingId) installed

def installLiveServerMods
    (host : InstallHost) (input : ModInstallInput)
    (selection : String × List String) :
    Program ImportState String PUnit := do
  let _ ← selection.2.foldlM (installLiveMod host input selection.1) []
  pure ⟨⟩

def reloadChanged (host : InstallHost) (state : InstallState) :
    Except String PUnit :=
  if state.requiredClientChanged || state.optionals ≠ [] then
    host.reloadProfileUpdates
  else
    .ok ⟨⟩

def installOnServers (host : InstallHost) (input : ModInstallInput) :
    Program InstallState String PUnit := do
  let servers ← lift (serverSelections host input)
  lift (reject (servers ≠ [] && !host.serverAgent)
    "Live server files are unavailable")
  forEach servers fun selection =>
    onImport (installLiveServerMods host input selection)

def installSelections (host : InstallHost) (input : ModInstallInput) :
    Program InstallState String PUnit := do
  lift (checkSelections host input)
  forEach (clientSelections input) (installClientSelection host input)
  upsertCollected host
  installOnServers host input
  let state ← get
  lift (reloadChanged host state)

end GravitPanel.Mods
