import GravitPanel.Core.JavaScript
import GravitPanel.Core.Json
import GravitPanel.Core.PosixPath
import GravitPanel.Core.Volume
import GravitPanel.Servers.ProfileServers
import Mathlib.Algebra.Order.Ring.Nat

/-!
# Building a client

`buildClient` of `client-build.service.ts`: an external builder writes a fresh
profile and the updates of a client, and metadata of the previous profile is
carried over at the end.
-/

namespace GravitPanel.Clients

open Program Volume Json
open FileTree (pathSteps)
open Servers (MinecraftLoader isAlphanumeric)

structure ClientBuildInput where
  name : String
  minecraftVersion : String
  loader : MinecraftLoader
  loaderVersion : Option String
  mods : List String
  deriving DecidableEq, Repr

structure ClientBuildResult where
  name : String
  minecraftVersion : String
  loader : MinecraftLoader
  loaderVersion : Option String
  mods : List String
  profilePath : String
  updatesPath : String
  authlibArtifact : String
  deriving DecidableEq, Repr

/-- The calls of `reloadProfilesAndUpdates`. -/
inductive ReloadPoint where
  | started
  | updatesCache
  | invalidated
  | line (index : Nat)
  | reloaded
  deriving DecidableEq, Repr

/-- The calls of `ensureLoaderInstaller`. -/
inductive InstallerPoint where
  | noGuiExists
  | guiExists
  | cacheExists
  | markerExists
  | markerRead
  | reused
  | replacing
  | noGuiRemove
  | guiRemove
  | cacheRemove
  | downloading
  | installerWrite
  | markerWrite
  | resolved
  | verified
  deriving DecidableEq, Repr

/-- The calls of `buildClient`: an operation on the volume, or a log line or a
progress that finds the job cancelled. -/
inductive BuildPoint where
  | authlibExists
  | compatibility
  | previousExists
  | previousRead
  | previousInvalid
  | previousIndexExists
  | previousIndex
  | reload (progress : Nat) (point : ReloadPoint)
  | configuring
  | configureLine (index : Nat)
  | installer (point : InstallerPoint)
  | building
  | builderLine (index : Nat)
  | profileExists
  | updatesExists
  | builtExists
  | builtRead
  | librariesWrite
  | librariesRemoved
  | indexExists
  | assetDirectory
  | assetsStarted
  | assetsReady
  | indexPresent
  | indexVerified
  | metadataWrite
  | metadataPreserved
  | verified
  deriving DecidableEq, Repr

/-- A command of the LaunchServer: its answer, and what it does to the
volume. -/
structure ControlCommand (Content : Type) where
  answer : Except String (List String)
  change : Volume Content → Volume Content

/-- The external builder: its answer, the profile file and the updates
directory that it leaves, and what else it changes. -/
structure ClientBuilder (Content : Type) where
  answer : Except String (List String)
  profile : Option Content
  updates : Option (List (String × Content))
  others : Volume Content → Volume Content

structure InstallerArtifact (Content : Type) where
  filename : String
  bytes : Content
  loaderVersion : String

/-- The asset objects that are written, by their hashes, until the download
fails or yields the index. -/
structure AssetDownload (Content : Type) where
  objects : List (String × Content)
  index : Except String Content

structure BuildEnvironment (Content : Type) where
  parse : Content → Option Json
  stringify : Json → Content
  decode : Content → String
  encode : String → Content
  inferProfileLoaderVersion : JsonFields → Option String
  faults : BuildPoint → Option String
  sync : Nat → ControlCommand Content
  configure : ControlCommand Content
  download : Except String (InstallerArtifact Content)
  builder : ClientBuilder Content
  assets : AssetDownload Content

def isDigits (text : String) : Bool :=
  text ≠ "" && text.toList.all Char.isDigit

def dotParts (version : String) : List String :=
  (version.toList.splitOn '.').map String.ofList

/-- `/^[0-9]+(?:\.[0-9]+){1,3}$/`. -/
def versionPattern (version : String) : Bool :=
  let parts := dotParts version
  2 ≤ parts.length && parts.length ≤ 4 && parts.all isDigits

/-- `/^[a-z0-9][a-z0-9_-]{0,63}$/`. -/
def modPattern (value : String) : Bool :=
  let word := fun character : Char => character.isLower || character.isDigit
  match value.toList with
  | [] => false
  | first :: rest =>
      word first && rest.length ≤ 63 && rest.all fun character =>
        word character || character ∈ ['_', '-']

def parseVersion (version : String) : List Nat :=
  (dotParts version).map fun part =>
    part.toList.foldl
      (fun number digit => 10 * number + (digit.toNat - '0'.toNat)) 0

/-- Missing components count as zero. -/
def compareParts : List Nat → List Nat → Ordering
  | [], others => if others.all (· = 0) then .eq else .lt
  | left :: rest, [] => if (left :: rest).all (· = 0) then .eq else .gt
  | left :: leftRest, right :: rightRest =>
      (compare left right).then (compareParts leftRest rightRest)

def compareVersions (left right : String) : Ordering :=
  compareParts (parseVersion left) (parseVersion right)

def resolveClientCompatibility (minecraftVersion : String) : String :=
  let before := fun other => compareVersions minecraftVersion other = .lt
  if before "1.16.5" then "LauncherAuthlib1.jar"
  else if before "1.18" then "LauncherAuthlib2.jar"
  else if before "1.19" then "LauncherAuthlib3.jar"
  else if compareVersions minecraftVersion "1.19" = .eq then
    "LauncherAuthlib3-1.19.jar"
  else if before "1.20" then "LauncherAuthlib3-1.19.1.jar"
  else if before "1.20.2" then "LauncherAuthlib4.jar"
  else if before "1.20.3" then "LauncherAuthlib5.jar"
  else if before "1.21.9" then "LauncherAuthlib6.jar"
  else if before "26.2" then "LauncherAuthlib7.jar"
  else "LauncherAuthlib9.jar"

/-- The loader version that was asked for; an empty one counts as none. -/
def ClientBuildInput.requestedVersion (input : ClientBuildInput) :
    Option String :=
  input.loaderVersion.filter (· ≠ "")

def checkMods : List String → Except String Unit
  | [] => .ok ()
  | value :: rest =>
      if modPattern value then checkMods rest
      else .error ("Invalid Modrinth slug: " ++ value)

def demand (condition : Bool) (problem : String) : Except String Unit :=
  if condition then .ok () else .error problem

/-- The checks of a request, which yield its authlib. -/
def checkBuild (input : ClientBuildInput) : Except String String := do
  Servers.validateProfile input.name
  demand (versionPattern input.minecraftVersion)
    "Minecraft version is invalid"
  checkMods input.mods
  demand (input.requestedVersion = none || input.loader = .forge ||
      input.loader = .neoforge)
    "Exact loader versions are supported for Forge and NeoForge builds"
  return resolveClientCompatibility input.minecraftVersion

/-- The fields of what `JSON.parse` yields; other values have none. -/
def profileFields (profile : Json) : JsonFields :=
  profile.fields?.getD []

/-- `/^[a-zA-Z0-9][a-zA-Z0-9._-]{0,127}$/`. -/
def assetPathSegmentPattern (value : String) : Bool :=
  match value.toList with
  | [] => false
  | first :: rest =>
      isAlphanumeric first && rest.length ≤ 127 &&
        rest.all fun character =>
          isAlphanumeric character || character ∈ ['.', '_', '-']

def assetSegment (key : String) (profile : JsonFields) : Option String :=
  ((getField key profile).bind Json.string?).filter assetPathSegmentPattern

def indexPath (assetDir assetIndex : String) : String :=
  "updates/" ++ assetDir ++ "/indexes/" ++ assetIndex ++ ".json"

def profileAssets (profile : JsonFields) : Option (String × String) :=
  match assetSegment "assetDir" profile,
    assetSegment "assetIndex" profile with
  | some assetDir, some assetIndex => some (assetDir, assetIndex)
  | _, _ => none

def profileAssetIndexPath (profile : JsonFields) : Option String :=
  (profileAssets profile).map fun assets => indexPath assets.1 assets.2

def installerOnlyArtifacts : List (List String) :=
  [["com", "opencsv", "opencsv"],
    ["commons-beanutils", "commons-beanutils"],
    ["commons-collections", "commons-collections"],
    ["commons-logging", "commons-logging"],
    ["de", "siegmar", "fastcsv"],
    ["net", "md-5", "specialsource"],
    ["net", "neoforged", "srgutils"],
    ["org", "apache", "commons", "commons-collections4"],
    ["org", "apache", "commons", "commons-text"]]

/-- `[^/]+\.jar`. -/
def isJar (filename : String) : Bool :=
  4 < filename.length && filename.endsWith ".jar"

/-- A jar named `mergetool-` and parts between dots that are free of
hyphens. -/
def isMergetoolJar (filename : String) : Bool :=
  let middle := (filename.toList.drop 10).dropLast.dropLast.dropLast.dropLast
  filename.startsWith "mergetool-" && filename.endsWith ".jar" &&
    '-' ∉ middle && (middle.splitOn '.').all (· ≠ [])

/-- One of `neoForgeInstallerOnlyLibraries` matches, whatever the case. -/
def isInstallerLibrary (library : String) : Bool :=
  match pathSteps (String.ofList (library.toList.map Char.toLower)) with
  | "libraries" :: steps =>
      match steps.reverse with
      | filename :: version :: artifact =>
          version ≠ "" &&
            ((artifact.reverse ∈ installerOnlyArtifacts && isJar filename) ||
              (artifact.reverse = ["net", "neoforged", "mergetool"] &&
                isMergetoolJar filename))
      | _ => false
  | _ => false

def isInstallerItem : Json → Bool
  | .string library => isInstallerLibrary library
  | _ => false

/-- The profile without installer libraries, and how many there were. -/
def removeNeoForgeInstallerLibraries (profile : JsonFields) :
    JsonFields × Nat :=
  match (getField "classPath" profile).bind Json.items? with
  | none => (profile, 0)
  | some items =>
      (setField "classPath"
        (.array (items.filter fun item => !isInstallerItem item)) profile,
        (items.filter isInstallerItem).length)

def removeInstallerLibraries
    (loader : MinecraftLoader) (profile : JsonFields) : JsonFields × Nat :=
  if loader = .neoforge then removeNeoForgeInstallerLibraries profile
  else (profile, 0)

def isHexDigit (character : Char) : Bool :=
  character.isDigit || ('a' ≤ character && character ≤ 'f') ||
    ('A' ≤ character && character ≤ 'F')

def isHex (length : Nat) (characters : List Char) : Bool :=
  characters.length = length && characters.all isHexDigit

def profileUuidPattern (value : String) : Bool :=
  match value.toList.splitOn '-' with
  | [first, second, third, fourth, fifth] =>
      isHex 8 first && isHex 4 second && isHex 4 third && isHex 4 fourth &&
        isHex 12 fifth &&
          third.head?.any (· ∈ ['1', '2', '3', '4', '5']) &&
            fourth.head?.any (· ∈ ['8', '9', 'a', 'b', 'A', 'B'])
  | _ => false

def isUuid : Json → Bool
  | .string value => profileUuidPattern value
  | _ => false

def isText : Json → Bool
  | .string value => JavaScript.trim value ≠ ""
  | _ => false

/-- `Number.isSafeInteger`. -/
def isSafeInteger : Json → Bool
  | .number value =>
      value.den = 1 && -(2 ^ 53 - 1) ≤ value.num && value.num ≤ 2 ^ 53 - 1
  | _ => false

def isArray : Json → Bool
  | .array _ => true
  | _ => false

/-- The fields that a rebuild carries over, each when its value passes. -/
def carriedFields : List (String × (Json → Bool)) :=
  [("uuid", isUuid), ("title", isText), ("info", isText),
    ("sortIndex", isSafeInteger), ("servers", isArray)]

def carryField (previous generated : JsonFields)
    (field : String × (Json → Bool)) : JsonFields :=
  match (getField field.1 previous).filter field.2 with
  | some value => setField field.1 value generated
  | none => generated

def mergeMetadata (previous generated : JsonFields) : JsonFields :=
  carriedFields.foldl (carryField previous) generated

/-- Some field is carried over. -/
def preservesMetadata (previous : JsonFields) : Bool :=
  carriedFields.any fun field => (getField field.1 previous).any field.2

def profilePath (name : String) : String :=
  "profiles/" ++ name ++ ".json"

def updatesPath (name : String) : String :=
  "updates/" ++ name

def workspacePath : String := "config/MirrorHelper/workspace"

section Build

variable {Content : Type}
variable (environment : BuildEnvironment Content) (input : ClientBuildInput)

def runCommand (command : ControlCommand Content) :
    Program (Volume Content) String (List String) := do
  update command.change
  lift command.answer

def logLines (point : Nat → BuildPoint) (lines : List String) :
    Program (Volume Content) String Unit :=
  passEach environment.faults point lines.length

def reloadProfilesAndUpdates (progress : Nat) :
    Program (Volume Content) String Unit := do
  pass environment.faults (.reload progress .started)
  removeFile environment.faults (.reload progress .updatesCache)
    ".updates-cache"
  pass environment.faults (.reload progress .invalidated)
  let lines ← runCommand (environment.sync progress)
  logLines environment (fun index => .reload progress (.line index)) lines
  pass environment.faults (.reload progress .reloaded)

def readPrevious : Program (Volume Content) String (Option Json) := do
  let bytes ← readFile environment.faults .previousRead
    (profilePath input.name)
  lift (match environment.parse bytes with
    | none => .error "invalid JSON"
    | some profile => .ok (some profile))

/-- The profile before the build; one that cannot be read counts as none. -/
def previousProfile : Program (Volume Content) String (Option Json) := do
  let present ← existsFile environment.faults .previousExists
    (profilePath input.name)
  if present then
    handle (readPrevious environment input) fun _ => do
      pass environment.faults .previousInvalid
      pure none
  else
    pure none

def preparePreviousAssets (previous : Option Json) :
    Program (Volume Content) String Unit :=
  match previous.bind fun profile =>
      profileAssetIndexPath (profileFields profile) with
  | none => pure ()
  | some path => do
      let present ← existsFile environment.faults .previousIndexExists path
      if present then do
        pass environment.faults .previousIndex
        reloadProfilesAndUpdates environment 15
      else
        pure ()

def loaderName : MinecraftLoader → String
  | .vanilla => "VANILLA"
  | .fabric => "FABRIC"
  | .quilt => "QUILT"
  | .forge => "FORGE"
  | .neoforge => "NEOFORGE"

/-- The loader in the names of files, in lower case. -/
def loaderText (loader : MinecraftLoader) : String :=
  String.ofList ((loaderName loader).toList.map Char.toLower)

def installerPath (input : ClientBuildInput) (suffix : String) : String :=
  workspacePath ++ "/installers/" ++ loaderText input.loader ++ "-" ++
    input.minecraftVersion ++ suffix

def installerPaths (input : ClientBuildInput) : List String :=
  [installerPath input "-installer-nogui.jar",
    installerPath input "-installer.jar"]

def installerCachePath (input : ClientBuildInput) : String :=
  workspacePath ++ "/clients/" ++ loaderText input.loader ++ "/" ++
    input.minecraftVersion

def versionMarkerPath (input : ClientBuildInput) : String :=
  workspacePath ++ "/.gravit-panel-loader-versions/" ++
    loaderText input.loader ++ "-" ++ input.minecraftVersion ++ ".txt"

/-- The loader version in the marker, when an exact one was asked for. -/
def cachedVersion : Program (Volume Content) String (Option String) :=
  match input.requestedVersion with
  | none => pure none
  | some _ => do
      let present ← existsFile environment.faults
        (.installer .markerExists) (versionMarkerPath input)
      if present then do
        let bytes ← readFile environment.faults (.installer .markerRead)
          (versionMarkerPath input)
        pure (some (JavaScript.trim (environment.decode bytes)))
      else
        pure none

/-- Remove what another loader version left. -/
def replaceCached : Program (Volume Content) String Unit := do
  pass environment.faults (.installer .replacing)
  removeFile environment.faults (.installer .noGuiRemove)
    (installerPath input "-installer-nogui.jar")
  removeFile environment.faults (.installer .guiRemove)
    (installerPath input "-installer.jar")
  removeDirectory environment.faults (.installer .cacheRemove)
    (installerCachePath input)

def storeInstaller : Program (Volume Content) String Unit := do
  let artifact ← lift environment.download
  let path := workspacePath ++ "/installers/" ++ artifact.filename
  lift (demand (path ∈ installerPaths input)
    ("Resolved an unexpected installer filename: " ++ artifact.filename))
  writeFileAtomic environment.faults (.installer .installerWrite) path
    artifact.bytes
  writeFileAtomic environment.faults (.installer .markerWrite)
    (versionMarkerPath input)
    (environment.encode (artifact.loaderVersion ++ "\n"))
  pass environment.faults (.installer .resolved)
  pass environment.faults (.installer .verified)

/-- Download an installer; one that failed leaves no file behind. -/
def downloadInstaller : Program (Volume Content) String Unit := do
  pass environment.faults (.installer .downloading)
  handle (storeInstaller environment input) fun problem => do
    update fun volume =>
      (volume.setFile (installerPath input "-installer-nogui.jar")
        none).setFile (installerPath input "-installer.jar") none
    throw ("Failed to prepare " ++ loaderName input.loader ++
      " installer for Minecraft " ++ input.minecraftVersion ++ ": " ++
        problem)

def ensureLoaderInstaller : Program (Volume Content) String Unit :=
  if input.loader = .forge ∨ input.loader = .neoforge then do
    let noGui ← existsFile environment.faults (.installer .noGuiExists)
      (installerPath input "-installer-nogui.jar")
    let gui ← existsFile environment.faults (.installer .guiExists)
      (installerPath input "-installer.jar")
    let cache ← existsDirectory environment.faults (.installer .cacheExists)
      (installerCachePath input)
    let cached ← cachedVersion environment input
    if noGui || gui || cache then
      if input.requestedVersion = none ∨ cached = input.requestedVersion then
        pass environment.faults (.installer .reused)
      else do
        replaceCached environment input
        downloadInstaller environment input
    else
      downloadInstaller environment input
  else
    pure ()

def prepareBuild : Program (Volume Content) String (Option Json) := do
  let authlib ← lift (checkBuild input)
  let present ← existsFile environment.faults .authlibExists
    (workspacePath ++ "/authlib/" ++ authlib)
  lift (demand present (authlib ++
    " is missing; apply the pinned MirrorHelper workspace first"))
  pass environment.faults .compatibility
  let previous ← previousProfile environment input
  preparePreviousAssets environment previous
  pass environment.faults .configuring
  let lines ← runCommand environment.configure
  logLines environment .configureLine lines
  ensureLoaderInstaller environment input
  pass environment.faults .building
  pure previous

def ClientBuilder.change (builder : ClientBuilder Content) (name : String)
    (volume : Volume Content) : Volume Content :=
  ((builder.others volume).setFile (profilePath name)
    builder.profile).setDirectory (updatesPath name) builder.updates

def readProfileConfig : Program (Volume Content) String JsonFields := do
  let present ← existsFile environment.faults .builtExists
    (profilePath input.name)
  lift (demand present ("Profile " ++ input.name ++ " does not exist"))
  let bytes ← readFile environment.faults .builtRead
    (profilePath input.name)
  lift (match environment.parse bytes with
    | none =>
        .error ("Profile " ++ input.name ++ " contains invalid JSON")
    | some (.object fields) => .ok fields
    | some _ =>
        .error ("Profile " ++ input.name ++ " has an invalid structure"))

def readBuilt : Program (Volume Content) String JsonFields := do
  let lines ← lift environment.builder.answer
  logLines environment .builderLine lines
  let hasProfile ← existsFile environment.faults .profileExists
    (profilePath input.name)
  let hasUpdates ← existsDirectory environment.faults .updatesExists
    (updatesPath input.name)
  lift (demand (hasProfile && hasUpdates)
    "MirrorHelper did not produce the expected profile and updates directory")
  readProfileConfig environment input

def runBuilder : Program (Volume Content) String JsonFields := do
  update (environment.builder.change input.name)
  readBuilt environment input

def writeProfile (point : BuildPoint) (profile : JsonFields) :
    Program (Volume Content) String Unit :=
  writeFileAtomic environment.faults point (profilePath input.name)
    (environment.stringify (.object profile))

/-- Rewrite a profile from which libraries were removed. -/
def publishRemoval (removal : JsonFields × Nat) :
    Program (Volume Content) String Unit :=
  if removal.2 = 0 then
    pure ()
  else do
    writeProfile environment input .librariesWrite removal.1
    pass environment.faults .librariesRemoved

def assetRoot (assetDirectory : String) : String :=
  "updates/" ++ assetDirectory

def objectPath (assetDirectory hash : String) : String :=
  assetRoot assetDirectory ++ "/objects/" ++
    String.ofList (hash.toList.take 2) ++ "/" ++ hash

def writeObjects (assetDirectory : String)
    (objects : List (String × Content)) (volume : Volume Content) : Volume Content :=
  objects.foldl
    (fun reached object =>
      reached.setFile (objectPath assetDirectory object.1) (some object.2))
    volume

def ensureAssets (assetDirectory assetIndex : String) :
    Program (Volume Content) String Unit := do
  lift (demand (assetPathSegmentPattern assetDirectory &&
      assetPathSegmentPattern assetIndex)
    "Generated profile contains an unsafe Minecraft asset path")
  pass environment.faults .assetsStarted
  update (writeObjects assetDirectory environment.assets.objects)
  let index ← lift environment.assets.index
  update (setFile (indexPath assetDirectory assetIndex) (some index))
  pass environment.faults .assetsReady

def syncAssets (present : Bool) (assets : String × String) :
    Program (Volume Content) String Unit :=
  if present then
    pure ()
  else do
    pass environment.faults .assetDirectory
    ensureAssets environment assets.1 assets.2

def requireAssets (profile : JsonFields) : Program (Volume Content) String Unit :=
  match profileAssets profile with
  | none => throw
      "MirrorHelper produced a profile without a safe assetDir and assetIndex"
  | some assets => do
      let path := indexPath assets.1 assets.2
      let present ← existsFile environment.faults .indexExists path
      syncAssets environment present assets
      let produced ← existsFile environment.faults .indexPresent path
      lift (demand produced
        ("Minecraft asset sync did not produce " ++ path))
      pass environment.faults .indexVerified

def versionMismatch (input : ClientBuildInput)
    (generated : Option String) : String :=
  "MirrorHelper built " ++ loaderName input.loader ++ " " ++
    generated.getD "without a detectable version" ++
      " instead of requested " ++ input.requestedVersion.getD ""

/-- The profile without installer libraries, once its loader and its assets
are in order. -/
def verifyBuilt (built : JsonFields) :
    Program (Volume Content) String JsonFields := do
  let removal := removeInstallerLibraries input.loader built
  publishRemoval environment input removal
  let version := environment.inferProfileLoaderVersion removal.1
  lift (demand (input.requestedVersion = none ||
      version = input.requestedVersion) (versionMismatch input version))
  requireAssets environment removal.1
  pure removal.1

def verifyBuild : Program (Volume Content) String JsonFields := do
  let built ← runBuilder environment input
  verifyBuilt environment input built

/-- Write the profile with the metadata of the previous one. -/
def publishMetadata (previous : Option Json) (generated : JsonFields) :
    Program (Volume Content) String Unit :=
  let fields := (previous.map profileFields).getD []
  if preservesMetadata fields then do
    writeProfile environment input .metadataWrite
      (mergeMetadata fields generated)
    pass environment.faults .metadataPreserved
  else
    pure ()

def buildResult (generated : JsonFields) : ClientBuildResult where
  name := input.name
  minecraftVersion := input.minecraftVersion
  loader := input.loader
  loaderVersion := environment.inferProfileLoaderVersion generated
  mods := input.mods
  profilePath := profilePath input.name
  updatesPath := updatesPath input.name
  authlibArtifact := resolveClientCompatibility input.minecraftVersion

/-- Reload the profile that was published. -/
def concludeBuild (generated : JsonFields) :
    Program (Volume Content) String ClientBuildResult := do
  reloadProfilesAndUpdates environment 90
  pass environment.faults .verified
  pure (buildResult environment input generated)

def finishBuild (previous : Option Json) :
    Program (Volume Content) String ClientBuildResult := do
  let generated ← verifyBuild environment input
  publishMetadata environment input previous generated
  concludeBuild environment input generated

def buildClient : Program (Volume Content) String ClientBuildResult := do
  let previous ← prepareBuild environment input
  finishBuild environment input previous

end Build

end GravitPanel.Clients
