import Mathlib.Data.List.Sort
import GravitPanel.Core.Matcher
import GravitPanel.Core.Json
import GravitPanel.Core.JavaScript
import GravitPanel.Clients.BuildClient

/-!
# Installers of the loaders

`versions` and `download` of `LoaderInstallerService` over what the Maven
repositories answer, and the loader version that `inferProfileLoaderVersion`
finds in a profile.
-/

namespace GravitPanel.Clients

open Json Matcher JavaScript

inductive LoaderInstallerType where
  | forge
  | neoforge
  deriving DecidableEq, Repr

structure LoaderInstallerArtifact where
  bytes : List UInt8
  filename : String
  loaderVersion : String
  sha256 : String
  url : String
  deriving DecidableEq, Repr

/-- What the repositories answer, as `fetchJson`, `fetchText` and `fetchBytes`
report it, and whether the collator puts one version up to another. -/
structure LoaderRepositories where
  neoForgeVersions : Except String Json
  forgeMetadata : Except String String
  forgePromotions : Except String Json
  text : String → Except String String
  bytes : String → Except String (List UInt8)
  sha256 : List UInt8 → String
  upTo : String → String → Bool

def loaderTypeName : LoaderInstallerType → String
  | .forge => "FORGE"
  | .neoforge => "NEOFORGE"

/-- `/^[a-zA-Z0-9][a-zA-Z0-9.+_-]{0,127}$/`. -/
def loaderVersionPattern (version : String) : Bool :=
  isToken ['.', '+', '_', '-'] 127 version

def isMinecraftAtMost (version expected : String) : Bool :=
  compareVersions version expected ≠ .gt

/-- The versions from the last to the first. -/
def descending (upTo : String → String → Bool) (versions : List String) :
    List String :=
  (versions.insertionSort (upTo · ·)).reverse

def neoForgePrefix (minecraftVersion : String) : List Char :=
  (if ['1', '.'].isPrefixOf minecraftVersion.toList then
    minecraftVersion.toList.drop 2
  else
    minecraftVersion.toList) ++ ['.']

def demandVersions : Json → Except String (List Json)
  | .null => .error "null is not an object"
  | .object metadata =>
      match getField "versions" metadata with
      | some (.array versions) => .ok versions
      | _ =>
          .error "NeoForge version metadata does not contain a versions array"
  | _ => .error "NeoForge version metadata does not contain a versions array"

def neoForgeListed (minecraftVersion : String) (versions : List Json) :
    List String :=
  (versions.filterMap Json.string?).filter fun version =>
    (neoForgePrefix minecraftVersion).isPrefixOf version.toList &&
      loaderVersionPattern version

/-- `<version>([^<]+)<\/version>` -/
def versionElement : Matcher (List Char) :=
  andThen (literal (· == ·) "<version>".toList) fun _ =>
    andThen (run (· ≠ '<') (· ≠ '<')) fun version =>
      andThen (literal (· == ·) "</version>".toList) fun _ => done version

def legacySuffix (minecraftVersion : String) : List Char :=
  '-' :: minecraftVersion.toList

/-- The version without the Minecraft version before and behind it. -/
def forgeVersion (minecraftVersion : String) (version : List Char) : String :=
  let withoutMinecraft := version.drop (minecraftVersion.length + 1)
  String.ofList
    (if (legacySuffix minecraftVersion).isSuffixOf withoutMinecraft then
      withoutMinecraft.take
        (withoutMinecraft.length - (legacySuffix minecraftVersion).length)
    else
      withoutMinecraft)

def wellFormed (versions : List String) : List String :=
  (versions.zipIdx.filter fun entry =>
    loaderVersionPattern entry.1 && versions.idxOf entry.1 == entry.2).map
      Prod.fst

def forgeListed (minecraftVersion metadata : String) : List String :=
  wellFormed (((matchAll versionElement metadata.toList).filter fun version =>
      (minecraftVersion.toList ++ ['-']).isPrefixOf version).map
    (forgeVersion minecraftVersion))

section Service

variable (repositories : LoaderRepositories)

def neoForgeVersions (minecraftVersion : String) :
    Except String (List String) := do
  let metadata ← repositories.neoForgeVersions
  let versions ← demandVersions metadata
  return descending repositories.upTo
    (neoForgeListed minecraftVersion versions)

def forgeVersions (minecraftVersion : String) :
    Except String (List String) := do
  let metadata ← repositories.forgeMetadata
  return descending repositories.upTo (forgeListed minecraftVersion metadata)

def versions (loader : LoaderInstallerType) (minecraftVersion : String) :
    Except String (List String) := do
  demand (versionPattern minecraftVersion)
    "Minecraft version has an invalid format"
  match loader with
  | .neoforge => neoForgeVersions repositories minecraftVersion
  | .forge => forgeVersions repositories minecraftVersion

/-- Where the Maven repository keeps an artifact. -/
structure ResolvedInstaller where
  filename : String
  loaderVersion : String
  artifactVersion : String
  url : String

def neoForgeInstaller (minecraftVersion loaderVersion : String) :
    ResolvedInstaller where
  filename := "neoforge-" ++ minecraftVersion ++ "-installer-nogui.jar"
  loaderVersion := loaderVersion
  artifactVersion := loaderVersion
  url := "https://maven.neoforged.net/releases/net/neoforged/neoforge/" ++
    loaderVersion ++ "/neoforge-" ++ loaderVersion ++ "-installer.jar"

def demandFirst (minecraftVersion : String) (requested : Option String)
    (versions : List String) : Except String String :=
  match requested.or versions.head? with
  | some loaderVersion =>
      if loaderVersion = "" then
        .error ("NeoForge has no installer for Minecraft " ++ minecraftVersion)
      else
        .ok loaderVersion
  | none =>
      .error ("NeoForge has no installer for Minecraft " ++ minecraftVersion)

def resolveNeoForge (minecraftVersion : String)
    (requestedVersion : Option String) : Except String ResolvedInstaller := do
  let offered ← versions repositories .neoforge minecraftVersion
  let loaderVersion ← demandFirst minecraftVersion requestedVersion offered
  demand (loaderVersion ∈ offered)
    ("NeoForge " ++ loaderVersion ++ " is not available for Minecraft " ++
      minecraftVersion)
  return neoForgeInstaller minecraftVersion loaderVersion

def promotedVersion (minecraftVersion : String) :
    Json → Except String (Option String)
  | .null => .error "null is not an object"
  | metadata =>
      match metadata.fields?.bind (getField "promos") with
      | some (.object promotions) =>
          .ok ((getField (minecraftVersion ++ "-latest") promotions).bind
            Json.string?)
      | some (.array _) => .ok none
      | _ => .error "Forge promotions metadata does not contain a promos object"

def requestedForge (minecraftVersion : String) :
    Option String → Except String (Option String)
  | some loaderVersion => do
      let offered ← versions repositories .forge minecraftVersion
      demand (loaderVersion ∈ offered)
        ("Forge " ++ loaderVersion ++ " is not available for Minecraft " ++
          minecraftVersion)
      return some loaderVersion
  | none => do
      let metadata ← repositories.forgePromotions
      promotedVersion minecraftVersion metadata

def demandForge (minecraftVersion : String) :
    Option String → Except String String
  | some loaderVersion =>
      if loaderVersionPattern loaderVersion then .ok loaderVersion
      else .error ("Forge has no installer for Minecraft " ++ minecraftVersion)
  | none =>
      .error ("Forge has no installer for Minecraft " ++ minecraftVersion)

def isLegacy (minecraftVersion : String) : Bool :=
  isMinecraftAtMost minecraftVersion "1.10"

def forgeArtifactVersion (minecraftVersion loaderVersion : String) : String :=
  if isLegacy minecraftVersion then
    minecraftVersion ++ "-" ++ loaderVersion ++ "-" ++ minecraftVersion
  else
    minecraftVersion ++ "-" ++ loaderVersion

def forgeInstaller (minecraftVersion loaderVersion : String) :
    ResolvedInstaller where
  filename := "forge-" ++ minecraftVersion ++ "-installer" ++
    (if isLegacy minecraftVersion then "" else "-nogui") ++ ".jar"
  loaderVersion := loaderVersion
  artifactVersion := forgeArtifactVersion minecraftVersion loaderVersion
  url := "https://maven.minecraftforge.net/net/minecraftforge/forge/" ++
    forgeArtifactVersion minecraftVersion loaderVersion ++ "/forge-" ++
    forgeArtifactVersion minecraftVersion loaderVersion ++ "-installer.jar"

def resolveForge (minecraftVersion : String)
    (requestedVersion : Option String) : Except String ResolvedInstaller := do
  let requested ← requestedForge repositories minecraftVersion
    (requestedVersion.filter (· ≠ ""))
  let loaderVersion ← demandForge minecraftVersion requested
  return forgeInstaller minecraftVersion loaderVersion

def resolve (loader : LoaderInstallerType) (minecraftVersion : String)
    (requestedVersion : Option String) : Except String ResolvedInstaller :=
  match loader with
  | .neoforge => resolveNeoForge repositories minecraftVersion requestedVersion
  | .forge => resolveForge repositories minecraftVersion requestedVersion

def checksumWord (text : String) : List Char :=
  ((trim text).toList.takeWhile fun letter => !isWhiteSpace letter).map
    Char.toLower

def demandChecksum (loader : LoaderInstallerType) (text : String) :
    Except String String :=
  let digest := checksumWord text
  if digest.length = 64 ∧ digest.all fun letter =>
      letter.isDigit || ('a' ≤ letter && letter ≤ 'f') then
    .ok (String.ofList digest)
  else
    .error (loaderTypeName loader ++
      " Maven repository returned an invalid SHA-256 checksum")

def download (loader : LoaderInstallerType) (minecraftVersion : String)
    (loaderVersion : Option String) :
    Except String LoaderInstallerArtifact := do
  let resolved ← resolve repositories loader minecraftVersion loaderVersion
  let expected ← repositories.text (resolved.url ++ ".sha256")
  let digest ← demandChecksum loader expected
  let bytes ← repositories.bytes resolved.url
  demand (repositories.sha256 bytes = digest)
    (loaderTypeName loader ++ " installer checksum mismatch: expected " ++
      digest ++ ", got " ++ repositories.sha256 bytes)
  return {
    bytes := bytes
    filename := resolved.filename
    loaderVersion := resolved.loaderVersion
    sha256 := repositories.sha256 bytes
    url := resolved.url }

end Service

/-- The strings of a field that is an array. -/
def stringItems (key : String) (profile : JsonFields) : List String :=
  match getField key profile with
  | some (.array items) => items.filterMap Json.string?
  | _ => []

/-- The class path and the arguments, one on a line. -/
def profileText (profile : JsonFields) : List Char :=
  ['\n'].intercalate
    ((stringItems "classPath" profile ++
      stringItems "clientArgs" profile).map String.toList)

def sameLetter (left right : Char) : Bool :=
  left.toLower == right.toLower

def isSeparator (letter : Char) : Bool :=
  letter == '/' || letter == ':' || letter == '\\'

/-- `[0-9A-Za-z.+_-]` -/
def isVersionLetter (letter : Char) : Bool :=
  letter.isAlphanum || ['.', '+', '_', '-'].contains letter

/-- `[0-9][0-9A-Za-z.+_-]*` -/
def versionRun : Matcher (List Char) :=
  run Char.isDigit isVersionLetter

def isDigitOrDot (letter : Char) : Bool :=
  letter.isDigit || letter == '.'

/-- Steps of a path or of coordinates, each with a separator behind it. -/
def mavenDirectory : List String → Matcher Unit
  | [] => done ()
  | step :: rest =>
      andThen (literal sameLetter step.toList) fun _ =>
        andThen (one isSeparator) fun _ => mavenDirectory rest

/-- `[0-9.]+-` -/
def minecraftPrefix : Matcher Char :=
  andThen (one isDigitOrDot) fun _ =>
    andThen (many isDigitOrDot) fun _ => one ('-' == ·)

def fabricDirectory : List String := ["fabric-loader"]

def neoForgeDirectory : List String := ["net", "neoforged", "neoforge"]

def forgeDirectory : List String := ["net", "minecraftforge", "forge"]

def fabricPattern : Matcher (List Char) :=
  andThen (mavenDirectory fabricDirectory) fun _ => versionRun

def neoForgePattern : Matcher (List Char) :=
  andThen (mavenDirectory neoForgeDirectory) fun _ => versionRun

def forgePattern : Matcher (List Char) :=
  andThen (mavenDirectory forgeDirectory) fun _ =>
    andThen (optional minecraftPrefix) fun _ => versionRun

/-- A version behind the name of an argument and `=` or white space. -/
def argumentPattern (name : String) : Matcher (List Char) :=
  andThen (literal sameLetter name.toList) fun _ =>
    andThen (either (run (· == '=') fun _ => false)
      (run isWhiteSpace isWhiteSpace)) fun _ => versionRun

def loaderPatterns : List (Matcher (List Char)) :=
  [fabricPattern, neoForgePattern, forgePattern,
    argumentPattern "--fml.neoForgeVersion",
    argumentPattern "--fml.forgeVersion"]

def inferProfileLoaderVersion (profile : JsonFields) : Option String :=
  (loaderPatterns.findSome? fun pattern =>
    search pattern (profileText profile)).map String.ofList

example :
    (inferProfileLoaderVersion [("classPath", .array [.string
      "/net/minecraftforge/forge/1.20.1-47.3.0/forge-1.20.1-47.3.0.jar"])]) =
        some "47.3.0" := by
  decide +kernel

end GravitPanel.Clients
