import GravitPanel.Core.Program
import GravitPanel.Mods.ModpackArchive

/-!
# Resolving a mod with its dependencies

`resolveInstall` of `modrinth.service.ts`: a depth-first search from a project
along the required dependencies of the first compatible version.  The answers
of the API are given.
-/

namespace GravitPanel.Mods

open Program

inductive ProjectSide where
  | required
  | optional
  | unsupported
  | unknown
  deriving DecidableEq, Repr

inductive DependencyType where
  | required
  | optional
  | incompatible
  | embedded
  deriving DecidableEq, Repr

structure ModrinthFile where
  url : String
  filename : String
  primary : Bool
  deriving DecidableEq, Repr

structure ModrinthDependency where
  projectId : Option String
  versionId : Option String
  dependencyType : DependencyType
  deriving DecidableEq, Repr

structure ModrinthVersion where
  projectId : String
  files : List ModrinthFile
  dependencies : List ModrinthDependency
  deriving DecidableEq, Repr

structure ModrinthProject where
  id : String
  slug : String
  title : Option String
  clientSide : ProjectSide
  serverSide : ProjectSide
  deriving DecidableEq, Repr

/-- What the API answers to requests: an error if there is no response, and
nothing if the response is not `ok`. -/
structure ModrinthApi where
  project : String → Except String (Option ModrinthProject)
  versions : String → String → String →
    Except String (Option (List ModrinthVersion))
  version : String → Except String (Option ModrinthVersion)

inductive InstallTarget where
  | client
  | server
  deriving DecidableEq, Repr

def InstallTarget.name : InstallTarget → String
  | .client => "client"
  | .server => "server"

def InstallTarget.side (project : ModrinthProject) :
    InstallTarget → ProjectSide
  | .client => project.clientSide
  | .server => project.serverSide

structure ModSearch where
  api : ModrinthApi
  minecraftVersion : String
  loader : String
  target : InstallTarget

structure ResolvedMod where
  projectId : String
  slug : String
  title : String
  root : Bool
  version : ModrinthVersion
  file : ModrinthFile
  deriving DecidableEq, Repr

/-- The references that a search has visited, and the mods that it found. -/
structure Resolution where
  visited : List String
  resolved : List ResolvedMod
  deriving DecidableEq, Repr

def Resolution.empty : Resolution := ⟨[], []⟩

def Resolution.visit (reference : String) (state : Resolution) : Resolution :=
  { state with visited := reference :: state.visited }

def Resolution.add (item : ResolvedMod) (state : Resolution) : Resolution :=
  { state with resolved := state.resolved ++ [item] }

/-- A response that has to be `ok`. -/
def expectOk {Value : Type}
    (answer : Except String (Option Value)) (problem : String) :
    Except String Value := do
  match ← answer with
  | none => .error problem
  | some value => .ok value

def maxResolvedProjects : Nat := 64

def tooManyProjects : String :=
  "Modrinth dependency graph exceeds 64 projects"

def primaryFile (version : ModrinthVersion) : Option ModrinthFile :=
  (version.files.find? ModrinthFile.primary).or version.files.head?

/-- The project to visit for a dependency, if there is one. -/
def dependencyReference (api : ModrinthApi) (dependency : ModrinthDependency) :
    Except String (Option String) :=
  if dependency.dependencyType ≠ .required then
    .ok none
  else if !absent dependency.projectId then
    .ok dependency.projectId
  else if absent dependency.versionId then
    .ok none
  else do
    let versionId := dependency.versionId.getD ""
    let version ← expectOk (api.version versionId)
      ("Failed to resolve required Modrinth dependency " ++ versionId)
    .ok (some version.projectId)

def visitDependency
    (api : ModrinthApi) (visit : String → Program Resolution String PUnit)
    (dependency : ModrinthDependency) : Program Resolution String PUnit := do
  match ← lift (dependencyReference api dependency) with
  | none => pure ⟨⟩
  | some reference => visit reference

def resolvedMod
    (project : ModrinthProject) (root : Bool) (version : ModrinthVersion)
    (file : ModrinthFile) : ResolvedMod where
  projectId := project.id
  slug := project.slug
  title := project.title.getD project.slug
  root := root
  version := version
  file := file

def resolveVersion
    (api : ModrinthApi) (visit : String → Program Resolution String PUnit)
    (project : ModrinthProject) (root : Bool) (version : ModrinthVersion) :
    Program Resolution String PUnit := do
  forEach version.dependencies (visitDependency api visit)
  match primaryFile version with
  | none =>
      throw (project.slug ++ " version does not contain a downloadable file")
  | some file =>
      update (Resolution.add (resolvedMod project root version file))

def resolveProject
    (search : ModSearch) (visit : String → Program Resolution String PUnit)
    (root : Bool) (project : ModrinthProject) :
    Program Resolution String PUnit := do
  lift (reject (search.target.side project = .unsupported && root)
    (project.slug ++ " is marked as unsupported on the " ++
      search.target.name))
  let versions ← lift (expectOk
    (search.api.versions project.id search.minecraftVersion search.loader)
    ("Failed to resolve a " ++ search.target.name ++ " version for " ++
      project.slug))
  match versions.head? with
  | none =>
      if root then
        throw (project.slug ++ " has no compatible " ++
          search.minecraftVersion ++ "/" ++ search.loader ++ " version")
      else
        pure ⟨⟩
  | some version => resolveVersion search.api visit project root version

/-- One visit.  The depth only bounds the recursion: where it is used up, the
limit on the visited projects is too. -/
def visitProject (search : ModSearch) :
    Nat → Bool → String → Program Resolution String PUnit
  | depth, root, reference => do
      let state ← get
      if reference ∈ state.visited then
        pure ⟨⟩
      else if maxResolvedProjects ≤ state.visited.length then
        throw tooManyProjects
      else
        match depth with
        | 0 => throw tooManyProjects
        | depth + 1 => do
            update (Resolution.visit reference)
            let project ← lift (expectOk (search.api.project reference)
              (reference ++ " is not available from the pinned Modrinth API"))
            resolveProject search (visitProject search depth false) root
              project

def resolveInstall (search : ModSearch) (slug : String) :
    Except String (List ResolvedMod) :=
  let result := visitProject search maxResolvedProjects true slug .empty
  result.1.map fun _ => result.2.resolved

end GravitPanel.Mods
