import GravitPanel.Core.FileSystem
import Mathlib.Data.List.Sort

/-!
# The live filesystem of the agent

`agent/filesystem.go`: the requests that read and change the directory of a
server.  The state of a request is the whole file tree of the host.
-/

namespace GravitPanel.Agent

open Program FileTree

def maxLiveTextBytes : Int := 512 * 1024

def maxLiveTransferBytes : Int := 256 * 1024 * 1024

def reservedLiveRoots : List String :=
  ["eula.txt", "serverwrapper.jar", "serverwrapperinline.jar",
    "serverwrapperconfig.json", "gravit-server.env",
    "start-gravit-server.sh", "server.jar", "fabric-server-launch.jar",
    "run.sh", "run.bat", "user_jvm_args.txt", "libraries", "versions"]

/-- What comes from the standard library: `strings.ToLower`, strict base64 both
ways, the digest in hexadecimal, and `strings.TrimSpace` of the text of
bytes. -/
structure AgentSystem where
  toLower : String → String
  decode : String → Option (List UInt8)
  encode : List UInt8 → String
  sha256 : List UInt8 → String
  trimSpace : List UInt8 → String

/-- The identifier of a binding and the root that it is configured with. -/
structure LiveBinding where
  id : String
  root : String
  deriving DecidableEq, Repr

def initializeFilesystemRoot
    (system : AgentSystem) (binding : LiveBinding) (tree : Node) :
    Except String (Option Path) :=
  if binding.root = "" then .ok none
  else
    match realPath (pathSteps binding.root) tree with
    | none => .error "resolve configured root"
    | some root =>
        if stat root tree ≠ some .directory then
          .error "configured root is not a directory"
        else
          match readFile (root ++ [".gravit-panel-server"]) tree with
          | none => .error "server root marker does not match binding"
          | some marker =>
              if system.trimSpace marker ≠ binding.id then
                .error "server root marker does not match binding"
              else .ok (some root)

/-- One component, checked with its index. -/
def invalidPart (system : AgentSystem) (index : Nat) (part : String) :
    Option String :=
  if part = "" ∨ part = "." ∨ part = ".." ∨ ['.'] <+: part.toList ∨
      255 < part.utf8ByteSize then
    some "invalid path component"
  else if index = 0 ∧ system.toLower part ∈ reservedLiveRoots then
    some "path is reserved"
  else
    none

def validateLivePath
    (system : AgentSystem) (value : String) (allowRoot : Bool) :
    Except String PUnit :=
  if value = "" ∧ allowRoot then .ok ⟨⟩
  else if value = "" ∨ 512 < value.utf8ByteSize ∨ ['/'] <+: value.toList ∨
      '\\' ∈ value.toList ∨ '\x00' ∈ value.toList then
    .error "invalid path"
  else if 32 < (pathSteps value).length then
    .error "path is too deep"
  else
    match (pathSteps value).zipIdx.findSome? fun part =>
        invalidPart system part.2 part.1 with
    | some problem => .error problem
    | none => .ok ⟨⟩

/-- The components of a path; the empty path has none. -/
def liveParts (value : String) : Path :=
  (pathSteps value).filter (· ≠ "")

/-- `filepath.Join` of the root and a path. -/
def livePath (root : Path) (value : String) : Path :=
  root ++ liveParts value

/-- The components from a directory on are no links; only the last may be
something other than a directory, and the rest may be missing. -/
def inspectParts (tree : Node) : Path → Path → Except String PUnit
  | _, [] => .ok ⟨⟩
  | current, part :: rest =>
      if part = "" then inspectParts tree current rest
      else
        match lstat (current ++ [part]) tree with
        | none => .ok ⟨⟩
        | some kind =>
            if kind.isLink then .error "symbolic links are forbidden"
            else if rest ≠ [] ∧ kind ≠ .directory then
              .error "path parent is not a directory"
            else inspectParts tree (current ++ [part]) rest

def safeLivePath
    (system : AgentSystem) (root : Path) (value : String)
    (allowRoot : Bool) : Program Node String Path := do
  let tree ← get
  lift (validateLivePath system value allowRoot)
  lift (inspectParts tree root (pathSteps value))
  pure (livePath root value)

structure FilesystemRequest where
  id : String
  bindingID : String
  operation : String
  path : String
  sourcePath : String
  destinationPath : String
  paths : List String
  data : String
  maxBytes : Int
  overwrite : Bool
  confirm : Bool
  deriving DecidableEq, Repr

/-- `os.Rename`, which puts nothing on a directory and may be refused. -/
def osRename (allowed : Bool) (source target : Path) (tree : Node) :
    Option Node :=
  if lstat target tree = some .directory then none
  else permit allowed (rename source target) tree

theorem osRename_eq_some {allowed : Bool} {source target : Path}
    {tree next : Node} :
    osRename allowed source target tree = some next ↔
      lstat target tree ≠ some .directory ∧ allowed = true ∧
        rename source target tree = some next := by
  unfold osRename
  by_cases directory : lstat target tree = some .directory
  · simp [directory]
  · rw [if_neg directory, permit_eq_some]
    exact ⟨fun done => ⟨directory, done⟩, fun done => done.2⟩

/-- What a request meets: the random part of the name of its temporary file,
whether that file can be created, written and given its mode, the directories
that the system lets be made, whether it lets the entries be moved, by their
order, and the clock at each deletion. -/
structure FilesystemConditions where
  temporary : String
  creates : Bool
  writes : Bool
  modes : Bool
  makes : Path → Bool
  renames : Nat → Bool
  nanoseconds : Nat → Nat

inductive EntryType where
  | file
  | directory
  deriving DecidableEq, Repr

structure LiveEntry where
  path : String
  type : EntryType
  size : Option Nat
  deriving DecidableEq, Repr

inductive FilesystemResult where
  | listing (path : String) (entries : List LiveEntry)
  | content (path data : String) (size : Nat) (sha256 : String)
  | paths (paths : List String)
  deriving DecidableEq, Repr

/-- The smaller of a limit and the positive one of a request. -/
def limitBytes (limit : Int) (request : FilesystemRequest) : Int :=
  if 0 < request.maxBytes ∧ request.maxBytes < limit then request.maxBytes
  else limit

/-- The entry of a listing for a name in its directory. -/
def liveEntry
    (system : AgentSystem) (directory : String) (item : String × Kind) :
    Option LiveEntry :=
  if ['.'] <+: item.1.toList ∨
      (directory = "" ∧ system.toLower item.1 ∈ reservedLiveRoots) then
    none
  else
    let path := if directory = "" then item.1 else directory ++ "/" ++ item.1
    match item.2 with
    | .link .. => none
    | .directory => some ⟨path, .directory, none⟩
    | .file bytes => some ⟨path, .file, some bytes.length⟩

/-- Directories come first, and then the paths in their order. -/
def entryLE (first second : LiveEntry) : Bool :=
  if first.type ≠ second.type then first.type = .directory
  else !decide (second.path < first.path)

def list (system : AgentSystem) (root : Path) (request : FilesystemRequest) :
    Program Node String FilesystemResult := do
  let target ← safeLivePath system root request.path true
  let items ← observe "directory is unavailable" (readDirectory target)
  let sorted := items.insertionSort fun first second =>
    !decide (second.1 < first.1)
  let entries := (sorted.take 500).filterMap (liveEntry system request.path)
  pure (.listing request.path
    (entries.insertionSort fun first second => entryLE first second))

def regularFile (target : Path) (maxBytes : Int) :
    Program Node String (List UInt8) := do
  let kind ← observe "file is unavailable" (lstat target)
  match kind with
  | .file bytes =>
      if maxBytes < bytes.length then
        throw ("file exceeds " ++ toString maxBytes ++ " bytes")
      else
        observe "read file" (readFile target)
  | _ => throw "file is unavailable"

def read (system : AgentSystem) (root : Path) (request : FilesystemRequest) :
    Program Node String FilesystemResult := do
  let target ← safeLivePath system root request.path false
  let bytes ← regularFile target (limitBytes maxLiveTextBytes request)
  pure (.content request.path (system.encode bytes) bytes.length
    (system.sha256 bytes))

def writeChecks
    (system : AgentSystem) (request : FilesystemRequest) (target : Path)
    (tree : Node) : Except String (List UInt8) :=
  match system.decode request.data with
  | none => .error "file data is not valid base64"
  | some data =>
      let maxBytes := limitBytes maxLiveTransferBytes request
      if maxBytes < data.length then
        .error ("file exceeds " ++ toString (maxBytes / (1024 * 1024)) ++
          " MiB")
      else if !request.overwrite && (lstat target tree).isSome then
        .error "destination already exists"
      else if lstat target.dropLast tree ≠ some .directory then
        .error "parent directory is unavailable"
      else .ok data

/-- A temporary file is filled and put in the place of the target. -/
def replaceFile
    (conditions : FilesystemConditions) (temp target : Path) :
    Program Node String PUnit := do
  if conditions.writes then pure ⟨⟩ else throw "write file"
  if conditions.modes then pure ⟨⟩ else throw "set file permissions"
  attempt "replace file" (osRename (conditions.renames 0) temp target)

/-- A target gets its data by way of a temporary file beside it. -/
def writeFile
    (conditions : FilesystemConditions) (data : List UInt8)
    (temp target : Path) : Program Node String PUnit := do
  if conditions.creates then pure ⟨⟩ else throw "create temporary file"
  attempt "create temporary file" (add (.file data) temp)
  (replaceFile conditions temp target).cleanUp fun tree =>
    (unlink temp tree).getD tree

def write
    (system : AgentSystem) (conditions : FilesystemConditions) (root : Path)
    (request : FilesystemRequest) : Program Node String FilesystemResult := do
  let target ← safeLivePath system root request.path false
  let tree ← get
  let data ← lift (writeChecks system request target tree)
  writeFile conditions data
    (target.dropLast ++ [".gravit-fs-" ++ conditions.temporary]) target
  pure (.paths [request.path])

def mkdir
    (system : AgentSystem) (conditions : FilesystemConditions) (root : Path)
    (request : FilesystemRequest) : Program Node String FilesystemResult := do
  let target ← safeLivePath system root request.path false
  attempt "create directory"
    (permit (conditions.makes target) (add (.directory []) target))
  pure (.paths [request.path])

def moveChecks (source destination : Path) (tree : Node) :
    Except String PUnit :=
  if source <+: destination ∧ source ≠ destination then
    .error "cannot move directory into itself"
  else if (lstat destination tree).isSome then
    .error "destination already exists"
  else .ok ⟨⟩

def move
    (system : AgentSystem) (conditions : FilesystemConditions) (root : Path)
    (request : FilesystemRequest) : Program Node String FilesystemResult := do
  let source ← safeLivePath system root request.sourcePath false
  let destination ← safeLivePath system root request.destinationPath false
  let tree ← get
  lift (moveChecks source destination tree)
  attempt "move entry" (osRename (conditions.renames 0) source destination)
  pure (.paths [request.destinationPath])

def trashPath (root : Path) : Path :=
  root ++ [".gravit-panel", "trash"]

def trashName (conditions : FilesystemConditions) (index : Nat)
    (source : Path) : String :=
  toString (conditions.nanoseconds index) ++ "-" ++ source.getLast?.getD ""

def deleteOne
    (system : AgentSystem) (conditions : FilesystemConditions) (root : Path)
    (item : String × Nat) : Program Node String PUnit := do
  let source ← safeLivePath system root item.1 false
  attempt "move entry to trash"
    (osRename (conditions.renames item.2) source
      (trashPath root ++ [trashName conditions item.2 source]))

def deleteChecks (request : FilesystemRequest) : Except String PUnit :=
  if !request.confirm || request.paths.isEmpty ||
      100 < request.paths.length then
    .error "confirmed paths are required"
  else .ok ⟨⟩

def delete
    (system : AgentSystem) (conditions : FilesystemConditions) (root : Path)
    (request : FilesystemRequest) : Program Node String FilesystemResult := do
  lift (deleteChecks request)
  ensureDirectories "prepare trash" conditions.makes [] (trashPath root)
  forEach request.paths.zipIdx (deleteOne system conditions root)
  pure (.paths request.paths)

def executeFilesystem
    (system : AgentSystem) (conditions : FilesystemConditions) (root : Path)
    (request : FilesystemRequest) : Program Node String FilesystemResult :=
  match request.operation with
  | "list" => list system root request
  | "read" => read system root request
  | "write" => write system conditions root request
  | "mkdir" => mkdir system conditions root request
  | "move" => move system conditions root request
  | "delete" => delete system conditions root request
  | _ => throw "unsupported filesystem operation"

end GravitPanel.Agent
