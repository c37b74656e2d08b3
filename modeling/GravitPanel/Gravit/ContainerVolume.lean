import GravitPanel.Core.PosixPath

/-!
# The volume of a LaunchServer container

The operations of `container-volume.service.ts` that the file browser uses.
The state is the file tree of the container, and each command of the container
does to it what its manual says.
-/

namespace GravitPanel.Gravit

open Program FileTree

/-- A thrown error with its message, or one about a command that failed, whose
message ends with what the command printed. -/
inductive VolumeProblem where
  | message (text : String)
  | command (action : String)
  deriving DecidableEq, Repr

/-- What comes from outside: a random UUID, the size and time that `find`
prints for an entry, and the date that `Date` makes of such a time. -/
structure Container where
  randomUUID : Node → String
  attributes : Path → String × String
  isoDate : String → Option String

def dataRoot : Path := ["app", "data"]

/-- An absolute path, which may end with a slash. -/
structure Location where
  path : Path
  slash : Bool
  deriving DecidableEq, Repr

def relative (path : String) : Except VolumeProblem String :=
  if path = "" ∨ '\x00' ∈ path.toList ∨ ['/'] <+: path.toList then
    .error (.message "Volume path must be a non-empty relative path")
  else if normalizePath path = "." ∨ normalizePath path = ".." ∨
      "../".toList <+: (normalizePath path).toList then
    .error (.message "Volume path escapes /app/data")
  else
    .ok (normalizePath path)

def absolute (path : String) : Except VolumeProblem Location :=
  match relative path with
  | .error problem => .error problem
  | .ok normalized =>
      .ok ⟨dataRoot ++ normalizeSteps (pathSteps normalized),
        endsWithSlash normalized⟩

def Location.stat (location : Location) (tree : Node) : Option Kind :=
  match FileTree.stat location.path tree with
  | some .directory => some .directory
  | other => if location.slash then none else other

/-- `test -d` or `test -f`. -/
def existsAt (path : String) (directory : Bool) :
    Program Node VolumeProblem Bool := do
  let location ← lift (absolute path)
  let tree ← get
  pure (match location.stat tree with
    | some .directory => directory
    | some (.file _) => !directory
    | _ => false)

/-- `test ! -L` for each part from a directory on. -/
def noSymlinks (tree : Node) : Path → Path → Except VolumeProblem PUnit
  | _, [] => .ok ⟨⟩
  | current, part :: rest =>
      let next := if part = "" ∨ part = "." then current else current ++ [part]
      if (lstat next tree).any Kind.isLink then
        .error
          (.message "Symbolic links are unavailable in the file browser")
      else noSymlinks tree next rest

def assertNoSymlinks (path : String) (includeLeaf : Bool) :
    Program Node VolumeProblem PUnit := do
  let normalized ← lift (relative path)
  let tree ← get
  let parts := pathSteps normalized
  lift (noSymlinks tree dataRoot
    (if includeLeaf then parts else parts.dropLast))

def limitedBytes (maximumBytes : Nat) :
    Option Kind → Except VolumeProblem (List UInt8)
  | some (.file bytes) =>
      if maximumBytes < bytes.length then
        .error
          (.message ("File exceeds " ++ toString maximumBytes ++ " bytes"))
      else
        .ok bytes
  | _ => .error (.command "read volume file")

def readFileBytes (path : String) (maximumBytes : Nat) :
    Program Node VolumeProblem (List UInt8) := do
  let location ← lift (absolute path)
  let tree ← get
  lift (limitedBytes maximumBytes (location.stat tree))

structure VolumeEntry where
  path : String
  directory : Bool
  size : Option String
  modifiedAt : String
  deriving DecidableEq, Repr

/-- The line of `find -printf '%f\t%y\t%s\t%T@\n'` for an entry. -/
def findLine (container : Container) (place : Path)
    (item : String × Kind) : String :=
  let letter := match item.2 with
    | .file _ => "f"
    | .link .. => "l"
    | .directory => "d"
  let attributes := container.attributes (place ++ [item.1])
  item.1 ++ "\t" ++ letter ++ "\t" ++ attributes.1 ++ "\t" ++ attributes.2 ++
    "\n"

/-- What `find` prints below a location. -/
def findOutput (container : Container) (location : Location) (tree : Node) :
    Option String :=
  match location.stat tree with
  | none => none
  | some .directory =>
      (readDirectory location.path tree).map fun items =>
        String.join (items.map (findLine container location.path))
  | some _ => some ""

/-- `split(/\r?\n/).filter(Boolean)`. -/
def outputLines (text : String) : List String :=
  let pieces := text.toList.splitOn '\n'
  let cut := pieces.dropLast.map fun piece =>
    if piece.getLast? = some '\r' then piece.dropLast else piece
  ((cut ++ (pieces.getLast?).toList).map String.ofList).filter (· ≠ "")

/-- The entry of one line; a link has none. -/
def volumeEntry (container : Container) (directory line : String) :
    Except VolumeProblem (Option VolumeEntry) :=
  match (line.toList.splitOn '\t').map String.ofList with
  | name :: kind :: size :: modified :: _ =>
      if name = "" ∨ kind = "" ∨ size = "" ∨ modified = "" ∨
          '/' ∈ name.toList ∨ '\\' ∈ name.toList then
        .error (.message "Container returned an invalid directory entry")
      else if kind ≠ "f" ∧ kind ≠ "d" then
        .ok none
      else
        match container.isoDate modified with
        | none => .error (.message "Invalid Date")
        | some modifiedAt =>
            .ok (some
              { path := if directory = "" then name
                  else directory ++ "/" ++ name
                directory := kind = "d"
                size := if kind = "d" then none else some size
                modifiedAt })
  | _ => .error (.message "Container returned an invalid directory entry")

/-- The entries of all lines, unless one of them throws. -/
def volumeEntries (container : Container) (directory : String) :
    List String → Except VolumeProblem (List VolumeEntry)
  | [] => .ok []
  | line :: rest =>
      match volumeEntry container directory line with
      | .error problem => .error problem
      | .ok first =>
          match volumeEntries container directory rest with
          | .error problem => .error problem
          | .ok others => .ok (first.toList ++ others)

def listEntries (container : Container) (directory : String) :
    Program Node VolumeProblem (List VolumeEntry) := do
  let location ←
    lift (if directory = "" then .ok ⟨dataRoot, false⟩ else absolute directory)
  let output ←
    observe (.command "list volume directory") (findOutput container location)
  lift (volumeEntries container directory (outputLines output))

/-- `mkdir -p`. -/
def ensureDirectory (path : String) : Program Node VolumeProblem PUnit := do
  let location ← lift (absolute path)
  ensureDirectories (.command "create directory") (fun _ => true) []
    location.path

def ensureParentDirectory (path : String) :
    Program Node VolumeProblem PUnit := do
  let normalized ← lift (relative path)
  let parent := (normalizeSteps (pathSteps normalized)).dropLast
  if parent = [] then pure ⟨⟩ else ensureDirectory (joinSteps parent)

/-- The path that `mv` renames to: a directory takes the source into it. -/
def Location.receiving (target : Location) (name : String) (tree : Node) :
    Path :=
  if target.stat tree = some .directory then target.path ++ [name]
  else target.path

/-- `mv`. -/
def moveCommand (source target : Location) (tree : Node) : Option Node :=
  let place := target.receiving (source.path.getLast?.getD "") tree
  if source.slash ∧ source.stat tree ≠ some .directory then none
  else if target.slash ∧ target.stat tree ≠ some .directory ∧
      lstat source.path tree ≠ some .directory then none
  else if locate source.path tree = locate place tree then none
  else rename source.path place tree

def moveVolume (source target : String) :
    Program Node VolumeProblem PUnit := do
  ensureParentDirectory target
  let origin ← lift (absolute source)
  let place ← lift (absolute target)
  attempt (.command "move volume path") (moveCommand origin place)

/-- The text of a path with `.pending-` and an identifier after it. -/
def Location.pending (location : Location) (id : String) : Location :=
  if location.slash then ⟨location.path ++ [".pending-" ++ id], false⟩
  else
    ⟨location.path.dropLast ++
      [location.path.getLast?.getD "" ++ ".pending-" ++ id], false⟩

def writeFileAtomic
    (container : Container) (path : String) (bytes : List UInt8) :
    Program Node VolumeProblem PUnit := do
  let location ← lift (absolute path)
  let tree ← get
  let pending := location.pending (container.randomUUID tree)
  ensureParentDirectory path
  publish pending location
where
  /-- The commands after which a pending file is removed if one fails. -/
  publish (pending location : Location) :
      Program Node VolumeProblem PUnit :=
    handle (do
      attempt (.command "write pending volume file")
        (add (.file bytes) pending.path)
      attempt (.command "publish volume file") (moveCommand pending location))
      fun problem => do
        update fun tree => (unlink pending.path tree).getD tree
        throw problem

end GravitPanel.Gravit
