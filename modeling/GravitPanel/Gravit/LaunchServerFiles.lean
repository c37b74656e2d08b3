import GravitPanel.Gravit.ContainerVolume

/-!
# The file browser of a LaunchServer

`launchserver-files.service.ts` over the volume of the container.
-/

namespace GravitPanel.Gravit

open Program FileTree

def maximumFileBytes : Nat := 512 * 1024

def trashRoot : String := ".gravit-panel-trash"

def blockedPaths : List String :=
  ["control-file", "build-secrets.json", "launchserver.json", "null",
    "truststore", "config/discordauthsystem", "config/fileauthsystem",
    "config/launchserver.json", "config/remotecontrol"]

/-- What comes from outside besides the container: `toLowerCase`, the strict
decoder of texts, the digest in hexadecimal, and the clock at each removal. -/
structure LaunchServer where
  container : Container
  toLowerCase : String → String
  decode : List UInt8 → Option String
  sha256 : List UInt8 → String
  clock : Nat → Nat

/-- A blocked path or one below it, compared in lower case. -/
def isBlocked (server : LaunchServer) (path : String) : Bool :=
  blockedPaths.any fun item =>
    server.toLowerCase path = item ||
      (item ++ "/").toList.isPrefixOf (server.toLowerCase path).toList

def safePath (server : LaunchServer) (path : String) (allowRoot : Bool) :
    Except VolumeProblem String :=
  if '\x00' ∈ path.toList ∨ '\\' ∈ path.toList ∨ ['/'] <+: path.toList then
    .error (.message "Invalid file path")
  else
    let normalized := normalizePath (if path = "" then "." else path)
    if normalized = "." then
      if allowRoot then .ok ""
      else .error (.message "A file path is required")
    else if normalized = ".." ∨ "../".toList <+: normalized.toList ∨
        32 < (pathSteps normalized).length then
      .error (.message "File path escapes the LaunchServer data directory")
    else if (pathSteps normalized).any (fun part =>
        ['.'].isPrefixOf part.toList) || isBlocked server normalized then
      .error (.message "This LaunchServer path is protected")
    else .ok normalized

structure ServerPackEntry where
  path : String
  directory : Bool
  size : Option String
  modifiedAt : String
  sha256 : Option String
  deriving DecidableEq, Repr

inductive FilesResult where
  | listing (path : String) (entries : List ServerPackEntry)
  | text (path content : String) (size : Nat) (sha256 : String)
  | written (path : String) (size : Nat)
  | made (path : String)
  | moved (sourcePath destinationPath : String)
  | removed (paths : List String)
  deriving DecidableEq, Repr

def packEntry (item : VolumeEntry) : ServerPackEntry :=
  ⟨item.path, item.directory, item.size, item.modifiedAt, none⟩

/-- An entry that is listed: its path is a safe one. -/
def listed (server : LaunchServer) (item : VolumeEntry) : Bool :=
  match safePath server item.path false with
  | .ok _ => true
  | .error _ => false

def list (server : LaunchServer) (path : String) :
    Program Node VolumeProblem FilesResult := do
  let safe ← lift (safePath server path true)
  (if safe = "" then pure ⟨⟩ else assertNoSymlinks safe true :
    Program Node VolumeProblem PUnit)
  let entries ← listEntries server.container safe
  pure (.listing safe (((entries.filter (listed server)).take 500).map
    packEntry))

def fileText (server : LaunchServer) (path : String) (bytes : List UInt8) :
    Except VolumeProblem FilesResult :=
  if 0 ∈ bytes then
    .error (.message "Binary files cannot be opened in the text editor")
  else
    match server.decode bytes with
    | none => .error (.message "The encoded data was not valid for encoding")
    | some content =>
        .ok (.text path content bytes.length (server.sha256 bytes))

def read (server : LaunchServer) (path : String) :
    Program Node VolumeProblem FilesResult := do
  let safe ← lift (safePath server path false)
  assertNoSymlinks safe true
  let bytes ← readFileBytes safe maximumFileBytes
  lift (fileText server safe bytes)

def refuse (occupied : Bool) : Except VolumeProblem PUnit :=
  if occupied then .error (.message "Destination already exists") else .ok ⟨⟩

def write (server : LaunchServer) (path : String) (bytes : List UInt8)
    (overwrite : Bool) : Program Node VolumeProblem FilesResult := do
  lift (if maximumFileBytes < bytes.length then
    .error (.message "File exceeds 512 KiB") else .ok PUnit.unit)
  let safe ← lift (safePath server path false)
  assertNoSymlinks safe false
  let occupied ← existsAt safe false
  lift (refuse (!overwrite && occupied))
  writeFileAtomic server.container safe bytes
  pure (.written safe bytes.length)

def mkdir (server : LaunchServer) (path : String) :
    Program Node VolumeProblem FilesResult := do
  let safe ← lift (safePath server path false)
  assertNoSymlinks safe false
  let occupied ← existsAt safe true
  lift (refuse occupied)
  ensureDirectory safe
  pure (.made safe)

/-- What `move` checks before it moves: the safe source and destination. -/
def moveChecks (server : LaunchServer) (sourcePath destinationPath : String) :
    Program Node VolumeProblem (String × String) := do
  let source ← lift (safePath server sourcePath false)
  let destination ← lift (safePath server destinationPath false)
  assertNoSymlinks source true
  assertNoSymlinks destination false
  let file ← existsAt destination false
  let directory ← existsAt destination true
  lift (refuse (file || directory))
  pure (source, destination)

def move (server : LaunchServer) (sourcePath destinationPath : String) :
    Program Node VolumeProblem FilesResult := do
  let (source, destination) ← moveChecks server sourcePath destinationPath
  moveVolume source destination
  pure (.moved source destination)

/-- What `remove` checks of a path before it moves the entry. -/
def removeChecks (server : LaunchServer) (path : String) :
    Program Node VolumeProblem String := do
  let safe ← lift (safePath server path false)
  assertNoSymlinks safe true
  pure safe

def trashPlace (server : LaunchServer) (index : Nat) (id safe : String) :
    String :=
  trashRoot ++ "/" ++ toString (server.clock index) ++ "-" ++ id ++ "-" ++
    (normalizeSteps (pathSteps safe)).getLast?.getD ""

def removeOne (server : LaunchServer) (item : String × Nat) :
    Program Node VolumeProblem PUnit := do
  let safe ← removeChecks server item.1
  let tree ← get
  moveVolume safe
    (trashPlace server item.2 (server.container.randomUUID tree) safe)

/-- The safe paths that are answered are those of all paths, as each of them
was safe. -/
def remove (server : LaunchServer) (paths : List String) :
    Program Node VolumeProblem FilesResult := do
  ensureDirectory trashRoot
  forEach paths.zipIdx (removeOne server)
  pure (.removed (paths.filterMap fun path =>
    (safePath server path false).toOption))

end GravitPanel.Gravit
