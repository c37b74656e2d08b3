import GravitPanel.Core.PosixPath
import GravitPanel.Core.JavaScript
import Mathlib.Algebra.Order.Ring.Nat

/-!
# Reading a modpack archive

`readModpackArchive` of `modrinth.service.ts`.  What `unzip` and the JSON parser
make of an archive is given; every check of the panel on it is modelled.
-/

namespace GravitPanel.Mods

open FileTree

/-- A file of `modrinth.index.json`.  A field that must have a type is absent
when it has another one. -/
structure PackFile where
  path : String
  sha1 : Option String
  sha512 : Option String
  client : Option String
  server : Option String
  downloads : Option (List String)
  fileSize : Option Int
  deriving DecidableEq, Repr

structure ModrinthPackIndex where
  formatVersion : Option Int
  game : Option String
  name : Option String
  versionId : Option String
  summary : Option String
  files : Option (List PackFile)
  dependencies : Option (List (String × String))
  deriving DecidableEq, Repr

inductive OverrideSide where
  | common
  | client
  | server
  deriving DecidableEq, Repr

structure PackOverride where
  side : OverrideSide
  path : String
  bytes : List UInt8
  deriving DecidableEq, Repr

structure ParsedModrinthPack where
  index : ModrinthPackIndex
  files : List PackFile
  dependencies : List (String × String)
  overrides : List PackOverride
  deriving DecidableEq, Repr

/-- What `unzip -Z1`, the matching lines of `unzip -l`, `unzip -p` and
`JSON.parse` make of an archive. -/
structure PackArchive where
  listing : Except String String
  sizes : Except String (List (String × Nat))
  read : String → Except String (List UInt8)
  parse : List UInt8 → Except String ModrinthPackIndex

def maxSafeInteger : Int := 2 ^ 53 - 1

/-- Throw the problem when the condition holds. -/
def reject (condition : Bool) (problem : String) : Except String Unit :=
  if condition then .error problem else .ok ⟨⟩

/-- `!value` for an optional text. -/
def absent (value : Option String) : Bool :=
  value.getD "" = ""

def isLetter (character : Char) : Bool :=
  ('a' ≤ character && character ≤ 'z') || ('A' ≤ character && character ≤ 'Z')

/-- `/^[a-zA-Z]:/`. -/
def startsWithDrive (value : String) : Bool :=
  match value.toList with
  | drive :: ':' :: _ => isLetter drive
  | _ => false

def safePackPath (value : String) : Bool :=
  value ≠ "" && !value.toList.contains '\\' &&
    !(['/'].isPrefixOf value.toList) && !startsWithDrive value &&
      !(pathSteps value).any fun part =>
        part = "" || part = "." || part = ".."

/-- A line without the carriage return at its end. -/
def chompReturn (line : List Char) : List Char :=
  if line.getLast? = some '\r' then line.dropLast else line

/-- `split(/\r?\n/)`. -/
def splitLines (text : String) : List String :=
  let lines := text.toList.splitOn '\n'
  (lines.dropLast.map chompReturn ++ lines.getLast?.toList).map
    String.ofList

/-- The size of an entry; a later line for one name replaces the earlier. -/
def expandedSize (sizes : List (String × Nat)) (entry : String) : Nat :=
  ((sizes.reverse.find? fun size => size.1 = entry).map Prod.snd).getD 0

def unsupportedIndex (index : ModrinthPackIndex) : Bool :=
  index.formatVersion ≠ some 1 || index.game ≠ some "minecraft" ||
    JavaScript.trim (index.name.getD "") = "" ||
      JavaScript.trim (index.versionId.getD "") = "" ||
        index.files.isNone || index.dependencies.isNone

def invalidFile (file : PackFile) : Bool :=
  !safePackPath file.path || absent file.sha1 || absent file.sha512 ||
    file.downloads.isNone ||
      match file.fileSize with
      | none => true
      | some size => size ≤ 0 || maxSafeInteger < size

def checkFiles : List PackFile → Except String Unit
  | [] => .ok ⟨⟩
  | file :: rest => do
      reject (invalidFile file)
        ("Invalid Modrinth modpack file entry: " ++ file.path)
      checkFiles rest

def overrideScope (entry : String) : Option OverrideSide :=
  if "overrides/".toList.isPrefixOf entry.toList then some .common
  else if "client-overrides/".toList.isPrefixOf entry.toList then
    some .client
  else if "server-overrides/".toList.isPrefixOf entry.toList then
    some .server
  else none

/-- What follows the first slash of an entry. -/
def overridePath (entry : String) : String :=
  String.ofList ((entry.toList.dropWhile (· ≠ '/')).drop 1)

def maxOverrideBytes : Nat := 64 * 1024 * 1024

def readOverride
    (archive : PackArchive) (sizes : List (String × Nat))
    (includeOverrides : Bool) (entry : String) (side : OverrideSide) :
    Except String PackOverride := do
  reject (!safePackPath (overridePath entry))
    ("Unsafe modpack override: " ++ entry)
  reject (maxOverrideBytes < expandedSize sizes entry)
    ("Modpack override exceeds 64 MiB: " ++ entry)
  let content ← (if includeOverrides then archive.read entry else .ok [] :
    Except String (List UInt8))
  reject (includeOverrides && maxOverrideBytes < content.length)
    ("Modpack override exceeds 64 MiB: " ++ entry)
  .ok ⟨side, overridePath entry, content⟩

def readOverrides
    (archive : PackArchive) (sizes : List (String × Nat))
    (includeOverrides : Bool) :
    List String → Except String (List PackOverride)
  | [] => .ok []
  | entry :: rest =>
      match overrideScope entry with
      | none => readOverrides archive sizes includeOverrides rest
      | some side =>
          if entry.toList.getLast? = some '/' then
            readOverrides archive sizes includeOverrides rest
          else do
            let first ←
              readOverride archive sizes includeOverrides entry side
            let others ← readOverrides archive sizes includeOverrides rest
            .ok (first :: others)

/-- `entry.includes('../')`. -/
def climbs (entry : String) : Bool :=
  entry.toList.tails.any fun tail => "../".toList.isPrefixOf tail

def readModpackArchive (archive : PackArchive) (includeOverrides : Bool) :
    Except String ParsedModrinthPack := do
  let listing ← archive.listing
  let entries := (splitLines listing).filter (· ≠ "")
  reject (4000 < entries.length) "Modpack archive contains too many files"
  reject (!entries.contains "modrinth.index.json")
    "Modpack archive has no modrinth.index.json"
  reject (entries.any fun entry =>
      ['/'].isPrefixOf entry.toList || climbs entry)
    "Modpack archive contains an unsafe path"
  let sizes ← archive.sizes
  reject (sizes.any fun size => maxSafeInteger < size.2)
    "Modpack archive contains an invalid expanded size"
  reject (512 * 1024 * 1024 < (sizes.map Prod.snd).sum)
    "Modpack archive expands beyond 512 MiB"
  reject (4 * 1024 * 1024 < expandedSize sizes "modrinth.index.json")
    "Modpack manifest exceeds 4 MiB"
  let indexBytes ← archive.read "modrinth.index.json"
  reject (4 * 1024 * 1024 < indexBytes.length)
    "Modpack manifest exceeds 4 MiB"
  let index ← archive.parse indexBytes
  reject (unsupportedIndex index) "Unsupported Modrinth modpack manifest"
  let files := index.files.getD []
  reject (2000 < files.length) "Modpack contains too many downloads"
  checkFiles files
  let overrides ← readOverrides archive sizes includeOverrides entries
  .ok ⟨index, files, index.dependencies.getD [], overrides⟩

theorem reject_eq_ok
    {condition : Bool} {problem : String} {value : Unit}
    (passed : reject condition problem = .ok value) :
    condition = false := by
  unfold reject at passed
  split at passed
  · cases passed
  next holds => exact eq_false_of_ne_true holds

theorem checked_of_ok
    {Value Result : Type} {outcome : Except String Value}
    {next : Value → Except String Result} {result : Result}
    (done : (outcome >>= next) = .ok result) :
    ∃ value, outcome = .ok value ∧ next value = .ok result := by
  cases outcome with
  | error problem => cases done
  | ok value => exact ⟨value, rfl, done⟩

theorem safe_of_checkFiles
    {files : List PackFile} {value : Unit}
    (checked : checkFiles files = .ok value) :
    ∀ file ∈ files, safePackPath file.path := by
  induction files with
  | nil =>
      intro file member
      exact absurd member List.not_mem_nil
  | cons first rest ih =>
      obtain ⟨_, passed, others⟩ := checked_of_ok checked
      have valid := reject_eq_ok passed
      intro file member
      rcases List.mem_cons.mp member with rfl | later
      · unfold invalidFile at valid
        simp only [Bool.or_eq_false_iff, Bool.not_eq_false'] at valid
        exact valid.1.1.1.1
      · exact ih others file later

theorem safe_of_readOverrides
    {archive : PackArchive} {sizes : List (String × Nat)}
    {includeOverrides : Bool} {entries : List String}
    {overrides : List PackOverride}
    (read : readOverrides archive sizes includeOverrides entries =
      .ok overrides) :
    ∀ override ∈ overrides, safePackPath override.path := by
  induction entries generalizing overrides with
  | nil =>
      cases read
      intro override member
      exact absurd member List.not_mem_nil
  | cons entry rest ih =>
      unfold readOverrides at read
      split at read
      · exact ih read
      · split at read
        · exact ih read
        · obtain ⟨first, readFirst, afterFirst⟩ := checked_of_ok read
          obtain ⟨others, readRest, done⟩ := checked_of_ok afterFirst
          obtain ⟨_, safe, afterPath⟩ := checked_of_ok readFirst
          obtain ⟨_, _, afterSize⟩ := checked_of_ok afterPath
          obtain ⟨content, _, afterContent⟩ := checked_of_ok afterSize
          obtain ⟨_, _, shape⟩ := checked_of_ok afterContent
          cases done
          cases shape
          intro override member
          rcases List.mem_cons.mp member with rfl | later
          · simpa using reject_eq_ok safe
          · exact ih readRest override later

/-- Every path of an accepted archive passed `safePackPath`. -/
structure ParsedModrinthPack.Safe (pack : ParsedModrinthPack) : Prop where
  files : ∀ file ∈ pack.files, safePackPath file.path
  overrides : ∀ override ∈ pack.overrides, safePackPath override.path

theorem readModpackArchive_safe
    {archive : PackArchive} {includeOverrides : Bool}
    {pack : ParsedModrinthPack}
    (accepted : readModpackArchive archive includeOverrides = .ok pack) :
    pack.Safe := by
  unfold readModpackArchive at accepted
  obtain ⟨listing, -, afterListing⟩ := checked_of_ok accepted
  obtain ⟨_, -, afterCount⟩ := checked_of_ok afterListing
  obtain ⟨_, -, afterIndexName⟩ := checked_of_ok afterCount
  obtain ⟨_, -, afterEntries⟩ := checked_of_ok afterIndexName
  obtain ⟨sizes, -, afterSizes⟩ := checked_of_ok afterEntries
  obtain ⟨_, -, afterUnsafe⟩ := checked_of_ok afterSizes
  obtain ⟨_, -, afterExpanded⟩ := checked_of_ok afterUnsafe
  obtain ⟨_, -, afterManifest⟩ := checked_of_ok afterExpanded
  obtain ⟨indexBytes, -, afterBytes⟩ := checked_of_ok afterManifest
  obtain ⟨_, -, afterLength⟩ := checked_of_ok afterBytes
  obtain ⟨index, -, afterIndex⟩ := checked_of_ok afterLength
  obtain ⟨_, -, afterFormat⟩ := checked_of_ok afterIndex
  obtain ⟨_, -, afterDownloads⟩ := checked_of_ok afterFormat
  obtain ⟨_, checkedFiles, afterFiles⟩ := checked_of_ok afterDownloads
  obtain ⟨overrides, readAll, done⟩ := checked_of_ok afterFiles
  cases done
  exact ⟨safe_of_checkFiles checkedFiles, safe_of_readOverrides readAll⟩

theorem named_of_safe {path : String} (safe : safePackPath path) :
    ∀ part ∈ pathSteps path, part ≠ "" ∧ part ≠ "." ∧ part ≠ ".." := by
  unfold safePackPath at safe
  simp only [Bool.and_eq_true, Bool.not_eq_true', List.any_eq_false,
    Bool.or_eq_true, decide_eq_true_eq, not_or] at safe
  intro part member
  have plain := safe.2 part member
  exact ⟨plain.1.1, plain.1.2, plain.2⟩

end GravitPanel.Mods
