import GravitPanel.Core.JavaScript
import GravitPanel.Core.Json
import GravitPanel.Core.PosixPath

/-!
# Optional mods of a profile

The entries of `updateOptional` in a profile, as `client-build.service.ts`
writes, lists, updates and removes them.  The operations here are the ones on
the list; the profile around it is written and reloaded as a whole.
-/

namespace GravitPanel.Clients

open FileTree Json

structure OptionalFile where
  sourcePath : String
  filename : String
  destinationPath : String
  deriving DecidableEq, Repr

/-- What `upsertOptionalMods` is given for one mod. -/
structure OptionalModInput where
  projectId : String
  title : String
  filename : String
  sourcePath : String
  destinationPath : Option String
  enabledByDefault : Option Bool
  description : Option String
  category : Option String
  deriving DecidableEq, Repr

structure OptionalMod where
  projectId : String
  name : String
  description : String
  category : String
  enabledByDefault : Bool
  filename : String
  sourcePath : String
  destinationPath : String
  deriving DecidableEq, Repr

def optionalDirectory : String := ".gravit-panel-optional/"

def fileOfPair (pair : String × Json) : Option OptionalFile :=
  match pair.2 with
  | .string destination =>
      if optionalDirectory.toList.isPrefixOf pair.1.toList then
        some ⟨pair.1, basename destination, destination⟩
      else
        none
  | _ => none

def fileOfAction (action : Json) : Option OptionalFile :=
  action.fields?.bind fun fields =>
    ((getField "files" fields).bind Json.fields?).bind fun files =>
      files.findSome? fileOfPair

def optionalFileAction (item : JsonFields) : Option OptionalFile :=
  ((getField "actions" item).bind Json.items?).bind fun actions =>
    actions.findSome? fileOfAction

/-- The part after the first `mods`, unless it is missing or empty. -/
def partAfterMods (parts : List String) : Option String :=
  match parts.dropWhile (· ≠ "mods") with
  | _ :: next :: _ => if next = "" then none else some next
  | _ => none

def optionalProjectId (item : JsonFields) : Option String :=
  (optionalFileAction item).bind fun file =>
    partAfterMods (pathSteps file.sourcePath)

/-- The items of `updateOptional`, if it is an array. -/
def optionalValues (updateOptional : Option Json) : List Json :=
  (updateOptional.bind Json.items?).getD []

def itemName (item : JsonFields) : Option String :=
  (getField "name" item).bind Json.string?

/-- The item has this identifier; values that are no objects have none. -/
def hasProjectId (projectId : String) (value : Json) : Bool :=
  (value.fields?.bind optionalProjectId) = some projectId

def optionalItem (input : OptionalModInput) (title : String) : JsonFields :=
  [("name", .string title),
    ("info", .string (input.description.getD "")),
    ("category", .string (input.category.getD "Mods")),
    ("visible", .bool true),
    ("mark", .bool (input.enabledByDefault.getD false)),
    ("actions", .array [.object [("type", .string "file"),
      ("files", .object [(input.sourcePath,
        .string (input.destinationPath.getD
          ("mods/" ++ input.filename)))])]])]

/-- A title that is in use gets the start of the identifier. -/
def freeTitle
    (toLowerCase : String → String) (used : List String)
    (input : OptionalModInput) : String :=
  let requested :=
    if JavaScript.trim input.title = "" then input.projectId
    else JavaScript.trim input.title
  if toLowerCase requested ∈ used then
    requested ++ " (" ++ JavaScript.slice 8 input.projectId ++ ")"
  else
    requested

def optionalItems (toLowerCase : String → String) :
    List String → List OptionalModInput → List JsonFields
  | _, [] => []
  | used, input :: rest =>
      let title := freeTitle toLowerCase used input
      optionalItem input title ::
        optionalItems toLowerCase (toLowerCase title :: used) rest

/-- The items that stay when these identifiers are written or removed. -/
def keptItems (updateOptional : Option Json) (projectIds : List String) :
    List JsonFields :=
  ((optionalValues updateOptional).filterMap Json.fields?).filter fun item =>
    match optionalProjectId item with
    | none => true
    | some projectId => projectId ∉ projectIds

/-- The `updateOptional` that `upsertOptionalMods` writes. -/
def upsertOptionalMods
    (toLowerCase : String → String) (updateOptional : Option Json)
    (inputs : List OptionalModInput) (removeProjectIds : List String) :
    List Json :=
  let kept := keptItems updateOptional
    (inputs.map OptionalModInput.projectId ++ removeProjectIds)
  (kept ++ optionalItems toLowerCase
    ((kept.filterMap itemName).map toLowerCase) inputs).map .object

def describeOptional (value : Json) : Option OptionalMod :=
  value.fields?.bind fun item =>
    (optionalProjectId item).bind fun projectId =>
      (optionalFileAction item).map fun file =>
        { projectId
          name := (itemName item).getD file.filename
          description := ((getField "info" item).bind Json.string?).getD ""
          category :=
            ((getField "category" item).bind Json.string?).getD "Mods"
          enabledByDefault :=
            match getField "mark" item with
            | some (.bool true) => true
            | _ => false
          filename := file.filename
          sourcePath := file.sourcePath
          destinationPath := file.destinationPath }

def listOptionalMods (updateOptional : Option Json) : List OptionalMod :=
  (optionalValues updateOptional).filterMap describeOptional

structure OptionalModUpdate where
  projectId : String
  filename : String
  title : String
  description : String
  category : String
  enabledByDefault : Bool
  deriving DecidableEq, Repr

def checkUpdate (input : OptionalModUpdate) : Except String Unit :=
  if JavaScript.trim input.title = "" ∨
      80 < JavaScript.length (JavaScript.trim input.title) then
    .error "Optional mod name must be 1-80 characters"
  else if 500 < JavaScript.length (JavaScript.trim input.description) then
    .error "Optional mod description is too long"
  else if JavaScript.trim input.category = "" ∨
      40 < JavaScript.length (JavaScript.trim input.category) then
    .error "Optional mod category must be 1-40 characters"
  else
    .ok ()

/-- Another item uses the new name. -/
def nameTaken
    (toLowerCase : String → String) (input : OptionalModUpdate)
    (value : Json) : Bool :=
  match value.fields? with
  | none => false
  | some item =>
      decide (optionalProjectId item ≠ some input.projectId) &&
        match itemName item with
        | none => false
        | some name =>
            toLowerCase name = toLowerCase (JavaScript.trim input.title)

def updatedItem (input : OptionalModUpdate) (item : JsonFields) :
    JsonFields :=
  setField "mark" (.bool input.enabledByDefault)
    (setField "category" (.string (JavaScript.trim input.category))
      (setField "info" (.string (JavaScript.trim input.description))
        (setField "name" (.string (JavaScript.trim input.title)) item)))

def updateValue (input : OptionalModUpdate) (value : Json) : Json :=
  match value.fields? with
  | none => value
  | some item =>
      if optionalProjectId item = some input.projectId then
        .object (updatedItem input item)
      else
        value

/-- What the volume holds of a mod that is not optional yet. -/
structure ModFiles where
  installed : Bool
  alreadyOptional : Bool
  deriving DecidableEq, Repr

/-- `/^[^/\\\0]{1,255}\.jar$/` and `basename(filename) === filename`. -/
def optionalFilename (filename : String) : Bool :=
  let stem := filename.toList.dropLast.dropLast.dropLast.dropLast
  ".jar".toList.isSuffixOf filename.toList && stem ≠ [] &&
    (stem.map JavaScript.units).sum ≤ 255 &&
      stem.all fun character =>
        character ≠ '/' && character ≠ '\\' && character ≠ '\x00'

def convertedItem (input : OptionalModUpdate) : JsonFields :=
  [("name", .string (JavaScript.trim input.title)),
    ("info", .string (JavaScript.trim input.description)),
    ("category", .string (JavaScript.trim input.category)),
    ("visible", .bool true),
    ("mark", .bool input.enabledByDefault),
    ("actions", .array [.object [("files", .object
      [(posixJoin [".gravit-panel-optional", "mods", input.projectId,
        input.filename], .string ("mods/" ++ input.filename))])]])]

/-- The next `updateOptional`, and whether an installed mod is converted. -/
def updateOptionalMod
    (toLowerCase : String → String) (files : ModFiles)
    (updateOptional : Option Json) (input : OptionalModUpdate) :
    Except String (List Json × Bool) :=
  match checkUpdate input with
  | .error problem => .error problem
  | .ok _ =>
      let optional := optionalValues updateOptional
      if optional.any (nameTaken toLowerCase input) then
        .error "Another optional mod already uses this name"
      else if optional.any (hasProjectId input.projectId) then
        .ok (optional.map (updateValue input), false)
      else if !optionalFilename input.filename then
        .error "Optional mod filename is invalid"
      else if !files.installed then
        .error "Installed mod was not found in this profile"
      else if files.alreadyOptional then
        .error "Optional mod source already exists"
      else
        .ok (optional.map (updateValue input) ++
          [.object (convertedItem input)], true)

/-- The next `updateOptional`, and the source file to remove. -/
def removeOptionalMod
    (updateOptional : Option Json) (projectId : String) :
    Except String (List Json × Option OptionalFile) :=
  let optional := optionalValues updateOptional
  match optional.find? (hasProjectId projectId) with
  | none => .error "Optional mod was not found in this profile"
  | some removed =>
      .ok (optional.filter fun value => !hasProjectId projectId value,
        removed.fields?.bind optionalFileAction)

end GravitPanel.Clients
