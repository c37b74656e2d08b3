import GravitPanel.Core.Execution
import GravitPanel.Clients.LoaderInstallers

/-!
# The cached installer of a loader

`ensureLoaderInstaller` for one loader and Minecraft version, one operation at
a time.  Removals that were started together are settled in any order, and go
on when the call that started them has thrown or the process is gone.
-/

namespace GravitPanel.Clients

open JavaScript

/-- The two installers and the directory that the builder fills from them. -/
inductive LoaderItem where
  | noGui
  | gui
  | cache
  deriving DecidableEq, Repr

/-- The loader version of what is there, and the text of the marker. -/
structure LoaderFiles where
  content : LoaderItem → Option String
  marker : Option String

/-- Where a call is; `loaderVersion` is the version that was asked for. -/
inductive LoaderPhase where
  | idle
  | inspecting (loaderVersion : Option String)
  | deciding (loaderVersion : Option String) (present : Bool)
  | reusing (loaderVersion : Option String)
  | replacing (loaderVersion : Option String)
  | removing (loaderVersion : Option String) (waiting : List LoaderItem)
  | announcing (loaderVersion : Option String)
  | downloading (loaderVersion : Option String)
  | storing (loaderVersion : Option String)
      (artifact : LoaderInstallerArtifact) (item : LoaderItem)
  | marking (loaderVersion : Option String)
      (artifact : LoaderInstallerArtifact)
  | logging (loaderVersion : Option String)
  | cleaning (waiting : List LoaderItem)

/-- `abandoned` are the removals that nobody waits for any more. -/
structure LoaderState where
  files : LoaderFiles
  phase : LoaderPhase
  abandoned : List LoaderItem

/-- `announced` is a `context.log` or `context.progress` that returns; when
the job is cancelled it throws, like an operation that fails. -/
inductive LoaderEvent where
  | call (loaderVersion : Option String)
  | inspected
  | markerRead
  | announced
  | downloaded (repositories : LoaderRepositories)
  | written
  | settled (item : LoaderItem) (removed : Bool)
  | settledLate (item : LoaderItem) (removed : Bool)
  | failed
  | crashed
  | built (installer : LoaderItem)

/-- A call that returns, and the files at that moment. -/
structure LoaderReturn where
  loaderVersion : Option String
  files : LoaderFiles

namespace LoaderFiles

def set (item : LoaderItem) (version : Option String) (files : LoaderFiles) :
    LoaderFiles :=
  { files with
    content := fun other =>
      if other = item then version else files.content other }

def mark (text : String) (files : LoaderFiles) : LoaderFiles :=
  { files with marker := some text }

def isPresent (files : LoaderFiles) : Bool :=
  (files.content .noGui).isSome || (files.content .gui).isSome ||
    (files.content .cache).isSome

/-- Remove an item, unless its removal fails. -/
def settle (item : LoaderItem) (removed : Bool) (files : LoaderFiles) :
    LoaderFiles :=
  if removed then files.set item none else files

end LoaderFiles

namespace LoaderState

def goTo (phase : LoaderPhase) (state : LoaderState) : LoaderState :=
  { state with phase := phase }

def withFiles (files : LoaderFiles) (state : LoaderState) : LoaderState :=
  { state with files := files }

def abandon (items : List LoaderItem) (state : LoaderState) : LoaderState :=
  { state with abandoned := items ++ state.abandoned }

end LoaderState

open LoaderState

def installerPrefix : LoaderInstallerType → String
  | .forge => "forge"
  | .neoforge => "neoforge"

def installerItem (loader : LoaderInstallerType)
    (minecraftVersion filename : String) : Option LoaderItem :=
  let name := installerPrefix loader ++ "-" ++ minecraftVersion
  if filename = name ++ "-installer-nogui.jar" then some .noGui
  else if filename = name ++ "-installer.jar" then some .gui
  else none

/-- An empty version counts as none. -/
def exactVersion (loaderVersion : Option String) : Option String :=
  loaderVersion.filter (· ≠ "")

def markedVersion (loaderVersion : Option String) (files : LoaderFiles) :
    Option String :=
  (exactVersion loaderVersion).bind fun _ => files.marker.map trim

/-- Reuse what is there, replace it, or download. -/
def chooseInstaller (loaderVersion : Option String) (present : Bool)
    (files : LoaderFiles) : LoaderPhase :=
  if present then
    if exactVersion loaderVersion = none ∨
        markedVersion loaderVersion files = exactVersion loaderVersion then
      .reusing loaderVersion
    else
      .replacing loaderVersion
  else
    .announcing loaderVersion

def installers : List LoaderItem := [.noGui, .gui]

/-- `allSettled` over the removals of both installers. -/
def removeInstallers : LoaderPhase := .cleaning installers

/-- The installer is written unless its name is unexpected. -/
def storeAs (loaderVersion : Option String)
    (artifact : LoaderInstallerArtifact) : Option LoaderItem → LoaderPhase
  | none => removeInstallers
  | some item => .storing loaderVersion artifact item

section Step

variable (loader : LoaderInstallerType) (minecraftVersion : String)

def afterDownload (loaderVersion : Option String) :
    Except String LoaderInstallerArtifact → LoaderPhase
  | .error _ => removeInstallers
  | .ok artifact =>
      storeAs loaderVersion artifact
        (installerItem loader minecraftVersion artifact.filename)

/-- `Promise.all` throws at the first failure and waits for the others only
while all of them succeed. -/
def afterSettled (loaderVersion : Option String) (waiting : List LoaderItem)
    (removed : Bool) (state : LoaderState) : LoaderState :=
  if removed then
    if waiting = [] then state.goTo (.announcing loaderVersion)
    else state.goTo (.removing loaderVersion waiting)
  else
    (state.abandon waiting).goTo .idle

def afterCleaning (waiting : List LoaderItem) : LoaderPhase :=
  if waiting = [] then .idle else .cleaning waiting

def returned (loaderVersion : Option String) (state : LoaderState) :
    LoaderState × List LoaderReturn :=
  (state.goTo .idle, [⟨loaderVersion, state.files⟩])

/-- What a failed operation or a cancelled job leads to. -/
def afterFailure : LoaderPhase → Option LoaderPhase
  | .inspecting _ => some .idle
  | .deciding _ _ => some .idle
  | .reusing _ => some .idle
  | .replacing _ => some .idle
  | .announcing _ => some .idle
  | .downloading _ => some removeInstallers
  | .storing _ _ _ => some removeInstallers
  | .marking _ _ => some removeInstallers
  | .logging _ => some removeInstallers
  | _ => none

def waitingItems : LoaderPhase → List LoaderItem
  | .removing _ waiting => waiting
  | .cleaning waiting => waiting
  | _ => []

def announcedStep (state : LoaderState) :
    Option (LoaderState × List LoaderReturn) :=
  match state.phase with
  | .reusing loaderVersion => some (returned loaderVersion state)
  | .replacing loaderVersion =>
      some (state.goTo (.removing loaderVersion [.noGui, .gui, .cache]), [])
  | .announcing loaderVersion =>
      some (state.goTo (.downloading loaderVersion), [])
  | .logging loaderVersion => some (returned loaderVersion state)
  | _ => none

def writtenStep (state : LoaderState) :
    Option (LoaderState × List LoaderReturn) :=
  match state.phase with
  | .storing loaderVersion artifact item =>
      some ((state.withFiles
        (state.files.set item (some artifact.loaderVersion))).goTo
          (.marking loaderVersion artifact), [])
  | .marking loaderVersion artifact =>
      some ((state.withFiles
        (state.files.mark (artifact.loaderVersion ++ "\n"))).goTo
          (.logging loaderVersion), [])
  | _ => none

def settledStep (item : LoaderItem) (removed : Bool) (state : LoaderState) :
    Option (LoaderState × List LoaderReturn) :=
  match state.phase with
  | .removing loaderVersion waiting =>
      if item ∈ waiting then
        some (afterSettled loaderVersion (waiting.erase item) removed
          (state.withFiles (state.files.settle item removed)), [])
      else
        none
  | .cleaning waiting =>
      if item ∈ waiting then
        some ((state.withFiles (state.files.settle item removed)).goTo
          (afterCleaning (waiting.erase item)), [])
      else
        none
  | _ => none

def loaderStep (state : LoaderState) :
    LoaderEvent → Option (LoaderState × List LoaderReturn)
  | .call loaderVersion =>
      match state.phase with
      | .idle => some (state.goTo (.inspecting loaderVersion), [])
      | _ => none
  | .inspected =>
      match state.phase with
      | .inspecting loaderVersion =>
          some (state.goTo
            (.deciding loaderVersion state.files.isPresent), [])
      | _ => none
  | .markerRead =>
      match state.phase with
      | .deciding loaderVersion present =>
          some (state.goTo (chooseInstaller loaderVersion present state.files), [])
      | _ => none
  | .announced => announcedStep state
  | .downloaded repositories =>
      match state.phase with
      | .downloading loaderVersion =>
          some (state.goTo (afterDownload loader minecraftVersion
            loaderVersion
            (download repositories loader minecraftVersion loaderVersion)),
            [])
      | _ => none
  | .written => writtenStep state
  | .settled item removed => settledStep item removed state
  | .settledLate item removed =>
      if item ∈ state.abandoned then
        some ({ state with
          files := state.files.settle item removed
          abandoned := state.abandoned.erase item }, [])
      else
        none
  | .failed =>
      (afterFailure state.phase).map fun phase => (state.goTo phase, [])
  | .crashed =>
      some ((state.abandon (waitingItems state.phase)).goTo .idle, [])
  | .built installer =>
      match state.phase, state.files.content installer with
      | .idle, some version =>
          if installer ∈ installers then
            some (state.withFiles
              (state.files.set .cache (some version)), [])
          else
            none
      | _, _ => none

end Step

end GravitPanel.Clients
