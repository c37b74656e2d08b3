import GravitPanel.Core.AbsolutePath
import GravitPanel.Core.Program

/-!
# Removing an installation

`removeInstallation` of `launcherdockered.service.ts`.  The state is what the
removal has done to the host so far.
-/

namespace GravitPanel.LauncherDockered

open Program FileTree

structure RegisteredInstallation where
  id : String
  path : String
  deriving DecidableEq, Repr

inductive RemovalCommand where
  | stop
  | chown (uid gid : Nat)
  | down
  deriving DecidableEq, Repr

/-- A command that was started, or a recursive removal. -/
inductive RemovalEffect where
  | command (command : RemovalCommand)
  | remove (path : AbsolutePath)
  deriving DecidableEq

/-- A call of the job context. -/
inductive RemovalReport where
  | progress (percent : Nat)
  | log (line : String)
  deriving DecidableEq, Repr

/-- What a removal meets: `present` and `remains` are the answers of `exists`
before and after, `composeFile` is read below the installation. -/
structure RemovalHost where
  installationsRoot : AbsolutePath
  workspace : AbsolutePath
  present : AbsolutePath → Bool
  composeFile : AbsolutePath → Except String String
  identity : Option (Nat × Nat)
  report : RemovalReport → Except String Unit
  command : RemovalCommand → Except String Nat
  remove : Except String Unit
  remains : Bool

structure RemovalResult where
  installationId : String
  installationPath : AbsolutePath
  composeResourcesRemoved : Bool
  filesRemoved : Bool
  deriving DecidableEq

def refuse (condition : Bool) (problem : String) : Except String Unit :=
  if condition then .error problem else .ok ()

/-- `text.includes(part)`. -/
def mentions (text part : String) : Bool :=
  decide (part.toList <:+: text.toList)

def startsWithDots (text : String) : Bool :=
  "..".toList.isPrefixOf text.toList

section Removal

variable (host : RemovalHost)

def validateRemovalPath (path : AbsolutePath) : Except String Unit := do
  refuse (path = host.installationsRoot ∨ path.dirname = path)
    "Refusing to remove a broad installation path"
  let workspaceRelative := path.relative host.workspace
  refuse (workspaceRelative = "" ∨
      (!startsWithDots workspaceRelative && !isAbsolute workspaceRelative))
    "Refusing to remove a path containing the panel workspace"

def validateComposeProject (path : AbsolutePath) : Except String Unit := do
  let compose ← host.composeFile path
  refuse (!mentions compose "gravitlauncher:" || !mentions compose "nginx:")
    "The selected directory is not a supported LauncherDockered project"

/-- An installation elsewhere has to be a Compose project. -/
def verifyExternal (path : AbsolutePath) : Except String Unit :=
  if path.dirname = host.installationsRoot then .ok ()
  else do
    validateComposeProject host path
    host.report
      (.log "External installation path re-verified before deletion")

def hostIdentity : Except String (Nat × Nat) :=
  match host.identity with
  | none => .error "Installation removal requires a Unix host user identity"
  | some identity => .ok identity

/-- `runChecked` after the progress of its stage. -/
def runStage (percent : Nat) (command : RemovalCommand)
    (description : String) :
    Program (List RemovalEffect) String Unit := do
  lift (host.report (.progress percent))
  lift (host.report (.log description))
  update fun effects => effects ++ [.command command]
  let code ← lift (host.command command)
  lift (refuse (code ≠ 0)
    (description ++ " failed with exit code " ++ toString code))

def removeFiles (path : AbsolutePath) :
    Program (List RemovalEffect) String Unit := do
  lift (host.report (.progress 75))
  update fun effects => effects ++ [.remove path]
  lift host.remove
  lift (refuse host.remains
    ("Installation directory still exists after removal: " ++
      joinSteps ("" :: path.names)))

def removePresent (path : AbsolutePath) :
    Program (List RemovalEffect) String Unit := do
  lift (verifyExternal host path)
  let identity ← lift (hostIdentity host)
  runStage host 15 .stop
    "Stopping LauncherDockered services before ownership cleanup"
  runStage host 35 (.chown identity.1 identity.2)
    "Preparing Launcher volume ownership"
  runStage host 55 .down "Removing LauncherDockered Compose resources"
  removeFiles host path
  lift (host.report (.log ("Installation directory removed: " ++
    joinSteps ("" :: path.names))))
  lift (host.report (.progress 90))

def removeResolved (installationId : String) (path : AbsolutePath) :
    Program (List RemovalEffect) String RemovalResult := do
  lift (validateRemovalPath host path)
  lift (host.report (.progress 5))
  if host.present path then do
    removePresent host path
    pure ⟨installationId, path, true, true⟩
  else do
    lift (host.report (.log ("Installation directory is already absent: " ++
      joinSteps ("" :: path.names))))
    pure ⟨installationId, path, false, false⟩

def removeInstallation (installation : RegisteredInstallation) :
    Program (List RemovalEffect) String RemovalResult :=
  removeResolved host installation.id
    (host.workspace.resolve installation.path)

end Removal

/-- The first name below the installation on the way to the workspace starts
with two dots. -/
def DottedWorkspace (host : RemovalHost) (path : AbsolutePath) : Prop :=
  ∃ name below, host.workspace.names = path.names ++ name :: below ∧
    startsWithDots name = true

/-- The installations root is further down than the installation. -/
def HoldsRoot (host : RemovalHost) (path : AbsolutePath) : Prop :=
  ∃ name below,
    host.installationsRoot.names = path.names ++ name :: below

/-- The removal of a path leaves the workspace and the installations root. -/
structure SparesPanel (host : RemovalHost) (path : AbsolutePath) : Prop where
  workspace : ¬ path.Above host.workspace
  installations : ¬ path.Above host.installationsRoot

section Guard

variable {host : RemovalHost} {path : AbsolutePath}

theorem refuse_eq_ok {condition : Bool} {problem : String} {value : Unit}
    (passed : refuse condition problem = .ok value) : condition = false := by
  cases condition with
  | true => cases passed
  | false => rfl

/-- Nothing but the installation was removed so far. -/
def OnlyRemoves (path : AbsolutePath) (effects : List RemovalEffect) : Prop :=
  ∀ other, .remove other ∈ effects → other = path

theorem onlyRemoves_concat {effects : List RemovalEffect}
    {effect : RemovalEffect} (only : OnlyRemoves path effects)
    (latest : ∀ other, effect = .remove other → other = path) :
    OnlyRemoves path (effects ++ [effect]) := by
  intro other member
  rcases List.mem_append.mp member with earlier | last
  · exact only other earlier
  · exact latest other (List.mem_singleton.mp last).symm

theorem runStage_onlyRemoves (percent : Nat) (command : RemovalCommand)
    (description : String) :
    Keeps (OnlyRemoves path) (runStage host percent command description) := by
  refine Keeps.lift_bind fun _ => Keeps.lift_bind fun _ => ?_
  refine Keeps.bind (keeps_update fun effects only => ?_) fun _ => ?_
  · apply onlyRemoves_concat only
    intro other same
    cases same
  · exact Keeps.lift_bind fun _ => keeps_lift _

theorem removeFiles_onlyRemoves :
    Keeps (OnlyRemoves path) (removeFiles host path) := by
  refine Keeps.lift_bind fun _ => ?_
  refine Keeps.bind (keeps_update fun effects only => ?_) fun _ => ?_
  · apply onlyRemoves_concat only
    intro other same
    cases same
    rfl
  · exact Keeps.lift_bind fun _ => keeps_lift _

theorem removePresent_onlyRemoves :
    Keeps (OnlyRemoves path) (removePresent host path) := by
  refine Keeps.lift_bind fun _ => Keeps.lift_bind fun identity => ?_
  refine (runStage_onlyRemoves _ _ _).bind fun _ => ?_
  refine (runStage_onlyRemoves _ _ _).bind fun _ => ?_
  refine (runStage_onlyRemoves _ _ _).bind fun _ => ?_
  refine removeFiles_onlyRemoves.bind fun _ => ?_
  exact Keeps.lift_bind fun _ => keeps_lift _

theorem removeResolved_onlyRemoves (installationId : String) :
    Keeps (OnlyRemoves path) (removeResolved host installationId path) := by
  refine Keeps.lift_bind fun _ => Keeps.lift_bind fun _ => ?_
  split
  · exact removePresent_onlyRemoves.bind fun _ => keeps_pure _
  · exact Keeps.lift_bind fun _ => keeps_pure _

theorem validated_of_removed {installation : RegisteredInstallation}
    (removed : .remove path ∈ (removeInstallation host installation []).2) :
    path = host.workspace.resolve installation.path ∧
      validateRemovalPath host path = .ok () := by
  have nothing : OnlyRemoves (host.workspace.resolve installation.path) [] :=
    fun other member => absurd member List.not_mem_nil
  have kept : Keeps (OnlyRemoves (host.workspace.resolve installation.path))
      (removeInstallation host installation) :=
    removeResolved_onlyRemoves installation.id
  have only := kept.reached nothing
  have same : path = host.workspace.resolve installation.path :=
    only path removed
  refine ⟨same, ?_⟩
  cases checked : validateRemovalPath host path with
  | ok value => rfl
  | error problem =>
      rw [removeInstallation, removeResolved, ← same, lift_bind,
        checked] at removed
      exact absurd removed List.not_mem_nil

theorem startsWithDots_joinSteps (name : String) (below : Path) :
    startsWithDots (joinSteps (name :: below)) = startsWithDots name := by
  cases below with
  | nil =>
      rw [joinSteps, String.intercalate_singleton]
  | cons next rest =>
      have text : joinSteps (name :: next :: rest) =
          name ++ "/" ++ joinSteps (next :: rest) :=
        joinSteps_append (List.cons_ne_nil name [])
          (List.cons_ne_nil next rest)
      have slash : "/".toList = ['/'] := rfl
      have dots : "..".toList = ['.', '.'] := rfl
      rw [text, startsWithDots, startsWithDots, String.toList_append,
        String.toList_append, slash, dots]
      cases letters : name.toList with
      | nil => rfl
      | cons first others =>
          cases others with
          | nil =>
              simp [List.isPrefixOf]
          | cons second more => simp [List.isPrefixOf]

theorem isAbsolute_joinSteps {name : String} {below : Path}
    (named : name ≠ "") (slashFree : '/' ∉ name.toList) :
    isAbsolute (joinSteps (name :: below)) = false := by
  have begins : ∃ rest, joinSteps (name :: below) = name ++ rest := by
    cases below with
    | nil => exact ⟨"", by rw [String.append_empty]; exact
        String.intercalate_singleton⟩
    | cons next rest =>
        refine ⟨"/" ++ joinSteps (next :: rest), ?_⟩
        rw [← String.append_assoc]
        exact joinSteps_append (List.cons_ne_nil name [])
          (List.cons_ne_nil next rest)
  obtain ⟨rest, text⟩ := begins
  rw [text, isAbsolute, String.toList_append]
  cases letters : name.toList with
  | nil => exact absurd (String.toList_eq_nil_iff.mp letters) named
  | cons first others =>
      have other : first ≠ '/' := by
        rintro rfl
        rw [letters] at slashFree
        exact slashFree List.mem_cons_self
      simpa [List.isPrefixOf] using other.symm

theorem passed_of_validated
    (validated : validateRemovalPath host path = .ok ()) :
    path ≠ host.installationsRoot ∧
      path.relative host.workspace ≠ "" ∧
        (startsWithDots (path.relative host.workspace) = true ∨
          isAbsolute (path.relative host.workspace) = true) := by
  cases broad : refuse
      (path = host.installationsRoot ∨ path.dirname = path)
      "Refusing to remove a broad installation path" with
  | error problem =>
      rw [validateRemovalPath, broad] at validated
      cases validated
  | ok value =>
      rw [validateRemovalPath, broad] at validated
      have kept := refuse_eq_ok validated
      rw [decide_eq_false_iff_not, not_or, Bool.and_eq_true, not_and_or,
        Bool.not_eq_true', Bool.not_eq_true', Bool.not_eq_false,
        Bool.not_eq_false] at kept
      have narrow := refuse_eq_ok broad
      rw [decide_eq_false_iff_not, not_or] at narrow
      exact ⟨narrow.1, kept⟩

/-- The guard lets a path above the workspace pass only on the way through a
name with dots. -/
theorem dotted_of_above
    (validated : validateRemovalPath host path = .ok ())
    (above : path.Above host.workspace) : DottedWorkspace host path := by
  obtain ⟨-, elsewhere, outside⟩ := passed_of_validated validated
  obtain ⟨below, shape⟩ := above
  have text := AbsolutePath.relative_of_below shape.symm
  cases below with
  | nil =>
      rw [text] at elsewhere
      exact absurd rfl elsewhere
  | cons name rest =>
      have member : name ∈ host.workspace.names := by
        rw [← shape]
        exact List.mem_append_right _ List.mem_cons_self
      refine ⟨name, rest, shape.symm, ?_⟩
      rw [text, startsWithDots_joinSteps,
        isAbsolute_joinSteps (host.workspace.plain name member).1
          (host.workspace.slashFree name member)] at outside
      rcases outside with dots | absolute
      · exact dots
      · cases absolute

/-- A removal spares the panel exactly if the installations root is not below
the installation and no name with dots leads from it to the workspace. -/
theorem sparesPanel_iff
    (host : RemovalHost) (installation : RegisteredInstallation)
    (path : AbsolutePath)
    (removed : .remove path ∈ (removeInstallation host installation []).2) :
    SparesPanel host path ↔
      ¬ HoldsRoot host path ∧ ¬ DottedWorkspace host path := by
  obtain ⟨-, validated⟩ := validated_of_removed removed
  constructor
  · intro spares
    constructor
    · rintro ⟨name, below, shape⟩
      exact spares.installations ⟨name :: below, shape.symm⟩
    · rintro ⟨name, below, shape, -⟩
      exact spares.workspace ⟨name :: below, shape.symm⟩
  · rintro ⟨rootFree, plain⟩
    constructor
    · exact fun above => plain (dotted_of_above validated above)
    · rintro ⟨below, shape⟩
      cases below with
      | nil =>
          rw [List.append_nil] at shape
          exact (passed_of_validated validated).1 (AbsolutePath.ext shape)
      | cons name rest => exact rootFree ⟨name, rest, shape.symm⟩

end Guard

def fileSystemRoot : AbsolutePath where
  names := []
  plain := fun _ member => absurd member List.not_mem_nil
  slashFree := fun _ member => absurd member List.not_mem_nil

/-- A host on which nothing fails; its panel is below the installations. -/
def sampleRemovalHost : RemovalHost where
  installationsRoot := fileSystemRoot.resolve "/srv/gravit/installations"
  workspace := fileSystemRoot.resolve "/srv/gravit/installations/main/..panel"
  present := fun _ => true
  composeFile := fun _ => .ok "services:\n  gravitlauncher:\n  nginx:\n"
  identity := some (1000, 1000)
  report := fun _ => .ok ()
  command := fun _ => .ok 0
  remove := .ok ()
  remains := false

theorem sparesPanel_second :
    SparesPanel sampleRemovalHost
        (fileSystemRoot.resolve "/srv/gravit/installations/second") ↔
      ¬ HoldsRoot sampleRemovalHost
          (fileSystemRoot.resolve "/srv/gravit/installations/second") ∧
        ¬ DottedWorkspace sampleRemovalHost
          (fileSystemRoot.resolve "/srv/gravit/installations/second") :=
  sparesPanel_iff sampleRemovalHost
    ⟨"a", "/srv/gravit/installations/second"⟩ _ (by decide +kernel)

def outsideRemovalHost : RemovalHost :=
  { sampleRemovalHost with
    workspace := fileSystemRoot.resolve "/opt/panel" }

/-- The directory above the installations is removed with them, and a panel
below an installation with it. -/
theorem panel_removed :
    .remove (fileSystemRoot.resolve "/srv/gravit") ∈
        (removeInstallation outsideRemovalHost ⟨"a", "/srv/gravit"⟩ []).2 ∧
      ¬ SparesPanel outsideRemovalHost
        (fileSystemRoot.resolve "/srv/gravit") ∧
      .remove (fileSystemRoot.resolve "/srv/gravit/installations/main") ∈
        (removeInstallation sampleRemovalHost
          ⟨"a", "/srv/gravit/installations/main"⟩ []).2 ∧
      ¬ SparesPanel sampleRemovalHost
        (fileSystemRoot.resolve "/srv/gravit/installations/main") := by
  have runs : .remove (fileSystemRoot.resolve "/srv/gravit") ∈
        (removeInstallation outsideRemovalHost ⟨"a", "/srv/gravit"⟩ []).2 ∧
      (fileSystemRoot.resolve "/srv/gravit").Above
        outsideRemovalHost.installationsRoot ∧
      .remove (fileSystemRoot.resolve "/srv/gravit/installations/main") ∈
        (removeInstallation sampleRemovalHost
          ⟨"a", "/srv/gravit/installations/main"⟩ []).2 ∧
      (fileSystemRoot.resolve "/srv/gravit/installations/main").Above
        sampleRemovalHost.workspace := by
    decide +kernel
  obtain ⟨removed, root, deleted, workspace⟩ := runs
  exact ⟨removed, fun spares => spares.installations root, deleted,
    fun spares => spares.workspace workspace⟩

end GravitPanel.LauncherDockered
