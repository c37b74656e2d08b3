import GravitPanel.Mods.ModInstall
import GravitPanel.Mods.OptionalIds

/-!
# Required and optional forms of a mod

What an install leaves of the projects that it resolved: files in the mods of
the profile, and entries of its optional mods.  Each selection decides for
itself in which form a project is written.
-/

namespace GravitPanel.Mods

open FileTree Program Clients Json

/-- A resolved mod with the selection that it was resolved for. -/
abbrev ClientMod := ModInstallSelection × ResolvedMod

/-- The mods resolved for the client, in the order of their installation. -/
def clientMods (host : InstallHost) (input : ModInstallInput) :
    List ClientMod :=
  (clientSelections input).flatMap fun selection =>
    ((resolveInstall (modSearch host input .client)
      selection.slug).toOption.getD []).map (Prod.mk selection)

def isFile (mod : ClientMod) : Bool :=
  becomesFile mod.1 mod.2

def lastFile (mods : List ClientMod) (filename : String) : Option ClientMod :=
  mods.reverse.find? fun mod => isFile mod && mod.2.file.filename = filename

/-- The project's file is the last one under some name. -/
def Lasting (mods : List ClientMod) (projectId : String) : Prop :=
  ∃ filename mod, lastFile mods filename = some mod ∧
    mod.2.projectId = projectId

/-- A resolved mod has the project as a required dependency. -/
def RequiredBySome
    (api : ModrinthApi) (mods : List ClientMod) (projectId : String) : Prop :=
  ∃ mod ∈ mods, ∃ dependency ∈ mod.2.version.dependencies,
    ∃ reference project,
      dependencyReference api dependency = .ok (some reference) ∧
        api.project reference = .ok (some project) ∧ project.id = projectId

def modFile (profile name : String) : String :=
  joinSteps ["updates", profile, "mods", name]

/-- Some file in the mods is recognized as a version of the project. -/
def InstalledFile
    (owner : List UInt8 → Option String) (profile : String)
    (files : String → Option (List UInt8)) (projectId : String) : Prop :=
  ∃ name bytes, files (modFile profile name) = some bytes ∧
    owner bytes = some projectId

def ListedOptional (profile : JsonFields) (projectId : String) : Prop :=
  projectId ∈ (listProfile profile).map OptionalMod.projectId

/-- The files after these writes. -/
def applyWrites
    (files : String → Option (List UInt8))
    (writes : List (String × List UInt8)) : String → Option (List UInt8) :=
  writes.foldl (fun files write path =>
    if path = write.1 then some write.2 else files path) files

/-- What is documented of a resolved mod: project identifiers are in base 62,
a file name is a name without directories, and the lookup by hash recognizes
the file as its project's. -/
structure DocumentedMod
    (host : InstallHost) (owner : List UInt8 → Option String)
    (item : ResolvedMod) : Prop where
  named : item.projectId ≠ ""
  base62 : ∀ character ∈ item.projectId.toList,
    Servers.isAlphanumeric character
  filename : item.file.filename ≠ "" ∧ item.file.filename ≠ "." ∧
    item.file.filename ≠ ".."
  slashFree : '/' ∉ item.file.filename.toList
  recognized : ∀ bytes, host.downloadMod item.file = .ok bytes →
    owner bytes = some item.projectId

/-- Each project is a file or an optional mod, and not both; a required one is
a file. -/
structure OneForm
    (host : InstallHost) (owner : List UInt8 → Option String)
    (input : ModInstallInput) (files : String → Option (List UInt8))
    (profile : JsonFields) : Prop where
  exactlyOne : ∀ mod ∈ clientMods host input,
    (InstalledFile owner input.profile files mod.2.projectId ↔
      ¬ ListedOptional profile mod.2.projectId)
  required : ∀ mod ∈ clientMods host input,
    RequiredBySome host.api (clientMods host input) mod.2.projectId →
      InstalledFile owner input.profile files mod.2.projectId

/-- The project of an optional selection is neither required nor the last one
under a file name; every other project is the last one under some name. -/
structure FormsApart (api : ModrinthApi) (mods : List ClientMod) : Prop where
  optional : ∀ mod ∈ mods, isFile mod = false →
    ¬ RequiredBySome api mods mod.2.projectId ∧
      ¬ Lasting mods mod.2.projectId
  kept : ∀ mod ∈ mods,
    (∀ other ∈ mods, isFile other = false →
      other.2.projectId ≠ mod.2.projectId) →
    Lasting mods mod.2.projectId

theorem plain_of_alphanumeric
    {text : String} (named : text ≠ "")
    (legal : ∀ character ∈ text.toList,
      Servers.isAlphanumeric character ∨ character ∈ ['.', '_', '-'])
    (first : ∀ character, text.toList.head? = some character →
      Servers.isAlphanumeric character) :
    (text ≠ "" ∧ text ≠ "." ∧ text ≠ "..") ∧ '/' ∉ text.toList := by
  refine ⟨⟨named, ?_, ?_⟩, ?_⟩
  · intro dot
    rw [dot] at first
    exact absurd (first '.' rfl) (by decide)
  · intro dots
    rw [dots] at first
    exact absurd (first '.' rfl) (by decide)
  · intro slash
    exact absurd (legal '/' slash) (by decide)

theorem plain_of_identifierPattern
    {text : String} (identifier : Servers.identifierPattern text) :
    (text ≠ "" ∧ text ≠ "." ∧ text ≠ "..") ∧ '/' ∉ text.toList := by
  unfold Servers.identifierPattern at identifier
  cases letters : text.toList with
  | nil =>
      rw [letters] at identifier
      cases identifier
  | cons letter rest =>
      rw [letters] at identifier
      simp only [Bool.and_eq_true, List.all_eq_true, Bool.or_eq_true,
        decide_eq_true_eq] at identifier
      rw [← letters]
      apply plain_of_alphanumeric
      · intro empty
        rw [empty] at letters
        cases letters
      · intro character member
        rw [letters] at member
        rcases List.mem_cons.mp member with rfl | later
        · exact Or.inl identifier.1.1
        · exact identifier.2 character later
      · intro character head
        rw [letters] at head
        cases head
        exact identifier.1.1

theorem joinSteps_joinSteps_concat {first : Path} {last : String}
    (some : first ≠ []) :
    joinSteps [joinSteps first, last] = joinSteps (first ++ [last]) := by
  unfold joinSteps
  rw [String.intercalate_append_of_ne_nil some (List.cons_ne_nil _ _),
    String.intercalate_cons_of_ne_nil (List.cons_ne_nil _ _)]

def PathName (name : String) : Prop :=
  (name ≠ "" ∧ name ≠ "." ∧ name ≠ "..") ∧ '/' ∉ name.toList

theorem pathNames {steps : Path} (names : ∀ step ∈ steps, PathName step) :
    SlashFree steps ∧ Plain steps :=
  ⟨fun step member => (names step member).2,
    fun step member => (names step member).1⟩

section Paths

variable {profile : String} (profileName : PathName profile)

include profileName

theorem requiredPath_eq {filename : String} (named : PathName filename) :
    requiredPath profile filename = modFile profile filename := by
  have inside : ∀ step ∈ ["updates", profile, "mods"], PathName step := by
    intro step member
    simp only [List.mem_cons, List.not_mem_nil, or_false] at member
    rcases member with rfl | rfl | rfl
    · exact ⟨by decide, by decide⟩
    · exact profileName
    · exact ⟨by decide, by decide⟩
  have whole : ∀ step ∈ ["updates", profile, "mods"] ++ [filename],
      PathName step := by
    intro step member
    rcases List.mem_append.mp member with directory | last
    · exact inside step directory
    · rw [List.mem_singleton.mp last]
      exact named
  have directory := pathNames inside
  have all := pathNames whole
  have kept : [joinSteps ["updates", profile, "mods"], filename].filter
      (· ≠ "") = [joinSteps ["updates", profile, "mods"], filename] := by
    have first := joinSteps_ne_empty (List.cons_ne_nil _ _) directory.1
      fun step member => (directory.2 step member).1
    have second := named.1.1
    simp [first, second]
  rw [requiredPath, modsRelativeDirectory,
    posixJoin_of_plain (List.cons_ne_nil _ _) directory.1 directory.2,
    posixJoin, kept, joinSteps_joinSteps_concat (List.cons_ne_nil _ _),
    normalizePath_joinSteps (by simp) all.1 all.2]
  rfl

theorem optionalPath_steps {projectId filename : String}
    (identified : PathName projectId) (named : PathName filename) :
    optionalModPath projectId filename =
        joinSteps [".gravit-panel-optional", "mods", projectId, filename] ∧
      pathSteps (posixJoin ["updates", profile,
          optionalModPath projectId filename]) =
        ["updates", profile, ".gravit-panel-optional", "mods", projectId,
          filename] := by
  have inside : ∀ step ∈
      [".gravit-panel-optional", "mods", projectId, filename],
      PathName step := by
    intro step member
    simp only [List.mem_cons, List.not_mem_nil, or_false] at member
    rcases member with rfl | rfl | rfl | rfl
    · exact ⟨by decide, by decide⟩
    · exact ⟨by decide, by decide⟩
    · exact identified
    · exact named
  have whole : ∀ step ∈ ["updates", profile] ++
      [".gravit-panel-optional", "mods", projectId, filename],
      PathName step := by
    intro step member
    rcases List.mem_append.mp member with directory | source
    · simp only [List.mem_cons, List.not_mem_nil, or_false] at directory
      rcases directory with rfl | rfl
      · exact ⟨by decide, by decide⟩
      · exact profileName
    · exact inside step source
  have source := pathNames inside
  have all := pathNames whole
  have joined : optionalModPath projectId filename =
      joinSteps [".gravit-panel-optional", "mods", projectId, filename] :=
    posixJoin_of_plain (List.cons_ne_nil _ _) source.1 source.2
  have kept : ["updates", profile,
      joinSteps [".gravit-panel-optional", "mods", projectId,
        filename]].filter (· ≠ "") =
      ["updates", profile] ++
        [joinSteps [".gravit-panel-optional", "mods", projectId,
          filename]] := by
    have last := joinSteps_ne_empty (List.cons_ne_nil _ _) source.1
      fun step member => (source.2 step member).1
    have middle := profileName.1.1
    simp [last, middle]
  refine ⟨joined, ?_⟩
  rw [joined, posixJoin, kept,
    joinSteps_concat_joinSteps (List.cons_ne_nil _ _) (List.cons_ne_nil _ _),
    normalizePath_joinSteps (by simp) all.1 all.2,
    pathSteps_joinSteps (by simp) all.1]
  rfl

theorem modFile_steps (name : String) :
    pathSteps (modFile profile name) =
      "updates" :: profile :: "mods" :: pathSteps name := by
  have some : pathSteps name ≠ [] := by
    rw [pathSteps, ne_eq, List.map_eq_nil_iff]
    exact List.splitOn_ne_nil _ _
  have slashFree : SlashFree (["updates", profile, "mods"] ++
      pathSteps name) := by
    intro step member
    rcases List.mem_append.mp member with directory | inside
    · simp only [List.mem_cons, List.not_mem_nil, or_false] at directory
      rcases directory with rfl | rfl | rfl
      · decide
      · exact profileName.2
      · decide
    · exact slashFree_pathSteps name step inside
  have joined := joinSteps_concat_joinSteps
    (List.cons_ne_nil "updates" [profile, "mods"]) some
  rw [joinSteps_pathSteps] at joined
  show pathSteps (joinSteps (["updates", profile, "mods"] ++ [name])) = _
  rw [joined, pathSteps_joinSteps (by simp) slashFree]
  rfl

theorem modFile_injective {first second : String}
    (same : modFile profile first = modFile profile second) :
    first = second := by
  have steps := congrArg pathSteps same
  rw [modFile_steps profileName, modFile_steps profileName] at steps
  simp only [List.cons.injEq, true_and] at steps
  rw [← joinSteps_pathSteps first, steps, joinSteps_pathSteps]

end Paths

def downloaded (host : InstallHost) (item : ResolvedMod) : List UInt8 :=
  (host.downloadMod item.file).toOption.getD []

def writtenPath (profile : String) (mod : ClientMod) : String :=
  if isFile mod then
    requiredPath profile mod.2.file.filename
  else
    posixJoin ["updates", profile,
      optionalModPath mod.2.projectId mod.2.file.filename]

def modWrite (host : InstallHost) (profile : String) (mod : ClientMod) :
    String × List UInt8 :=
  (writtenPath profile mod, downloaded host mod.2)

/-- The state after a mod was written and collected. -/
def InstallState.record
    (host : InstallHost) (profile : String) (state : InstallState)
    (mod : ClientMod) : InstallState :=
  let written := { state with
    volumeWrites := state.volumeWrites ++ [modWrite host profile mod] }
  if isFile mod then written.requiredWritten mod.1 mod.2
  else written.collect (optionalSelection mod.1 mod.2)

section Client

variable {host : InstallHost} {input : ModInstallInput}
variable {profile : String} {state reached : InstallState}

theorem writeVolumeFile_ok
    {files : ImportHost} {path : String} {bytes : List UInt8}
    (run : onImport (writeVolumeFile files path bytes) state =
      (.ok ⟨⟩, reached)) :
    reached = { state with
      volumeWrites := state.volumeWrites ++ [(path, bytes)] } := by
  obtain ⟨written, done, rfl⟩ := focus_eq_ok.mp run
  obtain ⟨_, _, last⟩ := lift_bind_eq_ok.mp done
  cases last
  rfl

theorem installResolved_ok
    {selection : ModInstallSelection} {item : ResolvedMod}
    (run : installResolved host profile selection item state =
      (.ok ⟨⟩, reached)) :
    (∃ bytes, host.downloadMod item.file = .ok bytes) ∧
      reached = state.record host profile (selection, item) := by
  obtain ⟨bytes, got, rest⟩ := lift_bind_eq_ok.mp run
  refine ⟨⟨bytes, got⟩, ?_⟩
  have content : downloaded host item = bytes := by
    rw [downloaded, got]
    rfl
  by_cases file : becomesFile selection item = true
  · rw [if_pos file] at rest
    obtain ⟨_, written, first, last⟩ := bind_eq_ok.mp rest
    cases last
    rw [writeVolumeFile_ok first, InstallState.record, modWrite, writtenPath,
      isFile, if_pos file, if_pos file, content]
  · rw [if_neg file] at rest
    obtain ⟨_, written, first, last⟩ := bind_eq_ok.mp rest
    cases last
    rw [writeVolumeFile_ok first, InstallState.record, modWrite, writtenPath,
      isFile, if_neg file, if_neg file, content]
    rfl

theorem installClientSelection_ok
    {selection : ModInstallSelection}
    (run : installClientSelection host input selection state =
      (.ok ⟨⟩, reached)) :
    let mods := ((resolveInstall (modSearch host input .client)
      selection.slug).toOption.getD []).map (Prod.mk selection)
    (∀ mod ∈ mods, ∃ bytes, host.downloadMod mod.2.file = .ok bytes) ∧
      reached = mods.foldl (InstallState.record host input.profile) state := by
  obtain ⟨items, resolved, rest⟩ := lift_bind_eq_ok.mp run
  have each : ∀ item ∈ items, ∀ before after,
      installResolved host input.profile selection item before =
        (.ok ⟨⟩, after) →
      (∃ bytes, host.downloadMod item.file = .ok bytes) ∧
        after = before.record host input.profile (selection, item) :=
    fun item _ before after done => installResolved_ok done
  obtain ⟨got, last⟩ := forEach_eq_foldl each rest
  rw [resolved]
  constructor
  · intro mod member
    obtain ⟨item, present, rfl⟩ := List.mem_map.mp member
    exact got item present
  · rw [last]
    exact (List.foldl_map).symm

theorem installClient_ok
    (run : forEach (clientSelections input)
      (installClientSelection host input) state = (.ok ⟨⟩, reached)) :
    (∀ mod ∈ clientMods host input,
      ∃ bytes, host.downloadMod mod.2.file = .ok bytes) ∧
      reached = (clientMods host input).foldl
        (InstallState.record host input.profile) state := by
  have whole := forEach_eq_foldl
    (fun selection _ before after done => installClientSelection_ok done) run
  obtain ⟨got, last⟩ := whole
  constructor
  · intro mod member
    obtain ⟨selection, present, inside⟩ := List.mem_flatMap.mp member
    exact got selection present mod inside
  · rw [last, clientMods, List.foldl_flatMap]

end Client

theorem ids_setOptional
    (optionals : List OptionalModInput) (input : OptionalModInput)
    (projectId : String) :
    projectId ∈ (setOptional optionals input).map OptionalModInput.projectId ↔
      projectId ∈ optionals.map OptionalModInput.projectId ∨
        projectId = input.projectId := by
  unfold setOptional
  by_cases known : (optionals.any fun other =>
      other.projectId = input.projectId) = true
  · rw [if_pos known]
    have same : (optionals.map fun other =>
        if other.projectId = input.projectId then input else other).map
          OptionalModInput.projectId =
        optionals.map OptionalModInput.projectId := by
      rw [List.map_map]
      apply List.map_congr_left
      intro other _
      rw [Function.comp_apply]
      by_cases equal : other.projectId = input.projectId
      · rw [if_pos equal, equal]
      · rw [if_neg equal]
    rw [same]
    constructor
    · exact Or.inl
    · intro member
      rcases member with earlier | rfl
      · exact earlier
      · obtain ⟨other, present, equal⟩ := List.any_eq_true.mp known
        exact List.mem_map.mpr ⟨other, present, of_decide_eq_true equal⟩
  · rw [if_neg known, List.map_append, List.mem_append, List.map_singleton,
      List.mem_singleton]

section Recorded

variable {host : InstallHost} {profile : String}

theorem record_writes (state : InstallState) (mod : ClientMod) :
    (state.record host profile mod).volumeWrites =
      state.volumeWrites ++ [modWrite host profile mod] := by
  unfold InstallState.record
  by_cases file : isFile mod = true
  · rw [if_pos file]
    rfl
  · rw [if_neg file]
    rfl

theorem record_profile (state : InstallState) (mod : ClientMod) :
    (state.record host profile mod).profile = state.profile := by
  unfold InstallState.record
  by_cases file : isFile mod = true
  · rw [if_pos file]
    rfl
  · rw [if_neg file]
    rfl

theorem record_optionals (state : InstallState) (mod : ClientMod) :
    (state.record host profile mod).optionals =
      if isFile mod then state.optionals
      else setOptional state.optionals (optionalSelection mod.1 mod.2) := by
  unfold InstallState.record
  by_cases file : isFile mod = true
  · rw [if_pos file, if_pos file]
    rfl
  · rw [if_neg file, if_neg file]
    rfl

theorem recorded_writes (mods : List ClientMod) (state : InstallState) :
    (mods.foldl (InstallState.record host profile) state).volumeWrites =
      state.volumeWrites ++ mods.map (modWrite host profile) := by
  induction mods generalizing state with
  | nil => exact (List.append_nil _).symm
  | cons mod rest ih =>
      rw [List.foldl_cons, ih, record_writes,
        List.append_assoc]
      rfl

theorem recorded_profile (mods : List ClientMod) (state : InstallState) :
    (mods.foldl (InstallState.record host profile) state).profile =
      state.profile := by
  induction mods generalizing state with
  | nil => rfl
  | cons mod rest ih =>
      rw [List.foldl_cons, ih, record_profile]

theorem recorded_ids
    (mods : List ClientMod) (state : InstallState) (projectId : String) :
    projectId ∈ (mods.foldl (InstallState.record host profile)
        state).optionals.map OptionalModInput.projectId ↔
      projectId ∈ state.optionals.map OptionalModInput.projectId ∨
        ∃ mod ∈ mods, isFile mod = false ∧
          mod.2.projectId = projectId := by
  induction mods generalizing state with
  | nil => simp
  | cons mod rest ih =>
      rw [List.foldl_cons, ih, record_optionals]
      by_cases file : isFile mod = true
      · rw [if_pos file]
        simp [file]
      · rw [if_neg file, ids_setOptional]
        have other : isFile mod = false := eq_false_of_ne_true file
        simp only [List.exists_mem_cons_iff, other, true_and, or_assoc]
        rw [eq_comm]
        rfl

theorem recorded_source
    {mods : List ClientMod} {state : InstallState}
    {good : OptionalModInput → Prop}
    (begun : ∀ input ∈ state.optionals, good input)
    (each : ∀ mod ∈ mods, good (optionalSelection mod.1 mod.2)) :
    ∀ input ∈ (mods.foldl (InstallState.record host profile)
      state).optionals, good input := by
  induction mods generalizing state with
  | nil => exact begun
  | cons mod rest ih =>
      rw [List.foldl_cons]
      apply ih
      · intro input member
        rw [record_optionals] at member
        by_cases file : isFile mod = true
        · rw [if_pos file] at member
          exact begun input member
        · rw [if_neg file] at member
          rcases mem_setOptional member with rfl | earlier
          · exact each mod List.mem_cons_self
          · exact begun input earlier
      · exact fun other member => each other (List.mem_cons_of_mem mod member)

end Recorded

section Rest

variable {host : InstallHost} {input : ModInstallInput}
variable {state reached : InstallState}

theorem upsertCollected_ok
    (run : upsertCollected host state = (.ok ⟨⟩, reached)) :
    reached.volumeWrites = state.volumeWrites ∧
      reached.profile =
        if state.optionals = [] then state.profile
        else upsertProfile host.toLowerCase state.profile state.optionals
          state.optionalDependencyProjectIds := by
  unfold upsertCollected at run
  rw [get_bind] at run
  by_cases none : state.optionals = []
  · rw [if_pos none] at run
    cases run
    exact ⟨rfl, (if_pos none).symm⟩
  · rw [if_neg none] at run
    obtain ⟨_, _, rest⟩ := lift_bind_eq_ok.mp run
    obtain ⟨_, written, changed, last⟩ := bind_eq_ok.mp rest
    cases changed
    rw [restore_eq_ok] at last
    obtain ⟨-, rfl⟩ := Prod.mk.inj last
    exact ⟨rfl, (if_neg none).symm⟩

theorem writeLiveServerFile_keeps
    (files : ImportHost) (writes : List (String × List UInt8))
    (path : String) (bytes : List UInt8) (bindingId : String) :
    Keeps (fun state => state.volumeWrites = writes)
      (writeLiveServerFile files path bytes bindingId) := by
  have request : ∀ request, Keeps (fun state : ImportState =>
      state.volumeWrites = writes) (requestFilesystem files request) :=
    fun request => keeps_get.bind fun _ =>
      Keeps.bind (keeps_update fun _ holds => holds) fun _ => keeps_lift _
  refine Keeps.lift_bind fun _ => Keeps.bind ?_ fun _ => request _
  refine keeps_forEach fun directory _ => ?_
  exact Keeps.handle (request _) fun _ => request _

theorem installLiveServerMods_keeps
    (writes : List (String × List UInt8))
    (selection : String × List String) :
    Keeps (fun state => state.volumeWrites = writes)
      (installLiveServerMods host input selection) := by
  refine Keeps.bind (keeps_foldlM ?_ _) fun _ => keeps_pure _
  intro installed slug _
  refine Keeps.lift_bind fun items => keeps_foldlM ?_ _
  intro before item _
  unfold installLiveFile
  by_cases known : item.file.filename ∈ before
  · rw [if_pos known]
    exact keeps_pure _
  · rw [if_neg known]
    refine Keeps.lift_bind fun bytes => ?_
    exact Keeps.bind (writeLiveServerFile_keeps _ _ _ _ _)
      fun _ => keeps_pure _

theorem keeps_onImport
    {program : Program ImportState String PUnit}
    {writes : List (String × List UInt8)} {profile : JsonFields}
    (kept : Keeps (fun state => state.volumeWrites = writes) program) :
    Keeps (fun state : InstallState => state.volumeWrites = writes ∧
      state.profile = profile) (onImport program) := by
  apply keeps_of_reached
  intro state holds
  exact ⟨kept.reached holds.1, holds.2⟩

theorem installOnServers_keeps
    (writes : List (String × List UInt8)) (profile : JsonFields) :
    Keeps (fun state : InstallState => state.volumeWrites = writes ∧
      state.profile = profile) (installOnServers host input) := by
  refine Keeps.lift_bind fun servers => Keeps.lift_bind fun _ => ?_
  exact keeps_forEach fun selection _ =>
    keeps_onImport (installLiveServerMods_keeps _ _)

end Rest

/-! ## Files -/

theorem lastFile_concat
    (mods : List ClientMod) (mod : ClientMod) (filename : String) :
    lastFile (mods ++ [mod]) filename =
      if isFile mod && mod.2.file.filename = filename then some mod
      else lastFile mods filename := by
  unfold lastFile
  rw [List.reverse_append, List.reverse_singleton, List.singleton_append,
    List.find?_cons]
  cases isFile mod && decide (mod.2.file.filename = filename) <;> rfl

theorem mem_of_lastFile
    {mods : List ClientMod} {mod : ClientMod} {filename : String}
    (last : lastFile mods filename = some mod) : mod ∈ mods :=
  List.mem_reverse.mp (List.mem_of_find?_eq_some last)

theorem DocumentedMod.pathNames
    {host : InstallHost} {owner : List UInt8 → Option String}
    {item : ResolvedMod} (documented : DocumentedMod host owner item) :
    PathName item.projectId ∧ PathName item.file.filename := by
  refine ⟨?_, documented.filename, documented.slashFree⟩
  apply plain_of_alphanumeric documented.named
  · exact fun character member => Or.inl (documented.base62 character member)
  · exact fun character head =>
      documented.base62 character (List.mem_of_mem_head? head)

theorem DocumentedMod.source
    {host : InstallHost} {owner : List UInt8 → Option String}
    {item : ResolvedMod} {profile : String} (profileName : PathName profile)
    (documented : DocumentedMod host owner item)
    (selection : ModInstallSelection) :
    OptionalSource (optionalSelection selection item) := by
  obtain ⟨identified, named⟩ := documented.pathNames
  refine ⟨documented.named, identified.2, item.file.filename, ?_⟩
  have joined := (optionalPath_steps profileName identified named).1
  show optionalModPath item.projectId item.file.filename = _
  rw [joined, joinSteps, String.intercalate_cons_of_ne_nil (by simp),
    String.intercalate_cons_of_ne_nil (by simp),
    String.intercalate_cons_of_ne_nil (by simp),
    String.intercalate_singleton]
  show _ = ".gravit-panel-optional" ++ "/" ++ "mods" ++ "/" ++
    item.projectId ++ "/" ++ item.file.filename
  simp only [String.append_assoc]

section Files

variable {host : InstallHost} {owner : List UInt8 → Option String}
variable {profile : String} (profileName : PathName profile)
variable {mods : List ClientMod}
variable (documented : ∀ mod ∈ mods, DocumentedMod host owner mod.2)

include profileName documented

theorem applyWrites_modFile
    (files : String → Option (List UInt8)) (name : String) :
    applyWrites files (mods.map (modWrite host profile))
        (modFile profile name) =
      ((lastFile mods name).map fun mod => downloaded host mod.2).or
        (files (modFile profile name)) := by
  induction mods using List.reverseRecOn with
  | nil => rfl
  | append_singleton earlier mod ih =>
      have before := ih fun other member =>
        documented other (List.mem_append_left _ member)
      obtain ⟨identified, named⟩ := (documented mod
        (List.mem_append_right _ (List.mem_singleton_self mod))).pathNames
      have content : applyWrites files
          ((earlier ++ [mod]).map (modWrite host profile))
            (modFile profile name) =
          if modFile profile name = writtenPath profile mod then
            some (downloaded host mod.2)
          else applyWrites files (earlier.map (modWrite host profile))
            (modFile profile name) := by
        rw [List.map_append, applyWrites, List.foldl_append]
        rfl
      rw [content, lastFile_concat, before, writtenPath]
      by_cases file : isFile mod = true
      · rw [if_pos file, requiredPath_eq profileName named, file,
          Bool.true_and]
        by_cases same : mod.2.file.filename = name
        · rw [same, if_pos rfl, if_pos (decide_eq_true rfl)]
          rfl
        · rw [if_neg (fun equal => same
            (modFile_injective profileName equal).symm),
            if_neg (by simp [same])]
      · have other : modFile profile name ≠ posixJoin ["updates", profile,
            optionalModPath mod.2.projectId mod.2.file.filename] := by
          intro equal
          have steps := congrArg pathSteps equal
          rw [modFile_steps profileName,
            (optionalPath_steps profileName identified named).2] at steps
          have third := (List.cons.inj (List.cons.inj (List.cons.inj
            steps).2).2).1
          exact absurd third (by decide)
        rw [if_neg file, if_neg other, eq_false_of_ne_true file,
          Bool.false_and, if_neg Bool.false_ne_true]

/-- A new project has a file exactly when its file is the last one under some
name. -/
theorem installedFile_iff
    {files : String → Option (List UInt8)} {projectId : String}
    (got : ∀ mod ∈ mods, ∃ bytes, host.downloadMod mod.2.file = .ok bytes)
    (absent : ¬ InstalledFile owner profile files projectId) :
    InstalledFile owner profile
        (applyWrites files (mods.map (modWrite host profile))) projectId ↔
      Lasting mods projectId := by
  have owned : ∀ mod ∈ mods,
      owner (downloaded host mod.2) = some mod.2.projectId := by
    intro mod member
    obtain ⟨bytes, downloads⟩ := got mod member
    rw [downloaded, downloads]
    exact (documented mod member).recognized bytes downloads
  constructor
  · rintro ⟨name, bytes, content, recognized⟩
    rw [applyWrites_modFile profileName documented] at content
    cases last : lastFile mods name with
    | none =>
        rw [last] at content
        exact absurd ⟨name, bytes, content, recognized⟩ absent
    | some mod =>
        rw [last] at content
        cases content
        rw [owned mod (mem_of_lastFile last)] at recognized
        exact ⟨name, mod, last, Option.some.inj recognized⟩
  · rintro ⟨name, mod, last, identified⟩
    refine ⟨name, downloaded host mod.2, ?_, ?_⟩
    · rw [applyWrites_modFile profileName documented, last]
      rfl
    · rw [owned mod (mem_of_lastFile last), identified]

end Files

theorem ids_of_lists
    {inputs : List OptionalModInput} {mods : List OptionalMod}
    (lists : List.Forall₂ Lists inputs mods) :
    mods.map OptionalMod.projectId =
      inputs.map OptionalModInput.projectId := by
  induction lists with
  | nil => rfl
  | cons first _ ih =>
      rw [List.map_cons, List.map_cons, ih, first.listed]
      rfl

theorem listedOptional_upsert
    (toLowerCase : String → String) {profile : JsonFields}
    {inputs : List OptionalModInput} (removeProjectIds : List String)
    (sources : ∀ input ∈ inputs, OptionalSource input) {projectId : String}
    (absent : ¬ ListedOptional profile projectId) :
    ListedOptional
        (upsertProfile toLowerCase profile inputs removeProjectIds)
        projectId ↔
      projectId ∈ inputs.map OptionalModInput.projectId := by
  obtain ⟨mods, listed, lists⟩ := upsertProfile_listed toLowerCase profile
    removeProjectIds sources
  rw [ListedOptional, listed, List.map_append, ids_of_lists lists,
    List.mem_append]
  constructor
  · rintro (old | new)
    · obtain ⟨mod, member, identified⟩ := List.mem_map.mp old
      exact absurd (List.mem_map.mpr
        ⟨mod, (List.mem_filter.mp member).1, identified⟩) absent
    · exact new
  · exact Or.inr

section Both

variable {host : InstallHost} {input : ModInstallInput}
variable {profile : JsonFields} {final : InstallState}

theorem profileName_of_checked {value : PUnit}
    (checked : checkSelections host input = .ok value) :
    PathName input.profile := by
  obtain ⟨_, valid, _⟩ := outcome_bind_eq_ok.mp checked
  apply plain_of_identifierPattern
  unfold Servers.validateProfile at valid
  by_contra other
  rw [if_neg other] at valid
  cases valid

theorem installSelections_ok
    (run : installSelections host input (.started profile) =
      (.ok ⟨⟩, final)) :
    let collected := (clientMods host input).foldl
      (InstallState.record host input.profile) (.started profile)
    PathName input.profile ∧
      (∀ mod ∈ clientMods host input,
        ∃ bytes, host.downloadMod mod.2.file = .ok bytes) ∧
      final.volumeWrites =
        (clientMods host input).map (modWrite host input.profile) ∧
      final.profile =
        if collected.optionals = [] then profile
        else upsertProfile host.toLowerCase profile collected.optionals
          collected.optionalDependencyProjectIds := by
  intro collected
  obtain ⟨_, checked, rest⟩ := lift_bind_eq_ok.mp run
  obtain ⟨_, _, client, later⟩ := bind_eq_ok.mp rest
  obtain ⟨got, rfl⟩ := installClient_ok client
  obtain ⟨_, upserted, upsert, last⟩ := bind_eq_ok.mp later
  obtain ⟨sameWrites, nextProfile⟩ := upsertCollected_ok upsert
  obtain ⟨_, served, servers, reload⟩ := bind_eq_ok.mp last
  have keeps : Keeps (fun state : InstallState =>
      state.volumeWrites = upserted.volumeWrites ∧
        state.profile = upserted.profile) (installOnServers host input) :=
    installOnServers_keeps _ _
  have kept := keeps.reached ⟨rfl, rfl⟩
  rw [servers] at kept
  rw [get_bind] at reload
  obtain ⟨-, rfl⟩ := Prod.mk.inj reload
  refine ⟨profileName_of_checked checked, got, ?_, ?_⟩
  · rw [kept.1, sameWrites, recorded_writes]
    rfl
  · rw [kept.2, nextProfile, recorded_profile]
    rfl

/-- After an install, a new project is listed exactly when it was resolved as
the project of an optional selection. -/
theorem listedOptional_iff
    {owner : List UInt8 → Option String} {projectId : String}
    (documented : ∀ mod ∈ clientMods host input,
      DocumentedMod host owner mod.2)
    (run : installSelections host input (.started profile) =
      (.ok ⟨⟩, final))
    (absent : ¬ ListedOptional profile projectId) :
    ListedOptional final.profile projectId ↔
      ∃ mod ∈ clientMods host input, isFile mod = false ∧
        mod.2.projectId = projectId := by
  obtain ⟨profileName, _, _, next⟩ := installSelections_ok run
  have sources : ∀ optional ∈ ((clientMods host input).foldl
      (InstallState.record host input.profile)
        (.started profile)).optionals, OptionalSource optional := by
    apply recorded_source
    · intro optional member
      exact absurd member List.not_mem_nil
    · intro mod member
      exact (documented mod member).source profileName mod.1
  have ids := @recorded_ids host input.profile (clientMods host input)
    (.started profile) projectId
  have begun : projectId ∉ (InstallState.started
      profile).optionals.map OptionalModInput.projectId :=
    List.not_mem_nil
  rw [or_iff_right begun] at ids
  rw [← ids, next]
  by_cases none : ((clientMods host input).foldl
      (InstallState.record host input.profile)
        (.started profile)).optionals = []
  · rw [if_pos none, none]
    exact iff_of_false absent List.not_mem_nil
  · rw [if_neg none]
    exact listedOptional_upsert host.toLowerCase _ sources absent

/-- After an install, each project has one form exactly when the forms are
apart in what was resolved. -/
theorem oneForm_iff
    (host : InstallHost) (owner : List UInt8 → Option String)
    (input : ModInstallInput) (files : String → Option (List UInt8))
    (profile : JsonFields) (final : InstallState)
    (documented : ∀ mod ∈ clientMods host input,
      DocumentedMod host owner mod.2)
    (absent : ∀ mod ∈ clientMods host input,
      ¬ InstalledFile owner input.profile files mod.2.projectId ∧
        ¬ ListedOptional profile mod.2.projectId)
    (run : installSelections host input (.started profile) =
      (.ok ⟨⟩, final)) :
    OneForm host owner input (applyWrites files final.volumeWrites)
        final.profile ↔
      FormsApart host.api (clientMods host input) := by
  obtain ⟨profileName, got, written, _⟩ := installSelections_ok run
  have installed : ∀ mod ∈ clientMods host input,
      (InstalledFile owner input.profile
          (applyWrites files final.volumeWrites) mod.2.projectId ↔
        Lasting (clientMods host input) mod.2.projectId) := by
    intro mod member
    rw [written]
    exact installedFile_iff profileName documented got (absent mod member).1
  have listed : ∀ mod ∈ clientMods host input,
      (ListedOptional final.profile mod.2.projectId ↔
        ∃ other ∈ clientMods host input, isFile other = false ∧
          other.2.projectId = mod.2.projectId) :=
    fun mod member => listedOptional_iff documented run (absent mod member).2
  constructor
  · intro forms
    constructor
    · intro mod member optional
      have entry := (listed mod member).mpr ⟨mod, member, optional, rfl⟩
      have noFile : ¬ InstalledFile owner input.profile
          (applyWrites files final.volumeWrites) mod.2.projectId :=
        fun file => (forms.exactlyOne mod member).mp file entry
      refine ⟨fun required => noFile (forms.required mod member required), ?_⟩
      intro lasting
      exact noFile ((installed mod member).mpr lasting)
    · intro mod member unlisted
      apply (installed mod member).mp
      apply (forms.exactlyOne mod member).mpr
      intro entry
      obtain ⟨other, present, optional, same⟩ :=
        (listed mod member).mp entry
      exact unlisted other present optional same
  · intro apart
    constructor
    · intro mod member
      rw [installed mod member, listed mod member]
      constructor
      · rintro lasting ⟨other, present, optional, same⟩
        rw [← same] at lasting
        exact (apart.optional other present optional).2 lasting
      · intro unlisted
        apply apart.kept mod member
        intro other present optional same
        exact unlisted ⟨other, present, optional, same⟩
    · intro mod member required
      rw [installed mod member]
      apply apart.kept mod member
      intro other present optional same
      rw [← same] at required
      exact (apart.optional other present optional).1 required

end Both

theorem not_lasting
    {mods : List ClientMod} {projectId : String}
    (none : ∀ mod ∈ mods, isFile mod = true → mod.2.projectId ≠ projectId) :
    ¬ Lasting mods projectId := by
  rintro ⟨filename, mod, last, identified⟩
  have written := List.find?_some last
  rw [Bool.and_eq_true] at written
  exact none mod (mem_of_lastFile last) written.1 identified

def sodiumJar : ModrinthFile :=
  ⟨"https://cdn.modrinth.com/data/AANobbMI/sodium.jar", "sodium.jar", true⟩

def fabricApiJar : ModrinthFile :=
  ⟨"https://cdn.modrinth.com/data/P7dR8mSH/fabric-api.jar",
    "fabric-api.jar", true⟩

def sodiumApi : ModrinthApi where
  project reference := .ok
    (if reference ∈ ["sodium", "AANobbMI"] then
      some ⟨"AANobbMI", "sodium", some "Sodium", .required, .unsupported⟩
    else if reference ∈ ["fabric-api", "P7dR8mSH"] then
      some ⟨"P7dR8mSH", "fabric-api", some "Fabric API", .optional,
        .optional⟩
    else none)
  versions projectId _ _ := .ok (some
    (if projectId = "AANobbMI" then
      [⟨"AANobbMI", [sodiumJar], [⟨some "P7dR8mSH", none, .required⟩]⟩]
    else [⟨"P7dR8mSH", [fabricApiJar], []⟩]))
  version _ := .ok none

def sodiumHost : InstallHost where
  profile := none
  build := .ok ⟨⟩
  belongs _ := true
  download _ := .error "Modpack file has no allowed HTTPS download"
  writeVolume _ := .ok ⟨⟩
  answer _ := .ok ⟨⟩
  sha1 path := path
  api := sodiumApi
  downloadMod file := .ok (if file = sodiumJar then [1] else [2])
  unifiedDestinations := true
  serverAgent := true
  toLowerCase := asciiLowerCase
  writeProfile := .ok ⟨⟩
  reloadProfilesAndUpdates := .ok ⟨⟩
  reloadProfileUpdates := .ok ⟨⟩

def sodiumOwner (bytes : List UInt8) : Option String :=
  if bytes = [1] then some "AANobbMI"
  else if bytes = [2] then some "P7dR8mSH"
  else none

def optionalOf (slug : String) : ModInstallSelection :=
  ⟨slug, .optional, none, none, none, []⟩

def sodiumInput (slugs : List String) : ModInstallInput where
  profile := "fabric"
  minecraftVersion := "1.21.1"
  loader := "FABRIC"
  slugs := slugs
  selections := slugs.map optionalOf

def resolvedSodium : ResolvedMod where
  projectId := "AANobbMI"
  slug := "sodium"
  title := "Sodium"
  root := true
  version :=
    ⟨"AANobbMI", [sodiumJar], [⟨some "P7dR8mSH", none, .required⟩]⟩
  file := sodiumJar

def resolvedFabricApi (root : Bool) : ResolvedMod where
  projectId := "P7dR8mSH"
  slug := "fabric-api"
  title := "Fabric API"
  root := root
  version := ⟨"P7dR8mSH", [fabricApiJar], []⟩
  file := fabricApiJar

theorem resolvedSodium_documented :
    DocumentedMod sodiumHost sodiumOwner resolvedSodium where
  named := by decide
  base62 := by
    rw [← List.all_eq_true]
    decide
  filename := by decide
  slashFree := by decide
  recognized := by
    intro bytes downloads
    cases downloads
    rfl

theorem resolvedFabricApi_documented (root : Bool) :
    DocumentedMod sodiumHost sodiumOwner (resolvedFabricApi root) where
  named := by
    show "P7dR8mSH" ≠ ""
    decide
  base62 := by
    show ∀ character ∈ "P7dR8mSH".toList,
      Servers.isAlphanumeric character = true
    rw [← List.all_eq_true]
    decide
  filename := by
    show "fabric-api.jar" ≠ "" ∧ "fabric-api.jar" ≠ "." ∧
      "fabric-api.jar" ≠ ".."
    decide
  slashFree := by
    show '/' ∉ "fabric-api.jar".toList
    decide
  recognized := by
    intro bytes downloads
    cases downloads
    rfl

theorem absent_from_empty (projectId : String) :
    ¬ InstalledFile sodiumOwner "fabric" (fun _ => none) projectId ∧
      ¬ ListedOptional [] projectId := by
  constructor
  · rintro ⟨name, bytes, content, _⟩
    cases content
  · exact List.not_mem_nil

theorem clientMods_sodium :
    clientMods sodiumHost (sodiumInput ["sodium"]) =
      [(optionalOf "sodium", resolvedFabricApi false),
        (optionalOf "sodium", resolvedSodium)] := by
  decide +kernel

/-- An optional mod with a dependency: each has its form. -/
theorem sodium_oneForm :
    OneForm sodiumHost sodiumOwner (sodiumInput ["sodium"])
      (applyWrites (fun _ => none) (installSelections sodiumHost
        (sodiumInput ["sodium"]) (.started [])).2.volumeWrites)
      (installSelections sodiumHost (sodiumInput ["sodium"])
        (.started [])).2.profile := by
  have ended : (installSelections sodiumHost (sodiumInput ["sodium"])
      (.started [])).1 = .ok ⟨⟩ := by
    rfl
  refine (oneForm_iff sodiumHost sodiumOwner (sodiumInput ["sodium"])
    (fun _ => none) [] _ ?_ (fun mod _ => absent_from_empty _)
    (Prod.ext ended rfl)).mpr ?_
  · rw [clientMods_sodium]
    intro mod member
    simp only [List.mem_cons, List.not_mem_nil, or_false] at member
    rcases member with rfl | rfl
    · exact resolvedFabricApi_documented false
    · exact resolvedSodium_documented
  · rw [clientMods_sodium]
    constructor
    · intro mod member optional
      simp only [List.mem_cons, List.not_mem_nil, or_false] at member
      rcases member with rfl | rfl
      · cases optional
      · constructor
        · rintro ⟨mod, present, dependency, inside, reference, project,
            refers, found, identified⟩
          simp only [List.mem_cons, List.not_mem_nil, or_false] at present
          rcases present with rfl | rfl
          · cases inside
          · rw [List.mem_singleton.mp inside] at refers
            cases refers
            cases found
            exact absurd identified (by decide)
        · apply not_lasting
          intro mod present file
          simp only [List.mem_cons, List.not_mem_nil, or_false] at present
          rcases present with rfl | rfl
          · decide
          · cases file
    · intro mod member unlisted
      simp only [List.mem_cons, List.not_mem_nil, or_false] at member
      rcases member with rfl | rfl
      · exact ⟨"fabric-api.jar", (optionalOf "sodium",
          resolvedFabricApi false), by decide +kernel, rfl⟩
      · exact absurd rfl (unlisted _ (List.mem_cons_of_mem _
          List.mem_cons_self) rfl)

theorem clientMods_both :
    clientMods sodiumHost (sodiumInput ["sodium", "fabric-api"]) =
      [(optionalOf "sodium", resolvedFabricApi false),
        (optionalOf "sodium", resolvedSodium),
        (optionalOf "fabric-api", resolvedFabricApi true)] := by
  decide +kernel

/-- Where the dependency is selected as optional too, it is a file and an
optional mod. -/
theorem dependency_both_forms :
    (∀ mod ∈ clientMods sodiumHost (sodiumInput ["sodium", "fabric-api"]),
      DocumentedMod sodiumHost sodiumOwner mod.2 ∧
        ¬ InstalledFile sodiumOwner "fabric" (fun _ => none)
            mod.2.projectId ∧
          ¬ ListedOptional [] mod.2.projectId) ∧
      ∃ final, installSelections sodiumHost
          (sodiumInput ["sodium", "fabric-api"]) (.started []) =
            (.ok ⟨⟩, final) ∧
        ¬ OneForm sodiumHost sodiumOwner
          (sodiumInput ["sodium", "fabric-api"])
          (applyWrites (fun _ => none) final.volumeWrites)
          final.profile := by
  constructor
  · rw [clientMods_both]
    intro mod member
    simp only [List.mem_cons, List.not_mem_nil, or_false] at member
    rcases member with rfl | rfl | rfl
    · exact ⟨resolvedFabricApi_documented false, absent_from_empty _⟩
    · exact ⟨resolvedSodium_documented, absent_from_empty _⟩
    · exact ⟨resolvedFabricApi_documented true, absent_from_empty _⟩
  · refine ⟨_, Prod.ext rfl rfl, ?_⟩
    intro forms
    have member : (optionalOf "fabric-api", resolvedFabricApi true) ∈
        clientMods sodiumHost (sodiumInput ["sodium", "fabric-api"]) := by
      rw [clientMods_both]
      decide
    refine (forms.exactlyOne _ member).mp ?_ ?_
    · exact ⟨"fabric-api.jar", [2], by decide +kernel, rfl⟩
    · unfold ListedOptional
      decide +kernel

end GravitPanel.Mods
