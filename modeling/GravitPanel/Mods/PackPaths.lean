import GravitPanel.Agent.Filesystem
import GravitPanel.Mods.ModpackImport

/-!
# Pack paths on both sides

`safePackPath` of the panel and `validateLivePath` of the agent decide over the
same paths: an import asks the agent for the directories above each server path
of the pack and for the path itself.
-/

namespace GravitPanel.Mods

open FileTree Program Agent

def serverPaths
    (files : List PackFile) (overrides : List PackOverride) : List String :=
  (files.filter fun file => sideOf file.server ≠ "unsupported").map
      PackFile.path ++
    (overrides.filter fun override => override.side ≠ .client).map
      PackOverride.path

/-- The paths that `writeLiveServerFile` names in its requests. -/
def livePaths (path : String) : List String :=
  parentDirectories path ++ [path]

/-- What the agent demands of a pack path beyond `safePackPath`. -/
structure LiveNames (system : AgentSystem) (path : String) : Prop where
  bytes : path.utf8ByteSize ≤ 512
  clean : '\x00' ∉ path.toList
  depth : (pathSteps path).length ≤ 32
  visible : ∀ part ∈ pathSteps path, ¬ ['.'] <+: part.toList
  short : ∀ part ∈ pathSteps path, part.utf8ByteSize ≤ 255
  free : ∀ first ∈ (pathSteps path).head?,
    system.toLower first ∉ reservedLiveRoots

/-- Every request so far names a path that a server path of the pack leads
to. -/
def RequestsWithin (paths : List String) (state : ImportState) : Prop :=
  ∀ request ∈ state.requests, ∃ path ∈ paths, request.path ∈ livePaths path

section Requests

variable {paths : List String} {host : ImportHost}

theorem requestFilesystem_within
    {request : LiveRequest} {path : String} (served : path ∈ paths)
    (named : request.path ∈ livePaths path) :
    Keeps (RequestsWithin paths) (requestFilesystem host request) := by
  refine keeps_get.bind fun state => ?_
  refine Keeps.bind (keeps_update fun reached holds => ?_)
    fun _ => keeps_lift _
  intro other member
  rcases List.mem_append.mp member with earlier | latest
  · exact holds other earlier
  · rw [List.mem_singleton.mp latest]
    exact ⟨path, served, named⟩

theorem writeLiveServerFile_within
    {path : String} (bytes : List UInt8) (bindingId : String)
    (served : path ∈ paths) :
    Keeps (RequestsWithin paths)
      (writeLiveServerFile host path bytes bindingId) := by
  refine Keeps.lift_bind fun _ => ?_
  refine Keeps.bind (keeps_forEach fun directory member => ?_) fun _ => ?_
  · have named : directory ∈ livePaths path :=
      List.mem_append_left _ member
    exact Keeps.handle
      (@requestFilesystem_within paths host (.list bindingId directory)
        path served named) fun _ =>
      @requestFilesystem_within paths host (.mkdir bindingId directory)
        path served named
  · exact requestFilesystem_within served
      (List.mem_append_right _ (List.mem_singleton.mpr rfl))

theorem writeToServers_within
    {path : String} (bindings : List String) (bytes : List UInt8)
    (served : path ∈ paths) :
    Keeps (RequestsWithin paths)
      (writeToServers host bindings path bytes) :=
  keeps_forEach fun bindingId _ =>
    writeLiveServerFile_within bytes bindingId served

theorem writeVolumeFile_within (path : String) (bytes : List UInt8) :
    Keeps (RequestsWithin paths) (writeVolumeFile host path bytes) :=
  Keeps.lift_bind fun _ => keeps_update fun _ holds => holds

theorem applyToClient_within
    (pack : ResolvedModrinthPack) (file : PackFile)
    (selection : PackSelection) (bytes : List UInt8) :
    Keeps (RequestsWithin paths)
      (applyToClient host pack file selection bytes) := by
  unfold applyToClient
  cases selection.clientMode with
  | required => exact writeVolumeFile_within _ _
  | optional =>
      refine (writeVolumeFile_within _ _).bind fun _ => ?_
      exact keeps_update fun _ holds => holds
  | none => exact keeps_pure _

theorem applyFile_within
    {pack : ResolvedModrinthPack} {file : PackFile}
    (input : ModpackImportInput) (bindings : List String)
    (member : file ∈ pack.files) :
    Keeps (RequestsWithin (serverPaths pack.files pack.overrides))
      (applyFile host input pack bindings file) := by
  unfold applyFile
  cases selectionOf input file.path with
  | none => exact keeps_throw _
  | some selection =>
      cases checked : checkSides file selection with
      | error problem =>
          simp only [checked]
          intro state holds
          exact holds
      | ok _ =>
          obtain ⟨_, _, sides⟩ := checked_of_ok checked
          have supported := reject_eq_ok sides
          refine Keeps.lift_bind fun _ => ?_
          unfold installSelected
          split
          · exact keeps_pure _
          · refine Keeps.lift_bind fun bytes => ?_
            refine (applyToClient_within pack file selection bytes).bind
              fun _ => ?_
            cases install : selection.installOnServer with
            | false => exact keeps_pure _
            | true =>
                apply writeToServers_within
                apply List.mem_append_left
                rw [install, Bool.true_and, decide_eq_false_iff_not]
                  at supported
                exact List.mem_map.mpr ⟨file, List.mem_filter.mpr
                  ⟨member, decide_eq_true supported⟩, rfl⟩

theorem applyOverride_within
    {pack : ResolvedModrinthPack} {override : PackOverride}
    (bindings : List String) (member : override ∈ pack.overrides) :
    Keeps (RequestsWithin (serverPaths pack.files pack.overrides))
      (applyOverride host bindings override) := by
  unfold applyOverride
  refine Keeps.bind ?_ fun _ => ?_
  · split
    · exact writeVolumeFile_within _ _
    · exact keeps_pure _
  · split
    next served =>
      apply writeToServers_within
      apply List.mem_append_right
      exact List.mem_map.mpr ⟨override, List.mem_filter.mpr
        ⟨member, decide_eq_true served⟩, rfl⟩
    · exact keeps_pure _

/-- An import asks the agents only for its server paths and the directories
above them, however it ends. -/
theorem import_requests_within
    (host : ImportHost) (input : ModpackImportInput)
    (pack : ResolvedModrinthPack) :
    RequestsWithin (serverPaths pack.files pack.overrides)
      (applyResolvedModpack host input pack ImportState.empty).2 := by
  have keeps : Keeps
      (RequestsWithin (serverPaths pack.files pack.overrides))
      (applyResolvedModpack host input pack) := by
    refine Keeps.lift_bind fun _ => ?_
    refine Keeps.bind (keeps_forEach fun file member =>
      applyFile_within input _ member) fun _ => ?_
    exact keeps_forEach fun override member =>
      applyOverride_within _ member
  exact keeps.reached fun request member =>
    absurd member List.not_mem_nil

end Requests

theorem mem_directoriesFrom
    {above parts : Path} {directory : String}
    (slashFree : SlashFree (above ++ parts))
    (named : ∀ step ∈ above ++ parts, step ≠ "")
    (member : directory ∈ directoriesFrom (joinSteps above) parts) :
    ∃ beginning, beginning ≠ [] ∧ beginning <+: above ++ parts ∧
      directory = joinSteps beginning := by
  induction parts generalizing above with
  | nil => exact absurd member List.not_mem_nil
  | cons part rest ih =>
      have next :
          (if joinSteps above = "" then part
            else joinSteps above ++ "/" ++ part) =
          joinSteps (above ++ [part]) := by
        rcases List.eq_nil_or_concat above with rfl | ⟨_, _, shape⟩
        · have root : joinSteps [] = "" := rfl
          rw [if_pos root, List.nil_append]
          exact (String.intercalate_singleton).symm
        · have some : above ≠ [] := by
            rw [shape, List.concat_eq_append]
            exact List.append_ne_nil_of_right_ne_nil _ (List.cons_ne_nil _ _)
          have visible := joinSteps_ne_empty some
            (fun step inside => slashFree step
              (List.mem_append_left _ inside))
            (fun step inside => named step (List.mem_append_left _ inside))
          rw [if_neg visible, joinSteps_append some (List.cons_ne_nil _ _)]
          exact congrArg _ (String.intercalate_singleton).symm
      have whole : above ++ part :: rest = (above ++ [part]) ++ rest :=
        (List.append_cons above part rest)
      rw [directoriesFrom, next] at member
      rcases List.mem_cons.mp member with rfl | later
      · refine ⟨above ++ [part],
          List.append_ne_nil_of_right_ne_nil _ (List.cons_ne_nil _ _), ?_,
          rfl⟩
        rw [whole]
        exact List.prefix_append _ _
      · rw [whole] at slashFree named ⊢
        exact ih slashFree named later

/-- What `safePackPath` and every directory above a safe path have in
common. -/
structure PlainPath (path : String) : Prop where
  nonempty : path ≠ ""
  relative : ¬ ['/'] <+: path.toList
  forward : '\\' ∉ path.toList
  named : ∀ part ∈ pathSteps path, part ≠ "" ∧ part ≠ "." ∧ part ≠ ".."

theorem plain_of_safe {path : String} (safe : safePackPath path) :
    PlainPath path := by
  refine ⟨?_, ?_, ?_, named_of_safe safe⟩
  all_goals
    unfold safePackPath at safe
    simp only [Bool.and_eq_true, decide_eq_true_eq, Bool.not_eq_true']
      at safe
  · exact safe.1.1.1.1
  · intro rooted
    have refused := safe.1.1.2
    rw [List.isPrefixOf_iff_prefix.mpr rooted] at refused
    cases refused
  · intro member
    have refused := safe.1.1.1.2
    rw [List.contains_iff_mem.mpr member] at refused
    cases refused

theorem livePath_beginning
    {path live : String} (plain : PlainPath path)
    (member : live ∈ livePaths path) :
    ∃ beginning, beginning ≠ [] ∧ beginning <+: pathSteps path ∧
      live = joinSteps beginning := by
  have split : pathSteps path ≠ [] := by
    simp [pathSteps, List.splitOn_ne_nil]
  rcases List.mem_append.mp member with parent | whole
  · have below : (pathSteps path).dropLast <+: pathSteps path :=
      List.dropLast_prefix _
    have inside := @mem_directoriesFrom [] (pathSteps path).dropLast live
      (fun step there => slashFree_pathSteps path step (below.subset there))
      (fun step there => (plain.named step (below.subset there)).1)
      parent
    obtain ⟨beginning, some, start, shape⟩ := inside
    exact ⟨beginning, some, start.trans below, shape⟩
  · refine ⟨pathSteps path, split, List.prefix_rfl, ?_⟩
    rw [joinSteps_pathSteps]
    exact List.mem_singleton.mp whole

theorem text_of_beginning
    {path : String} {beginning : Path}
    (some : beginning ≠ []) (start : beginning <+: pathSteps path) :
    ∃ rest, path = joinSteps beginning ++ rest := by
  obtain ⟨others, whole⟩ := start
  have text : joinSteps (beginning ++ others) = path := by
    rw [whole, joinSteps_pathSteps]
  cases others with
  | nil =>
      rw [List.append_nil] at text
      exact ⟨"", by rw [text, String.append_empty]⟩
  | cons other others =>
      rw [joinSteps_append some (List.cons_ne_nil _ _),
        String.append_assoc] at text
      exact ⟨_, text.symm⟩

section Beginnings

variable {system : AgentSystem} {path : String} {beginning : Path}

theorem pathSteps_beginning
    (some : beginning ≠ []) (start : beginning <+: pathSteps path) :
    pathSteps (joinSteps beginning) = beginning :=
  pathSteps_joinSteps some fun step inside =>
    slashFree_pathSteps path step (start.subset inside)

theorem plain_beginning
    (plain : PlainPath path) (some : beginning ≠ [])
    (start : beginning <+: pathSteps path) :
    PlainPath (joinSteps beginning) := by
  have parts := pathSteps_beginning some start
  have named : ∀ part ∈ beginning,
      part ≠ "" ∧ part ≠ "." ∧ part ≠ ".." :=
    fun part inside => plain.named part (start.subset inside)
  obtain ⟨rest, text⟩ := text_of_beginning some start
  have characters : path.toList =
      (joinSteps beginning).toList ++ rest.toList := by
    rw [text]
    exact String.toList_append
  refine ⟨?_, ?_, ?_, ?_⟩
  · exact joinSteps_ne_empty some
      (fun step inside => slashFree_pathSteps path step
        (start.subset inside)) fun step inside => (named step inside).1
  · intro rooted
    apply plain.relative
    rw [characters]
    exact rooted.trans (List.prefix_append _ _)
  · intro backslash
    apply plain.forward
    rw [characters]
    exact List.mem_append_left _ backslash
  · rw [parts]
    exact named

theorem liveNames_beginning
    (names : LiveNames system path) (some : beginning ≠ [])
    (start : beginning <+: pathSteps path) :
    LiveNames system (joinSteps beginning) := by
  have parts := pathSteps_beginning some start
  obtain ⟨rest, text⟩ := text_of_beginning some start
  refine ⟨?_, ?_, ?_, ?_, ?_, ?_⟩
  · have bytes := names.bytes
    rw [text, String.utf8ByteSize_append] at bytes
    omega
  · intro zero
    apply names.clean
    rw [text, String.toList_append]
    exact List.mem_append_left _ zero
  · rw [parts]
    exact le_trans start.length_le names.depth
  · rw [parts]
    exact fun part inside => names.visible part (start.subset inside)
  · rw [parts]
    exact fun part inside => names.short part (start.subset inside)
  · rw [parts]
    intro first inside
    apply names.free first
    cases beginning with
    | nil => exact absurd rfl some
    | cons head tail =>
        obtain ⟨others, whole⟩ := start
        rw [← whole]
        exact inside

end Beginnings

/-- The agent accepts a plain path exactly when it meets its further
demands. -/
theorem validateLivePath_iff
    {system : AgentSystem} {path : String} {allowRoot : Bool}
    (plain : PlainPath path) :
    validateLivePath system path allowRoot = .ok ⟨⟩ ↔
      LiveNames system path := by
  have part : ∀ index name, (name, index) ∈ (pathSteps path).zipIdx →
      (invalidPart system index name = none ↔
        (¬ ['.'] <+: name.toList ∧ name.utf8ByteSize ≤ 255) ∧
          (index = 0 → system.toLower name ∉ reservedLiveRoots)) := by
    intro index name member
    have named := plain.named name (List.fst_mem_of_mem_zipIdx member)
    unfold invalidPart
    simp only [named.1, named.2.1, named.2.2, false_or]
    split
    next refused =>
      simp only [reduceCtorEq, false_iff]
      rintro ⟨⟨visible, short⟩, -⟩
      rcases refused with hidden | long
      · exact visible hidden
      · omega
    next free =>
      rw [not_or, Nat.not_lt] at free
      split
      next reserved =>
        simp only [reduceCtorEq, false_iff]
        rintro ⟨-, unreserved⟩
        exact unreserved reserved.1 reserved.2
      next unreserved =>
        simp only [true_iff]
        exact ⟨free, fun first reserved => unreserved ⟨first, reserved⟩⟩
  unfold validateLivePath
  rw [if_neg fun empty => plain.nonempty empty.1]
  constructor
  · intro accepted
    split at accepted
    · cases accepted
    next shape =>
      split at accepted
      · cases accepted
      next depth =>
        split at accepted
        · cases accepted
        next checked =>
          rw [List.findSome?_eq_none_iff] at checked
          have each := fun index name member =>
            (part index name member).mp (checked (name, index) member)
          simp only [not_or] at shape
          refine ⟨Nat.not_lt.mp shape.2.1, shape.2.2.2.2,
            Nat.not_lt.mp depth, ?_, ?_, ?_⟩
          · intro name member
            obtain ⟨index, here⟩ := List.mem_iff_getElem?.mp member
            exact (each index name
              (List.mk_mem_zipIdx_iff_getElem?.mpr here)).1.1
          · intro name member
            obtain ⟨index, here⟩ := List.mem_iff_getElem?.mp member
            exact (each index name
              (List.mk_mem_zipIdx_iff_getElem?.mpr here)).1.2
          · intro first member
            rw [List.head?_eq_getElem?] at member
            exact (each 0 first
              (List.mk_mem_zipIdx_iff_getElem?.mpr member)).2 rfl
  · intro names
    have shape : ¬ (path = "" ∨ 512 < path.utf8ByteSize ∨
        ['/'] <+: path.toList ∨ '\\' ∈ path.toList ∨
          '\x00' ∈ path.toList) := by
      have bytes := names.bytes
      rintro (empty | long | rooted | backslash | zero)
      · exact plain.nonempty empty
      · omega
      · exact plain.relative rooted
      · exact plain.forward backslash
      · exact names.clean zero
    have checked : ((pathSteps path).zipIdx.findSome? fun part =>
        invalidPart system part.2 part.1) = none := by
      rw [List.findSome?_eq_none_iff]
      rintro ⟨name, index⟩ member
      have here := List.mk_mem_zipIdx_iff_getElem?.mp member
      have inside := List.mem_of_getElem? here
      refine (part index name member).mpr
        ⟨⟨names.visible name inside, names.short name inside⟩, ?_⟩
      rintro rfl
      exact names.free name (by rwa [List.head?_eq_getElem?])
    rw [if_neg shape, if_neg (Nat.not_lt.mpr names.depth), checked]

/-- The agent accepts what an import asks it for, for every server path of an
accepted archive, exactly when each of these paths meets its demands. -/
theorem server_paths_accepted_iff
    (system : AgentSystem) (archive : PackArchive)
    (includeOverrides : Bool) (pack : ParsedModrinthPack)
    (accepted : readModpackArchive archive includeOverrides = .ok pack) :
    (∀ path ∈ serverPaths pack.files pack.overrides,
      ∀ live ∈ livePaths path, ∀ allowRoot,
        validateLivePath system live allowRoot = .ok ⟨⟩) ↔
      ∀ path ∈ serverPaths pack.files pack.overrides,
        LiveNames system path := by
  have safe := readModpackArchive_safe accepted
  have plain : ∀ path ∈ serverPaths pack.files pack.overrides,
      PlainPath path := by
    intro path member
    apply plain_of_safe
    rcases List.mem_append.mp member with file | override
    · obtain ⟨chosen, kept, rfl⟩ := List.mem_map.mp file
      exact safe.files chosen (List.mem_filter.mp kept).1
    · obtain ⟨chosen, kept, rfl⟩ := List.mem_map.mp override
      exact safe.overrides chosen (List.mem_filter.mp kept).1
  constructor
  · intro all path member
    have whole : path ∈ livePaths path :=
      List.mem_append_right _ (List.mem_singleton.mpr rfl)
    exact (validateLivePath_iff (plain path member)).mp
      (all path member path whole false)
  · intro names path member live inside allowRoot
    obtain ⟨beginning, some, start, rfl⟩ :=
      livePath_beginning (plain path member) inside
    exact (validateLivePath_iff
      (plain_beginning (plain path member) some start)).mpr
        (liveNames_beginning (names path member) some start)

/-- A host agent whose library is the one of Lean. -/
def plainSystem : AgentSystem where
  toLower := String.toLower
  decode := fun _ => none
  encode := fun _ => ""
  sha256 := fun _ => ""
  trimSpace := fun _ => ""

def overrideArchive (path : String) : PackArchive where
  listing := .ok ("modrinth.index.json\noverrides/" ++ path ++ "\n")
  sizes := .ok [("modrinth.index.json", 120), ("overrides/" ++ path, 5)]
  read := fun _ => .ok [104, 101, 108, 108, 111]
  parse := fun _ => .ok
    { formatVersion := some 1
      game := some "minecraft"
      name := some "Pack"
      versionId := some "1"
      summary := none
      files := some []
      dependencies := some [("minecraft", "1.21.1")] }

def overridePack (path : String) : ParsedModrinthPack where
  index :=
    { formatVersion := some 1
      game := some "minecraft"
      name := some "Pack"
      versionId := some "1"
      summary := none
      files := some []
      dependencies := some [("minecraft", "1.21.1")] }
  files := []
  dependencies := [("minecraft", "1.21.1")]
  overrides := [⟨.common, path, [104, 101, 108, 108, 111]⟩]

theorem server_paths_accepted_options :
    (∀ path ∈ serverPaths (overridePack "config/options.txt").files
        (overridePack "config/options.txt").overrides,
      ∀ live ∈ livePaths path, ∀ allowRoot,
        validateLivePath plainSystem live allowRoot = .ok ⟨⟩) ↔
      ∀ path ∈ serverPaths (overridePack "config/options.txt").files
          (overridePack "config/options.txt").overrides,
        LiveNames plainSystem path :=
  server_paths_accepted_iff plainSystem
    (overrideArchive "config/options.txt") true
    (overridePack "config/options.txt") (by decide +kernel)

/-- The panel accepts an override in a hidden directory, and the agent refuses
the directory. -/
theorem hidden_override_refused_by_agent :
    readModpackArchive (overrideArchive "mods/.index/sodium.toml") true =
        .ok (overridePack "mods/.index/sodium.toml") ∧
      "mods/.index/sodium.toml" ∈
        serverPaths (overridePack "mods/.index/sodium.toml").files
          (overridePack "mods/.index/sodium.toml").overrides ∧
      livePaths "mods/.index/sodium.toml" =
        ["mods", "mods/.index", "mods/.index/sodium.toml"] ∧
      validateLivePath plainSystem "mods" true = .ok ⟨⟩ ∧
      validateLivePath plainSystem "mods/.index" true =
        .error "invalid path component" ∧
      validateLivePath plainSystem "mods/.index" false =
        .error "invalid path component" := by
  decide +kernel

end GravitPanel.Mods
