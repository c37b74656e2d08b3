import GravitPanel.Agent.Filesystem
import GravitPanel.Core.Execution

/-!
# Requests stay inside the root

Every request changes only what its paths name below the root, and the trash.
A path is checked component by component and the trash is not, so the second
part needs a trash that no link leads away from.
-/

namespace GravitPanel.Agent

open GravitPanel.Execution
open Program FileTree

structure FilesystemCall where
  conditions : FilesystemConditions
  request : FilesystemRequest

/-- A request with its outcome and the trees around it. -/
structure FilesystemEffect where
  before : Node
  request : FilesystemRequest
  outcome : Except String FilesystemResult
  after : Node

def filesystemStep
    (system : AgentSystem) (root : Path) (tree : Node)
    (call : FilesystemCall) : Option (Node × List FilesystemEffect) :=
  let ended := executeFilesystem system call.conditions root call.request tree
  some (ended.2, [⟨tree, call.request, ended.1, ended.2⟩])

def FilesystemRequest.deletes (request : FilesystemRequest) : Bool :=
  request.operation = "delete" && request.confirm &&
    !request.paths.isEmpty && request.paths.length ≤ 100

/-- Neither the directory of the panel nor the trash in it is a link that leads
to a directory. -/
def TrashUnlinked
    (root : Path) (tree : Node) (call : FilesystemCall) : Prop :=
  call.request.deletes = true →
    ∀ path ∈ [root ++ [".gravit-panel"], trashPath root],
      ∀ kind ∈ entry path tree, kind.isLink = true →
        stat path tree ≠ some .directory

instance (root : Path) (tree : Node) (call : FilesystemCall) :
    Decidable (TrashUnlinked root tree call) := by
  unfold TrashUnlinked
  infer_instance

/-- Components that are not hidden, the first of which is not reserved. -/
structure Visible (system : AgentSystem) (parts : Path) : Prop where
  shown : ∀ part ∈ parts, ¬ ['.'] <+: part.toList
  unreserved : ∀ first ∈ parts.head?,
    system.toLower first ∉ reservedLiveRoots

/-- The paths whose entries an operation creates, replaces, moves or
removes. -/
def FilesystemRequest.changed (request : FilesystemRequest) : List String :=
  match request.operation with
  | "write" => [request.path]
  | "mkdir" => [request.path]
  | "move" => [request.sourcePath, request.destinationPath]
  | "delete" => request.paths
  | _ => []

/-- A place at or below the entry that a path names. -/
def Names
    (system : AgentSystem) (root : Path) (value : String) (place : Path) :
    Prop :=
  liveParts value ≠ [] ∧ Visible system (liveParts value) ∧
    livePath root value <+: place

/-- A place that a request may change. -/
def Reaches
    (system : AgentSystem) (root : Path) (request : FilesystemRequest)
    (place : Path) : Prop :=
  (∃ value ∈ request.changed, Names system root value place) ∨
  (request.deletes = true ∧
    (trashPath root <+: place ∨ place = root ++ [".gravit-panel"]))

/-- What a result shows of the tree: entries at visible paths. -/
def Shows (system : AgentSystem) (root : Path) (tree : Node) :
    FilesystemResult → Prop
  | .listing path entries =>
      ∀ item ∈ entries, ∃ name kind,
        item.path = (if path = "" then name else path ++ "/" ++ name) ∧
          Visible system (liveParts path ++ [name]) ∧
            entry (livePath root path ++ [name]) tree = some kind ∧
              (kind = .directory ∧ item.type = .directory ∧
                  item.size = none ∨
                ∃ bytes, kind = .file bytes ∧ item.type = .file ∧
                  item.size = some bytes.length)
  | .content path data size sha256 =>
      Visible system (liveParts path) ∧ ∃ bytes,
        entry (livePath root path) tree = some (.file bytes) ∧
          data = system.encode bytes ∧ size = bytes.length ∧
            sha256 = system.sha256 bytes
  | .paths _ => True

/-- A request changes what it reaches, and its result shows visible entries. -/
structure Confined
    (system : AgentSystem) (root : Path) (effect : FilesystemEffect) :
    Prop where
  changes : ∀ place, entry place effect.after ≠ entry place effect.before →
    Reaches system root effect.request place
  shows : ∀ result, effect.outcome = .ok result →
    Shows system root effect.before result

/-- The root is the real path of a directory. -/
structure Rooted (root : Path) (tree : Node) : Prop where
  plain : Plain root
  directory : entry root tree = some .directory

section Paths

variable {system : AgentSystem} {root : Path} {value : String} {tree : Node}

theorem plain_liveParts (visible : Visible system (liveParts value)) :
    Plain (liveParts value) := by
  intro part member
  have shown := visible.shown part member
  have named := (List.mem_filter.mp member).2
  refine ⟨of_decide_eq_true named, ?_, ?_⟩
  · rintro rfl
    exact shown (by decide)
  · rintro rfl
    exact shown (by decide)

theorem rooted_of_initialized {binding : LiveBinding}
    (initialized : initializeFilesystemRoot system binding tree =
      .ok (some root)) :
    Rooted root tree := by
  unfold initializeFilesystemRoot at initialized
  split at initialized
  · cases initialized
  · split at initialized
    · cases initialized
    · next reached found =>
        obtain ⟨plain, linkFree⟩ := realPath_plain found
        by_cases directory : stat reached tree = some .directory
        · rw [if_neg (not_not.mpr directory)] at initialized
          have same : reached = root := by
            split at initialized
            · cases initialized
            · split at initialized
              · cases initialized
              · cases initialized
                rfl
          subst same
          exact ⟨plain, stat_of_linkFree plain linkFree directory⟩
        · rw [if_pos directory] at initialized
          cases initialized

theorem invalidPart_none {index : Nat} {part : String}
    (checked : invalidPart system index part = none) :
    (part ≠ "" ∧ ¬ ['.'] <+: part.toList) ∧
      (index = 0 → system.toLower part ∉ reservedLiveRoots) := by
  unfold invalidPart at checked
  split at checked
  · cases checked
  · next named =>
      split at checked
      · cases checked
      · next free =>
          push Not at named free
          exact ⟨⟨named.1, named.2.2.2.1⟩, free⟩

theorem named_of_valid {allowRoot : Bool}
    (named : ¬ (value = "" ∧ allowRoot = true))
    (valid : validateLivePath system value allowRoot = .ok ⟨⟩)
    {index : Nat} {part : String}
    (here : (pathSteps value)[index]? = some part) :
    (part ≠ "" ∧ ¬ ['.'] <+: part.toList) ∧
      (index = 0 → system.toLower part ∉ reservedLiveRoots) := by
  unfold validateLivePath at valid
  rw [if_neg named] at valid
  split at valid
  · cases valid
  · split at valid
    · cases valid
    · split at valid
      · cases valid
      · next checked =>
          rw [List.findSome?_eq_none_iff] at checked
          exact invalidPart_none (checked (part, index)
            (List.mk_mem_zipIdx_iff_getElem?.mpr here))

theorem liveParts_of_named {allowRoot : Bool}
    (named : ¬ (value = "" ∧ allowRoot = true))
    (valid : validateLivePath system value allowRoot = .ok ⟨⟩) :
    liveParts value = pathSteps value := by
  unfold liveParts
  rw [List.filter_eq_self]
  intro name member
  obtain ⟨index, here⟩ := List.mem_iff_getElem?.mp member
  exact decide_eq_true (named_of_valid named valid here).1.1

theorem liveParts_of_valid
    (valid : validateLivePath system value false = .ok ⟨⟩) :
    liveParts value = pathSteps value :=
  liveParts_of_named (fun both => Bool.false_ne_true both.2) valid

theorem visible_of_valid {allowRoot : Bool}
    (valid : validateLivePath system value allowRoot = .ok ⟨⟩) :
    Visible system (liveParts value) ∧
      (allowRoot = false ∨ value ≠ "" → liveParts value ≠ []) := by
  by_cases empty : value = "" ∧ allowRoot = true
  · obtain ⟨rfl, allowed⟩ := empty
    have none : liveParts "" = [] := by decide
    rw [none]
    refine ⟨⟨fun _ member => absurd member List.not_mem_nil,
      fun _ member => by cases member⟩, ?_⟩
    rintro (refused | named)
    · cases allowed.symm.trans refused
    · exact absurd rfl named
  · rw [liveParts_of_named empty valid]
    refine ⟨⟨?_, ?_⟩, fun _ => ?_⟩
    · intro name member
      obtain ⟨index, here⟩ := List.mem_iff_getElem?.mp member
      exact (named_of_valid empty valid here).1.2
    · intro first head
      rw [List.head?_eq_getElem?] at head
      exact (named_of_valid empty valid head).2 rfl
    · unfold pathSteps
      exact List.map_eq_nil_iff.not.mpr (List.splitOn_ne_nil _ _)

theorem linkFree_of_inspected {current parts : Path}
    (plain : Plain current) (here : entry current tree = some .directory)
    (named : Plain (parts.filter (· ≠ "")))
    (inspected : inspectParts tree current parts = .ok ⟨⟩) :
    LinkFree tree current (parts.filter (· ≠ "")) := by
  induction parts generalizing current with
  | nil => trivial
  | cons part rest ih =>
      unfold inspectParts at inspected
      by_cases empty : part = ""
      · rw [if_pos empty] at inspected
        rw [List.filter_cons_of_neg (by simpa using empty)] at named ⊢
        exact ih plain here named inspected
      · rw [if_neg empty] at inspected
        rw [List.filter_cons_of_pos (by simpa using empty)] at named ⊢
        have longer : Plain (current ++ [part]) := by
          intro name member
          rcases List.mem_append.mp member with before | added
          · exact plain name before
          · cases List.mem_singleton.mp added
            exact named part List.mem_cons_self
        have others : Plain (rest.filter (· ≠ "")) := fun name member =>
          named name (List.mem_cons_of_mem part member)
        rw [lstat_of_directory part plain here] at inspected
        cases found : entry (current ++ [part]) tree with
        | none =>
            refine ⟨?_, linkFree_of_absent found _⟩
            intro kind present
            cases found.symm.trans present
        | some kind =>
            rw [found] at inspected
            dsimp only at inspected
            by_cases link : kind.isLink = true
            · rw [if_pos link] at inspected
              cases inspected
            · rw [if_neg link] at inspected
              have noLink : kind.isLink = false := by simpa using link
              refine ⟨fun other present => ?_, ?_⟩
              · cases found.symm.trans present
                exact noLink
              · by_cases last : rest = []
                · rw [last]
                  trivial
                · by_cases directory : kind = .directory
                  · rw [if_neg (fun both => both.2 directory)] at inspected
                    rw [directory] at found
                    exact ih longer found others inspected
                  · rw [if_pos ⟨last, directory⟩] at inspected
                    cases inspected

/-- What a checked path is. -/
structure Safe
    (system : AgentSystem) (root : Path) (value : String) (tree : Node) :
    Prop where
  visible : Visible system (liveParts value)
  plain : Plain (livePath root value)
  linkFree : LinkFree tree [] (livePath root value)

theorem safeLivePath_cases (allowRoot : Bool) (rooted : Rooted root tree) :
    (∃ problem, safeLivePath system root value allowRoot tree =
      (.error problem, tree)) ∨
    safeLivePath system root value allowRoot tree =
        (.ok (livePath root value), tree) ∧
      Safe system root value tree ∧
        (allowRoot = false ∨ value ≠ "" → liveParts value ≠ []) := by
  unfold safeLivePath
  rw [bind_of_ok (get_apply tree), lift_bind]
  cases valid : validateLivePath system value allowRoot with
  | error problem => exact .inl ⟨problem, rfl⟩
  | ok _ =>
      dsimp only
      rw [lift_bind]
      cases inspected : inspectParts tree root (pathSteps value) with
      | error problem => exact .inl ⟨problem, rfl⟩
      | ok _ =>
          obtain ⟨visible, named⟩ := visible_of_valid valid
          refine .inr ⟨rfl, ⟨visible, ?_, ?_⟩, named⟩
          · intro name member
            rcases List.mem_append.mp member with before | after
            · exact rooted.plain name before
            · exact plain_liveParts visible name after
          · exact linkFree_append.mpr
              ⟨linkFree_of_entry rooted.directory rfl,
                linkFree_of_inspected rooted.plain rooted.directory
                  (plain_liveParts visible) inspected⟩

theorem livePath_shape (named : liveParts value ≠ []) :
    ∃ above leaf, livePath root value = (root ++ above) ++ [leaf] ∧
      liveParts value = above ++ [leaf] := by
  rcases List.eq_nil_or_concat (liveParts value) with
    empty | ⟨above, leaf, same⟩
  · exact absurd empty named
  · refine ⟨above, leaf, ?_, by simpa using same⟩
    unfold livePath
    rw [same, List.concat_eq_append, List.append_assoc]

theorem locate_livePath {place : Path}
    (safe : Safe system root value tree) (named : liveParts value ≠ [])
    (found : locate (livePath root value) tree = some place) :
    place = livePath root value := by
  obtain ⟨above, leaf, shape, _⟩ := @livePath_shape root value named
  have plain := safe.plain
  have linkFree := safe.linkFree
  rw [shape] at found plain linkFree ⊢
  exact (locate_of_linkFree
    (fun name member => plain name (List.mem_append_left _ member))
    (linkFree_append.mp linkFree).1 found).1

end Paths

section Operations

variable {system : AgentSystem} {conditions : FilesystemConditions}
variable {root : Path} {request : FilesystemRequest} {tree : Node}
variable {other : Path} {permits : Path → Bool}

theorem list_after (rooted : Rooted root tree) :
    (list system root request tree).2 = tree := by
  unfold list
  rcases @safeLivePath_cases system root request.path tree true rooted with
    ⟨problem, refused⟩ | ⟨checked, _⟩
  · rw [bind_of_error refused]
  · rw [bind_of_ok checked]
    cases read : readDirectory (livePath root request.path) tree with
    | none => rw [bind_of_error (observe_of_none read)]
    | some items =>
        rw [bind_of_ok (observe_of_some read)]
        rfl

theorem regularFile_after (target : Path) (maxBytes : Int) :
    (regularFile target maxBytes tree).2 = tree := by
  unfold regularFile
  cases found : lstat target tree with
  | none => rw [bind_of_error (observe_of_none found)]
  | some kind =>
      rw [bind_of_ok (observe_of_some found)]
      cases kind with
      | link absolute steps => rfl
      | directory => rfl
      | file bytes =>
          dsimp only
          split
          · rfl
          · cases content : readFile target tree with
            | none => rw [observe_of_none content]
            | some bytes => rw [observe_of_some content]

theorem read_after (rooted : Rooted root tree) :
    (read system root request tree).2 = tree := by
  unfold read
  rcases @safeLivePath_cases system root request.path tree false rooted with
    ⟨problem, refused⟩ | ⟨checked, _⟩
  · rw [bind_of_error refused]
  · rw [bind_of_ok checked]
    have same := @regularFile_after tree (livePath root request.path)
      (limitBytes maxLiveTextBytes request)
    cases ended : regularFile (livePath root request.path)
        (limitBytes maxLiveTextBytes request) tree with
    | mk outcome reached =>
        rw [ended] at same
        cases outcome with
        | error problem =>
            rw [bind_of_error ended]
            exact same
        | ok bytes =>
            rw [bind_of_ok ended]
            exact same

theorem mkdir_frame (rooted : Rooted root tree)
    (apart : ¬ Names system root request.path other) :
    entry other (mkdir system conditions root request tree).2 =
      entry other tree := by
  unfold mkdir
  rcases @safeLivePath_cases system root request.path tree false rooted with
    ⟨problem, refused⟩ | ⟨checked, safe, named⟩
  · rw [bind_of_error refused]
  · rw [bind_of_ok checked]
    cases made : permit (conditions.makes (livePath root request.path))
        (add (.directory []) (livePath root request.path)) tree with
    | none => rw [bind_of_error (attempt_of_none made)]
    | some next =>
        rw [bind_of_ok (attempt_of_some made)]
        have added := (permit_eq_some.mp made).2
        obtain ⟨place, found, _, stored⟩ := add_eq_some added
        have same := locate_livePath safe (named (.inl rfl)) found
        subst same
        show entry other next = entry other tree
        rw [stored]
        exact entry_store _ found fun below =>
          apart ⟨named (.inl rfl), safe.visible, below⟩

theorem move_frame (rooted : Rooted root tree)
    (apart : ¬ Names system root request.sourcePath other)
    (besides : ¬ Names system root request.destinationPath other) :
    entry other (move system conditions root request tree).2 =
      entry other tree := by
  unfold move
  rcases @safeLivePath_cases system root request.sourcePath tree false
      rooted with ⟨problem, refused⟩ | ⟨checked, safe, named⟩
  · rw [bind_of_error refused]
  · rw [bind_of_ok checked]
    rcases @safeLivePath_cases system root request.destinationPath tree false
        rooted with ⟨problem, refused⟩ | ⟨checked, safeToo, namedToo⟩
    · rw [bind_of_error refused]
    · rw [bind_of_ok checked, bind_of_ok (get_apply tree), lift_bind]
      cases moveChecks (livePath root request.sourcePath)
          (livePath root request.destinationPath) tree with
      | error problem => rfl
      | ok _ =>
          dsimp only
          rw [bind_pure_reached]
          cases moved : osRename (conditions.renames 0)
              (livePath root request.sourcePath)
              (livePath root request.destinationPath) tree with
          | none => rw [attempt_of_none moved]
          | some next =>
              rw [attempt_of_some moved]
              show entry other next = entry other tree
              have renamed := (osRename_eq_some.mp moved).2.2
              obtain ⟨origin, place, fromHere, toHere, rfl | moved⟩ :=
                rename_eq_some renamed
              · rfl
              · obtain ⟨node, _, _, _, _, stored⟩ := moved
                have same := locate_livePath safe (named (.inl rfl)) fromHere
                have sameToo :=
                  locate_livePath safeToo (namedToo (.inl rfl)) toHere
                subst same sameToo
                rw [stored]
                exact entry_rename fromHere toHere
                  (fun below => apart ⟨named (.inl rfl), safe.visible, below⟩)
                  (fun below =>
                    besides ⟨namedToo (.inl rfl), safeToo.visible, below⟩)

variable {result : FilesystemResult} {data : List UInt8} {next : Node}

theorem writeChecks_parent {target : Path}
    (checked : writeChecks system request target tree = .ok data) :
    lstat target.dropLast tree = some .directory := by
  unfold writeChecks at checked
  split at checked
  · cases checked
  · dsimp only at checked
    split at checked
    · cases checked
    · split at checked
      · cases checked
      · by_cases directory : lstat target.dropLast tree = some .directory
        · exact directory
        · rw [if_pos directory] at checked
          cases checked

theorem replaceFile_after (temp target : Path) :
    (replaceFile conditions temp target tree).2 = tree ∨
      rename temp target tree =
        some (replaceFile conditions temp target tree).2 := by
  unfold replaceFile
  cases conditions.writes with
  | false => exact .inl rfl
  | true =>
      cases conditions.modes with
      | false => exact .inl rfl
      | true =>
          let operation := osRename (conditions.renames 0) temp target
          show (attempt _ operation tree).2 = tree ∨
            _ = some (attempt _ operation tree).2
          cases moved : operation tree with
          | none =>
              rw [attempt_of_none moved]
              exact .inl rfl
          | some next =>
              rw [attempt_of_some moved]
              exact .inr (osRename_eq_some.mp moved).2.2

theorem unlink_added
    {path place : Path} {made : Node}
    (added : add (.file data) path tree = some made)
    (found : locate path tree = some place)
    (foundMade : locate path made = some place) :
    unlink path made = some (store none place made) := by
  have filled := entry_add_self added found []
  rw [List.append_nil] at filled
  obtain ⟨node, held, kind⟩ := entry_eq_some.mp filled
  unfold unlink
  rw [foundMade]
  dsimp only
  rw [held]
  cases node with
  | file bytes => rfl
  | link absolute steps => rfl
  | directory children => cases kind

/-- Filling a temporary file beside a target and putting it in the place of
the target changes nothing else. -/
theorem replaced_frame
    {above : Path} {temporary leaf : String}
    {made : Node}
    (plain : Plain above) (directory : entry above tree = some .directory)
    (added : add (.file data) (above ++ [temporary]) tree = some made)
    (apart : ¬ above ++ [leaf] <+: other) :
    entry other
        (((replaceFile conditions (above ++ [temporary])
          (above ++ [leaf])).cleanUp fun tree =>
            (unlink (above ++ [temporary]) tree).getD tree) made).2 =
      entry other tree := by
  have madeDirectory := add_keeps added directory
  have found := locate_of_directory temporary plain directory
  have foundMade := locate_of_directory temporary plain madeDirectory
  have foundTarget := locate_of_directory leaf plain madeDirectory
  have emptied : entry other (store none (above ++ [temporary]) made) =
      entry other tree := entry_added_removed added found foundMade
  have unlinked := unlink_added added found foundMade
  show entry other ((unlink (above ++ [temporary])
    (replaceFile conditions _ _ made).2).getD
      (replaceFile conditions _ _ made).2) = entry other tree
  rcases @replaceFile_after conditions made (above ++ [temporary])
      (above ++ [leaf]) with same | renamed
  · rw [same, unlinked]
    exact emptied
  · obtain ⟨origin, place, fromHere, toHere, same | moved⟩ :=
      rename_eq_some renamed
    · rw [same, unlinked]
      exact emptied
    · cases foundMade.symm.trans fromHere
      cases foundTarget.symm.trans toHere
      obtain ⟨node, _, _, outside, _, stored⟩ := moved
      have gone : entry (above ++ [temporary])
          (replaceFile conditions (above ++ [temporary])
            (above ++ [leaf]) made).2 = none := by
        rw [stored, entry_store_other _ outside]
        have removed := lookup_store none foundMade []
        rw [List.append_nil] at removed
        exact entry_eq_none.mpr removed
      have parent : entry above (replaceFile conditions
          (above ++ [temporary]) (above ++ [leaf]) made).2 =
            some .directory := by
        rw [stored, entry_rename fromHere toHere
          (not_concat_above above temporary) (not_concat_above above leaf)]
        exact madeDirectory
      have kept := unlink_absent plain parent gone
      rw [kept, Option.getD_none, stored, entry_store_other _ apart]
      exact emptied

theorem writeFile_frame
    {above : Path} {temporary leaf : String}
    (plain : Plain above) (directory : entry above tree = some .directory)
    (apart : ¬ above ++ [leaf] <+: other) :
    entry other (writeFile conditions data (above ++ [temporary])
      (above ++ [leaf]) tree).2 = entry other tree := by
  unfold writeFile
  cases conditions.creates with
  | false => rfl
  | true =>
      show entry other ((attempt "create temporary file"
        (add (.file data) (above ++ [temporary])) >>= fun _ =>
          (replaceFile conditions (above ++ [temporary])
            (above ++ [leaf])).cleanUp fun tree =>
              (unlink (above ++ [temporary]) tree).getD tree) tree).2 =
        entry other tree
      cases added : add (.file data) (above ++ [temporary]) tree with
      | none => rw [bind_of_error (attempt_of_none added)]
      | some made =>
          rw [bind_of_ok (attempt_of_some added)]
          exact replaced_frame plain directory added apart

theorem write_frame (rooted : Rooted root tree)
    (apart : ¬ Names system root request.path other) :
    entry other (write system conditions root request tree).2 =
      entry other tree := by
  unfold write
  rcases @safeLivePath_cases system root request.path tree false rooted with
    ⟨problem, refused⟩ | ⟨checked, safe, named⟩
  · rw [bind_of_error refused]
  · rw [bind_of_ok checked, bind_of_ok (get_apply tree), lift_bind]
    cases checks : writeChecks system request (livePath root request.path)
        tree with
    | error problem => rfl
    | ok data =>
        obtain ⟨above, leaf, shape, _⟩ :=
          @livePath_shape root request.path (named (.inl rfl))
        have plain := safe.plain
        have linkFree := safe.linkFree
        have parent := writeChecks_parent checks
        rw [shape] at plain linkFree
        rw [shape, List.dropLast_concat] at parent
        have abovePlain : Plain (root ++ above) := fun name member =>
          plain name (List.mem_append_left _ member)
        have directory := lstat_of_linkFree abovePlain
          (linkFree_append.mp linkFree).1 parent
        dsimp only
        rw [bind_pure_reached, shape, List.dropLast_concat]
        refine writeFile_frame abovePlain directory ?_
        rw [← shape]
        exact fun below => apart ⟨named (.inl rfl), safe.visible, below⟩

/-! ## Deletions -/

theorem not_names_root {value : String} : ¬ Names system root value root := by
  rintro ⟨named, _, below⟩
  have lengths := below.length_le
  unfold livePath at lengths
  rw [List.length_append] at lengths
  have positive := List.length_pos_iff.mpr named
  omega

theorem not_names_trash {value : String} :
    ¬ Names system root value (trashPath root) := by
  rintro ⟨named, visible, below⟩
  unfold livePath trashPath at below
  have parts := (List.prefix_append_right_inj root).mp below
  cases first : liveParts value with
  | nil => exact named first
  | cons part rest =>
      rw [first] at parts visible
      have hidden := (List.cons_prefix_cons.mp parts).1
      subst hidden
      exact visible.shown _ List.mem_cons_self (by decide)

theorem plain_trash (plain : Plain root) : Plain (trashPath root) := by
  intro step member
  rcases List.mem_append.mp member with before | after
  · exact plain step before
  · have steps : step = ".gravit-panel" ∨ step = "trash" := by
      simpa using after
    rcases steps with rfl | rfl <;> decide

theorem trashPath_eq (root : Path) :
    trashPath root = root ++ [".gravit-panel"] ++ ["trash"] :=
  List.append_cons root ".gravit-panel" ["trash"]

theorem trash_through (rooted : Rooted root tree) :
    makeDirectories permits tree [] (trashPath root) =
      makeDirectories permits tree root [".gravit-panel", "trash"] :=
  @makeDirectories_through tree permits [] root _ rooted.plain
    rooted.directory

theorem prepareTrash_cases (rooted : Rooted root tree)
    (unlinked : ∀ path ∈ [root ++ [".gravit-panel"], trashPath root],
      ∀ kind ∈ entry path tree, kind.isLink = true →
        stat path tree ≠ some .directory) :
    makeDirectories permits tree [] (trashPath root) = (false, tree) ∨
      LinkFree tree [] (trashPath root) := by
  have rootFree : LinkFree tree [] root :=
    linkFree_of_entry rooted.directory rfl
  have shape := trashPath_eq root
  have panelPlain : Plain (root ++ [".gravit-panel"]) := by
    intro step member
    have plain := plain_trash rooted.plain
    rw [shape] at plain
    exact plain step (List.mem_append_left _ member)
  cases trash : entry (trashPath root) tree with
  | some kind =>
      by_cases link : kind.isLink = true
      · apply Or.inl
        have above := trash
        rw [shape] at above
        have directory := entry_above above
        have further := @makeDirectories_through tree permits root
          [".gravit-panel"] ["trash"] panelPlain directory
        rw [trash_through rooted]
        refine further.trans (makeDirectories_stops [] panelPlain ?_ above ?_)
        · exact linkFree_of_entry directory rfl
        · rw [← shape]
          exact unlinked _ (by simp) kind trash link
      · exact .inr (linkFree_of_entry trash (by simpa using link))
  | none =>
      cases panel : entry (root ++ [".gravit-panel"]) tree with
      | some kind =>
          by_cases link : kind.isLink = true
          · apply Or.inl
            rw [trash_through rooted]
            exact makeDirectories_stops _ rooted.plain rootFree panel
              (unlinked _ (by simp) kind panel link)
          · apply Or.inr
            rw [shape] at trash ⊢
            refine linkFree_append.mpr
              ⟨linkFree_of_entry panel (by simpa using link), ?_, trivial⟩
            intro other here
            cases trash.symm.trans here
      | none =>
          apply Or.inr
          rw [shape, linkFree_append]
          refine ⟨linkFree_append.mpr ⟨rootFree, ?_, trivial⟩,
            linkFree_of_absent panel _⟩
          intro other here
          cases panel.symm.trans here

/-- During the deletions the root and the trash stay, and so does an entry
apart. -/
structure Deleting
    (root other : Path) (kept : Option Kind) (tree : Node) : Prop where
  rooted : Rooted root tree
  trash : entry (trashPath root) tree = some .directory
  same : entry other tree = kept

theorem keeps_deleteOne {kept : Option Kind} {item : String × Nat}
    (apart : ¬ Names system root item.1 other)
    (outside : ¬ trashPath root <+: other) :
    Keeps (Deleting root other kept)
      (deleteOne system conditions root item) := by
  have moved : ∀ tree, Deleting root other kept tree →
      Deleting root other kept
        (deleteOne system conditions root item tree).2 := by
    intro tree deleting
    unfold deleteOne
    rcases @safeLivePath_cases system root item.1 tree false
        deleting.rooted with ⟨problem, refused⟩ | ⟨checked, safe, named⟩
    · rw [bind_of_error refused]
      exact deleting
    · rw [bind_of_ok checked]
      generalize trashName conditions item.2 (livePath root item.1) = name
      cases permitted : osRename (conditions.renames item.2)
          (livePath root item.1) (trashPath root ++ [name]) tree with
      | none =>
          rw [attempt_of_none permitted]
          exact deleting
      | some next =>
          rw [attempt_of_some permitted]
          show Deleting root other kept next
          have renamed := (osRename_eq_some.mp permitted).2.2
          obtain ⟨origin, place, fromHere, toHere, rfl | relocated⟩ :=
            rename_eq_some renamed
          · exact deleting
          · obtain ⟨node, _, _, _, _, rfl⟩ := relocated
            have same := locate_livePath safe (named (.inl rfl)) fromHere
            have located := locate_of_directory name
              (plain_trash deleting.rooted.plain) deleting.trash
            cases located.symm.trans toHere
            subst same
            have frame : ∀ {place : Path},
                ¬ Names system root item.1 place →
                  ¬ trashPath root ++ [name] <+: place →
                    entry place (store (some node) (trashPath root ++ [name])
                      (store none (livePath root item.1) tree)) =
                      entry place tree :=
              fun unnamed besides => entry_rename fromHere toHere
                (fun below => unnamed ⟨named (.inl rfl), safe.visible, below⟩)
                besides
            have notRoot : ¬ trashPath root ++ [name] <+: root := by
              intro shorter
              have lengths := shorter.length_le
              unfold trashPath at lengths
              simp only [List.length_append] at lengths
              have positive : 0 < [name].length := Nat.one_pos
              omega
            refine ⟨⟨deleting.rooted.plain, ?_⟩, ?_, ?_⟩
            · rw [frame not_names_root notRoot]
              exact deleting.rooted.directory
            · rw [frame not_names_trash (not_concat_above _ _)]
              exact deleting.trash
            · rw [frame apart fun below =>
                outside ((List.prefix_append _ _).trans below)]
              exact deleting.same
  intro tree deleting
  have reached := moved tree deleting
  generalize deleteOne system conditions root item tree = ended at reached
  obtain ⟨outcome, next⟩ := ended
  cases outcome <;> exact reached

theorem trash_prepared {done : Bool}
    (rooted : Rooted root tree) (linkFree : LinkFree tree [] (trashPath root))
    (outside : ¬ trashPath root <+: other)
    (besides : other ≠ root ++ [".gravit-panel"])
    (made : makeDirectories permits tree [] (trashPath root) =
      (done, next)) :
    entry other next = entry other tree ∧
      (done = true → Deleting root other (entry other tree) next) := by
  have plain := plain_trash rooted.plain
  have own : ∀ steps, steps ≠ [] →
      steps <+: [".gravit-panel", "trash"] → other ≠ root ++ steps := by
    intro steps named shorter same
    cases steps with
    | nil => exact named rfl
    | cons first rest =>
        obtain ⟨rfl, later⟩ := List.cons_prefix_cons.mp shorter
        cases rest with
        | nil => exact besides same
        | cons second more =>
            obtain ⟨rfl, empty⟩ := List.cons_prefix_cons.mp later
            cases List.prefix_nil.mp empty
            exact outside (same ▸ List.prefix_refl _)
  rw [trash_through rooted] at made
  have same : entry other next = entry other tree := by
    have frame := @makeDirectories_other tree [".gravit-panel", "trash"] other
      permits root plain linkFree own
    rwa [made] at frame
  refine ⟨same, ?_⟩
  rintro rfl
  have kept := @makeDirectories_keeps tree [".gravit-panel", "trash"] root
    permits _ root rooted.directory
  rw [made] at kept
  exact ⟨⟨rooted.plain, kept⟩,
    makeDirectories_made plain linkFree rooted.directory made, same⟩

theorem delete_frame (rooted : Rooted root tree)
    (unlinked : ∀ path ∈ [root ++ [".gravit-panel"], trashPath root],
      ∀ kind ∈ entry path tree, kind.isLink = true →
        stat path tree ≠ some .directory)
    (apart : ∀ value ∈ request.paths, ¬ Names system root value other)
    (outside : ¬ trashPath root <+: other)
    (besides : other ≠ root ++ [".gravit-panel"]) :
    entry other (delete system conditions root request tree).2 =
      entry other tree := by
  unfold delete
  rw [lift_bind]
  cases deleteChecks request with
  | error problem => rfl
  | ok _ =>
      dsimp only
      rcases prepareTrash_cases rooted unlinked with failed | linkFree
      · rw [bind_of_error (ensureDirectories_of_failed failed)]
      · cases made : makeDirectories conditions.makes tree []
            (trashPath root) with
        | mk done next =>
            obtain ⟨same, deleting⟩ :=
              trash_prepared rooted linkFree outside besides made
            cases done with
            | false =>
                rw [bind_of_error (ensureDirectories_of_failed made)]
                exact same
            | true =>
                rw [bind_of_ok (ensureDirectories_of_made made),
                  bind_pure_reached]
                have all : Keeps (Deleting root other (entry other tree))
                    (forEach request.paths.zipIdx
                      (deleteOne system conditions root)) :=
                  keeps_forEach fun item member =>
                    keeps_deleteOne
                      (apart item.1 (List.fst_mem_of_mem_zipIdx member))
                      outside
                exact (all.reached (deleting rfl)).same

theorem delete_refused (operation : request.operation = "delete")
    (refused : request.deletes = false) :
    (delete system conditions root request tree).2 = tree := by
  unfold FilesystemRequest.deletes at refused
  rw [operation] at refused
  have guard : (!request.confirm || request.paths.isEmpty ||
      decide (100 < request.paths.length)) = true := by
    cases confirmed : request.confirm <;>
      cases empty : request.paths.isEmpty <;>
        simp_all
  unfold delete deleteChecks
  rw [lift_bind, if_pos guard]

theorem executeFilesystem_cases
    (system : AgentSystem) (conditions : FilesystemConditions) (root : Path)
    (request : FilesystemRequest) :
    request.operation = "list" ∧
        executeFilesystem system conditions root request =
          list system root request ∨
    request.operation = "read" ∧
        executeFilesystem system conditions root request =
          read system root request ∨
    request.operation = "write" ∧
        executeFilesystem system conditions root request =
          write system conditions root request ∨
    request.operation = "mkdir" ∧
        executeFilesystem system conditions root request =
          mkdir system conditions root request ∨
    request.operation = "move" ∧
        executeFilesystem system conditions root request =
          move system conditions root request ∨
    request.operation = "delete" ∧
        executeFilesystem system conditions root request =
          delete system conditions root request ∨
    executeFilesystem system conditions root request =
      throw "unsupported filesystem operation" := by
  unfold executeFilesystem
  split
  · next operation => exact .inl ⟨operation, rfl⟩
  · next operation => exact .inr (.inl ⟨operation, rfl⟩)
  · next operation => exact .inr (.inr (.inl ⟨operation, rfl⟩))
  · next operation => exact .inr (.inr (.inr (.inl ⟨operation, rfl⟩)))
  · next operation => exact .inr (.inr (.inr (.inr (.inl ⟨operation, rfl⟩))))
  · next operation =>
      exact .inr (.inr (.inr (.inr (.inr (.inl ⟨operation, rfl⟩)))))
  · exact .inr (.inr (.inr (.inr (.inr (.inr rfl)))))

theorem executeFilesystem_frame {call : FilesystemCall}
    (rooted : Rooted root tree) (unlinked : TrashUnlinked root tree call)
    (unreached : ¬ Reaches system root call.request other) :
    entry other (executeFilesystem system call.conditions root call.request
      tree).2 = entry other tree := by
  have names : ∀ value ∈ call.request.changed,
      ¬ Names system root value other := fun value member named =>
    unreached (.inl ⟨value, member, named⟩)
  unfold FilesystemRequest.changed at names
  rcases executeFilesystem_cases system call.conditions root call.request with
    ⟨_, same⟩ | ⟨_, same⟩ | ⟨operation, same⟩ | ⟨operation, same⟩ |
      ⟨operation, same⟩ | ⟨operation, same⟩ | same
  · rw [same, list_after rooted]
  · rw [same, read_after rooted]
  · rw [operation] at names
    rw [same]
    exact write_frame rooted (names _ List.mem_cons_self)
  · rw [operation] at names
    rw [same]
    exact mkdir_frame rooted (names _ List.mem_cons_self)
  · rw [operation] at names
    rw [same]
    exact move_frame rooted (names _ List.mem_cons_self)
      (names _ (List.mem_cons_of_mem _ List.mem_cons_self))
  · rw [operation] at names
    rw [same]
    cases deletes : call.request.deletes with
    | false => rw [delete_refused operation deletes]
    | true =>
        have outside : ¬ (trashPath root <+: other ∨
            other = root ++ [".gravit-panel"]) := fun reached =>
          unreached (.inr ⟨deletes, reached⟩)
        rw [not_or] at outside
        exact delete_frame rooted (unlinked deletes) names outside.1
          outside.2
  · rw [same]
    rfl

theorem rooted_after {call : FilesystemCall}
    (rooted : Rooted root tree) (unlinked : TrashUnlinked root tree call) :
    Rooted root (executeFilesystem system call.conditions root call.request
      tree).2 where
  plain := rooted.plain
  directory := by
    have unreached : ¬ Reaches system root call.request root := by
      rintro (⟨value, _, named⟩ | ⟨_, below | same⟩)
      · exact not_names_root named
      · have lengths := below.length_le
        unfold trashPath at lengths
        rw [List.length_append] at lengths
        have two : [".gravit-panel", "trash"].length = 2 := rfl
        omega
      · exact absurd (List.self_eq_append_right.mp same)
          (List.cons_ne_nil _ _)
    rw [executeFilesystem_frame rooted unlinked unreached]
    exact rooted.directory

theorem liveEntry_shows {directory : String} {item : String × Kind}
    {shown : LiveEntry}
    (visible : Visible system (liveParts directory))
    (named : directory ≠ "" → liveParts directory ≠ [])
    (found : entry (livePath root directory ++ [item.1]) tree = some item.2)
    (listed : liveEntry system directory item = some shown) :
    ∃ name kind,
      shown.path =
          (if directory = "" then name else directory ++ "/" ++ name) ∧
        Visible system (liveParts directory ++ [name]) ∧
          entry (livePath root directory ++ [name]) tree = some kind ∧
            (kind = .directory ∧ shown.type = .directory ∧
                shown.size = none ∨
              ∃ bytes, kind = .file bytes ∧ shown.type = .file ∧
                shown.size = some bytes.length) := by
  obtain ⟨name, kind⟩ := item
  unfold liveEntry at listed
  by_cases hidden : ['.'] <+: name.toList ∨
      (directory = "" ∧ system.toLower name ∈ reservedLiveRoots)
  · rw [if_pos hidden] at listed
    cases listed
  · rw [if_neg hidden] at listed
    rw [not_or] at hidden
    have both : Visible system (liveParts directory ++ [name]) := by
      constructor
      · intro part member
        rcases List.mem_append.mp member with before | added
        · exact visible.shown part before
        · cases List.mem_singleton.mp added
          exact hidden.1
      · intro first head
        cases parts : liveParts directory with
        | nil =>
            rw [parts] at head
            cases head
            by_cases empty : directory = ""
            · exact fun reserved => hidden.2 ⟨empty, reserved⟩
            · exact absurd parts (named empty)
        | cons part rest =>
            rw [parts] at head
            refine visible.unreserved first ?_
            rw [parts]
            exact head
    refine ⟨name, kind, ?_, both, found, ?_⟩
    · cases kind <;> cases listed <;> rfl
    · cases kind with
      | link absolute steps => cases listed
      | directory =>
          cases listed
          exact .inl ⟨rfl, rfl, rfl⟩
      | file bytes =>
          cases listed
          exact .inr ⟨bytes, rfl, rfl, rfl⟩

theorem list_shows
    (rooted : Rooted root tree)
    (listed : list system root request tree = (.ok result, next)) :
    Shows system root tree result := by
  unfold list at listed
  obtain ⟨target, reached, checked, rest⟩ := bind_eq_ok.mp listed
  rcases @safeLivePath_cases system root request.path tree true rooted with
    ⟨problem, refused⟩ | ⟨accepted, safe, named⟩
  · cases refused.symm.trans checked
  · cases accepted.symm.trans checked
    cases read : readDirectory (livePath root request.path) tree with
    | none =>
        rw [bind_of_error (observe_of_none read)] at rest
        cases rest
    | some items =>
        rw [bind_of_ok (observe_of_some read)] at rest
        cases rest
        intro shown member
        have sorted := (List.mem_insertionSort _).mp member
        obtain ⟨item, taken, listed⟩ := List.mem_filterMap.mp sorted
        have present : item ∈ items :=
          (List.mem_insertionSort _).mp (List.mem_of_mem_take taken)
        have found := readDirectory_of_linkFree safe.plain safe.linkFree read
          item present
        exact liveEntry_shows safe.visible
          (fun named' => named (.inr named')) found listed

theorem regularFile_content {target : Path} {maxBytes : Int}
    {bytes : List UInt8}
    (plain : Plain target) (linkFree : LinkFree tree [] target)
    (read : regularFile target maxBytes tree = (.ok bytes, next)) :
    entry target tree = some (.file bytes) := by
  unfold regularFile at read
  cases found : lstat target tree with
  | none =>
      rw [bind_of_error (observe_of_none found)] at read
      cases read
  | some kind =>
      rw [bind_of_ok (observe_of_some found)] at read
      cases kind with
      | link absolute steps => cases read
      | directory => cases read
      | file held =>
          dsimp only at read
          split at read
          · cases read
          · cases content : readFile target tree with
            | none =>
                rw [observe_of_none content] at read
                cases read
            | some other =>
                rw [observe_of_some content] at read
                cases read
                exact readFile_of_linkFree plain linkFree content

theorem read_shows
    (rooted : Rooted root tree)
    (ended : read system root request tree = (.ok result, next)) :
    Shows system root tree result := by
  unfold read at ended
  obtain ⟨target, reached, checked, rest⟩ := bind_eq_ok.mp ended
  rcases @safeLivePath_cases system root request.path tree false rooted with
    ⟨problem, refused⟩ | ⟨accepted, safe, named⟩
  · cases refused.symm.trans checked
  · cases accepted.symm.trans checked
    obtain ⟨bytes, after, content, rest⟩ := bind_eq_ok.mp rest
    cases rest
    exact ⟨safe.visible, bytes,
      regularFile_content safe.plain safe.linkFree content, rfl, rfl, rfl⟩

theorem shows_paths {Value : Type} {program : Program Node String Value}
    {paths : List String} {start next : Node}
    (ended : (program >>= fun _ => pure (FilesystemResult.paths paths))
      start = (.ok result, next)) :
    Shows system root tree result := by
  obtain ⟨_, _, _, rest⟩ := bind_eq_ok.mp ended
  cases rest
  trivial

theorem executeFilesystem_shows
    (rooted : Rooted root tree)
    (ended : executeFilesystem system conditions root request tree =
      (.ok result, next)) :
    Shows system root tree result := by
  rcases executeFilesystem_cases system conditions root request with
    ⟨_, same⟩ | ⟨_, same⟩ | ⟨_, same⟩ | ⟨_, same⟩ | ⟨_, same⟩ | ⟨_, same⟩ |
      same
  · rw [same] at ended
    exact list_shows rooted ended
  · rw [same] at ended
    exact read_shows rooted ended
  · rw [same, write] at ended
    obtain ⟨_, _, _, rest⟩ := bind_eq_ok.mp ended
    obtain ⟨_, _, _, rest⟩ := bind_eq_ok.mp rest
    obtain ⟨_, _, _, rest⟩ := bind_eq_ok.mp rest
    exact shows_paths rest
  · rw [same, mkdir] at ended
    obtain ⟨_, _, _, rest⟩ := bind_eq_ok.mp ended
    exact shows_paths rest
  · rw [same, move] at ended
    obtain ⟨_, _, _, rest⟩ := bind_eq_ok.mp ended
    obtain ⟨_, _, _, rest⟩ := bind_eq_ok.mp rest
    obtain ⟨_, _, _, rest⟩ := bind_eq_ok.mp rest
    obtain ⟨_, _, _, rest⟩ := bind_eq_ok.mp rest
    exact shows_paths rest
  · rw [same, delete] at ended
    obtain ⟨_, _, _, rest⟩ := bind_eq_ok.mp ended
    obtain ⟨_, _, _, rest⟩ := bind_eq_ok.mp rest
    exact shows_paths rest
  · rw [same] at ended
    cases ended

end Operations

/-- If no confirmed deletion finds a link to a directory in the place of the
trash, every request is confined. -/
theorem live_filesystem_confined
    (system : AgentSystem) (binding : LiveBinding) (root : Path)
    (start final : Node) (calls : List FilesystemCall)
    (effects : List FilesystemEffect)
    (initialized : initializeFilesystemRoot system binding start =
      .ok (some root))
    (condition : Meets (filesystemStep system root) (TrashUnlinked root)
      start calls)
    (ran : execute (filesystemStep system root) start calls =
      some (final, effects)) :
    ∀ effect ∈ effects, Confined system root effect := by
  have reached : Rooted root final ∧
      ∀ effect ∈ effects, Confined system root effect :=
    execute_induction_of_meets
      (motive := fun tree past => Rooted root tree ∧
        ∀ effect ∈ past, Confined system root effect)
      (fun tree past call next now holds unlinked stepped => by
        obtain ⟨rooted, confined⟩ := holds
        cases stepped
        refine ⟨rooted_after rooted unlinked, ?_⟩
        intro effect member
        rcases List.mem_append.mp member with before | added
        · exact confined effect before
        · cases List.mem_singleton.mp added
          constructor
          · intro place changed
            by_contra unreached
            exact changed
              (executeFilesystem_frame rooted unlinked unreached)
          · intro result ended
            exact executeFilesystem_shows rooted (Prod.ext ended rfl))
      ⟨rooted_of_initialized initialized, fun _ member =>
        absurd member List.not_mem_nil⟩
      condition ran
  exact reached.2

/-- The standard library on short texts. -/
def exampleSystem : AgentSystem where
  toLower := String.toLower
  decode text := if text = "" then some [] else none
  encode _ := ""
  sha256 _ := ""
  trimSpace bytes :=
    String.ofList (bytes.map fun byte => Char.ofNat byte.toNat)

def exampleBinding : LiveBinding := ⟨"id", "/srv"⟩

/-- A server directory with one file, beside another directory of the host. -/
def exampleHost (trash : Node) : Node :=
  .directory
    [("out", .directory []),
      ("srv", .directory
        [(".gravit-panel-server", .file [105, 100]),
          (".gravit-panel", .directory [("trash", trash)]),
          ("a.txt", .file [])])]

def exampleConditions : FilesystemConditions where
  temporary := "1"
  creates := true
  writes := true
  modes := true
  makes _ := true
  renames _ := true
  nanoseconds index := index

def exampleRequest (operation path : String) (paths : List String) :
    FilesystemRequest where
  id := "request"
  bindingID := "id"
  operation := operation
  path := path
  sourcePath := ""
  destinationPath := ""
  paths := paths
  data := ""
  maxBytes := 0
  overwrite := false
  confirm := true

def exampleCalls : List FilesystemCall :=
  [⟨exampleConditions, exampleRequest "list" "" []⟩,
    ⟨exampleConditions, exampleRequest "mkdir" "docs" []⟩,
    ⟨exampleConditions, exampleRequest "write" "docs/b.txt" []⟩,
    ⟨exampleConditions, exampleRequest "delete" "" ["a.txt", "docs"]⟩]

theorem live_filesystem_confined_own_trash :
    ∃ final effects,
      execute (filesystemStep exampleSystem ["srv"])
          (exampleHost (.directory [])) exampleCalls =
        some (final, effects) ∧
      ∀ effect ∈ effects, Confined exampleSystem ["srv"] effect := by
  have initialized : initializeFilesystemRoot exampleSystem exampleBinding
      (exampleHost (.directory [])) = .ok (some ["srv"]) := by
    decide +kernel
  have condition : Meets (filesystemStep exampleSystem ["srv"])
      (TrashUnlinked ["srv"]) (exampleHost (.directory []))
      exampleCalls := by
    decide +kernel
  have completes : (execute (filesystemStep exampleSystem ["srv"])
      (exampleHost (.directory [])) exampleCalls).isSome := by
    decide +kernel
  obtain ⟨⟨final, effects⟩, ran⟩ := Option.isSome_iff_exists.mp completes
  exact ⟨final, effects, ran,
    live_filesystem_confined exampleSystem exampleBinding ["srv"] _ final _
      effects initialized condition ran⟩

/-- A trash that is a link takes a deleted file out of the root. -/
def escapingEffect : FilesystemEffect :=
  let ended := executeFilesystem exampleSystem exampleConditions ["srv"]
    (exampleRequest "delete" "" ["a.txt"])
    (exampleHost (.link true ["out"]))
  ⟨exampleHost (.link true ["out"]), exampleRequest "delete" "" ["a.txt"],
    ended.1, ended.2⟩

theorem deletion_escapes :
    initializeFilesystemRoot exampleSystem exampleBinding
        escapingEffect.before = .ok (some ["srv"]) ∧
      entry ["out", "0-a.txt"] escapingEffect.before = none ∧
        entry ["out", "0-a.txt"] escapingEffect.after = some (.file []) ∧
          ¬ Confined exampleSystem ["srv"] escapingEffect := by
  have absent : entry ["out", "0-a.txt"] escapingEffect.before = none := by
    decide +kernel
  have present : entry ["out", "0-a.txt"] escapingEffect.after =
      some (.file []) := by
    decide +kernel
  refine ⟨by decide +kernel, absent, present, ?_⟩
  intro confined
  have changed : entry ["out", "0-a.txt"] escapingEffect.after ≠
      entry ["out", "0-a.txt"] escapingEffect.before := by
    rw [absent, present]
    exact Option.some_ne_none _
  rcases confined.changes _ changed with
    ⟨value, _, _, _, below⟩ | ⟨_, below | same⟩
  · obtain ⟨other, _⟩ := List.cons_prefix_cons.mp below
    exact absurd other (by decide)
  · obtain ⟨other, _⟩ := List.cons_prefix_cons.mp below
    exact absurd other (by decide)
  · exact absurd same (by decide)

end GravitPanel.Agent
