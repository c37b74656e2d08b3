import GravitPanel.Gravit.LaunchServerFiles
import GravitPanel.Core.Execution

/-!
# Protected files of a LaunchServer

The protection of a path is a predicate on the path that a request names, while
a move takes all that lies below it.  So protected files stay where they are,
and are never shown, as long as no request moves a directory above one of them.
-/

namespace GravitPanel.Gravit

open GravitPanel.Execution
open Program FileTree

inductive FilesRequest where
  | list (path : String)
  | read (path : String)
  | write (path : String) (bytes : List UInt8) (overwrite : Bool)
  | mkdir (path : String)
  | move (sourcePath destinationPath : String)
  | remove (paths : List String)
  deriving DecidableEq, Repr

/-- A request with what the container and the clock answer during it. -/
structure FilesCall where
  container : Container
  clock : Nat → Nat
  request : FilesRequest

def LaunchServer.during (server : LaunchServer) (call : FilesCall) :
    LaunchServer :=
  { server with container := call.container, clock := call.clock }

def perform (server : LaunchServer) :
    FilesRequest → Program Node VolumeProblem FilesResult
  | .list path => list server path
  | .read path => read server path
  | .write path bytes overwrite => write server path bytes overwrite
  | .mkdir path => mkdir server path
  | .move sourcePath destinationPath => move server sourcePath destinationPath
  | .remove paths => remove server paths

/-- A request with its outcome and the trees around it. -/
structure FilesEffect where
  before : Node
  request : FilesRequest
  outcome : Except VolumeProblem FilesResult
  after : Node

def filesStep (server : LaunchServer) (tree : Node) (call : FilesCall) :
    Option (Node × List FilesEffect) :=
  let ended := perform (server.during call) call.request tree
  some (ended.2, [⟨tree, call.request, ended.1, ended.2⟩])

def ProtectedFile (server : LaunchServer) (tree : Node) (steps : Path)
    (bytes : List UInt8) : Prop :=
  isBlocked server (joinSteps steps) = true ∧
    entry (dataRoot ++ steps) tree = some (.file bytes)

/-- What a result shows of the tree: paths and a text that are not
protected. -/
def ShowsOpen (server : LaunchServer) (tree : Node) : FilesResult → Prop
  | .listing _ entries =>
      ∀ item ∈ entries, isBlocked server (normalizePath item.path) = false
  | .text _ content _ digest =>
      ∃ steps bytes, isBlocked server (joinSteps steps) = false ∧
        entry (dataRoot ++ steps) tree = some (.file bytes) ∧
          server.decode bytes = some content ∧ digest = server.sha256 bytes
  | _ => True

/-- A request leaves every protected file at its place with its content, and
its result shows none of them. -/
structure Untouched (server : LaunchServer) (effect : FilesEffect) : Prop where
  kept : ∀ steps bytes, ProtectedFile server effect.before steps bytes →
    ProtectedFile server effect.after steps bytes
  unseen : ∀ result, effect.outcome = .ok result →
    ShowsOpen server effect.before result

def volumePath (path : String) : Path :=
  dataRoot ++ normalizeSteps (pathSteps path)

/-- No file at a protected path lies at a place or below it. -/
def HoldsNoProtected (server : LaunchServer) (tree : Node) (place : Path) :
    Prop :=
  ∀ found ∈ tree.paths, place <+: found → dataRoot <+: found →
    isBlocked server (joinSteps (found.drop dataRoot.length)) = true →
      ∀ kind ∈ entry found tree, kind = .directory ∨ kind.isLink = true

instance (server : LaunchServer) (tree : Node) (place : Path) :
    Decidable (HoldsNoProtected server tree place) := by
  unfold HoldsNoProtected
  infer_instance

/-- No accepted request takes away a directory with a protected file in it. -/
def TakesNoProtected (server : LaunchServer) (tree : Node)
    (call : FilesCall) : Prop :=
  match call.request with
  | .move sourcePath destinationPath =>
      ∀ accepted ∈
          (moveChecks server sourcePath destinationPath tree).1.toOption,
        HoldsNoProtected server tree (volumePath accepted.1)
  | .remove paths =>
      ∀ path ∈ paths, ∀ safe ∈ (safePath server path false).toOption,
        HoldsNoProtected server tree (volumePath safe)
  | _ => True

instance (server : LaunchServer) (tree : Node) (call : FilesCall) :
    Decidable (TakesNoProtected server tree call) := by
  unfold TakesNoProtected
  split <;> infer_instance

/-- What the service relies on: a slash at the end of a text is kept in lower
case. -/
def KeepsSlash (server : LaunchServer) : Prop :=
  ∀ text, server.toLowerCase (text ++ "/") = server.toLowerCase text ++ "/"

/-- A new identifier of 36 characters or more, without a slash, that is in no
name of the tree. -/
structure FreshIdentifiers (container : Container) : Prop where
  long : ∀ tree, 36 ≤ (container.randomUUID tree).toList.length
  slashFree : ∀ tree, '/' ∉ (container.randomUUID tree).toList
  unused : ∀ tree path, entry path tree ≠ none → ∀ name ∈ path,
    ¬ (container.randomUUID tree).toList <:+: name.toList

section Paths

variable {server : LaunchServer} {path safe : String} {tree : Node}

structure NormalPath (safe : String) : Prop where
  normal : normalizePath safe = safe
  named : normalizeSteps (pathSteps safe) ≠ []
  plain : Plain (normalizeSteps (pathSteps safe))
  shape : pathSteps safe = normalizeSteps (pathSteps safe) ∨
    pathSteps safe = normalizeSteps (pathSteps safe) ++ [""]

structure SafePath (server : LaunchServer) (safe : String) : Prop
    extends NormalPath safe where
  unblocked : isBlocked server (joinSteps (normalizeSteps (pathSteps safe))) =
    false

theorem isBlocked_slash (keepsSlash : KeepsSlash server)
    (blocked : isBlocked server path = true) :
    isBlocked server (path ++ "/") = true := by
  obtain ⟨item, member, holds⟩ := List.any_eq_true.mp blocked
  refine List.any_eq_true.mpr ⟨item, member, ?_⟩
  rw [keepsSlash path]
  rcases Bool.or_eq_true_iff.mp holds with same | below
  · have equal := of_decide_eq_true same
    rw [equal]
    refine Bool.or_eq_true_iff.mpr (.inr ?_)
    exact List.isPrefixOf_iff_prefix.mpr (List.prefix_refl _)
  · refine Bool.or_eq_true_iff.mpr (.inr ?_)
    rw [List.isPrefixOf_iff_prefix] at below ⊢
    have longer : (server.toLowerCase path ++ "/").toList =
        (server.toLowerCase path).toList ++ "/".toList := String.toList_append
    rw [longer]
    exact below.trans (List.prefix_append _ _)

theorem safePath_false (accepted : safePath server path false = .ok safe) :
    safe = normalizePath (if path = "" then "." else path) ∧
      (∀ part ∈ pathSteps safe, ¬ ['.'] <+: part.toList) ∧
        isBlocked server safe = false := by
  unfold safePath at accepted
  generalize normalizePath (if path = "" then "." else path) = normalized
    at accepted ⊢
  split at accepted
  · cases accepted
  · dsimp only at accepted
    split at accepted
    · cases accepted
    · split at accepted
      · cases accepted
      · split at accepted
        · cases accepted
        · next checked =>
            injection accepted with same
            subst same
            rw [Bool.not_eq_true, Bool.or_eq_false_iff] at checked
            refine ⟨rfl, ?_, checked.2⟩
            intro part member hidden
            have shown := List.any_eq_false.mp checked.1 part member
            exact shown (List.isPrefixOf_iff_prefix.mpr hidden)

theorem safePath_shape (keepsSlash : KeepsSlash server)
    (accepted : safePath server path false = .ok safe) :
    SafePath server safe := by
  obtain ⟨normalized, shown, unblocked⟩ := safePath_false accepted
  have plain : ∀ step ∈ pathSteps safe, step ≠ "." ∧ step ≠ ".." := by
    intro step member
    have visible := shown step member
    constructor
    · rintro rfl
      exact visible (by decide)
    · rintro rfl
      exact visible (by decide)
  rw [normalized] at plain
  obtain ⟨steps, named, all, pushed, shape⟩ := normalizePath_shape plain
  have normal := normalizePath_normalizePath plain
  rw [← normalized] at pushed shape normal
  refine ⟨⟨normal, ?_, ?_, ?_⟩, ?_⟩
  · rw [pushed]
    exact named
  · rw [pushed]
    exact all
  · rw [pushed]
    exact shape
  · rw [pushed]
    rcases shape with whole | whole
    · rw [← whole, joinSteps_pathSteps]
      exact unblocked
    · by_contra blocked
      have slashed := isBlocked_slash keepsSlash
        (eq_true_of_ne_false blocked)
      rw [← joinSteps_concat_empty named, ← whole, joinSteps_pathSteps,
        unblocked] at slashed
      cases slashed

theorem relative_ok {normalized : String}
    (checked : relative path = .ok normalized) :
    normalized = normalizePath path := by
  unfold relative at checked
  split at checked
  · cases checked
  · split at checked
    · cases checked
    · cases checked
      rfl

theorem absolute_ok {location : Location}
    (located : absolute path = .ok location) :
    location.path = volumePath (normalizePath path) := by
  unfold absolute at located
  cases checked : relative path with
  | error problem =>
      rw [checked] at located
      cases located
  | ok normalized =>
      rw [checked] at located
      cases located
      rw [relative_ok checked]
      rfl

theorem plain_dataRoot : Plain dataRoot := by
  intro step member
  have steps : step = "app" ∨ step = "data" := by
    simpa [dataRoot] using member
  rcases steps with rfl | rfl <;> decide

theorem NormalPath.plain_volumePath (normal : NormalPath safe) :
    Plain (volumePath safe) := by
  intro step member
  rcases List.mem_append.mp member with root | below
  · exact plain_dataRoot step root
  · exact normal.plain step below

theorem NormalPath.volumePath_shape (normal : NormalPath safe) :
    ∃ above leaf, normalizeSteps (pathSteps safe) = above ++ [leaf] ∧
      volumePath safe = (dataRoot ++ above) ++ [leaf] := by
  rcases List.eq_nil_or_concat (normalizeSteps (pathSteps safe)) with
    empty | ⟨above, leaf, same⟩
  · exact absurd empty normal.named
  · rw [List.concat_eq_append] at same
    refine ⟨above, leaf, same, ?_⟩
    unfold volumePath
    rw [same, List.append_assoc]

theorem slashFree_normalizeSteps (text : String) :
    SlashFree (normalizeSteps (pathSteps text)) := by
  intro step member
  rcases (mem_normalizeSteps member).2 with before | parent
  · exact slashFree_pathSteps text step before
  · rw [parent]
    decide

theorem normalPath_joinSteps {steps : Path} (named : steps ≠ [])
    (plain : Plain steps) (slashFree : SlashFree steps) :
    NormalPath (joinSteps steps) ∧
      normalizeSteps (pathSteps (joinSteps steps)) = steps := by
  have parts := pathSteps_joinSteps named slashFree
  have pushed : normalizeSteps (pathSteps (joinSteps steps)) = steps := by
    rw [parts]
    exact normalizeSteps_of_plain plain
  have unended : endsWithSlash (joinSteps steps) = false := by
    unfold endsWithSlash
    rw [parts, Bool.and_eq_false_iff]
    refine .inr (decide_eq_false ?_)
    intro ends
    exact (plain "" (List.mem_of_getLast? ends)).1 rfl
  refine ⟨⟨?_, ?_, ?_, ?_⟩, pushed⟩
  · unfold normalizePath normalSteps
    dsimp only
    rw [pushed, unended, if_neg named]
    simp
  · rw [pushed]
    exact named
  · rw [pushed]
    exact plain
  · rw [pushed]
    exact .inl parts

end Paths

section Checks

variable {server : LaunchServer} {path safe : String} {tree reached : Node}

theorem readOnly_assertNoSymlinks (path : String) (leaf : Bool) :
    ReadOnly (assertNoSymlinks path leaf) :=
  ReadOnly.lift_bind fun _ => readOnly_get.bind fun _ => readOnly_lift _

theorem readOnly_existsAt (path : String) (directory : Bool) :
    ReadOnly (existsAt path directory) :=
  ReadOnly.lift_bind fun _ => readOnly_get.bind fun _ => readOnly_pure _

theorem readOnly_readFileBytes (path : String) (maximum : Nat) :
    ReadOnly (readFileBytes path maximum) :=
  ReadOnly.lift_bind fun _ => readOnly_get.bind fun _ => readOnly_lift _

theorem linkFree_of_noSymlinks {current steps rest : Path}
    (above : Plain current) (here : entry current tree = some .directory)
    (plain : Plain steps)
    (checked : noSymlinks tree current (steps ++ rest) = .ok ⟨⟩) :
    LinkFree tree current steps := by
  induction steps generalizing current with
  | nil => trivial
  | cons step others ih =>
      have named := plain step List.mem_cons_self
      have plainOthers : Plain others := fun name member =>
        plain name (List.mem_cons_of_mem step member)
      have longer : Plain (current ++ [step]) := by
        intro name member
        rcases List.mem_append.mp member with before | added
        · exact above name before
        · cases List.mem_singleton.mp added
          exact named
      rw [List.cons_append] at checked
      unfold noSymlinks at checked
      rw [if_neg (not_or.mpr ⟨named.1, named.2.1⟩)] at checked
      dsimp only at checked
      rw [lstat_of_directory step above here] at checked
      cases found : entry (current ++ [step]) tree with
      | none =>
          refine ⟨?_, linkFree_of_absent found _⟩
          intro kind present
          cases found.symm.trans present
      | some kind =>
          rw [found, Option.any_some] at checked
          by_cases link : kind.isLink = true
          · rw [if_pos link] at checked
            cases checked
          · rw [if_neg link] at checked
            refine ⟨?_, ?_⟩
            · intro other present
              cases found.symm.trans present
              simpa using link
            · by_cases directory : kind = .directory
              · rw [directory] at found
                exact ih longer found plainOthers checked
              · exact linkFree_of_leaf found directory others

theorem assertNoSymlinks_ok {leaf : Bool}
    (normal : NormalPath safe)
    (mounted : entry dataRoot tree = some .directory)
    (checked : assertNoSymlinks safe leaf tree = (.ok ⟨⟩, reached)) :
    (leaf = true → LinkFree tree [] (volumePath safe)) ∧
      LinkFree tree [] (volumePath safe).dropLast := by
  obtain ⟨normalized, accepted, rest⟩ := lift_bind_eq_ok.mp checked
  have same := relative_ok accepted
  rw [normal.normal] at same
  rw [same, bind_of_ok (get_apply tree)] at rest
  have tested := (Prod.mk.inj rest).1
  obtain ⟨above, last, shape, place⟩ := normal.volumePath_shape
  have plain := normal.plain
  rw [shape] at plain
  have plainAbove : Plain above := fun name member =>
    plain name (List.mem_append_left _ member)
  have root : LinkFree tree [] dataRoot := linkFree_of_entry mounted rfl
  have whole : ∀ rest, noSymlinks tree dataRoot
      ((above ++ [last]) ++ rest) = .ok ⟨⟩ →
        LinkFree tree [] (volumePath safe) := by
    intro rest tested
    rw [place, List.append_assoc]
    exact linkFree_append.mpr ⟨root,
      linkFree_of_noSymlinks plain_dataRoot mounted plain tested⟩
  have shorter : LinkFree tree [] (volumePath safe) →
      LinkFree tree [] (volumePath safe).dropLast := by
    intro linkFree
    rw [place] at linkFree ⊢
    rw [List.dropLast_concat]
    exact (linkFree_append.mp linkFree).1
  cases leaf with
  | true =>
      rw [if_pos rfl] at tested
      have linkFree : LinkFree tree [] (volumePath safe) := by
        rcases normal.shape with parts | parts
        · rw [parts, shape, ← List.append_nil (above ++ [last])] at tested
          exact whole _ tested
        · rw [parts, shape] at tested
          exact whole _ tested
      exact ⟨fun _ => linkFree, shorter linkFree⟩
  | false =>
      rw [if_neg Bool.false_ne_true] at tested
      refine ⟨nofun, ?_⟩
      rcases normal.shape with parts | parts
      · rw [parts, shape, List.dropLast_concat,
          ← List.append_nil above] at tested
        rw [place, List.dropLast_concat]
        exact linkFree_append.mpr ⟨root,
          linkFree_of_noSymlinks plain_dataRoot mounted plainAbove tested⟩
      · rw [parts, List.dropLast_concat, shape,
          ← List.append_nil (above ++ [last])] at tested
        exact shorter (whole _ tested)

theorem existsAt_no_directory
    (normal : NormalPath safe)
    (absent : existsAt safe true tree = (.ok false, reached)) :
    stat (volumePath safe) tree ≠ some .directory := by
  obtain ⟨location, located, observed⟩ := lift_bind_eq_ok.mp absent
  rw [bind_of_ok (get_apply tree)] at observed
  have answer := (Prod.mk.inj observed).1
  have place := absolute_ok located
  rw [normal.normal] at place
  intro directory
  have same : location.stat tree = some .directory := by
    unfold Location.stat
    rw [place, directory]
  rw [same] at answer
  cases answer

theorem moveChecks_ok {sourcePath destinationPath source destination : String}
    (keepsSlash : KeepsSlash server)
    (mounted : entry dataRoot tree = some .directory)
    (checked : moveChecks server sourcePath destinationPath tree =
      (.ok (source, destination), reached)) :
    SafePath server source ∧ SafePath server destination ∧
      LinkFree tree [] (volumePath source) ∧
        LinkFree tree [] (volumePath destination).dropLast ∧
          stat (volumePath destination) tree ≠ some .directory := by
  obtain ⟨first, firstSafe, rest⟩ := lift_bind_eq_ok.mp checked
  obtain ⟨second, secondSafe, rest⟩ := lift_bind_eq_ok.mp rest
  have firstShape := safePath_shape keepsSlash firstSafe
  have secondShape := safePath_shape keepsSlash secondSafe
  obtain ⟨_, firstFree, rest⟩ :=
    (readOnly_assertNoSymlinks first true).bind_eq_ok.mp rest
  obtain ⟨_, secondFree, rest⟩ :=
    (readOnly_assertNoSymlinks second false).bind_eq_ok.mp rest
  obtain ⟨file, noFile, rest⟩ :=
    (readOnly_existsAt second false).bind_eq_ok.mp rest
  obtain ⟨directory, noDirectory, rest⟩ :=
    (readOnly_existsAt second true).bind_eq_ok.mp rest
  obtain ⟨_, free, rest⟩ := lift_bind_eq_ok.mp rest
  have results := (Prod.mk.inj rest).1
  cases results
  have absent : directory = false := by
    unfold refuse at free
    cases directory with
    | false => rfl
    | true =>
        rw [Bool.or_true, if_pos rfl] at free
        cases free
  subst absent
  exact ⟨firstShape, secondShape,
    (assertNoSymlinks_ok firstShape.toNormalPath mounted firstFree).1 rfl,
    (assertNoSymlinks_ok secondShape.toNormalPath mounted secondFree).2,
    existsAt_no_directory secondShape.toNormalPath noDirectory⟩

theorem readOnly_moveChecks (sourcePath destinationPath : String) :
    ReadOnly (moveChecks server sourcePath destinationPath) := by
  refine ReadOnly.lift_bind ?_
  intro source
  refine ReadOnly.lift_bind ?_
  intro destination
  refine (readOnly_assertNoSymlinks source true).bind fun _ => ?_
  refine (readOnly_assertNoSymlinks destination false).bind fun _ => ?_
  refine (readOnly_existsAt destination false).bind fun file => ?_
  refine (readOnly_existsAt destination true).bind fun directory => ?_
  exact ReadOnly.lift_bind fun _ => readOnly_pure _

theorem readOnly_removeChecks (path : String) :
    ReadOnly (removeChecks server path) := by
  refine ReadOnly.lift_bind ?_
  intro safe
  exact (readOnly_assertNoSymlinks safe true).bind fun _ => readOnly_pure _

end Checks

/-! ## What a move keeps -/

/-- The volume is there, and the protected files of an earlier tree are at
their places. -/
structure Guarded (server : LaunchServer) (before tree : Node) : Prop where
  mounted : entry dataRoot tree = some .directory
  kept : ∀ steps bytes, ProtectedFile server before steps bytes →
    entry (dataRoot ++ steps) tree = some (.file bytes)

/-- A place with no protected file at it or below it. -/
structure Clear (server : LaunchServer) (before : Node) (place : Path) :
    Prop where
  root : ¬ place <+: dataRoot
  files : ∀ steps bytes, ProtectedFile server before steps bytes →
    ¬ place <+: dataRoot ++ steps

/-- A place with no protected file at it. -/
structure Aside (server : LaunchServer) (before : Node) (place : Path) :
    Prop where
  root : ¬ place <+: dataRoot
  files : ∀ steps bytes, ProtectedFile server before steps bytes →
    dataRoot ++ steps ≠ place

section Guards

variable {server : LaunchServer} {before tree next : Node} {place : Path}

theorem Clear.aside (clear : Clear server before place) :
    Aside server before place :=
  ⟨clear.root, fun steps bytes protectedFile same =>
    clear.files steps bytes protectedFile (by rw [same])⟩

theorem Guarded.of_kept
    (holds : Guarded server before tree)
    (kept : ∀ place kind, entry place tree = some kind →
      entry place next = some kind) :
    Guarded server before next :=
  ⟨kept _ _ holds.mounted, fun steps bytes protectedFile =>
    kept _ _ (holds.kept steps bytes protectedFile)⟩

theorem rename_guarded {source target : Path}
    (holds : Guarded server before tree)
    (taken : ∀ origin, locate source tree = some origin →
      Clear server before origin)
    (put : ∀ place, locate target tree = some place →
      Aside server before place)
    (renamed : rename source target tree = some next) :
    Guarded server before next := by
  refine ⟨?_, ?_⟩
  · obtain ⟨origin, place, fromHere, toHere, rfl | moved⟩ :=
      rename_eq_some renamed
    · exact holds.mounted
    · obtain ⟨node, _, _, _, _, stored⟩ := moved
      rw [stored, entry_rename fromHere toHere
        (taken origin fromHere).root (put place toHere).root]
      exact holds.mounted
  · intro steps bytes protectedFile
    refine rename_keeps_file renamed
      (holds.kept steps bytes protectedFile) ?_ ?_
    · exact fun origin fromHere =>
        (taken origin fromHere).files steps bytes protectedFile
    · exact fun place toHere =>
        (put place toHere).files steps bytes protectedFile

theorem moveCommand_guarded {source target : Location}
    (holds : Guarded server before tree)
    (taken : ∀ origin, locate source.path tree = some origin →
      Clear server before origin)
    (put : ∀ place,
      locate (target.receiving (source.path.getLast?.getD "") tree) tree =
        some place →
      Aside server before place)
    (moved : moveCommand source target tree = some next) :
    Guarded server before next := by
  unfold moveCommand at moved
  dsimp only at moved
  split at moved
  · cases moved
  · split at moved
    · cases moved
    · split at moved
      · cases moved
      · exact rename_guarded holds taken put moved

theorem unlink_guarded {path : Path}
    (holds : Guarded server before tree)
    (taken : ∀ place, locate path tree = some place →
      Clear server before place) :
    Guarded server before ((unlink path tree).getD tree) := by
  cases unlinked : unlink path tree with
  | none => exact holds
  | some next =>
      obtain ⟨place, found, rfl⟩ := unlink_eq_some unlinked
      have clear := taken place found
      refine ⟨?_, fun steps bytes protectedFile => ?_⟩
      · exact (entry_store none found clear.root).trans holds.mounted
      · exact (entry_store none found
          (clear.files steps bytes protectedFile)).trans
            (holds.kept steps bytes protectedFile)

theorem clear_of_fresh {container : Container} {origin : Node} {leaf : String}
    (fresh : FreshIdentifiers container)
    (holds : Guarded server before origin)
    (within : (container.randomUUID origin).toList <:+: leaf.toList)
    (above : Path) :
    Clear server before (above ++ [leaf]) := by
  have apart : ∀ other kind, entry other origin = some kind →
      ¬ above ++ [leaf] <+: other := by
    intro other kind here below
    have member : leaf ∈ other :=
      below.subset (List.mem_append_right _ (List.mem_singleton_self leaf))
    exact fresh.unused origin other (by rw [here]; exact Option.some_ne_none _)
      leaf member within
  exact ⟨apart _ _ holds.mounted, fun steps bytes protectedFile =>
    apart _ _ (holds.kept steps bytes protectedFile)⟩

theorem not_above_dataRoot {steps : Path} (named : steps ≠ []) :
    ¬ dataRoot ++ steps <+: dataRoot := by
  intro shorter
  have lengths := shorter.length_le
  rw [List.length_append] at lengths
  have positive := List.length_pos_iff.mpr named
  omega

theorem SafePath.aside {safe : String} (shape : SafePath server safe) :
    Aside server before (volumePath safe) := by
  refine ⟨not_above_dataRoot shape.named, ?_⟩
  intro steps bytes protectedFile same
  have parts := (List.append_right_inj dataRoot).mp same
  have blocked := protectedFile.1
  rw [parts, shape.unblocked] at blocked
  cases blocked

theorem clear_of_holdsNoProtected {safe : String}
    (shape : NormalPath safe)
    (careful : HoldsNoProtected server before (volumePath safe)) :
    Clear server before (volumePath safe) := by
  refine ⟨not_above_dataRoot shape.named, ?_⟩
  rintro steps bytes ⟨blocked, here⟩ below
  have present : entry (dataRoot ++ steps) before ≠ none := by
    rw [here]
    exact Option.some_ne_none _
  have blockedToo : isBlocked server
      (joinSteps ((dataRoot ++ steps).drop dataRoot.length)) = true := by
    rw [List.drop_left]
    exact blocked
  rcases careful _ (mem_paths present) below (List.prefix_append _ _)
    blockedToo _ here with directory | link
  · cases directory
  · cases link

theorem locate_volumePath {safe : String} {found : Path}
    (shape : NormalPath safe)
    (linkFree : LinkFree tree [] (volumePath safe).dropLast)
    (located : locate (volumePath safe) tree = some found) :
    found = volumePath safe := by
  obtain ⟨above, leaf, _, place⟩ := shape.volumePath_shape
  have plain := shape.plain_volumePath
  rw [place] at plain linkFree located ⊢
  rw [List.dropLast_concat] at linkFree
  exact (locate_of_linkFree
    (fun name member => plain name (List.mem_append_left _ member))
    linkFree located).1

end Guards

section Operations

variable {server : LaunchServer} {before tree next : Node}

theorem keeps_ensureDirectory (path : String) :
    Keeps (Guarded server before) (ensureDirectory path) := by
  refine Keeps.lift_bind ?_
  intro location
  refine keeps_ensureDirectories ?_
  intro tree holds
  exact holds.of_kept fun _ _ here => makeDirectories_keeps here

theorem keeps_ensureParentDirectory (path : String) :
    Keeps (Guarded server before) (ensureParentDirectory path) := by
  refine Keeps.lift_bind ?_
  intro normalized
  dsimp only
  split
  · exact keeps_pure _
  · exact keeps_ensureDirectory _

theorem ensureDirectories_ok {problem : VolumeProblem}
    {permits : Path → Bool} {done path : Path}
    (made : ensureDirectories problem permits done path tree =
      (.ok ⟨⟩, next)) :
    makeDirectories permits tree done path = (true, next) := by
  unfold ensureDirectories at made
  split at made
  · next reached same =>
      cases made
      exact same
  · cases made

theorem ensureParentDirectory_ok {safe : String}
    (normal : NormalPath safe)
    (mounted : entry dataRoot tree = some .directory)
    (made : ensureParentDirectory safe tree = (.ok ⟨⟩, next)) :
    makeDirectories (fun _ => true) tree [] (volumePath safe).dropLast =
      (true, next) := by
  obtain ⟨normalized, accepted, rest⟩ := lift_bind_eq_ok.mp made
  have same := relative_ok accepted
  rw [normal.normal] at same
  obtain ⟨above, leaf, shape, place⟩ := normal.volumePath_shape
  rw [place, List.dropLast_concat]
  rw [same, shape, List.dropLast_concat] at rest
  by_cases empty : above = []
  · rw [if_pos empty] at rest
    cases rest
    have through := @makeDirectories_through tree (fun _ => true) []
      dataRoot [] plain_dataRoot mounted
    rw [List.append_nil] at through
    rw [empty, List.append_nil, through]
    rfl
  · rw [if_neg empty] at rest
    obtain ⟨location, located, rest⟩ := lift_bind_eq_ok.mp rest
    have plain : Plain above := fun name member => normal.plain name (by
      rw [shape]
      exact List.mem_append_left _ member)
    have slashFree : SlashFree above := fun name member =>
      slashFree_normalizeSteps safe name (by
        rw [shape]
        exact List.mem_append_left _ member)
    obtain ⟨parent, steps⟩ := normalPath_joinSteps empty plain slashFree
    have whole := absolute_ok located
    rw [parent.normal] at whole
    unfold volumePath at whole
    rw [steps] at whole
    rw [← whole]
    exact ensureDirectories_ok rest

theorem moveVolume_guarded {source target : String}
    (holds : Guarded server before tree)
    (sourceNormal : NormalPath source) (targetNormal : NormalPath target)
    (taken : ∀ next, makeDirectories (fun _ => true) tree []
      (volumePath target).dropLast = (true, next) →
        ∀ origin, locate (volumePath source) next = some origin →
          Clear server before origin)
    (free : ∀ next, makeDirectories (fun _ => true) tree []
      (volumePath target).dropLast = (true, next) →
        stat (volumePath target) next ≠ some .directory)
    (put : ∀ next, makeDirectories (fun _ => true) tree []
      (volumePath target).dropLast = (true, next) →
        ∀ place, locate (volumePath target) next = some place →
          Aside server before place) :
    Guarded server before (moveVolume source target tree).2 := by
  have parents := (@keeps_ensureParentDirectory server before target) tree holds
  unfold moveVolume
  cases made : ensureParentDirectory target tree with
  | mk outcome reached =>
      rw [made] at parents
      cases outcome with
      | error problem =>
          rw [bind_of_error made]
          exact parents
      | ok _ =>
          have directories :=
            ensureParentDirectory_ok targetNormal holds.mounted made
          rw [bind_of_ok made, lift_bind]
          cases fromHere : absolute source with
          | error problem => exact parents
          | ok origin =>
              dsimp only
              rw [lift_bind]
              cases toHere : absolute target with
              | error problem => exact parents
              | ok place =>
                  dsimp only
                  cases moved : moveCommand origin place reached with
                  | none =>
                      rw [attempt_of_none moved]
                      exact parents
                  | some final =>
                      rw [attempt_of_some moved]
                      have originPath := absolute_ok fromHere
                      have placePath := absolute_ok toHere
                      rw [sourceNormal.normal] at originPath
                      rw [targetNormal.normal] at placePath
                      refine moveCommand_guarded parents ?_ ?_ moved
                      · rw [originPath]
                        exact taken reached directories
                      · have other : place.stat reached ≠
                            some .directory := by
                          have elsewhere := free reached directories
                          unfold Location.stat
                          rw [placePath]
                          split
                          · next directory =>
                              exact absurd directory elsewhere
                          · split
                            · nofun
                            · exact elsewhere
                        unfold Location.receiving
                        rw [if_neg other, placePath]
                        exact put reached directories

theorem linkFree_made {path current steps : Path}
    (linkFree : LinkFree tree current steps)
    (made : makeDirectories (fun _ => true) tree [] path = (true, next)) :
    LinkFree next current steps := by
  have noNew := @makeDirectories_noNewLinks tree path
    (fun _ => true) []
  rw [made] at noNew
  exact linkFree_of_noNewLinks noNew linkFree

theorem linkFree_dropLast {path : Path} (linkFree : LinkFree tree [] path) :
    LinkFree tree [] path.dropLast := by
  obtain ⟨last, whole⟩ := List.dropLast_prefix path
  rw [← whole] at linkFree
  exact (linkFree_append.mp linkFree).1

theorem move_guarded {sourcePath destinationPath : String}
    (keepsSlash : KeepsSlash server)
    (holds : Guarded server before tree)
    (careful : ∀ accepted ∈
      (moveChecks server sourcePath destinationPath tree).1.toOption,
        HoldsNoProtected server before (volumePath accepted.1)) :
    Guarded server before (move server sourcePath destinationPath tree).2 := by
  unfold move
  rcases (@readOnly_moveChecks server sourcePath
      destinationPath).bind_reached with same | ⟨accepted, checked, same⟩
  · rw [same]
    exact holds
  · rw [same]
    obtain ⟨source, destination⟩ := accepted
    rw [checked] at careful
    have clear := careful (source, destination) rfl
    obtain ⟨sourceSafe, destinationSafe, sourceFree, destinationFree, other⟩ :=
      moveChecks_ok keepsSlash holds.mounted checked
    dsimp only
    rw [bind_pure_reached]
    refine moveVolume_guarded holds sourceSafe.toNormalPath
      destinationSafe.toNormalPath ?_ ?_ ?_
    · intro next made origin located
      have sourceNext := linkFree_made (linkFree_dropLast sourceFree) made
      rw [locate_volumePath sourceSafe.toNormalPath sourceNext located]
      exact clear_of_holdsNoProtected sourceSafe.toNormalPath clear
    · intro next made
      obtain ⟨above, leaf, _, place⟩ := destinationSafe.volumePath_shape
      have plain := destinationSafe.plain_volumePath
      rw [place] at plain destinationFree other made ⊢
      rw [List.dropLast_concat] at destinationFree made
      exact makeDirectories_stat plain destinationFree other made
    · intro next made place located
      have destinationNext := linkFree_made destinationFree made
      rw [locate_volumePath destinationSafe.toNormalPath destinationNext
        located]
      exact destinationSafe.aside

/-! ### Removal -/

theorem removeChecks_ok {path safe : String}
    (keepsSlash : KeepsSlash server)
    (mounted : entry dataRoot tree = some .directory)
    (checked : removeChecks server path tree = (.ok safe, next)) :
    safePath server path false = .ok safe ∧ SafePath server safe ∧
      LinkFree tree [] (volumePath safe) := by
  obtain ⟨first, accepted, rest⟩ := lift_bind_eq_ok.mp checked
  have shape := safePath_shape keepsSlash accepted
  obtain ⟨_, free, rest⟩ :=
    (readOnly_assertNoSymlinks first true).bind_eq_ok.mp rest
  cases rest
  exact ⟨accepted, shape,
    (assertNoSymlinks_ok shape.toNormalPath mounted free).1 rfl⟩

def trashName (server : LaunchServer) (index : Nat) (id safe : String) :
    String :=
  toString (server.clock index) ++
    ("-" ++ (id ++ ("-" ++
      (normalizeSteps (pathSteps safe)).getLast?.getD "")))

theorem trashPlace_eq (index : Nat) (id safe : String) :
    trashPlace server index id safe =
      joinSteps [trashRoot, trashName server index id safe] := by
  unfold trashPlace trashName joinSteps
  rw [String.intercalate_cons_cons, String.intercalate_singleton]
  simp only [String.append_assoc]

theorem slash_not_mem_toString (number : Nat) :
    '/' ∉ (toString number).toList := by
  rw [Nat.toString_eq_ofList_toDigits, String.toList_ofList]
  intro slash
  have digit := Nat.isDigit_of_mem_toDigits (by decide) (by decide) slash
  cases digit

theorem slash_not_mem_trashName {index : Nat} {id safe : String}
    (slashFree : '/' ∉ id.toList) :
    '/' ∉ (trashName server index id safe).toList := by
  have base : '/' ∉
      ((normalizeSteps (pathSteps safe)).getLast?.getD "").toList := by
    cases last : (normalizeSteps (pathSteps safe)).getLast? with
    | none => exact List.not_mem_nil
    | some name =>
        exact slashFree_normalizeSteps safe name (List.mem_of_getLast? last)
  have dash : '/' ∉ "-".toList := by decide
  unfold trashName
  simp only [String.toList_append, List.mem_append, not_or]
  exact ⟨slash_not_mem_toString _, dash, slashFree, dash, base⟩

theorem id_infix_trashName (index : Nat) (id safe : String) :
    id.toList <:+: (trashName server index id safe).toList := by
  unfold trashName
  simp only [String.toList_append]
  refine ⟨(toString (server.clock index)).toList ++ "-".toList,
    "-".toList ++ ((normalizeSteps (pathSteps safe)).getLast?.getD "").toList,
    ?_⟩
  simp only [List.append_assoc]

theorem plain_of_long {id name : String} (long : 36 ≤ id.toList.length)
    (within : id.toList <:+: name.toList) :
    name ≠ "" ∧ name ≠ "." ∧ name ≠ ".." := by
  have lengths := within.length_le
  refine ⟨?_, ?_, ?_⟩
  all_goals
    rintro rfl
    exact absurd (long.trans lengths) (by decide)

theorem trashPlace_shape {index : Nat} {id safe : String}
    (long : 36 ≤ id.toList.length) (slashFree : '/' ∉ id.toList) :
    NormalPath (trashPlace server index id safe) ∧
      volumePath (trashPlace server index id safe) =
        (dataRoot ++ [trashRoot]) ++ [trashName server index id safe] := by
  have plainName := plain_of_long long
    (@id_infix_trashName server index id safe)
  have plain : Plain [trashRoot, trashName server index id safe] := by
    intro name member
    rcases List.mem_cons.mp member with rfl | last
    · decide
    · rw [List.mem_singleton.mp last]
      exact plainName
  have named : SlashFree [trashRoot, trashName server index id safe] := by
    intro name member
    rcases List.mem_cons.mp member with rfl | last
    · decide
    · rw [List.mem_singleton.mp last]
      exact slash_not_mem_trashName slashFree
  obtain ⟨normal, steps⟩ :=
    normalPath_joinSteps (List.cons_ne_nil _ _) plain named
  rw [trashPlace_eq]
  refine ⟨normal, ?_⟩
  unfold volumePath
  rw [steps]
  exact List.append_cons dataRoot trashRoot _

theorem trash_free {index : Nat} {safe : String}
    (fresh : FreshIdentifiers server.container)
    (made : makeDirectories (fun _ => true) tree []
      (dataRoot ++ [trashRoot]) = (true, next)) :
    stat ((dataRoot ++ [trashRoot]) ++
        [trashName server index (server.container.randomUUID tree) safe])
      next ≠ some .directory := by
  intro directory
  have within := @id_infix_trashName server index
    (server.container.randomUUID tree) safe
  obtain ⟨above, present⟩ := stat_names
    (plain_of_long (fresh.long tree) within)
    (List.mem_append_right _ (List.mem_singleton_self _)) directory
  obtain ⟨kind, here⟩ := Option.ne_none_iff_exists'.mp present
  have places := @makeDirectories_places tree (dataRoot ++ [trashRoot])
    (above ++
      [trashName server index (server.container.randomUUID tree) safe])
    (fun _ => true) [] kind
  rw [made] at places
  rcases places here with before | ⟨_, other, name, member, same⟩
  · exact fresh.unused tree _ (by rw [before]; exact Option.some_ne_none _) _
      (List.mem_append_right _ (List.mem_singleton_self _)) within
  · have names := List.singleton_inj.mp (List.append_inj_right' same rfl)
    have short : ∀ step ∈ dataRoot ++ [trashRoot],
        step.toList.length < 36 := by
      decide
    rw [names] at within
    exact absurd (fresh.long tree)
      (Nat.not_le.mpr (Nat.lt_of_le_of_lt within.length_le (short name member)))

theorem removeOne_guarded {item : String × Nat}
    (keepsSlash : KeepsSlash server)
    (fresh : FreshIdentifiers server.container)
    (careful : ∀ safe ∈ (safePath server item.1 false).toOption,
      HoldsNoProtected server before (volumePath safe)) :
    Keeps (Guarded server before) (removeOne server item) := by
  refine keeps_of_reached ?_
  intro tree holds
  unfold removeOne
  rcases (@readOnly_removeChecks server item.1).bind_reached with
    same | ⟨safe, checked, same⟩
  · rw [same]
    exact holds
  · rw [same, bind_of_ok (get_apply tree)]
    obtain ⟨accepted, shape, linkFree⟩ :=
      removeChecks_ok keepsSlash holds.mounted checked
    have clear := clear_of_holdsNoProtected shape.toNormalPath
      (careful safe (by rw [accepted]; rfl))
    obtain ⟨normal, place⟩ := @trashPlace_shape server item.2
      (server.container.randomUUID tree) safe (fresh.long tree)
      (fresh.slashFree tree)
    refine moveVolume_guarded holds shape.toNormalPath normal ?_ ?_ ?_
    · intro next made origin located
      have sourceNext := linkFree_made (linkFree_dropLast linkFree) made
      rw [locate_volumePath shape.toNormalPath sourceNext located]
      exact clear
    · intro next made
      rw [place, List.dropLast_concat] at made
      rw [place]
      exact trash_free fresh made
    · intro next made found located
      rw [place] at located
      obtain ⟨above, rfl⟩ := locate_leaf located
      exact (clear_of_fresh fresh holds
        (id_infix_trashName item.2 _ safe) above).aside

theorem remove_guarded {paths : List String}
    (keepsSlash : KeepsSlash server)
    (fresh : FreshIdentifiers server.container)
    (careful : ∀ path ∈ paths,
      ∀ safe ∈ (safePath server path false).toOption,
        HoldsNoProtected server before (volumePath safe)) :
    Keeps (Guarded server before) (remove server paths) := by
  refine (keeps_ensureDirectory trashRoot).bind fun _ => ?_
  refine Keeps.bind ?_ fun _ => keeps_pure _
  refine keeps_forEach fun item member => ?_
  obtain ⟨path, index⟩ := item
  have present := (List.mem_zipIdx_iff_getElem?.mp member)
  exact removeOne_guarded keepsSlash fresh
    (careful path (List.mem_of_getElem? present))

/-! ### Writes -/

theorem pending_shape (location : Location) (id : String) :
    ∃ above leaf, (location.pending id).path = above ++ [leaf] ∧
      id.toList <:+: leaf.toList := by
  unfold Location.pending
  split
  · refine ⟨_, _, rfl, ?_⟩
    rw [String.toList_append]
    exact (List.suffix_append _ _).isInfix
  · refine ⟨_, _, rfl, ?_⟩
    rw [String.toList_append]
    exact (List.suffix_append _ _).isInfix

variable {bytes : List UInt8}

theorem publish_guarded {pending location : Location}
    (clear : ∀ above tree place,
      locate (above ++ [pending.path.getLast?.getD ""]) tree = some place →
        Clear server before place)
    (named : ∃ above leaf, pending.path = above ++ [leaf])
    (aside : ∀ next, NoNewLinks tree next → ∀ place,
      locate location.path next = some place → Aside server before place)
    (holds : Guarded server before tree) :
    Guarded server before
      (writeFileAtomic.publish bytes pending location tree).2 := by
  have taken : ∀ tree place, locate pending.path tree = some place →
      Clear server before place := by
    intro tree place located
    obtain ⟨above, leaf, shape⟩ := named
    refine clear above tree place ?_
    rw [shape] at located ⊢
    rw [List.getLast?_concat]
    exact located
  have cleaned : ∀ problem, Keeps (Guarded server before) (do
      update fun tree => (unlink pending.path tree).getD tree
      throw problem : Program Node VolumeProblem PUnit) := by
    intro problem
    refine Keeps.bind (keeps_update ?_) fun _ => keeps_throw problem
    intro tree holds
    exact unlink_guarded holds (taken tree)
  unfold writeFileAtomic.publish
  cases added : add (.file bytes) pending.path tree with
  | none =>
      rw [handle_of_error (bind_of_error (attempt_of_none added) _)]
      exact (cleaned _).reached holds
  | some made =>
      have holdsMade := holds.of_kept fun _ _ here => add_keeps added here
      cases moved : moveCommand pending location made with
      | none =>
          rw [handle_of_error ((bind_of_ok (attempt_of_some added) _).trans
            (attempt_of_none moved))]
          exact (cleaned _).reached holdsMade
      | some final =>
          rw [handle_of_ok ((bind_of_ok (attempt_of_some added) _).trans
            (attempt_of_some moved))]
          refine moveCommand_guarded holdsMade (taken made) ?_ moved
          intro place located
          unfold Location.receiving at located
          split at located
          · exact (clear _ made place located).aside
          · refine aside made (add_noNewLinks ?_ added) place located
            intro rest kind inside
            rw [(entry_file inside).2]
            rfl

theorem writeFileAtomic_guarded {safe : String}
    (fresh : FreshIdentifiers server.container)
    (shape : SafePath server safe)
    (linkFree : LinkFree tree [] (volumePath safe).dropLast)
    (holds : Guarded server before tree) :
    Guarded server before
      (writeFileAtomic server.container safe bytes tree).2 := by
  unfold writeFileAtomic
  rw [lift_bind]
  cases located : absolute safe with
  | error problem => exact holds
  | ok location =>
      dsimp only
      rw [bind_of_ok (get_apply tree)]
      have place := absolute_ok located
      rw [shape.normal] at place
      obtain ⟨above, leaf, pending, within⟩ :=
        pending_shape location (server.container.randomUUID tree)
      have parents :=
        (@keeps_ensureParentDirectory server before safe) tree holds
      cases made : ensureParentDirectory safe tree with
      | mk outcome reached =>
          rw [made] at parents
          cases outcome with
          | error problem =>
              rw [bind_of_error made]
              exact parents
          | ok _ =>
              have directories := ensureParentDirectory_ok
                shape.toNormalPath holds.mounted made
              rw [bind_of_ok made]
              refine publish_guarded ?_ ⟨above, leaf, pending⟩ ?_ parents
              · intro higher tree found here
                rw [pending, List.getLast?_concat] at here
                obtain ⟨parent, rfl⟩ := locate_leaf here
                exact clear_of_fresh fresh holds within parent
              · intro next noNew found here
                have nextFree := linkFree_of_noNewLinks noNew
                  (linkFree_made linkFree directories)
                rw [place] at here
                rw [locate_volumePath shape.toNormalPath nextFree here]
                exact shape.aside

theorem write_guarded {path : String} {overwrite : Bool}
    (keepsSlash : KeepsSlash server)
    (fresh : FreshIdentifiers server.container)
    (holds : Guarded server before tree) :
    Guarded server before (write server path bytes overwrite tree).2 := by
  unfold write
  rw [lift_bind]
  split
  · rw [lift_bind]
    cases accepted : safePath server path false with
    | error problem => exact holds
    | ok safe =>
        dsimp only
        have shape := safePath_shape keepsSlash accepted
        rcases (readOnly_assertNoSymlinks safe false).bind_reached with
          same | ⟨_, free, same⟩
        · rw [same]
          exact holds
        · rw [same]
          have linkFree :=
            (assertNoSymlinks_ok shape.toNormalPath holds.mounted free).2
          rcases (readOnly_existsAt safe false).bind_reached with
            same | ⟨occupied, _, same⟩
          · rw [same]
            exact holds
          · rw [same, lift_bind]
            cases refuse (!overwrite && occupied) with
            | error problem => exact holds
            | ok _ =>
                dsimp only
                rw [bind_pure_reached]
                exact writeFileAtomic_guarded fresh shape linkFree holds
  · exact holds

/-! ### Results -/

theorem readOnly_list (path : String) : ReadOnly (list server path) := by
  refine ReadOnly.lift_bind ?_
  intro safe
  refine ReadOnly.bind ?_ fun _ => ReadOnly.bind ?_ fun _ => readOnly_pure _
  · split
    · exact readOnly_pure _
    · exact readOnly_assertNoSymlinks safe true
  · refine ReadOnly.lift_bind ?_
    intro location
    refine ReadOnly.bind ?_ fun _ => readOnly_lift _
    intro tree
    unfold observe
    split <;> rfl

theorem readOnly_read (path : String) : ReadOnly (read server path) := by
  refine ReadOnly.lift_bind ?_
  intro safe
  refine (readOnly_assertNoSymlinks safe true).bind fun _ => ?_
  exact (readOnly_readFileBytes safe maximumFileBytes).bind fun _ =>
    readOnly_lift _

theorem listed_unblocked {item : VolumeEntry}
    (shown : listed server item = true) :
    isBlocked server (normalizePath item.path) = false := by
  unfold listed at shown
  cases accepted : safePath server item.path false with
  | error problem =>
      rw [accepted] at shown
      cases shown
  | ok safe =>
      obtain ⟨normalized, _, unblocked⟩ := safePath_false accepted
      rw [normalized] at unblocked
      by_cases empty : item.path = ""
      · rw [if_pos empty] at unblocked
        rw [empty]
        have same : normalizePath "" = normalizePath "." := by decide
        rw [same]
        exact unblocked
      · rwa [if_neg empty] at unblocked

theorem list_shows {path : String} {result : FilesResult}
    (ended : list server path tree = (.ok result, next)) :
    ShowsOpen server tree result := by
  obtain ⟨safe, _, rest⟩ := lift_bind_eq_ok.mp ended
  obtain ⟨_, _, _, rest⟩ := bind_eq_ok.mp rest
  obtain ⟨entries, _, _, rest⟩ := bind_eq_ok.mp rest
  cases rest
  intro item member
  obtain ⟨entry, taken, rfl⟩ := List.mem_map.mp member
  exact listed_unblocked
    (List.mem_filter.mp (List.mem_of_mem_take taken)).2

theorem readFileBytes_ok {safe : String} {maximum : Nat}
    (normal : NormalPath safe) (linkFree : LinkFree tree [] (volumePath safe))
    (ended : readFileBytes safe maximum tree = (.ok bytes, next)) :
    entry (volumePath safe) tree = some (.file bytes) := by
  obtain ⟨location, located, rest⟩ := lift_bind_eq_ok.mp ended
  rw [bind_of_ok (get_apply tree)] at rest
  have content := (Prod.mk.inj rest).1
  have place := absolute_ok located
  rw [normal.normal] at place
  have found : location.stat tree = some (.file bytes) := by
    unfold limitedBytes at content
    split at content
    · split at content
      · cases content
      · cases content
        assumption
    · cases content
  refine stat_of_linkFree normal.plain_volumePath linkFree ?_
  unfold Location.stat at found
  rw [place] at found
  split at found
  · cases found
  · split at found
    · cases found
    · exact found

theorem read_shows {path : String} {result : FilesResult}
    (keepsSlash : KeepsSlash server)
    (mounted : entry dataRoot tree = some .directory)
    (ended : read server path tree = (.ok result, next)) :
    ShowsOpen server tree result := by
  obtain ⟨safe, accepted, rest⟩ := lift_bind_eq_ok.mp ended
  have shape := safePath_shape keepsSlash accepted
  obtain ⟨_, free, rest⟩ :=
    (readOnly_assertNoSymlinks safe true).bind_eq_ok.mp rest
  obtain ⟨bytes, content, rest⟩ :=
    (readOnly_readFileBytes safe maximumFileBytes).bind_eq_ok.mp rest
  have linkFree :=
    (assertNoSymlinks_ok shape.toNormalPath mounted free).1 rfl
  have here := readFileBytes_ok shape.toNormalPath linkFree content
  have text := (Prod.mk.inj rest).1
  unfold fileText at text
  split at text
  · cases text
  · split at text
    · cases text
    · next decoded =>
        cases text
        exact ⟨normalizeSteps (pathSteps safe), bytes, shape.unblocked, here,
          decoded, rfl⟩

theorem perform_shows {request : FilesRequest} {result : FilesResult}
    (keepsSlash : KeepsSlash server)
    (mounted : entry dataRoot tree = some .directory)
    (ended : perform server request tree = (.ok result, next)) :
    ShowsOpen server tree result := by
  cases request with
  | list path => exact list_shows ended
  | read path => exact read_shows keepsSlash mounted ended
  | write path bytes overwrite =>
      obtain ⟨_, _, rest⟩ := lift_bind_eq_ok.mp ended
      obtain ⟨_, _, rest⟩ := lift_bind_eq_ok.mp rest
      obtain ⟨_, _, _, rest⟩ := bind_eq_ok.mp rest
      obtain ⟨_, _, _, rest⟩ := bind_eq_ok.mp rest
      obtain ⟨_, _, rest⟩ := lift_bind_eq_ok.mp rest
      obtain ⟨_, _, _, rest⟩ := bind_eq_ok.mp rest
      cases rest
      trivial
  | mkdir path =>
      obtain ⟨_, _, rest⟩ := lift_bind_eq_ok.mp ended
      obtain ⟨_, _, _, rest⟩ := bind_eq_ok.mp rest
      obtain ⟨_, _, _, rest⟩ := bind_eq_ok.mp rest
      obtain ⟨_, _, rest⟩ := lift_bind_eq_ok.mp rest
      obtain ⟨_, _, _, rest⟩ := bind_eq_ok.mp rest
      cases rest
      trivial
  | move sourcePath destinationPath =>
      obtain ⟨⟨source, destination⟩, _, _, rest⟩ := bind_eq_ok.mp ended
      obtain ⟨_, _, _, rest⟩ := bind_eq_ok.mp rest
      cases rest
      trivial
  | remove paths =>
      obtain ⟨_, _, _, rest⟩ := bind_eq_ok.mp ended
      obtain ⟨_, _, _, rest⟩ := bind_eq_ok.mp rest
      cases rest
      trivial

theorem mkdir_guarded (path : String) :
    Keeps (Guarded server before) (mkdir server path) := by
  refine Keeps.lift_bind ?_
  intro safe
  refine (readOnly_assertNoSymlinks safe false).keeps.bind fun _ => ?_
  refine (readOnly_existsAt safe true).keeps.bind fun _ => ?_
  refine Keeps.lift_bind fun _ => ?_
  exact (keeps_ensureDirectory safe).bind fun _ => keeps_pure _

theorem perform_guarded {call : FilesCall}
    (keepsSlash : KeepsSlash server)
    (fresh : FreshIdentifiers call.container)
    (mounted : entry dataRoot tree = some .directory)
    (careful : TakesNoProtected server tree call) :
    Guarded server tree
      (perform (server.during call) call.request tree).2 := by
  have holds : Guarded (server.during call) tree tree :=
    ⟨mounted, fun _ _ protectedFile => protectedFile.2⟩
  have slash : KeepsSlash (server.during call) := keepsSlash
  have unused : FreshIdentifiers (server.during call).container := fresh
  have reached : Guarded (server.during call) tree
      (perform (server.during call) call.request tree).2 := by
    unfold TakesNoProtected at careful
    cases request : call.request with
    | list path => exact (readOnly_list path).keeps.reached holds
    | read path => exact (readOnly_read path).keeps.reached holds
    | write path bytes overwrite => exact write_guarded slash unused holds
    | mkdir path => exact (mkdir_guarded path).reached holds
    | move sourcePath destinationPath =>
        rw [request] at careful
        exact move_guarded slash holds careful
    | remove paths =>
        rw [request] at careful
        exact (remove_guarded slash unused careful).reached holds
  exact ⟨reached.mounted, reached.kept⟩

theorem filesStep_untouched {call : FilesCall} {effects : List FilesEffect}
    (keepsSlash : KeepsSlash server)
    (fresh : FreshIdentifiers call.container)
    (mounted : entry dataRoot tree = some .directory)
    (careful : TakesNoProtected server tree call)
    (step : filesStep server tree call = some (next, effects)) :
    Guarded server tree next ∧
      ∀ effect ∈ effects, Untouched server effect := by
  have guarded := perform_guarded keepsSlash fresh mounted careful
  cases step
  refine ⟨guarded, ?_⟩
  intro effect member
  cases List.mem_singleton.mp member
  refine ⟨?_, ?_⟩
  · exact fun steps bytes protectedFile =>
      ⟨protectedFile.1, guarded.kept steps bytes protectedFile⟩
  · intro result ended
    have shows := @perform_shows (server.during call) tree
      (perform (server.during call) call.request tree).2 call.request result
      keepsSlash mounted (Prod.ext ended rfl)
    cases result <;> exact shows

end Operations

/-! ## Main result -/

/-- In a run in which no accepted move or removal takes a protected file with
it, every protected file stays where it is and is never shown. -/
theorem protected_files_untouched
    {server : LaunchServer} {start final : Node} {calls : List FilesCall}
    {effects : List FilesEffect}
    (keepsSlash : KeepsSlash server)
    (fresh : ∀ call ∈ calls, FreshIdentifiers call.container)
    (mounted : entry dataRoot start = some .directory)
    (careful : Meets (filesStep server) (TakesNoProtected server) start calls)
    (run : execute (filesStep server) start calls = some (final, effects)) :
    (∀ effect ∈ effects, Untouched server effect) ∧
      ∀ steps bytes, ProtectedFile server start steps bytes →
        ProtectedFile server final steps bytes := by
  have both := careful.and (meets_of_forall fresh start)
  have holds := @execute_induction_of_meets _ _ _ (filesStep server) _
    (fun tree past => Guarded server start tree ∧
      ∀ effect ∈ past, Untouched server effect)
    (by
      rintro tree past call next now ⟨guarded, shown⟩ ⟨careful, fresh⟩ step
      obtain ⟨guardedNext, shownNow⟩ :=
        filesStep_untouched keepsSlash fresh guarded.mounted careful step
      refine ⟨⟨guardedNext.mounted, ?_⟩, ?_⟩
      · exact fun steps bytes protectedFile => guardedNext.kept steps bytes
          ⟨protectedFile.1, guarded.kept steps bytes protectedFile⟩
      · intro effect member
        rcases List.mem_append.mp member with before | added
        · exact shown effect before
        · exact shownNow effect added)
    calls start final effects
    ⟨⟨mounted, fun _ _ protectedFile => protectedFile.2⟩, by simp⟩ both run
  exact ⟨holds.2, fun steps bytes protectedFile =>
    ⟨protectedFile.1, holds.1.kept steps bytes protectedFile⟩⟩

section Example

def exampleIdentifier : String := "5f0c2f6e-3f0e-4a8b-9d5e-0123456789ab"

/-- An identifier, or a longer one if a name of the tree has it. -/
def exampleUUID (tree : Node) : String :=
  if ∀ name ∈ tree.paths.flatten,
      ¬ exampleIdentifier.toList <:+: name.toList then
    exampleIdentifier
  else
    String.ofList (List.replicate
      (36 + (tree.paths.flatten.map String.toList).flatten.length) 'x')

def exampleContainer : Container where
  randomUUID := exampleUUID
  attributes := fun _ => ("2", "1700000000.0")
  isoDate := fun _ => some "2023-11-14T22:13:20.000Z"

def exampleServer : LaunchServer where
  container := exampleContainer
  toLowerCase := fun text => String.ofList (text.toList.map Char.toLower)
  decode := fun bytes =>
    some (String.ofList (bytes.map fun byte => Char.ofNat byte.toNat))
  sha256 := fun _ => "digest"
  clock := fun index => 1700000000000 + index

def exampleCall (request : FilesRequest) : FilesCall :=
  ⟨exampleContainer, exampleServer.clock, request⟩

def exampleVolume : Node :=
  .directory [("app", .directory [("data", .directory
    [("config", .directory [("launchserver.json", .file [123, 125])]),
      ("updates", .directory [("a.txt", .file [104, 105])])])])]

theorem exampleServer_keepsSlash : KeepsSlash exampleServer := by
  intro text
  apply String.toList_inj.mp
  have lower : ['/'].map Char.toLower = ['/'] := by decide
  have slash : "/".toList = ['/'] := rfl
  unfold exampleServer
  simp only [String.toList_append, String.toList_ofList, slash,
    List.map_append, lower]

theorem exampleUUID_cases (tree : Node) :
    (exampleUUID tree = exampleIdentifier ∧
      ∀ name ∈ tree.paths.flatten,
        ¬ exampleIdentifier.toList <:+: name.toList) ∨
    (exampleUUID tree).toList = List.replicate
      (36 + (tree.paths.flatten.map String.toList).flatten.length) 'x' := by
  unfold exampleUUID
  split
  · next unused => exact .inl ⟨rfl, unused⟩
  · exact .inr String.toList_ofList

theorem exampleContainer_fresh : FreshIdentifiers exampleContainer := by
  refine ⟨?_, ?_, ?_⟩
  · intro tree
    show 36 ≤ (exampleUUID tree).toList.length
    rcases exampleUUID_cases tree with ⟨same, _⟩ | long
    · rw [same]
      decide
    · rw [long, List.length_replicate]
      exact Nat.le_add_right _ _
  · intro tree
    show '/' ∉ (exampleUUID tree).toList
    rcases exampleUUID_cases tree with ⟨same, _⟩ | long
    · rw [same]
      decide
    · rw [long]
      intro slash
      cases List.eq_of_mem_replicate slash
  · intro tree path present name member within
    replace within : (exampleUUID tree).toList <:+: name.toList := within
    have listed : name ∈ tree.paths.flatten :=
      List.mem_flatten.mpr ⟨path, mem_paths present, member⟩
    rcases exampleUUID_cases tree with ⟨same, unused⟩ | long
    · rw [same] at within
      exact unused name listed within
    · have shorter := (List.sublist_flatten_of_mem
        (@List.mem_map_of_mem _ _ _ _ String.toList listed)).length_le
      have lengths := within.length_le
      rw [long, List.length_replicate] at lengths
      omega

theorem protected_files_untouched_example :
    ∃ final effects,
      execute (filesStep exampleServer) exampleVolume
          ([.write "updates/b.txt" [104] false, .move "updates" "x/y",
            .remove ["x/y/a.txt", "x"], .read "config/launchserver.json",
            .list ""].map exampleCall) = some (final, effects) ∧
        (∀ effect ∈ effects, Untouched exampleServer effect) ∧
          ProtectedFile exampleServer final ["config", "launchserver.json"]
            [123, 125] := by
  cases run : execute (filesStep exampleServer) exampleVolume
      ([.write "updates/b.txt" [104] false, .move "updates" "x/y",
        .remove ["x/y/a.txt", "x"], .read "config/launchserver.json",
        .list ""].map exampleCall) with
  | none =>
      exact absurd run (by decide +kernel)
  | some ended =>
      obtain ⟨final, effects⟩ := ended
      obtain ⟨untouched, kept⟩ :=
        protected_files_untouched exampleServer_keepsSlash
          (by
            intro call member
            obtain ⟨request, _, rfl⟩ := List.mem_map.mp member
            exact exampleContainer_fresh)
          (by decide +kernel) (by decide +kernel) run
      exact ⟨final, effects, rfl, untouched,
        kept _ _ ⟨by decide +kernel, by decide +kernel⟩⟩

/-- A directory with a protected file in it is moved, and the file is read
under its new path. -/
theorem moved_directory_shows_protected_file :
    ∃ final effects,
      execute (filesStep exampleServer) exampleVolume
          ([.move "config" "moved", .read "moved/launchserver.json"].map
            exampleCall) = some (final, effects) ∧
        ProtectedFile exampleServer exampleVolume
            ["config", "launchserver.json"] [123, 125] ∧
          entry (dataRoot ++ ["config", "launchserver.json"]) final = none ∧
            effects.map (fun effect => effect.outcome.toOption) =
              [some (.moved "config" "moved"),
                some (.text "moved/launchserver.json" "{}" 2 "digest")] := by
  have ended : (execute (filesStep exampleServer) exampleVolume
      ([.move "config" "moved", .read "moved/launchserver.json"].map
        exampleCall)).map (fun result =>
          (entry (dataRoot ++ ["config", "launchserver.json"]) result.1,
            result.2.map fun effect => effect.outcome.toOption)) =
      some (none, [some (.moved "config" "moved"),
        some (.text "moved/launchserver.json" "{}" 2 "digest")]) := by
    decide +kernel
  obtain ⟨⟨final, effects⟩, run, shown⟩ := Option.map_eq_some_iff.mp ended
  obtain ⟨gone, outcomes⟩ := Prod.mk.inj shown
  exact ⟨final, effects, run, ⟨by decide +kernel, by decide +kernel⟩, gone,
    outcomes⟩

end Example

end GravitPanel.Gravit
