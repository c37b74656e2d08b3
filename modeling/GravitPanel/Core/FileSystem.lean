import GravitPanel.Core.FileTree
import GravitPanel.Core.Program

/-!
# Paths in a file tree

Following links, and the operations of a system on paths.  An operation that
fails leaves the tree as it is.
-/

namespace GravitPanel.FileTree

/-- One walk from a directory, which jumps at a link. -/
def walk (jump : Path → Path → Option Path) (tree : Node) :
    Path → Path → Option Path
  | current, [] => some current
  | current, step :: rest =>
      if step = "" ∨ step = "." then
        walk jump tree current rest
      else if step = ".." then
        walk jump tree current.dropLast rest
      else
        match entry (current ++ [step]) tree with
        | none => none
        | some (.link absolute steps) =>
            jump (if absolute then [] else current) (steps ++ rest)
        | some .directory => walk jump tree (current ++ [step]) rest
        | some (.file _) =>
            if rest = [] then some (current ++ [step]) else none

/-- The place that is reached through at most the given number of links. -/
def resolve (tree : Node) : Nat → Path → Path → Option Path
  | 0 => walk (fun _ _ => none) tree
  | links + 1 => walk (resolve tree links) tree

def maximumLinks : Nat := 40

def realPath (path : Path) (tree : Node) : Option Path :=
  resolve tree maximumLinks [] path

/-- The place of an entry, whether it is there or not: its parent is a
directory that is reached, and its last name is not followed. -/
def locate (path : Path) (tree : Node) : Option Path :=
  match path.getLast? with
  | none => none
  | some leaf =>
      match realPath path.dropLast tree with
      | none => none
      | some parent =>
          if entry parent tree = some .directory then some (parent ++ [leaf])
          else none

def stat (path : Path) (tree : Node) : Option Kind :=
  (realPath path tree).bind fun place => entry place tree

/-- The kind of the entry itself. -/
def lstat (path : Path) (tree : Node) : Option Kind :=
  match path with
  | [] => entry [] tree
  | _ => (locate path tree).bind fun place => entry place tree

/-- A new entry where there is none. -/
def add (node : Node) (path : Path) (tree : Node) : Option Node :=
  match locate path tree with
  | none => none
  | some place =>
      if entry place tree = none then some (store (some node) place tree)
      else none

/-- An entry that `rename` may put another one on. -/
def replaceable (node : Node) : Option Node → Bool
  | none => true
  | some (.directory children) =>
      node.kind = .directory && children.isEmpty
  | some _ => node.kind ≠ .directory

def nameFits (path : Path) : Bool :=
  (path.getLast?.getD "").utf8ByteSize ≤ 255

/-- `rename` as far as the tree decides it. -/
def rename (source target : Path) (tree : Node) : Option Node :=
  match locate source tree, locate target tree with
  | some origin, some place =>
      match lookup origin tree with
      | none => none
      | some node =>
          if origin = place then
            some tree
          else if origin <+: place ∨ place <+: origin then
            none
          else if nameFits place && replaceable node (lookup place tree) then
            some (store (some node) place (store none origin tree))
          else
            none
  | _, _ => none

/-- A file, a link or an empty directory is removed. -/
def unlink (path : Path) (tree : Node) : Option Node :=
  match locate path tree with
  | none => none
  | some place =>
      match lookup place tree with
      | none => none
      | some (.directory (_ :: _)) => none
      | some _ => some (store none place tree)

/-- An operation that the system may refuse whatever the tree is. -/
def permit (allowed : Bool) (operation : Node → Option Node) (tree : Node) :
    Option Node :=
  if allowed then operation tree else none

theorem permit_eq_some {allowed : Bool} {operation : Node → Option Node}
    {tree next : Node} :
    permit allowed operation tree = some next ↔
      allowed = true ∧ operation tree = some next := by
  unfold permit
  cases allowed <;> simp

/-- The missing directories on a path, up to the first that cannot be made. -/
def makeDirectories (permits : Path → Bool) (tree : Node) :
    Path → Path → Bool × Node
  | _, [] => (true, tree)
  | done, name :: rest =>
      match stat (done ++ [name]) tree with
      | some .directory => makeDirectories permits tree (done ++ [name]) rest
      | some _ => (false, tree)
      | none =>
          match permit (permits (done ++ [name]))
              (add (.directory []) (done ++ [name])) tree with
          | none => (false, tree)
          | some made => makeDirectories permits made (done ++ [name]) rest

def readFile (path : Path) (tree : Node) : Option (List UInt8) :=
  match stat path tree with
  | some (.file bytes) => some bytes
  | _ => none

def readDirectory (path : Path) (tree : Node) :
    Option (List (String × Kind)) :=
  match (realPath path tree).bind fun place => lookup place tree with
  | some (.directory children) =>
      some (children.filterMap fun child =>
        ((Node.directory children).child child.1).map fun node =>
          (child.1, node.kind))
  | _ => none

/-- The names between the slashes of a text. -/
def pathSteps (text : String) : Path :=
  (text.toList.splitOn '/').map String.ofList

section Programs

open Program

variable {Error Value : Type}
variable {problem : Error}

/-- An operation that throws if it fails. -/
def attempt (problem : Error) (operation : Node → Option Node) :
    Program Node Error PUnit :=
  fun tree =>
    match operation tree with
    | some next => (.ok ⟨⟩, next)
    | none => (.error problem, tree)

/-- An observation that throws if it fails. -/
def observe (problem : Error) (observation : Node → Option Value) :
    Program Node Error Value :=
  fun tree =>
    match observation tree with
    | some value => (.ok value, tree)
    | none => (.error problem, tree)

/-- `mkdir -p` from a directory on. -/
def ensureDirectories (problem : Error) (permits : Path → Bool)
    (done path : Path) : Program Node Error PUnit :=
  fun tree =>
    match makeDirectories permits tree done path with
    | (true, next) => (.ok ⟨⟩, next)
    | (false, next) => (.error problem, next)

theorem attempt_of_some {operation : Node → Option Node}
    {tree next : Node} (operated : operation tree = some next) :
    attempt problem operation tree = (.ok ⟨⟩, next) := by
  unfold attempt
  rw [operated]

theorem attempt_of_none {operation : Node → Option Node}
    {tree : Node} (failed : operation tree = none) :
    attempt problem operation tree = (.error problem, tree) := by
  unfold attempt
  rw [failed]

theorem observe_of_some {observation : Node → Option Value}
    {tree : Node} {value : Value} (observed : observation tree = some value) :
    observe problem observation tree = (.ok value, tree) := by
  unfold observe
  rw [observed]

theorem observe_of_none {observation : Node → Option Value}
    {tree : Node} (failed : observation tree = none) :
    observe problem observation tree = (.error problem, tree) := by
  unfold observe
  rw [failed]

theorem ensureDirectories_of_made
    {permits : Path → Bool} {done path : Path} {tree next : Node}
    (made : makeDirectories permits tree done path = (true, next)) :
    ensureDirectories problem permits done path tree = (.ok ⟨⟩, next) := by
  unfold ensureDirectories
  rw [made]

theorem ensureDirectories_of_failed
    {permits : Path → Bool} {done path : Path} {tree next : Node}
    (failed : makeDirectories permits tree done path = (false, next)) :
    ensureDirectories problem permits done path tree =
      (.error problem, next) := by
  unfold ensureDirectories
  rw [failed]

theorem keeps_ensureDirectories {invariant : Node → Prop}
    {permits : Path → Bool} {done path : Path}
    (kept : ∀ tree, invariant tree →
      invariant (makeDirectories permits tree done path).2) :
    Keeps invariant (ensureDirectories problem permits done path) := by
  intro tree holds
  have reached := kept tree holds
  unfold ensureDirectories
  cases made : makeDirectories permits tree done path with
  | mk done next =>
      rw [made] at reached
      cases done <;> exact reached

end Programs
variable {tree : Node} {kind : Kind} {done : Path}

/-- Names that are no step of another kind. -/
def Plain (names : Path) : Prop :=
  ∀ name ∈ names, name ≠ "" ∧ name ≠ "." ∧ name ≠ ".."

/-- There is no link at any step of a path from a directory. -/
def LinkFree (tree : Node) : Path → Path → Prop
  | _, [] => True
  | current, step :: rest =>
      (∀ kind, entry (current ++ [step]) tree = some kind →
        kind.isLink = false) ∧
        LinkFree tree (current ++ [step]) rest

theorem linkFree_append {current first second : Path} :
    LinkFree tree current (first ++ second) ↔
      LinkFree tree current first ∧
        LinkFree tree (current ++ first) second := by
  induction first generalizing current with
  | nil => simp [LinkFree]
  | cons step rest ih =>
      have shifted : current ++ step :: rest = (current ++ [step]) ++ rest :=
        List.append_cons current step rest
      simp only [List.cons_append, LinkFree, ih, shifted,
        and_assoc]

theorem linkFree_of_entry {current steps : Path}
    (found : entry (current ++ steps) tree = some kind)
    (plain : kind.isLink = false) :
    LinkFree tree current steps := by
  induction steps generalizing current with
  | nil => trivial
  | cons step rest ih =>
      have shifted : current ++ step :: rest = (current ++ [step]) ++ rest :=
        List.append_cons current step rest
      rw [shifted] at found
      refine ⟨?_, ih found⟩
      intro other here
      cases rest with
      | nil =>
          rw [List.append_nil] at found
          cases found.symm.trans here
          exact plain
      | cons next others =>
          cases (entry_above found).symm.trans here
          rfl

theorem linkFree_of_absent {current : Path}
    (absent : entry current tree = none) (steps : Path) :
    LinkFree tree current steps := by
  induction steps generalizing current with
  | nil => trivial
  | cons step rest ih =>
      have below := entry_below [step] absent
      refine ⟨?_, ih below⟩
      intro kind here
      cases below.symm.trans here

theorem walk_of_linkFree {jump : Path → Path → Option Path}
    {current steps reached : Path}
    (plain : Plain steps) (linkFree : LinkFree tree current steps)
    (walked : walk jump tree current steps = some reached) :
    reached = current ++ steps := by
  induction steps generalizing current with
  | nil =>
      cases walked
      exact (List.append_nil _).symm
  | cons step rest ih =>
      obtain ⟨named, notDot, notParent⟩ := plain step List.mem_cons_self
      have others : Plain rest := fun name member =>
        plain name (List.mem_cons_of_mem step member)
      have shifted : current ++ step :: rest = (current ++ [step]) ++ rest :=
        List.append_cons current step rest
      unfold walk at walked
      rw [if_neg (not_or.mpr ⟨named, notDot⟩), if_neg notParent] at walked
      cases here : entry (current ++ [step]) tree with
      | none =>
          rw [here] at walked
          cases walked
      | some kind =>
          rw [here] at walked
          cases kind with
          | link absolute target => cases linkFree.1 _ here
          | directory =>
              rw [shifted]
              exact ih others linkFree.2 walked
          | file bytes =>
              dsimp only at walked
              by_cases last : rest = []
              · rw [if_pos last] at walked
                cases walked
                rw [last]
              · rw [if_neg last] at walked
                cases walked

theorem realPath_of_linkFree {path reached : Path}
    (plain : Plain path) (linkFree : LinkFree tree [] path)
    (found : realPath path tree = some reached) :
    reached = path :=
  walk_of_linkFree plain linkFree found

theorem locate_of_linkFree {parent place : Path} {leaf : String}
    (plain : Plain parent) (linkFree : LinkFree tree [] parent)
    (found : locate (parent ++ [leaf]) tree = some place) :
    place = parent ++ [leaf] ∧ entry parent tree = some .directory := by
  unfold locate at found
  rw [List.getLast?_concat, List.dropLast_concat] at found
  dsimp only at found
  cases reached : realPath parent tree with
  | none =>
      rw [reached] at found
      cases found
  | some other =>
      have same := realPath_of_linkFree plain linkFree reached
      subst same
      rw [reached] at found
      dsimp only at found
      by_cases directory : entry other tree = some .directory
      · rw [if_pos directory] at found
        cases found
        exact ⟨rfl, directory⟩
      · rw [if_neg directory] at found
        cases found

theorem stat_of_linkFree {path : Path}
    (plain : Plain path) (linkFree : LinkFree tree [] path)
    (found : stat path tree = some kind) :
    entry path tree = some kind := by
  obtain ⟨place, reached, here⟩ := Option.bind_eq_some_iff.mp found
  rwa [realPath_of_linkFree plain linkFree reached] at here

theorem lstat_of_linkFree {path : Path}
    (plain : Plain path) (linkFree : LinkFree tree [] path)
    (found : lstat path tree = some kind) :
    entry path tree = some kind := by
  unfold lstat at found
  split at found
  · exact found
  · next named =>
      obtain ⟨place, located, here⟩ := Option.bind_eq_some_iff.mp found
      rcases List.eq_nil_or_concat path with empty | ⟨above, leaf, same⟩
      · exact absurd empty named
      · rw [List.concat_eq_append] at same
        subst same
        have reached := (locate_of_linkFree
          (fun name member => plain name (List.mem_append_left _ member))
          (linkFree_append.mp linkFree).1 located).1
        rwa [reached] at here

theorem readFile_of_linkFree {path : Path}
    {bytes : List UInt8}
    (plain : Plain path) (linkFree : LinkFree tree [] path)
    (read : readFile path tree = some bytes) :
    entry path tree = some (.file bytes) := by
  unfold readFile at read
  cases found : stat path tree with
  | none =>
      rw [found] at read
      cases read
  | some kind =>
      rw [found] at read
      cases kind with
      | file content =>
          cases read
          exact stat_of_linkFree plain linkFree found
      | link absolute steps => cases read
      | directory => cases read

theorem readDirectory_of_linkFree {path : Path}
    {items : List (String × Kind)}
    (plain : Plain path) (linkFree : LinkFree tree [] path)
    (read : readDirectory path tree = some items) :
    ∀ item ∈ items, entry (path ++ [item.1]) tree = some item.2 := by
  intro item member
  unfold readDirectory at read
  cases reached : realPath path tree with
  | none =>
      rw [reached] at read
      cases read
  | some place =>
      have same := realPath_of_linkFree plain linkFree reached
      subst same
      rw [reached, Option.bind_some] at read
      cases found : lookup place tree with
      | none =>
          rw [found] at read
          cases read
      | some node =>
          rw [found] at read
          cases node with
          | file bytes => cases read
          | link absolute steps => cases read
          | directory children =>
              cases read
              obtain ⟨child, _, listed⟩ := List.mem_filterMap.mp member
              obtain ⟨inner, below, rfl⟩ := Option.map_eq_some_iff.mp listed
              refine entry_eq_some.mpr ⟨inner, ?_, rfl⟩
              rw [lookup_append, found, Option.bind_some]
              show ((Node.directory children).child child.1).bind
                (lookup []) = some inner
              rw [below]
              rfl

/-- What holds where no link is followed, and of a walk if it holds of its
jumps, holds of every resolution. -/
theorem resolve_induction {motive : (Path → Path → Option Path) → Prop}
    (ends : motive fun _ _ => none)
    (walks : ∀ jump, motive jump → motive (walk jump tree)) (links : Nat) :
    motive (resolve tree links) := by
  induction links with
  | zero => exact walks _ ends
  | succ links ih => exact walks _ ih

theorem walk_plain {jump : Path → Path → Option Path}
    (jumps : ∀ current steps reached, Plain current →
      LinkFree tree [] current → jump current steps = some reached →
        Plain reached ∧ LinkFree tree [] reached)
    {current steps reached : Path}
    (plain : Plain current) (linkFree : LinkFree tree [] current)
    (walked : walk jump tree current steps = some reached) :
    Plain reached ∧ LinkFree tree [] reached := by
  induction steps generalizing current with
  | nil =>
      cases walked
      exact ⟨plain, linkFree⟩
  | cons step rest ih =>
      unfold walk at walked
      by_cases skipped : step = "" ∨ step = "."
      · rw [if_pos skipped] at walked
        exact ih plain linkFree walked
      · rw [if_neg skipped] at walked
        by_cases parent : step = ".."
        · rw [if_pos parent] at walked
          have shorter : current.dropLast <+: current :=
            List.dropLast_prefix current
          obtain ⟨last, whole⟩ := shorter
          refine ih ?_ ?_ walked
          · exact fun name member =>
              plain name ((List.dropLast_subset current) member)
          · rw [← whole] at linkFree
            exact (linkFree_append.mp linkFree).1
        · rw [if_neg parent] at walked
          have longer : Plain (current ++ [step]) := by
            intro name member
            rcases List.mem_append.mp member with before | added
            · exact plain name before
            · cases List.mem_singleton.mp added
              exact ⟨(not_or.mp skipped).1, (not_or.mp skipped).2, parent⟩
          cases here : entry (current ++ [step]) tree with
          | none =>
              rw [here] at walked
              cases walked
          | some kind =>
              rw [here] at walked
              cases kind with
              | link absolute target =>
                  cases absolute with
                  | true => exact jumps [] _ _ (by simp [Plain]) trivial walked
                  | false => exact jumps current _ _ plain linkFree walked
              | directory =>
                  exact ih longer
                    (linkFree_of_entry here rfl) walked
              | file bytes =>
                  dsimp only at walked
                  by_cases last : rest = []
                  · rw [if_pos last] at walked
                    cases walked
                    exact ⟨longer, linkFree_of_entry here rfl⟩
                  · rw [if_neg last] at walked
                    cases walked

theorem realPath_plain {path reached : Path}
    (found : realPath path tree = some reached) :
    Plain reached ∧ LinkFree tree [] reached := by
  have resolved := @resolve_induction tree
    (fun jump => ∀ current steps reached, Plain current →
      LinkFree tree [] current → jump current steps = some reached →
        Plain reached ∧ LinkFree tree [] reached)
    (fun _ _ _ _ _ jumped => by cases jumped)
    (fun _ jumps _ _ _ plain linkFree walked =>
      walk_plain jumps plain linkFree walked)
  exact resolved maximumLinks [] path reached (by simp [Plain]) trivial found

theorem realPath_of_entry {path : Path}
    (plain : Plain path) (here : entry path tree = some kind)
    (noLink : kind.isLink = false) :
    realPath path tree = some path := by
  have walked : ∀ (jump : Path → Path → Option Path) (steps current : Path),
      Plain steps → entry (current ++ steps) tree = some kind →
        walk jump tree current steps = some (current ++ steps) := by
    intro jump steps
    induction steps with
    | nil =>
        intro current _ _
        exact congrArg some (List.append_nil _).symm
    | cons step rest ih =>
        intro current plain here
        obtain ⟨named, notDot, notParent⟩ := plain step List.mem_cons_self
        have others : Plain rest := fun name member =>
          plain name (List.mem_cons_of_mem step member)
        rw [List.append_cons current step rest] at here ⊢
        unfold walk
        rw [if_neg (not_or.mpr ⟨named, notDot⟩), if_neg notParent]
        cases rest with
        | nil =>
            rw [List.append_nil] at here ⊢
            rw [here]
            cases kind with
            | file bytes => rfl
            | link absolute target => cases noLink
            | directory => rfl
        | cons next more =>
            rw [entry_above here]
            exact ih _ others here
  exact walked _ path [] plain here

theorem stat_of_directory {path : Path}
    (plain : Plain path) (here : entry path tree = some .directory) :
    stat path tree = some .directory := by
  unfold stat
  rw [realPath_of_entry plain here rfl]
  exact here

theorem locate_of_directory {parent : Path} (leaf : String)
    (plain : Plain parent) (here : entry parent tree = some .directory) :
    locate (parent ++ [leaf]) tree = some (parent ++ [leaf]) := by
  unfold locate
  rw [List.getLast?_concat, List.dropLast_concat,
    realPath_of_entry plain here rfl]
  exact if_pos here

theorem lstat_of_directory {parent : Path} (leaf : String)
    (plain : Plain parent) (here : entry parent tree = some .directory) :
    lstat (parent ++ [leaf]) tree = entry (parent ++ [leaf]) tree := by
  unfold lstat
  split
  · next empty => exact absurd empty (by simp)
  · rw [locate_of_directory leaf plain here]
    rfl

/-! ## What operations keep -/

section Frame

variable {tree next : Node} {path place other : Path}
variable {permits : Path → Bool}

theorem locate_shape (found : locate path tree = some place) :
    ∃ parent leaf, place = parent ++ [leaf] ∧
      entry parent tree = some .directory := by
  unfold locate at found
  split at found
  · cases found
  · split at found
    · cases found
    · split at found
      · cases found
        exact ⟨_, _, rfl, by assumption⟩
      · cases found

theorem entry_store (value : Option Node)
    (found : locate path tree = some place)
    (apart : ¬ place <+: other) :
    entry other (store value place tree) = entry other tree := by
  obtain ⟨parent, leaf, rfl, _⟩ := locate_shape found
  exact entry_store_other value apart

theorem lookup_store (value : Option Node)
    (found : locate path tree = some place) (rest : Path) :
    lookup (place ++ rest) (store value place tree) =
      value.bind (lookup rest) := by
  obtain ⟨parent, leaf, rfl, directory⟩ := locate_shape found
  rw [List.append_assoc]
  exact lookup_store_self value directory rest

variable {source target : Path} {node : Node}

theorem add_of_absent
    (found : locate path tree = some place)
    (absent : entry place tree = none) :
    add node path tree = some (store (some node) place tree) := by
  unfold add
  rw [found]
  exact if_pos absent

theorem add_eq_some (added : add node path tree = some next) :
    ∃ place, locate path tree = some place ∧ entry place tree = none ∧
      next = store (some node) place tree := by
  unfold add at added
  split at added
  · cases added
  · next place found =>
      by_cases absent : entry place tree = none
      · rw [if_pos absent] at added
        cases added
        exact ⟨place, found, absent, rfl⟩
      · rw [if_neg absent] at added
        cases added

theorem add_keeps {kind : Kind}
    (added : add node path tree = some next)
    (here : entry other tree = some kind) :
    entry other next = some kind := by
  obtain ⟨place, found, absent, rfl⟩ := add_eq_some added
  by_cases below : place <+: other
  · obtain ⟨rest, rfl⟩ := below
    cases (entry_below rest absent).symm.trans here
  · rw [entry_store _ found below]
    exact here

theorem unlink_eq_some (unlinked : unlink path tree = some next) :
    ∃ place, locate path tree = some place ∧
      next = store none place tree := by
  unfold unlink at unlinked
  split at unlinked
  · cases unlinked
  · next place found =>
      split at unlinked
      · cases unlinked
      · cases unlinked
      · cases unlinked
        exact ⟨place, found, rfl⟩

theorem rename_eq_some
    (renamed : rename source target tree = some next) :
    ∃ origin place, locate source tree = some origin ∧
      locate target tree = some place ∧
        (next = tree ∨
          ∃ node, lookup origin tree = some node ∧ ¬ origin <+: place ∧
            ¬ place <+: origin ∧
              replaceable node (lookup place tree) = true ∧
                next = store (some node) place (store none origin tree)) := by
  unfold rename at renamed
  split at renamed
  · next origin place fromHere toHere =>
      refine ⟨origin, place, fromHere, toHere, ?_⟩
      split at renamed
      · cases renamed
      · next node moved =>
          by_cases same : origin = place
          · rw [if_pos same] at renamed
            cases renamed
            exact .inl rfl
          · rw [if_neg same] at renamed
            by_cases nested : origin <+: place ∨ place <+: origin
            · rw [if_pos nested] at renamed
              cases renamed
            · rw [if_neg nested] at renamed
              by_cases free : (nameFits place &&
                  replaceable node (lookup place tree)) = true
              · rw [if_pos free] at renamed
                cases renamed
                exact .inr ⟨node, moved, (not_or.mp nested).1,
                  (not_or.mp nested).2, (Bool.and_eq_true_iff.mp free).2, rfl⟩
              · rw [if_neg free] at renamed
                cases renamed
  · cases renamed

theorem entry_rename {origin : Path}
    (fromHere : locate source tree = some origin)
    (toHere : locate target tree = some place)
    (apart : ¬ origin <+: other) (besides : ¬ place <+: other) :
    entry other (store (some node) place (store none origin tree)) =
      entry other tree := by
  obtain ⟨parent, leaf, rfl, _⟩ := locate_shape toHere
  rw [entry_store_other _ besides]
  exact entry_store _ fromHere apart

theorem rename_keeps_file {bytes : List UInt8}
    (renamed : rename source target tree = some next)
    (here : entry other tree = some (.file bytes))
    (apart : ∀ origin, locate source tree = some origin →
      ¬ origin <+: other)
    (besides : ∀ place, locate target tree = some place → other ≠ place) :
    entry other next = some (.file bytes) := by
  obtain ⟨origin, place, fromHere, toHere, rfl | moved⟩ :=
    rename_eq_some renamed
  · exact here
  · obtain ⟨node, _, _, _, free, rfl⟩ := moved
    by_cases below : place <+: other
    · obtain ⟨rest, rfl⟩ := below
      cases rest with
      | nil => exact absurd (List.append_nil _) (besides place toHere)
      | cons name others =>
          obtain ⟨target, held, directory⟩ :=
            entry_eq_some.mp (entry_above here)
          obtain ⟨file, reached, _⟩ := entry_eq_some.mp here
          rw [lookup_append, held] at reached
          rw [held] at free
          cases target with
          | file content => cases directory
          | link absolute steps => cases directory
          | directory children =>
              cases children with
              | nil => cases reached
              | cons child more =>
                  have empty := (Bool.and_eq_true_iff.mp free).2
                  cases empty
    · rw [entry_rename fromHere toHere (apart origin fromHere) below]
      exact here

theorem makeDirectories_keeps {kind : Kind} {done : Path}
    (here : entry other tree = some kind) :
    entry other (makeDirectories permits tree done path).2 = some kind := by
  induction path generalizing tree done with
  | nil => exact here
  | cons name rest ih =>
      unfold makeDirectories
      split
      · exact ih here
      · exact here
      · split
        · exact here
        · next made allowed =>
            have added := (permit_eq_some.mp allowed).2
            exact ih (add_keeps added here)

theorem entry_add_self
    (added : add node path tree = some next)
    (found : locate path tree = some place) (rest : Path) :
    entry (place ++ rest) next = entry rest node := by
  obtain ⟨same, foundToo, _, rfl⟩ := add_eq_some added
  cases found.symm.trans foundToo
  unfold entry
  rw [lookup_store _ found]
  rfl

theorem linkFree_of_empty {current : Path}
    (empty : ∀ step, entry (current ++ [step]) tree = none) (steps : Path) :
    LinkFree tree current steps := by
  cases steps with
  | nil => trivial
  | cons step rest =>
      refine ⟨?_, linkFree_of_absent (empty step) rest⟩
      intro kind here
      cases (empty step).symm.trans here

theorem linkFree_added {done : Path} {name : String}
    (plain : Plain done) (linkFree : LinkFree tree [] done)
    (added : add (.directory []) (done ++ [name]) tree = some next)
    (rest : Path) :
    LinkFree next [] ((done ++ [name]) ++ rest) ∧
      ∀ more, entry ((done ++ [name]) ++ more) next =
        entry more (.directory []) := by
  obtain ⟨place, found, _, _⟩ := add_eq_some added
  obtain ⟨same, _⟩ := locate_of_linkFree plain linkFree found
  subst same
  have here := entry_add_self added found
  refine ⟨linkFree_append.mpr ⟨?_, ?_⟩, here⟩
  · have directory := here []
    rw [List.append_nil] at directory
    exact linkFree_of_entry directory rfl
  · exact linkFree_of_empty (fun step => here [step]) rest

theorem makeDirectories_other {done : Path}
    (plain : Plain (done ++ path)) (linkFree : LinkFree tree [] (done ++ path))
    (besides : ∀ steps, steps ≠ [] → steps <+: path → other ≠ done ++ steps) :
    entry other (makeDirectories permits tree done path).2 =
      entry other tree := by
  induction path generalizing tree done with
  | nil => rfl
  | cons name rest ih =>
      have later : ∀ steps, steps ≠ [] → steps <+: rest →
          other ≠ (done ++ [name]) ++ steps := by
        intro steps _ shorter same
        refine besides (name :: steps) (List.cons_ne_nil _ _)
          (List.cons_prefix_cons.mpr ⟨rfl, shorter⟩) ?_
        rw [same]
        exact (List.append_cons done name steps).symm
      rw [List.append_cons done name rest] at plain linkFree
      unfold makeDirectories
      split
      · exact ih plain linkFree later
      · rfl
      · split
        · rfl
        · next made allowed =>
            have added := (permit_eq_some.mp allowed).2
            have parentFree := (linkFree_append.mp
              (linkFree_append.mp linkFree).1).1
            have parentPlain : Plain done := fun step member =>
              plain step
                (List.mem_append_left _ (List.mem_append_left _ member))
            obtain ⟨madeFree, here⟩ :=
              linkFree_added parentPlain parentFree added rest
            obtain ⟨place, found, absent, stored⟩ := add_eq_some added
            obtain ⟨same, _⟩ := locate_of_linkFree parentPlain parentFree found
            subst same
            rw [ih plain madeFree later]
            by_cases below : done ++ [name] <+: other
            · obtain ⟨more, rfl⟩ := below
              rw [here, entry_below more absent]
              cases more with
              | nil =>
                  have different := besides [name] (List.cons_ne_nil _ _)
                    (List.cons_prefix_cons.mpr ⟨rfl, List.nil_prefix⟩)
                  exact absurd (List.append_nil _) different
              | cons step more => rfl
            · rw [stored]
              exact entry_store _ found below

theorem makeDirectories_made {done : Path}
    (plain : Plain (done ++ path)) (linkFree : LinkFree tree [] (done ++ path))
    (here : entry done tree = some .directory)
    (made : makeDirectories permits tree done path = (true, next)) :
    entry (done ++ path) next = some .directory := by
  induction path generalizing tree done with
  | nil =>
      cases made
      rwa [List.append_nil]
  | cons name rest ih =>
      rw [List.append_cons done name rest] at plain linkFree ⊢
      have firstFree := (linkFree_append.mp linkFree).1
      have firstPlain : Plain (done ++ [name]) := fun step member =>
        plain step (List.mem_append_left _ member)
      unfold makeDirectories at made
      split at made
      · next directory =>
          exact ih plain linkFree
            (stat_of_linkFree firstPlain firstFree directory) made
      · cases made
      · split at made
        · cases made
        · next begun allowed =>
            have added := (permit_eq_some.mp allowed).2
            obtain ⟨begunFree, begunHere⟩ := linkFree_added
              (fun step member =>
                firstPlain step (List.mem_append_left _ member))
              (linkFree_append.mp firstFree).1 added rest
            have directory := begunHere []
            rw [List.append_nil] at directory
            exact ih plain begunFree directory made

theorem not_concat_above (parent : Path) (leaf : String) :
    ¬ parent ++ [leaf] <+: parent := by
  intro shorter
  have lengths := shorter.length_le
  rw [List.length_append, List.length_singleton] at lengths
  omega

theorem unlink_absent {parent : Path} {leaf : String}
    (plain : Plain parent) (here : entry parent tree = some .directory)
    (absent : entry (parent ++ [leaf]) tree = none) :
    unlink (parent ++ [leaf]) tree = none := by
  unfold unlink
  rw [locate_of_directory leaf plain here]
  dsimp only
  rw [entry_eq_none.mp absent]

theorem entry_added_removed {made : Node}
    (added : add node path tree = some made)
    (found : locate path tree = some place)
    (foundToo : locate path made = some place) :
    entry other (store none place made) = entry other tree := by
  obtain ⟨same, here, absent, stored⟩ := add_eq_some added
  cases found.symm.trans here
  by_cases below : place <+: other
  · obtain ⟨rest, rfl⟩ := below
    rw [entry_below rest absent]
    unfold entry
    rw [lookup_store none foundToo]
    rfl
  · rw [entry_store none foundToo below, stored]
    exact entry_store _ found below

theorem makeDirectories_through {done passed : Path} (rest : Path)
    (plain : Plain (done ++ passed))
    (here : entry (done ++ passed) tree = some .directory) :
    makeDirectories permits tree done (passed ++ rest) =
      makeDirectories permits tree (done ++ passed) rest := by
  induction passed generalizing done with
  | nil => rw [List.append_nil, List.nil_append]
  | cons name others ih =>
      rw [List.append_cons done name others] at plain here ⊢
      have above : entry (done ++ [name]) tree = some .directory := by
        cases others with
        | nil => rwa [List.append_nil] at here
        | cons next more => exact entry_above here
      have abovePlain : Plain (done ++ [name]) := fun step member =>
        plain step (List.mem_append_left _ member)
      rw [← ih plain here, List.cons_append]
      conv => lhs; unfold makeDirectories
      rw [stat_of_directory abovePlain above]

theorem makeDirectories_stops {done : Path} {name : String} {kind : Kind}
    (rest : Path) (plain : Plain done) (linkFree : LinkFree tree [] done)
    (here : entry (done ++ [name]) tree = some kind)
    (elsewhere : stat (done ++ [name]) tree ≠ some .directory) :
    makeDirectories permits tree done (name :: rest) = (false, tree) := by
  unfold makeDirectories
  split
  · next directory => exact absurd directory elsewhere
  · rfl
  · split
    · rfl
    · next made allowed =>
        have added := (permit_eq_some.mp allowed).2
        obtain ⟨place, found, absent, _⟩ := add_eq_some added
        obtain ⟨same, _⟩ := locate_of_linkFree plain linkFree found
        subst same
        cases absent.symm.trans here

end Frame

def NoNewLinks (tree next : Node) : Prop :=
  ∀ place kind, entry place next = some kind → kind.isLink = true →
    entry place tree = some kind

section NewEntries

variable {tree next : Node} {path place other : Path}
variable {permits : Path → Bool}

theorem linkFree_of_noNewLinks {current steps : Path}
    (noNew : NoNewLinks tree next) (linkFree : LinkFree tree current steps) :
    LinkFree next current steps := by
  induction steps generalizing current with
  | nil => trivial
  | cons step rest ih =>
      refine ⟨fun kind here => ?_, ih linkFree.2⟩
      by_contra link
      have isLink : kind.isLink = true := by simpa using link
      have before := noNew _ kind here isLink
      rw [linkFree.1 kind before] at isLink
      cases isLink

theorem linkFree_of_leaf {current : Path} {kind : Kind}
    (here : entry current tree = some kind) (leaf : kind ≠ .directory)
    (steps : Path) : LinkFree tree current steps := by
  cases steps with
  | nil => trivial
  | cons step rest =>
      have absent : entry (current ++ [step]) tree = none := by
        by_contra present
        obtain ⟨below, found⟩ := Option.ne_none_iff_exists'.mp present
        cases (entry_above found).symm.trans here
        exact leaf rfl
      refine ⟨?_, linkFree_of_absent absent rest⟩
      intro other found
      cases absent.symm.trans found

theorem add_places {node : Node} {kind : Kind}
    (added : add node path tree = some next)
    (here : entry other next = some kind) :
    entry other tree = some kind ∨
      ∃ place rest, locate path tree = some place ∧
        other = place ++ rest ∧ entry rest node = some kind := by
  obtain ⟨place, found, _, stored⟩ := add_eq_some added
  by_cases below : place <+: other
  · obtain ⟨rest, rfl⟩ := below
    rw [entry_add_self added found] at here
    exact .inr ⟨place, rest, found, rfl, here⟩
  · rw [stored, entry_store _ found below] at here
    exact .inl here

theorem add_noNewLinks {node : Node}
    (plain : ∀ rest kind, entry rest node = some kind → kind.isLink = false)
    (added : add node path tree = some next) :
    NoNewLinks tree next := by
  intro place kind here link
  rcases add_places added here with before | ⟨_, rest, _, _, inside⟩
  · exact before
  · rw [plain rest kind inside] at link
    cases link

theorem entry_empty {rest : Path} {kind : Kind}
    (inside : entry rest (.directory []) = some kind) :
    rest = [] ∧ kind = .directory := by
  cases rest with
  | nil =>
      cases inside
      exact ⟨rfl, rfl⟩
  | cons step more => cases inside

theorem entry_file {rest : Path} {kind : Kind} {bytes : List UInt8}
    (inside : entry rest (.file bytes) = some kind) :
    rest = [] ∧ kind = .file bytes := by
  cases rest with
  | nil =>
      cases inside
      exact ⟨rfl, rfl⟩
  | cons step more => cases inside

theorem locate_leaf {parent : Path} {leaf : String}
    (found : locate (parent ++ [leaf]) tree = some place) :
    ∃ above, place = above ++ [leaf] := by
  unfold locate at found
  rw [List.getLast?_concat, List.dropLast_concat] at found
  dsimp only at found
  split at found
  · cases found
  · next above reached =>
      split at found
      · cases found
        exact ⟨above, rfl⟩
      · cases found

theorem makeDirectories_places {done : Path} {kind : Kind}
    (here : entry other (makeDirectories permits tree done path).2 =
      some kind) :
    entry other tree = some kind ∨
      kind = .directory ∧ ∃ above, ∃ name ∈ path, other = above ++ [name] := by
  induction path generalizing tree done with
  | nil => exact .inl here
  | cons name rest ih =>
      have later : ∀ {begun : Node},
          entry other (makeDirectories permits begun (done ++ [name]) rest).2 =
            some kind →
          entry other begun = some kind ∨ kind = .directory ∧
            ∃ above, ∃ step ∈ name :: rest, other = above ++ [step] := by
        intro begun reached
        rcases ih reached with
          before | ⟨directory, above, step, member, shape⟩
        · exact .inl before
        · exact .inr ⟨directory, above, step,
            List.mem_cons_of_mem name member, shape⟩
      unfold makeDirectories at here
      split at here
      · exact later here
      · exact .inl here
      · split at here
        · exact .inl here
        · next made allowed =>
            have added := (permit_eq_some.mp allowed).2
            rcases later here with before | made
            · rcases add_places added before with
                earlier | ⟨place, more, found, rfl, inside⟩
              · exact .inl earlier
              · obtain ⟨above, rfl⟩ := locate_leaf found
                obtain ⟨rfl, directory⟩ := entry_empty inside
                exact .inr ⟨directory, above, name, List.mem_cons_self,
                  List.append_nil _⟩
            · exact .inr made

theorem makeDirectories_noNewLinks {done : Path} :
    NoNewLinks tree (makeDirectories permits tree done path).2 := by
  intro place kind here link
  rcases makeDirectories_places here with before | ⟨rfl, _⟩
  · exact before
  · cases link

theorem makeDirectories_stat {parent : Path} {leaf : String}
    (plain : Plain (parent ++ [leaf])) (linkFree : LinkFree tree [] parent)
    (other : stat (parent ++ [leaf]) tree ≠ some .directory)
    (made : makeDirectories permits tree [] parent = (true, next)) :
    stat (parent ++ [leaf]) next ≠ some .directory := by
  have parentPlain : Plain parent := fun name member =>
    plain name (List.mem_append_left _ member)
  have kept : entry (parent ++ [leaf]) next =
      entry (parent ++ [leaf]) tree := by
    have same := @makeDirectories_other tree parent (parent ++ [leaf])
      permits [] parentPlain linkFree
      (by
        intro steps _ shorter equal
        rw [List.nil_append] at equal
        rw [← equal] at shorter
        exact not_concat_above parent leaf shorter)
    rwa [made] at same
  cases here : entry (parent ++ [leaf]) tree with
  | some kind =>
      -- the parents are there, so nothing was made
      have through := @makeDirectories_through tree permits [] parent []
        parentPlain (entry_above here)
      rw [List.append_nil, made] at through
      cases through
      exact other
  | none =>
      intro directory
      have absent := kept.trans here
      have nextFree : LinkFree next [] (parent ++ [leaf]) := by
        have noNew := @makeDirectories_noNewLinks tree parent permits []
        rw [made] at noNew
        refine linkFree_append.mpr
          ⟨linkFree_of_noNewLinks noNew linkFree, ?_, trivial⟩
        intro kind found
        cases absent.symm.trans found
      cases absent.symm.trans (stat_of_linkFree plain nextFree directory)

theorem walk_names {jump : Path → Path → Option Path} {name : String}
    (jumps : ∀ current steps reached, name ∈ steps →
      jump current steps = some reached →
        ∃ above, entry (above ++ [name]) tree ≠ none)
    (plain : name ≠ "" ∧ name ≠ "." ∧ name ≠ "..")
    {current steps reached : Path} (member : name ∈ steps)
    (walked : walk jump tree current steps = some reached) :
    ∃ above, entry (above ++ [name]) tree ≠ none := by
  induction steps generalizing current with
  | nil => exact absurd member List.not_mem_nil
  | cons step rest ih =>
      unfold walk at walked
      by_cases skipped : step = "" ∨ step = "."
      · rw [if_pos skipped] at walked
        rcases List.mem_cons.mp member with rfl | later
        · exact absurd skipped (not_or.mpr ⟨plain.1, plain.2.1⟩)
        · exact ih later walked
      · rw [if_neg skipped] at walked
        by_cases up : step = ".."
        · rw [if_pos up] at walked
          rcases List.mem_cons.mp member with rfl | later
          · exact absurd up plain.2.2
          · exact ih later walked
        · rw [if_neg up] at walked
          cases here : entry (current ++ [step]) tree with
          | none =>
              rw [here] at walked
              cases walked
          | some kind =>
              rw [here] at walked
              rcases List.mem_cons.mp member with rfl | later
              · exact ⟨current, by rw [here]; exact Option.some_ne_none kind⟩
              · cases kind with
                | link absolute target =>
                    exact jumps _ _ _ (List.mem_append_right _ later) walked
                | directory => exact ih later walked
                | file bytes =>
                    dsimp only at walked
                    rw [if_neg (List.ne_nil_of_mem later)] at walked
                    cases walked

theorem stat_names {kind : Kind} {name : String}
    (plain : name ≠ "" ∧ name ≠ "." ∧ name ≠ "..") (member : name ∈ path)
    (found : stat path tree = some kind) :
    ∃ above, entry (above ++ [name]) tree ≠ none := by
  obtain ⟨reached, followed, _⟩ := Option.bind_eq_some_iff.mp found
  have resolved := @resolve_induction tree
    (fun jump => ∀ current steps reached, name ∈ steps →
      jump current steps = some reached →
        ∃ above, entry (above ++ [name]) tree ≠ none)
    (fun _ _ _ _ jumped => by cases jumped)
    (fun _ jumps _ _ _ member walked => walk_names jumps plain member walked)
  exact resolved _ _ _ _ member followed

end NewEntries

end GravitPanel.FileTree
