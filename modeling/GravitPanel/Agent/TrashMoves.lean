import GravitPanel.Agent.FilesystemConfined
import GravitPanel.Core.FileMoves

/-!
# Deletions that succeed

`delete` moves its paths one by one.  All of them are moved exactly if each
could be moved alone and no move is in the way of a later one: a condition on
the paths and the tree before the request.
-/

namespace GravitPanel.Agent

open Program FileTree

/-- A place under the root without hidden names. -/
def VisiblePlace (root place : Path) : Prop :=
  ∃ parts, place = root ++ parts ∧ ∀ part ∈ parts, ¬ ['.'] <+: part.toList

/-- The place where the trash is, or where it is to be made: it alone is
missing, or its parent is missing as well. -/
inductive TrashPlace
    (conditions : FilesystemConditions) (root : Path) (tree : Node) :
    Path → Prop
  | there {place : Path} :
      realPath (trashPath root) tree = some place →
        entry place tree = some .directory →
          TrashPlace conditions root tree place
  | alone {place : Path} :
      locate (trashPath root) tree = some place →
        entry place tree = none →
          conditions.makes (trashPath root) = true →
            TrashPlace conditions root tree place
  | both :
      entry (root ++ [".gravit-panel"]) tree = none →
        conditions.makes (root ++ [".gravit-panel"]) = true →
          conditions.makes (trashPath root) = true →
            TrashPlace conditions root tree (trashPath root)

/-- Where an item of a deletion is put in the trash. -/
def inTrash
    (conditions : FilesystemConditions) (root place : Path)
    (item : String × Nat) : Path :=
  place ++ [trashName conditions item.2 (livePath root item.1)]

/-- An item that can be moved to the trash: a valid path to an entry that is no
link and not above the trash, a name that fits, and a free place for it or a
file on which a file is put. -/
structure Movable
    (system : AgentSystem) (conditions : FilesystemConditions)
    (root place : Path) (tree : Node) (item : String × Nat) : Prop where
  valid : validateLivePath system item.1 false =
    (.ok () : Except String Unit)
  present : ∃ kind, entry (livePath root item.1) tree = some kind ∧
    kind.isLink = false
  permitted : conditions.renames item.2 = true
  named : nameFits (inTrash conditions root place item) = true
  apart : ¬ livePath root item.1 <+: place
  besides : ¬ inTrash conditions root place item <+: livePath root item.1
  free : ∀ kind, entry (inTrash conditions root place item) tree = some kind →
    kind ≠ .directory ∧ entry (livePath root item.1) tree ≠ some .directory

/-- The first of two items leaves the second where it is and the way to the
trash open, and takes its name from no directory and for none. -/
structure Compatible
    (conditions : FilesystemConditions) (root place : Path) (tree : Node)
    (first later : String × Nat) : Prop where
  separate : ¬ livePath root first.1 <+: livePath root later.1
  outside : ¬ inTrash conditions root place first <+: livePath root later.1
  wayOpen : ∀ step ∈ way (trashPath root) tree,
    ¬ livePath root first.1 <+: step ∧
      step ≠ inTrash conditions root place first
  sameName : inTrash conditions root place first =
      inTrash conditions root place later →
    entry (livePath root first.1) tree ≠ some .directory ∧
      entry (livePath root later.1) tree ≠ some .directory

/-- All items can be moved, each in its turn. -/
def AllMovable
    (system : AgentSystem) (conditions : FilesystemConditions)
    (root place : Path) (tree : Node) (items : List (String × Nat)) : Prop :=
  (∀ item ∈ items, Movable system conditions root place tree item) ∧
    items.Pairwise (Compatible conditions root place tree)

def leafLength (place : Path) : Nat :=
  (place.getLast?.getD "").length

theorem leafLength_append
    (place : Path) {rest : Path} (named : rest ≠ []) :
    leafLength (place ++ rest) = leafLength rest := by
  obtain ⟨above, leaf, rfl⟩ := (List.eq_nil_or_concat' rest).resolve_left named
  rw [leafLength, leafLength, ← List.append_assoc, List.getLast?_concat,
    List.getLast?_concat]

section Deletion

variable {system : AgentSystem} {conditions : FilesystemConditions}
variable {root place : Path} {tree next : Node}

/-- A path of a deletion was moved into the trash. -/
structure Trashed
    (root : Path) (source : Path) (before after : Node) (trash : Path)
    (name : String) : Prop where
  visible : VisiblePlace root source
  longer : leafLength source < leafLength (trash ++ [name])
  followed : realPath (trashPath root) before = some trash
  directory : entry trash before = some .directory
  moved : Moved source (trash ++ [name]) before after
  rooted : Rooted root after

theorem leafLength_trashName (index : Nat) (source : Path) :
    leafLength source <
      leafLength (place ++ [trashName conditions index source]) := by
  unfold leafLength trashName
  rw [List.getLast?_concat, Option.getD_some, String.length_append,
    String.length_append]
  have one : "-".length = 1 := rfl
  omega

theorem ne_inTrash (item : String × Nat) :
    livePath root item.1 ≠ inTrash conditions root place item := by
  intro same
  have longer := @leafLength_trashName conditions place item.2
    (livePath root item.1)
  unfold inTrash at same
  rw [← same] at longer
  exact Nat.lt_irrefl _ longer

theorem inspectParts_of_entry {current parts : Path} {kind : Kind}
    (plain : Plain (current ++ parts))
    (found : entry (current ++ parts) tree = some kind)
    (noLink : kind.isLink = false) :
    inspectParts tree current parts = .ok ⟨⟩ := by
  induction parts generalizing current with
  | nil => rfl
  | cons part rest ih =>
      have named := (plain part (List.mem_append_right current
        List.mem_cons_self)).1
      have here := entry_above found
      have above : Plain current := fun name member =>
        plain name (List.mem_append_left _ member)
      rw [List.append_cons current part rest] at plain found
      unfold inspectParts
      rw [if_neg named, lstat_of_directory part above here]
      cases rest with
      | nil =>
          rw [List.append_nil] at found
          rw [found]
          dsimp only
          rw [if_neg (by rw [noLink]; exact Bool.false_ne_true),
            if_neg (fun both => both.1 rfl)]
          rfl
      | cons next more =>
          rw [entry_above found]
          dsimp only
          rw [if_neg (by exact Bool.false_ne_true),
            if_neg (fun both => both.2 rfl)]
          exact ih plain found

theorem safeLivePath_of_entry {value : String} {kind : Kind}
    (rooted : Rooted root tree)
    (valid : validateLivePath system value false =
      (.ok () : Except String Unit))
    (found : entry (livePath root value) tree = some kind)
    (noLink : kind.isLink = false) :
    safeLivePath system root value false tree =
      (.ok (livePath root value), tree) := by
  have same := liveParts_of_valid valid
  have plain : Plain (root ++ liveParts value) := by
    intro name member
    rcases List.mem_append.mp member with before | after
    · exact rooted.plain name before
    · exact plain_liveParts (visible_of_valid valid).1 name after
  have inspected := inspectParts_of_entry plain found noLink
  rw [same] at inspected
  unfold safeLivePath
  rw [bind_of_ok (get_apply tree), lift_bind, valid]
  dsimp only
  rw [lift_bind, inspected]
  rfl

theorem validateLivePath_of_safe {value : String} {target : Path}
    {allowRoot : Bool} {reached : Node}
    (checked : safeLivePath system root value allowRoot tree =
      (.ok target, reached)) :
    validateLivePath system value allowRoot =
      (.ok () : Except String Unit) := by
  unfold safeLivePath at checked
  rw [bind_of_ok (get_apply tree), lift_bind] at checked
  cases valid : validateLivePath system value allowRoot with
  | error problem =>
      rw [valid] at checked
      cases checked
  | ok value => rfl

theorem deleteOne_cases
    (rooted : Rooted root tree) (item : String × Nat) :
    (∃ problem, deleteOne system conditions root item tree =
      (.error problem, tree)) ∨
    ∃ next trash, deleteOne system conditions root item tree =
        (.ok ⟨⟩, next) ∧
      Trashed root (livePath root item.1) tree next trash
        (trashName conditions item.2 (livePath root item.1)) ∧
      Movable system conditions root trash tree item := by
  unfold deleteOne
  rcases @safeLivePath_cases system root item.1 tree false rooted with
    ⟨problem, refused⟩ | ⟨checked, safe, named⟩
  · exact .inl ⟨problem, bind_of_error refused _⟩
  · rw [bind_of_ok checked]
    let source := livePath root item.1
    let name := trashName conditions item.2 source
    cases done : osRename (conditions.renames item.2) source
        (trashPath root ++ [name]) tree with
    | none => exact .inl ⟨_, attempt_of_none done⟩
    | some next =>
        obtain ⟨notDirectory, permitted, renamed⟩ := osRename_eq_some.mp done
        obtain ⟨origin, target, fromHere, toHere, -⟩ :=
          rename_eq_some renamed
        have same := locate_livePath safe (named (.inl rfl)) fromHere
        obtain ⟨trash, followed, directory, rfl⟩ :=
          locate_concat_iff.mp toHere
        rw [lstat_concat toHere] at notDirectory
        subst same
        have longer : leafLength source < leafLength (trash ++ [name]) :=
          leafLength_trashName item.2 source
        have different : source ≠ trash ++ [name] := @ne_inTrash conditions
          root trash item
        have moved := moved_of_rename renamed fromHere toHere different
        obtain ⟨here, apart, besides, fits, free⟩ :=
          (rename_iff fromHere toHere different).mp ⟨next, renamed⟩
        have below : root <+: source := List.prefix_append root _
        refine .inr ⟨next, trash, attempt_of_some done, ?_, ?_⟩
        · refine ⟨⟨liveParts item.1, rfl, safe.visible.shown⟩, longer,
            followed, directory, moved, rooted.plain, ?_⟩
          rw [moved.same root]
          · exact rooted.directory
          · exact fun above => not_names_root
              ⟨named (.inl rfl), safe.visible, above⟩
          · exact fun above => moved.besides (above.trans below)
        · obtain ⟨kind, found⟩ := Option.ne_none_iff_exists'.mp here
          refine ⟨validateLivePath_of_safe checked, ⟨kind, found, ?_⟩,
            permitted, fits, ?_, besides, ?_⟩
          · obtain ⟨above, leaf, shape, -⟩ :=
              @livePath_shape root item.1 (named (.inl rfl))
            have linkFree := safe.linkFree
            change entry (livePath root item.1) tree = some kind at found
            rw [shape] at linkFree found
            exact (linkFree_append.mp linkFree).2.1 kind found
          · exact fun above => apart (above.trans (List.prefix_append _ _))
          · intro other taken
            refine ⟨fun same => notDirectory (same ▸ taken), fun inner => ?_⟩
            have filled : entry (trash ++ [name]) tree = some other := taken
            have kinds := (free (by
              rw [filled]
              exact Option.some_ne_none other)).1
            exact notDirectory (kinds.mpr inner)

/-- An item is moved exactly if it can be. -/
theorem deleteOne_done_iff
    (rooted : Rooted root tree)
    (followed : realPath (trashPath root) tree = some place)
    (directory : entry place tree = some .directory)
    (item : String × Nat) :
    (∃ next, deleteOne system conditions root item tree = (.ok ⟨⟩, next)) ↔
      Movable system conditions root place tree item := by
  constructor
  · rintro ⟨next, done⟩
    rcases @deleteOne_cases system conditions root tree rooted item with
      ⟨problem, refused⟩ | ⟨reached, trash, -, trashed, movable⟩
    · rw [refused] at done
      cases done
    · cases followed.symm.trans trashed.followed
      exact movable
  · intro movable
    obtain ⟨kind, found, noLink⟩ := movable.present
    have checked := safeLivePath_of_entry rooted movable.valid found noLink
    have visible := (visible_of_valid movable.valid)
    obtain ⟨above, leaf, shape, parts⟩ :=
      @livePath_shape root item.1 (visible.2 (.inl rfl))
    have plain : Plain (root ++ above) := by
      intro name member
      rcases List.mem_append.mp member with before | after
      · exact rooted.plain name before
      · apply plain_liveParts visible.1 name
        rw [parts]
        exact List.mem_append_left _ after
    have fromHere : locate (livePath root item.1) tree =
        some (livePath root item.1) := by
      rw [shape] at found ⊢
      exact locate_of_directory leaf plain (entry_above found)
    have toHere : locate (trashPath root ++
        [trashName conditions item.2 (livePath root item.1)]) tree =
          some (inTrash conditions root place item) :=
      locate_concat_iff.mpr ⟨place, followed, directory, rfl⟩
    have notDirectory : entry (inTrash conditions root place item) tree ≠
        some .directory := fun same => (movable.free _ same).1 rfl
    have free : Free tree (livePath root item.1)
        (inTrash conditions root place item) := by
      intro taken
      obtain ⟨other, here⟩ := Option.ne_none_iff_exists'.mp taken
      refine ⟨iff_of_false notDirectory (movable.free other here).2, ?_⟩
      intro name
      by_contra inside
      obtain ⟨inner, below⟩ := Option.ne_none_iff_exists'.mp inside
      exact notDirectory (entry_above below)
    obtain ⟨next, renamed⟩ := (rename_iff fromHere toHere
      (ne_inTrash item)).mpr ⟨by rw [found]; exact Option.some_ne_none kind,
        fun above => (List.prefix_concat_iff.mp above).elim
          (ne_inTrash item) movable.apart,
        movable.besides, movable.named, free⟩
    refine ⟨next, ?_⟩
    unfold deleteOne
    rw [bind_of_ok checked]
    refine attempt_of_some (osRename_eq_some.mpr
      ⟨?_, movable.permitted, renamed⟩)
    rw [lstat_concat toHere]
    exact notDirectory

theorem not_inTrash_above (item : String × Nat) :
    ¬ inTrash conditions root place item <+: place :=
  not_concat_above place _

theorem inTrash_eq_of_above {first later : String × Nat}
    (below : inTrash conditions root place first <+:
      inTrash conditions root place later) :
    inTrash conditions root place first =
      inTrash conditions root place later :=
  below.eq_of_length (by simp [inTrash])

theorem Movable.entry_inTrash
    {item : String × Nat} {name : String} {more : Path}
    (movable : Movable system conditions root place tree item) :
    entry (inTrash conditions root place item ++ name :: more) tree =
      none := by
  by_contra inside
  obtain ⟨inner, below⟩ := Option.ne_none_iff_exists'.mp inside
  exact (movable.free _ (entry_above below)).1 rfl

section Moves

variable {first later : String × Nat}

theorem worn_of_moved
    (movable : Movable system conditions root place tree first)
    (moved : Moved (livePath root first.1)
      (inTrash conditions root place first) tree next)
    {step : Path} (present : entry step tree ≠ none) :
    Worn tree next step := by
  by_cases taken : livePath root first.1 <+: step
  · obtain ⟨rest, rfl⟩ := taken
    exact .inr (.inl (moved.gone rest))
  by_cases put : inTrash conditions root place first <+: step
  · obtain ⟨rest, rfl⟩ := put
    cases rest with
    | nil =>
        have arrived := moved.arrived []
        rw [List.append_nil] at arrived present ⊢
        rw [List.append_nil] at arrived
        obtain ⟨other, here⟩ := Option.ne_none_iff_exists'.mp present
        obtain ⟨kind, found, noLink⟩ := movable.present
        cases kind with
        | file bytes => exact .inr (.inr ⟨bytes, arrived.trans found⟩)
        | link absolute steps => cases noLink
        | directory => exact absurd found (movable.free other here).2
    | cons name more => exact absurd movable.entry_inTrash present
  · exact .inl (moved.same step taken put)

theorem way_of_moved
    (movable : Movable system conditions root place tree first)
    (moved : Moved (livePath root first.1)
      (inTrash conditions root place first) tree next)
    (followed : realPath (trashPath root) tree = some place)
    (directory : entry place tree = some .directory)
    (wayOpen : ∀ step ∈ way (trashPath root) tree,
      ¬ livePath root first.1 <+: step ∧
        step ≠ inTrash conditions root place first) :
    ∀ step ∈ way (trashPath root) tree,
      entry step next = entry step tree := by
  intro step member
  obtain ⟨unmoved, other⟩ := wayOpen step member
  obtain ⟨kind, here, -⟩ := way_present followed directory step member
  apply moved.same step unmoved
  rintro ⟨rest, rfl⟩
  cases rest with
  | nil => exact other (List.append_nil _)
  | cons name more => cases here.symm.trans movable.entry_inTrash

theorem trash_of_moved
    (movable : Movable system conditions root place tree first)
    (moved : Moved (livePath root first.1)
      (inTrash conditions root place first) tree next)
    (followed : realPath (trashPath root) tree = some place)
    (directory : entry place tree = some .directory)
    (same : ∀ step ∈ way (trashPath root) tree,
      entry step next = entry step tree) :
    realPath (trashPath root) next = some place ∧
      entry place next = some .directory ∧
        way (trashPath root) next = way (trashPath root) tree := by
  obtain ⟨reached, unchanged⟩ := realPath_same same
  refine ⟨reached.trans followed, ?_, unchanged⟩
  rw [moved.same place movable.apart (not_inTrash_above first)]
  exact directory

theorem Movable.after
    (movable : Movable system conditions root place tree later)
    (moved : Moved (livePath root first.1)
      (inTrash conditions root place first) tree next)
    (compatible : Compatible conditions root place tree first later) :
    Movable system conditions root place next later where
  valid := movable.valid
  present := by
    rw [moved.same _ compatible.separate compatible.outside]
    exact movable.present
  permitted := movable.permitted
  named := movable.named
  apart := movable.apart
  besides := movable.besides
  free := by
    intro kind here
    rw [moved.same _ compatible.separate compatible.outside]
    by_cases same : inTrash conditions root place first =
        inTrash conditions root place later
    · obtain ⟨notFirst, notLater⟩ := compatible.sameName same
      have arrived := moved.arrived []
      rw [List.append_nil, List.append_nil, same, here] at arrived
      refine ⟨?_, notLater⟩
      rintro rfl
      exact notFirst arrived.symm
    · by_cases taken : livePath root first.1 <+:
          inTrash conditions root place later
      · obtain ⟨rest, shape⟩ := taken
        rw [← shape, moved.gone rest] at here
        cases here
      · rw [moved.same _ taken fun put =>
          same (inTrash_eq_of_above put)] at here
        exact movable.free kind here

theorem compatible_moved_iff {head : String × Nat}
    (moved : Moved (livePath root head.1)
      (inTrash conditions root place head) tree next)
    (unchanged : way (trashPath root) next = way (trashPath root) tree)
    (firstKept : ¬ livePath root head.1 <+: livePath root first.1 ∧
      ¬ inTrash conditions root place head <+: livePath root first.1)
    (laterKept : ¬ livePath root head.1 <+: livePath root later.1 ∧
      ¬ inTrash conditions root place head <+: livePath root later.1) :
    Compatible conditions root place next first later ↔
      Compatible conditions root place tree first later := by
  have firstSame := moved.same _ firstKept.1 firstKept.2
  have laterSame := moved.same _ laterKept.1 laterKept.2
  constructor
  · rintro ⟨separate, outside, wayOpen, sameName⟩
    rw [unchanged] at wayOpen
    rw [firstSame, laterSame] at sameName
    exact ⟨separate, outside, wayOpen, sameName⟩
  · rintro ⟨separate, outside, wayOpen, sameName⟩
    rw [← unchanged] at wayOpen
    rw [← firstSame, ← laterSame] at sameName
    exact ⟨separate, outside, wayOpen, sameName⟩

theorem Movable.before
    (movable : Movable system conditions root place tree first)
    (moved : Moved (livePath root first.1)
      (inTrash conditions root place first) tree next)
    (followed : realPath (trashPath root) tree = some place)
    (directory : entry place tree = some .directory)
    (same : ∀ step ∈ way (trashPath root) tree,
      entry step next = entry step tree)
    (outside : ¬ inTrash conditions root place first <+:
      livePath root later.1)
    (besides : ¬ inTrash conditions root place later <+:
      livePath root first.1)
    (after : Movable system conditions root place next later) :
    Movable system conditions root place tree later ∧
      Compatible conditions root place tree first later := by
  have separate : ¬ livePath root first.1 <+: livePath root later.1 := by
    rintro ⟨rest, shape⟩
    obtain ⟨kind, found, -⟩ := after.present
    rw [← shape, moved.gone rest] at found
    cases found
  have source := moved.same _ separate outside
  have arrived := moved.arrived []
  rw [List.append_nil, List.append_nil] at arrived
  obtain ⟨kind, found, noLink⟩ := movable.present
  have filled := arrived.trans found
  have unmoved : ¬ livePath root first.1 <+:
      inTrash conditions root place later := by
    intro above
    rcases List.prefix_concat_iff.mp above with equal | above
    · apply besides
      rw [equal]
      exact List.prefix_refl _
    · exact movable.apart above
  have named : inTrash conditions root place first =
      inTrash conditions root place later →
        entry (livePath root first.1) tree ≠ some .directory ∧
          entry (livePath root later.1) tree ≠ some .directory := by
    intro equal
    obtain ⟨notFirst, notLater⟩ := after.free kind (equal ▸ filled)
    rw [source] at notLater
    rw [found]
    exact ⟨fun inner => notFirst (Option.some.inj inner), notLater⟩
  refine ⟨⟨after.valid, ?_, after.permitted, after.named, after.apart,
    after.besides, ?_⟩, ⟨separate, outside, ?_, named⟩⟩
  · rw [← source]
    exact after.present
  · intro other here
    by_cases equal : inTrash conditions root place first =
        inTrash conditions root place later
    · rw [← equal] at here
      exact ⟨(movable.free other here).1, (named equal).2⟩
    · rw [← source]
      apply after.free other
      rw [moved.same _ unmoved fun put => equal (inTrash_eq_of_above put)]
      exact here
  · intro step member
    obtain ⟨other, here, notFile⟩ := way_present followed directory step
      member
    have stays := same step member
    refine ⟨?_, ?_⟩
    · rintro ⟨rest, rfl⟩
      rw [moved.gone rest, here] at stays
      cases stays
    · rintro rfl
      rw [filled, here] at stays
      cases stays
      cases kind with
      | file bytes => exact notFile bytes rfl
      | link absolute steps => cases noLink
      | directory => exact (movable.free _ here).1 rfl

end Moves

/-- A deletion whose items can all be moved succeeds. -/
theorem forEach_of_allMovable
    {items : List (String × Nat)} (rooted : Rooted root tree)
    (followed : items ≠ [] → realPath (trashPath root) tree = some place ∧
      entry place tree = some .directory)
    (all : AllMovable system conditions root place tree items) :
    ∃ next, forEach items (deleteOne system conditions root) tree =
      (.ok ⟨⟩, next) := by
  induction items generalizing tree with
  | nil => exact ⟨tree, rfl⟩
  | cons head rest ih =>
      obtain ⟨reached, directory⟩ := followed (List.cons_ne_nil head rest)
      obtain ⟨movable, compatible⟩ := all
      obtain ⟨first, later⟩ := List.pairwise_cons.mp compatible
      have headMovable := movable head List.mem_cons_self
      obtain ⟨next, done⟩ := (deleteOne_done_iff rooted reached directory
        head).mpr headMovable
      rw [forEach, bind_of_ok done]
      rcases @deleteOne_cases system conditions root tree rooted head with
        ⟨problem, refused⟩ | ⟨other, trash, doneToo, trashed, -⟩
      · rw [refused] at done
        cases done
      cases done.symm.trans doneToo
      cases reached.symm.trans trashed.followed
      have stays : rest ≠ [] → ∀ step ∈ way (trashPath root) tree,
          entry step next = entry step tree := by
        intro more
        obtain ⟨item, member⟩ := List.exists_mem_of_ne_nil rest more
        exact way_of_moved headMovable trashed.moved reached directory
          (first item member).wayOpen
      apply ih trashed.rooted
      · intro more
        obtain ⟨followedNext, directoryNext, -⟩ := trash_of_moved headMovable
          trashed.moved reached directory (stays more)
        exact ⟨followedNext, directoryNext⟩
      · constructor
        · intro item member
          exact (movable item (List.mem_cons_of_mem head member)).after
            trashed.moved (first item member)
        · refine later.imp_of_mem ?_
          intro one two oneMember twoMember pair
          obtain ⟨-, -, unchanged⟩ := trash_of_moved headMovable
            trashed.moved reached directory
            (stays (List.ne_nil_of_mem oneMember))
          exact (compatible_moved_iff trashed.moved unchanged
            ⟨(first one oneMember).separate, (first one oneMember).outside⟩
            ⟨(first two twoMember).separate, (first two twoMember).outside⟩).mpr
              pair

/-- The items of a deletion that succeeds can all be moved, if none lies in the
trash where the deletion itself puts one. -/
theorem allMovable_of_forEach
    {items : List (String × Nat)} (rooted : Rooted root tree)
    (followed : realPath (trashPath root) tree = some place)
    (directory : entry place tree = some .directory)
    (unnamed : ∀ first ∈ items, ∀ later ∈ items,
      ¬ inTrash conditions root place first <+: livePath root later.1)
    (done : forEach items (deleteOne system conditions root) tree =
      (.ok ⟨⟩, next)) :
    AllMovable system conditions root place tree items := by
  induction items generalizing tree with
  | nil =>
      exact ⟨fun _ member => absurd member List.not_mem_nil,
        List.Pairwise.nil⟩
  | cons head rest ih =>
      rw [forEach] at done
      obtain ⟨_, middle, first, later⟩ := bind_eq_ok.mp done
      rcases @deleteOne_cases system conditions root tree rooted head with
        ⟨problem, refused⟩ | ⟨other, trash, doneToo, trashed, headMovable⟩
      · rw [refused] at first
        cases first
      cases first.symm.trans doneToo
      cases followed.symm.trans trashed.followed
      cases rest with
      | nil =>
          refine ⟨?_, List.pairwise_singleton _ _⟩
          intro item member
          cases List.mem_singleton.mp member
          exact headMovable
      | cons second more =>
          obtain ⟨reached, same⟩ :
              realPath (trashPath root) middle = some place ∧
                ∀ step ∈ way (trashPath root) tree,
                  entry step middle = entry step tree := by
            rw [forEach] at later
            obtain ⟨_, last, moved, -⟩ := bind_eq_ok.mp later
            rcases @deleteOne_cases system conditions root middle
                trashed.rooted second with
              ⟨problem, refused⟩ | ⟨_, target, -, trashedNext, -⟩
            · rw [refused] at moved
              cases moved
            · have same := way_kept
                (fun step present =>
                  worn_of_moved headMovable trashed.moved present)
                followed trashedNext.followed trashedNext.directory
              exact ⟨(realPath_same same).1.trans followed, same⟩
          obtain ⟨-, directoryNext, unchanged⟩ := trash_of_moved headMovable
            trashed.moved followed directory same
          have rest := ih trashed.rooted reached
            directoryNext
            (fun one oneMember two twoMember =>
              unnamed one (List.mem_cons_of_mem head oneMember) two
                (List.mem_cons_of_mem head twoMember)) later
          have each : ∀ item ∈ second :: more,
              Movable system conditions root place tree item ∧
                Compatible conditions root place tree head item := by
            intro item member
            exact headMovable.before trashed.moved followed directory same
              (unnamed head List.mem_cons_self item
                (List.mem_cons_of_mem head member))
              (unnamed item (List.mem_cons_of_mem head member) head
                List.mem_cons_self)
              (rest.1 item member)
          refine ⟨?_, List.pairwise_cons.mpr
            ⟨fun item member => (each item member).2, ?_⟩⟩
          · intro item member
            rcases List.mem_cons.mp member with rfl | listed
            · exact headMovable
            · exact (each item listed).1
          · refine rest.2.imp_of_mem ?_
            intro one two oneMember twoMember pair
            exact (compatible_moved_iff trashed.moved unchanged
              ⟨(each one oneMember).2.separate,
                (each one oneMember).2.outside⟩
              ⟨(each two twoMember).2.separate,
                (each two twoMember).2.outside⟩).mp pair

end Deletion

end GravitPanel.Agent
