import GravitPanel.Agent.TrashMoves

/-!
# Requests that fail

A request that reports an error has changed nothing that is visible, except for
a deletion: it moves its paths one by one, and makes its trash through links.
-/

namespace GravitPanel.Agent

open Program FileTree

def VisibleSame (root : Path) (before after : Node) : Prop :=
  ∀ place, VisiblePlace root place → entry place after = entry place before

/-- A confirmed deletion whose trash can be there has paths that can all be
moved, or one at its beginning that cannot and no trash to be made at a visible
place. -/
def Undivided
    (system : AgentSystem) (conditions : FilesystemConditions) (root : Path)
    (request : FilesystemRequest) (tree : Node) : Prop :=
  request.deletes = true →
    ∀ place, TrashPlace conditions root tree place →
      AllMovable system conditions root place tree request.paths.zipIdx ∨
        (entry place tree = none → ¬ VisiblePlace root place) ∧
          ∀ first ∈ request.paths.zipIdx.head?,
            ¬ Movable system conditions root place tree first

/-- No path of a confirmed deletion lies at or below a place where the deletion
itself puts an entry in the trash. -/
def TrashUnnamed
    (conditions : FilesystemConditions) (root : Path)
    (request : FilesystemRequest) (tree : Node) : Prop :=
  request.deletes = true →
    ∀ place, TrashPlace conditions root tree place →
      ∀ first ∈ request.paths.zipIdx, ∀ later ∈ request.paths.zipIdx,
        ¬ inTrash conditions root place first <+: livePath root later.1

theorem visibleSame_refl (root : Path) (tree : Node) :
    VisibleSame root tree tree :=
  fun _ _ => rfl

theorem visible_rest
    {root place rest : Path} (notAbove : ¬ place <+: root)
    (visible : VisiblePlace root (place ++ rest)) :
    ∀ part ∈ rest, ¬ ['.'] <+: part.toList := by
  obtain ⟨parts, whole, shown⟩ := visible
  rcases List.prefix_or_prefix_of_prefix (List.prefix_append place rest)
    (whole ▸ List.prefix_append root parts) with above | ⟨middle, same⟩
  · exact absurd above notAbove
  · intro part member
    rw [← same, List.append_assoc] at whole
    rw [← List.append_cancel_left whole] at shown
    exact shown part (List.mem_append_right middle member)

theorem visiblePlace_append
    {root place rest : Path} (visible : VisiblePlace root place)
    (shown : ∀ part ∈ rest, ¬ ['.'] <+: part.toList) :
    VisiblePlace root (place ++ rest) := by
  obtain ⟨parts, rfl, first⟩ := visible
  refine ⟨parts ++ rest, List.append_assoc root parts rest, ?_⟩
  intro part member
  rcases List.mem_append.mp member with early | late
  · exact first part early
  · exact shown part late

section Deletion

variable {system : AgentSystem} {conditions : FilesystemConditions}
variable {root : Path} {tree : Node} {permits : Path → Bool}
variable {next : Node} {problem : String} {place : Path} {after : Node}
variable {made : Node}

theorem Trashed.visible_of_place
    {source trash : Path} {name : String}
    (trashed : Trashed root source tree next trash name) :
    ∀ rest, VisiblePlace root (trash ++ [name] ++ rest) →
      VisiblePlace root (source ++ rest) := by
  intro rest visible
  have notAbove : ¬ trash ++ [name] <+: root := by
    intro below
    obtain ⟨parts, rfl, -⟩ := trashed.visible
    exact trashed.moved.besides
      (below.trans (List.prefix_append root parts))
  exact visiblePlace_append trashed.visible (visible_rest notAbove visible)

theorem Trashed.heavier
    {source trash : Path} {name : String}
    (trashed : Trashed root source tree next trash name) (rest : Path) :
    leafLength (source ++ rest) ≤ leafLength (trash ++ [name] ++ rest) := by
  by_cases none : rest = []
  · rw [none, List.append_nil, List.append_nil]
    exact Nat.le_of_lt trashed.longer
  · rw [leafLength_append _ none, leafLength_append _ none]

theorem deletions_relocate
    (items : List (String × Nat)) (rooted : Rooted root tree) :
    ∃ origin, Relocation (VisiblePlace root) leafLength tree
        (forEach items (deleteOne system conditions root) tree).2 origin := by
  induction items generalizing tree with
  | nil => exact ⟨id, relocation_refl tree⟩
  | cons item rest ih =>
      rcases @deleteOne_cases system conditions root tree rooted item with
        ⟨problem, refused⟩ | ⟨next, trash, done, trashed, -⟩
      · rw [forEach, bind_of_error refused]
        exact ⟨id, relocation_refl tree⟩
      · rw [forEach, bind_of_ok done]
        obtain ⟨origin, later⟩ := ih trashed.rooted
        have first := trashed.moved.relocation trashed.visible_of_place
          trashed.heavier
        exact ⟨_, first.trans later⟩

theorem deletions_visible
    {first : String × Nat} {rest : List (String × Nat)} {moved : Node}
    (rooted : Rooted root tree)
    (begun : deleteOne system conditions root first tree = (.ok ⟨⟩, moved)) :
    ¬ VisibleSame root tree
      (forEach (first :: rest) (deleteOne system conditions root) tree).2 := by
  rcases @deleteOne_cases system conditions root tree rooted first with
    ⟨problem, refused⟩ | ⟨next, trash, done, trashed, -⟩
  · rw [refused] at begun
    cases begun
  · rw [forEach, bind_of_ok done]
    obtain ⟨origin, later⟩ := @deletions_relocate system conditions root
      next rest trashed.rooted
    intro same
    apply trashed.moved.not_restored trashed.visible_of_place
      trashed.heavier trashed.longer later trashed.visible
    intro other visible
    rw [same other visible]

theorem visibleSame_of_hidden
    {path rest : Path} {node next : Node} {name : String}
    (added : add node path tree = some next)
    (found : locate path tree = some (root ++ name :: rest))
    (hidden : ['.'] <+: name.toList) : VisibleSame root tree next := by
  obtain ⟨place, foundToo, -, rfl⟩ := add_eq_some added
  cases found.symm.trans foundToo
  intro other visible
  apply entry_store _ found
  intro below
  obtain ⟨parts, rfl, shown⟩ := visible
  have inner := (List.prefix_append_right_inj root).mp below
  exact shown name (inner.subset List.mem_cons_self) hidden

theorem makeDirectories_last
    {directory : Path} {leaf : String} {done : Bool}
    (made : makeDirectories permits tree directory [leaf] = (done, next)) :
    next = tree ∧
        (done = true → stat (directory ++ [leaf]) tree = some .directory) ∨
      done = true ∧ stat (directory ++ [leaf]) tree = none ∧
        permits (directory ++ [leaf]) = true ∧
          add (.directory []) (directory ++ [leaf]) tree = some next := by
  unfold makeDirectories at made
  cases found : stat (directory ++ [leaf]) tree with
  | some kind =>
      rw [found] at made
      cases kind with
      | file bytes =>
          cases made
          exact Or.inl ⟨rfl, fun impossible => by cases impossible⟩
      | link absolute steps =>
          cases made
          exact Or.inl ⟨rfl, fun impossible => by cases impossible⟩
      | directory =>
          cases made
          exact Or.inl ⟨rfl, fun _ => rfl⟩
  | none =>
      rw [found] at made
      dsimp only at made
      cases permitted : permit (permits (directory ++ [leaf]))
          (add (.directory []) (directory ++ [leaf])) tree with
      | none =>
          rw [permitted] at made
          cases made
          exact Or.inl ⟨rfl, fun impossible => by cases impossible⟩
      | some begun =>
          rw [permitted] at made
          cases made
          exact Or.inr ⟨rfl, rfl, permit_eq_some.mp permitted⟩

theorem plain_panel (plain : Plain root) :
    Plain (root ++ [".gravit-panel"]) := by
  intro step member
  have whole := plain_trash plain
  unfold trashPath at whole
  rw [List.append_cons] at whole
  exact whole step (List.mem_append_left _ member)

/-- A trash that cannot be prepared leaves at most its parent behind. -/
theorem unprepared_visible
    (rooted : Rooted root tree)
    (failed : makeDirectories permits tree [] (trashPath root) =
      (false, next)) :
    VisibleSame root tree next := by
  rw [trash_through rooted] at failed
  unfold makeDirectories at failed
  cases panel : stat (root ++ [".gravit-panel"]) tree with
  | some kind =>
      rw [panel] at failed
      cases kind with
      | file bytes =>
          cases failed
          exact visibleSame_refl root _
      | link absolute steps =>
          cases failed
          exact visibleSame_refl root _
      | directory =>
          rcases makeDirectories_last failed with ⟨rfl, -⟩ | ⟨impossible, -⟩
          · exact visibleSame_refl root _
          · cases impossible
  | none =>
      rw [panel] at failed
      dsimp only at failed
      cases permitted : permit (permits (root ++ [".gravit-panel"]))
          (add (.directory []) (root ++ [".gravit-panel"])) tree with
      | none =>
          rw [permitted] at failed
          cases failed
          exact visibleSame_refl root _
      | some begun =>
          rw [permitted] at failed
          have hidden : ['.'] <+: ".gravit-panel".toList := by decide
          rcases makeDirectories_last failed with ⟨rfl, -⟩ | ⟨impossible, -⟩
          · exact visibleSame_of_hidden (permit_eq_some.mp permitted).2
              (locate_of_directory ".gravit-panel" rooted.plain
                rooted.directory) hidden
          · cases impossible

theorem prepared_rooted
    {done : Bool} (rooted : Rooted root tree)
    (made : makeDirectories permits tree [] (trashPath root) = (done, next)) :
    Rooted root next := by
  refine ⟨rooted.plain, ?_⟩
  have kept := @makeDirectories_keeps tree (trashPath root) root permits _ []
    rooted.directory
  rw [made] at kept
  exact kept

theorem locate_trash
    (found : locate (trashPath root) tree = some place) :
    ∃ parent, realPath (root ++ [".gravit-panel"]) tree = some parent ∧
      entry parent tree = some .directory ∧ place = parent ++ ["trash"] := by
  have shape := trashPath_eq root
  rw [shape] at found
  exact locate_concat_iff.mp found

/-- The trash is there after its preparation, and what was there before is the
same: only the trash and its hidden parent are new. -/
structure Prepared (root place : Path) (tree made : Node) : Prop where
  followed : realPath (trashPath root) made = some place
  directory : entry place made = some .directory
  changed : ∀ other, entry other made = entry other tree ∨
    entry other tree = none ∧ other <+: place ∧
      (other = place ∨ ¬ VisiblePlace root other)
  way : ∀ step, ¬ step <+: place →
    (step ∈ way (trashPath root) made ↔ step ∈ way (trashPath root) tree)

theorem Prepared.same
    {place other : Path} (prepared : Prepared root place tree made)
    (apart : ¬ other <+: place) : entry other made = entry other tree := by
  rcases prepared.changed other with same | ⟨-, above, -⟩
  · exact same
  · exact absurd above apart

/-- A trash that is not made at a visible place is made unseen. -/
theorem Prepared.visible
    (prepared : Prepared root place tree made)
    (hidden : entry place tree = none → ¬ VisiblePlace root place) :
    VisibleSame root tree made := by
  intro other visible
  rcases prepared.changed other with same | ⟨absent, -, rfl | unseen⟩
  · exact same
  · exact absurd visible (hidden absent)
  · exact absurd visible unseen

theorem deletions_stand
    {place : Path} (items : List (String × Nat)) (rooted : Rooted root tree)
    (followed : realPath (trashPath root) tree = some place)
    (directory : entry place tree = some .directory) :
    entry place (forEach items (deleteOne system conditions root) tree).2 =
      some .directory := by
  induction items generalizing tree with
  | nil => exact directory
  | cons item rest ih =>
      rcases @deleteOne_cases system conditions root tree rooted item with
        ⟨problem, refused⟩ | ⟨next, trash, done, trashed, movable⟩
      · rw [forEach, bind_of_error refused]
        exact directory
      · rw [forEach, bind_of_ok done]
        cases followed.symm.trans trashed.followed
        have stays : entry place next = some .directory := by
          rw [trashed.moved.same place movable.apart (not_inTrash_above item)]
          exact directory
        cases rest with
        | nil => exact stays
        | cons second more =>
            rcases @deleteOne_cases system conditions root next trashed.rooted
                second with ⟨problem, refused⟩ | ⟨_, _, -, again, -⟩
            · rw [forEach, bind_of_error refused]
              exact stays
            · have same := way_kept
                (fun step present =>
                  worn_of_moved movable trashed.moved present)
                followed again.followed again.directory
              exact ih trashed.rooted
                ((realPath_same same).1.trans followed) stays

theorem trash_visible
    (items : List (String × Nat))
    (rooted : Rooted root made) (prepared : Prepared root place tree made)
    (absent : entry place tree = none) (visible : VisiblePlace root place) :
    ¬ VisibleSame root tree
      (forEach items (deleteOne system conditions root) made).2 := by
  intro same
  have stands := @deletions_stand system conditions root made place items
    rooted prepared.followed prepared.directory
  cases absent.symm.trans ((same place visible).symm.trans stands)

theorem entry_added
    {path place other : Path}
    (added : add (.directory []) path tree = some next)
    (found : locate path tree = some place) (different : other ≠ place) :
    entry other next = entry other tree := by
  by_cases below : place <+: other
  · obtain ⟨rest, rfl⟩ := below
    obtain ⟨same, foundToo, absent, -⟩ := add_eq_some added
    cases found.symm.trans foundToo
    rw [entry_add_self added found, entry_below rest absent]
    cases rest with
    | nil => exact absurd (List.append_nil _) different
    | cons name more => rfl
  · obtain ⟨same, foundToo, -, rfl⟩ := add_eq_some added
    cases found.symm.trans foundToo
    exact entry_store _ found below

theorem stat_absent
    {path : Path} (plain : Plain path) (linkFree : LinkFree tree [] path)
    (absent : entry path tree = none) : stat path tree = none := by
  by_contra present
  obtain ⟨kind, found⟩ := Option.ne_none_iff_exists'.mp present
  cases absent.symm.trans (stat_of_linkFree plain linkFree found)

theorem stat_trash_absent
    (plain : Plain root)
    (panel : entry (root ++ [".gravit-panel"]) tree = some .directory)
    (absent : entry (root ++ [".gravit-panel"] ++ ["trash"]) tree = none) :
    stat (root ++ [".gravit-panel"] ++ ["trash"]) tree = none := by
  apply stat_absent _ _ absent
  · rw [← trashPath_eq]
    exact plain_trash plain
  · refine linkFree_append.mpr ⟨linkFree_of_entry panel rfl, ?_, trivial⟩
    intro kind present
    cases absent.symm.trans present

theorem prepared_there
    (rooted : Rooted root tree)
    (followed : realPath (trashPath root) tree = some place)
    (directory : entry place tree = some .directory) :
    makeDirectories permits tree [] (trashPath root) = (true, tree) ∧
      Prepared root place tree tree := by
  have above := followed
  rw [trashPath_eq] at above
  obtain ⟨parent, reached, parentDirectory⟩ :=
    realPath_above (by decide) above
  have panel : stat (root ++ [".gravit-panel"]) tree = some .directory := by
    rw [stat, reached]
    exact parentDirectory
  have trash : stat (root ++ [".gravit-panel"] ++ ["trash"]) tree =
      some .directory := by
    rw [← trashPath_eq, stat, followed]
    exact directory
  refine ⟨?_, followed, directory, fun _ => .inl rfl, fun _ _ => Iff.rfl⟩
  rw [trash_through rooted]
  unfold makeDirectories
  rw [panel]
  dsimp only
  unfold makeDirectories
  rw [trash]
  rfl

theorem prepared_alone
    (rooted : Rooted root tree)
    (found : locate (trashPath root) tree = some place)
    (absent : entry place tree = none)
    (permitted : permits (trashPath root) = true) :
    ∃ made, makeDirectories permits tree [] (trashPath root) =
      (true, made) ∧ Prepared root place tree made := by
  have named : "trash" ≠ "" ∧ "trash" ≠ "." ∧ "trash" ≠ ".." := by decide
  obtain ⟨parent, reached, directory, rfl⟩ := locate_trash found
  have panel : stat (root ++ [".gravit-panel"]) tree = some .directory := by
    rw [stat, reached]
    exact directory
  obtain ⟨onward, before⟩ := realPath_concat named reached directory
    (fun kind here => by cases absent.symm.trans here)
  have missing : stat (root ++ [".gravit-panel"] ++ ["trash"]) tree =
      none := by
    rw [stat, onward, absent]
    rfl
  obtain ⟨made, added⟩ : ∃ made,
      add (.directory []) (trashPath root) tree = some made :=
    ⟨_, add_of_absent found absent⟩
  have here := entry_add_self added found []
  rw [List.append_nil] at here
  -- nothing is added on the way to the parent, so it leads where it led
  have unchanged : ∀ step ∈ way (root ++ [".gravit-panel"]) tree,
      entry step made = entry step tree := by
    intro step member
    obtain ⟨kind, present, -⟩ := way_present reached directory step member
    rw [present]
    exact add_keeps added present
  obtain ⟨reachedMade, wayMade⟩ := realPath_same unchanged
  obtain ⟨onwardMade, after⟩ := realPath_concat named
    (reachedMade.trans reached) (add_keeps added directory)
    (fun kind inside => by
      cases here.symm.trans inside
      rfl)
  refine ⟨made, ?_, ?_, here, ?_, ?_⟩
  · rw [trash_through rooted]
    unfold makeDirectories
    rw [panel]
    dsimp only
    unfold makeDirectories
    rw [missing, ← trashPath_eq]
    dsimp only
    rw [permit_eq_some.mpr ⟨permitted, added⟩]
    rfl
  · rw [trashPath_eq, onwardMade, here]
    rfl
  · intro other
    by_cases new : other = parent ++ ["trash"]
    · subst new
      exact .inr ⟨absent, List.prefix_refl _, .inl rfl⟩
    · exact .inl (entry_added added found new)
  · intro step _
    rw [trashPath_eq, after, before, wayMade]

theorem prepared_both
    (rooted : Rooted root tree)
    (absent : entry (root ++ [".gravit-panel"]) tree = none)
    (panelPermitted : permits (root ++ [".gravit-panel"]) = true)
    (trashPermitted : permits (trashPath root) = true) :
    ∃ made, makeDirectories permits tree [] (trashPath root) =
      (true, made) ∧ Prepared root (trashPath root) tree made := by
  have shape := trashPath_eq root
  have panelPlain := plain_panel rooted.plain
  have plain := plain_trash rooted.plain
  have panelFree : LinkFree tree [] (root ++ [".gravit-panel"]) := by
    refine linkFree_append.mpr
      ⟨linkFree_of_entry rooted.directory rfl, ?_, trivial⟩
    intro kind here
    cases absent.symm.trans here
  have found := locate_of_directory ".gravit-panel" rooted.plain
    rooted.directory
  obtain ⟨begun, added⟩ : ∃ begun,
      add (.directory []) (root ++ [".gravit-panel"]) tree = some begun :=
    ⟨_, add_of_absent found absent⟩
  have panel := entry_add_self added found []
  rw [List.append_nil] at panel
  have inside : entry (root ++ [".gravit-panel"] ++ ["trash"]) begun =
      none := entry_add_self added found ["trash"]
  have foundToo := locate_of_directory "trash" panelPlain panel
  obtain ⟨made, addedToo⟩ : ∃ made, add (.directory [])
      (root ++ [".gravit-panel"] ++ ["trash"]) begun = some made :=
    ⟨_, add_of_absent foundToo inside⟩
  have here := entry_add_self addedToo foundToo []
  rw [List.append_nil, ← shape] at here
  refine ⟨made, ?_, realPath_of_entry plain here rfl, here, ?_, ?_⟩
  · rw [trash_through rooted]
    unfold makeDirectories
    rw [stat_absent panelPlain panelFree absent]
    dsimp only
    rw [permit_eq_some.mpr ⟨panelPermitted, added⟩]
    dsimp only
    unfold makeDirectories
    rw [stat_trash_absent rooted.plain panel inside]
    dsimp only
    rw [permit_eq_some.mpr ⟨shape ▸ trashPermitted, addedToo⟩]
    rfl
  · intro other
    by_cases new : other = root ++ [".gravit-panel"]
    · subst new
      refine .inr ⟨absent, ?_, .inr ?_⟩
      · rw [shape]
        exact List.prefix_append _ _
      · rintro ⟨parts, same, shown⟩
        have parts := List.append_cancel_left same
        subst parts
        exact shown _ List.mem_cons_self (by decide)
    by_cases newToo : other = root ++ [".gravit-panel"] ++ ["trash"]
    · subst newToo
      exact .inr ⟨entry_below ["trash"] absent,
        shape ▸ List.prefix_refl _, .inl shape.symm⟩
    · exact .inl ((entry_added addedToo foundToo newToo).trans
        (entry_added added found new))
  · intro step apart
    have treeFree : LinkFree tree [] (trashPath root) := by
      rw [shape]
      exact linkFree_append.mpr ⟨panelFree, linkFree_of_absent absent _⟩
    exact iff_of_false
      (fun member => apart (way_of_linkFree plain
        (linkFree_of_entry here rfl) step member))
      (fun member => apart (way_of_linkFree plain treeFree step member))

theorem TrashPlace.prepared
    (rooted : Rooted root tree)
    (ready : TrashPlace conditions root tree place) :
    ∃ made, makeDirectories conditions.makes tree [] (trashPath root) =
      (true, made) ∧ Prepared root place tree made := by
  cases ready with
  | there followed directory =>
      exact ⟨tree, prepared_there rooted followed directory⟩
  | alone found absent permitted =>
      exact prepared_alone rooted found absent permitted
  | both absent panelPermitted trashPermitted =>
      exact prepared_both rooted absent panelPermitted trashPermitted

theorem trashPlace_of_made
    (rooted : Rooted root tree)
    (prepared : makeDirectories conditions.makes tree [] (trashPath root) =
      (true, made)) :
    ∃ place, TrashPlace conditions root tree place := by
  have shape := trashPath_eq root
  rw [trash_through rooted] at prepared
  unfold makeDirectories at prepared
  cases panel : stat (root ++ [".gravit-panel"]) tree with
  | some kind =>
      rw [panel] at prepared
      cases kind with
      | file bytes => cases prepared
      | link absolute steps => cases prepared
      | directory =>
          dsimp only at prepared
          rcases makeDirectories_last prepared with
            ⟨-, there⟩ | ⟨-, -, permitted, added⟩
          · obtain ⟨place, followed, directory⟩ :=
              Option.bind_eq_some_iff.mp (there rfl)
            rw [← shape] at followed
            exact ⟨place, .there followed directory⟩
          · rw [← shape] at permitted added
            obtain ⟨place, found, absent, -⟩ := add_eq_some added
            exact ⟨place, .alone found absent permitted⟩
  | none =>
      rw [panel] at prepared
      dsimp only at prepared
      cases done : permit (conditions.makes (root ++ [".gravit-panel"]))
          (add (.directory []) (root ++ [".gravit-panel"])) tree with
      | none =>
          rw [done] at prepared
          cases prepared
      | some begun =>
          rw [done] at prepared
          obtain ⟨panelPermitted, added⟩ := permit_eq_some.mp done
          have found := locate_of_directory ".gravit-panel" rooted.plain
            rooted.directory
          obtain ⟨place, foundToo, absent, -⟩ := add_eq_some added
          cases found.symm.trans foundToo
          have here := entry_add_self added found []
          rw [List.append_nil] at here
          have inside : entry (root ++ [".gravit-panel"] ++ ["trash"]) begun =
              none := entry_add_self added found ["trash"]
          rcases makeDirectories_last prepared with
            ⟨-, there⟩ | ⟨-, -, permitted, -⟩
          · have missing := stat_trash_absent rooted.plain here inside
            cases missing.symm.trans (there rfl)
          · exact ⟨trashPath root, .both absent panelPermitted
              (shape ▸ permitted)⟩

theorem Movable.of_same
    {item : String × Nat}
    (same : ∀ other, ¬ other <+: place → entry other next = entry other tree)
    (movable : Movable system conditions root place tree item) :
    Movable system conditions root place next item where
  valid := movable.valid
  present := by
    rw [same _ movable.apart]
    exact movable.present
  permitted := movable.permitted
  named := movable.named
  apart := movable.apart
  besides := movable.besides
  free := by
    rw [same _ (not_inTrash_above item), same _ movable.apart]
    exact movable.free

theorem Compatible.of_same
    {first later : String × Nat}
    (same : ∀ other, ¬ other <+: place → entry other next = entry other tree)
    (steps : ∀ step, ¬ step <+: place →
      (step ∈ way (trashPath root) next ↔ step ∈ way (trashPath root) tree))
    (firstApart : ¬ livePath root first.1 <+: place)
    (laterApart : ¬ livePath root later.1 <+: place)
    (compatible : Compatible conditions root place tree first later) :
    Compatible conditions root place next first later where
  separate := compatible.separate
  outside := compatible.outside
  wayOpen := by
    intro step member
    by_cases above : step <+: place
    · refine ⟨fun below => firstApart (below.trans above), ?_⟩
      rintro rfl
      exact not_inTrash_above first above
    · exact compatible.wayOpen step ((steps step above).mp member)
  sameName := by
    rw [same _ firstApart, same _ laterApart]
    exact compatible.sameName

theorem AllMovable.of_same
    {items : List (String × Nat)}
    (same : ∀ other, ¬ other <+: place → entry other next = entry other tree)
    (steps : ∀ step, ¬ step <+: place →
      (step ∈ way (trashPath root) next ↔ step ∈ way (trashPath root) tree))
    (all : AllMovable system conditions root place tree items) :
    AllMovable system conditions root place next items := by
  refine ⟨fun item member => (all.1 item member).of_same same, ?_⟩
  refine all.2.imp_of_mem ?_
  intro first later firstMember laterMember compatible
  exact compatible.of_same same steps (all.1 first firstMember).apart
    (all.1 later laterMember).apart

/-! ## Deletions that fail -/

variable {request : FilesystemRequest}

theorem deletes_spec (confirmed : request.deletes = true) :
    deleteChecks request = (.ok () : Except String Unit) ∧
      request.paths ≠ [] := by
  unfold FilesystemRequest.deletes at confirmed
  unfold deleteChecks
  cases shape : request.paths with
  | nil =>
      rw [shape] at confirmed
      simp at confirmed
  | cons first rest =>
      rw [shape] at confirmed
      simp only [Bool.and_eq_true, decide_eq_true_eq] at confirmed
      obtain ⟨⟨⟨-, confirm⟩, -⟩, few⟩ := confirmed
      refine ⟨?_, List.cons_ne_nil _ _⟩
      rw [if_neg]
      have within : rest.length + 1 ≤ 100 := few
      simp [confirm]
      omega

theorem delete_unprepared
    (confirmed : request.deletes = true)
    (failed : makeDirectories conditions.makes tree [] (trashPath root) =
      (false, made)) :
    delete system conditions root request tree =
      (.error "prepare trash", made) := by
  unfold delete
  rw [(deletes_spec confirmed).1, lift_bind]
  exact bind_of_error (ensureDirectories_of_failed failed) _

theorem delete_prepared
    (confirmed : request.deletes = true)
    (prepared : makeDirectories conditions.makes tree [] (trashPath root) =
      (true, made)) :
    delete system conditions root request tree =
      (forEach request.paths.zipIdx (deleteOne system conditions root) >>=
        fun _ => pure (.paths request.paths)) made := by
  unfold delete
  rw [(deletes_spec confirmed).1, lift_bind]
  exact bind_of_ok (ensureDirectories_of_made prepared) _

/-- A failing deletion that is undivided leaves what is visible. -/
theorem delete_unchanged
    (rooted : Rooted root tree) (confirmed : request.deletes = true)
    (undivided : Undivided system conditions root request tree)
    (failed : delete system conditions root request tree =
      (.error problem, after)) :
    VisibleSame root tree after := by
  have items : request.paths.zipIdx ≠ [] := by
    rw [ne_eq, List.zipIdx_eq_nil_iff]
    exact (deletes_spec confirmed).2
  obtain ⟨first, rest, shape⟩ := List.exists_cons_of_ne_nil items
  cases made : makeDirectories conditions.makes tree [] (trashPath root) with
  | mk done begun =>
      cases done with
      | false =>
          rw [delete_unprepared confirmed made] at failed
          cases failed
          exact unprepared_visible rooted made
      | true =>
          have madeRooted := prepared_rooted rooted made
          obtain ⟨place, ready⟩ := trashPlace_of_made rooted made
          obtain ⟨other, madeToo, prepared⟩ := ready.prepared rooted
          cases made.symm.trans madeToo
          rw [delete_prepared confirmed made] at failed
          rcases undivided confirmed place ready with all | ⟨hidden, unmoved⟩
          · obtain ⟨next, done⟩ := forEach_of_allMovable madeRooted
              (fun _ => ⟨prepared.followed, prepared.directory⟩)
              (all.of_same (fun _ => prepared.same) prepared.way)
            rw [bind_of_ok done] at failed
            cases failed
          · have visible := prepared.visible hidden
            have stays : ¬ Movable system conditions root place begun
                first := by
              intro movable
              apply unmoved first (by rw [shape]; rfl)
              exact movable.of_same fun other apart =>
                (prepared.same apart).symm
            rcases @deleteOne_cases system conditions root begun madeRooted
                first with ⟨refusal, refused⟩ | ⟨next, trash, done, -, -⟩
            · rw [shape, forEach, bind_bind, bind_of_error refused]
                at failed
              cases failed
              exact visible
            · exact absurd ((deleteOne_done_iff madeRooted prepared.followed
                prepared.directory first).mp ⟨next, done⟩) stays

/-- A deletion whose failures leave what is visible is undivided, if no path
names what the deletion itself puts in the trash. -/
theorem undivided_of_unchanged
    (rooted : Rooted root tree) (confirmed : request.deletes = true)
    (unnamed : TrashUnnamed conditions root request tree)
    (unchanged : ∀ problem after,
      delete system conditions root request tree = (.error problem, after) →
        VisibleSame root tree after) :
    Undivided system conditions root request tree := by
  intro _ place ready
  obtain ⟨made, begun, prepared⟩ := ready.prepared rooted
  have madeRooted := prepared_rooted rooted begun
  have back : ∀ other, ¬ other <+: place →
      entry other tree = entry other made := fun other apart =>
    (prepared.same apart).symm
  cases ended : forEach request.paths.zipIdx
      (deleteOne system conditions root) made with
  | mk outcome after =>
      cases outcome with
      | ok value =>
          left
          have all := allMovable_of_forEach madeRooted prepared.followed
            prepared.directory (unnamed confirmed place ready) ended
          exact all.of_same back fun step apart =>
            (prepared.way step apart).symm
      | error problem =>
          right
          have failed : delete system conditions root request tree =
              (.error problem, after) := by
            rw [delete_prepared confirmed begun]
            exact bind_of_error ended _
          have same := unchanged problem after failed
          rw [show after = (forEach request.paths.zipIdx
            (deleteOne system conditions root) made).2 by rw [ended]] at same
          have hidden : entry place tree = none →
              ¬ VisiblePlace root place := fun absent visible =>
            trash_visible _ madeRooted prepared absent visible same
          refine ⟨hidden, ?_⟩
          intro first member movable
          obtain ⟨rest, shape⟩ := List.head?_eq_some_iff.mp member
          rw [shape] at same
          obtain ⟨next, done⟩ := (deleteOne_done_iff madeRooted
            prepared.followed prepared.directory first).mpr
              (movable.of_same fun _ => prepared.same)
          apply deletions_visible madeRooted done
          have before := prepared.visible hidden
          intro other visible
          rw [same other visible, before other visible]

theorem mkdir_failed
    (rooted : Rooted root tree)
    (failed : mkdir system conditions root request tree =
      (.error problem, after)) :
    after = tree := by
  unfold mkdir at failed
  rcases @safeLivePath_cases system root request.path tree false rooted with
    ⟨refusal, refused⟩ | ⟨checked, -, -⟩
  · rw [bind_of_error refused] at failed
    cases failed
    rfl
  · rw [bind_of_ok checked] at failed
    cases added : permit (conditions.makes (livePath root request.path))
        (add (.directory []) (livePath root request.path)) tree with
    | none =>
        rw [bind_of_error (attempt_of_none added)] at failed
        cases failed
        rfl
    | some next =>
        rw [bind_of_ok (attempt_of_some added)] at failed
        cases failed

theorem move_failed
    (rooted : Rooted root tree)
    (failed : move system conditions root request tree =
      (.error problem, after)) :
    after = tree := by
  unfold move at failed
  rcases @safeLivePath_cases system root request.sourcePath tree false
      rooted with ⟨refusal, refused⟩ | ⟨checked, -, -⟩
  · rw [bind_of_error refused] at failed
    cases failed
    rfl
  · rw [bind_of_ok checked] at failed
    rcases @safeLivePath_cases system root request.destinationPath tree false
        rooted with ⟨refusal, refused⟩ | ⟨checkedToo, -, -⟩
    · rw [bind_of_error refused] at failed
      cases failed
      rfl
    · rw [bind_of_ok checkedToo, bind_of_ok (get_apply tree), lift_bind]
        at failed
      cases checks : moveChecks (livePath root request.sourcePath)
          (livePath root request.destinationPath) tree with
      | error refusal =>
          rw [checks] at failed
          cases failed
          rfl
      | ok value =>
          rw [checks] at failed
          dsimp only at failed
          cases renamed : osRename (conditions.renames 0)
              (livePath root request.sourcePath)
              (livePath root request.destinationPath) tree with
          | none =>
              rw [bind_of_error (attempt_of_none renamed)] at failed
              cases failed
              rfl
          | some next =>
              rw [bind_of_ok (attempt_of_some renamed)] at failed
              cases failed

theorem replaceFile_failed
    {temp target : Path}
    (failed : replaceFile conditions temp target tree =
      (.error problem, after)) : after = tree := by
  unfold replaceFile at failed
  cases written : conditions.writes with
  | false =>
      rw [written] at failed
      cases failed
      rfl
  | true =>
      cases permitted : conditions.modes with
      | false =>
          rw [written, permitted] at failed
          cases failed
          rfl
      | true =>
          rw [written, permitted] at failed
          change attempt "replace file" (osRename (conditions.renames 0)
            temp target) tree = _ at failed
          cases renamed : osRename (conditions.renames 0) temp target tree with
          | none =>
              rw [attempt_of_none renamed] at failed
              cases failed
              rfl
          | some next =>
              rw [attempt_of_some renamed] at failed
              cases failed

theorem writeFile_failed
    {above : Path} {temporary leaf problem : String} {data : List UInt8}
    (plain : Plain above) (directory : entry above tree = some .directory)
    (failed : writeFile conditions data (above ++ [temporary])
      (above ++ [leaf]) tree = (.error problem, after))
    (other : Path) : entry other after = entry other tree := by
  unfold writeFile at failed
  cases created : conditions.creates with
  | false =>
      rw [created] at failed
      cases failed
      rfl
  | true =>
      rw [created] at failed
      change (attempt "create temporary file"
        (add (.file data) (above ++ [temporary])) >>= fun _ =>
          (replaceFile conditions (above ++ [temporary])
            (above ++ [leaf])).cleanUp fun tree =>
              (unlink (above ++ [temporary]) tree).getD tree) tree = _
        at failed
      cases added : add (.file data) (above ++ [temporary]) tree with
      | none =>
          rw [bind_of_error (attempt_of_none added)] at failed
          cases failed
          rfl
      | some made =>
          rw [bind_of_ok (attempt_of_some added)] at failed
          have madeDirectory := add_keeps added directory
          have found := locate_of_directory temporary plain directory
          have foundMade := locate_of_directory temporary plain madeDirectory
          cases replaced : replaceFile conditions (above ++ [temporary])
              (above ++ [leaf]) made with
          | mk outcome reached =>
              cases outcome with
              | ok value =>
                  rw [cleanUp, replaced] at failed
                  cases failed
              | error refusal =>
                  rw [cleanUp, replaced] at failed
                  cases failed
                  rw [replaceFile_failed replaced,
                    unlink_added added found foundMade, Option.getD_some]
                  exact entry_added_removed added found foundMade

theorem write_failed
    (rooted : Rooted root tree)
    (failed : write system conditions root request tree =
      (.error problem, after))
    (other : Path) : entry other after = entry other tree := by
  unfold write at failed
  rcases @safeLivePath_cases system root request.path tree false rooted with
    ⟨refusal, refused⟩ | ⟨checked, safe, named⟩
  · rw [bind_of_error refused] at failed
    cases failed
    rfl
  · rw [bind_of_ok checked, bind_of_ok (get_apply tree), lift_bind]
      at failed
    cases checks : writeChecks system request (livePath root request.path)
        tree with
    | error refusal =>
        rw [checks] at failed
        cases failed
        rfl
    | ok data =>
        rw [checks] at failed
        obtain ⟨above, leaf, shape, -⟩ :=
          @livePath_shape root request.path (named (Or.inl rfl))
        have plain := safe.plain
        have linkFree := safe.linkFree
        have parent := writeChecks_parent checks
        rw [shape] at plain linkFree
        rw [shape, List.dropLast_concat] at parent
        have abovePlain : Plain (root ++ above) := fun name member =>
          plain name (List.mem_append_left _ member)
        have directory := lstat_of_linkFree abovePlain
          (linkFree_append.mp linkFree).1 parent
        dsimp only at failed
        rw [shape, List.dropLast_concat] at failed
        cases written : writeFile conditions data
            (root ++ above ++ [".gravit-fs-" ++ conditions.temporary])
            (root ++ above ++ [leaf]) tree with
        | mk outcome reached =>
            cases outcome with
            | ok value =>
                rw [bind_of_ok written] at failed
                cases failed
            | error refusal =>
                rw [bind_of_error written] at failed
                cases failed
                exact writeFile_failed abovePlain directory written other

theorem undivided_of_unconfirmed
    (unconfirmed : request.deletes = false) :
    Undivided system conditions root request tree := by
  intro confirmed
  rw [unconfirmed] at confirmed
  cases confirmed

/-- A request that is no confirmed deletion and fails changes nothing. -/
theorem unchanged_of_unconfirmed
    (rooted : Rooted root tree) (unconfirmed : request.deletes = false)
    (failed : executeFilesystem system conditions root request tree =
      (.error problem, after)) (other : Path) :
    entry other after = entry other tree := by
  rcases executeFilesystem_cases system conditions root request with
    ⟨-, same⟩ | ⟨-, same⟩ | ⟨-, same⟩ | ⟨-, same⟩ | ⟨-, same⟩ |
      ⟨operation, same⟩ | same
  · have kept := @list_after system root request tree rooted
    rw [same] at failed
    rw [failed] at kept
    exact congrArg (entry other) kept
  · have kept := @read_after system root request tree rooted
    rw [same] at failed
    rw [failed] at kept
    exact congrArg (entry other) kept
  · rw [same] at failed
    exact write_failed rooted failed other
  · rw [same] at failed
    rw [mkdir_failed rooted failed]
  · rw [same] at failed
    rw [move_failed rooted failed]
  · have kept := @delete_refused system conditions root request tree
      operation unconfirmed
    rw [same] at failed
    rw [failed] at kept
    exact congrArg (entry other) kept
  · rw [same] at failed
    cases failed
    rfl

/-- A request that fails leaves what is visible under the root if it is
undivided, and only then unless it names what it puts in the trash itself. -/
theorem failure_unchanged_iff
    (rooted : Rooted root tree) (conditions : FilesystemConditions)
    (request : FilesystemRequest) :
    (Undivided system conditions root request tree →
      ∀ problem after,
        executeFilesystem system conditions root request tree =
            (.error problem, after) →
          VisibleSame root tree after) ∧
    (TrashUnnamed conditions root request tree →
      (∀ problem after,
        executeFilesystem system conditions root request tree =
            (.error problem, after) →
          VisibleSame root tree after) →
        Undivided system conditions root request tree) := by
  cases confirmed : request.deletes with
  | true =>
      have operation : request.operation = "delete" := by
        unfold FilesystemRequest.deletes at confirmed
        simp only [Bool.and_eq_true, decide_eq_true_eq] at confirmed
        exact confirmed.1.1.1
      have same : executeFilesystem system conditions root request =
          delete system conditions root request := by
        unfold executeFilesystem
        rw [operation]
        rfl
      rw [same]
      exact ⟨fun undivided problem after failed =>
          delete_unchanged rooted confirmed undivided failed,
        undivided_of_unchanged rooted confirmed⟩
  | false =>
      refine ⟨fun _ problem after failed other _ =>
        unchanged_of_unconfirmed rooted confirmed failed other, ?_⟩
      exact fun _ _ => undivided_of_unconfirmed confirmed

end Deletion

/-- A server directory with its own trash. -/
def serverHost : Node := exampleHost (.directory [])

def deletion (paths : List String) : FilesystemRequest :=
  exampleRequest "delete" "" paths

theorem rooted_serverHost : Rooted ["srv"] serverHost := by
  refine ⟨?_, by decide +kernel⟩
  intro name member
  cases List.mem_singleton.mp member
  decide

/-- An invalid path at the beginning leaves everything. -/
theorem invalid_first_unchanged :
    VisibleSame ["srv"] serverHost
      (executeFilesystem exampleSystem exampleConditions ["srv"]
        (deletion ["../a.txt", "a.txt"]) serverHost).2 := by
  have refused : validateLivePath exampleSystem "../a.txt" false =
      (.error "invalid path component" : Except String Unit) := rfl
  have undivided : Undivided exampleSystem exampleConditions ["srv"]
      (deletion ["../a.txt", "a.txt"]) serverHost := by
    intro _ place ready
    right
    constructor
    · cases ready with
      | there followed directory =>
          intro absent
          cases absent.symm.trans directory
      | alone found absent =>
          cases found
          exact absurd absent (by decide +kernel)
      | both absent => exact absurd absent (by decide +kernel)
    · intro first member movable
      cases member
      cases refused.symm.trans movable.valid
  have failed : (executeFilesystem exampleSystem exampleConditions ["srv"]
      (deletion ["../a.txt", "a.txt"]) serverHost).1 =
        .error "invalid path component" := rfl
  exact (failure_unchanged_iff rooted_serverHost exampleConditions
    (deletion ["../a.txt", "a.txt"])).1 undivided _ _
      (Prod.ext failed rfl)

/-- An invalid path at the end is found when the first file is gone. -/
theorem invalid_last_changes :
    ∃ problem after,
      executeFilesystem exampleSystem exampleConditions ["srv"]
          (deletion ["a.txt", "../a.txt"]) serverHost =
        (.error problem, after) ∧
      ¬ VisibleSame ["srv"] serverHost after := by
  have failed : (executeFilesystem exampleSystem exampleConditions ["srv"]
      (deletion ["a.txt", "../a.txt"]) serverHost).1.isOk = false := by
    decide +kernel
  have gone : entry ["srv", "a.txt"]
      (executeFilesystem exampleSystem exampleConditions ["srv"]
        (deletion ["a.txt", "../a.txt"]) serverHost).2 = none := by
    decide +kernel
  cases ended : executeFilesystem exampleSystem exampleConditions ["srv"]
      (deletion ["a.txt", "../a.txt"]) serverHost with
  | mk outcome after =>
      rw [ended] at failed gone
      cases outcome with
      | ok result => cases failed
      | error problem =>
          refine ⟨problem, after, rfl, ?_⟩
          intro same
          have visible : VisiblePlace ["srv"] ["srv", "a.txt"] := by
            refine ⟨["a.txt"], rfl, ?_⟩
            intro part member
            cases List.mem_singleton.mp member
            decide
          have kept := same _ visible
          rw [gone] at kept
          exact absurd kept (by decide +kernel)

end GravitPanel.Agent
