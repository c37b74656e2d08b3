import Mathlib.Algebra.Order.BigOperators.Group.Finset
import GravitPanel.Core.FileSystem

/-!
# Entries that move

When entries of a region of a file tree are only moved and replaced, each entry
that is left comes from one of before.  If moving raises a weight, a tree whose
entries are where they were before had no moves.
-/

namespace GravitPanel.FileTree

/-- Where the entries of a region come from. -/
structure Relocation
    (region : Path → Prop) (weight : Path → Nat) (before after : Node)
    (origin : Path → Path) : Prop where
  present : ∀ place, region place → entry place after ≠ none →
    region (origin place) ∧ entry (origin place) before ≠ none
  injective : ∀ first second, region first → region second →
    entry first after ≠ none → entry second after ≠ none →
      origin first = origin second → first = second
  lighter : ∀ place, region place → entry place after ≠ none →
    weight (origin place) ≤ weight place

section Relocations

variable {region : Path → Prop} {weight : Path → Nat}
variable {before middle after : Node} {origin : Path → Path}

theorem relocation_refl (tree : Node) :
    Relocation region weight tree tree id where
  present _ inside here := ⟨inside, here⟩
  injective _ _ _ _ _ _ same := same
  lighter _ _ _ := Nat.le_refl _

theorem Relocation.trans
    {earlier : Path → Path}
    (first : Relocation region weight before middle earlier)
    (second : Relocation region weight middle after origin) :
    Relocation region weight before after (earlier ∘ origin) where
  present place inside here := by
    obtain ⟨between, present⟩ := second.present place inside here
    exact first.present _ between present
  injective left right leftInside rightInside leftHere rightHere same := by
    obtain ⟨leftBetween, leftPresent⟩ :=
      second.present left leftInside leftHere
    obtain ⟨rightBetween, rightPresent⟩ :=
      second.present right rightInside rightHere
    apply second.injective left right leftInside rightInside leftHere
      rightHere
    exact first.injective _ _ leftBetween rightBetween leftPresent
      rightPresent same
  lighter place inside here := by
    obtain ⟨between, present⟩ := second.present place inside here
    exact (first.lighter _ between present).trans
      (second.lighter place inside here)

theorem Relocation.weight_eq
    (relocation : Relocation region weight before after origin)
    (same : ∀ place, region place →
      (entry place after ≠ none ↔ entry place before ≠ none))
    {place : Path} (inside : region place)
    (here : entry place before ≠ none) :
    ∃ other, region other ∧ entry other after ≠ none ∧
      origin other = place ∧ weight other = weight place := by
  classical
  let places : Finset Path := before.paths.toFinset.filter fun place =>
    region place ∧ entry place before ≠ none
  have member (other : Path) : other ∈ places ↔
      region other ∧ entry other before ≠ none := by
    constructor
    · intro listed
      exact (Finset.mem_filter.mp listed).2
    · intro known
      apply Finset.mem_filter.mpr
      exact ⟨List.mem_toFinset.mpr (mem_paths known.2), known⟩
  have maps : Set.MapsTo origin places places := by
    intro other listed
    obtain ⟨otherInside, otherHere⟩ := (member other).mp listed
    exact (member _).mpr (relocation.present other otherInside
      ((same other otherInside).mpr otherHere))
  have injective : Set.InjOn origin places := by
    intro first firstListed second secondListed equal
    obtain ⟨firstInside, firstHere⟩ := (member first).mp firstListed
    obtain ⟨secondInside, secondHere⟩ := (member second).mp secondListed
    exact relocation.injective first second firstInside secondInside
      ((same first firstInside).mpr firstHere)
      ((same second secondInside).mpr secondHere) equal
  have surjective : Set.SurjOn origin places places :=
    Finset.surjOn_of_injOn_of_card_le origin maps injective le_rfl
  obtain ⟨other, listed, comes⟩ := surjective ((member place).mpr
    ⟨inside, here⟩)
  obtain ⟨otherInside, otherHere⟩ := (member other).mp listed
  have otherAfter := (same other otherInside).mpr otherHere
  refine ⟨other, otherInside, otherAfter, comes, ?_⟩
  have total : ∑ other ∈ places, weight (origin other) =
      ∑ other ∈ places, weight other :=
    Finset.sum_nbij origin maps injective surjective fun _ _ => rfl
  have lighter : ∀ other ∈ places, weight (origin other) ≤ weight other := by
    intro other listed
    obtain ⟨otherInside, otherHere⟩ := (member other).mp listed
    exact relocation.lighter other otherInside
      ((same other otherInside).mpr otherHere)
  have equal := (Finset.sum_eq_sum_iff_of_le lighter).mp total other listed
  rw [comes] at equal
  exact equal.symm

end Relocations

theorem locate_concat_iff
    {path place : Path} {leaf : String} {tree : Node} :
    locate (path ++ [leaf]) tree = some place ↔
      ∃ parent, realPath path tree = some parent ∧
        entry parent tree = some .directory ∧ place = parent ++ [leaf] := by
  unfold locate
  rw [List.getLast?_concat, List.dropLast_concat]
  dsimp only
  cases followed : realPath path tree with
  | none => simp
  | some parent =>
      dsimp only
      by_cases directory : entry parent tree = some .directory
      · simp [directory, eq_comm]
      · simp [directory]

theorem lstat_concat
    {path place : Path} {leaf : String} {tree : Node}
    (found : locate (path ++ [leaf]) tree = some place) :
    lstat (path ++ [leaf]) tree = entry place tree := by
  unfold lstat
  split
  · next empty => exact absurd empty (by simp)
  · rw [found, Option.bind_some]

/-- What an entry at one place can be put on. -/
def Free (tree : Node) (origin place : Path) : Prop :=
  entry place tree ≠ none →
    (entry place tree = some .directory ↔
      entry origin tree = some .directory) ∧
        ∀ name, entry (place ++ [name]) tree = none

theorem replaceable_iff
    {tree node : Node} {origin place : Path}
    (held : lookup origin tree = some node) :
    replaceable node (lookup place tree) = true ↔
      Free tree origin place := by
  have own : entry origin tree = some node.kind := by
    rw [entry, held, Option.map_some]
  unfold Free
  rw [own]
  cases taken : lookup place tree with
  | none =>
      have absent := entry_eq_none.mpr taken
      exact ⟨fun _ present => absurd absent present, fun _ => rfl⟩
  | some other =>
      have here : entry place tree = some other.kind := by
        rw [entry, taken, Option.map_some]
      have below (name : String) : entry (place ++ [name]) tree =
          (other.child name).map Node.kind := by
        rw [entry, lookup_append, taken]
        cases held : other.child name <;> simp [lookup, held]
      rw [here]
      simp only [below, Option.some_inj]
      cases other with
      | file bytes => cases node <;> simp [replaceable, Node.kind, Node.child]
      | link absolute steps =>
          cases node <;> simp [replaceable, Node.kind, Node.child]
      | directory children =>
          cases children with
          | nil => cases node <;> simp [replaceable, Node.kind, Node.child]
          | cons child more =>
              obtain ⟨name, inner⟩ := child
              refine ⟨fun impossible => ?_, fun free => ?_⟩
              · have empty := (Bool.and_eq_true_iff.mp impossible).2
                cases empty
              · have empty := (free (Option.some_ne_none _)).2 name
                simp [Node.child] at empty

/-- A rename is done exactly if its entry is there, neither place is above the
other, and the new one has a short name and is free. -/
theorem rename_iff
    {source target origin place : Path} {tree : Node}
    (fromHere : locate source tree = some origin)
    (toHere : locate target tree = some place)
    (different : origin ≠ place) :
    (∃ next, rename source target tree = some next) ↔
      entry origin tree ≠ none ∧ ¬ origin <+: place ∧ ¬ place <+: origin ∧
        nameFits place = true ∧ Free tree origin place := by
  unfold rename
  rw [fromHere, toHere]
  dsimp only
  cases held : lookup origin tree with
  | none =>
      have absent := entry_eq_none.mpr held
      refine ⟨?_, fun done => absurd absent done.1⟩
      rintro ⟨next, impossible⟩
      cases impossible
  | some node =>
      have present : entry origin tree ≠ none := by
        rw [ne_eq, entry_eq_none, held]
        exact Option.some_ne_none node
      dsimp only
      rw [if_neg different, ← replaceable_iff held]
      by_cases nested : origin <+: place ∨ place <+: origin
      · rw [if_pos nested]
        refine ⟨?_, fun done => ?_⟩
        · rintro ⟨next, impossible⟩
          cases impossible
        · exact absurd nested (not_or.mpr ⟨done.2.1, done.2.2.1⟩)
      · rw [if_neg nested, ← Bool.and_eq_true_iff]
        obtain ⟨apart, besides⟩ := not_or.mp nested
        by_cases free : (nameFits place &&
            replaceable node (lookup place tree)) = true
        · rw [if_pos free]
          exact ⟨fun _ => ⟨present, apart, besides, free⟩, fun _ => ⟨_, rfl⟩⟩
        · rw [if_neg free]
          refine ⟨?_, fun done => absurd done.2.2.2 free⟩
          rintro ⟨next, impossible⟩
          cases impossible

/-- The entry at one place was moved to another, with all that is below it. -/
structure Moved (source place : Path) (before after : Node) : Prop where
  here : entry source before ≠ none
  apart : ¬ source <+: place
  besides : ¬ place <+: source
  arrived : ∀ rest,
    entry (place ++ rest) after = entry (source ++ rest) before
  gone : ∀ rest, entry (source ++ rest) after = none
  same : ∀ other, ¬ source <+: other → ¬ place <+: other →
    entry other after = entry other before

theorem moved_of_rename
    {source target origin place : Path} {before after : Node}
    (renamed : rename source target before = some after)
    (fromHere : locate source before = some origin)
    (toHere : locate target before = some place)
    (different : origin ≠ place) :
    Moved origin place before after := by
  unfold rename at renamed
  rw [fromHere, toHere] at renamed
  dsimp only at renamed
  cases held : lookup origin before with
  | none =>
      rw [held] at renamed
      cases renamed
  | some node =>
      rw [held] at renamed
      dsimp only at renamed
      rw [if_neg different] at renamed
      by_cases nested : origin <+: place ∨ place <+: origin
      · rw [if_pos nested] at renamed
        cases renamed
      · rw [if_neg nested] at renamed
        by_cases free : (nameFits place &&
            replaceable node (lookup place before)) = true
        · rw [if_pos free] at renamed
          cases renamed
          obtain ⟨apart, besides⟩ := not_or.mp nested
          obtain ⟨parent, leaf, rfl, directory⟩ := locate_shape toHere
          have aboveApart : ¬ origin <+: parent := fun shorter =>
            apart (shorter.trans (List.prefix_append parent [leaf]))
          have parentStays : entry parent (store none origin before) =
              some .directory := by
            rw [entry_store none fromHere aboveApart, directory]
          have removed (rest : Path) :
              entry (origin ++ rest) (store none origin before) = none := by
            rw [entry_eq_none, lookup_store none fromHere]
            rfl
          constructor
          · rw [ne_eq, entry_eq_none, held]
            exact Option.some_ne_none node
          · exact apart
          · exact besides
          · intro rest
            have arrived := @lookup_store_self (some node) parent leaf _
              parentStays rest
            rw [entry, entry, List.append_assoc, List.singleton_append,
              arrived, lookup_append, held]
          · intro rest
            have elsewhere : ¬ parent ++ [leaf] <+: origin ++ rest := by
              intro shorter
              rcases List.prefix_or_prefix_of_prefix shorter
                (List.prefix_append origin rest) with above | below
              · exact besides above
              · exact apart below
            rw [entry_store_other _ elsewhere, removed]
          · intro other otherApart otherBesides
            exact entry_rename fromHere toHere otherApart otherBesides
        · rw [if_neg free] at renamed
          cases renamed

/-- Where the entries come from after a move. -/
def movedFrom (source place other : Path) : Path :=
  if place <+: other then source ++ other.drop place.length else other

theorem movedFrom_below (source place rest : Path) :
    movedFrom source place (place ++ rest) = source ++ rest := by
  rw [movedFrom, if_pos (List.prefix_append place rest), List.drop_left]

theorem movedFrom_apart
    {source place other : Path} (apart : ¬ place <+: other) :
    movedFrom source place other = other :=
  if_neg apart

theorem Moved.relocation
    {region : Path → Prop} {weight : Path → Nat}
    {source place : Path} {before after : Node}
    (moved : Moved source place before after)
    (within : ∀ rest, region (place ++ rest) → region (source ++ rest))
    (heavier : ∀ rest, weight (source ++ rest) ≤ weight (place ++ rest)) :
    Relocation region weight before after (movedFrom source place) := by
  have kept (other : Path) (elsewhere : ¬ place <+: other)
      (present : entry other after ≠ none) :
      ¬ source <+: other ∧ entry other before ≠ none := by
    have unmoved : ¬ source <+: other := by
      rintro ⟨rest, rfl⟩
      exact present (moved.gone rest)
    refine ⟨unmoved, ?_⟩
    rw [← moved.same other unmoved elsewhere]
    exact present
  constructor
  · intro other inside present
    by_cases below : place <+: other
    · obtain ⟨rest, rfl⟩ := below
      rw [movedFrom_below, ← moved.arrived rest]
      exact ⟨within rest inside, present⟩
    · rw [movedFrom_apart below]
      exact ⟨inside, (kept other below present).2⟩
  · intro first second _ _ firstPresent secondPresent same
    by_cases firstBelow : place <+: first
    · obtain ⟨rest, rfl⟩ := firstBelow
      rw [movedFrom_below] at same
      by_cases secondBelow : place <+: second
      · obtain ⟨others, rfl⟩ := secondBelow
        rw [movedFrom_below] at same
        rw [List.append_cancel_left same]
      · rw [movedFrom_apart secondBelow] at same
        exact absurd ⟨rest, same⟩ (kept second secondBelow secondPresent).1
    · rw [movedFrom_apart firstBelow] at same
      by_cases secondBelow : place <+: second
      · obtain ⟨rest, rfl⟩ := secondBelow
        rw [movedFrom_below] at same
        exact absurd ⟨rest, same.symm⟩ (kept first firstBelow firstPresent).1
      · rw [movedFrom_apart secondBelow] at same
        exact same
  · intro other _ _
    by_cases below : place <+: other
    · obtain ⟨rest, rfl⟩ := below
      rw [movedFrom_below]
      exact heavier rest
    · rw [movedFrom_apart below]

/-- After a move that raises the weight, and further relocations, some place has
an entry that had none before, or has none that had one. -/
theorem Moved.not_restored
    {region : Path → Prop} {weight : Path → Nat}
    {source place : Path} {before middle after : Node}
    {origin : Path → Path}
    (moved : Moved source place before middle)
    (within : ∀ rest, region (place ++ rest) → region (source ++ rest))
    (heavier : ∀ rest, weight (source ++ rest) ≤ weight (place ++ rest))
    (raised : weight source < weight place)
    (later : Relocation region weight middle after origin)
    (inside : region source) :
    ¬ ∀ other, region other →
      (entry other after ≠ none ↔ entry other before ≠ none) := by
  intro same
  have whole := (moved.relocation within heavier).trans later
  obtain ⟨other, otherInside, present, comes, equal⟩ :=
    whole.weight_eq same inside moved.here
  obtain ⟨between, middlePresent⟩ :=
    later.present other otherInside present
  have lighter := later.lighter other otherInside present
  rw [Function.comp_apply] at comes
  generalize origin other = reached at comes middlePresent lighter
  by_cases below : place <+: reached
  · obtain ⟨rest, rfl⟩ := below
    rw [movedFrom_below] at comes
    have none : rest = [] := List.append_right_eq_self.mp comes
    rw [none, List.append_nil] at lighter
    omega
  · rw [movedFrom_apart below] at comes
    have gone := moved.gone []
    rw [List.append_nil, ← comes] at gone
    exact middlePresent gone

def walkPlaces (jump : Path → Path → List Path) (tree : Node) :
    Path → Path → List Path
  | _, [] => []
  | current, step :: rest =>
      if step = "" ∨ step = "." then walkPlaces jump tree current rest
      else if step = ".." then walkPlaces jump tree current.dropLast rest
      else
        (current ++ [step]) ::
          match entry (current ++ [step]) tree with
          | none => []
          | some (.link absolute steps) =>
              jump (if absolute then [] else current) (steps ++ rest)
          | some .directory => walkPlaces jump tree (current ++ [step]) rest
          | some (.file _) => []

def resolvePlaces (tree : Node) : Nat → Path → Path → List Path
  | 0 => walkPlaces (fun _ _ => []) tree
  | links + 1 => walkPlaces (resolvePlaces tree links) tree

/-- The places that are entered when a path is followed. -/
def way (path : Path) (tree : Node) : List Path :=
  resolvePlaces tree maximumLinks [] path

section Ways

variable {tree next : Node} {path reached : Path}
variable {jump jumpNext : Path → Path → Option Path}
variable {places placesNext : Path → Path → List Path}
variable {start steps : Path}

/-- The rule of `resolve_induction` for the places of a way as well, and for
two trees at once. -/
theorem resolvePlaces_induction
    {motive : (Path → Path → Option Path) → (Path → Path → List Path) →
      (Path → Path → Option Path) → (Path → Path → List Path) → Prop}
    (ends : motive (fun _ _ => none) (fun _ _ => []) (fun _ _ => none)
      (fun _ _ => []))
    (walks : ∀ jump places jumpNext placesNext,
      motive jump places jumpNext placesNext →
        motive (walk jump tree) (walkPlaces places tree)
          (walk jumpNext next) (walkPlaces placesNext next))
    (links : Nat) :
    motive (resolve tree links) (resolvePlaces tree links)
      (resolve next links) (resolvePlaces next links) := by
  induction links with
  | zero => exact walks _ _ _ _ ends
  | succ links ih => exact walks _ _ _ _ ih

theorem walk_same
    (jumps : ∀ start steps,
      (∀ place ∈ places start steps, entry place next = entry place tree) →
        jumpNext start steps = jump start steps ∧
          placesNext start steps = places start steps)
    (same : ∀ place ∈ walkPlaces places tree start steps,
      entry place next = entry place tree) :
    walk jumpNext next start steps = walk jump tree start steps ∧
      walkPlaces placesNext next start steps =
        walkPlaces places tree start steps := by
  induction steps generalizing start with
  | nil => exact ⟨rfl, rfl⟩
  | cons step rest ih =>
      unfold walkPlaces at same ⊢
      unfold walk
      by_cases skipped : step = "" ∨ step = "."
      · simp only [if_pos skipped] at same ⊢
        exact ih same
      · by_cases up : step = ".."
        · simp only [if_neg skipped, if_pos up] at same ⊢
          exact ih same
        · simp only [if_neg skipped, if_neg up] at same ⊢
          obtain ⟨here, later⟩ := List.forall_mem_cons.mp same
          rw [here]
          cases found : entry (start ++ [step]) tree with
          | none => exact ⟨rfl, rfl⟩
          | some kind =>
              rw [found] at later
              cases kind with
              | file bytes => exact ⟨rfl, rfl⟩
              | link absolute target =>
                  obtain ⟨jumped, entered⟩ := jumps _ _ later
                  exact ⟨jumped, congrArg (_ :: ·) entered⟩
              | directory =>
                  obtain ⟨walked, entered⟩ := ih later
                  exact ⟨walked, congrArg (_ :: ·) entered⟩

/-- A path leads where it led if the entries on its way are the same. -/
theorem realPath_same
    (same : ∀ place ∈ way path tree, entry place next = entry place tree) :
    realPath path next = realPath path tree ∧
      way path next = way path tree := by
  have resolved := @resolvePlaces_induction tree next
    (fun jump places jumpNext placesNext => ∀ start steps,
      (∀ place ∈ places start steps, entry place next = entry place tree) →
        jumpNext start steps = jump start steps ∧
          placesNext start steps = places start steps)
    (fun _ _ _ => ⟨rfl, rfl⟩)
    (fun _ _ _ _ jumps _ _ same => walk_same jumps same)
  exact resolved maximumLinks [] path same

theorem walk_present
    (jumps : ∀ start steps, jump start steps = some reached →
      ∀ place ∈ places start steps, ∃ kind,
        entry place tree = some kind ∧ ∀ bytes, kind ≠ .file bytes)
    (directory : entry reached tree = some .directory)
    (walked : walk jump tree start steps = some reached) :
    ∀ place ∈ walkPlaces places tree start steps, ∃ kind,
      entry place tree = some kind ∧ ∀ bytes, kind ≠ .file bytes := by
  induction steps generalizing start with
  | nil => exact fun place member => absurd member List.not_mem_nil
  | cons step rest ih =>
      unfold walkPlaces
      unfold walk at walked
      by_cases skipped : step = "" ∨ step = "."
      · simp only [if_pos skipped] at walked ⊢
        exact ih walked
      · by_cases up : step = ".."
        · simp only [if_neg skipped, if_pos up] at walked ⊢
          exact ih walked
        · simp only [if_neg skipped, if_neg up] at walked ⊢
          rw [List.forall_mem_cons]
          cases found : entry (start ++ [step]) tree with
          | none =>
              rw [found] at walked
              cases walked
          | some kind =>
              rw [found] at walked
              cases kind with
              | file bytes =>
                  dsimp only at walked
                  by_cases last : rest = []
                  · rw [if_pos last] at walked
                    cases walked
                    cases found.symm.trans directory
                  · rw [if_neg last] at walked
                    cases walked
              | link absolute target =>
                  exact ⟨⟨_, rfl, fun _ same => by cases same⟩,
                    jumps _ _ walked⟩
              | directory =>
                  exact ⟨⟨_, rfl, fun _ same => by cases same⟩,
                    ih walked⟩

theorem way_present (found : realPath path tree = some reached)
    (directory : entry reached tree = some .directory) :
    ∀ place ∈ way path tree, ∃ kind,
      entry place tree = some kind ∧ ∀ bytes, kind ≠ .file bytes := by
  have resolved := @resolvePlaces_induction tree tree
    (fun jump places _ _ => ∀ start steps, jump start steps = some reached →
      ∀ place ∈ places start steps, ∃ kind,
        entry place tree = some kind ∧ ∀ bytes, kind ≠ .file bytes)
    (fun _ _ impossible => by cases impossible)
    (fun _ _ _ _ jumps _ _ walked => walk_present jumps directory walked)
  exact resolved maximumLinks [] path found

/-- Entries have at most gone or become files. -/
def Worn (tree next : Node) (place : Path) : Prop :=
  entry place next = entry place tree ∨ entry place next = none ∨
    ∃ bytes, entry place next = some (.file bytes)

theorem walk_kept
    (jumps : ∀ start steps reached reachedNext,
      jump start steps = some reached →
        jumpNext start steps = some reachedNext →
          entry reachedNext next = some .directory →
            ∀ place ∈ places start steps,
              entry place next = entry place tree)
    (worn : ∀ place, entry place tree ≠ none → Worn tree next place)
    {start steps reached reachedNext : Path}
    (walked : walk jump tree start steps = some reached)
    (walkedNext : walk jumpNext next start steps = some reachedNext)
    (directory : entry reachedNext next = some .directory) :
    ∀ place ∈ walkPlaces places tree start steps,
      entry place next = entry place tree := by
  induction steps generalizing start with
  | nil => exact fun place member => absurd member List.not_mem_nil
  | cons step rest ih =>
      unfold walkPlaces
      unfold walk at walked walkedNext
      by_cases skipped : step = "" ∨ step = "."
      · simp only [if_pos skipped] at walked walkedNext ⊢
        exact ih walked walkedNext
      · by_cases up : step = ".."
        · simp only [if_neg skipped, if_pos up] at walked walkedNext ⊢
          exact ih walked walkedNext
        · simp only [if_neg skipped, if_neg up] at walked walkedNext ⊢
          rw [List.forall_mem_cons]
          cases found : entry (start ++ [step]) tree with
          | none =>
              rw [found] at walked
              cases walked
          | some kind =>
              have change := worn (start ++ [step])
                (by rw [found]; exact Option.some_ne_none kind)
              rcases change with same | gone | ⟨bytes, file⟩
              · rw [same, found] at walkedNext
                rw [found] at walked
                refine ⟨same.trans found, ?_⟩
                cases kind with
                | file bytes =>
                    exact fun place member => absurd member List.not_mem_nil
                | link absolute target =>
                    exact jumps _ _ _ _ walked walkedNext directory
                | directory => exact ih walked walkedNext
              · rw [gone] at walkedNext
                cases walkedNext
              · rw [file] at walkedNext
                dsimp only at walkedNext
                by_cases last : rest = []
                · rw [if_pos last] at walkedNext
                  cases walkedNext
                  cases file.symm.trans directory
                · rw [if_neg last] at walkedNext
                  cases walkedNext

/-- If a path still leads to a directory after entries have gone or become
files, those on its way are the same. -/
theorem way_kept {reachedNext : Path}
    (worn : ∀ place, entry place tree ≠ none → Worn tree next place)
    (found : realPath path tree = some reached)
    (foundNext : realPath path next = some reachedNext)
    (directory : entry reachedNext next = some .directory) :
    ∀ place ∈ way path tree, entry place next = entry place tree := by
  have resolved := @resolvePlaces_induction tree next
    (fun jump places jumpNext _ => ∀ start steps reached reachedNext,
      jump start steps = some reached →
        jumpNext start steps = some reachedNext →
          entry reachedNext next = some .directory →
            ∀ place ∈ places start steps,
              entry place next = entry place tree)
    (fun _ _ _ _ impossible => by cases impossible)
    (fun _ _ _ _ jumps _ _ _ _ walked walkedNext directory =>
      walk_kept jumps worn walked walkedNext directory)
  exact resolved maximumLinks [] path _ _ found foundNext directory

theorem walk_concat {leaf : String}
    (jumps : ∀ start steps, jump start steps = some reached →
      jump start (steps ++ [leaf]) =
          (entry (reached ++ [leaf]) tree).map (fun _ => reached ++ [leaf]) ∧
        places start (steps ++ [leaf]) =
          places start steps ++ [reached ++ [leaf]])
    (named : leaf ≠ "" ∧ leaf ≠ "." ∧ leaf ≠ "..")
    (directory : entry reached tree = some .directory)
    (noLink : ∀ kind, entry (reached ++ [leaf]) tree = some kind →
      kind.isLink = false)
    (walked : walk jump tree start steps = some reached) :
    walk jump tree start (steps ++ [leaf]) =
        (entry (reached ++ [leaf]) tree).map (fun _ => reached ++ [leaf]) ∧
      walkPlaces places tree start (steps ++ [leaf]) =
        walkPlaces places tree start steps ++ [reached ++ [leaf]] := by
  induction steps generalizing start with
  | nil =>
      cases walked
      unfold walkPlaces walk
      rw [List.nil_append]
      dsimp only
      simp only [if_neg (not_or.mpr ⟨named.1, named.2.1⟩),
        if_neg named.2.2]
      cases here : entry (reached ++ [leaf]) tree with
      | none => exact ⟨rfl, rfl⟩
      | some kind =>
          cases kind with
          | file bytes => exact ⟨rfl, rfl⟩
          | link absolute target => cases noLink _ here
          | directory => exact ⟨rfl, rfl⟩
  | cons step rest ih =>
      rw [List.cons_append]
      unfold walkPlaces walk
      unfold walk at walked
      by_cases skipped : step = "" ∨ step = "."
      · simp only [if_pos skipped] at walked ⊢
        exact ih walked
      · by_cases up : step = ".."
        · simp only [if_neg skipped, if_pos up] at walked ⊢
          exact ih walked
        · simp only [if_neg skipped, if_neg up] at walked ⊢
          rw [List.cons_append]
          cases found : entry (start ++ [step]) tree with
          | none =>
              rw [found] at walked
              cases walked
          | some kind =>
              rw [found] at walked
              cases kind with
              | file bytes =>
                  dsimp only at walked
                  by_cases last : rest = []
                  · rw [if_pos last] at walked
                    cases walked
                    cases found.symm.trans directory
                  · rw [if_neg last] at walked
                    cases walked
              | link absolute target =>
                  dsimp only at walked ⊢
                  rw [← List.append_assoc]
                  obtain ⟨jumped, entered⟩ := jumps _ _ walked
                  exact ⟨jumped, congrArg _ entered⟩
              | directory =>
                  obtain ⟨reaches, entered⟩ := ih walked
                  exact ⟨reaches, congrArg _ entered⟩

/-- A path leads on from a directory to an entry of it, which is the last one
on the way. -/
theorem realPath_concat {leaf : String}
    (named : leaf ≠ "" ∧ leaf ≠ "." ∧ leaf ≠ "..")
    (found : realPath path tree = some reached)
    (directory : entry reached tree = some .directory)
    (noLink : ∀ kind, entry (reached ++ [leaf]) tree = some kind →
      kind.isLink = false) :
    realPath (path ++ [leaf]) tree =
        (entry (reached ++ [leaf]) tree).map (fun _ => reached ++ [leaf]) ∧
      way (path ++ [leaf]) tree = way path tree ++ [reached ++ [leaf]] := by
  have resolved := @resolvePlaces_induction tree tree
    (fun jump places _ _ => ∀ start steps, jump start steps = some reached →
      jump start (steps ++ [leaf]) =
          (entry (reached ++ [leaf]) tree).map (fun _ => reached ++ [leaf]) ∧
        places start (steps ++ [leaf]) =
          places start steps ++ [reached ++ [leaf]])
    (fun _ _ impossible => by cases impossible)
    (fun _ _ _ _ jumps _ _ walked =>
      walk_concat jumps named directory noLink walked)
  exact resolved maximumLinks [] path found

theorem walk_above {leaf : String}
    (jumps : ∀ start steps reached, jump start (steps ++ [leaf]) =
        some reached →
      ∃ parent, jump start steps = some parent ∧
        entry parent tree = some .directory)
    (named : leaf ≠ "" ∧ leaf ≠ "." ∧ leaf ≠ "..")
    (walked : walk jump tree start (steps ++ [leaf]) = some reached) :
    ∃ parent, walk jump tree start steps = some parent ∧
      entry parent tree = some .directory := by
  induction steps generalizing start with
  | nil =>
      refine ⟨start, rfl, ?_⟩
      rw [List.nil_append] at walked
      unfold walk at walked
      rw [if_neg (not_or.mpr ⟨named.1, named.2.1⟩), if_neg named.2.2]
        at walked
      cases found : entry (start ++ [leaf]) tree with
      | none =>
          rw [found] at walked
          cases walked
      | some kind => exact entry_above found
  | cons step rest ih =>
      rw [List.cons_append] at walked
      unfold walk at walked ⊢
      by_cases skipped : step = "" ∨ step = "."
      · simp only [if_pos skipped] at walked ⊢
        exact ih walked
      · by_cases up : step = ".."
        · simp only [if_neg skipped, if_pos up] at walked ⊢
          exact ih walked
        · simp only [if_neg skipped, if_neg up] at walked ⊢
          cases found : entry (start ++ [step]) tree with
          | none =>
              rw [found] at walked
              cases walked
          | some kind =>
              rw [found] at walked
              cases kind with
              | file bytes => simp at walked
              | link absolute target =>
                  dsimp only at walked ⊢
                  rw [← List.append_assoc] at walked
                  exact jumps _ _ _ walked
              | directory => exact ih walked

theorem realPath_above {leaf : String}
    (named : leaf ≠ "" ∧ leaf ≠ "." ∧ leaf ≠ "..")
    (found : realPath (path ++ [leaf]) tree = some reached) :
    ∃ parent, realPath path tree = some parent ∧
      entry parent tree = some .directory := by
  have resolved := @resolve_induction tree
    (fun jump => ∀ start steps reached,
      jump start (steps ++ [leaf]) = some reached →
        ∃ parent, jump start steps = some parent ∧
          entry parent tree = some .directory)
    (fun _ _ _ impossible => by cases impossible)
    (fun _ jumps _ _ _ walked => walk_above jumps named walked)
  exact resolved maximumLinks [] path reached found

/-- Without links all places on a way are above its end. -/
theorem way_of_linkFree
    (plain : Plain path) (linkFree : LinkFree tree [] path) :
    ∀ place ∈ way path tree, place <+: path := by
  have walked : ∀ (places : Path → Path → List Path) (steps start : Path),
      Plain steps → LinkFree tree start steps →
        ∀ place ∈ walkPlaces places tree start steps,
          place <+: start ++ steps := by
    intro places steps
    induction steps with
    | nil => exact fun _ _ _ _ member => absurd member List.not_mem_nil
    | cons step rest ih =>
        intro start plain linkFree place member
        obtain ⟨named, notDot, notParent⟩ := plain step List.mem_cons_self
        have others : Plain rest := fun name listed =>
          plain name (List.mem_cons_of_mem step listed)
        unfold walkPlaces at member
        rw [if_neg (not_or.mpr ⟨named, notDot⟩), if_neg notParent] at member
        rw [List.append_cons start step rest]
        rcases List.mem_cons.mp member with rfl | later
        · exact List.prefix_append _ _
        · cases here : entry (start ++ [step]) tree with
          | none =>
              rw [here] at later
              cases later
          | some kind =>
              rw [here] at later
              cases kind with
              | file bytes => cases later
              | link absolute target => cases linkFree.1 _ here
              | directory =>
                  exact ih _ others linkFree.2 _ later
  exact walked _ path [] plain linkFree

end Ways

end GravitPanel.FileTree
