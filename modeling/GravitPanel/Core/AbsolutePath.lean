import GravitPanel.Core.PosixPath

/-!
# Absolute paths

`posix.resolve`, `posix.dirname` and `posix.relative` on absolute paths that
are resolved, and `posix.normalize` on texts that start with a slash.
-/

namespace GravitPanel.FileTree

/-- One step of an absolute path; nothing is above the root. -/
def climbStep (done : Path) (step : String) : Path :=
  if step = "" ∨ step = "." then done
  else if step = ".." then done.dropLast
  else done ++ [step]

def climbSteps (done steps : Path) : Path :=
  steps.foldl climbStep done

/-- `posix.isAbsolute`. -/
def isAbsolute (text : String) : Bool :=
  ['/'].isPrefixOf text.toList

/-- `posix.normalize` of a text that starts with a slash. -/
def normalizeAbsolute (text : String) : String :=
  let names := climbSteps [] (pathSteps text)
  if names = [] then "/"
  else joinSteps ("" :: names ++ if endsWithSlash text then [""] else [])

theorem climbSteps_append (done first second : Path) :
    climbSteps done (first ++ second) =
      climbSteps (climbSteps done first) second :=
  List.foldl_append

theorem climbStep_of_plain {done : Path} {step : String}
    (plain : step ≠ "" ∧ step ≠ "." ∧ step ≠ "..") :
    climbStep done step = done ++ [step] := by
  rw [climbStep, if_neg (not_or.mpr ⟨plain.1, plain.2.1⟩),
    if_neg plain.2.2]

theorem climbSteps_of_plain {steps : Path} (plain : Plain steps)
    (done : Path) : climbSteps done steps = done ++ steps := by
  induction steps generalizing done with
  | nil => exact (List.append_nil done).symm
  | cons step rest ih =>
      have others : Plain rest := fun name member =>
        plain name (List.mem_cons_of_mem step member)
      show climbSteps (climbStep done step) rest = _
      rw [climbStep_of_plain (plain step List.mem_cons_self),
        ih others, ← List.append_cons]

theorem climbStep_cases (done : Path) (step : String) :
    climbStep done step = done ∨
      climbStep done step = done.dropLast ∨
        (step ≠ "" ∧ step ≠ "." ∧ step ≠ "..") ∧
          climbStep done step = done ++ [step] := by
  unfold climbStep
  by_cases here : step = "" ∨ step = "."
  · exact .inl (if_pos here)
  · rw [if_neg here]
    by_cases parent : step = ".."
    · exact .inr (.inl (if_pos parent))
    · have named := not_or.mp here
      exact .inr (.inr ⟨⟨named.1, named.2, parent⟩, if_neg parent⟩)

theorem plain_climbSteps {done : Path} (plain : Plain done)
    (steps : Path) : Plain (climbSteps done steps) := by
  induction steps generalizing done with
  | nil => exact plain
  | cons step rest ih =>
      apply ih
      rcases climbStep_cases done step with same | parent | ⟨named, below⟩
      · rw [same]
        exact plain
      · rw [parent]
        exact fun name member => plain name (List.dropLast_subset _ member)
      · rw [below]
        intro name member
        rcases List.mem_append.mp member with before | latest
        · exact plain name before
        · rw [List.mem_singleton.mp latest]
          exact named

theorem slashFree_climbSteps {done steps : Path}
    (above : SlashFree done) (slashFree : SlashFree steps) :
    SlashFree (climbSteps done steps) := by
  induction steps generalizing done with
  | nil => exact above
  | cons step rest ih =>
      have others : SlashFree rest := fun name member =>
        slashFree name (List.mem_cons_of_mem step member)
      refine ih ?_ others
      rcases climbStep_cases done step with same | parent | ⟨-, below⟩
      · rw [same]
        exact above
      · rw [parent]
        exact fun name member => above name (List.dropLast_subset _ member)
      · rw [below]
        intro name member
        rcases List.mem_append.mp member with before | latest
        · exact above name before
        · rw [List.mem_singleton.mp latest]
          exact slashFree step List.mem_cons_self

/-- The names of an absolute path without dot steps; the root has none. -/
@[ext]
structure AbsolutePath where
  names : Path
  plain : Plain names
  slashFree : SlashFree names

namespace AbsolutePath

instance : DecidableEq AbsolutePath := fun first second =>
  decidable_of_iff (first.names = second.names)
    ⟨AbsolutePath.ext, congrArg names⟩

/-- `posix.resolve` of a text against a working directory. -/
def resolve (directory : AbsolutePath) (text : String) : AbsolutePath where
  names := climbSteps (if isAbsolute text then [] else directory.names)
    (pathSteps text)
  plain := by
    apply plain_climbSteps
    split
    · exact fun name member => absurd member List.not_mem_nil
    · exact directory.plain
  slashFree := by
    refine slashFree_climbSteps ?_ (slashFree_pathSteps text)
    split
    · exact fun name member => absurd member List.not_mem_nil
    · exact directory.slashFree

def dirname (path : AbsolutePath) : AbsolutePath where
  names := path.names.dropLast
  plain := fun name member =>
    path.plain name (List.dropLast_subset _ member)
  slashFree := fun name member =>
    path.slashFree name (List.dropLast_subset _ member)

/-- The names that two paths begin with. -/
def commonNames : Path → Path → Path
  | first :: others, second :: rest =>
      if first = second then first :: commonNames others rest else []
  | _, _ => []

/-- `posix.relative`. -/
def relative (source target : AbsolutePath) : String :=
  let common := (commonNames source.names target.names).length
  joinSteps (List.replicate (source.names.length - common) ".." ++
    target.names.drop common)

/-- The first path is the second one or above it. -/
def Above (above path : AbsolutePath) : Prop :=
  above.names <+: path.names

instance (above path : AbsolutePath) : Decidable (above.Above path) :=
  inferInstanceAs (Decidable (above.names <+: path.names))

theorem commonNames_append (first rest : Path) :
    commonNames first (first ++ rest) = first := by
  induction first with
  | nil => rfl
  | cons name others ih =>
      rw [List.cons_append, commonNames, if_pos rfl, ih]

theorem relative_of_below {source target : AbsolutePath} {below : Path}
    (shape : target.names = source.names ++ below) :
    relative source target = joinSteps below := by
  rw [relative, shape, commonNames_append, Nat.sub_self,
    List.replicate_zero, List.nil_append, List.drop_left]

end AbsolutePath

end GravitPanel.FileTree
