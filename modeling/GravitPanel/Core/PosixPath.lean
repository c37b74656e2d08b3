import GravitPanel.Core.FileSystem

/-!
# Texts of relative paths

`posix.normalize` on texts that do not start with a slash.  A normalized text
is the names between its slashes, with an empty last one for a slash at its
end.
-/

namespace GravitPanel.FileTree

/-- One step on top of the normalized ones. -/
def pushStep (done : Path) (step : String) : Path :=
  if step = "" ∨ step = "." then done
  else if step = ".." then
    match done.getLast? with
    | none => [".."]
    | some last => if last = ".." then done ++ [".."] else done.dropLast
  else done ++ [step]

def normalizeSteps (steps : Path) : Path :=
  steps.foldl pushStep []

def joinSteps (steps : Path) : String :=
  "/".intercalate steps

def endsWithSlash (path : String) : Bool :=
  1 < (pathSteps path).length && (pathSteps path).getLast? = some ""

def normalSteps (path : String) : Path :=
  let steps := normalizeSteps (pathSteps path)
  (if steps = [] then ["."] else steps) ++
    if endsWithSlash path then [""] else []

def normalizePath (path : String) : String :=
  joinSteps (normalSteps path)

/-- `posix.join` of parts. -/
def posixJoin (parts : List String) : String :=
  normalizePath (joinSteps (parts.filter (· ≠ "")))

/-- The last name of a path. -/
def basename (path : String) : String :=
  ((pathSteps path).filter (· ≠ "")).getLast?.getD ""

def SlashFree (steps : Path) : Prop :=
  ∀ step ∈ steps, '/' ∉ step.toList

variable {steps : Path}

theorem pathSteps_joinSteps (named : steps ≠ [])
    (slashFree : SlashFree steps) :
    pathSteps (joinSteps steps) = steps := by
  have inner : ∀ characters ∈ steps.map String.toList, '/' ∉ characters := by
    intro characters member
    obtain ⟨step, present, rfl⟩ := List.mem_map.mp member
    exact slashFree step present
  have slash : "/".toList = ['/'] := rfl
  unfold pathSteps joinSteps
  rw [String.toList_intercalate, slash,
    List.splitOn_intercalate '/' inner (by simpa using named), List.map_map]
  have same : String.ofList ∘ String.toList = id := by
    funext text
    exact String.ofList_toList
  rw [same, List.map_id]

theorem slashFree_pathSteps (path : String) : SlashFree (pathSteps path) := by
  intro step member
  obtain ⟨characters, present, rfl⟩ := List.mem_map.mp member
  rw [String.toList_ofList]
  have split : ∀ (text : List Char), ∀ part ∈ text.splitOn '/',
      '/' ∉ part := by
    intro text
    induction text with
    | nil =>
        intro part member
        rw [List.splitOn_nil, List.mem_singleton] at member
        rw [member]
        exact List.not_mem_nil
    | cons character rest ih =>
        intro part member
        rw [List.splitOn_cons_eq_if_modifyHead] at member
        split at member
        · rcases List.mem_cons.mp member with rfl | later
          · exact List.not_mem_nil
          · exact ih part later
        · next other =>
            cases parts : rest.splitOn '/' with
            | nil => exact absurd parts (List.splitOn_ne_nil _ _)
            | cons first others =>
                rw [parts] at member ih
                rcases List.mem_cons.mp member with rfl | later
                · intro slash
                  rcases List.mem_cons.mp slash with same | inside
                  · rw [← same] at other
                    exact other (beq_self_eq_true '/')
                  · exact ih first List.mem_cons_self inside
                · exact ih part
                    (List.mem_cons_of_mem first later)
  exact split path.toList characters present

theorem joinSteps_pathSteps (text : String) :
    joinSteps (pathSteps text) = text := by
  unfold joinSteps pathSteps
  apply String.toList_inj.mp
  rw [String.toList_intercalate, List.map_map]
  have same : String.toList ∘ String.ofList = id := by
    funext characters
    exact String.toList_ofList
  rw [same, List.map_id]
  exact List.intercalate_splitOn '/'

theorem joinSteps_concat_empty (named : steps ≠ []) :
    joinSteps (steps ++ [""]) = joinSteps steps ++ "/" := by
  unfold joinSteps
  rw [String.intercalate_append_of_ne_nil named (List.cons_ne_nil _ _),
    String.intercalate_singleton, String.append_empty]

theorem joinSteps_append {above below : Path}
    (first : above ≠ []) (second : below ≠ []) :
    joinSteps (above ++ below) =
      joinSteps above ++ "/" ++ joinSteps below := by
  unfold joinSteps
  exact String.intercalate_append_of_ne_nil first second

theorem joinSteps_ne_empty (some : steps ≠ [])
    (slashFree : SlashFree steps) (named : ∀ step ∈ steps, step ≠ "") :
    joinSteps steps ≠ "" := by
  intro empty
  have parts := pathSteps_joinSteps some slashFree
  rw [empty] at parts
  have member : "" ∈ steps := by
    rw [← parts]
    decide
  exact named "" member rfl

theorem joinSteps_concat_joinSteps {first second : Path}
    (before : first ≠ []) (after : second ≠ []) :
    joinSteps (first ++ [joinSteps second]) = joinSteps (first ++ second) := by
  unfold joinSteps
  rw [String.intercalate_append_of_ne_nil before (List.cons_ne_nil _ _),
    String.intercalate_append_of_ne_nil before after,
    String.intercalate_singleton]

theorem pushStep_of_plain {done : Path} {step : String}
    (plain : step ≠ "" ∧ step ≠ "." ∧ step ≠ "..") :
    pushStep done step = done ++ [step] := by
  unfold pushStep
  rw [if_neg (not_or.mpr ⟨plain.1, plain.2.1⟩), if_neg plain.2.2]

theorem normalizeSteps_of_plain (plain : Plain steps) :
    normalizeSteps steps = steps := by
  have pushed : ∀ done : Path, steps.foldl pushStep done = done ++ steps := by
    induction steps with
    | nil => exact fun done => (List.append_nil done).symm
    | cons step rest ih =>
        intro done
        rw [List.foldl_cons,
          pushStep_of_plain (plain step List.mem_cons_self),
          ih
            (fun name member => plain name (List.mem_cons_of_mem step member)),
          ← List.append_cons]
  exact pushed []

theorem mem_normalizeSteps {name : String}
    (member : name ∈ normalizeSteps steps) :
    name ≠ "" ∧ (name ∈ steps ∨ name = "..") := by
  have pushed : ∀ (steps done : Path) (name : String),
      name ∈ steps.foldl pushStep done →
        name ∈ done ∨ name ≠ "" ∧ (name ∈ steps ∨ name = "..") := by
    intro steps
    induction steps with
    | nil => exact fun done name member => .inl member
    | cons step rest ih =>
        intro done name member
        rcases ih _ name member with begun | ⟨named, later⟩
        · unfold pushStep at begun
          split at begun
          · exact .inl begun
          · next here =>
              split at begun
              · split at begun
                · rw [List.mem_singleton] at begun
                  exact .inr ⟨by rw [begun]; decide, .inr begun⟩
                · split at begun
                  · rcases List.mem_append.mp begun with before | added
                    · exact .inl before
                    · rw [List.mem_singleton] at added
                      exact .inr ⟨by rw [added]; decide, .inr added⟩
                  · exact .inl (List.dropLast_subset _ begun)
              · rcases List.mem_append.mp begun with before | added
                · exact .inl before
                · rw [List.mem_singleton] at added
                  exact .inr ⟨by rw [added]; exact (not_or.mp here).1,
                    .inl (by rw [added]; exact List.mem_cons_self)⟩
        · refine .inr ⟨named, ?_⟩
          rcases later with later | parent
          · exact .inl (List.mem_cons_of_mem step later)
          · exact .inr parent
  rcases pushed steps [] name member with none | holds
  · exact absurd none List.not_mem_nil
  · exact holds

theorem slashFree_normalSteps (path : String) :
    SlashFree (normalSteps path) := by
  intro step member
  rcases List.mem_append.mp member with core | tail
  · split at core
    · rw [List.mem_singleton] at core
      rw [core]
      decide
    · rcases (mem_normalizeSteps core).2 with before | parent
      · exact slashFree_pathSteps path step before
      · rw [parent]
        decide
  · split at tail
    · rw [List.mem_singleton] at tail
      rw [tail]
      exact List.not_mem_nil
    · exact absurd tail List.not_mem_nil

theorem normalSteps_ne_nil (path : String) : normalSteps path ≠ [] := by
  unfold normalSteps
  dsimp only
  split
  · simp
  · next named => simp [named]

theorem pathSteps_normalizePath (path : String) :
    pathSteps (normalizePath path) = normalSteps path :=
  pathSteps_joinSteps (normalSteps_ne_nil path) (slashFree_normalSteps path)

theorem normalizePath_joinSteps (some : steps ≠ [])
    (slashFree : SlashFree steps) (plain : Plain steps) :
    normalizePath (joinSteps steps) = joinSteps steps := by
  have parts := pathSteps_joinSteps some slashFree
  have last : steps.getLast? ≠ .some "" := by
    intro ends
    exact (plain "" (List.mem_of_getLast? ends)).1 rfl
  have normal : normalSteps (joinSteps steps) = steps := by
    unfold normalSteps endsWithSlash
    simp only [parts, normalizeSteps_of_plain plain, if_neg some]
    simp [last]
  rw [normalizePath, normal]

theorem posixJoin_of_plain (some : steps ≠ [])
    (slashFree : SlashFree steps) (plain : Plain steps) :
    posixJoin steps = joinSteps steps := by
  have kept : steps.filter (· ≠ "") = steps := by
    rw [List.filter_eq_self]
    intro step member
    exact decide_eq_true (plain step member).1
  rw [posixJoin, kept, normalizePath_joinSteps some slashFree plain]

theorem normalizePath_shape {path : String}
    (plain : ∀ step ∈ pathSteps (normalizePath path), step ≠ "." ∧ step ≠ "..") :
    ∃ steps, steps ≠ [] ∧ Plain steps ∧
      normalizeSteps (pathSteps (normalizePath path)) = steps ∧
        (pathSteps (normalizePath path) = steps ∨
          pathSteps (normalizePath path) = steps ++ [""]) := by
  rw [pathSteps_normalizePath] at plain ⊢
  unfold normalSteps at plain ⊢
  dsimp only at plain ⊢
  by_cases empty : normalizeSteps (pathSteps path) = []
  · rw [if_pos empty] at plain
    exact absurd rfl (plain "." (List.mem_append_left _
      (List.mem_singleton_self _))).1
  · rw [if_neg empty] at plain ⊢
    have all : Plain (normalizeSteps (pathSteps path)) := fun name member =>
      ⟨(mem_normalizeSteps member).1,
        plain name (List.mem_append_left _ member)⟩
    refine ⟨normalizeSteps (pathSteps path), empty, all, ?_, ?_⟩
    · split
      · show (normalizeSteps (pathSteps path) ++ [""]).foldl pushStep [] = _
        rw [List.foldl_append]
        show pushStep (normalizeSteps (normalizeSteps (pathSteps path))) "" = _
        rw [normalizeSteps_of_plain all]
        exact if_pos (.inl rfl)
      · rw [List.append_nil]
        exact normalizeSteps_of_plain all
    · split
      · exact .inr rfl
      · exact .inl (List.append_nil _)

theorem normalizePath_normalizePath {path : String}
    (plain : ∀ step ∈ pathSteps (normalizePath path), step ≠ "." ∧ step ≠ "..") :
    normalizePath (normalizePath path) = normalizePath path := by
  obtain ⟨steps, named, all, pushed, shape⟩ := normalizePath_shape plain
  have same : normalSteps (normalizePath path) = pathSteps (normalizePath path) := by
    unfold normalSteps endsWithSlash
    dsimp only
    rw [pushed, if_neg named]
    rcases shape with whole | whole
    · rw [whole]
      have last : steps.getLast? ≠ some "" := by
        intro ends
        exact (all "" (List.mem_of_getLast? ends)).1 rfl
      simp [last]
    · rw [whole]
      have longer : 0 < steps.length := List.length_pos_iff.mpr named
      simp [longer]
  unfold normalizePath at same ⊢
  rw [same, pathSteps_joinSteps (normalSteps_ne_nil path)
    (slashFree_normalSteps path)]

end GravitPanel.FileTree
