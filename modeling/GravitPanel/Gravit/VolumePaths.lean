import GravitPanel.Core.AbsolutePath
import GravitPanel.Gravit.ProtectedFiles

/-!
# Paths below the data root

The text that `absolute` of `container-volume.service.ts` gives to the commands
of the container.
-/

namespace GravitPanel.Gravit

open FileTree

/-- `posix.join('/app/data', this.relative(path))`. -/
def absoluteText (path : String) : Except VolumeProblem String :=
  match relative path with
  | .error problem => .error problem
  | .ok normalized => .ok (normalizeAbsolute ("/app/data" ++ "/" ++ normalized))

def Location.text (location : Location) : String :=
  joinSteps ("" :: location.path ++ if location.slash then [""] else [])

/-- A normalized text names something below the data root. -/
def StrictlyInside (text : String) : Prop :=
  ∃ below, below ≠ [] ∧ Plain below ∧
    climbSteps [] (pathSteps text) = dataRoot ++ below

def CancelsOut (path : String) : Prop :=
  normalizeSteps (pathSteps path) = [] ∧ endsWithSlash path = true

instance (path : String) : Decidable (CancelsOut path) :=
  inferInstanceAs (Decidable (_ ∧ _))

theorem normalizeSteps_shape (steps : Path) :
    ∃ parents names, normalizeSteps steps = parents ++ names ∧
      (∀ step ∈ parents, step = "..") ∧ Plain names := by
  induction steps using List.reverseRecOn with
  | nil =>
      exact ⟨[], [], rfl, fun _ member => absurd member List.not_mem_nil,
        fun _ member => absurd member List.not_mem_nil⟩
  | append_singleton before step ih =>
      obtain ⟨parents, names, shape, dotted, plain⟩ := ih
      have pushed : normalizeSteps (before ++ [step]) =
          pushStep (parents ++ names) step := by
        rw [← shape]
        exact List.foldl_append
      rw [pushed, pushStep]
      by_cases here : step = "" ∨ step = "."
      · exact ⟨parents, names, if_pos here, dotted, plain⟩
      · rw [if_neg here]
        by_cases parent : step = ".."
        · rw [if_pos parent]
          rcases List.eq_nil_or_concat names with none | ⟨others, last, same⟩
          · subst none
            refine ⟨parents ++ [".."], [], ?_, ?_, plain⟩
            · rw [List.append_nil, List.append_nil]
              cases ends : parents.getLast? with
              | none =>
                  rw [List.getLast?_eq_none_iff] at ends
                  rw [ends]
                  rfl
              | some last =>
                  exact if_pos (dotted last (List.mem_of_getLast? ends))
            · intro other member
              rcases List.mem_append.mp member with earlier | latest
              · exact dotted other earlier
              · exact List.mem_singleton.mp latest
          · rw [List.concat_eq_append] at same
            subst same
            have named := (plain last (List.mem_append_right _
              (List.mem_singleton_self last))).2.2
            refine ⟨parents, others, ?_, dotted, ?_⟩
            · rw [← List.append_assoc, List.getLast?_concat,
                List.dropLast_concat]
              exact if_neg named
            · exact fun name member =>
                plain name (List.mem_append_left _ member)
        · have named := not_or.mp here
          refine ⟨parents, names ++ [step], ?_, dotted, ?_⟩
          · rw [if_neg parent, List.append_assoc]
          · intro name member
            rcases List.mem_append.mp member with earlier | latest
            · exact plain name earlier
            · rw [List.mem_singleton.mp latest]
              exact ⟨named.1, named.2, parent⟩

theorem relative_accepts {path normalized : String}
    (accepted : relative path = .ok normalized) :
    Plain (normalizeSteps (pathSteps path)) ∧
      (normalizeSteps (pathSteps path) = [] → endsWithSlash path = true) := by
  unfold relative at accepted
  split at accepted
  · cases accepted
  · split at accepted
    · cases accepted
    next escapes =>
      cases accepted
      rw [not_or, not_or] at escapes
      obtain ⟨current, parent, climbing⟩ := escapes
      constructor
      · obtain ⟨parents, names, shape, dotted, plain⟩ :=
          normalizeSteps_shape (pathSteps path)
        cases parents with
        | nil =>
            rw [shape]
            exact plain
        | cons first rest =>
            exfalso
            cases dotted first List.mem_cons_self
            have normal : normalSteps path = ".." :: (rest ++ names ++
                if endsWithSlash path then [""] else []) := by
              rw [normalSteps, shape]
              rfl
            cases after : rest ++ names ++
                if endsWithSlash path then [""] else [] with
            | nil =>
                apply parent
                rw [normalizePath, normal, after]
                rfl
            | cons next others =>
                apply climbing
                have text : normalizePath path =
                    "../" ++ joinSteps (next :: others) := by
                  rw [normalizePath, normal, after]
                  exact joinSteps_append (List.cons_ne_nil ".." [])
                    (List.cons_ne_nil next others)
                rw [text, String.toList_append]
                exact List.prefix_append _ _
      · intro empty
        cases slash : endsWithSlash path with
        | true => rfl
        | false =>
            exfalso
            apply current
            rw [normalizePath, normalSteps, empty, slash]
            rfl

theorem pathSteps_slash (first second : String) :
    pathSteps (first ++ "/" ++ second) =
      pathSteps first ++ pathSteps second := by
  have slash : "/".toList = ['/'] := rfl
  unfold pathSteps
  rw [String.toList_append, String.toList_append, slash, List.append_assoc,
    List.singleton_append, List.splitOn_append_cons_self, List.map_append]

theorem climbSteps_slash (done : Path) (slash : Bool) :
    climbSteps done (if slash then [""] else []) = done := by
  cases slash with
  | true =>
      show climbStep done "" = done
      exact if_pos (.inl rfl)
  | false => rfl

theorem normalizeSteps_slash (steps : Path) (slash : Bool) :
    normalizeSteps (steps ++ if slash then [""] else []) =
      normalizeSteps steps := by
  cases slash with
  | true =>
      show (steps ++ [""]).foldl pushStep [] = _
      rw [List.foldl_append]
      show pushStep (normalizeSteps steps) "" = _
      exact if_pos (.inl rfl)
  | false =>
      show normalizeSteps (steps ++ []) = _
      rw [List.append_nil]

theorem normalSteps_shape {path : String}
    (plain : Plain (normalizeSteps (pathSteps path))) :
    ∃ names, names ≠ [] ∧ "" ∉ names ∧
      (∀ done, climbSteps done names =
        done ++ normalizeSteps (pathSteps path)) ∧
      normalizeSteps names = normalizeSteps (pathSteps path) ∧
      normalSteps path =
        names ++ if endsWithSlash path then [""] else [] := by
  by_cases empty : normalizeSteps (pathSteps path) = []
  · refine ⟨["."], List.cons_ne_nil _ _, by decide, ?_, ?_, ?_⟩
    · intro done
      rw [empty, List.append_nil]
      rfl
    · rw [empty]
      rfl
    · rw [normalSteps, if_pos empty]
  · refine ⟨_, empty, ?_, climbSteps_of_plain plain,
      normalizeSteps_of_plain plain, ?_⟩
    · exact fun member => (plain "" member).1 rfl
    · rw [normalSteps, if_neg empty]

theorem endsWithSlash_of_steps {text : String} {above names : Path}
    {slash : Bool} (some : names ≠ []) (named : "" ∉ names)
    (steps : pathSteps text =
      above ++ (names ++ if slash then [""] else [])) :
    endsWithSlash text = slash := by
  have positive : 0 < names.length := List.length_pos_iff.mpr some
  rw [endsWithSlash, steps]
  cases slash with
  | true =>
      have long : 1 < (above ++ (names ++ [""])).length := by
        rw [List.length_append, List.length_append, List.length_singleton]
        omega
      have last : (above ++ (names ++ [""])).getLast? = .some "" := by
        rw [← List.append_assoc, List.getLast?_concat]
      rw [if_pos rfl, last, decide_eq_true long, decide_eq_true rfl]
      rfl
  | false =>
      have last : (above ++ names).getLast? ≠ .some "" := by
        rw [List.getLast?_append_of_ne_nil _ some]
        exact fun ends => named (List.mem_of_getLast? ends)
      rw [if_neg Bool.false_ne_true, List.append_nil,
        decide_eq_false last, Bool.and_false]

theorem absolute_of_relative {path normalized : String}
    (accepted : relative path = .ok normalized) :
    absolute path = .ok
      ⟨dataRoot ++ normalizeSteps (pathSteps path), endsWithSlash path⟩ := by
  obtain ⟨plain, -⟩ := relative_accepts accepted
  obtain ⟨names, some, named, -, pushed, steps⟩ := normalSteps_shape plain
  have own : pathSteps (normalizePath path) =
      [] ++ (names ++ if endsWithSlash path then [""] else []) := by
    rw [pathSteps_normalizePath, steps, List.nil_append]
  have kept : normalizeSteps (pathSteps (normalizePath path)) =
      normalizeSteps (pathSteps path) := by
    rw [own, List.nil_append, normalizeSteps_slash, pushed]
  cases relative_ok accepted
  rw [absolute, accepted]
  show Except.ok _ = Except.ok _
  rw [kept, endsWithSlash_of_steps some named own]

theorem absoluteText_eq (path : String) :
    absoluteText path = (absolute path).map Location.text := by
  cases accepted : relative path with
  | error problem => rw [absoluteText, absolute, accepted, Except.map]
  | ok normalized =>
      obtain ⟨plain, -⟩ := relative_accepts accepted
      obtain ⟨names, some, named, climbed, -, steps⟩ :=
        normalSteps_shape plain
      have whole : pathSteps ("/app/data" ++ "/" ++ normalizePath path) =
          ["", "app", "data"] ++
            (names ++ if endsWithSlash path then [""] else []) := by
        have root : pathSteps "/app/data" = ["", "app", "data"] := by
          decide +kernel
        rw [pathSteps_slash, root, pathSteps_normalizePath, steps]
      have below : climbSteps [] (pathSteps
          ("/app/data" ++ "/" ++ normalizePath path)) =
            dataRoot ++ normalizeSteps (pathSteps path) := by
        rw [whole, climbSteps_append, climbSteps_append, climbSteps_slash,
          climbed]
        rfl
      rw [absoluteText, absolute_of_relative accepted, accepted]
      cases relative_ok accepted
      show Except.ok _ = Except.ok _
      rw [normalizeAbsolute, below, endsWithSlash_of_steps some named whole]
      rfl

theorem climbSteps_text {location : Location}
    (plain : Plain location.path) (slashFree : SlashFree location.path) :
    climbSteps [] (pathSteps location.text) = location.path := by
  have free : SlashFree ("" :: location.path ++
      if location.slash then [""] else []) := by
    intro step member
    rcases List.mem_append.mp member with inside | tail
    · rcases List.mem_cons.mp inside with root | below
      · rw [root]
        exact List.not_mem_nil
      · exact slashFree step below
    · split at tail
      · rw [List.mem_singleton.mp tail]
        exact List.not_mem_nil
      · exact absurd tail List.not_mem_nil
  have parts : pathSteps location.text = [""] ++ (location.path ++
      if location.slash then [""] else []) :=
    pathSteps_joinSteps (List.cons_ne_nil _ _) free
  have root : climbSteps [] [""] = [] := climbSteps_slash [] true
  rw [parts, climbSteps_append, climbSteps_append, climbSteps_slash, root,
    climbSteps_of_plain plain, List.nil_append]

theorem slashFree_dataRoot : SlashFree dataRoot := by
  show ∀ name ∈ dataRoot, '/' ∉ name.toList
  decide +kernel

/-- The text of an accepted path is strictly inside the data root exactly if
the names of the path do not cancel out before a slash. -/
theorem strictlyInside_iff
    (path text : String) (accepted : absoluteText path = .ok text) :
    StrictlyInside text ↔ ¬ CancelsOut path := by
  cases checked : relative path with
  | error problem =>
      rw [absoluteText, checked] at accepted
      cases accepted
  | ok normalized =>
      obtain ⟨plain, ended⟩ := relative_accepts checked
      rw [absoluteText_eq, absolute_of_relative checked] at accepted
      cases accepted
      have located : Plain (dataRoot ++ normalizeSteps (pathSteps path)) := by
        intro name member
        rcases List.mem_append.mp member with root | below
        · exact plain_dataRoot name root
        · exact plain name below
      have free : SlashFree
          (dataRoot ++ normalizeSteps (pathSteps path)) := by
        intro name member
        rcases List.mem_append.mp member with root | below
        · exact slashFree_dataRoot name root
        · exact slashFree_normalizeSteps path name below
      have names := @climbSteps_text
        ⟨dataRoot ++ normalizeSteps (pathSteps path), endsWithSlash path⟩
        located free
      constructor
      · rintro ⟨below, some, -, inside⟩ ⟨cancelled, -⟩
        rw [names, cancelled] at inside
        exact some (List.append_cancel_left inside).symm
      · intro stays
        refine ⟨normalizeSteps (pathSteps path), ?_, plain, names⟩
        exact fun cancelled => stays ⟨cancelled, ended cancelled⟩

/-- A path below the data root. -/
theorem strictlyInside_runtime :
    StrictlyInside "/app/data/runtime/" ↔ ¬ CancelsOut "mods/../runtime/" :=
  strictlyInside_iff "mods/../runtime/" "/app/data/runtime/"
    (by decide +kernel)

/-- The data root itself passes the check. -/
theorem data_root_accepted :
    absoluteText "./" = .ok "/app/data/" ∧
      absoluteText "mods/../" = .ok "/app/data/" ∧
        ¬ StrictlyInside "/app/data/" := by
  have accepted : absoluteText "./" = .ok "/app/data/" ∧
      absoluteText "mods/../" = .ok "/app/data/" ∧
        climbSteps [] (pathSteps "/app/data/") = dataRoot ++ [] := by
    decide +kernel
  obtain ⟨current, cancelled, names⟩ := accepted
  refine ⟨current, cancelled, ?_⟩
  rintro ⟨below, some, -, inside⟩
  exact some (List.append_cancel_left (names.symm.trans inside)).symm

end GravitPanel.Gravit
