import GravitPanel.Core.DepthFirst
import GravitPanel.Mods.ModrinthResolve

/-!
# The order of resolved mods

The search of `resolveInstall` is a depth-first search along the references of
dependencies; what it returns is compared with the graph of the projects.
-/

namespace GravitPanel.Mods

open Program DepthFirst

section Graph

variable (search : ModSearch)

/-- The version of a project that the search takes. -/
def firstVersion (projectId : String) : Option ModrinthVersion :=
  match search.api.versions projectId search.minecraftVersion
      search.loader with
  | .ok (some versions) => versions.head?
  | _ => none

def requiredReferences (version : ModrinthVersion) : List String :=
  version.dependencies.filterMap fun dependency =>
    match dependencyReference search.api dependency with
    | .ok reference => reference
    | .error _ => none

def requirements (projectId : String) : List String :=
  match firstVersion search projectId with
  | some version => requiredReferences search version
  | none => []

/-- A project with a compatible version requires another one. -/
def Requires (project dependency : String) : Prop :=
  dependency ∈ requirements search project

def isCompatible (projectId : String) : Bool :=
  (firstVersion search projectId).isSome

def projectIdOf (reference : String) : String :=
  match search.api.project reference with
  | .ok (some project) => project.id
  | _ => reference

/-- Dependencies name projects by their identifiers. -/
def NamedById : Prop :=
  ∀ project reference, Requires search project reference →
    projectIdOf search reference = reference

def resultIds (result : List ResolvedMod) : List String :=
  result.map ResolvedMod.projectId

/-- Each reachable project with a compatible version is resolved, once, and
after the projects that it requires, unless they require it too. -/
structure WellResolved (root : String) (result : List ResolvedMod) :
    Prop where
  once : (resultIds result).Nodup
  exact_ : ∀ project, project ∈ resultIds result ↔
    Relation.ReflTransGen (Requires search) root project ∧
      isCompatible search project = true
  order : ∀ project ∈ resultIds result, ∀ dependency,
    Requires search project dependency →
      isCompatible search dependency = true →
        ¬ Relation.ReflTransGen (Requires search) dependency project →
          Precedes dependency project (resultIds result)

/-- A deeper recursion makes no difference. -/
def Terminates (slug : String) : Prop :=
  ∀ depth, maxResolvedProjects ≤ depth →
    visitProject search depth true slug .empty =
      visitProject search maxResolvedProjects true slug .empty

end Graph

section Explored

variable {search : ModSearch}

/-- The successors of a reference, and whether it is put out. -/
def followed (search : ModSearch) (reference : String) : List String :=
  requirements search (projectIdOf search reference)

def putOut (search : ModSearch) (reference : String) : Bool :=
  isCompatible search (projectIdOf search reference)

/-- A resolution and the state of a search of references. -/
structure Matches (search : ModSearch) (state : Resolution)
    (explored : Search String) : Prop where
  visited : state.visited = explored.visited
  resolved : resultIds state.resolved =
    explored.output.map (projectIdOf search)

/-- A program does what a search of some references does. -/
def ExploresAs (search : ModSearch) (references : List String)
    (program : Program Resolution String PUnit) : Prop :=
  ∀ state final explored, program state = (.ok ⟨⟩, final) →
    Matches search state explored →
      ∃ reached, Explores (followed search) (putOut search) references
        explored reached ∧ Matches search final reached

variable {visit : String → Program Resolution String PUnit}

theorem visitDependencies_explores
    (visits : ∀ reference, ExploresAs search [reference] (visit reference))
    (dependencies : List ModrinthDependency) :
    ExploresAs search
      (dependencies.filterMap fun dependency =>
        match dependencyReference search.api dependency with
        | .ok reference => reference
        | .error _ => none)
      (forEach dependencies (visitDependency search.api visit)) := by
  induction dependencies with
  | nil =>
      intro state final explored run same
      cases run
      exact ⟨explored, .done explored, same⟩
  | cons dependency rest ih =>
      intro state final explored run same
      obtain ⟨_, middle, first, later⟩ := bind_eq_ok.mp run
      obtain ⟨reference, found, visited⟩ := lift_bind_eq_ok.mp first
      rw [List.filterMap_cons, found]
      cases reference with
      | none =>
          cases visited
          exact ih state final explored later same
      | some reference =>
          obtain ⟨between, before, matched⟩ :=
            visits reference state middle explored visited same
          obtain ⟨reached, after, last⟩ :=
            ih middle final between later matched
          exact ⟨reached, before.append after, last⟩

theorem resolveVersion_explores
    (visits : ∀ reference, ExploresAs search [reference] (visit reference))
    {project : ModrinthProject} {root : Bool} {version : ModrinthVersion}
    {state final : Resolution} {explored : Search String}
    (run : resolveVersion search.api visit project root version state =
      (.ok ⟨⟩, final))
    (same : Matches search state explored) :
    ∃ inner, Explores (followed search) (putOut search)
        (requiredReferences search version) explored inner ∧
      final.visited = inner.visited ∧
      resultIds final.resolved =
        inner.output.map (projectIdOf search) ++ [project.id] := by
  obtain ⟨_, middle, below, added⟩ := bind_eq_ok.mp run
  obtain ⟨inner, explores, matched⟩ :=
    visitDependencies_explores visits version.dependencies state middle
      explored below same
  refine ⟨inner, explores, ?_⟩
  cases found : primaryFile version with
  | none =>
      rw [found] at added
      cases added
  | some file =>
      rw [found] at added
      cases added
      refine ⟨matched.visited, ?_⟩
      rw [← matched.resolved]
      exact List.map_append

theorem resolveProject_explores
    (visits : ∀ reference, ExploresAs search [reference] (visit reference))
    {project : ModrinthProject} {root : Bool} {reference : String}
    (here : projectIdOf search reference = project.id)
    {state final : Resolution} {explored : Search String}
    (run : resolveProject search visit root project state = (.ok ⟨⟩, final))
    (same : Matches search state explored) :
    ∃ inner, Explores (followed search) (putOut search)
        (followed search reference) explored inner ∧
      Matches search final
        (inner.emit (putOut search reference) reference) := by
  obtain ⟨_, -, afterSide⟩ := lift_bind_eq_ok.mp run
  obtain ⟨versions, answered, rest⟩ := lift_bind_eq_ok.mp afterSide
  have first : firstVersion search project.id = versions.head? := by
    unfold firstVersion
    cases answer : search.api.versions project.id search.minecraftVersion
        search.loader with
    | error problem =>
        rw [answer] at answered
        cases answered
    | ok response =>
        rw [answer] at answered
        cases response with
        | none => cases answered
        | some listed =>
            cases answered
            rfl
  rw [followed, putOut, here, requirements, isCompatible, first]
  cases head : versions.head? with
  | none =>
      rw [head] at rest
      cases root with
      | true => cases rest
      | false =>
          cases rest
          exact ⟨explored, .done explored, same⟩
  | some version =>
      rw [head] at rest
      obtain ⟨inner, explores, visited, ids⟩ :=
        resolveVersion_explores visits rest same
      refine ⟨inner, explores, visited, ?_⟩
      rw [ids, Search.output_emit, List.map_append, Option.isSome_some,
        if_pos rfl, List.map_singleton, here]

theorem visitProject_explores (depth : Nat) (root : Bool)
    (reference : String) :
    ExploresAs search [reference]
      (visitProject search depth root reference) := by
  induction depth generalizing root reference with
  | zero =>
      intro state final explored run same
      rw [visitProject, get_bind] at run
      split at run
      next visited =>
        cases run
        rw [same.visited] at visited
        exact ⟨explored, .seen visited (.done explored), same⟩
      · split at run
        · cases run
        · cases run
  | succ depth ih =>
      intro state final explored run same
      rw [visitProject, get_bind] at run
      split at run
      next visited =>
        cases run
        rw [same.visited] at visited
        exact ⟨explored, .seen visited (.done explored), same⟩
      next unvisited =>
        split at run
        · cases run
        · obtain ⟨_, begun, updated, rest⟩ := bind_eq_ok.mp run
          cases updated
          obtain ⟨project, answered, resolves⟩ := lift_bind_eq_ok.mp rest
          have here : projectIdOf search reference = project.id := by
            unfold projectIdOf
            cases answer : search.api.project reference with
            | error problem =>
                rw [answer] at answered
                cases answered
            | ok response =>
                rw [answer] at answered
                cases response with
                | none => cases answered
                | some found =>
                    cases answered
                    rfl
          have marked : Matches search (state.visit reference)
              (explored.visit reference) :=
            ⟨congrArg (reference :: ·) same.visited, same.resolved⟩
          obtain ⟨inner, below, matched⟩ :=
            resolveProject_explores (ih false) here
              resolves marked
          rw [same.visited] at unvisited
          exact ⟨_, .fresh unvisited below (.done _), matched⟩

end Explored

section References

variable {search : ModSearch} {slug root : String}

theorem leads_iff {reference next : String} :
    Leads (followed search) reference next ↔
      Requires search (projectIdOf search reference) next := Iff.rfl

theorem projectIdOf_of_below (named : NamedById search)
    {reference next : String}
    (path : Relation.TransGen (Leads (followed search)) reference next) :
    projectIdOf search next = next := by
  cases path with
  | single leads => exact named _ _ leads
  | tail _ leads => exact named _ _ leads

theorem reaches_iff (named : NamedById search)
    {reference project : String} :
    Relation.TransGen (Leads (followed search)) reference project ↔
      Relation.TransGen (Requires search) (projectIdOf search reference)
        project := by
  constructor
  · intro path
    induction path with
    | single leads => exact .single leads
    | tail path leads ih =>
        rw [leads_iff, projectIdOf_of_below named path] at leads
        exact .tail ih leads
  · intro path
    induction path with
    | single requires => exact .single requires
    | tail _ requires ih =>
        refine .tail ih ?_
        rw [leads_iff, projectIdOf_of_below named ih]
        exact requires

theorem isCompatible_of_requires {project dependency : String}
    (requires : Requires search project dependency) :
    isCompatible search project = true := by
  unfold Requires requirements at requires
  unfold isCompatible
  cases first : firstVersion search project with
  | none =>
      rw [first] at requires
      exact absurd requires List.not_mem_nil
  | some version => rfl

theorem transGen_head {project next : String}
    (path : Relation.TransGen (Requires search) project next) :
    isCompatible search project = true := by
  obtain ⟨_, requires, -⟩ := Relation.TransGen.head'_iff.mp path
  exact isCompatible_of_requires requires

section Result

variable {final : Search String}

theorem putOut_iff (named : NamedById search)
    (explores : Explores (followed search) (putOut search) [slug] .start
      final) {project : String} :
    project ∈ final.output.map (projectIdOf search) ↔
      Relation.ReflTransGen (Requires search) (projectIdOf search slug)
        project ∧ isCompatible search project = true := by
  obtain ⟨-, mem_iff, -⟩ := explores.from_start
  constructor
  · intro member
    obtain ⟨reference, inside, rfl⟩ := List.mem_map.mp member
    obtain ⟨path, emitted⟩ := (mem_iff reference).mp inside
    refine ⟨?_, emitted⟩
    rcases Relation.reflTransGen_iff_eq_or_transGen.mp path with rfl | below
    · exact .refl
    · rw [projectIdOf_of_below named below]
      exact ((reaches_iff named).mp below).to_reflTransGen
  · rintro ⟨path, compatible⟩
    rcases Relation.reflTransGen_iff_eq_or_transGen.mp path with same | below
    · rw [same] at compatible ⊢
      exact List.mem_map_of_mem ((mem_iff slug).mpr ⟨.refl, compatible⟩)
    · have path := (reaches_iff named).mpr below
      have own := projectIdOf_of_below named path
      rw [← own] at compatible ⊢
      exact List.mem_map_of_mem
        ((mem_iff project).mpr ⟨path.to_reflTransGen, compatible⟩)

/-- No project is put out twice exactly if the root is requested by its
identifier or is not required again below. -/
theorem once_iff (named : NamedById search)
    (explores : Explores (followed search) (putOut search) [slug] .start
      final) :
    (final.output.map (projectIdOf search)).Nodup ↔
      slug = projectIdOf search slug ∨
        ¬ Relation.TransGen (Requires search) (projectIdOf search slug)
          (projectIdOf search slug) := by
  obtain ⟨distinct, mem_iff, -⟩ := explores.from_start
  rw [List.nodup_map_iff_inj_on distinct]
  constructor
  · intro injective
    rw [or_iff_not_imp_right, not_not]
    intro cycle
    have path := (reaches_iff named).mpr cycle
    have own := projectIdOf_of_below named path
    have compatible := transGen_head cycle
    refine injective slug ((mem_iff slug).mpr ⟨.refl, compatible⟩)
      (projectIdOf search slug) ((mem_iff _).mpr
        ⟨path.to_reflTransGen, ?_⟩) own.symm
    rw [putOut, own]
    exact compatible
  · intro spared first member second otherMember same
    have paths := fun reference inside =>
      Relation.reflTransGen_iff_eq_or_transGen.mp
        ((mem_iff reference).mp inside).1
    have mixed : ∀ reference,
        Relation.TransGen (Leads (followed search)) slug reference →
        projectIdOf search reference = projectIdOf search slug →
          reference = slug := by
      intro reference below equal
      have own := projectIdOf_of_below named below
      rw [own] at equal
      rcases spared with byId | open_
      · rw [equal]
        exact byId.symm
      · rw [equal] at below
        exact absurd ((reaches_iff named).mp below) open_
    rcases paths first member with rfl | below
    · rcases paths second otherMember with rfl | otherBelow
      · rfl
      · exact (mixed second otherBelow same.symm).symm
    · rcases paths second otherMember with rfl | otherBelow
      · exact mixed first below same
      · rw [projectIdOf_of_below named below,
          projectIdOf_of_below named otherBelow] at same
        exact same

theorem order_of_explores (named : NamedById search)
    (explores : Explores (followed search) (putOut search) [slug] .start
      final) {project dependency : String}
    (member : project ∈ final.output.map (projectIdOf search))
    (requires : Requires search project dependency)
    (compatible : isCompatible search dependency = true)
    (apart : ¬ Relation.ReflTransGen (Requires search) dependency project) :
    Precedes dependency project
      (final.output.map (projectIdOf search)) := by
  obtain ⟨-, mem_iff, order⟩ := explores.from_start
  obtain ⟨reference, inside, rfl⟩ := List.mem_map.mp member
  have own := named _ _ requires
  have emitted : putOut search dependency = true := by
    rw [putOut, own]
    exact compatible
  rcases order reference inside dependency requires emitted with
    before | path
  · have shown := before.map (projectIdOf search)
    rw [own] at shown
    exact shown
  · rcases Relation.reflTransGen_iff_eq_or_transGen.mp path with same | below
    · rw [same, own] at apart
      exact absurd .refl apart
    · have reached := (reaches_iff named).mp below
      rw [own, ← projectIdOf_of_below named below] at reached
      exact absurd reached.to_reflTransGen apart

end Result

end References

section Termination

variable {search : ModSearch} {api : ModrinthApi} {bound : Nat}
variable {first second : String → Program Resolution String PUnit}

/-- Two programs do the same from each state with so many visited references. -/
def AgreeFrom {Value : Type} (bound : Nat)
    (first second : Program Resolution String Value) : Prop :=
  ∀ state : Resolution, bound ≤ state.visited.length →
    first state = second state

theorem agreeFrom_refl {Value : Type}
    (program : Program Resolution String Value) :
    AgreeFrom bound program program := fun _ _ => rfl

theorem AgreeFrom.bind {Value Result : Type}
    {program other : Program Resolution String Value}
    {next later : Value → Program Resolution String Result}
    (agree : AgreeFrom bound program other)
    (grows : Keeps (fun state : Resolution => bound ≤ state.visited.length)
      other)
    (rest : ∀ value, AgreeFrom bound (next value) (later value)) :
    AgreeFrom bound (program >>= next) (other >>= later) := by
  intro state large
  have reached := grows.reached large
  rw [bind_apply, bind_apply, agree state large]
  rcases run : other state with ⟨problem | value, after⟩
  · rfl
  · rw [run] at reached
    exact rest value after reached

theorem AgreeFrom.lift_bind {Value Result : Type}
    {outcome : Except String Value}
    {next later : Value → Program Resolution String Result}
    (rest : ∀ value, AgreeFrom bound (next value) (later value)) :
    AgreeFrom bound (lift outcome >>= next) (lift outcome >>= later) :=
  (agreeFrom_refl (lift outcome)).bind (keeps_lift outcome) rest

/-- A search only adds to the visited references. -/
def Grows (program : Program Resolution String PUnit) : Prop :=
  ∀ bound, Keeps (fun state : Resolution => bound ≤ state.visited.length)
    program

theorem visitDependency_grows
    (visits : ∀ reference, Grows (first reference))
    (dependency : ModrinthDependency) :
    Grows (visitDependency api first dependency) := by
  intro bound
  refine Keeps.lift_bind fun reference => ?_
  cases reference with
  | none => exact keeps_pure _
  | some reference => exact visits reference bound

theorem resolveProject_grows
    (visits : ∀ reference, Grows (first reference)) (root : Bool)
    (project : ModrinthProject) :
    Grows (resolveProject search first root project) := by
  intro bound
  refine Keeps.lift_bind fun _ => Keeps.lift_bind fun versions => ?_
  cases versions.head? with
  | none =>
      dsimp only
      split
      · exact keeps_throw _
      · exact keeps_pure _
  | some version =>
      refine Keeps.bind (keeps_forEach fun dependency _ =>
        visitDependency_grows visits dependency bound) fun _ => ?_
      cases primaryFile version with
      | none => exact keeps_throw _
      | some file => exact keeps_update fun _ large => large

theorem visitProject_grows (depth : Nat) (root : Bool) (reference : String) :
    Grows (visitProject search depth root reference) := by
  induction depth generalizing root reference with
  | zero =>
      intro bound
      refine keeps_get.bind fun state => ?_
      split
      · exact keeps_pure _
      · split
        · exact keeps_throw _
        · exact keeps_throw _
  | succ depth ih =>
      intro bound
      refine keeps_get.bind fun state => ?_
      split
      · exact keeps_pure _
      · split
        · exact keeps_throw _
        · refine Keeps.bind (keeps_update fun _ large => ?_) fun _ => ?_
          · exact Nat.le_succ_of_le large
          · exact Keeps.lift_bind fun project =>
              resolveProject_grows (ih false) root project
                bound

theorem resolveProject_agrees
    (agree : ∀ reference, AgreeFrom bound (first reference)
      (second reference))
    (grows : ∀ reference, Grows (second reference)) (root : Bool)
    (project : ModrinthProject) :
    AgreeFrom bound (resolveProject search first root project)
      (resolveProject search second root project) := by
  refine AgreeFrom.lift_bind fun _ => AgreeFrom.lift_bind fun versions => ?_
  cases versions.head? with
  | none => exact agreeFrom_refl _
  | some version =>
      have all : ∀ dependencies : List ModrinthDependency,
          AgreeFrom bound
            (forEach dependencies (visitDependency search.api first))
            (forEach dependencies (visitDependency search.api second)) := by
        intro dependencies
        induction dependencies with
        | nil => exact agreeFrom_refl _
        | cons dependency rest ih =>
            refine AgreeFrom.bind ?_
              (visitDependency_grows grows dependency bound)
              fun _ => ih
            refine AgreeFrom.lift_bind fun reference => ?_
            cases reference with
            | none => exact agreeFrom_refl _
            | some reference => exact agree reference
      exact (all version.dependencies).bind
        (keeps_forEach fun dependency _ =>
          visitDependency_grows grows dependency bound)
        fun _ => agreeFrom_refl _

theorem visitProject_deeper (depth more : Nat) (root : Bool)
    (reference : String) :
    AgreeFrom (maxResolvedProjects - depth)
      (visitProject search (depth + more) root reference)
      (visitProject search depth root reference) := by
  induction depth generalizing root reference with
  | zero =>
      intro state large
      have full : maxResolvedProjects ≤ state.visited.length := large
      cases more with
      | zero => rfl
      | succ more =>
          rw [Nat.zero_add, visitProject, visitProject, get_bind, get_bind,
            if_pos full, if_pos full]
  | succ depth ih =>
      intro state large
      rw [Nat.succ_add, visitProject, visitProject, get_bind, get_bind]
      split
      · rfl
      · split
        · rfl
        · rw [bind_of_ok (update_apply _ _), bind_of_ok (update_apply _ _)]
          have rest : AgreeFrom (maxResolvedProjects - depth)
              (do
                let project ← lift (expectOk (search.api.project reference)
                  (reference ++
                    " is not available from the pinned Modrinth API"))
                resolveProject search (visitProject search (depth + more)
                  false) root project)
              (do
                let project ← lift (expectOk (search.api.project reference)
                  (reference ++
                    " is not available from the pinned Modrinth API"))
                resolveProject search (visitProject search depth false) root
                  project) :=
            AgreeFrom.lift_bind fun project =>
              resolveProject_agrees (ih false)
                (visitProject_grows depth false) root project
          apply rest
          show maxResolvedProjects - depth ≤ state.visited.length + 1
          omega

theorem resolveInstall_terminates (slug : String) :
    Terminates search slug := by
  intro depth enough
  obtain ⟨more, rfl⟩ := Nat.exists_eq_add_of_le enough
  apply visitProject_deeper
  rw [Nat.sub_self]
  exact Nat.zero_le _

end Termination

/-- A resolution is right exactly if the root is requested by its identifier,
or no project below requires it again. -/
theorem wellResolved_iff
    (search : ModSearch) (slug : String) (result : List ResolvedMod)
    (named : NamedById search)
    (returns : resolveInstall search slug = .ok result) :
    Terminates search slug ∧
        WellResolved search (projectIdOf search slug) result ↔
      slug = projectIdOf search slug ∨
        ¬ Relation.TransGen (Requires search) (projectIdOf search slug)
          (projectIdOf search slug) := by
  rcases run : visitProject search maxResolvedProjects true slug .empty with
    ⟨problem | value, final⟩
  · rw [resolveInstall, run] at returns
    cases returns
  · rw [resolveInstall, run] at returns
    cases returns
    obtain ⟨reached, explores, matched⟩ := visitProject_explores
      maxResolvedProjects true slug .empty final .start run ⟨rfl, rfl⟩
    constructor
    · rintro ⟨-, well⟩
      have once := well.once
      rw [matched.resolved] at once
      exact (once_iff named explores).mp once
    · intro spared
      refine ⟨resolveInstall_terminates slug, ?_, ?_, ?_⟩
      · rw [matched.resolved]
        exact (once_iff named explores).mpr spared
      · rw [matched.resolved]
        exact fun project => putOut_iff named explores
      · rw [matched.resolved]
        exact fun project member dependency requires compatible apart =>
          order_of_explores named explores member requires compatible apart

def requiring (projectId : String) : ModrinthDependency :=
  ⟨some projectId, none, .required⟩

def versionOf (projectId : String) (dependencies : List String) :
    ModrinthVersion :=
  ⟨projectId, [⟨"https://cdn.modrinth.com/" ++ projectId,
    projectId ++ ".jar", true⟩], dependencies.map requiring⟩

/-- Two projects that require each other. -/
def cyclicApi : ModrinthApi where
  project := fun reference =>
    if reference = "AAAAAAAA" ∨ reference = "sodium" then
      .ok (some ⟨"AAAAAAAA", "sodium", none, .required, .optional⟩)
    else if reference = "BBBBBBBB" ∨ reference = "indium" then
      .ok (some ⟨"BBBBBBBB", "indium", none, .required, .optional⟩)
    else .ok none
  versions := fun projectId _ _ =>
    if projectId = "AAAAAAAA" then
      .ok (some [versionOf "AAAAAAAA" ["BBBBBBBB"]])
    else if projectId = "BBBBBBBB" then
      .ok (some [versionOf "BBBBBBBB" ["AAAAAAAA"]])
    else .ok (some [])
  version := fun _ => .ok none

def cyclicSearch : ModSearch := ⟨cyclicApi, "1.21.1", "FABRIC", .client⟩

theorem cyclicSearch_named : NamedById cyclicSearch := by
  have own : requirements cyclicSearch "AAAAAAAA" ⊆ ["AAAAAAAA", "BBBBBBBB"] ∧
      requirements cyclicSearch "BBBBBBBB" ⊆ ["AAAAAAAA", "BBBBBBBB"] ∧
        ∀ reference ∈ ["AAAAAAAA", "BBBBBBBB"],
          projectIdOf cyclicSearch reference = reference := by
    decide +kernel
  obtain ⟨first, second, named⟩ := own
  intro project reference requires
  apply named
  by_cases one : project = "AAAAAAAA"
  · rw [one] at requires
    exact first requires
  · by_cases two : project = "BBBBBBBB"
    · rw [two] at requires
      exact second requires
    · have none : requirements cyclicSearch project = [] := by
        simp [requirements, firstVersion, cyclicSearch, cyclicApi, one, two]
      rw [Requires, none] at requires
      exact absurd requires List.not_mem_nil

def cyclicResult (slug : String) : List ResolvedMod :=
  (resolveInstall cyclicSearch slug).toOption.getD []

theorem cyclic_by_id :
    Terminates cyclicSearch "AAAAAAAA" ∧
        WellResolved cyclicSearch (projectIdOf cyclicSearch "AAAAAAAA")
          (cyclicResult "AAAAAAAA") ↔
      "AAAAAAAA" = projectIdOf cyclicSearch "AAAAAAAA" ∨
        ¬ Relation.TransGen (Requires cyclicSearch)
          (projectIdOf cyclicSearch "AAAAAAAA")
          (projectIdOf cyclicSearch "AAAAAAAA") :=
  wellResolved_iff cyclicSearch "AAAAAAAA" (cyclicResult "AAAAAAAA")
    cyclicSearch_named (by decide +kernel)

/-- Requested by its slug, the root is resolved twice. -/
theorem cyclic_root_twice :
    resolveInstall cyclicSearch "sodium" = .ok (cyclicResult "sodium") ∧
      resultIds (cyclicResult "sodium") =
        ["AAAAAAAA", "BBBBBBBB", "AAAAAAAA"] ∧
      ¬ WellResolved cyclicSearch (projectIdOf cyclicSearch "sodium")
        (cyclicResult "sodium") := by
  have runs :
      resolveInstall cyclicSearch "sodium" = .ok (cyclicResult "sodium") ∧
        resultIds (cyclicResult "sodium") =
          ["AAAAAAAA", "BBBBBBBB", "AAAAAAAA"] := by
    decide +kernel
  refine ⟨runs.1, runs.2, fun well => ?_⟩
  have once := well.once
  rw [runs.2] at once
  exact absurd once (by decide)

end GravitPanel.Mods
