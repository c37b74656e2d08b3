import Mathlib.Data.List.Basic

/-!
# Programs that change a state and may throw

A program yields a value or an error together with the next state; whatever it
changed before it threw stays changed.  A triple has one assertion for a normal
end and one for a thrown error, so that a handler or a cleanup is reasoned
about like any other step.
-/

namespace GravitPanel

universe u

def Program (State Error Value : Type u) : Type u :=
  State → Except Error Value × State

namespace Program

variable {State Error Value Result : Type u}

instance : Monad (Program State Error) where
  pure value := fun state => (.ok value, state)
  bind program next := fun state =>
    match program state with
    | (.ok value, reached) => next value reached
    | (.error problem, reached) => (.error problem, reached)

def throw (problem : Error) : Program State Error Value :=
  fun state => (.error problem, state)

def get : Program State Error State := fun state => (.ok state, state)

def update (change : State → State) : Program State Error PUnit :=
  fun state => (.ok ⟨⟩, change state)

/-- An outcome that neither reads nor changes the state. -/
def lift (outcome : Except Error Value) : Program State Error Value :=
  fun state => (outcome, state)

/-- `try … catch`. -/
def handle
    (program : Program State Error Value)
    (handler : Error → Program State Error Value) :
    Program State Error Value :=
  fun state =>
    match program state with
    | (.ok value, reached) => (.ok value, reached)
    | (.error problem, reached) => handler problem reached

/-- `try … finally`, for a cleanup that does not throw. -/
def cleanUp
    (program : Program State Error Value) (cleanup : State → State) :
    Program State Error Value :=
  fun state => ((program state).1, cleanup (program state).2)

def forEach {Item : Type u}
    (items : List Item) (body : Item → Program State Error PUnit) :
    Program State Error PUnit :=
  match items with
  | [] => pure ⟨⟩
  | item :: rest => do
      body item
      forEach rest body

/-- A program on a part of the state. -/
def focus {Whole : Type u}
    (part : Whole → State) (replace : Whole → State → Whole)
    (program : Program State Error Value) : Program Whole Error Value :=
  fun whole =>
    ((program (part whole)).1, replace whole (program (part whole)).2)

@[simp]
theorem pure_apply (value : Value) (state : State) :
    (pure value : Program State Error Value) state = (.ok value, state) :=
  rfl

@[simp]
theorem throw_apply (problem : Error) (state : State) :
    (throw problem : Program State Error Value) state =
      (.error problem, state) := rfl

@[simp]
theorem get_apply (state : State) :
    (get : Program State Error State) state = (.ok state, state) := rfl

@[simp]
theorem update_apply (change : State → State) (state : State) :
    (update change : Program State Error PUnit) state =
      (.ok ⟨⟩, change state) := rfl

@[simp]
theorem lift_apply (outcome : Except Error Value) (state : State) :
    (lift outcome : Program State Error Value) state = (outcome, state) :=
  rfl

theorem bind_apply
    (program : Program State Error Value)
    (next : Value → Program State Error Result) (state : State) :
    (program >>= next) state =
      match program state with
      | (.ok value, reached) => next value reached
      | (.error problem, reached) => (.error problem, reached) := rfl

theorem bind_of_ok
    {program : Program State Error Value} {value : Value}
    {state reached : State}
    (run : program state = (.ok value, reached))
    (next : Value → Program State Error Result) :
    (program >>= next) state = next value reached := by
  rw [bind_apply, run]

theorem bind_of_error
    {program : Program State Error Value} {problem : Error}
    {state reached : State}
    (run : program state = (.error problem, reached))
    (next : Value → Program State Error Result) :
    (program >>= next) state = (.error problem, reached) := by
  rw [bind_apply, run]

theorem get_bind
    (next : State → Program State Error Result) (state : State) :
    (get >>= next) state = next state state := rfl

theorem bind_bind
    {Last : Type u} (program : Program State Error Value)
    (next : Value → Program State Error Result)
    (last : Result → Program State Error Last) :
    (program >>= next) >>= last =
      program >>= fun value => next value >>= last := by
  funext state
  rw [bind_apply, bind_apply, bind_apply]
  rcases program state with ⟨outcome, reached⟩
  cases outcome with
  | error problem => rfl
  | ok value => exact bind_apply _ _ _

theorem lift_bind
    (outcome : Except Error Value)
    (next : Value → Program State Error Result) (state : State) :
    (lift outcome >>= next) state =
      match outcome with
      | .ok value => next value state
      | .error problem => (.error problem, state) := by
  cases outcome <;> rfl

variable {result : Result}

theorem outcome_bind_eq_ok
    {outcome : Except Error Value} {next : Value → Except Error Result}
    :
    (outcome >>= next) = .ok result ↔
      ∃ value, outcome = .ok value ∧ next value = .ok result := by
  cases outcome with
  | error problem =>
      constructor
      · nofun
      · rintro ⟨value, equality, _⟩
        cases equality
  | ok value =>
      constructor
      · intro equality
        exact ⟨value, rfl, equality⟩
      · rintro ⟨other, equality, result⟩
        cases equality
        exact result

theorem bind_eq_ok
    {program : Program State Error Value}
    {next : Value → Program State Error Result}
    {state final : State} :
    (program >>= next) state = (.ok result, final) ↔
      ∃ value reached, program state = (.ok value, reached) ∧
        next value reached = (.ok result, final) := by
  rw [bind_apply]
  rcases program state with ⟨outcome, reached⟩
  cases outcome with
  | error problem => simp
  | ok value => simp

theorem lift_bind_eq_ok
    {outcome : Except Error Value}
    {next : Value → Program State Error Result}
    {state final : State} :
    (lift outcome >>= next) state = (.ok result, final) ↔
      ∃ value, outcome = .ok value ∧
        next value state = (.ok result, final) := by
  rw [lift_bind]
  cases outcome with
  | error problem => simp
  | ok value => simp

theorem bind_pure_reached
    (program : Program State Error Value) (result : Result) (state : State) :
    ((program >>= fun _ => pure result) state).2 = (program state).2 := by
  rw [bind_apply]
  rcases program state with ⟨outcome, reached⟩
  cases outcome <;> rfl

theorem handle_of_ok
    {program : Program State Error Value} {value : Value}
    {state reached : State}
    (run : program state = (.ok value, reached))
    (handler : Error → Program State Error Value) :
    handle program handler state = (.ok value, reached) := by
  rw [handle, run]

theorem handle_of_error
    {program : Program State Error Value} {problem : Error}
    {state reached : State}
    (run : program state = (.error problem, reached))
    (handler : Error → Program State Error Value) :
    handle program handler state = handler problem reached := by
  rw [handle, run]

theorem handle_eq_ok
    {program : Program State Error Value}
    {handler : Error → Program State Error Value} {value : Value}
    {state final : State} :
    handle program handler state = (.ok value, final) ↔
      program state = (.ok value, final) ∨
        ∃ problem reached, program state = (.error problem, reached) ∧
          handler problem reached = (.ok value, final) := by
  rw [handle]
  rcases program state with ⟨outcome, reached⟩
  cases outcome with
  | error problem => simp
  | ok value => simp

theorem restore_eq_ok
    {program : Program State Error Value} {change : State → State}
    {value : Value} {state final : State} :
    handle program (fun problem => update change >>= fun _ =>
        throw problem) state = (.ok value, final) ↔
      program state = (.ok value, final) := by
  rw [handle_eq_ok]
  constructor
  · rintro (run | ⟨problem, _, _, thrown⟩)
    · exact run
    · cases thrown
  · exact .inl

theorem recover_eq_ok
    {program : Program State Error Value}
    {recovery : Program State Error Result} {report : Error → Error}
    {value : Value} {state final : State} :
    handle program (fun problem => recovery >>= fun _ =>
        throw (report problem)) state = (.ok value, final) ↔
      program state = (.ok value, final) := by
  rw [handle_eq_ok]
  constructor
  · rintro (run | ⟨problem, reached, _, thrown⟩)
    · exact run
    · obtain ⟨_, _, _, thrown⟩ := bind_eq_ok.mp thrown
      cases thrown
  · exact .inl

/-- From a state with `before`, a normal end has `after` and a thrown error has
`thrown`. -/
def Triple
    (before : State → Prop) (program : Program State Error Value)
    (after : Value → State → Prop) (thrown : Error → State → Prop) : Prop :=
  ∀ state, before state →
    match program state with
    | (.ok value, reached) => after value reached
    | (.error problem, reached) => thrown problem reached

/-- The program keeps an assertion, however it ends. -/
def Keeps
    (invariant : State → Prop) (program : Program State Error Value) : Prop :=
  Triple invariant program (fun _ => invariant) (fun _ => invariant)
variable {program : Program State Error Value}
variable {next : Value → Program State Error Result}
variable {outcome : Except Error Value} {value : Value}

section Rules

variable {before : State → Prop}
variable {after : Value → State → Prop} {last : Result → State → Prop}
variable {thrown : Error → State → Prop}

theorem triple_pure (value : Value) :
    Triple (fun state => after value state) (pure value) after thrown :=
  fun _ holds => holds

theorem Triple.bind
    (first : Triple before program after thrown)
    (second : ∀ value, Triple (after value) (next value) last thrown) :
    Triple before (program >>= next) last thrown := by
  intro state holds
  have reachedAssertion := first state holds
  rw [bind_apply]
  generalize program state = result at reachedAssertion ⊢
  obtain ⟨outcome, reached⟩ := result
  cases outcome with
  | error problem => exact reachedAssertion
  | ok value => exact second value reached reachedAssertion

theorem Triple.lift_bind
    (fails : ∀ problem state, outcome = .error problem → before state →
      thrown problem state)
    (second : ∀ value, outcome = .ok value →
      Triple before (next value) last thrown) :
    Triple before (lift outcome >>= next) last thrown := by
  intro state holds
  rw [Program.lift_bind]
  cases result : outcome with
  | error problem => exact fails problem state result holds
  | ok value => exact second value result state holds

theorem Triple.handle
    {handler : Error → Program State Error Value}
    (caught : Error → State → Prop)
    (body : Triple before program after caught)
    (recovery : ∀ problem,
      Triple (caught problem) (handler problem) after thrown) :
    Triple before (handle program handler) after thrown := by
  intro state holds
  have reachedAssertion := body state holds
  rw [Program.handle]
  generalize program state = result at reachedAssertion ⊢
  obtain ⟨outcome, reached⟩ := result
  cases outcome with
  | error problem => exact recovery problem reached reachedAssertion
  | ok value => exact reachedAssertion

theorem Triple.cleanUp
    {cleanup : State → State}
    (body : Triple before program
      (fun value state => after value (cleanup state))
      (fun problem state => thrown problem (cleanup state))) :
    Triple before (program.cleanUp cleanup) after thrown := by
  intro state holds
  have reachedAssertion := body state holds
  rw [Program.cleanUp]
  generalize program state = result at reachedAssertion ⊢
  obtain ⟨outcome, reached⟩ := result
  cases outcome with
  | error problem => exact reachedAssertion
  | ok value => exact reachedAssertion

theorem Triple.weaken
    {stronger : State → Prop}
    {weaker : Value → State → Prop} {weakerThrown : Error → State → Prop}
    (triple : Triple before program after thrown)
    (entails : ∀ state, stronger state → before state)
    (implied : ∀ value state, after value state → weaker value state)
    (impliedThrown : ∀ problem state,
      thrown problem state → weakerThrown problem state) :
    Triple stronger program weaker weakerThrown := by
  intro state holds
  have reachedAssertion := triple state (entails state holds)
  generalize program state = result at reachedAssertion ⊢
  obtain ⟨outcome, reached⟩ := result
  cases outcome with
  | error problem => exact impliedThrown problem reached reachedAssertion
  | ok value => exact implied value reached reachedAssertion

theorem triple_true (program : Program State Error Value) :
    Triple before program (fun _ _ => True) (fun _ _ => True) := by
  intro state _
  generalize program state = result
  obtain ⟨outcome, reached⟩ := result
  cases outcome <;> trivial

end Rules

section Invariants

variable {invariant : State → Prop}

theorem keeps_pure (value : Value) :
    Keeps invariant (pure value : Program State Error Value) :=
  fun _ holds => holds

theorem keeps_throw (problem : Error) :
    Keeps invariant (throw problem : Program State Error Value) :=
  fun _ holds => holds

theorem keeps_lift (outcome : Except Error Value) :
    Keeps invariant (lift outcome : Program State Error Value) := by
  intro state holds
  cases outcome <;> exact holds

theorem keeps_get :
    Keeps invariant (get : Program State Error State) :=
  fun _ holds => holds

theorem keeps_update {change : State → State}
    (kept : ∀ state, invariant state → invariant (change state)) :
    Keeps invariant (update change : Program State Error PUnit) :=
  kept

theorem Keeps.bind
    (first : Keeps invariant program)
    (second : ∀ value, Keeps invariant (next value)) :
    Keeps invariant (program >>= next) :=
  Triple.bind first second

theorem Keeps.lift_bind
    (second : ∀ value, Keeps invariant (next value)) :
    Keeps invariant (lift outcome >>= next) :=
  Keeps.bind (keeps_lift outcome) second

theorem Keeps.handle
    {handler : Error → Program State Error Value}
    (body : Keeps invariant program)
    (recovery : ∀ problem, Keeps invariant (handler problem)) :
    Keeps invariant (handle program handler) :=
  Triple.handle (fun _ => invariant) body recovery

theorem keeps_forEach {Item : Type u} {items : List Item}
    {body : Item → Program State Error PUnit}
    (each : ∀ item ∈ items, Keeps invariant (body item)) :
    Keeps invariant (forEach items body) := by
  induction items with
  | nil => exact fun _ holds => holds
  | cons item rest ih =>
      have first := each item List.mem_cons_self
      have later := ih fun other member =>
        each other (List.mem_cons_of_mem item member)
      exact first.bind fun _ => later

theorem Keeps.reached
    {state : State}
    (kept : Keeps invariant program) (holds : invariant state) :
    invariant (program state).2 := by
  have reachedAssertion := kept state holds
  generalize program state = result at reachedAssertion ⊢
  obtain ⟨outcome, reached⟩ := result
  cases outcome with
  | error problem => exact reachedAssertion
  | ok value => exact reachedAssertion

theorem keeps_of_reached
    (kept : ∀ state, invariant state → invariant (program state).2) :
    Keeps invariant program := by
  intro state holds
  have reachedAssertion := kept state holds
  generalize program state = result at reachedAssertion ⊢
  obtain ⟨outcome, reached⟩ := result
  cases outcome <;> exact reachedAssertion

end Invariants

/-! ## Thrown errors -/

/-- When the program throws from a state, what it leaves is good. -/
def ThrowsInto
    (good : State → Prop) (program : Program State Error Value)
    (state : State) : Prop :=
  ∀ problem reached, program state = (.error problem, reached) →
    good reached

/-- When the program ends normally from a state, what it leaves is good. -/
def ReturnsInto
    (good : State → Prop) (program : Program State Error Value)
    (state : State) : Prop :=
  ∀ value reached, program state = (.ok value, reached) → good reached

section Throws

variable {good : State → Prop} {state : State}

theorem throwsInto_pure (value : Value) :
    ThrowsInto good (pure value : Program State Error Value) state := by
  intro problem reached run
  cases run

theorem throwsInto_update (change : State → State) :
    ThrowsInto good (update change : Program State Error PUnit) state := by
  intro problem reached run
  cases run

theorem throwsInto_throw {problem : Error} :
    ThrowsInto good (throw problem : Program State Error Value) state ↔
      good state := by
  constructor
  · exact fun throws => throws problem state rfl
  · intro holds failure reached run
    cases run
    exact holds

theorem throwsInto_lift :
    ThrowsInto good (lift outcome) state ↔
      ∀ problem, outcome = .error problem → good state := by
  constructor
  · intro throws problem failed
    exact throws problem state (by rw [lift_apply, failed])
  · intro failed problem reached run
    cases run
    exact failed problem rfl

theorem ThrowsInto.mono
    {weaker : State → Prop}
    (throws : ThrowsInto good program state)
    (implied : ∀ reached, good reached → weaker reached) :
    ThrowsInto weaker program state :=
  fun problem reached run => implied reached (throws problem reached run)

theorem throwsInto_and
    {other : State → Prop} :
    ThrowsInto (fun reached => good reached ∧ other reached) program state ↔
      ThrowsInto good program state ∧ ThrowsInto other program state := by
  constructor
  · intro throws
    exact ⟨throws.mono fun _ => And.left, throws.mono fun _ => And.right⟩
  · rintro ⟨first, second⟩ problem reached run
    exact ⟨first problem reached run, second problem reached run⟩

theorem throwsInto_bind
    :
    ThrowsInto good (program >>= next) state ↔
      ThrowsInto good program state ∧
        ∀ value reached, program state = (.ok value, reached) →
          ThrowsInto good (next value) reached := by
  constructor
  · intro throws
    constructor
    · intro problem reached run
      exact throws problem reached (bind_of_error run next)
    · intro value reached run problem last rest
      exact throws problem last ((bind_of_ok run next).trans rest)
  · rintro ⟨first, second⟩ problem reached run
    rw [bind_apply] at run
    rcases shape : program state with ⟨failure | value, middle⟩
    · rw [shape] at run
      cases run
      exact first problem reached shape
    · rw [shape] at run
      exact second value middle shape problem reached run

theorem throwsInto_bind_pure
    {result : Result} :
    ThrowsInto good (program >>= fun _ => pure result) state ↔
      ThrowsInto good program state := by
  rw [throwsInto_bind]
  exact and_iff_left fun _ _ _ => throwsInto_pure _

theorem throwsInto_lift_bind
    :
    ThrowsInto good (lift outcome >>= next) state ↔
      (∀ problem, outcome = .error problem → good state) ∧
        ∀ value, outcome = .ok value →
          ThrowsInto good (next value) state := by
  rw [throwsInto_bind, throwsInto_lift]
  refine and_congr_right fun _ => ?_
  constructor
  · exact fun rest value ended => rest value state (by rw [lift_apply, ended])
  · intro rest value reached run
    rw [lift_apply, Prod.mk.injEq] at run
    obtain ⟨ended, rfl⟩ := run
    exact rest value ended

theorem throwsInto_bind_of_ok
    {reached : State}
    (run : program state = (.ok value, reached))
    :
    ThrowsInto good (program >>= next) state ↔
      ThrowsInto good (next value) reached := by
  unfold ThrowsInto
  rw [bind_of_ok run]

theorem throwsInto_get_bind
    {next : State → Program State Error Result} :
    ThrowsInto good (get >>= next) state ↔
      ThrowsInto good (next state) state := Iff.rfl

theorem throwsInto_update_bind
    {change : State → State}
    {next : PUnit → Program State Error Result} :
    ThrowsInto good (update change >>= next) state ↔
      ThrowsInto good (next ⟨⟩) (change state) := Iff.rfl

theorem throwsInto_restore
    {change : State → State} :
    ThrowsInto good (handle program fun problem =>
        update change >>= fun _ => throw problem) state ↔
      ThrowsInto (fun reached => good (change reached)) program state := by
  constructor
  · intro throws problem reached run
    refine throws problem (change reached) ?_
    rw [handle_of_error run]
    rfl
  · intro throws problem reached run
    rcases shape : program state with ⟨failure | value, middle⟩
    · rw [handle_of_error shape] at run
      cases run
      exact throws _ _ shape
    · rw [handle_of_ok shape] at run
      cases run

theorem throwsInto_recover
    {recovery : Program State Error Result} {report : Error → Error} :
    ThrowsInto good (handle program fun problem =>
        recovery >>= fun _ => throw (report problem)) state ↔
      ThrowsInto (fun reached => good (recovery reached).2) program state := by
  have thrown : ∀ problem reached, ∃ last,
      (recovery >>= fun _ =>
          (throw (report problem) : Program State Error Value))
        reached = (.error last, (recovery reached).2) := by
    intro problem reached
    rw [bind_apply]
    rcases recovery reached with ⟨failure | value, left⟩
    · exact ⟨failure, rfl⟩
    · exact ⟨report problem, rfl⟩
  constructor
  · intro throws problem reached run
    obtain ⟨last, rest⟩ := thrown problem reached
    exact throws last _ ((handle_of_error run _).trans rest)
  · intro throws problem reached run
    rcases shape : program state with ⟨failure | value, middle⟩
    · obtain ⟨last, rest⟩ := thrown failure middle
      rw [handle_of_error shape, rest] at run
      cases run
      exact throws _ _ shape
    · rw [handle_of_ok shape] at run
      cases run

theorem throwsInto_cleanUp
    {cleanup : State → State} :
    ThrowsInto good (program.cleanUp cleanup) state ↔
      ThrowsInto (fun reached => good (cleanup reached)) program state := by
  constructor
  · intro throws problem reached run
    exact throws problem _ (by rw [cleanUp, run])
  · intro throws problem reached run
    rw [cleanUp, Prod.mk.injEq] at run
    obtain ⟨ended, rfl⟩ := run
    exact throws problem (program state).2 (Prod.ext ended rfl)

theorem Keeps.throwsInto
    (kept : Keeps good program) (holds : good state) :
    ThrowsInto good program state := by
  intro problem reached run
  have last := kept.reached holds
  rw [run] at last
  exact last

end Throws

def ReadOnly (program : Program State Error Value) : Prop :=
  ∀ state, (program state).2 = state

section ReadOnly

theorem readOnly_pure (value : Value) :
    ReadOnly (pure value : Program State Error Value) :=
  fun _ => rfl

theorem readOnly_get : ReadOnly (get : Program State Error State) :=
  fun _ => rfl

theorem readOnly_lift (outcome : Except Error Value) :
    ReadOnly (lift outcome : Program State Error Value) :=
  fun _ => rfl

theorem ReadOnly.bind
    (first : ReadOnly program) (second : ∀ value, ReadOnly (next value)) :
    ReadOnly (program >>= next) := by
  intro state
  have same := first state
  rw [bind_apply]
  generalize program state = result at same ⊢
  obtain ⟨outcome, reached⟩ := result
  cases outcome with
  | error problem => exact same
  | ok value => exact (second value reached).trans same

theorem ReadOnly.lift_bind
    (second : ∀ value, ReadOnly (next value)) :
    ReadOnly (lift outcome >>= next) :=
  (readOnly_lift outcome).bind second

theorem ReadOnly.keeps {invariant : State → Prop}
    (readOnly : ReadOnly program) :
    Keeps invariant program := by
  intro state holds
  have same := readOnly state
  generalize program state = result at same ⊢
  obtain ⟨outcome, reached⟩ := result
  subst same
  cases outcome <;> exact holds

theorem ReadOnly.bind_eq_ok
    {result : Result}
    {state final : State} (readOnly : ReadOnly program) :
    (program >>= next) state = (.ok result, final) ↔
      ∃ value, program state = (.ok value, state) ∧
        next value state = (.ok result, final) := by
  rw [Program.bind_eq_ok]
  have same := readOnly state
  constructor
  · rintro ⟨value, reached, run, rest⟩
    rw [run] at same
    subst same
    exact ⟨value, run, rest⟩
  · rintro ⟨value, run, rest⟩
    exact ⟨value, state, run, rest⟩

theorem ReadOnly.bind_reached
    {state : State} (readOnly : ReadOnly program) :
    ((program >>= next) state).2 = state ∨
      ∃ value, program state = (.ok value, state) ∧
        (program >>= next) state = next value state := by
  have same := readOnly state
  rw [bind_apply]
  generalize program state = result at same ⊢
  obtain ⟨outcome, reached⟩ := result
  subst same
  cases outcome with
  | error problem => exact .inl rfl
  | ok value => exact .inr ⟨value, rfl, rfl⟩

theorem ReadOnly.throwsInto_bind
    {good : State → Prop} {state : State} (readOnly : ReadOnly program)
    (holds : good state) :
    ThrowsInto good (program >>= next) state ↔
      ∀ value, program state = (.ok value, state) →
        ThrowsInto good (next value) state := by
  rw [Program.throwsInto_bind]
  have same := readOnly state
  constructor
  · rintro ⟨-, rest⟩ value run
    exact rest value state run
  · intro rest
    constructor
    · intro problem reached run
      rw [run] at same
      subst same
      exact holds
    · intro value reached run
      rw [run] at same
      subst same
      exact rest value run

end ReadOnly

/-- A thrown error leaves the state as it was. -/
def Atomic (program : Program State Error Value) : Prop :=
  ∀ state problem reached,
    program state = (.error problem, reached) → reached = state

theorem ReadOnly.atomic
    (readOnly : ReadOnly program) : Atomic program := by
  intro state problem reached run
  have same := readOnly state
  rw [run] at same
  exact same

theorem ReadOnly.bind_atomic
    (first : ReadOnly program) (second : ∀ value, Atomic (next value)) :
    Atomic (program >>= next) := by
  intro state problem reached run
  have same := first state
  rw [bind_apply] at run
  rcases shape : program state with ⟨failure | value, middle⟩
  · rw [shape] at run same
    cases run
    exact same
  · rw [shape] at run same
    subst same
    exact second value _ _ _ run

theorem Atomic.throwsInto_iff
    {good : State → Prop} {state : State} (atomic : Atomic program) :
    ThrowsInto good program state ↔
      ((∃ value reached, program state = (.ok value, reached)) ∨
        good state) := by
  rcases run : program state with ⟨failure | value, reached⟩
  · have same := atomic _ _ _ run
    subst same
    constructor
    · exact fun throws => .inr (throws failure _ run)
    · rintro (⟨value, other, absurdity⟩ | holds) problem other again
      · cases absurdity
      · rw [run] at again
        cases again
        exact holds
  · refine iff_of_true (fun problem other again => ?_)
      (.inl ⟨value, reached, rfl⟩)
    rw [run] at again
    cases again

/-- The program ends normally from this state. -/
def Ends (program : Program State Error Value) (state : State) : Prop :=
  ∃ value reached, program state = (.ok value, reached)

section Ends

variable {state : State}

theorem ends_pure (value : Value) :
    Ends (pure value : Program State Error Value) state :=
  ⟨value, state, rfl⟩

theorem not_ends_throw (problem : Error) :
    ¬ Ends (throw problem : Program State Error Value) state := by
  rintro ⟨value, reached, run⟩
  cases run

theorem ends_update (change : State → State) :
    Ends (update change : Program State Error PUnit) state :=
  ⟨⟨⟩, change state, rfl⟩

theorem ends_lift :
    Ends (lift outcome : Program State Error Value) state ↔
      ∃ value, outcome = .ok value := by
  constructor
  · rintro ⟨value, reached, run⟩
    exact ⟨value, (Prod.mk.inj run).1⟩
  · rintro ⟨value, rfl⟩
    exact ⟨value, state, rfl⟩

theorem ends_bind
    :
    Ends (program >>= next) state ↔
      ∃ value reached, program state = (.ok value, reached) ∧
        Ends (next value) reached := by
  constructor
  · rintro ⟨result, final, run⟩
    obtain ⟨value, reached, first, rest⟩ := bind_eq_ok.mp run
    exact ⟨value, reached, first, result, final, rest⟩
  · rintro ⟨value, reached, first, result, final, rest⟩
    exact ⟨result, final, bind_eq_ok.mpr ⟨value, reached, first, rest⟩⟩

variable {condition : Prop}

theorem ends_bind_of_forall
    (rest : ∀ value reached, Ends (next value) reached ↔ condition) :
    Ends (program >>= next) state ↔ Ends program state ∧ condition := by
  rw [ends_bind]
  simp only [rest]
  constructor
  · rintro ⟨value, reached, run, holds⟩
    exact ⟨⟨value, reached, run⟩, holds⟩
  · rintro ⟨⟨value, reached, run⟩, holds⟩
    exact ⟨value, reached, run, holds⟩

theorem ends_update_bind {change : State → State}
    {next : PUnit → Program State Error Result} :
    Ends (update change >>= next) state ↔
      Ends (next ⟨⟩) (change state) := Iff.rfl

theorem ends_get_bind {next : State → Program State Error Result} :
    Ends (get >>= next) state ↔ Ends (next state) state := Iff.rfl

theorem ends_lift_bind
    :
    Ends (lift outcome >>= next) state ↔
      ∃ value, outcome = .ok value ∧ Ends (next value) state := by
  unfold Ends
  simp only [lift_bind_eq_ok]
  constructor
  · rintro ⟨result, final, value, ended, run⟩
    exact ⟨value, ended, result, final, run⟩
  · rintro ⟨value, ended, result, final, run⟩
    exact ⟨result, final, value, ended, run⟩

theorem ends_recover
    {recovery : Program State Error Result} {report : Error → Error} :
    Ends (handle program fun problem => recovery >>= fun _ =>
        throw (report problem)) state ↔ Ends program state := by
  unfold Ends
  simp only [recover_eq_ok]

/-- Where an invariant decides whether a state is good, a program that keeps it
throws into good states exactly when it ends or the invariant says so. -/
theorem Keeps.throwsInto_iff
    {invariant good : State → Prop}
    (kept : Keeps invariant program)
    (holds : invariant state)
    (decides : ∀ reached, invariant reached → (good reached ↔ condition)) :
    ThrowsInto good program state ↔
      (¬ Ends program state → condition) := by
  have last := kept.reached holds
  rcases run : program state with ⟨failure | value, reached⟩
  · rw [run] at last
    constructor
    · exact fun throws _ => (decides reached last).mp (throws failure _ run)
    · intro otherwise problem other again
      have same := Prod.mk.inj (run.symm.trans again)
      rw [← same.2]
      refine (decides reached last).mpr (otherwise ?_)
      rintro ⟨value, final, ended⟩
      rw [run] at ended
      cases ended
  · refine iff_of_true (fun problem other again => ?_)
      fun stuck => absurd ⟨value, reached, run⟩ stuck
    rw [run] at again
    cases again

theorem throwsInto_const
    :
    ThrowsInto (fun _ => condition) program state ↔
      (¬ Ends program state → condition) := by
  have kept : Keeps (fun _ => True) program := triple_true program
  exact kept.throwsInto_iff trivial fun _ _ => Iff.rfl

end Ends

/-- A loop whose body changes the state in a known way changes it by folding
the changes. -/
theorem forEach_eq_foldl {Item : Type u} {items : List Item}
    {body : Item → Program State Error PUnit}
    {change : State → Item → State} {good : Item → Prop}
    {state final : State}
    (each : ∀ item ∈ items, ∀ before reached,
      body item before = (.ok ⟨⟩, reached) →
        good item ∧ reached = change before item)
    (run : forEach items body state = (.ok ⟨⟩, final)) :
    (∀ item ∈ items, good item) ∧ final = items.foldl change state := by
  induction items generalizing state with
  | nil =>
      cases run
      exact ⟨fun item member => absurd member List.not_mem_nil, rfl⟩
  | cons item rest ih =>
      obtain ⟨_, reached, first, later⟩ := bind_eq_ok.mp run
      obtain ⟨holds, rfl⟩ := each item List.mem_cons_self state reached first
      obtain ⟨others, last⟩ := ih
        (fun other member => each other (List.mem_cons_of_mem item member))
        later
      refine ⟨?_, last⟩
      intro other member
      rcases List.mem_cons.mp member with rfl | present
      · exact holds
      · exact others other present

theorem keeps_foldlM {Item Memory : Type u} {invariant : State → Prop}
    {items : List Item} {body : Memory → Item → Program State Error Memory}
    (each : ∀ memory, ∀ item ∈ items, Keeps invariant (body memory item))
    (memory : Memory) : Keeps invariant (items.foldlM body memory) := by
  induction items generalizing memory with
  | nil => exact keeps_pure memory
  | cons item rest ih =>
      have later := ih fun other name member =>
        each other name (List.mem_cons_of_mem item member)
      rw [List.foldlM_cons]
      exact (each memory item List.mem_cons_self).bind later

theorem focus_eq_ok {Whole : Type u} {part : Whole → State}
    {replace : Whole → State → Whole}
    {whole final : Whole} :
    focus part replace program whole = (.ok value, final) ↔
      ∃ reached, program (part whole) = (.ok value, reached) ∧
        final = replace whole reached := by
  unfold focus
  rcases program (part whole) with ⟨outcome, reached⟩
  constructor
  · intro run
    obtain ⟨ended, rfl⟩ := Prod.mk.inj run
    exact ⟨reached, by rw [← ended], rfl⟩
  · rintro ⟨other, run, rfl⟩
    obtain ⟨ended, rfl⟩ := Prod.mk.inj run
    rw [← ended]

end Program

end GravitPanel
