import Mathlib.Data.List.Basic
import Mathlib.Data.List.Perm.Basic

/-!
# Executions of partial step functions

A component is described by a step function `State → Event → Option (State ×
List Output)`: an event that the state does not enable has no result, and an
enabled one yields the next state together with the outputs the step made
visible.  Everything that has to hold over a whole run is proved through the
induction rules of this module, so that a model only supplies the statement
about one step.
-/

namespace GravitPanel.Execution

universe u v w m

section Execute

variable {State : Type u} {Event : Type v} {Output : Type w}

/-- Run a list of events from a state, collecting the outputs in order. -/
def execute (step : State → Event → Option (State × List Output)) :
    State → List Event → Option (State × List Output)
  | state, [] => some (state, [])
  | state, event :: rest =>
      match step state event with
      | none => none
      | some (next, outputs) =>
          match execute step next rest with
          | none => none
          | some (final, later) => some (final, outputs ++ later)

variable {step : State → Event → Option (State × List Output)}
variable {condition : State → Event → Prop} {outputs : List Output}
variable {state final : State} {events : List Event}

theorem execute_cons_eq_some
    {event : Event} {rest : List Event}
    (run : execute step state (event :: rest) = some (final, outputs)) :
    ∃ next now later,
      step state event = some (next, now) ∧
        execute step next rest = some (final, later) ∧
          outputs = now ++ later := by
  simp only [execute] at run
  split at run
  · cases run
  · rename_i next now stepEquality
    split at run
    · cases run
    · rename_i last later restEquality
      simp only [Option.some.injEq, Prod.mk.injEq] at run
      obtain ⟨rfl, rfl⟩ := run
      exact ⟨next, now, later, stepEquality, restEquality, rfl⟩

theorem execute_append_eq_some
    {first second : List Event}
    (run : execute step state (first ++ second) = some (final, outputs)) :
    ∃ middle before after,
      execute step state first = some (middle, before) ∧
        execute step middle second = some (final, after) ∧
          outputs = before ++ after := by
  induction first generalizing state outputs with
  | nil => exact ⟨state, [], outputs, rfl, run, rfl⟩
  | cons event rest ih =>
      obtain ⟨next, now, later, stepEquality, restRun, rfl⟩ :=
        execute_cons_eq_some run
      obtain ⟨middle, before, after, firstRun, secondRun, rfl⟩ :=
        ih restRun
      refine ⟨middle, now ++ before, after, ?_, secondRun, ?_⟩
      · simp [execute, stepEquality, firstRun]
      · simp

/-- Every step of the run meets `condition` in the state it starts from. -/
def Meets
    (step : State → Event → Option (State × List Output))
    (condition : State → Event → Prop) : State → List Event → Prop
  | _, [] => True
  | state, event :: rest =>
      condition state event ∧
        ∀ next outputs, step state event = some (next, outputs) →
          Meets step condition next rest

theorem meets_cons
    {state : State} {event : Event}
    {rest : List Event} :
    Meets step condition state (event :: rest) ↔
      condition state event ∧
        ∀ result ∈ (step state event).map Prod.fst,
          Meets step condition result rest := by
  simp only [Meets, Option.mem_def, Option.map_eq_some_iff, Prod.exists]
  constructor
  · rintro ⟨holds, later⟩
    refine ⟨holds, ?_⟩
    rintro result ⟨next, outputs, equality, rfl⟩
    exact later next outputs equality
  · rintro ⟨holds, later⟩
    exact ⟨holds, fun next outputs equality =>
      later next ⟨next, outputs, equality, rfl⟩⟩

theorem Meets.and
    {first second : State → Event → Prop} :
    ∀ {events : List Event} {state : State},
      Meets step first state events → Meets step second state events →
        Meets step (fun state event => first state event ∧ second state event)
          state events
  | [], _, _, _ => trivial
  | _ :: _, _, firstMeets, secondMeets =>
      ⟨⟨firstMeets.1, secondMeets.1⟩, fun next outputs equality =>
        (firstMeets.2 next outputs equality).and
          (secondMeets.2 next outputs equality)⟩

theorem Meets.mono
    {first second : State → Event → Prop}
    (weaker : ∀ state event, first state event → second state event) :
    ∀ {events : List Event} {state : State},
      Meets step first state events → Meets step second state events
  | [], _, _ => trivial
  | _ :: _, _, meets =>
      ⟨weaker _ _ meets.1, fun next outputs equality =>
        (meets.2 next outputs equality).mono weaker⟩

theorem Meets.append
    {state middle : State} {first second : List Event}
    (meets : Meets step condition state (first ++ second))
    (run : execute step state first = some (middle, outputs)) :
    Meets step condition state first ∧
      Meets step condition middle second := by
  induction first generalizing state outputs with
  | nil =>
      cases run
      exact ⟨trivial, meets⟩
  | cons event rest ih =>
      obtain ⟨next, now, later, stepEquality, restRun, rfl⟩ :=
        execute_cons_eq_some run
      have remaining := meets.2 next now stepEquality
      have parts := ih remaining restRun
      refine ⟨⟨meets.1, ?_⟩, parts.2⟩
      intro other outputs equality
      cases stepEquality.symm.trans equality
      exact parts.1

/-- Whether a run meets a decidable condition can be computed. -/
instance decidableMeets
    {condition : State → Event → Prop}
    [∀ state event, Decidable (condition state event)] :
    ∀ (state : State) (events : List Event),
      Decidable (Meets step condition state events)
  | _, [] => .isTrue trivial
  | state, event :: rest =>
      match equality : (step state event).map Prod.fst with
      | none =>
          decidable_of_iff (condition state event) (by
            rw [meets_cons, equality]
            simp)
      | some next =>
          have : Decidable (Meets step condition next rest) :=
            decidableMeets next rest
          decidable_of_iff
            (condition state event ∧ Meets step condition next rest) (by
              rw [meets_cons, equality]
              simp)

/-- Induction along the rest of a run whose steps all meet a condition: the
motive relates the state reached to the outputs made so far. -/
theorem execute_induction_from
    {condition : State → Event → Prop}
    {motive : State → List Output → Prop}
    (advance : ∀ state past event next now,
      motive state past →
      condition state event →
      step state event = some (next, now) →
      motive next (past ++ now)) :
    ∀ {events : List Event} {state final : State}
      {past outputs : List Output},
      motive state past →
      Meets step condition state events →
      execute step state events = some (final, outputs) →
      motive final (past ++ outputs)
  | [], state, final, past, outputs, holds, _, run => by
      simp only [execute, Option.some.injEq, Prod.mk.injEq] at run
      obtain ⟨rfl, rfl⟩ := run
      simpa using holds
  | event :: rest, state, final, past, outputs, holds, meets, run => by
      obtain ⟨next, now, later, stepEquality, restRun, rfl⟩ :=
        execute_cons_eq_some run
      have advanced :=
        advance state past event next now holds meets.1 stepEquality
      have finished :=
        execute_induction_from advance advanced
          (meets.2 next now stepEquality) restRun
      simpa [List.append_assoc] using finished

theorem execute_induction_of_meets
    {condition : State → Event → Prop}
    {motive : State → List Output → Prop}
    (advance : ∀ state past event next now,
      motive state past →
      condition state event →
      step state event = some (next, now) →
      motive next (past ++ now))
    {events : List Event} {state final : State} {outputs : List Output}
    (start : motive state [])
    (meets : Meets step condition state events)
    (run : execute step state events = some (final, outputs)) :
    motive final outputs := by
  have finished := execute_induction_from advance start meets run
  simpa using finished

theorem meets_true (state : State) (events : List Event) :
    Meets step (fun _ _ => True) state events := by
  induction events generalizing state with
  | nil => trivial
  | cons event rest ih =>
      exact ⟨trivial, fun next _ _ => ih next⟩

theorem meets_of_forall
    {condition : Event → Prop}
    (holds : ∀ event ∈ events, condition event) (state : State) :
    Meets step (fun _ event => condition event) state events := by
  induction events generalizing state with
  | nil => trivial
  | cons event rest ih =>
      refine ⟨holds event List.mem_cons_self, fun next _ _ => ?_⟩
      exact ih
        (fun other member => holds other (List.mem_cons_of_mem _ member))
        next

theorem execute_induction
    {motive : State → List Output → Prop}
    (advance : ∀ state past event next now,
      motive state past →
      step state event = some (next, now) →
      motive next (past ++ now))
    (start : motive state [])
    (run : execute step state events = some (final, outputs)) :
    motive final outputs :=
  execute_induction_of_meets
    (fun state past event next now holds _ =>
      advance state past event next now holds)
    start (meets_true state events) run

/-- A run passes only through states with a property exactly if its steps meet
a condition: they keep an invariant that implies the property, and a step from
the invariant to a state with the property meets the condition. -/
theorem passes_iff_meets
    {holds invariant : State → Prop}
    (property : ∀ state, invariant state → holds state)
    (keeps : ∀ state event next now,
      invariant state → step state event = some (next, now) →
        condition state event → invariant next)
    (needs : ∀ state event next now,
      invariant state → step state event = some (next, now) →
        holds next → condition state event)
    (start : invariant state)
    (run : execute step state events = some (final, outputs)) :
    (∀ passed rest reached made, events = passed ++ rest →
        execute step state passed = some (reached, made) → holds reached) ↔
      Meets step condition state events := by
  constructor
  · intro always
    induction events generalizing state outputs with
    | nil => trivial
    | cons event rest ih =>
        obtain ⟨next, now, later, stepEquality, restRun, rfl⟩ :=
          execute_cons_eq_some run
        have single : execute step state [event] = some (next, now) := by
          simp [execute, stepEquality]
        have met : condition state event :=
          needs state event next now start stepEquality
            (always [event] rest next now rfl single)
        refine ⟨met, fun other also equality => ?_⟩
        cases stepEquality.symm.trans equality
        refine ih
          (keeps state event next now start stepEquality met) restRun ?_
        intro passed remaining reached made split passedRun
        refine always (event :: passed) remaining reached (now ++ made)
          (by rw [split, List.cons_append]) ?_
        simp [execute, stepEquality, passedRun]
  · rintro meets passed rest reached made rfl passedRun
    refine property reached ?_
    exact execute_induction_of_meets
      (motive := fun state _ => invariant state)
      (fun state _ event next now holdsNow met equality =>
        keeps state event next now holdsNow equality met)
      start (meets.append passedRun).1 passedRun

/-- Where the outputs of a step have a property exactly if the step meets a
condition, the same holds of runs. -/
theorem outputs_iff_meets
    {holds : Output → Prop}
    (exact_step : ∀ state event next now,
      step state event = some (next, now) →
        ((∀ output ∈ now, holds output) ↔ condition state event))
    (run : execute step state events = some (final, outputs)) :
    (∀ output ∈ outputs, holds output) ↔ Meets step condition state events := by
  induction events generalizing state outputs with
  | nil =>
      cases run
      exact iff_of_true (fun _ absent => absurd absent List.not_mem_nil)
        trivial
  | cons event rest ih =>
      obtain ⟨next, now, later, stepEquality, restRun, rfl⟩ :=
        execute_cons_eq_some run
      rw [List.forall_mem_append,
        exact_step state event next now stepEquality,
        ih restRun, Meets]
      refine and_congr_right fun _ => ⟨?_, fun meets =>
        meets next now stepEquality⟩
      intro meets other also equality
      cases stepEquality.symm.trans equality
      exact meets

end Execute

/-- The item at an index, and the items without it. -/
def takeAt {Item : Type u} (items : List Item) (index : Nat) :
    Option (Item × List Item) :=
  items[index]?.map fun item => (item, items.eraseIdx index)

theorem takeAt_perm {Item : Type u} {items rest : List Item} {index : Nat}
    {item : Item} (taken : takeAt items index = some (item, rest)) :
    items.Perm (item :: rest) := by
  obtain ⟨found, located, same⟩ := Option.map_eq_some_iff.mp taken
  cases same
  obtain ⟨inside, rfl⟩ := List.getElem?_eq_some_iff.mp located
  exact (List.getElem_cons_eraseIdx_perm inside).symm

/-- An abstract automaton that reads outputs: what it remembers and which
outputs it allows next. -/
structure Monitor (Output : Type w) (Memory : Type m) where
  next : Memory → Output → Memory
  allows : Memory → Output → Prop

namespace Monitor

variable {Output : Type w} {Memory : Type m}

/-- What the monitor remembers after reading a list of outputs. -/
def after (monitor : Monitor Output Memory)
    (memory : Memory) (outputs : List Output) : Memory :=
  outputs.foldl monitor.next memory

/-- Every output of the list is allowed at the moment it is read. -/
def Accepts (monitor : Monitor Output Memory) :
    Memory → List Output → Prop
  | _, [] => True
  | memory, output :: rest =>
      monitor.allows memory output ∧
        monitor.Accepts (monitor.next memory output) rest

@[simp]
theorem after_nil (monitor : Monitor Output Memory) (memory : Memory) :
    monitor.after memory [] = memory := rfl

@[simp]
theorem after_cons (monitor : Monitor Output Memory)
    (memory : Memory) (output : Output) (rest : List Output) :
    monitor.after memory (output :: rest) =
      monitor.after (monitor.next memory output) rest := rfl

@[simp]
theorem after_append (monitor : Monitor Output Memory)
    (memory : Memory) (first second : List Output) :
    monitor.after memory (first ++ second) =
      monitor.after (monitor.after memory first) second := by
  simp [after, List.foldl_append]

@[simp]
theorem accepts_append (monitor : Monitor Output Memory)
    (memory : Memory) (first second : List Output) :
    monitor.Accepts memory (first ++ second) ↔
      monitor.Accepts memory first ∧
        monitor.Accepts (monitor.after memory first) second := by
  induction first generalizing memory with
  | nil => simp [Accepts]
  | cons output rest ih =>
      simp [Accepts, ih, and_assoc]

/-- An accepted list allows each of its outputs in the memory that the outputs
before it leave. -/
theorem Accepts.allows_at
    {monitor : Monitor Output Memory} {memory : Memory}
    {outputs before after : List Output} {output : Output}
    (accepted : monitor.Accepts memory outputs)
    (split : outputs = before ++ output :: after) :
    monitor.allows (monitor.after memory before) output := by
  subst split
  rw [accepts_append] at accepted
  exact accepted.2.1

end Monitor

end GravitPanel.Execution
