import Mathlib.Data.List.Basic

/-!
# Actions that change a state and make outputs

A handler that runs to completion is an action: from a state it yields the next
state and the outputs it made, in order.  A triple relates what holds of the
state and the past outputs before an action to what holds afterwards, and an
invariant is a triple with one assertion.
-/

namespace GravitPanel

universe u v

def Action (State : Type u) (Output : Type v) : Type (max u v) :=
  State → State × List Output

namespace Action

variable {State : Type u} {Output : Type v}

def skip : Action State Output := fun state => (state, [])

def emit (output : Output) : Action State Output :=
  fun state => (state, [output])

def update (change : State → State) : Action State Output :=
  fun state => (change state, [])

def andThen (first second : Action State Output) : Action State Output :=
  fun state =>
    ((second (first state).1).1,
      (first state).2 ++ (second (first state).1).2)

/-- Run actions one after the other. -/
def all : List (Action State Output) → Action State Output
  | [] => skip
  | action :: rest => action.andThen (all rest)

@[simp]
theorem all_nil : all ([] : List (Action State Output)) = skip := rfl

@[simp]
theorem all_cons (action : Action State Output)
    (rest : List (Action State Output)) :
    all (action :: rest) = action.andThen (all rest) := rfl

theorem andThen_assoc (first second third : Action State Output) :
    (first.andThen second).andThen third =
      first.andThen (second.andThen third) := by
  funext state
  simp [andThen, List.append_assoc]

theorem andThen_skip (action : Action State Output) :
    action.andThen skip = action := by
  funext state
  simp [andThen, skip]

theorem skip_andThen (action : Action State Output) :
    skip.andThen action = action := by
  funext state
  simp [andThen, skip]

/-- If `before` holds of the state and the past outputs, `after` holds once the
action has run and its outputs are part of the past. -/
def Triple
    (before : State → List Output → Prop) (action : Action State Output)
    (after : State → List Output → Prop) : Prop :=
  ∀ state past, before state past →
    after (action state).1 (past ++ (action state).2)

def Keeps
    (invariant : State → List Output → Prop)
    (action : Action State Output) : Prop :=
  Triple invariant action invariant

variable {before middle after : State → List Output → Prop}
variable {action first second : Action State Output}

theorem triple_skip : Triple before skip before := by
  intro state past holds
  simpa [skip] using holds

theorem Triple.andThen
    (firstTriple : Triple before first middle)
    (secondTriple : Triple middle second after) :
    Triple before (first.andThen second) after := by
  intro state past holds
  have reached := secondTriple _ _ (firstTriple state past holds)
  simpa [Action.andThen, List.append_assoc] using reached

theorem Triple.weaken
    {stronger weaker : State → List Output → Prop}
    (triple : Triple before action after)
    (entails : ∀ state past, stronger state past → before state past)
    (implied : ∀ state past, after state past → weaker state past) :
    Triple stronger action weaker :=
  fun state past holds =>
    implied _ _ (triple state past (entails state past holds))

theorem keeps_all
    {invariant : State → List Output → Prop}
    {actions : List (Action State Output)}
    (each : ∀ action ∈ actions, Keeps invariant action) :
    Keeps invariant (all actions) := by
  induction actions with
  | nil => exact triple_skip
  | cons action rest ih =>
      have firstKeeps := each action List.mem_cons_self
      have restKeeps := ih fun other member =>
        each other (List.mem_cons_of_mem action member)
      exact firstKeeps.andThen restKeeps

end Action

end GravitPanel
