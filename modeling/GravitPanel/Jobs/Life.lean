import GravitPanel.Jobs.Store
import Mathlib.Logic.Relation

/-!
# The life of a job

What the tables tell about one job, and how it may go on: a job is created, is
worked on while it is active, and is closed once by an event that names its
final status.
-/

namespace GravitPanel.Jobs

/-- The row and the events of one job. -/
structure Life where
  row : Option JobRecord
  events : List JobEvent

def JobsStore.life (store : JobsStore) (id : String) : Life :=
  ⟨store.get id, store.listEvents id⟩

/-- The final status that an event announces. -/
def JobEventType.closes : JobEventType → Option JobStatus
  | .completed => some .succeeded
  | .failed => some .failed
  | .cancelled => some .cancelled
  | _ => none

/-- The final statuses that the events of a job announce, in order. -/
def closings (events : List JobEvent) : List JobStatus :=
  events.filterMap fun event => event.type.closes

def Life.status (life : Life) : Option JobStatus :=
  life.row.map JobRecord.status

/-- The row has one of the three final statuses. -/
def Life.Ended (life : Life) : Prop :=
  ∃ row, life.row = some row ∧ ¬ row.status.active

/-- One step in the life of a job.  A remark on a job that has ended needs a
late caller. -/
inductive LifeStep (late : Prop) : Life → Life → Prop where
  | stay (life) : LifeStep late life life
  | create (job) (event) (queued : job.status = .queued)
      (open_ : event.type.closes = none) :
      LifeStep late ⟨none, []⟩ ⟨some job, [event]⟩
  | work (row changed) (events) (event) (active : row.status.active)
      (running : changed.status = .running ∨ changed.status = row.status)
      (input : changed.input = row.input)
      (open_ : event.type.closes = none) :
      LifeStep late ⟨some row, events⟩ ⟨some changed, events ++ [event]⟩
  | close (row changed) (events) (event) (active : row.status.active)
      (closes : event.type.closes = some changed.status)
      (ended : ¬ changed.status.active)
      (input : changed.input = row.input) :
      LifeStep late ⟨some row, events⟩ ⟨some changed, events ++ [event]⟩
  | remark (row changed) (events) (event) (allowed : late)
      (same : changed.status = row.status)
      (input : changed.input = row.input)
      (open_ : event.type.closes = none) :
      LifeStep late ⟨some row, events⟩ ⟨some changed, events ++ [event]⟩

/-- The events of a job announce its final status once it is reached, and
nothing before. -/
structure Life.WellFormed (life : Life) : Prop where
  absent : life.row = none → life.events = []
  active : ∀ row, life.row = some row → row.status.active →
    closings life.events = []
  ended : ∀ row, life.row = some row → ¬ row.status.active →
    closings life.events = [row.status]

/-- The last event of a job that has ended announces its status. -/
def Life.LastCloses (life : Life) : Prop :=
  ∀ row, life.row = some row → ¬ row.status.active →
    ∃ earlier event, life.events = earlier ++ [event] ∧
      event.type.closes = some row.status

section Events

variable {event : JobEvent} {events : List JobEvent}

theorem closings_open (open_ : event.type.closes = none) :
    closings (events ++ [event]) = closings events := by
  simp [closings, open_]

theorem closings_close {status : JobStatus}
    (closes : event.type.closes = some status) :
    closings (events ++ [event]) = closings events ++ [status] := by
  simp [closings, closes]

end Events

section Step

variable {late : Prop} {life next : Life}

theorem LifeStep.status (stepped : LifeStep late life next)
    {row : JobRecord} (found : life.row = some row)
    (ended : ¬ row.status.active) :
    ∃ changed, next.row = some changed ∧ changed.status = row.status := by
  cases stepped with
  | stay => exact ⟨row, found, rfl⟩
  | create job event queued open_ => cases found
  | work before changed events event active running input open_ =>
      cases found
      exact absurd active ended
  | close before changed events event active closes _ =>
      cases found
      exact absurd active ended
  | remark before changed events event allowed same input open_ =>
      cases found
      exact ⟨changed, rfl, same⟩

theorem LifeStep.ended (stepped : LifeStep late life next)
    (punctual : ¬ late) (ended : life.Ended) : next = life := by
  obtain ⟨row, found, final⟩ := ended
  cases stepped with
  | stay => rfl
  | create job event queued open_ => cases found
  | work before changed events event active running input open_ =>
      cases found
      exact absurd active final
  | close before changed events event active closes _ =>
      cases found
      exact absurd active final
  | remark before changed events event allowed same input open_ =>
      exact absurd allowed punctual

theorem LifeStep.input (stepped : LifeStep late life next)
    {row : JobRecord} (found : life.row = some row) :
    ∃ changed, next.row = some changed ∧ changed.input = row.input := by
  cases stepped with
  | stay => exact ⟨row, found, rfl⟩
  | create job event queued open_ => cases found
  | work before changed events event active running input open_ =>
      cases found
      exact ⟨changed, rfl, input⟩
  | close before changed events event active closes _ input =>
      cases found
      exact ⟨changed, rfl, input⟩
  | remark before changed events event allowed same input open_ =>
      cases found
      exact ⟨changed, rfl, input⟩

theorem LifeStep.active (stepped : LifeStep late life next)
    {changed : JobRecord} (found : next.row = some changed)
    (active : changed.status.active) :
    life.row = none ∨ ∃ row, life.row = some row ∧ row.status.active := by
  cases stepped with
  | stay => exact .inr ⟨changed, found, active⟩
  | create job event queued open_ => exact .inl rfl
  | work row _ events event before => exact .inr ⟨row, rfl, before⟩
  | close row _ events event before => exact .inr ⟨row, rfl, before⟩
  | remark row _ events event allowed same =>
      cases found
      rw [same] at active
      exact .inr ⟨row, rfl, active⟩

theorem LifeStep.wellFormed (stepped : LifeStep late life next)
    (wellFormed : life.WellFormed) : next.WellFormed := by
  cases stepped with
  | stay => exact wellFormed
  | create job event queued open_ =>
      have active : job.status.active := .inl queued
      refine ⟨nofun, ?_, ?_⟩
      · intro row found _
        have single : closings ([] ++ [event]) = [] := closings_open open_
        exact single
      · intro row found ended
        cases found
        exact absurd active ended
  | work row changed events event active running input open_ =>
      have none_yet := wellFormed.active row rfl active
      have goes_on : changed.status.active := by
        rcases running with running | same
        · exact .inr running
        · rw [same]
          exact active
      refine ⟨nofun, ?_, ?_⟩
      · intro other found _
        exact (closings_open open_).trans none_yet
      · intro other found ended
        cases found
        exact absurd goes_on ended
  | close row changed events event active closes ended =>
      have none_yet := wellFormed.active row rfl active
      refine ⟨nofun, ?_, ?_⟩
      · intro other found active
        cases found
        exact absurd active ended
      · intro other found _
        cases found
        rw [closings_close closes, none_yet]
        rfl
  | remark row changed events event allowed same input open_ =>
      refine ⟨nofun, ?_, ?_⟩
      · intro other found active
        cases found
        rw [same] at active
        exact (closings_open open_).trans
          (wellFormed.active row rfl active)
      · intro other found ended
        cases found
        rw [same] at ended ⊢
        exact (closings_open open_).trans
          (wellFormed.ended row rfl ended)

theorem LifeStep.lastCloses (stepped : LifeStep late life next)
    (punctual : ¬ late) (closes : life.LastCloses) : next.LastCloses := by
  cases stepped with
  | stay => exact closes
  | create job event queued open_ =>
      intro row found ended
      cases found
      exact absurd (.inl queued) ended
  | work row changed events event active running input open_ =>
      intro other found ended
      cases found
      rcases running with running | same
      · exact absurd (.inr running) ended
      · rw [same] at ended
        exact absurd active ended
  | close row changed events event active announced ended =>
      intro other found _
      cases found
      exact ⟨events, event, rfl, announced⟩
  | remark row changed events event allowed same input open_ =>
      exact absurd allowed punctual

end Step

end GravitPanel.Jobs
