import Mathlib.Data.List.AList
import Mathlib.Data.Finset.Basic
import GravitPanel.Core.Program

/-!
# The job tables

`jobs.store.ts`: the rows of `jobs` and `job_events`, and the programs that read
and write them.  Every access to the database may throw; which accesses of a
step do is part of what the step is given.
-/

namespace GravitPanel.Jobs

inductive JobStatus where
  | queued
  | running
  | succeeded
  | failed
  | cancelled
  deriving DecidableEq, Repr

/-- `queued` and `running`, the statuses that `cancel` and the restart act
on. -/
def JobStatus.active (status : JobStatus) : Prop :=
  status = .queued ∨ status = .running

instance (status : JobStatus) : Decidable status.active :=
  inferInstanceAs (Decidable (_ ∨ _))

inductive JobEventType where
  | queued
  | started
  | progress
  | log
  | completed
  | failed
  | cancelled
  deriving DecidableEq, Repr

/-- A value of the two progress columns, as their `CHECK` constraint admits
it. -/
structure Progress where
  value : Int
  valid : 0 ≤ value ∧ value ≤ 100
  deriving DecidableEq, Repr

namespace Progress

def none : Progress := ⟨0, by decide⟩

def full : Progress := ⟨100, by decide⟩

/-- The constraint on a value that a task reports. -/
def check (value : Int) : Option Progress :=
  if valid : 0 ≤ value ∧ value ≤ 100 then some ⟨value, valid⟩ else .none

end Progress

/-- The input of a job: the field that the conflict check reads, and the rest
as JSON. -/
structure JobInput where
  installationId : Option String
  fields : String
  deriving DecidableEq, Repr

structure JobRecord where
  id : String
  type : String
  status : JobStatus
  progress : Progress
  input : JobInput
  result : Option String
  error : Option String
  createdAt : String
  startedAt : Option String
  finishedAt : Option String
  deriving DecidableEq, Repr

structure JobEvent where
  sequence : Nat
  jobId : String
  type : JobEventType
  message : String
  progress : Option Progress
  createdAt : String
  deriving DecidableEq, Repr

structure JobsStore where
  jobs : List JobRecord
  events : List JobEvent
  sequence : Nat
  deriving DecidableEq, Repr

namespace JobsStore

def empty : JobsStore := ⟨[], [], 0⟩

def get (store : JobsStore) (id : String) : Option JobRecord :=
  store.jobs.find? fun job => job.id = id

def listByStatuses
    (store : JobsStore) (statuses : List JobStatus) : List JobRecord :=
  store.jobs.filter fun job => job.status ∈ statuses

def listEvents (store : JobsStore) (jobId : String) : List JobEvent :=
  store.events.filter fun event => event.jobId = jobId

def insert (store : JobsStore) (job : JobRecord) : JobsStore :=
  { store with jobs := store.jobs ++ [job] }

def replace (store : JobsStore) (job : JobRecord) : JobsStore :=
  { store with
    jobs := store.jobs.map fun row => if row.id = job.id then job else row }

def append
    (store : JobsStore) (jobId : String) (type : JobEventType)
    (message : String) (progress : Option Progress) (createdAt : String) :
    JobsStore :=
  { store with
    events := store.events ++
      [⟨store.sequence + 1, jobId, type, message, progress, createdAt⟩]
    sequence := store.sequence + 1 }

end JobsStore

/-- How far a call of `runJob` is: the task's promise is awaited, or the call's
own promise is settled. -/
inductive Phase where
  | awaiting
  | returned
  | rejected
  deriving DecidableEq, Repr

/-- A call of `runJob`, with the abort signal of its controller; `queue` is the
key of the drain that awaits it. -/
structure RunCall where
  jobId : String
  queue : Option String
  aborted : Bool
  called : Bool
  phase : Phase
  deriving DecidableEq, Repr

/-- A microtask of the runner, or a drain that awaits a call of `runJob`. -/
inductive Thread where
  | runScheduled (jobId : String)
  | drainScheduled (queueKey : String)
  | drainAwaits (queueKey : String) (run : Nat)
  deriving DecidableEq, Repr

/-- The fields of the runner and the calls that its process has open; a restart
loses them. -/
structure Memory where
  running : AList fun _ : String => Nat
  cancelled : Finset String
  queues : AList fun _ : String => List String
  runs : List RunCall
  threads : List Thread
  deriving DecidableEq

def Memory.empty : Memory := ⟨∅, ∅, ∅, [], []⟩

/-- The accesses of a step that throw, in order, before and inside the `catch`
block of `runJob`; accesses beyond the lists succeed. -/
structure Faults where
  body : List Bool
  handler : List Bool
  deriving DecidableEq, Repr

structure JobsRunner where
  store : JobsStore
  memory : Memory
  faults : Faults
  deriving DecidableEq

abbrev JobsProgram (Value : Type) := Program JobsRunner String Value

open Program

def access : JobsProgram Unit := fun runner =>
  match runner.faults.body with
  | [] => (.ok (), runner)
  | throws :: rest =>
      (if throws then .error "access failed" else .ok (),
        { runner with faults := { runner.faults with body := rest } })

def updateStore (change : JobsStore → JobsStore) : JobsProgram Unit :=
  update fun runner => { runner with store := change runner.store }

def updateMemory (change : Memory → Memory) : JobsProgram Unit :=
  update fun runner => { runner with memory := change runner.memory }

def createRow
    (id type : String) (input : JobInput) (now : String) :
    JobsProgram JobRecord := do
  let job : JobRecord :=
    { id, type, status := .queued, progress := .none, input
      result := none, error := none, createdAt := now, startedAt := none
      finishedAt := none }
  access
  updateStore fun store => store.insert job
  pure job

def getRow (id : String) : JobsProgram (Option JobRecord) := do
  access
  let runner ← get
  pure (runner.store.get id)

def updateRow
    (id : String) (values : JobRecord → JobRecord) :
    JobsProgram JobRecord := do
  let current ← getRow id
  match current with
  | none => throw ("Job " ++ id ++ " does not exist")
  | some current => do
      updateStore fun store => store.replace (values current)
      pure (values current)

def appendEvent
    (jobId : String) (type : JobEventType) (message : String)
    (progress : Option Progress) (now : String) : JobsProgram Unit := do
  access
  updateStore fun store => store.append jobId type message progress now

/-- `emit`: the event is stored first and then handed to the listeners, one of
which may throw. -/
def emit
    (jobId : String) (type : JobEventType) (message : String)
    (progress : Option Progress) (now : String) : JobsProgram Unit := do
  appendEvent jobId type message progress now
  access

end GravitPanel.Jobs
