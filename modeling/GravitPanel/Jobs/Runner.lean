import GravitPanel.Jobs.Store

/-!
# The jobs runner

`jobs.runner.ts`.  A task is foreign code: the runner calls it, it may use its
context as often and as long as it likes, and its promise settles once or
never.  Between two events of a run only synchronous code of the runner has
run, up to the next `await`.
-/

namespace GravitPanel.Jobs

open Program

/-- How the promise of a task settles; `none` is a result that
`JSON.stringify` does not accept. -/
inductive TaskOutcome where
  | resolved (result : Option String)
  | rejected (message : String)
  deriving DecidableEq, Repr

/-- What a run shows beside the job tables: what was handed to the scheduler
and which tasks were called. -/
inductive Observation where
  | scheduled (jobId : String)
  | enqueued (queueKey jobId : String)
  | called (queue : Option String) (jobId : String)
  deriving DecidableEq, Repr

namespace Memory

def schedule (thread : Thread) (memory : Memory) : Memory :=
  { memory with threads := memory.threads ++ [thread] }

def dropThread (index : Nat) (memory : Memory) : Memory :=
  { memory with threads := memory.threads.eraseIdx index }

def changeRun
    (run : Nat) (change : RunCall → RunCall) (memory : Memory) : Memory :=
  { memory with runs := memory.runs.modify run change }

def abort (run : Nat) : Memory → Memory :=
  changeRun run fun call => { call with aborted := true }

/-- `controller.signal.aborted`. -/
def aborted (memory : Memory) (run : Nat) : Bool :=
  (memory.runs[run]?.map RunCall.aborted).getD false

/-- The `finally` block of `runJob`. -/
def release (jobId : String) (memory : Memory) : Memory :=
  { memory with
    running := memory.running.erase jobId
    cancelled := memory.cancelled.erase jobId }

/-- Put a job at the end of its queue. -/
def push (queueKey jobId : String) (memory : Memory) : Memory :=
  { memory with
    queues := memory.queues.insert queueKey
      ((memory.queues.lookup queueKey).getD [] ++ [jobId]) }

/-- Put a job into its queue; the first entry starts a drain. -/
def enqueue (queueKey jobId : String) (memory : Memory) : Memory :=
  let pushed := memory.push queueKey jobId
  if (pushed.queues.lookup queueKey).map List.length = some 1 then
    pushed.schedule (.drainScheduled queueKey)
  else
    pushed

end Memory

def create
    (id type : String) (input : JobInput) (queuedMessage now : String) :
    JobsProgram JobRecord := do
  let job ← createRow id type input now
  emit job.id .queued queuedMessage (some .none) now
  updateMemory (Memory.schedule (.runScheduled job.id))
  pure job

def createQueued
    (queueKey id type : String) (input : JobInput)
    (queuedMessage now : String) : JobsProgram JobRecord := do
  let job ← createRow id type input now
  emit job.id .queued queuedMessage (some .none) now
  updateMemory (Memory.enqueue queueKey job.id)
  pure job

/-- `controller?.abort(…)`. -/
def abortController (controller : Option Nat) : JobsProgram Unit :=
  match controller with
  | some controller => updateMemory (Memory.abort controller)
  | none => pure ()

/-- The row becomes `cancelled`, then its event is emitted. -/
def markCancelled (jobId now : String) : JobsProgram JobRecord := do
  let cancelled ← updateRow jobId fun job =>
    { job with status := .cancelled, error := none, finishedAt := some now }
  emit jobId .cancelled "Job cancelled by user" none now
  pure cancelled

/-- The row becomes `failed`, then its event is emitted. -/
def markFailed (jobId message now : String) : JobsProgram Unit := do
  let _ ← updateRow jobId fun job =>
    { job with
      status := .failed, error := some message, finishedAt := some now }
  emit jobId .failed message none now

/-- `cancel` for an active job that is not marked yet. -/
def requestCancellation
    (job : JobRecord) (jobId now : String) (controller : Option Nat) :
    JobsProgram (Option JobRecord) := do
  updateMemory fun memory =>
    { memory with cancelled := insert jobId memory.cancelled }
  abortController controller
  if job.status = .running then do
    emit jobId .log "Cancellation requested" none now
    pure (some job)
  else do
    let cancelled ← markCancelled jobId now
    pure (some cancelled)

def cancel (jobId now : String) : JobsProgram (Option JobRecord) := do
  let job ← getRow jobId
  match job with
  | none => pure none
  | some job =>
      let runner ← get
      if ¬ job.status.active then
        pure (some job)
      else if jobId ∈ runner.memory.cancelled then
        pure (some job)
      else
        requestCancellation job jobId now
          (runner.memory.running.lookup jobId)

/-- The `try` block of `runJob` up to the call of the task; `false` when it
returns before. -/
def startTask (run : Nat) (jobId now : String) : JobsProgram Bool := do
  let runner ← get
  if jobId ∈ runner.memory.cancelled then do
    updateMemory (Memory.abort run)
    pure false
  else do
    let _ ← updateRow jobId fun job =>
      { job with status := .running, startedAt := some now }
    emit jobId .started "Job started" (some .none) now
    pure true

/-- The `try` block of `runJob` after the task's promise has settled. -/
def finishTask
    (run : Nat) (jobId : String) (outcome : TaskOutcome) (now : String) :
    JobsProgram Unit :=
  match outcome with
  | .rejected message => throw message
  | .resolved result => do
      updateMemory fun memory =>
        if jobId ∈ memory.cancelled then memory.abort run else memory
      let runner ← get
      if runner.memory.aborted run then
        throw "Job cancelled by user"
      else do
        let job ← getRow jobId
        if job.map JobRecord.status = some .cancelled then
          pure ()
        else
          match result with
          | none => throw "JSON.stringify cannot serialize the result"
          | some result => do
              let _ ← updateRow jobId fun job =>
                { job with
                  status := .succeeded, progress := .full
                  result := some result, finishedAt := some now }
              emit jobId .completed "Job completed successfully" (some .full)
                now

/-- `controller.signal.aborted || this.store.get(jobId)?.status ===
'cancelled'`. -/
def isStopped (run : Nat) (jobId : String) : JobsProgram Bool := do
  let runner ← get
  if runner.memory.aborted run then
    pure true
  else do
    let job ← getRow jobId
    pure (decide (job.map JobRecord.status = some .cancelled))

/-- The `catch` block of `runJob`. -/
def catchError
    (run : Nat) (jobId error now : String) : JobsProgram Unit := do
  update fun runner =>
    { runner with faults := ⟨runner.faults.handler, []⟩ }
  let stopped ← isStopped run jobId
  if stopped then do
    let job ← getRow jobId
    if job.map JobRecord.status = some .cancelled then
      pure ()
    else do
      let _ ← markCancelled jobId now
      pure ()
  else
    markFailed jobId error now

/-- `try … catch … finally` of `runJob` around one of its two halves. -/
def guarded
    (run : Nat) (jobId now : String) (body : JobsProgram Phase) :
    JobsProgram Phase :=
  handle body fun error =>
    cleanUp
      (do
        catchError run jobId error now
        pure .returned)
      fun runner => { runner with memory := runner.memory.release jobId }

/-- The `try` block up to the `await`; a return inside it releases the job. -/
def tryStart (run : Nat) (jobId now : String) : JobsProgram Phase := do
  let called ← startTask run jobId now
  if called then
    pure .awaiting
  else do
    updateMemory (Memory.release jobId)
    pure .returned

/-- The `try` block after the `await`. -/
def tryFinish
    (run : Nat) (jobId : String) (outcome : TaskOutcome) (now : String) :
    JobsProgram Phase := do
  finishTask run jobId outcome now
  updateMemory (Memory.release jobId)
  pure .returned

/-- `runJob` up to its `await`. -/
def runJob (run : Nat) (jobId now : String) : JobsProgram Phase := do
  let runner ← get
  if jobId ∈ runner.memory.cancelled then do
    updateMemory fun memory =>
      { memory with cancelled := memory.cancelled.erase jobId }
    pure .returned
  else do
    updateMemory fun memory =>
      { memory with running := memory.running.insert jobId run }
    guarded run jobId now (tryStart run jobId now)

/-- `runJob` after its `await`. -/
def resumeJob
    (run : Nat) (jobId : String) (outcome : TaskOutcome) (now : String) :
    JobsProgram Phase :=
  guarded run jobId now (tryFinish run jobId outcome now)

/-- The phase in which a program of `runJob` leaves its call; an error rejects
the call's promise. -/
def phaseOf (result : Except String Phase) : Phase :=
  match result with
  | .ok phase => phase
  | .error _ => .rejected

/-- A new call of `runJob`, with a controller of its own. -/
def Memory.openCall
    (queue : Option String) (jobId : String) (memory : Memory) : Memory :=
  { memory with
    runs := memory.runs ++ [⟨jobId, queue, false, false, .awaiting⟩] }

/-- Record how far a new call has come: it has called the task when its promise
is still open. -/
def recordCall
    (run : Nat) (queue : Option String) (jobId : String)
    (result : Except String Phase × JobsRunner) :
    JobsRunner × List Observation :=
  ({ result.2 with
      memory := result.2.memory.changeRun run fun call =>
        { call with
          phase := phaseOf result.1
          called := decide (phaseOf result.1 = .awaiting) } },
    if phaseOf result.1 = .awaiting then [.called queue jobId] else [])

/-- Call `runJob`. -/
def callRunJob
    (queue : Option String) (jobId now : String) (runner : JobsRunner) :
    JobsRunner × List Observation :=
  recordCall runner.memory.runs.length queue jobId
    (runJob runner.memory.runs.length jobId now
      { runner with memory := runner.memory.openCall queue jobId })

def settleTask
    (run : Nat) (call : RunCall) (outcome : TaskOutcome) (now : String)
    (runner : JobsRunner) : JobsRunner :=
  let result := resumeJob run call.jobId outcome now runner
  { result.2 with
    memory := result.2.memory.changeRun run fun call =>
      { call with phase := phaseOf result.1 } }

/-- The head of the loop in `drainQueue`. -/
def drainLoop
    (queueKey now : String) (runner : JobsRunner) :
    JobsRunner × List Observation :=
  match runner.memory.queues.lookup queueKey with
  | none => (runner, [])
  | some [] =>
      ({ runner with
          memory :=
            { runner.memory with
              queues := runner.memory.queues.erase queueKey } }, [])
  | some (jobId :: _) =>
      let called := callRunJob (some queueKey) jobId now runner
      ({ called.1 with
          memory := called.1.memory.schedule
            (.drainAwaits queueKey runner.memory.runs.length) },
        called.2)

/-- `queue.shift()`. -/
def Memory.shift (queueKey : String) (memory : Memory) : Memory :=
  match memory.queues.lookup queueKey with
  | none => memory
  | some queue =>
      { memory with queues := memory.queues.insert queueKey queue.tail }

/-- Continue a thread that has left the list of threads; `none` while it waits.
When the awaited promise is rejected, `drainQueue` is left by the error. -/
def continueThread
    (thread : Thread) (now : String) (runner : JobsRunner) :
    Option (JobsRunner × List Observation) :=
  match thread with
  | .runScheduled jobId => some (callRunJob none jobId now runner)
  | .drainScheduled queueKey => some (drainLoop queueKey now runner)
  | .drainAwaits queueKey run =>
      match runner.memory.runs[run]?.map RunCall.phase with
      | some .returned =>
          some (drainLoop queueKey now
            { runner with memory := runner.memory.shift queueKey })
      | some .rejected => some (runner, [])
      | _ => none

def contextLog (run : Nat) (jobId message now : String) :
    JobsProgram Unit := do
  let runner ← get
  if runner.memory.aborted run then
    throw "Job cancelled by user"
  else
    emit jobId .log message none now

def contextProgress
    (run : Nat) (jobId : String) (value : Int) (message now : String) :
    JobsProgram Unit := do
  let runner ← get
  if runner.memory.aborted run then
    throw "Job cancelled by user"
  else
    match Progress.check value with
    | none => throw "CHECK constraint failed: progress"
    | some progress => do
        let _ ← updateRow jobId fun job => { job with progress := progress }
        emit jobId .progress message (some progress) now

def recoverInterruptedJobs (now : String) : JobsProgram Unit := do
  access
  let runner ← get
  forEach (runner.store.listByStatuses [.queued, .running]) fun job =>
    markFailed job.id "Job was interrupted by an API restart" now

inductive JobsAction where
  | create (id type : String) (input : JobInput) (queuedMessage : String)
  | createQueued (queueKey id type : String) (input : JobInput)
      (queuedMessage : String)
  | cancel (jobId : String)
  | resume (thread : Nat)
  | taskLogs (run : Nat) (message : String)
  | taskProgress (run : Nat) (value : Int) (message : String)
  | taskSettles (run : Nat) (outcome : TaskOutcome)
  | restart
  deriving DecidableEq, Repr

structure JobsStep where
  action : JobsAction
  now : String
  faults : Faults
  deriving DecidableEq, Repr

/-- An event of a run.  `randomUUID` makes ids that no row has. -/
def perform
    (action : JobsAction) (now : String) (runner : JobsRunner) :
    Option (JobsRunner × List Observation) :=
  match action with
  | .create id type input message =>
      if (runner.store.get id).isSome then
        none
      else
        match create id type input message now runner with
        | (.ok _, next) => some (next, [.scheduled id])
        | (.error _, next) => some (next, [])
  | .createQueued queueKey id type input message =>
      if (runner.store.get id).isSome then
        none
      else
        match createQueued queueKey id type input message now runner with
        | (.ok _, next) => some (next, [.enqueued queueKey id])
        | (.error _, next) => some (next, [])
  | .cancel jobId => some ((cancel jobId now runner).2, [])
  | .resume index =>
      match runner.memory.threads[index]? with
      | none => none
      | some thread =>
          continueThread thread now
            { runner with memory := runner.memory.dropThread index }
  | .taskLogs run message =>
      match runner.memory.runs[run]? with
      | none => none
      | some call =>
          if call.called then
            some ((contextLog run call.jobId message now runner).2, [])
          else
            none
  | .taskProgress run value message =>
      match runner.memory.runs[run]? with
      | none => none
      | some call =>
          if call.called then
            some
              ((contextProgress run call.jobId value message now runner).2,
                [])
          else
            none
  | .taskSettles run outcome =>
      match runner.memory.runs[run]? with
      | none => none
      | some call =>
          if call.phase = .awaiting then
            some (settleTask run call outcome now runner, [])
          else
            none
  | .restart =>
      some ((recoverInterruptedJobs now
        { runner with memory := Memory.empty }).2, [])

def step (runner : JobsRunner) (event : JobsStep) :
    Option (JobsRunner × List Observation) :=
  perform event.action event.now { runner with faults := event.faults }

def JobsRunner.new (store : JobsStore) (now : String) : JobsRunner :=
  (recoverInterruptedJobs now ⟨store, Memory.empty, ⟨[], []⟩⟩).2

end GravitPanel.Jobs
