import GravitPanel.Jobs.Life
import GravitPanel.Jobs.RunnerEffects

/-!
# The runner on a reliable database

What each program of the runner does to the tables and to the memory when no
access throws: a change of one job writes its row and appends one event.
-/

namespace GravitPanel.Jobs

open Program

/-- A runner with no access that throws. -/
def reliable (store : JobsStore) (memory : Memory) : JobsRunner :=
  ⟨store, memory, ⟨[], []⟩⟩

def JobsStore.write
    (store : JobsStore) (job : JobRecord) (type : JobEventType)
    (message : String) (progress : Option Progress) (now : String) :
    JobsStore :=
  (store.replace job).append job.id type message progress now

/-- Only the given job has changed, and no row came or went. -/
structure JobsStore.Rewrites
    (store next : JobsStore) (id : String) (life : Life) : Prop where
  own : next.life id = life
  others : ∀ other, other ≠ id → next.life other = store.life other
  ids : next.jobs.map JobRecord.id = store.jobs.map JobRecord.id

/-- The event that `append` adds. -/
def JobsStore.nextEvent
    (store : JobsStore) (jobId : String) (type : JobEventType)
    (message : String) (progress : Option Progress) (now : String) :
    JobEvent :=
  ⟨store.sequence + 1, jobId, type, message, progress, now⟩

theorem JobsStore.listEvents_append
    (store : JobsStore) (jobId : String) (type : JobEventType)
    (message : String) (progress : Option Progress) (now id : String) :
    (store.append jobId type message progress now).listEvents id =
      if jobId = id then
        store.listEvents id ++
          [store.nextEvent jobId type message progress now]
      else store.listEvents id := by
  unfold listEvents append nextEvent
  by_cases same : jobId = id <;> simp [same]

theorem JobsStore.rewrites_append
    (store : JobsStore) (jobId : String) (type : JobEventType)
    (message : String) (progress : Option Progress) (now : String) :
    store.Rewrites (store.append jobId type message progress now) jobId
      ⟨store.get jobId, store.listEvents jobId ++
        [store.nextEvent jobId type message progress now]⟩ where
  own := by
    unfold life
    rw [listEvents_append, if_pos rfl]
    rfl
  others other different := by
    unfold life
    rw [listEvents_append, if_neg fun same => different same.symm]
    rfl
  ids := rfl

theorem JobsStore.ids_replace (store : JobsStore) (job : JobRecord) :
    (store.replace job).jobs.map JobRecord.id =
      store.jobs.map JobRecord.id := by
  unfold replace
  rw [List.map_map]
  apply List.map_congr_left
  intro row _
  by_cases same : row.id = job.id
  · simp [same]
  · simp [same]

theorem JobsStore.rewrites_write
    {store : JobsStore} {row : JobRecord} {id : String}
    (found : store.get id = some row) (job : JobRecord)
    (named : job.id = row.id) (type : JobEventType) (message : String)
    (progress : Option Progress) (now : String) :
    store.Rewrites (store.write job type message progress now) id
      ⟨some job, store.listEvents id ++
        [store.nextEvent id type message progress now]⟩ := by
  have same : job.id = id := named.trans (JobsStore.get_id found)
  have appended := rewrites_append (store.replace job) job.id type message
    progress now
  refine ⟨?_, ?_, ?_⟩
  · rw [← same]
    refine appended.own.trans ?_
    rw [JobsStore.get_replace, if_pos rfl, same, found]
    rfl
  · intro other different
    rw [← same] at different
    refine (appended.others other different).trans ?_
    unfold life
    rw [JobsStore.get_replace, if_neg different]
    rfl
  · exact appended.ids.trans (store.ids_replace job)

/-- Insert a row and append the event of its creation. -/
def JobsStore.enter
    (store : JobsStore) (job : JobRecord) (message now : String) :
    JobsStore :=
  (store.insert job).append job.id .queued message (some .none) now

section Reliable

variable {store : JobsStore} {memory : Memory}

@[simp]
theorem reliable_memory : (reliable store memory).memory = memory := rfl

@[simp]
theorem access_reliable :
    access (reliable store memory) = (.ok (), reliable store memory) := rfl

@[simp]
theorem getRow_reliable (id : String) :
    getRow id (reliable store memory) =
      (.ok (store.get id), reliable store memory) := rfl

@[simp]
theorem updateMemory_reliable (change : Memory → Memory) :
    updateMemory change (reliable store memory) =
      (.ok ⟨⟩, reliable store (change memory)) := rfl

@[simp]
theorem emit_reliable
    (jobId : String) (type : JobEventType) (message : String)
    (progress : Option Progress) (now : String) :
    emit jobId type message progress now (reliable store memory) =
      (.ok (), reliable (store.append jobId type message progress now)
        memory) := rfl

variable {row : JobRecord} {id : String}

theorem updateRow_reliable
    (found : store.get id = some row)
    (values : JobRecord → JobRecord) :
    updateRow id values (reliable store memory) =
      (.ok (values row), reliable (store.replace (values row)) memory) := by
  unfold updateRow
  rw [bind_apply, getRow_reliable, found]
  rfl

theorem updateRow_emit_reliable
    {Value : Type}
    (found : store.get id = some row) (values : JobRecord → JobRecord)
    (named : (values row).id = row.id) (type : JobEventType)
    (message : String) (progress : Option Progress) (now : String)
    (next : JobRecord → JobsProgram Value) :
    (do
      let job ← updateRow id values
      emit id type message progress now
      next job) (reliable store memory) =
        next (values row) (reliable
          (store.write (values row) type message progress now) memory) := by
  have same : id = (values row).id :=
    (JobsStore.get_id found).symm.trans named.symm
  rw [bind_apply, updateRow_reliable found]
  simp only
  rw [bind_apply, emit_reliable, same]
  rfl

variable (memory) in
theorem updateRow_last_emit_reliable
    (found : store.get id = some row)
    (values : JobRecord → JobRecord) (named : (values row).id = row.id)
    (type : JobEventType) (message : String) (progress : Option Progress)
    (now : String) :
    (do
      let _ ← updateRow id values
      emit id type message progress now) (reliable store memory) =
        (.ok (), reliable
          (store.write (values row) type message progress now) memory) := by
  have same : id = (values row).id :=
    (JobsStore.get_id found).symm.trans named.symm
  rw [bind_apply, updateRow_reliable found]
  simp only
  rw [emit_reliable, same]
  rfl

structure Closing (row job : JobRecord) (type : JobEventType) : Prop where
  named : job.id = row.id
  input : job.input = row.input
  closes : type.closes = some job.status

variable (memory) in
theorem markCancelled_reliable
    (found : store.get id = some row)
    (now : String) :
    ∃ job message, Closing row job .cancelled ∧
      markCancelled id now (reliable store memory) =
        (.ok job,
          reliable (store.write job .cancelled message none now) memory) :=
  ⟨{ row with status := .cancelled, error := none, finishedAt := some now },
    _, ⟨rfl, rfl, rfl⟩, updateRow_emit_reliable found
      (fun job =>
        { job with
          status := .cancelled, error := none, finishedAt := some now })
      rfl .cancelled _ _ now fun job => pure job⟩

variable (memory) in
theorem markFailed_reliable
    (found : store.get id = some row)
    (message now : String) :
    ∃ job, Closing row job .failed ∧
      markFailed id message now (reliable store memory) =
        (.ok (),
          reliable (store.write job .failed message none now) memory) :=
  ⟨{ row with
      status := .failed, error := some message, finishedAt := some now },
    ⟨rfl, rfl, rfl⟩, updateRow_last_emit_reliable memory found
      (fun job =>
        { job with
          status := .failed, error := some message
          finishedAt := some now })
      rfl .failed _ _ now⟩

variable (memory) in
/-- The `catch` block closes a running job, as cancelled when its task was
told to stop. -/
theorem catchError_reliable
    (found : store.get id = some row)
    (running : row.status = .running) (run : Nat) (error now : String) :
    ∃ job type message, Closing row job type ∧
      (memory.aborted run → job.status = .cancelled) ∧
      catchError run id error now (reliable store memory) =
        (.ok (),
          reliable (store.write job type message none now) memory) := by
  have alive : ¬ (some row).map JobRecord.status = some .cancelled := by
    simp [running]
  have armed : ({ reliable store memory with
      faults := ⟨(reliable store memory).faults.handler, []⟩ } :
        JobsRunner) = reliable store memory := rfl
  unfold catchError isStopped
  simp only [bind_apply, update_apply, get_apply, armed]
  by_cases aborted : memory.aborted run
  · obtain ⟨job, message, closing, marked⟩ :=
      markCancelled_reliable memory found now
    refine ⟨job, .cancelled, message, closing,
      fun _ => (Option.some.inj closing.closes).symm, ?_⟩
    have stop : (reliable store memory).memory.aborted run = true := aborted
    simp only [stop, if_true, pure_apply, bind_apply, getRow_reliable,
      found, if_neg alive, marked]
  · obtain ⟨job, closing, marked⟩ :=
      markFailed_reliable memory found error now
    refine ⟨job, .failed, error, closing, fun stop => absurd stop aborted, ?_⟩
    have goes_on : ¬ (reliable store memory).memory.aborted run = true :=
      aborted
    simp only [if_neg goes_on, pure_apply, bind_apply, getRow_reliable,
      found, alive, decide_false, Bool.false_eq_true, if_false, marked]

theorem guarded_throws
    {id problem : String}
    (found : store.get id = some row) (running : row.status = .running)
    {run : Nat} {now : String} {body : JobsProgram Phase}
    {start : JobsRunner}
    (thrown : body start = (.error problem, reliable store memory)) :
    ∃ job type message, Closing row job type ∧
      (memory.aborted run → job.status = .cancelled) ∧
      guarded run id now body start =
        (.ok .returned,
          reliable (store.write job type message none now)
            (memory.release id)) := by
  obtain ⟨job, type, message, closing, stopped, caught⟩ :=
    catchError_reliable memory found running run problem now
  refine ⟨job, type, message, closing, stopped, ?_⟩
  unfold guarded
  rw [handle_of_error thrown]
  simp only [cleanUp, bind_apply, caught]
  rfl

theorem aborted_abort {run : Nat} (aborted : memory.aborted run = true) :
    (memory.abort run).aborted run = true := by
  unfold Memory.aborted at aborted ⊢
  cases found : memory.runs[run]? with
  | none =>
      rw [found] at aborted
      cases aborted
  | some call => simp [Memory.abort, Memory.changeRun, found]

/-- The rest of the `try` block throws, or it closes the job as succeeded; the
latter only when the job was not told to stop. -/
theorem tryFinish_reliable
    (found : store.get id = some row)
    (running : row.status = .running) {run : Nat}
    (told : memory.aborted run = true ↔ id ∈ memory.cancelled)
    (outcome : TaskOutcome) (now : String) :
    (∃ problem after, (after = memory ∨ after = memory.abort run) ∧
        (memory.aborted run = true → after.aborted run = true) ∧
        tryFinish run id outcome now (reliable store memory) =
          (.error problem, reliable store after)) ∨
      ∃ job message progress, ¬ memory.aborted run = true ∧
        Closing row job .completed ∧
        tryFinish run id outcome now (reliable store memory) =
          (.ok .returned,
            reliable (store.write job .completed message progress now)
              (memory.release id)) := by
  have alive : ¬ (some row).map JobRecord.status = some .cancelled := by
    simp [running]
  cases outcome with
  | rejected message =>
      exact .inl ⟨message, memory, .inl rfl, fun aborted => aborted, rfl⟩
  | resolved result =>
      by_cases marked : id ∈ memory.cancelled
      · have aborted : (reliable store (memory.abort run)).memory.aborted
            run = true := aborted_abort (told.mpr marked)
        refine .inl ⟨"Job cancelled by user", memory.abort run, .inr rfl,
          fun _ => aborted, ?_⟩
        unfold tryFinish finishTask
        simp only [bind_apply, updateMemory_reliable, if_pos marked,
          get_apply, if_pos aborted, throw_apply]
      · have goes_on : ¬ (reliable store memory).memory.aborted run =
            true := fun aborted => marked (told.mp aborted)
        cases result with
        | none =>
            refine .inl ⟨"JSON.stringify cannot serialize the result",
              memory, .inl rfl, fun aborted => aborted, ?_⟩
            unfold tryFinish finishTask
            simp only [bind_apply, updateMemory_reliable, if_neg marked,
              get_apply, if_neg goes_on, getRow_reliable, found,
              if_neg alive, throw_apply]
        | some result =>
            refine .inr ⟨{ row with
                status := .succeeded, progress := .full
                result := some result, finishedAt := some now },
              "Job completed successfully", some .full, goes_on,
              ⟨rfl, rfl, rfl⟩, ?_⟩
            have same := JobsStore.get_id found
            unfold tryFinish finishTask
            simp only [bind_apply, updateMemory_reliable, if_neg marked,
              get_apply, if_neg goes_on, getRow_reliable, found,
              if_neg alive, updateRow_reliable found, emit_reliable]
            rw [← same]
            rfl

theorem resumeJob_reliable
    (found : store.get id = some row)
    (running : row.status = .running) {run : Nat}
    (told : memory.aborted run = true ↔ id ∈ memory.cancelled)
    (outcome : TaskOutcome) (now : String) :
    ∃ job type message progress after, Closing row job type ∧
      (after = memory ∨ after = memory.abort run) ∧
      (memory.aborted run = true → job.status = .cancelled) ∧
      resumeJob run id outcome now (reliable store memory) =
        (.ok .returned,
          reliable (store.write job type message progress now)
            (after.release id)) := by
  rcases tryFinish_reliable found running told outcome now with
    ⟨problem, after, same, aborted, thrown⟩ |
      ⟨job, message, progress, goes_on, closing, finished⟩
  · obtain ⟨job, type, text, closing, stopped, result⟩ :=
      guarded_throws found running thrown
    exact ⟨job, type, text, none, after, closing, same,
      fun told => stopped (aborted told), result⟩
  · exact ⟨job, .completed, message, progress, memory, closing, .inl rfl,
      fun told => absurd told goes_on, handle_of_ok finished _⟩

/-- The memory once a call has returned. -/
def Memory.conclude (run : Nat) (id : String) (memory : Memory) : Memory :=
  (memory.release id).changeRun run fun call =>
    { call with phase := .returned }

theorem settleTask_reliable
    {call : RunCall}
    (found : store.get call.jobId = some row)
    (running : row.status = .running) {run : Nat}
    (told : memory.aborted run = true ↔ call.jobId ∈ memory.cancelled)
    (outcome : TaskOutcome) (now : String) :
    ∃ job type message progress after, Closing row job type ∧
      (after = memory ∨ after = memory.abort run) ∧
      (memory.aborted run = true → job.status = .cancelled) ∧
      settleTask run call outcome now (reliable store memory) =
        reliable (store.write job type message progress now)
          (after.conclude run call.jobId) := by
  obtain ⟨job, type, message, progress, after, closing, same, stopped,
    resumed⟩ := resumeJob_reliable found running told outcome now
  refine ⟨job, type, message, progress, after, closing, same, stopped, ?_⟩
  unfold settleTask
  rw [resumed]
  rfl

theorem modify_last (runs : List RunCall) (call : RunCall)
    (change : RunCall → RunCall) :
    (runs ++ [call]).modify runs.length change =
      runs ++ [change call] := by
  induction runs with
  | nil => rfl
  | cons first rest ih =>
      simpa using ih

theorem callRunJob_skips
    (marked : id ∈ memory.cancelled)
    (queue : Option String) (now : String) :
    callRunJob queue id now (reliable store memory) =
      (reliable store
        { memory with
          cancelled := memory.cancelled.erase id
          runs := memory.runs ++ [⟨id, queue, false, false, .returned⟩] },
        []) := by
  have opened : id ∈ (memory.openCall queue id).cancelled := marked
  have ended : runJob memory.runs.length id now
      (reliable store (memory.openCall queue id)) =
        (.ok .returned, reliable store
          { memory.openCall queue id with
            cancelled := memory.cancelled.erase id }) := by
    unfold runJob
    rw [bind_apply, get_apply]
    simp only
    rw [if_pos (by exact opened)]
    rfl
  change recordCall _ queue id (runJob memory.runs.length id now
    (reliable store (memory.openCall queue id))) = _
  rw [ended]
  simp [recordCall, phaseOf, reliable, Memory.openCall, Memory.changeRun,
    modify_last]

theorem callRunJob_starts
    (found : store.get id = some row)
    (unmarked : id ∉ memory.cancelled) (queue : Option String)
    (now : String) :
    ∃ job message progress, job.id = row.id ∧ job.input = row.input ∧
      job.status = .running ∧
      callRunJob queue id now (reliable store memory) =
        (reliable (store.write job .started message progress now)
          { memory with
            running := memory.running.insert id memory.runs.length
            runs := memory.runs ++ [⟨id, queue, false, true, .awaiting⟩] },
          [.called queue id]) := by
  refine ⟨{ row with status := .running, startedAt := some now },
    "Job started", some .none, rfl, rfl, rfl, ?_⟩
  have opened : id ∉ (memory.openCall queue id).cancelled := unmarked
  have same := JobsStore.get_id found
  have started : runJob memory.runs.length id now
      (reliable store (memory.openCall queue id)) =
        (.ok .awaiting, reliable
          (store.write { row with status := .running, startedAt := some now }
            .started "Job started" (some .none) now)
          { memory.openCall queue id with
            running := memory.running.insert id memory.runs.length }) := by
    have tried : ∀ run after,
        id ∉ (reliable store after).memory.cancelled →
        tryStart run id now (reliable store after) =
          (.ok .awaiting, reliable
            (store.write
              { row with status := .running, startedAt := some now }
              .started "Job started" (some .none) now) after) := by
      intro run after unmarked
      unfold tryStart startTask
      simp only [bind_apply, get_apply, if_neg unmarked,
        updateRow_reliable found, emit_reliable, pure_apply, if_true]
      rw [← same]
      rfl
    unfold runJob
    rw [bind_apply, get_apply]
    simp only
    rw [if_neg (by exact opened), bind_apply, updateMemory_reliable]
    have calls := tried memory.runs.length
      { memory.openCall queue id with
        running := memory.running.insert id memory.runs.length } opened
    exact handle_of_ok calls _
  change recordCall _ queue id (runJob memory.runs.length id now
    (reliable store (memory.openCall queue id))) = _
  rw [started]
  simp [recordCall, phaseOf, reliable, Memory.openCall, Memory.changeRun,
    modify_last]

/-- The effect of an accepted cancellation on the memory: the job is marked and
its controller, if there is one, is aborted. -/
def Memory.withdraw (id : String) (memory : Memory) : Memory :=
  match memory.running.lookup id with
  | some run =>
      Memory.abort run
        { memory with cancelled := insert id memory.cancelled }
  | none => { memory with cancelled := insert id memory.cancelled }

variable (store memory) in
theorem abortController_reliable (id : String) :
    abortController (memory.running.lookup id)
      (reliable store { memory with
        cancelled := insert id memory.cancelled }) =
        (.ok ⟨⟩, reliable store (memory.withdraw id)) := by
  unfold abortController Memory.withdraw
  cases memory.running.lookup id with
  | none => rfl
  | some run => rfl

theorem cancel_running
    (found : store.get id = some row)
    (running : row.status = .running) (unmarked : id ∉ memory.cancelled)
    (now : String) :
    ∃ message, cancel id now (reliable store memory) =
      (.ok (some row),
        reliable (store.append id .log message none now)
          (memory.withdraw id)) := by
  have active : ¬ ¬ row.status.active := not_not.mpr (.inr running)
  have open_ : id ∉ (reliable store memory).memory.cancelled := unmarked
  have aborted := abortController_reliable store memory id
  refine ⟨"Cancellation requested", ?_⟩
  unfold cancel
  simp only [bind_apply, getRow_reliable, found, get_apply, if_neg active,
    if_neg open_]
  unfold requestCancellation
  simp only [bind_apply, updateMemory_reliable, reliable_memory, aborted]
  simp only [if_pos running, bind_apply, emit_reliable, pure_apply]

theorem cancel_queued
    (found : store.get id = some row)
    (queued : row.status = .queued) (unmarked : id ∉ memory.cancelled)
    (now : String) :
    ∃ job message, Closing row job .cancelled ∧
      cancel id now (reliable store memory) =
        (.ok (some job),
          reliable (store.write job .cancelled message none now)
            (memory.withdraw id)) := by
  have active : ¬ ¬ row.status.active := not_not.mpr (.inl queued)
  have open_ : id ∉ (reliable store memory).memory.cancelled := unmarked
  have aborted := abortController_reliable store memory id
  obtain ⟨job, message, closing, marked⟩ :=
    markCancelled_reliable (memory.withdraw id) found now
  refine ⟨job, message, closing, ?_⟩
  have waits : ¬ row.status = .running := by simp [queued]
  unfold cancel
  simp only [bind_apply, getRow_reliable, found, get_apply, if_neg active,
    if_neg open_]
  unfold requestCancellation
  simp only [bind_apply, updateMemory_reliable, reliable_memory, aborted]
  simp only [if_neg waits, bind_apply, marked, pure_apply]

theorem cancel_idle
    (idle : ∀ row, store.get id = some row →
      ¬ row.status.active ∨ id ∈ memory.cancelled)
    (now : String) :
    (cancel id now (reliable store memory)).2 = reliable store memory := by
  unfold cancel
  simp only [bind_apply, getRow_reliable]
  cases found : store.get id with
  | none => rfl
  | some row =>
      simp only [bind_apply, get_apply]
      by_cases active : row.status.active
      · have marked : id ∈ (reliable store memory).memory.cancelled :=
          (idle row found).resolve_left (not_not.mpr active)
        rw [if_neg (not_not.mpr active), if_pos marked]
        rfl
      · rw [if_pos active]
        rfl

/-- A context call appends an event, and for a report writes the row with its
status kept, or it throws. -/
theorem contextLog_reliable (run : Nat) (id message now : String) :
    (contextLog run id message now (reliable store memory)).2 =
      if memory.aborted run = true then reliable store memory
      else reliable (store.append id .log message none now) memory := by
  unfold contextLog
  simp only [bind_apply, get_apply]
  by_cases aborted : (reliable store memory).memory.aborted run = true
  · rw [if_pos aborted, if_pos (by exact aborted)]
    rfl
  · rw [if_neg aborted, if_neg (by exact aborted)]
    rfl

theorem contextProgress_reliable
    (found : store.get id = some row)
    (run : Nat) (value : Int) (message now : String) :
    (contextProgress run id value message now (reliable store memory)).2 =
        reliable store memory ∨
      ∃ job progress, job.id = row.id ∧ job.input = row.input ∧
        job.status = row.status ∧ memory.aborted run = false ∧
        (contextProgress run id value message now
          (reliable store memory)).2 =
            reliable (store.write job .progress message progress now)
              memory := by
  unfold contextProgress
  simp only [bind_apply, get_apply]
  by_cases aborted : (reliable store memory).memory.aborted run = true
  · rw [if_pos aborted]
    exact .inl rfl
  · rw [if_neg aborted]
    cases Progress.check value with
    | none => exact .inl rfl
    | some progress =>
        have written := updateRow_last_emit_reliable memory
          found (fun job => { job with progress := progress }) rfl
          .progress message (some progress) now
        refine .inr ⟨{ row with progress := progress }, some progress, rfl,
          rfl, rfl, Bool.eq_false_iff.mpr aborted, ?_⟩
        exact congrArg Prod.snd written

variable (memory) in
theorem recoverEach_reliable
    (rows : List JobRecord) (now : String) (store : JobsStore)
    (distinct : (rows.map JobRecord.id).Nodup)
    (there : ∀ row ∈ rows, store.get row.id = some row) :
    ∃ next, (forEach rows fun job =>
        markFailed job.id "Job was interrupted by an API restart" now)
          (reliable store memory) = (.ok ⟨⟩, reliable next memory) ∧
      next.jobs.map JobRecord.id = store.jobs.map JobRecord.id ∧
      (∀ row ∈ rows, ∃ job event, job.input = row.input ∧
        job.status = .failed ∧ event.type = .failed ∧
        next.life row.id =
          ⟨some job, store.listEvents row.id ++ [event]⟩) ∧
      ∀ id, id ∉ rows.map JobRecord.id → next.life id = store.life id := by
  induction rows generalizing store with
  | nil => exact ⟨store, rfl, rfl, nofun, fun _ _ => rfl⟩
  | cons row rest ih =>
      have found := there row List.mem_cons_self
      obtain ⟨job, closing, marked⟩ := markFailed_reliable
        memory found "Job was interrupted by an API restart" now
      have rewrites := JobsStore.rewrites_write found job closing.named
        .failed "Job was interrupted by an API restart" none now
      rw [List.map_cons, List.nodup_cons] at distinct
      have elsewhere : ∀ other ∈ rest, other.id ≠ row.id := by
        intro other member same
        exact distinct.1 (same ▸ List.mem_map_of_mem member)
      obtain ⟨next, run, ids, closed, others⟩ := ih
        (store.write job .failed "Job was interrupted by an API restart"
          none now) distinct.2 (by
          intro other member
          have kept := congrArg Life.row
            (rewrites.others other.id (elsewhere other member))
          exact kept.trans (there other (List.mem_cons_of_mem _ member)))
      refine ⟨next, ?_, ids.trans rewrites.ids, ?_, ?_⟩
      · unfold forEach
        rw [bind_apply, marked]
        exact run
      · intro other member
        rcases List.mem_cons.mp member with rfl | later
        · have kept := others other.id distinct.1
          exact ⟨job, _, closing.input,
            (Option.some.inj closing.closes).symm, rfl,
            kept.trans rewrites.own⟩
        · obtain ⟨closedJob, event, input, status, type, life⟩ :=
            closed other later
          have kept : (store.write job .failed
              "Job was interrupted by an API restart" none now).listEvents
                other.id = store.listEvents other.id :=
            congrArg Life.events
              (rewrites.others other.id (elsewhere other later))
          rw [kept] at life
          exact ⟨closedJob, event, input, status, type, life⟩
      · intro id outside
        rw [List.map_cons, List.mem_cons, not_or] at outside
        exact (others id outside.2).trans (rewrites.others id outside.1)

theorem JobsStore.get_of_mem
    {store : JobsStore} (distinct : (store.jobs.map JobRecord.id).Nodup)
    (member : row ∈ store.jobs) :
    store.get row.id = some row := by
  unfold JobsStore.get
  generalize store.jobs = rows at distinct member
  induction rows with
  | nil => cases member
  | cons first rest ih =>
      rw [List.map_cons, List.nodup_cons] at distinct
      rcases List.mem_cons.mp member with rfl | later
      · simp
      · have different : first.id ≠ row.id := fun same =>
          distinct.1 (same ▸ List.mem_map_of_mem later)
        simpa [different] using ih distinct.2 later

variable (memory) in
theorem recover_reliable
    (store : JobsStore) (distinct : (store.jobs.map JobRecord.id).Nodup)
    (now : String) :
    ∃ next, (recoverInterruptedJobs now (reliable store memory)).2 =
        reliable next memory ∧
      next.jobs.map JobRecord.id = store.jobs.map JobRecord.id ∧
      ∀ id,
        (∃ row job event, store.get id = some row ∧ row.status.active ∧
          job.input = row.input ∧ job.status = .failed ∧
          event.type = .failed ∧
          next.life id = ⟨some job, store.listEvents id ++ [event]⟩) ∨
        (∀ row, store.get id = some row → ¬ row.status.active) ∧
          next.life id = store.life id := by
  have listed : ∀ row, row ∈ store.listByStatuses [.queued, .running] ↔
      row ∈ store.jobs ∧ row.status.active := by
    intro row
    simp [JobsStore.listByStatuses, JobStatus.active]
  have sublist : ((store.listByStatuses [.queued, .running]).map
      JobRecord.id).Sublist (store.jobs.map JobRecord.id) :=
    List.filter_sublist.map _
  obtain ⟨next, run, ids, closed, others⟩ :=
    recoverEach_reliable memory _ now store
      (distinct.sublist sublist) (fun row member =>
        JobsStore.get_of_mem distinct ((listed row).mp member).1)
  refine ⟨next, ?_, ids, ?_⟩
  · unfold recoverInterruptedJobs
    simp only [bind_apply, access_reliable, get_apply]
    exact congrArg Prod.snd run
  · intro id
    by_cases member : id ∈ (store.listByStatuses
        [.queued, .running]).map JobRecord.id
    · obtain ⟨row, inside, rfl⟩ := List.mem_map.mp member
      have active := (listed row).mp inside
      obtain ⟨job, event, input, status, type, life⟩ := closed row inside
      exact .inl ⟨row, job, event,
        JobsStore.get_of_mem distinct active.1, active.2, input, status,
        type, life⟩
    · refine .inr ⟨?_, others id member⟩
      intro row found active
      have same := JobsStore.get_id found
      have inside := (listed row).mpr
        ⟨List.mem_of_find?_eq_some found, active⟩
      exact member (same ▸ List.mem_map_of_mem inside)

end Reliable

end GravitPanel.Jobs
