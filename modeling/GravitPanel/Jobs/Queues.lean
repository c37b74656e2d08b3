import GravitPanel.Core.Execution
import GravitPanel.Jobs.RunnerLanes

/-!
# Keyed job queues

Within one process the queues neither lose nor repeat a job, run one job of a
key at a time and always have a drain, as long as the `catch` block of a call
that a drain makes does not throw.
-/

namespace GravitPanel.Jobs

open Program Execution
open SerialQueues (Lanes Label createdJobs startedJobs createdOn startedOn)

theorem JobsStore.get_insert
    (store : JobsStore) (job : JobRecord) (id : String) :
    (store.insert job).get id =
      (store.get id).or (if job.id = id then some job else none) := by
  unfold JobsStore.get JobsStore.insert
  rw [List.find?_append]
  by_cases same : job.id = id <;> simp [same]

section Create

variable {id type : String} {input : JobInput} {queuedMessage now : String}
variable (after : String → Memory → Memory)

theorem create_present (other : String) :
    Keeps (fun runner => (runner.store.get other).isSome)
      (do
        let job ← createRow id type input now
        emit job.id .queued queuedMessage (some .none) now
        updateMemory (after job.id)
        pure job) := by
  have inserted : Keeps (fun runner => (runner.store.get other).isSome)
      (createRow id type input now) := by
    refine (storeTouches_access.present other).bind fun _ => ?_
    intro runner present
    change ((runner.store.insert _).get other).isSome
    rw [JobsStore.get_insert, Option.isSome_or, present]
    rfl
  refine inserted.bind fun job => ?_
  refine ((storeTouches_emit _ _ _ _ _).present other).bind fun _ => ?_
  exact fun _ present => present

theorem create_registers :
    Triple (fun _ => True)
      (do
        let job ← createRow id type input now
        emit job.id .queued queuedMessage (some .none) now
        updateMemory (after job.id)
        pure job)
      (fun _ runner => (runner.store.get id).isSome) (fun _ _ => True) := by
  have inserted : Triple (fun _ => True) (createRow id type input now)
      (fun _ runner => (runner.store.get id).isSome) (fun _ _ => True) := by
    refine Triple.bind (triple_true access) fun _ => ?_
    intro runner _
    change ((runner.store.insert _).get id).isSome
    rw [JobsStore.get_insert, Option.isSome_or]
    simp
  refine inserted.bind fun job => ?_
  have emitted : Triple (fun runner => (runner.store.get id).isSome)
      (emit job.id .queued queuedMessage (some .none) now)
      (fun _ runner => (runner.store.get id).isSome) (fun _ _ => True) :=
    ((storeTouches_emit job.id _ _ _ _).present id).weaken
      (fun _ present => present) (fun _ _ present => present)
      (fun _ _ _ => trivial)
  refine emitted.bind fun _ => ?_
  exact fun _ present => present

end Create

theorem storeTouches_recover (now : String) :
    StoreTouches (recoverInterruptedJobs now) := by
  intro start
  refine (storeTouches_access start).bind fun _ => ?_
  refine keeps_get.bind fun runner => ?_
  exact keeps_forEach fun job _ => storeTouches_markFailed job.id _ now start

theorem callRunJob_cancelled
    {queue : Option String} {jobId now : String} {runner : JobsRunner}
    (marked : jobId ∈ runner.memory.cancelled) :
    (callRunJob queue jobId now runner).2 = [] := by
  have returned : (runJob runner.memory.runs.length jobId now
      { runner with memory := runner.memory.openCall queue jobId }).1 =
        .ok .returned := by
    have inside : jobId ∈ (runner.memory.openCall queue jobId).cancelled :=
      marked
    simp only [runJob, bind_apply, get_apply]
    rw [if_pos inside]
    rfl
  unfold callRunJob recordCall
  rw [returned]
  rfl

theorem callRunJob_called
    {queue owner : Option String} {jobId id now : String}
    {runner : JobsRunner}
    (shown : .called owner id ∈ (callRunJob queue jobId now runner).2) :
    id ∉ runner.memory.cancelled := by
  intro marked
  have same : id = jobId := by
    unfold callRunJob recordCall at shown
    simp only at shown
    split at shown
    · cases List.mem_singleton.mp shown
      rfl
    · cases shown
  subst same
  rw [callRunJob_cancelled marked] at shown
  cases shown

theorem callRunJob_marks
    (queue : Option String) (jobId now : String) (runner : JobsRunner)
    {id : String} (marked : id ∈ runner.memory.cancelled) :
    id ∈ (callRunJob queue jobId now runner).1.memory.cancelled ∨
      id = jobId := by
  by_cases same : id = jobId
  · exact .inr same
  · have touches := touches_runJob runner.memory.runs.length jobId now
    exact .inl ((touches.cancelled
      { runner with memory := runner.memory.openCall queue jobId }
      same).mpr marked)

theorem callRunJob_runs
    (queue : Option String) (jobId now : String) (runner : JobsRunner) :
    (callRunJob queue jobId now runner).1.memory.runs.map RunCall.jobId =
      runner.memory.runs.map RunCall.jobId ++ [jobId] := by
  obtain ⟨phase, lanes, _⟩ := callRunJob_lanes queue jobId now runner
  have calls := congrArg
    (fun lanes => lanes.calls.map SerialQueues.Call.job) lanes
  simpa [Memory.lanes, Lanes.call, RunCall.scheduler, Function.comp_def]
    using calls

theorem callRunJob_present
    (queue : Option String) (jobId now : String) (runner : JobsRunner)
    {id : String} (present : (runner.store.get id).isSome) :
    ((callRunJob queue jobId now runner).1.store.get id).isSome := by
  have touches := touches_runJob runner.memory.runs.length jobId now
  have kept : Keeps (fun runner => (runner.store.get id).isSome)
      (runJob runner.memory.runs.length jobId now) := touches.present id
  have opened : (({ runner with
      memory := runner.memory.openCall queue jobId } :
        JobsRunner).store.get id).isSome := present
  exact kept.reached opened

/-- What a thread's step does to rows and marks. -/
structure Marks (runner next : JobsRunner) (outputs : List Observation) :
    Prop where
  present : ∀ id, (runner.store.get id).isSome → (next.store.get id).isSome
  marked : ∀ id ∈ runner.memory.cancelled,
    id ∈ next.memory.cancelled ∨ id ∈ next.memory.runs.map RunCall.jobId
  unmarked : ∀ owner id, .called owner id ∈ outputs →
    id ∉ runner.memory.cancelled

theorem marks_callRunJob
    (queue : Option String) (jobId now : String) (runner : JobsRunner) :
    Marks runner (callRunJob queue jobId now runner).1
      (callRunJob queue jobId now runner).2 where
  present _ present := callRunJob_present queue jobId now runner present
  marked id member := by
    rcases callRunJob_marks queue jobId now runner member with kept | same
    · exact .inl kept
    · right
      rw [callRunJob_runs, same]
      simp
  unmarked _ _ shown := callRunJob_called shown

theorem marks_drainLoop (queueKey now : String) (runner : JobsRunner) :
    Marks runner (drainLoop queueKey now runner).1
      (drainLoop queueKey now runner).2 := by
  unfold drainLoop
  split
  · exact ⟨fun _ present => present, fun _ marked => .inl marked, (by simp)⟩
  · exact ⟨fun _ present => present, fun _ marked => .inl marked, (by simp)⟩
  · rename_i jobId rest _
    have called := marks_callRunJob (some queueKey) jobId now runner
    exact ⟨called.present, called.marked, called.unmarked⟩

variable {runner next : JobsRunner} {outputs : List Observation}
variable {event : JobsStep} {past : List Observation}

theorem marks_same
    (present : ∀ id, (runner.store.get id).isSome →
      (next.store.get id).isSome)
    (cancelled : next.memory.cancelled = runner.memory.cancelled)
    (silent : ∀ owner id, .called owner id ∉ outputs) :
    Marks runner next outputs where
  present := present
  marked id member := .inl (by rw [cancelled]; exact member)
  unmarked owner id shown := absurd shown (silent owner id)

theorem marks_of_touches
    {Value : Type} {program : JobsProgram Value} {jobId : String}
    (touches : Touches jobId program) (runner : JobsRunner)
    (kept : jobId ∈ runner.memory.cancelled →
      jobId ∈ (program runner).2.memory.cancelled ∨
        jobId ∈ (program runner).2.memory.runs.map RunCall.jobId) :
    Marks runner (program runner).2 [] where
  present id present := (touches.present id).reached present
  marked id member := by
    by_cases same : id = jobId
    · subst same
      exact kept member
    · exact .inl ((touches.cancelled runner same).mpr member)
  unmarked := by simp

theorem StoreTouches.marked {Value : Type} {program : JobsProgram Value}
    (touches : StoreTouches program) (jobId : String) :
    Keeps (fun runner => jobId ∈ runner.memory.cancelled) program := by
  intro runner marked
  have same := touches.keepsMemory runner.memory runner rfl
  generalize program runner = result at same ⊢
  obtain ⟨outcome, reached⟩ := result
  cases outcome with
  | error problem =>
      change reached.memory = runner.memory at same
      change jobId ∈ reached.memory.cancelled
      rw [same]
      exact marked
  | ok value =>
      change reached.memory = runner.memory at same
      change jobId ∈ reached.memory.cancelled
      rw [same]
      exact marked

theorem requestCancellation_marks
    (job : JobRecord) (jobId now : String) (controller : Option Nat) :
    Triple (fun _ => True) (requestCancellation job jobId now controller)
      (fun _ runner => jobId ∈ runner.memory.cancelled)
      (fun _ runner => jobId ∈ runner.memory.cancelled) := by
  have marking : Triple (fun _ => True)
      (updateMemory fun memory =>
        { memory with cancelled := insert jobId memory.cancelled })
      (fun _ runner => jobId ∈ runner.memory.cancelled)
      (fun _ runner => jobId ∈ runner.memory.cancelled) :=
    fun _ _ => Finset.mem_insert_self _ _
  refine marking.bind fun _ => ?_
  have aborting : Keeps (fun runner => jobId ∈ runner.memory.cancelled)
      (abortController controller) := by
    cases controller with
    | none => exact keeps_pure _
    | some controller => exact fun _ marked => marked
  refine aborting.bind fun _ => ?_
  split
  · exact ((storeTouches_emit _ _ _ _ _).marked jobId).bind fun _ =>
      keeps_pure _
  · exact ((storeTouches_markCancelled _ _).marked jobId).bind fun _ =>
      keeps_pure _

theorem cancel_marked (jobId now : String) :
    Keeps (fun runner => jobId ∈ runner.memory.cancelled)
      (cancel jobId now) := by
  refine ((storeTouches_getRow jobId).marked jobId).bind fun job => ?_
  cases job with
  | none => exact keeps_pure _
  | some job =>
      refine keeps_get.bind fun runner => ?_
      split
      · exact keeps_pure _
      split
      · exact keeps_pure _
      · exact (requestCancellation_marks job jobId now _).weaken
          (fun _ _ => trivial) (fun _ _ marked => marked)
          (fun _ _ marked => marked)

theorem cancel_marks (jobId now : String) {row : JobRecord}
    (active : row.status.active) :
    Triple (fun runner => runner.store.get jobId = some row)
      (cancel jobId now)
      (fun _ runner => jobId ∈ runner.memory.cancelled)
      (fun _ _ => True) := by
  have read : Triple (fun runner => runner.store.get jobId = some row)
      (getRow jobId) (fun job _ => job = some row) (fun _ _ => True) := by
    have accessed : Triple
        (fun runner => runner.store.get jobId = some row) access
        (fun _ runner => runner.store.get jobId = some row)
        (fun _ _ => True) := by
      intro runner found
      unfold access
      cases runner.faults.body with
      | nil => exact found
      | cons throws rest =>
          cases throws with
          | true => trivial
          | false => exact found
    exact accessed.bind fun _ => fun _ found => found
  refine read.bind fun job => ?_
  rintro runner rfl
  simp only [bind_apply, get_apply]
  rw [if_neg (not_not.mpr active)]
  by_cases marked : jobId ∈ runner.memory.cancelled
  · rw [if_pos marked]
    exact marked
  · rw [if_neg marked]
    have marks := requestCancellation_marks row jobId now
      (runner.memory.running.lookup jobId) runner trivial
    generalize requestCancellation row jobId now
      (runner.memory.running.lookup jobId) runner = result at marks ⊢
    obtain ⟨outcome, reached⟩ := result
    cases outcome with
    | error problem => trivial
    | ok value => exact marks

theorem settleTask_runs
    (run : Nat) (call : RunCall) (outcome : TaskOutcome) (now : String)
    (runner : JobsRunner) :
    (settleTask run call outcome now runner).memory.runs.map
        RunCall.jobId = runner.memory.runs.map RunCall.jobId := by
  obtain ⟨phase, _, lanes, _⟩ :=
    settleTask_lanes run call outcome now runner
  have calls := congrArg
    (fun lanes => lanes.calls.map SerialQueues.Call.job) lanes
  have same : ∀ calls : List (SerialQueues.Call String String),
      (calls.modify run fun call => { call with phase := phase }).map
        SerialQueues.Call.job = calls.map SerialQueues.Call.job := by
    intro calls
    apply List.ext_getElem?
    intro index
    simp only [List.getElem?_map, List.getElem?_modify]
    cases calls[index]? with
    | none => rfl
    | some call => by_cases same : run = index <;> simp [same]
  simp only [Memory.lanes, Lanes.settle, same] at calls
  simpa [RunCall.scheduler, Function.comp_def] using calls

theorem marks_settleTask
    {run : Nat} {call : RunCall} {runner : JobsRunner}
    (place : runner.memory.runs[run]? = some call)
    (outcome : TaskOutcome) (now : String) :
    Marks runner (settleTask run call outcome now runner) [] where
  present id present :=
    ((touches_resumeJob run call.jobId outcome now).present id).reached
      present
  marked id member := by
    by_cases same : id = call.jobId
    · right
      rw [settleTask_runs, same]
      exact List.mem_map_of_mem (List.mem_of_getElem? place)
    · exact .inl (((touches_resumeJob run call.jobId outcome now).cancelled
        runner same).mpr member)
  unmarked := by simp

theorem step_marks
    (stepped : step runner event = some (next, outputs))
    (alive : event.action ≠ .restart) : Marks runner next outputs := by
  obtain ⟨action, now, faults⟩ := event
  unfold step at stepped
  simp only at stepped alive
  have armed : ∀ {next : JobsRunner} {outputs : List Observation},
      Marks { runner with faults := faults } next outputs →
        Marks runner next outputs :=
    fun marks => ⟨marks.present, marks.marked, marks.unmarked⟩
  apply armed
  generalize ({ runner with faults := faults } : JobsRunner) = started
    at stepped ⊢
  cases action with
  | create id type input message =>
      simp only [perform] at stepped
      split at stepped
      · cases stepped
      obtain ⟨ended, threw⟩ := created_memory
        (create_spec id type input message now started.memory
          fun id => .schedule (.runScheduled id))
      have present : ∀ other, (started.store.get other).isSome →
          ((create id type input message now started).2.store.get
            other).isSome := by
        intro other
        have kept : Keeps (fun runner => (runner.store.get other).isSome)
            (create id type input message now) :=
          create_present (fun id => .schedule (.runScheduled id)) other
        exact kept.reached
      split at stepped
      · rename_i job reached run
        cases stepped
        rw [show create id type input message now started =
          (.ok job, next) from run] at present
        exact marks_same present (by rw [ended job _ run]; rfl) (by simp)
      · rename_i problem reached run
        cases stepped
        rw [show create id type input message now started =
          (.error problem, next) from run] at present
        exact marks_same present (by rw [threw problem _ run]) (by simp)
  | createQueued queueKey id type input message =>
      simp only [perform] at stepped
      split at stepped
      · cases stepped
      obtain ⟨ended, threw⟩ := created_memory
        (create_spec id type input message now started.memory
          (Memory.enqueue queueKey))
      have present : ∀ other, (started.store.get other).isSome →
          ((createQueued queueKey id type input message now
            started).2.store.get other).isSome := by
        intro other
        have kept : Keeps (fun runner => (runner.store.get other).isSome)
            (createQueued queueKey id type input message now) :=
          create_present (Memory.enqueue queueKey) other
        exact kept.reached
      split at stepped
      · rename_i job reached run
        cases stepped
        rw [show createQueued queueKey id type input message now started =
          (.ok job, next) from run] at present
        refine marks_same present ?_ (by simp)
        rw [ended job _ run]
        unfold Memory.enqueue
        simp only
        split <;> rfl
      · rename_i problem reached run
        cases stepped
        rw [show createQueued queueKey id type input message now started =
          (.error problem, next) from run] at present
        exact marks_same present (by rw [threw problem _ run]) (by simp)
  | cancel jobId =>
      cases stepped
      exact marks_of_touches (touches_cancel jobId now) started
        fun marked => .inl ((cancel_marked jobId now).reached marked)
  | resume index =>
      simp only [perform] at stepped
      split at stepped
      · cases stepped
      rename_i thread place
      have dropped : ∀ (memory : Memory) {next : JobsRunner}
          {outputs : List Observation},
          memory.cancelled = started.memory.cancelled →
          Marks { started with memory := memory } next outputs →
            Marks started next outputs := by
        intro memory next outputs same marks
        refine ⟨marks.present, ?_, ?_⟩
        · intro id marked
          exact marks.marked id (by rw [← same] at marked; exact marked)
        · intro owner id shown
          rw [← same]
          exact marks.unmarked owner id shown
      cases thread with
      | runScheduled jobId =>
          have result := Option.some.inj stepped
          have marks := marks_callRunJob none jobId now
            { started with memory := started.memory.dropThread index }
          rw [result] at marks
          exact dropped (started.memory.dropThread index) rfl marks
      | drainScheduled queueKey =>
          have result := Option.some.inj stepped
          have marks := marks_drainLoop queueKey now
            { started with memory := started.memory.dropThread index }
          rw [result] at marks
          exact dropped (started.memory.dropThread index) rfl marks
      | drainAwaits queueKey run =>
          simp only [continueThread] at stepped
          split at stepped
          · have result := Option.some.inj stepped
            have marks := marks_drainLoop queueKey now
              { started with
                memory :=
                  (started.memory.dropThread index).shift queueKey }
            rw [result] at marks
            refine dropped
              ((started.memory.dropThread index).shift queueKey) ?_ marks
            unfold Memory.shift
            split <;> rfl
          · cases stepped
            exact ⟨fun _ present => present, fun _ marked => .inl marked,
              (by simp)⟩
          · cases stepped
  | taskLogs run message =>
      simp only [perform] at stepped
      split at stepped
      · cases stepped
      split at stepped
      · rename_i call _ _
        cases stepped
        have touches := storeTouches_contextLog run call.jobId message now
        exact marks_same (fun id => (touches.present id).reached)
          (by rw [touches.memory]) (by simp)
      · cases stepped
  | taskProgress run value message =>
      simp only [perform] at stepped
      split at stepped
      · cases stepped
      split at stepped
      · rename_i call _ _
        cases stepped
        have touches :=
          storeTouches_contextProgress run call.jobId value message now
        exact marks_same (fun id => (touches.present id).reached)
          (by rw [touches.memory]) (by simp)
      · cases stepped
  | taskSettles run outcome =>
      simp only [perform] at stepped
      split at stepped
      · cases stepped
      rename_i call place
      split at stepped
      · cases stepped
        exact marks_settleTask place outcome now
      · cases stepped
  | restart => exact absurd rfl alive

/-! ## Created jobs -/

theorem callRunJob_created
    (queue : Option String) (jobId now : String) (runner : JobsRunner) :
    createdJobs ((callRunJob queue jobId now runner).2.map
      Observation.label) = [] := by
  unfold callRunJob recordCall
  simp only
  split <;> rfl

theorem drainLoop_created (queueKey now : String) (runner : JobsRunner) :
    createdJobs ((drainLoop queueKey now runner).2.map
      Observation.label) = [] := by
  unfold drainLoop
  split
  · rfl
  · rfl
  · exact callRunJob_created _ _ _ _

/-- The job that an event hands over, with its input. -/
def JobsAction.creates : JobsAction → Option (String × JobInput)
  | .create id _ input _ => some (id, input)
  | .createQueued _ id _ input _ => some (id, input)
  | _ => none

theorem step_silent
    (stepped : step runner event = some (next, outputs))
    (creates : event.action.creates = none) :
    createdJobs (outputs.map Observation.label) = [] := by
  obtain ⟨action, now, faults⟩ := event
  unfold step at stepped
  simp only at stepped creates
  cases action with
  | create id type input message => cases creates
  | createQueued queueKey id type input message => cases creates
  | resume index =>
      simp only [perform] at stepped
      split at stepped
      · cases stepped
      rename_i thread place
      cases thread with
      | runScheduled jobId =>
          have result : _ = outputs :=
            congrArg Prod.snd (Option.some.inj stepped)
          rw [← result]
          exact callRunJob_created _ _ _ _
      | drainScheduled queueKey =>
          have result : _ = outputs :=
            congrArg Prod.snd (Option.some.inj stepped)
          rw [← result]
          exact drainLoop_created _ _ _
      | drainAwaits queueKey run =>
          simp only [continueThread] at stepped
          split at stepped
          · have result : _ = outputs :=
              congrArg Prod.snd (Option.some.inj stepped)
            rw [← result]
            exact drainLoop_created _ _ _
          · cases stepped
            rfl
          · cases stepped
  | cancel jobId =>
      cases stepped
      rfl
  | restart =>
      cases stepped
      rfl
  | taskLogs run message =>
      simp only [perform] at stepped
      split at stepped
      · cases stepped
      split at stepped
      · cases stepped
        rfl
      · cases stepped
  | taskProgress run value message =>
      simp only [perform] at stepped
      split at stepped
      · cases stepped
      split at stepped
      · cases stepped
        rfl
      · cases stepped
  | taskSettles run outcome =>
      simp only [perform] at stepped
      split at stepped
      · cases stepped
      split at stepped
      · cases stepped
        rfl
      · cases stepped

theorem step_created
    (stepped : step runner event = some (next, outputs)) :
    createdJobs (outputs.map Observation.label) = [] ∨
      ∃ queue id,
        createdJobs (outputs.map Observation.label) = [(queue, id)] ∧
          runner.store.get id = none ∧ (next.store.get id).isSome := by
  have original := stepped
  obtain ⟨action, now, faults⟩ := event
  unfold step at stepped
  simp only at stepped
  generalize armed : ({ runner with faults := faults } : JobsRunner) =
    started at stepped
  have store : runner.store = started.store := by
    rw [← armed]
  rw [store]
  cases action with
  | create id type input message =>
      simp only [perform] at stepped
      split at stepped
      · cases stepped
      rename_i fresh
      have registers : Triple (fun _ => True)
          (create id type input message now)
          (fun _ runner => (runner.store.get id).isSome)
          (fun _ _ => True) :=
        create_registers fun id => .schedule (.runScheduled id)
      have registered := registers started trivial
      split at stepped
      · rename_i job reached run
        cases stepped
        rw [run] at registered
        exact .inr ⟨none, id, rfl, by simpa using fresh, registered⟩
      · cases stepped
        exact .inl rfl
  | createQueued queueKey id type input message =>
      simp only [perform] at stepped
      split at stepped
      · cases stepped
      rename_i fresh
      have registers : Triple (fun _ => True)
          (createQueued queueKey id type input message now)
          (fun _ runner => (runner.store.get id).isSome)
          (fun _ _ => True) :=
        create_registers (Memory.enqueue queueKey)
      have registered := registers started trivial
      split at stepped
      · rename_i job reached run
        cases stepped
        rw [run] at registered
        exact .inr ⟨some queueKey, id, rfl, by simpa using fresh,
          registered⟩
      · cases stepped
        exact .inl rfl
  | _ =>
      left
      exact step_silent original rfl

/-- The queues are orderly, and every job that was created has a row. -/
structure InOrder (runner : JobsRunner) (past : List Observation) :
    Prop where
  orderly : SerialQueues.Orderly runner.memory.lanes
    (past.map Observation.label)
  rows : ∀ entry ∈ createdJobs (past.map Observation.label),
    (runner.store.get entry.2).isSome
  once : ((createdJobs (past.map Observation.label)).map Prod.snd).Nodup

theorem mem_createdJobs
    {queue : Option String} {id : String}
    {past : List (Label String String)}
    (created : id ∈ createdOn queue past) :
    (queue, id) ∈ createdJobs past := by
  obtain ⟨entry, member, rfl⟩ := List.mem_map.mp created
  obtain ⟨listed, owner⟩ := List.mem_filter.mp member
  have same : entry.1 = queue := by simpa using owner
  rw [← same]
  exact listed

theorem InOrder.step
    {past now : List Observation}
    (inOrder : InOrder runner past)
    (stepped : Jobs.step runner event = some (next, now))
    (alive : event.action ≠ .restart)
    (returns : CatchReturns runner event) :
    InOrder next (past ++ now) := by
  have marks := step_marks stepped alive
  have created : createdJobs ((past ++ now).map Observation.label) =
      createdJobs (past.map Observation.label) ++
        createdJobs (now.map Observation.label) := by
    simp [createdJobs]
  refine ⟨?_, ?_, ?_⟩
  · rw [List.map_append]
    refine inOrder.orderly.step ?_ (step_lanes stepped alive)
    intro key job listed
    exact ⟨(by simp), returns, inOrder.rows _ (mem_createdJobs listed)⟩
  · intro entry member
    rw [created] at member
    rcases List.mem_append.mp member with earlier | new
    · exact marks.present _ (inOrder.rows entry earlier)
    · rcases step_created stepped with none | ⟨queue, id, single, _, row⟩
      · rw [none] at new
        cases new
      · rw [single] at new
        cases List.mem_singleton.mp new
        exact row
  · rw [created, List.map_append]
    rcases step_created stepped with none | ⟨queue, id, single, fresh, _⟩
    · rw [none, List.map_nil, List.append_nil]
      exact inOrder.once
    · rw [single]
      refine List.Nodup.append inOrder.once (List.nodup_singleton _) ?_
      intro other member same
      rw [List.map_singleton, List.mem_singleton] at same
      obtain ⟨entry, listed, rfl⟩ := List.mem_map.mp member
      have row := inOrder.rows entry listed
      rw [same] at row
      change (runner.store.get id).isSome at row
      rw [fresh] at row
      cases row

def calledJobs (past : List Observation) : List String :=
  past.filterMap fun output =>
    match output with
    | .called _ jobId => some jobId
    | _ => none

theorem calledJobs_append (first second : List Observation) :
    calledJobs (first ++ second) =
      calledJobs first ++ calledJobs second := by
  simp [calledJobs]

theorem calledJobs_eq (past : List Observation) :
    calledJobs past =
      (startedJobs (past.map Observation.label)).map Prod.snd := by
  simp only [calledJobs, startedJobs, List.filterMap_map,
    List.map_filterMap]
  apply List.filterMap_congr
  intro output _
  cases output <;> rfl

theorem mem_calledJobs {id : String} :
    id ∈ calledJobs past ↔ ∃ queue, .called queue id ∈ past := by
  simp only [calledJobs, List.mem_filterMap]
  constructor
  · rintro ⟨output, member, found⟩
    cases output with
    | called queue jobId =>
        cases found
        exact ⟨queue, member⟩
    | _ => cases found
  · rintro ⟨queue, member⟩
    exact ⟨_, member, rfl⟩

/-- The job has not been called, and if it ever gets its turn it is marked. -/
def Skipped
    (id : String) (runner : JobsRunner) (past : List Observation) : Prop :=
  id ∉ calledJobs past ∧
    (id ∈ runner.memory.cancelled ∨
      id ∈ runner.memory.runs.map RunCall.jobId)

theorem lanes_jobs (memory : Memory) :
    memory.lanes.calls.map SerialQueues.Call.job =
      memory.runs.map RunCall.jobId := by
  simp [Memory.lanes, RunCall.scheduler, Function.comp_def]

theorem Skipped.step
    {id : String}
    {past now : List Observation}
    (skipped : Skipped id runner past)
    (reached : InOrder next (past ++ now))
    (stepped : Jobs.step runner event = some (next, now))
    (alive : event.action ≠ .restart) : Skipped id next (past ++ now) := by
  have marks := step_marks stepped alive
  have calls := (step_lanes stepped alive).calls
  rw [lanes_jobs, lanes_jobs] at calls
  have kept : ∀ job ∈ runner.memory.runs.map RunCall.jobId,
      job ∈ next.memory.runs.map RunCall.jobId := by
    intro job member
    rcases calls with ⟨same, _⟩ | ⟨new, grown, _⟩
    · rw [same]
      exact member
    · rw [grown]
      exact List.mem_append_left _ member
  refine ⟨?_, ?_⟩
  · rw [calledJobs_append, List.mem_append]
    rintro (earlier | new)
    · exact skipped.1 earlier
    · obtain ⟨queue, shown⟩ := mem_calledJobs.mp new
      rcases skipped.2 with marked | begun
      · exact marks.unmarked queue id shown marked
      · -- The job would be called a second time.
        rcases calls with ⟨_, nothing⟩ | ⟨job, grown, only⟩
        · rw [calledJobs_eq, nothing] at new
          cases new
        · rw [calledJobs_eq] at new
          obtain ⟨entry, member, equality⟩ := List.mem_map.mp new
          have same : id = job := by rw [← equality, only entry member]
          have once := reached.orderly.called_once reached.once
          rw [lanes_jobs, grown] at once
          rw [same] at begun
          exact (List.nodup_append.mp once).2.2 job begun job
            List.mem_cons_self rfl
  · rcases skipped.2 with marked | begun
    · exact marks.marked id marked
    · exact .inr (kept id begun)

theorem inOrder_new (store : JobsStore) (now : String) :
    InOrder (JobsRunner.new store now) [] := by
  have memory : (JobsRunner.new store now).memory = Memory.empty :=
    (storeTouches_recover now).memory _
  refine ⟨?_, nofun, List.nodup_nil⟩
  rw [memory]
  exact SerialQueues.orderly_empty

/-- The jobs put into the queue of a key, in order. -/
def enqueuedJobs (queueKey : String) (past : List Observation) :
    List String :=
  past.filterMap fun output =>
    match output with
    | .enqueued owner jobId => if owner = queueKey then some jobId else none
    | _ => none

/-- The jobs of a key whose tasks were called, in order. -/
def calledFrom (queueKey : String) (past : List Observation) :
    List String :=
  past.filterMap fun output =>
    match output with
    | .called owner jobId =>
        if owner = some queueKey then some jobId else none
    | _ => none

theorem enqueuedJobs_eq (queueKey : String) (past : List Observation) :
    enqueuedJobs queueKey past =
      createdOn (some queueKey) (past.map Observation.label) := by
  unfold enqueuedJobs createdOn SerialQueues.onQueue createdJobs
  induction past with
  | nil => rfl
  | cons output rest ih =>
      cases output with
      | scheduled jobId =>
          simpa [Observation.label] using ih
      | enqueued owner jobId =>
          by_cases same : owner = queueKey <;>
            simpa [Observation.label, same] using ih
      | called owner jobId =>
          simpa [Observation.label] using ih

theorem calledFrom_eq (queueKey : String) (past : List Observation) :
    calledFrom queueKey past =
      startedOn (some queueKey) (past.map Observation.label) := by
  unfold calledFrom startedOn SerialQueues.onQueue startedJobs
  induction past with
  | nil => rfl
  | cons output rest ih =>
      cases output with
      | scheduled jobId =>
          simpa [Observation.label] using ih
      | enqueued owner jobId =>
          simpa [Observation.label] using ih
      | called owner jobId =>
          by_cases same : owner = some queueKey <;>
            simpa [Observation.label, same] using ih

def Memory.Draining (memory : Memory) (queueKey : String) : Prop :=
  ∃ thread ∈ memory.threads, thread.drains = some queueKey

instance (memory : Memory) (queueKey : String) :
    Decidable (memory.Draining queueKey) :=
  inferInstanceAs (Decidable (∃ thread ∈ memory.threads, _))

/-- What the queues guarantee: tasks of a key are called in the order of their
creation, no task is called twice, one task of a key runs at a time, a queue
has a drain, the drain waits for nothing but a running task, and a job that was
enqueued has had its turn or is in the queue. -/
structure QueuesServe (runner : JobsRunner) (past : List Observation) :
    Prop where
  in_order : ∀ queueKey,
    (calledFrom queueKey past).Sublist (enqueuedJobs queueKey past)
  once : (calledJobs past).Nodup
  exclusive : ∀ (queueKey : String) (first second : Nat)
      (one other : RunCall),
    runner.memory.runs[first]? = some one →
    runner.memory.runs[second]? = some other →
    one.queue = some queueKey → other.queue = some queueKey →
    one.phase = .awaiting → other.phase = .awaiting → first = second
  drained : ∀ queueKey, ¬ runner.memory.Draining queueKey →
    runner.memory.queues.lookup queueKey = none
  never_stuck : ∀ queueKey run,
    .drainAwaits queueKey run ∈ runner.memory.threads →
      ∃ call, runner.memory.runs[run]? = some call ∧
        (call.phase = .awaiting ∨ call.phase = .returned)
  served : ∀ queueKey, ∀ jobId ∈ enqueuedJobs queueKey past,
    jobId ∈ runner.memory.runs.map RunCall.jobId ∨
      ∃ queue, runner.memory.queues.lookup queueKey = some queue ∧
        jobId ∈ queue

theorem calls_place {memory : Memory} {run : Nat} {call : RunCall}
    (place : memory.runs[run]? = some call) :
    memory.lanes.calls[run]? = some call.scheduler := by
  change (memory.runs.map RunCall.scheduler)[run]? = _
  rw [List.getElem?_map, place]
  rfl

theorem InOrder.drained
    {runner : JobsRunner}
    (inOrder : InOrder runner past) {queueKey : String}
    {queue : List String}
    (present : runner.memory.queues.lookup queueKey = some queue) :
    runner.memory.Draining queueKey := by
  have found : runner.memory.lanes.queues queueKey = some queue := present
  obtain ⟨thread, member, owner⟩ := inOrder.orderly.drained found
  obtain ⟨source, listed, rfl⟩ := List.mem_map.mp member
  refine ⟨source, listed, ?_⟩
  cases source with
  | runScheduled jobId => cases owner
  | drainScheduled key => exact owner
  | drainAwaits key run => exact owner

theorem InOrder.serve
    {runner : JobsRunner}
    (inOrder : InOrder runner past) : QueuesServe runner past where
  in_order queueKey := by
    rw [calledFrom_eq, enqueuedJobs_eq]
    exact inOrder.orderly.started_in_order queueKey
  once := by
    rw [calledJobs_eq]
    exact inOrder.orderly.started_once inOrder.once
  exclusive queueKey first second one other onePlace otherPlace oneOwner
      otherOwner oneRuns otherRuns := by
    have running : ∀ {call : RunCall}, call.phase = .awaiting →
        call.scheduler.phase = .running := by
      intro call awaits
      change call.phase.scheduler = .running
      rw [awaits]
      rfl
    exact inOrder.orderly.exclusive (calls_place onePlace)
      (calls_place otherPlace) oneOwner otherOwner (running oneRuns)
      (running otherRuns)
  drained queueKey idle := by
    cases present : runner.memory.queues.lookup queueKey with
    | none => rfl
    | some queue => exact absurd (inOrder.drained present) idle
  never_stuck queueKey run awaits := by
    have member : SerialQueues.Thread.awaits queueKey run ∈
        runner.memory.lanes.threads :=
      List.mem_map_of_mem (f := Thread.scheduler) awaits
    obtain ⟨call, place, _, phase⟩ :=
      inOrder.orderly.awaited_running member
    obtain ⟨source, found, rfl⟩ : ∃ source,
        runner.memory.runs[run]? = some source ∧
          source.scheduler = call := by
      simpa [Memory.lanes] using place
    refine ⟨source, found, ?_⟩
    cases shape : source.phase with
    | awaiting => exact .inl rfl
    | returned => exact .inr rfl
    | rejected =>
        change source.phase.scheduler = .running ∨
          source.phase.scheduler = .done at phase
        rw [shape] at phase
        rcases phase with wrong | wrong <;> cases wrong
  served queueKey jobId enqueued := by
    rw [enqueuedJobs_eq] at enqueued
    rcases inOrder.orderly.called_or_waiting enqueued with called | waits
    · left
      rw [← lanes_jobs]
      obtain ⟨call, member, rfl⟩ := List.mem_map.mp called
      exact List.mem_map_of_mem (List.mem_filter.mp member).1
    · exact .inr waits

/-- In a process that is not restarted and whose drains make no call with a
`catch` block that throws, every state is in order. -/
theorem inOrder_run
    {store : JobsStore} {now : String} {events : List JobsStep}
    {final : JobsRunner}
    (returns : Meets step
      (fun runner event =>
        event.action ≠ .restart ∧ CatchReturns runner event)
      (JobsRunner.new store now) events)
    (run : execute step (JobsRunner.new store now) events =
      some (final, outputs)) : InOrder final outputs :=
  execute_induction_of_meets
    (fun _ _ _ _ _ inOrder condition stepped =>
      inOrder.step stepped condition.1 condition.2)
    (inOrder_new store now) returns run

/-- Within one process, and as long as no `catch` block of a call that a drain
makes throws, the queues serve every job, and a job cancelled before its turn is
skipped. -/
theorem queues_serve
    (store : JobsStore) (now : String) (events : List JobsStep)
    (final : JobsRunner) (outputs : List Observation)
    (returns : Meets step
      (fun runner event =>
        event.action ≠ .restart ∧ CatchReturns runner event)
      (JobsRunner.new store now) events)
    (run : execute step (JobsRunner.new store now) events =
      some (final, outputs)) :
    QueuesServe final outputs ∧
      ∀ earlier later jobId time faults middle shown row result,
        events = earlier ++ ⟨.cancel jobId, time, faults⟩ :: later →
        execute step (JobsRunner.new store now) earlier =
          some (middle, shown) →
        middle.store.get jobId = some row → row.status.active →
        jobId ∉ calledJobs shown →
        (cancel jobId time { middle with faults := faults }).1 =
          .ok result →
        jobId ∉ calledJobs outputs := by
  refine ⟨(inOrder_run returns run).serve, ?_⟩
  intro earlier later jobId time faults middle shown row result split
    before found active uncalled accepted
  subst split
  obtain ⟨reached, visible, after, run', rest, rfl⟩ :=
    execute_append_eq_some run
  cases before.symm.trans run'
  obtain ⟨start, remaining⟩ := returns.append before
  have inOrder := inOrder_run start before
  have marks := cancel_marks jobId time active
    { middle with faults := faults } found
  obtain ⟨next, now', afterwards, stepped, continued, rfl⟩ :=
    execute_cons_eq_some rest
  cases Option.some.inj stepped
  have skipped : Skipped jobId
      (cancel jobId time { middle with faults := faults }).2
      (shown ++ []) := by
    rw [List.append_nil]
    refine ⟨uncalled, .inl ?_⟩
    generalize cancel jobId time { middle with faults := faults } = ended
      at marks accepted ⊢
    obtain ⟨outcome, runner⟩ := ended
    cases accepted
    exact marks
  have cancelled : InOrder
      (cancel jobId time { middle with faults := faults }).2
      (shown ++ []) :=
    inOrder.step stepped (by simp) remaining.1.2
  have both := execute_induction_from
    (motive := fun runner past =>
      InOrder runner past ∧ Skipped jobId runner past)
    (fun _ _ _ _ _ holds condition stepped =>
      have reached := holds.1.step stepped condition.1 condition.2
      ⟨reached, holds.2.step reached stepped condition.1⟩)
    ⟨cancelled, skipped⟩ (remaining.2 _ _ rfl) continued
  rw [List.append_nil, List.nil_append] at *
  exact both.2.1

def installMod (modId : String) : JobsAction :=
  .createQueued "mods" modId "mod.install" ⟨some "survival", "\x7b\x7d"⟩
    "Mod installation queued"

def steady (action : JobsAction) : JobsStep :=
  ⟨action, "2026-01-01T00:00:00.000Z", ⟨[], []⟩⟩

/-- The task of the first job fails, and then the write of its failure. -/
def wedgingEvents : List JobsStep :=
  [steady (installMod "first"), steady (.resume 0),
    ⟨.taskSettles 0 (.rejected "ENOSPC"), "2026-01-01T00:01:00.000Z",
      ⟨[], [false, true]⟩⟩,
    steady (.resume 0), steady (installMod "second")]

/-- A rejected call of `runJob` ends the drain and leaves its queue behind, and
the next job of the key starts no drain. -/
theorem rejected_call_wedges_queue :
    ∃ final outputs,
      execute step (JobsRunner.new JobsStore.empty "now") wedgingEvents =
          some (final, outputs) ∧
        final.memory.queues.lookup "mods" = some ["first", "second"] ∧
        ¬ final.memory.Draining "mods" := by
  have wedged :
      (execute step (JobsRunner.new JobsStore.empty "now")
        wedgingEvents).map (fun result =>
          decide (result.1.memory.queues.lookup "mods" =
              some ["first", "second"] ∧
            ¬ result.1.memory.Draining "mods")) = some true := by
    decide +kernel
  obtain ⟨⟨final, outputs⟩, run, answer⟩ :=
    Option.map_eq_some_iff.mp wedged
  exact ⟨final, outputs, run, of_decide_eq_true answer⟩

/-- Two jobs of a key, of which the first runs. -/
def twoQueuedEvents : List JobsStep :=
  [steady (installMod "first"), steady (installMod "second"),
    steady (.resume 0)]

def cancelledInTurnEvents : List JobsStep :=
  twoQueuedEvents ++
    [steady (.cancel "second"),
      steady (.taskSettles 0 (.resolved (some "\x7b\x7d"))),
      steady (.resume 0), steady (.resume 0)]

theorem queues_serve_cancelled_in_turn :
    ∃ final outputs,
      execute step (JobsRunner.new JobsStore.empty "now")
          cancelledInTurnEvents = some (final, outputs) ∧
        QueuesServe final outputs ∧ "second" ∉ calledJobs outputs := by
  have succeeds :
      (execute step (JobsRunner.new JobsStore.empty "now")
        cancelledInTurnEvents).isSome := by
    decide +kernel
  obtain ⟨⟨final, outputs⟩, run⟩ := Option.isSome_iff_exists.mp succeeds
  have waiting :
      (execute step (JobsRunner.new JobsStore.empty "now")
        twoQueuedEvents).map (fun result =>
          decide (((result.1.store.get "second").map
              JobRecord.status = some .queued ∧
            "second" ∉ calledJobs result.2) ∧
            (cancel "second" "2026-01-01T00:00:00.000Z"
              { result.1 with faults := ⟨[], []⟩ }).1.isOk)) =
        some true := by
    decide +kernel
  obtain ⟨⟨middle, shown⟩, before, answer⟩ :=
    Option.map_eq_some_iff.mp waiting
  obtain ⟨⟨queued, uncalled⟩, accepted⟩ := of_decide_eq_true answer
  obtain ⟨row, found, status⟩ := Option.map_eq_some_iff.mp queued
  obtain ⟨result, cancelled⟩ : ∃ result,
      (cancel "second" "2026-01-01T00:00:00.000Z"
        { middle with faults := ⟨[], []⟩ }).1 = .ok result := by
    cases outcome : (cancel "second" "2026-01-01T00:00:00.000Z"
        { middle with faults := ⟨[], []⟩ }).1 with
    | error problem =>
        rw [outcome] at accepted
        cases accepted
    | ok result => exact ⟨result, rfl⟩
  have serve := queues_serve JobsStore.empty "now" cancelledInTurnEvents
    final outputs (by decide +kernel) run
  exact ⟨final, outputs, run, serve.1,
    serve.2 twoQueuedEvents _ "second" _ _ middle shown row result rfl
      before found (.inl status) uncalled cancelled⟩

end GravitPanel.Jobs
