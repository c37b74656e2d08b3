import GravitPanel.Jobs.RunnerEffects

/-!
# The runner as a scheduler of keyed queues

Every step of the runner within one process is a step of the scheduler that its
memory shows.
-/

namespace GravitPanel.Jobs

open Program
open SerialQueues (Lanes Label)

theorem lanes_changeRun
    {memory : Memory} {lanes : Lanes String String} (run : Nat)
    (change : RunCall → RunCall) (phase : Phase)
    (same : memory.lanes = lanes)
    (changes : ∀ call, (change call).scheduler =
      { call.scheduler with phase := phase.scheduler }) :
    (memory.changeRun run change).lanes =
      lanes.settle run phase.scheduler := by
  rw [← same]
  have calls :
      (memory.runs.modify run change).map RunCall.scheduler =
        (memory.runs.map RunCall.scheduler).modify run fun call =>
          { call with phase := phase.scheduler } := by
    apply List.ext_getElem?
    intro index
    rw [List.getElem?_map, List.getElem?_modify, List.getElem?_modify,
      List.getElem?_map]
    cases memory.runs[index]? with
    | none => rfl
    | some call =>
        by_cases same : run = index
        · simp [same, changes]
        · simp [same]
  simp [Memory.lanes, Memory.changeRun, Lanes.settle, calls]

theorem settle_call_last
    (lanes : Lanes String String) (queue : Option String) (jobId : String)
    (before after : SerialQueues.Phase) :
    (lanes.call queue jobId before).settle lanes.calls.length after =
      lanes.call queue jobId after := by
  have calls : ∀ earlier : List (SerialQueues.Call String String),
      (earlier ++ [(⟨jobId, queue, before⟩ :
        SerialQueues.Call String String)]).modify earlier.length
          (fun call => { call with phase := after }) =
            earlier ++ [⟨jobId, queue, after⟩] := by
    intro earlier
    induction earlier with
    | nil => rfl
    | cons call rest ih =>
        simpa using ih
  simp [Lanes.call, Lanes.settle, calls]

theorem tryStart_phase (run : Nat) (jobId now : String) :
    Triple (fun _ => True) (tryStart run jobId now)
      (fun phase _ => phase ≠ .rejected) (fun _ _ => True) := by
  refine Triple.bind (triple_true _) fun called => ?_
  cases called with
  | true => exact fun _ _ => by simp
  | false =>
      refine Triple.bind (triple_true _) fun _ => ?_
      exact fun _ _ => by simp

theorem tryFinish_phase
    (run : Nat) (jobId : String) (outcome : TaskOutcome) (now : String) :
    Triple (fun _ => True) (tryFinish run jobId outcome now)
      (fun phase _ => phase ≠ .rejected) (fun _ _ => True) := by
  refine Triple.bind (triple_true _) fun _ => ?_
  refine Triple.bind (triple_true _) fun _ => ?_
  exact fun _ _ => by simp

theorem runJob_returns (run : Nat) (jobId now : String) :
    Triple (Prepared jobId) (runJob run jobId now)
      (fun phase _ => phase ≠ .rejected) (fun _ _ => False) := by
  have read : Triple (Prepared jobId) (get : JobsProgram JobsRunner)
      (fun _ => Prepared jobId) (fun _ _ => False) :=
    fun _ prepared => prepared
  refine read.bind fun runner => ?_
  split
  · exact fun _ _ => nofun
  · have entered : Triple (Prepared jobId)
        (updateMemory fun memory =>
          { memory with running := memory.running.insert jobId run })
        (fun _ => Prepared jobId) (fun _ _ => False) :=
      fun _ prepared => prepared
    exact entered.bind fun _ =>
      guarded_returns (touches_tryStart run jobId now)
        (tryStart_phase run jobId now)

theorem phaseOf_ne_broken
    {program : JobsProgram Phase} {id : String} {runner : JobsRunner}
    (returns : Triple (Prepared id) program
      (fun phase _ => phase ≠ .rejected) (fun _ _ => False))
    (prepared : Prepared id runner) :
    (phaseOf (program runner).1).scheduler ≠ .broken := by
  have reached := returns runner prepared
  generalize program runner = result at reached ⊢
  obtain ⟨outcome, next⟩ := result
  cases outcome with
  | error problem => exact False.elim reached
  | ok phase =>
      cases phase with
      | awaiting => exact nofun
      | returned => exact nofun
      | rejected => exact absurd rfl reached

theorem callRunJob_lanes
    (queue : Option String) (jobId now : String) (runner : JobsRunner) :
    ∃ phase, (callRunJob queue jobId now runner).1.memory.lanes =
        runner.memory.lanes.call queue jobId phase ∧
      (callRunJob queue jobId now runner).2.map Observation.label =
        Lanes.startLabels queue jobId phase ∧
      (Prepared jobId runner → phase ≠ .broken) := by
  have opened := (touches_runJob runner.memory.runs.length jobId now).lanes
      { runner with memory := runner.memory.openCall queue jobId }
  have healthy : Prepared jobId runner → _ := fun prepared =>
    phaseOf_ne_broken (runJob_returns runner.memory.runs.length jobId now)
      (show Prepared jobId
        { runner with memory := runner.memory.openCall queue jobId }
        from prepared)
  unfold callRunJob recordCall
  generalize runJob runner.memory.runs.length jobId now _ = result
    at opened healthy ⊢
  refine ⟨(phaseOf result.1).scheduler, ?_, ?_, healthy⟩
  · have before : result.2.memory.lanes =
        runner.memory.lanes.call queue jobId .running := by
      rw [opened]
      simp [Memory.lanes, Memory.openCall, Lanes.call, RunCall.scheduler,
        Phase.scheduler]
    have settled := lanes_changeRun runner.memory.runs.length
      (fun call =>
        { call with
          phase := phaseOf result.1
          called := decide (phaseOf result.1 = .awaiting) })
      (phaseOf result.1) before fun _ => rfl
    have place : runner.memory.runs.length =
        runner.memory.lanes.calls.length := by
      simp [Memory.lanes]
    rw [settled, place, settle_call_last]
  · cases phaseOf result.1 <;> rfl

theorem lanes_push (queueKey jobId : String) (memory : Memory) :
    (memory.push queueKey jobId).lanes =
      memory.lanes.setQueue queueKey
        (some ((memory.lanes.queues queueKey).getD [] ++ [jobId])) := by
  have queues : ((memory.push queueKey jobId).lanes.queues) =
      Function.update memory.lanes.queues queueKey
        (some ((memory.lanes.queues queueKey).getD [] ++ [jobId])) := by
    funext other
    by_cases same : other = queueKey
    · subst same
      rw [Function.update_self]
      exact AList.lookup_insert _
    · rw [Function.update_of_ne same]
      exact AList.lookup_insert_ne same
  simp only [Lanes.setQueue, ← queues]
  rfl

theorem lanes_shift (queueKey : String) (memory : Memory) :
    (memory.shift queueKey).lanes = memory.lanes.shift queueKey := by
  have queues : (memory.shift queueKey).lanes.queues =
      Function.update memory.lanes.queues queueKey
        ((memory.lanes.queues queueKey).map List.tail) := by
    funext other
    change AList.lookup other (memory.shift queueKey).queues = _
    unfold Memory.shift
    change _ = Function.update (fun key => memory.queues.lookup key)
      queueKey ((memory.queues.lookup queueKey).map List.tail) other
    by_cases same : other = queueKey
    · subst same
      rw [Function.update_self]
      cases present : memory.queues.lookup other with
      | none => exact present
      | some queue => exact AList.lookup_insert _
    · rw [Function.update_of_ne same]
      cases present : memory.queues.lookup queueKey with
      | none => rfl
      | some queue => exact AList.lookup_insert_ne same
  simp only [Lanes.shift, Lanes.setQueue, ← queues]
  unfold Memory.shift
  split <;> rfl

theorem drainLoop_lanes
    (queueKey now : String) (runner : JobsRunner) :
    ∃ phase, (drainLoop queueKey now runner).1.memory.lanes =
        (runner.memory.lanes.loop queueKey phase).1 ∧
      (drainLoop queueKey now runner).2.map Observation.label =
        (runner.memory.lanes.loop queueKey phase).2 ∧
      ∀ jobId rest,
        runner.memory.queues.lookup queueKey = some (jobId :: rest) →
          Prepared jobId runner → phase ≠ .broken := by
  unfold drainLoop
  cases present : runner.memory.queues.lookup queueKey with
  | none =>
      have absent : runner.memory.lanes.queues queueKey = none := present
      refine ⟨.done, ?_, ?_, (by simp)⟩ <;> simp [Lanes.loop, absent]
  | some queue =>
      have found : runner.memory.lanes.queues queueKey = some queue :=
        present
      cases queue with
      | nil =>
          refine ⟨.done, ?_, ?_, (by simp)⟩
          · have queues : (fun key =>
                (runner.memory.queues.erase queueKey).lookup key) =
                Function.update runner.memory.lanes.queues queueKey
                  none := by
              funext other
              by_cases same : other = queueKey
              · subst same
                rw [Function.update_self]
                exact AList.lookup_erase _ _
              · rw [Function.update_of_ne same]
                exact AList.lookup_erase_ne same
            simp only [Lanes.loop, found, Lanes.setQueue, ← queues]
            rfl
          · simp [Lanes.loop, found]
      | cons jobId rest =>
          obtain ⟨phase, lanes, labels, healthy⟩ :=
            callRunJob_lanes (some queueKey) jobId now runner
          refine ⟨phase, ?_, ?_, ?_⟩
          · have length : runner.memory.runs.length =
                runner.memory.lanes.calls.length := by
              simp [Memory.lanes]
            have scheduled : ∀ memory : Memory,
                (memory.schedule (.drainAwaits queueKey
                  runner.memory.runs.length)).lanes =
                    memory.lanes.withThreads (memory.lanes.threads ++
                      [.awaits queueKey runner.memory.runs.length]) := by
              intro memory
              simp [Memory.lanes, Memory.schedule, Lanes.withThreads,
                Thread.scheduler]
            simp only [Lanes.loop, found]
            rw [scheduled, lanes, length]
            rfl
          · simp only [Lanes.loop, found]
            exact labels
          · intro head tail equality prepared
            cases equality
            exact healthy prepared

theorem createRow_spec
    (id type : String) (input : JobInput) (now : String) (memory : Memory) :
    Triple (fun runner => runner.memory = memory)
      (createRow id type input now)
      (fun job runner => job.id = id ∧ runner.memory = memory)
      (fun _ runner => runner.memory = memory) := by
  refine Triple.bind (storeTouches_access.keepsMemory memory) fun _ => ?_
  intro runner same
  exact ⟨rfl, same⟩

theorem create_spec
    (id type : String) (input : JobInput) (queuedMessage now : String)
    (memory : Memory) (after : String → Memory → Memory) :
    Triple (fun runner => runner.memory = memory)
      (do
        let job ← createRow id type input now
        emit job.id .queued queuedMessage (some .none) now
        updateMemory (after job.id)
        pure job)
      (fun _ runner => runner.memory = after id memory)
      (fun _ runner => runner.memory = memory) := by
  refine Triple.bind (createRow_spec id type input now memory)
    fun job => ?_
  have emitted : Triple
      (fun runner => job.id = id ∧ runner.memory = memory)
      (emit job.id .queued queuedMessage (some .none) now)
      (fun _ runner => job.id = id ∧ runner.memory = memory)
      (fun _ runner => runner.memory = memory) := by
    rintro runner ⟨named, same⟩
    have kept := (storeTouches_emit job.id .queued queuedMessage
      (some .none) now).keepsMemory memory runner same
    generalize emit job.id .queued queuedMessage (some .none) now runner =
      result at kept ⊢
    obtain ⟨outcome, next⟩ := result
    cases outcome with
    | error problem => exact kept
    | ok value => exact ⟨named, kept⟩
  refine emitted.bind fun _ => ?_
  refine Triple.bind ?_ fun _ => triple_pure job
  rintro runner ⟨named, same⟩
  change after job.id runner.memory = after id memory
  rw [named, same]

theorem created_memory
    {program : JobsProgram JobRecord} {after : Memory → Memory}
    {runner : JobsRunner}
    (spec : Triple (fun other => other.memory = runner.memory) program
      (fun _ other => other.memory = after runner.memory)
      (fun _ other => other.memory = runner.memory)) :
    (∀ job next, program runner = (.ok job, next) →
        next.memory = after runner.memory) ∧
      ∀ problem next, program runner = (.error problem, next) →
        next.memory = runner.memory := by
  have reached := spec runner rfl
  refine ⟨fun job next run => ?_, fun problem next run => ?_⟩
  · rw [run] at reached
    exact reached
  · rw [run] at reached
    exact reached

theorem lanes_enqueue (queueKey jobId : String) (memory : Memory) :
    (memory.enqueue queueKey jobId).lanes =
      memory.lanes.enqueue queueKey jobId := by
  have pushed := lanes_push queueKey jobId memory
  have length : ((memory.push queueKey jobId).queues.lookup
      queueKey).map List.length =
        some ((memory.queues.lookup queueKey).getD [] ++
          [jobId]).length := by
    simp [Memory.push]
  simp only [Memory.enqueue, Lanes.enqueue, length, Option.some.injEq]
  change _ = if ((memory.queues.lookup queueKey).getD [] ++
    [jobId]).length = 1 then _ else _
  split
  · rw [← pushed]
    simp [Memory.lanes, Memory.schedule, Lanes.withThreads,
      Thread.scheduler, Memory.push]
  · exact pushed

theorem perm_eraseIdx {threads : List Thread} {index : Nat} {thread : Thread}
    (place : threads[index]? = some thread) :
    (threads.map Thread.scheduler).Perm
      (thread.scheduler :: (threads.eraseIdx index).map
        Thread.scheduler) := by
  obtain ⟨bound, rfl⟩ := List.getElem?_eq_some_iff.mp place
  have perm := (List.getElem_cons_eraseIdx_perm bound).symm
  simpa using perm.map Thread.scheduler

theorem resumeJob_ends
    (run : Nat) (jobId : String) (outcome : TaskOutcome) (now : String) :
    Triple (fun _ => True) (resumeJob run jobId outcome now)
      (fun phase _ => phase = .returned) (fun _ _ => True) := by
  refine Triple.handle (fun _ _ => True) ?_ fun error => ?_
  · refine Triple.bind (triple_true _) fun _ => ?_
    refine Triple.bind (triple_true _) fun _ => ?_
    exact fun _ _ => rfl
  · apply Triple.cleanUp
    refine Triple.bind (triple_true _) fun _ => ?_
    exact fun _ _ => rfl

theorem settleTask_lanes
    (run : Nat) (call : RunCall) (outcome : TaskOutcome) (now : String)
    (runner : JobsRunner) :
    ∃ phase, phase ≠ .running ∧
      (settleTask run call outcome now runner).memory.lanes =
        runner.memory.lanes.settle run phase ∧
      (Prepared call.jobId runner → phase ≠ .broken) := by
  have kept :=
    (touches_resumeJob run call.jobId outcome now).lanes runner
  have ends := resumeJob_ends run call.jobId outcome now runner trivial
  have returns : Triple (Prepared call.jobId)
      (resumeJob run call.jobId outcome now)
      (fun phase _ => phase ≠ .rejected) (fun _ _ => False) :=
    guarded_returns (touches_tryFinish run call.jobId outcome now)
      (tryFinish_phase run call.jobId outcome now)
  have healthy : Prepared call.jobId runner → _ :=
    phaseOf_ne_broken returns
  unfold settleTask
  generalize resumeJob run call.jobId outcome now runner = result
    at kept ends healthy ⊢
  have settled := lanes_changeRun run
    (fun call => { call with phase := phaseOf result.1 })
    (phaseOf result.1) kept fun _ => rfl
  refine ⟨(phaseOf result.1).scheduler, ?_, settled, healthy⟩
  obtain ⟨ended, reached⟩ := result
  cases ended with
  | error problem => exact nofun
  | ok phase =>
      change phase = .returned at ends
      rw [ends]
      exact nofun

def Thread.drains : Thread → Option String
  | .runScheduled _ => none
  | .drainScheduled queueKey => some queueKey
  | .drainAwaits queueKey _ => some queueKey

/-- A step that neither makes nor continues a call of a drain. -/
def outsideDrains (runner : JobsRunner) (action : JobsAction) : Bool :=
  match action with
  | .resume index =>
      runner.memory.threads[index]?.map Thread.drains = some none
  | .taskSettles run _ =>
      runner.memory.runs[run]?.map RunCall.queue = some none
  | _ => true

/-- The `catch` block of a call that a drain awaits, or is about to make, does
not throw in this step. -/
def CatchReturns (runner : JobsRunner) (event : JobsStep) : Prop :=
  true ∉ event.faults.handler ∨ outsideDrains runner event.action = true

instance (runner : JobsRunner) (event : JobsStep) :
    Decidable (CatchReturns runner event) :=
  inferInstanceAs (Decidable (_ ∨ _))

/-- The calls of a step that cannot break. -/
def Trusted
    (runner : JobsRunner) (event : JobsStep) (queue : Option String)
    (jobId : String) : Prop :=
  queue ≠ none ∧ CatchReturns runner event ∧
    (runner.store.get jobId).isSome

theorem step_lanes
    {runner next : JobsRunner} {event : JobsStep}
    {outputs : List Observation}
    (stepped : step runner event = some (next, outputs))
    (alive : event.action ≠ .restart) :
    SerialQueues.Step (Trusted runner event) runner.memory.lanes
      (outputs.map Observation.label) next.memory.lanes := by
  obtain ⟨action, now, faults⟩ := event
  unfold step at stepped
  simp only at stepped alive
  generalize armed : ({ runner with faults := faults } : JobsRunner) =
    started at stepped
  have memory : runner.memory = started.memory := by
    rw [← armed]
  have ready : ∀ {jobId : String}, true ∉ faults.handler →
      (runner.store.get jobId).isSome → Prepared jobId started := by
    intro jobId quiet present
    rw [← armed]
    exact ⟨quiet, present⟩
  rw [memory]
  cases action with
  | create id type input message =>
      simp only [perform] at stepped
      split at stepped
      · cases stepped
      obtain ⟨ended, threw⟩ := created_memory
        (create_spec id type input message now started.memory
          fun id => .schedule (.runScheduled id))
      split at stepped
      · rename_i job reached run
        cases stepped
        rw [ended job _ run]
        have shape : (started.memory.schedule (.runScheduled id)).lanes =
            started.memory.lanes.withThreads
              (started.memory.lanes.threads ++ [.single id]) := by
          simp [Memory.lanes, Memory.schedule, Lanes.withThreads,
            Thread.scheduler]
        rw [shape]
        exact .schedule _ _
      · rename_i problem reached run
        cases stepped
        rw [threw problem _ run]
        exact .stay _
  | createQueued queueKey id type input message =>
      simp only [perform] at stepped
      split at stepped
      · cases stepped
      obtain ⟨ended, threw⟩ := created_memory
        (create_spec id type input message now started.memory
          (Memory.enqueue queueKey))
      split at stepped
      · rename_i job reached run
        cases stepped
        rw [ended job _ run, lanes_enqueue]
        exact .enqueue _ _ _
      · rename_i problem reached run
        cases stepped
        rw [threw problem _ run]
        exact .stay _
  | cancel jobId =>
      cases stepped
      rw [(touches_cancel jobId now).lanes]
      exact .stay _
  | resume index =>
      simp only [perform] at stepped
      split at stepped
      · cases stepped
      rename_i thread place
      have threads := perm_eraseIdx place
      -- A drain cannot be mistaken for a job that is scheduled on its own.
      have quiet : CatchReturns runner ⟨.resume index, now, faults⟩ →
          thread.drains ≠ none → true ∉ faults.handler := by
        rintro (quiet | single) drain
        · exact quiet
        · have alone : runner.memory.threads[index]?.map Thread.drains =
              some none := of_decide_eq_true single
          rw [memory, place] at alone
          exact absurd (Option.some.inj alone) drain
      have remaining : (started.memory.dropThread index).lanes =
          started.memory.lanes.withThreads
            ((started.memory.threads.eraseIdx index).map
              Thread.scheduler) := rfl
      cases thread with
      | runScheduled jobId =>
          have result : callRunJob none jobId now
              { started with memory := started.memory.dropThread index } =
                (next, outputs) := Option.some.inj stepped
          obtain ⟨phase, lanes, labels, _⟩ := callRunJob_lanes none jobId
            now { started with memory := started.memory.dropThread index }
          rw [result] at lanes labels
          rw [lanes, labels, remaining]
          exact .single _ _ _ _ threads fun trust => absurd rfl trust.1
      | drainScheduled queueKey =>
          have result : drainLoop queueKey now
              { started with memory := started.memory.dropThread index } =
                (next, outputs) := Option.some.inj stepped
          obtain ⟨phase, lanes, labels, healthy⟩ :=
            drainLoop_lanes queueKey now
              { started with memory := started.memory.dropThread index }
          rw [result] at lanes labels
          rw [lanes, labels, remaining]
          refine .drain _ _ _ _ threads ?_
          intro jobId tail present trust
          exact healthy jobId tail present
            (ready (quiet trust.2.1 (fun same => by cases same)) trust.2.2)
      | drainAwaits queueKey run =>
          have awaited : ∀ {call : RunCall},
              started.memory.runs[run]? = some call →
              started.memory.lanes.calls[run]? = some call.scheduler := by
            intro call found
            change (started.memory.runs.map _)[run]? = _
            rw [List.getElem?_map, found]
            rfl
          simp only [continueThread] at stepped
          split at stepped
          · rename_i ended
            obtain ⟨call, found, returned⟩ :=
              Option.map_eq_some_iff.mp ended
            have result := Option.some.inj stepped
            obtain ⟨phase, lanes, labels, healthy⟩ :=
              drainLoop_lanes queueKey now
                { started with
                  memory :=
                    (started.memory.dropThread index).shift queueKey }
            rw [result, lanes_shift, remaining] at lanes labels
            rw [lanes, labels]
            refine .resume _ _ run _ call.scheduler _ threads
              (awaited found) ?_ ?_
            · change call.phase.scheduler = .done
              rw [returned]
              rfl
            · intro jobId tail present trust
              apply healthy jobId tail
              · have queues := congrArg (fun lanes => lanes.queues queueKey)
                  (lanes_shift queueKey (started.memory.dropThread index))
                exact queues.trans present
              · exact ready (quiet trust.2.1 (fun same => by cases same)) trust.2.2
          · rename_i ended
            obtain ⟨call, found, rejected⟩ :=
              Option.map_eq_some_iff.mp ended
            cases stepped
            rw [remaining]
            refine .stop _ _ run _ call.scheduler threads (awaited found) ?_
            change call.phase.scheduler = .broken
            rw [rejected]
            rfl
          · cases stepped
  | taskLogs run message =>
      simp only [perform] at stepped
      split at stepped
      · cases stepped
      split at stepped
      · cases stepped
        rw [(storeTouches_contextLog run _ message now).memory]
        exact .stay _
      · cases stepped
  | taskProgress run value message =>
      simp only [perform] at stepped
      split at stepped
      · cases stepped
      split at stepped
      · cases stepped
        rw [(storeTouches_contextProgress run _ value message now).memory]
        exact .stay _
      · cases stepped
  | taskSettles run outcome =>
      simp only [perform] at stepped
      split at stepped
      · cases stepped
      rename_i call place
      split at stepped
      · rename_i awaits
        have result : settleTask run call outcome now started = next :=
          congrArg Prod.fst (Option.some.inj stepped)
        have silent : outputs = [] :=
          (congrArg Prod.snd (Option.some.inj stepped)).symm
        obtain ⟨phase, ended, lanes, healthy⟩ :=
          settleTask_lanes run call outcome now started
        rw [← result, silent, lanes]
        refine .settle _ run call.scheduler _ ?_ ?_ ended ?_
        · change (started.memory.runs.map _)[run]? = _
          rw [List.getElem?_map, place]
          rfl
        · change call.phase.scheduler = .running
          rw [awaits]
          rfl
        · rintro ⟨queued, returns, present⟩
          apply healthy
          refine ready ?_ present
          rcases returns with quiet | single
          · exact quiet
          · have alone : runner.memory.runs[run]?.map RunCall.queue =
                some none := of_decide_eq_true single
            rw [memory, place] at alone
            exact absurd (Option.some.inj alone) queued
      · cases stepped
  | restart => exact absurd rfl alive

end GravitPanel.Jobs
