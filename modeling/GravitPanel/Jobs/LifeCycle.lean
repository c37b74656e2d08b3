import GravitPanel.Jobs.Stages

/-!
# The life cycle of jobs

With a database that does not throw, a job is closed once, by an event that
agrees with its row, and keeps its final status over every run of the runner,
with any tasks, cancel calls and restarts.
-/

namespace GravitPanel.Jobs

open Program Execution
open SerialQueues (Lanes Label createdJobs)

/-- The queues are in order and every job is at some stage. -/
structure Living (runner : JobsRunner) (recent : List Observation) :
    Prop where
  inOrder : InOrder runner recent
  staged : Staged runner.store runner.memory recent

section Run

variable {runner next : JobsRunner} {recent now : List Observation}

theorem InOrder.called_once (inOrder : InOrder runner recent) :
    (runner.memory.runs.map RunCall.jobId).Nodup := by
  rw [← lanes_jobs]
  exact inOrder.orderly.called_once inOrder.once

theorem callable_of_reached
    (inOrder : InOrder runner recent)
    (reached : InOrder next (recent ++ now))
    (quiet : createdJobs (now.map Observation.label) = []) {id : String}
    (grown : next.memory.runs.map RunCall.jobId =
      runner.memory.runs.map RunCall.jobId ++ [id]) :
    id ∈ handedOver recent ∧ (runner.store.get id).isSome ∧
      id ∉ runner.memory.runs.map RunCall.jobId := by
  have created : id ∈ handedOver recent := by
    have called := reached.orderly.called_subperm.subset (a := id) (by
      rw [lanes_jobs, grown]
      simp)
    change id ∈ handedOver (recent ++ now) at called
    rw [handedOver_append, show handedOver now = [] by
      simp [handedOver, quiet], List.append_nil] at called
    exact called
  refine ⟨created, ?_, ?_⟩
  · obtain ⟨entry, listed, rfl⟩ := List.mem_map.mp created
    exact inOrder.rows entry listed
  · intro earlier
    have once := reached.called_once
    rw [grown] at once
    exact (List.nodup_append.mp once).2.2 id earlier id
      List.mem_cons_self rfl

theorem create_reliable
    (store : JobsStore) (memory : Memory) (id type : String)
    (input : JobInput) (message time : String) :
    ∃ job : JobRecord, job.id = id ∧ job.status = .queued ∧
      job.input = input ∧
      create id type input message time (reliable store memory) =
        (.ok job, reliable (store.enter job message time)
          (memory.schedule (.runScheduled id))) ∧
      ∀ queueKey,
        createQueued queueKey id type input message time
          (reliable store memory) =
            (.ok job, reliable (store.enter job message time)
              (memory.enqueue queueKey id)) :=
  ⟨{ id, type, status := .queued, progress := .none, input
     result := none, error := none, createdAt := time, startedAt := none
     finishedAt := none }, rfl, rfl, rfl, rfl, fun _ => rfl⟩

theorem Memory.agrees_enqueue (memory : Memory) (queueKey jobId id : String) :
    memory.Agrees (memory.enqueue queueKey jobId) id := by
  have pushed : memory.Agrees (memory.push queueKey jobId) id :=
    ⟨Iff.rfl, rfl, fun _ _ _ => Iff.rfl⟩
  unfold Memory.enqueue
  simp only
  split
  · have scheduled : (memory.push queueKey jobId).Agrees
        ((memory.push queueKey jobId).schedule (.drainScheduled queueKey))
          id := ⟨Iff.rfl, rfl, fun _ _ _ => Iff.rfl⟩
    exact pushed.trans scheduled
  · exact pushed

theorem Memory.agrees_shift (memory : Memory) (queueKey id : String) :
    memory.Agrees (memory.shift queueKey) id := by
  unfold Memory.shift
  split
  · exact ⟨Iff.rfl, rfl, fun _ _ _ => Iff.rfl⟩
  · exact ⟨Iff.rfl, rfl, fun _ _ _ => Iff.rfl⟩

theorem drainLoop_runs
    {queueKey id : String} {rest : List String} (time : String)
    (start : JobsRunner)
    (queued : start.memory.queues.lookup queueKey = some (id :: rest)) :
    (drainLoop queueKey time start).1.memory.runs.map RunCall.jobId =
      start.memory.runs.map RunCall.jobId ++ [id] := by
  unfold drainLoop
  rw [queued]
  exact callRunJob_runs (some queueKey) id time start

theorem evolves_continueThread
    {late : String → Prop} (living : Living runner recent)
    (reached : InOrder next (recent ++ now)) {thread : Thread}
    {time : String} {memory : Memory}
    (agrees : ∀ id, runner.memory.Agrees memory id)
    (same : memory.runs = runner.memory.runs)
    (continued : continueThread thread time
      (reliable runner.store memory) = some (next, now)) :
    Evolves late recent now runner.store runner.memory next.store
      next.memory := by
  have staged := living.staged.agrees agrees
  have looped : ∀ (queueKey : String) (start : Memory),
      start.runs = runner.memory.runs →
      (∀ id, runner.memory.Agrees start id) →
      drainLoop queueKey time (reliable runner.store start) =
        (next, now) →
      Evolves late recent now runner.store runner.memory next.store
        next.memory := by
    intro queueKey start runs agrees equality
    refine (evolves_drainLoop (living.staged.agrees agrees) queueKey time
      ?_ equality).agrees agrees (Memory.agrees_of_same rfl rfl rfl)
    intro id rest queued
    have quiet := drainLoop_created queueKey time
      (reliable runner.store start)
    have grown := drainLoop_runs time
      (reliable runner.store start) queued
    rw [equality] at quiet grown
    have before : (reliable runner.store start).memory.runs =
        runner.memory.runs := runs
    rw [before] at grown
    change _ ∧ _ ∧ id ∉ start.runs.map RunCall.jobId
    rw [runs]
    exact callable_of_reached living.inOrder reached quiet grown
  cases thread with
  | runScheduled id =>
      have equality : callRunJob none id time
          (reliable runner.store memory) = (next, now) :=
        Option.some.inj continued
      have quiet := callRunJob_created none id time
        (reliable runner.store memory)
      have grown := callRunJob_runs none id time
        (reliable runner.store memory)
      rw [equality] at quiet grown
      have before : (reliable runner.store memory).memory.runs =
          runner.memory.runs := same
      rw [before] at grown
      obtain ⟨created, present, uncalled⟩ :=
        callable_of_reached living.inOrder reached quiet grown
      rw [← same] at uncalled
      exact (evolves_call staged created present uncalled none time
        equality).agrees agrees (Memory.agrees_of_same rfl rfl rfl)
  | drainScheduled queueKey =>
      exact looped queueKey memory same agrees (Option.some.inj continued)
  | drainAwaits queueKey run =>
      simp only [continueThread] at continued
      split at continued
      · refine looped queueKey (memory.shift queueKey) ?_ ?_
          (Option.some.inj continued)
        · unfold Memory.shift
          split
          · exact same
          · exact same
        · exact fun id =>
            (agrees id).trans (memory.agrees_shift queueKey id)
      · cases continued
        exact (evolves_stay staged).agrees agrees
          (Memory.agrees_of_same rfl rfl rfl)
      · cases continued

/-- A step within one process, with no access that throws, keeps the invariant
and is a step in the life of each job. -/
theorem Living.step
    {event : JobsStep} (living : Living runner recent)
    (stepped : Jobs.step runner event = some (next, now))
    (calm : event.faults = ⟨[], []⟩) (alive : event.action ≠ .restart) :
    Living next (recent ++ now) ∧
      Evolves (fun id => LateCall id runner event.action) recent now
        runner.store runner.memory next.store next.memory := by
  have returns : CatchReturns runner event := by
    refine .inl ?_
    rw [calm]
    exact List.not_mem_nil
  have reached := living.inOrder.step stepped alive returns
  suffices evolves : Evolves (fun id => LateCall id runner event.action)
      recent now runner.store runner.memory next.store next.memory from
    ⟨⟨reached, evolves.staged living.staged.wellFormed⟩, evolves⟩
  obtain ⟨action, time, faults⟩ := event
  cases calm
  change perform action time (reliable runner.store runner.memory) =
    some (next, now) at stepped
  cases action with
  | create id type input message =>
      obtain ⟨job, rfl, queued, _, created, _⟩ := create_reliable
        runner.store runner.memory id type input message time
      simp only [perform, created] at stepped
      split at stepped
      · cases stepped
      · rename_i absent
        cases stepped
        exact evolves_enter living.staged job queued
          (Option.not_isSome_iff_eq_none.mp absent) message time
          (Memory.agrees_of_same rfl rfl rfl) rfl (by simp)
  | createQueued queueKey id type input message =>
      obtain ⟨job, rfl, queued, _, _, created⟩ := create_reliable
        runner.store runner.memory id type input message time
      simp only [perform, created] at stepped
      split at stepped
      · cases stepped
      · rename_i absent
        cases stepped
        exact evolves_enter living.staged job queued
          (Option.not_isSome_iff_eq_none.mp absent) message time
          (runner.memory.agrees_enqueue queueKey job.id) rfl (by simp)
  | cancel id =>
      cases stepped
      exact (evolves_cancel _ living.staged id time rfl).1
  | resume index =>
      simp only [perform] at stepped
      split at stepped
      · cases stepped
      · have agrees : ∀ id, runner.memory.Agrees
            (runner.memory.dropThread index) id :=
          fun _ => ⟨Iff.rfl, rfl, fun _ _ _ => Iff.rfl⟩
        exact evolves_continueThread living reached agrees rfl stepped
  | taskLogs run message =>
      simp only [perform] at stepped
      split at stepped
      · cases stepped
      rename_i call place
      split at stepped
      · cases stepped
        exact evolves_contextLog living.staged place
          (fun ended => ⟨call, place, rfl, ended⟩) message time rfl
      · cases stepped
  | taskProgress run value message =>
      simp only [perform] at stepped
      split at stepped
      · cases stepped
      rename_i call place
      split at stepped
      · cases stepped
        exact evolves_contextProgress living.staged place
          (fun ended => ⟨call, place, rfl, ended⟩) value message time rfl
      · cases stepped
  | taskSettles run outcome =>
      simp only [perform] at stepped
      split at stepped
      · cases stepped
      rename_i call place
      split at stepped
      · rename_i awaits
        cases stepped
        exact evolves_settle living.staged living.inOrder.called_once
          place awaits outcome time rfl
      · cases stepped
  | restart => exact absurd rfl alive

end Run

/-- What every step tells about the life of the jobs, whatever process it
belongs to. -/
structure Advance
    (runner : JobsRunner) (event : JobsStep) (next : JobsRunner)
    (now : List Observation) : Prop where
  lives : ∀ id, LifeStep (LateCall id runner event.action)
    (runner.store.life id) (next.store.life id)
  called : ∀ queue id, .called queue id ∈ now →
    (runner.store.life id).status = some .queued ∧
      (next.store.life id).status = some .running
  created : ∀ id, runner.store.get id = none →
    (next.store.get id).isSome → id ∈ handedOver now
  stopping : ∀ id, Stopping runner.store runner.memory id →
    Stopping next.store next.memory id ∨
      (next.store.life id).status = some .cancelled ∨
      event.action = .restart ∧
        (next.store.life id).status = some .failed

theorem Advance.settled
    {runner next : JobsRunner} {event : JobsStep}
    {now : List Observation} (told : Advance runner event next now)
    {id : String} {status : JobStatus} (ended : ¬ status.active)
    (found : (runner.store.life id).status = some status) :
    (next.store.life id).status = some status := by
  obtain ⟨row, there, same⟩ := Option.map_eq_some_iff.mp found
  rw [← same] at ended ⊢
  obtain ⟨changed, after, still⟩ := (told.lives id).status there ended
  exact Option.map_eq_some_iff.mpr ⟨changed, after, still⟩

/-- The runner is alive, since some restart. -/
def Lives (runner : JobsRunner) : Prop :=
  ∃ recent, Living runner recent

theorem living_recovered
    {store : JobsStore} {time : String} {memory : Memory}
    {recent : List Observation} (staged : Staged store memory recent) :
    Lives (recoverInterruptedJobs time
      (reliable store Memory.empty)).2 := by
  have evolves := (evolves_restart (fun _ => False) staged time
    rfl).1
  exact ⟨[], inOrder_new store time, evolves.staged staged.wellFormed⟩

theorem lives_new (now : String) :
    Lives (JobsRunner.new JobsStore.empty now) := by
  have blank : ∀ id, JobsStore.empty.life id = ⟨none, []⟩ := fun _ => rfl
  have staged : Staged JobsStore.empty Memory.empty [] := by
    refine ⟨?_, List.nodup_nil, ?_⟩
    · intro id
      rw [blank]
      exact .unknown (Finset.notMem_empty _) rfl List.not_mem_nil
    · intro id
      rw [blank]
      exact ⟨fun _ => rfl, (by simp), (by simp)⟩
  exact living_recovered staged

theorem Lives.step
    {runner next : JobsRunner} {event : JobsStep}
    {now : List Observation} (lives : Lives runner)
    (calm : event.faults = ⟨[], []⟩)
    (stepped : Jobs.step runner event = some (next, now)) :
    Lives next ∧ Advance runner event next now := by
  obtain ⟨recent, living⟩ := lives
  by_cases restarts : event.action = .restart
  · obtain ⟨action, time, faults⟩ := event
    cases calm
    cases restarts
    cases stepped
    obtain ⟨evolves, failed⟩ := evolves_restart _ living.staged time rfl
    refine ⟨living_recovered living.staged, evolves.lives, (by simp),
      evolves.created, ?_⟩
    exact fun id told => .inr (.inr ⟨rfl, failed id told.1⟩)
  · obtain ⟨lives, evolves⟩ := living.step stepped calm restarts
    refine ⟨⟨_, lives⟩, evolves.lives, evolves.called, evolves.created, ?_⟩
    intro id told
    rcases evolves.stopping id told with goes_on | cancelled
    · exact .inl goes_on
    · exact .inr (.inl cancelled)

theorem lives_induction
    (condition : JobsRunner → JobsStep → Prop)
    (motive : JobsRunner → List Observation → Prop)
    (past : List Observation)
    (advance : ∀ runner past event next now, motive runner past →
      condition runner event → Advance runner event next now →
      motive next (past ++ now))
    {events : List JobsStep} {start final : JobsRunner}
    {outputs : List Observation} (lives : Lives start)
    (holds : motive start past)
    (calm : ∀ event ∈ events, event.faults = ⟨[], []⟩)
    (meets : Meets step condition start events)
    (run : execute step start events = some (final, outputs)) :
    Lives final ∧ motive final (past ++ outputs) := by
  have quiet : Meets step (fun _ event => event.faults = ⟨[], []⟩) start
      events := meets_of_forall calm start
  exact execute_induction_from
    (motive := fun runner past => Lives runner ∧ motive runner past)
    (fun runner past event next now holds conditions stepped => by
      obtain ⟨alive, told⟩ := holds.1.step conditions.1 stepped
      exact ⟨alive, advance runner past event next now holds.2
        conditions.2 told⟩)
    ⟨lives, holds⟩ (quiet.and meets) run

/-- The job has left its queue. -/
def Begun (life : Life) : Prop :=
  ∃ row, life.row = some row ∧ row.status ≠ .queued

theorem LifeStep.begun {late : Prop} {life next : Life}
    (stepped : LifeStep late life next) (begun : Begun life) :
    Begun next := by
  obtain ⟨row, found, left⟩ := begun
  cases stepped with
  | stay => exact ⟨row, found, left⟩
  | create => cases found
  | work before changed events event active running =>
      cases found
      refine ⟨changed, rfl, ?_⟩
      rcases running with running | same
      · rw [running]
        simp
      · rw [same]
        exact left
  | close before changed events event active closes ended =>
      cases found
      exact ⟨changed, rfl, fun queued => ended (.inl queued)⟩
  | remark before changed events event allowed same =>
      cases found
      exact ⟨changed, rfl, by rw [same]; exact left⟩

/-- What the runner guarantees for the jobs of a run.  `announced`: the events
of a job announce one final status, the stored one, once it is reached.
`settled`: a final status stays.  `skipped`: a job that is cancelled while it is
queued is never called.  `stopped`: a job that is cancelled while it runs ends
as cancelled, unless a restart comes first.  `punctual`: as long as no call of a
task's context comes after its promise has settled, a job that has ended stays
as it is and its last event announces its status. -/
structure LifeCycle
    (start : JobsRunner) (events : List JobsStep) (final : JobsRunner)
    (outputs : List Observation) : Prop where
  announced : ∀ id, (final.store.life id).WellFormed
  settled : ∀ earlier later middle shown id row,
    events = earlier ++ later →
    execute step start earlier = some (middle, shown) →
    middle.store.get id = some row → ¬ row.status.active →
    (final.store.life id).status = some row.status
  skipped : ∀ earlier later time faults middle shown id,
    events = earlier ++ ⟨.cancel id, time, faults⟩ :: later →
    execute step start earlier = some (middle, shown) →
    (middle.store.life id).status = some .queued →
    id ∉ calledJobs outputs ∧
      (final.store.life id).status = some .cancelled
  stopped : ∀ earlier later time faults middle shown id,
    events = earlier ++ ⟨.cancel id, time, faults⟩ :: later →
    execute step start earlier = some (middle, shown) →
    (middle.store.life id).status = some .running →
    (final.store.life id).status = some .cancelled ∨
      ((final.store.life id).status = some .running ∧
        ∃ call ∈ final.memory.runs, call.jobId = id ∧
          call.phase = .awaiting) ∨
      ((final.store.life id).status = some .failed ∧
        ∃ event ∈ later, event.action = .restart)
  punctual : ∀ id,
    Meets step (fun runner event => ¬ LateCall id runner event.action)
      start events →
    (final.store.life id).LastCloses ∧
      ∀ earlier later middle shown,
        events = earlier ++ later →
        execute step start earlier = some (middle, shown) →
        (middle.store.life id).Ended →
        final.store.life id = middle.store.life id

section LifeCycle

variable {events earlier later : List JobsStep}
variable {start middle final : JobsRunner}
variable {past outputs : List Observation} {id : String}

theorem Lives.settled
    (lives : Lives start)
    (calm : ∀ event ∈ events, event.faults = ⟨[], []⟩)
    (run : execute Jobs.step start events = some (final, outputs))
    {status : JobStatus} (ended : ¬ status.active)
    (found : (start.store.life id).status = some status) :
    (final.store.life id).status = some status := by
  have kept := lives_induction (fun _ _ => True)
    (fun runner _ => (runner.store.life id).status = some status) []
    (fun _ _ _ _ _ found _ told => told.settled ended found)
    lives found calm (meets_true start events) run
  exact kept.2

theorem Lives.reached
    (lives : Lives start)
    (calm : ∀ event ∈ events, event.faults = ⟨[], []⟩)
    (run : execute Jobs.step start events = some (final, outputs)) :
    Lives final := by
  have kept := lives_induction (fun _ _ => True) (fun _ _ => True) []
    (fun _ _ _ _ _ _ _ _ => trivial) lives trivial calm
    (meets_true start events) run
  exact kept.1

theorem Lives.wellFormed (lives : Lives start) (id : String) :
    (start.store.life id).WellFormed := by
  obtain ⟨recent, living⟩ := lives
  exact living.staged.wellFormed id

theorem Lives.begun
    (lives : Lives start)
    (calm : ∀ event ∈ events, event.faults = ⟨[], []⟩)
    (run : execute Jobs.step start events = some (final, outputs))
    (called : id ∈ calledJobs outputs) : Begun (final.store.life id) := by
  have kept := lives_induction (fun _ _ => True)
    (fun runner past =>
      id ∈ calledJobs past → Begun (runner.store.life id)) []
    (fun runner past event next now begun _ told called => by
      rw [calledJobs_append, List.mem_append] at called
      rcases called with earlier | new
      · exact (told.lives id).begun (begun earlier)
      · obtain ⟨queue, shown⟩ := mem_calledJobs.mp new
        have running := (told.called queue id shown).2
        obtain ⟨row, found, status⟩ := Option.map_eq_some_iff.mp running
        exact ⟨row, found, by rw [status]; simp⟩)
    lives (by exact nofun) calm (meets_true start events) run
  exact kept.2 called

theorem Lives.uncalled
    (lives : Lives start)
    (calm : ∀ event ∈ events, event.faults = ⟨[], []⟩)
    (run : execute Jobs.step start events = some (final, outputs))
    {status : JobStatus} (ended : ¬ status.active)
    (found : (start.store.life id).status = some status)
    (uncalled : id ∉ calledJobs past) :
    id ∉ calledJobs (past ++ outputs) := by
  have kept := lives_induction (fun _ _ => True)
    (fun runner past => id ∉ calledJobs past ∧
      (runner.store.life id).status = some status) past
    (fun runner past event next now holds _ told => by
      refine ⟨?_, told.settled ended holds.2⟩
      rw [calledJobs_append, List.mem_append]
      rintro (earlier | new)
      · exact holds.1 earlier
      · obtain ⟨queue, shown⟩ := mem_calledJobs.mp new
        have queued := (told.called queue id shown).1
        rw [holds.2] at queued
        cases queued
        exact ended (.inl rfl))
    lives ⟨uncalled, found⟩ calm (meets_true start events) run
  exact kept.2.1

theorem Lives.stopping
    (lives : Lives start)
    (calm : ∀ event ∈ events, event.faults = ⟨[], []⟩)
    (run : execute Jobs.step start events = some (final, outputs))
    (told : Stopping start.store start.memory id) :
    Stopping final.store final.memory id ∨
      (final.store.life id).status = some .cancelled ∨
      ((final.store.life id).status = some .failed ∧
        ∃ event ∈ events, event.action = .restart) := by
  have kept := lives_induction (fun _ event => event ∈ events)
    (fun runner _ => Stopping runner.store runner.memory id ∨
      (runner.store.life id).status = some .cancelled ∨
      ((runner.store.life id).status = some .failed ∧
        ∃ event ∈ events, event.action = .restart)) []
    (fun runner past event next now holds member told => by
      rcases holds with stopping | cancelled | ⟨failed, restarted⟩
      · rcases told.stopping id stopping with
          goes_on | cancelled | ⟨restart, failed⟩
        · exact .inl goes_on
        · exact .inr (.inl cancelled)
        · exact .inr (.inr ⟨failed, event, member, restart⟩)
      · exact .inr (.inl (told.settled (by decide) cancelled))
      · exact .inr (.inr ⟨told.settled (by decide) failed, restarted⟩))
    lives (.inl told) calm
    (meets_of_forall (fun _ member => member) start) run
  exact kept.2

theorem Lives.awaits
    (lives : Lives start)
    (running : (start.store.life id).status = some .running) :
    ∃ call ∈ start.memory.runs, call.jobId = id ∧
      call.phase = .awaiting := by
  obtain ⟨recent, living⟩ := lives
  have stage := living.staged.stages id
  rw [running] at stage
  cases stage with
  | working run call place owner awaits =>
      exact ⟨call, List.mem_of_getElem? place, owner, awaits⟩
  | finished _ ended => exact absurd (.inr rfl) ended

theorem Lives.punctual
    (lives : Lives start)
    (calm : ∀ event ∈ events, event.faults = ⟨[], []⟩)
    (punctual : Meets Jobs.step
      (fun runner event => ¬ LateCall id runner event.action) start events)
    (run : execute Jobs.step start events = some (final, outputs)) :
    ((start.store.life id).LastCloses →
      (final.store.life id).LastCloses) ∧
      ((start.store.life id).Ended →
        final.store.life id = start.store.life id) := by
  constructor
  · intro closes
    have kept := lives_induction _
      (fun runner _ => (runner.store.life id).LastCloses) []
      (fun runner past event next now closes punctual told =>
        (told.lives id).lastCloses punctual closes)
      lives closes calm punctual run
    exact kept.2
  · intro ended
    have kept := lives_induction _
      (fun runner _ => runner.store.life id = start.store.life id) []
      (fun runner past event next now same punctual told => by
        rw [← same] at ended ⊢
        exact (told.lives id).ended punctual ended)
      lives rfl calm punctual run
    exact kept.2

theorem Lives.halfway
    (lives : Lives start)
    (calm : ∀ event ∈ earlier ++ later, event.faults = ⟨[], []⟩)
    (run : execute Jobs.step start (earlier ++ later) =
      some (final, outputs))
    {shown : List Observation}
    (before : execute Jobs.step start earlier = some (middle, shown)) :
    Lives middle ∧ ∃ rest, outputs = shown ++ rest ∧
      execute Jobs.step middle later = some (final, rest) := by
  obtain ⟨reached, visible, rest, first, second, rfl⟩ :=
    execute_append_eq_some run
  cases before.symm.trans first
  have alive := lives.reached
    (fun event member => calm event (List.mem_append_left _ member)) first
  exact ⟨alive, rest, rfl, second⟩

end LifeCycle

theorem Lives.cancel
    {runner next : JobsRunner} {id time : String} {now : List Observation}
    (lives : Lives runner)
    (stepped : Jobs.step runner ⟨.cancel id, time, ⟨[], []⟩⟩ =
      some (next, now)) :
    now = [] ∧
      ((runner.store.life id).status = some .queued →
        (next.store.life id).status = some .cancelled) ∧
      ((runner.store.life id).status = some .running →
        Stopping next.store next.memory id) := by
  obtain ⟨recent, living⟩ := lives
  cases stepped
  have told := evolves_cancel (fun _ => False) living.staged id time
    rfl
  exact ⟨rfl, told.2⟩

/-- The life cycle of jobs, for every run from an empty database with any
tasks, cancel calls and restarts. -/
theorem job_life_cycle
    (now : String) (events : List JobsStep) (final : JobsRunner)
    (outputs : List Observation)
    (calm : ∀ event ∈ events, event.faults = ⟨[], []⟩)
    (run : execute step (JobsRunner.new JobsStore.empty now) events =
      some (final, outputs)) :
    LifeCycle (JobsRunner.new JobsStore.empty now) events final outputs where
  announced id := ((lives_new now).reached calm run).wellFormed id
  settled := by
    intro earlier later middle shown id row split before found ended
    subst split
    obtain ⟨alive, rest, _, after⟩ := (lives_new now).halfway calm run before
    have status : (middle.store.life id).status = some row.status :=
      Option.map_eq_some_iff.mpr ⟨row, found, rfl⟩
    exact alive.settled
      (fun event member => calm event (List.mem_append_right _ member))
      after ended status
  skipped := by
    intro earlier later time faults middle shown id split before queued
    subst split
    have still : faults = ⟨[], []⟩ :=
      calm ⟨.cancel id, time, faults⟩ (by simp)
    subst still
    obtain ⟨alive, rest, rfl, after⟩ :=
      (lives_new now).halfway calm run before
    obtain ⟨next, silent, later', stepped, continued, rfl⟩ :=
      execute_cons_eq_some after
    obtain ⟨rfl, cancelled, _⟩ := alive.cancel stepped
    have quiet : ∀ event ∈ later, event.faults = ⟨[], []⟩ :=
      fun event member => calm event (by simp [member])
    have uncalled : id ∉ calledJobs shown := by
      intro called
      obtain ⟨row, found, left⟩ := (lives_new now).begun
        (fun event member => calm event (by simp [member])) before called
      obtain ⟨other, there, status⟩ := Option.map_eq_some_iff.mp queued
      rw [found] at there
      cases there
      exact left status
    have next_alive := (alive.step rfl stepped).1
    rw [List.nil_append]
    exact ⟨next_alive.uncalled quiet continued (by decide)
        (cancelled queued) uncalled,
      next_alive.settled quiet continued (by decide) (cancelled queued)⟩
  stopped := by
    intro earlier later time faults middle shown id split before running
    subst split
    have still : faults = ⟨[], []⟩ :=
      calm ⟨.cancel id, time, faults⟩ (by simp)
    subst still
    obtain ⟨alive, rest, rfl, after⟩ :=
      (lives_new now).halfway calm run before
    obtain ⟨next, silent, later', stepped, continued, rfl⟩ :=
      execute_cons_eq_some after
    obtain ⟨_, _, stopping⟩ := alive.cancel stepped
    have next_alive := (alive.step rfl stepped).1
    rcases next_alive.stopping
        (fun event member => calm event (by simp [member])) continued
        (stopping running) with goes_on | cancelled | failed
    · have final_alive := (lives_new now).reached calm run
      exact .inr (.inl ⟨goes_on.1, final_alive.awaits goes_on.1⟩)
    · exact .inl cancelled
    · exact .inr (.inr failed)
  punctual := by
    intro id punctual
    constructor
    · refine ((lives_new now).punctual calm punctual run).1 ?_
      intro row found
      cases found
    · intro earlier later middle shown split before ended
      subst split
      obtain ⟨alive, rest, _, after⟩ :=
        (lives_new now).halfway calm run before
      exact (alive.punctual
        (fun event member => calm event (List.mem_append_right _ member))
        (punctual.append before).2 after).2 ended

def toldToStopEvents : List JobsStep :=
  [steady (.create "build" "client.build" ⟨some "survival", "\x7b\x7d"⟩
      "Client build queued"),
    steady (.resume 0), steady (.cancel "build")]

/-- The API restarts before the task has stopped. -/
def interruptedEvents : List JobsStep :=
  toldToStopEvents ++ [steady .restart]

/-- A cancellation of a running job was accepted, and the job has failed. -/
theorem interrupted_cancellation_fails :
    (∃ middle shown,
      execute step (JobsRunner.new JobsStore.empty "now")
          (toldToStopEvents.take 2) = some (middle, shown) ∧
        (middle.store.life "build").status = some .running) ∧
      ∃ final outputs,
        execute step (JobsRunner.new JobsStore.empty "now")
            interruptedEvents = some (final, outputs) ∧
          (final.store.life "build").status = some .failed := by
  constructor
  · have running :
        (execute step (JobsRunner.new JobsStore.empty "now")
          (toldToStopEvents.take 2)).map (fun result =>
            (result.1.store.life "build").status) =
          some (some .running) := by
      decide +kernel
    obtain ⟨⟨middle, shown⟩, run, answer⟩ :=
      Option.map_eq_some_iff.mp running
    exact ⟨middle, shown, run, answer⟩
  · have failed :
        (execute step (JobsRunner.new JobsStore.empty "now")
          interruptedEvents).map (fun result =>
            (result.1.store.life "build").status) =
          some (some .failed) := by
      decide +kernel
    obtain ⟨⟨final, outputs⟩, run, answer⟩ :=
      Option.map_eq_some_iff.mp failed
    exact ⟨final, outputs, run, answer⟩

theorem job_life_cycle_told_to_stop :
    ∃ final outputs,
      execute step (JobsRunner.new JobsStore.empty "now")
          (toldToStopEvents ++
            [steady (.taskSettles 0 (.resolved (some "\x7b\x7d")))]) =
          some (final, outputs) ∧
        LifeCycle (JobsRunner.new JobsStore.empty "now")
          (toldToStopEvents ++
            [steady (.taskSettles 0 (.resolved (some "\x7b\x7d")))])
          final outputs ∧
        (final.store.life "build").status = some .cancelled := by
  have settled :
      (execute step (JobsRunner.new JobsStore.empty "now")
        (toldToStopEvents ++
          [steady (.taskSettles 0 (.resolved (some "\x7b\x7d")))])).map
        (fun result => (result.1.store.life "build").status) =
          some (some .cancelled) := by
    decide +kernel
  obtain ⟨⟨final, outputs⟩, run, answer⟩ :=
    Option.map_eq_some_iff.mp settled
  exact ⟨final, outputs, run,
    job_life_cycle "now" _ final outputs (by decide) run, answer⟩

end GravitPanel.Jobs
