import GravitPanel.Jobs.Queues
import GravitPanel.Jobs.ReliableSteps

/-!
# Stages of a job

The stage of a job ties its status to the mark, the controller and the call that
the runner's memory holds for it.  With a database that does not throw, every
program of the runner moves each job from a stage to a stage.
-/

namespace GravitPanel.Jobs

open Program Execution
open SerialQueues (Lanes Label createdJobs)

def handedOver (recent : List Observation) : List String :=
  (createdJobs (recent.map Observation.label)).map Prod.snd

/-- What the memory holds for a job whose row has the given status; `created`
tells whether this process created it. -/
inductive Stage (memory : Memory) (created : Prop) (id : String) :
    Option JobStatus → Prop where
  | unknown (unmarked : id ∉ memory.cancelled)
      (idle : memory.running.lookup id = none)
      (uncalled : id ∉ memory.runs.map RunCall.jobId) :
      Stage memory created id none
  | waiting (unmarked : id ∉ memory.cancelled)
      (idle : memory.running.lookup id = none)
      (uncalled : id ∉ memory.runs.map RunCall.jobId) :
      Stage memory created id (some .queued)
  | withdrawn (marked : id ∈ memory.cancelled)
      (uncalled : id ∉ memory.runs.map RunCall.jobId) :
      Stage memory created id (some .cancelled)
  | working (run : Nat) (call : RunCall)
      (place : memory.runs[run]? = some call) (owner : call.jobId = id)
      (awaits : call.phase = .awaiting)
      (controller : memory.running.lookup id = some run)
      (told : call.aborted = true ↔ id ∈ memory.cancelled) :
      Stage memory created id (some .running)
  | finished (status : JobStatus) (ended : ¬ status.active)
      (called : created → id ∈ memory.runs.map RunCall.jobId)
      (settled : ∀ (run : Nat) (call : RunCall),
        memory.runs[run]? = some call →
        call.jobId = id → call.phase = .returned) :
      Stage memory created id (some status)

/-- Two memories hold the same for a job. -/
structure Memory.Agrees (memory next : Memory) (id : String) : Prop where
  marks : id ∈ next.cancelled ↔ id ∈ memory.cancelled
  running : next.running.lookup id = memory.running.lookup id
  runs : ∀ (run : Nat) (call : RunCall), call.jobId = id →
    (next.runs[run]? = some call ↔ memory.runs[run]? = some call)

theorem Memory.Agrees.called
    {memory next : Memory} {id : String} (agrees : memory.Agrees next id) :
    id ∈ next.runs.map RunCall.jobId ↔
      id ∈ memory.runs.map RunCall.jobId := by
  have place : ∀ runs : List RunCall, id ∈ runs.map RunCall.jobId ↔
      ∃ (run : Nat) (call : RunCall),
        call.jobId = id ∧ runs[run]? = some call := by
    intro runs
    rw [List.mem_map]
    constructor
    · rintro ⟨call, member, owner⟩
      obtain ⟨run, found⟩ := List.mem_iff_getElem?.mp member
      exact ⟨run, call, owner, found⟩
    · rintro ⟨run, call, owner, found⟩
      exact ⟨call, List.mem_of_getElem? found, owner⟩
  rw [place, place]
  constructor
  · rintro ⟨run, call, owner, found⟩
    exact ⟨run, call, owner, (agrees.runs run call owner).mp found⟩
  · rintro ⟨run, call, owner, found⟩
    exact ⟨run, call, owner, (agrees.runs run call owner).mpr found⟩

theorem Stage.agrees
    {memory next : Memory} {created : Prop} {id : String}
    {status : Option JobStatus} (stage : Stage memory created id status)
    (agrees : memory.Agrees next id) : Stage next created id status := by
  cases stage with
  | unknown unmarked idle uncalled =>
      exact .unknown (agrees.marks.not.mpr unmarked)
        (agrees.running.trans idle) (agrees.called.not.mpr uncalled)
  | waiting unmarked idle uncalled =>
      exact .waiting (agrees.marks.not.mpr unmarked)
        (agrees.running.trans idle) (agrees.called.not.mpr uncalled)
  | withdrawn marked uncalled =>
      exact .withdrawn (agrees.marks.mpr marked)
        (agrees.called.not.mpr uncalled)
  | working run call place owner awaits controller told =>
      exact .working run call ((agrees.runs run call owner).mpr place)
        owner awaits (agrees.running.trans controller)
        (told.trans agrees.marks.symm)
  | finished status ended called settled =>
      refine .finished status ended
        (fun created => agrees.called.mpr (called created)) ?_
      intro run call place owner
      exact settled run call ((agrees.runs run call owner).mp place) owner

theorem Stage.created_congr
    {memory : Memory} {created later : Prop} {id : String}
    {status : Option JobStatus} (stage : Stage memory created id status)
    (same : later → created) : Stage memory later id status := by
  cases stage with
  | unknown unmarked idle uncalled => exact .unknown unmarked idle uncalled
  | waiting unmarked idle uncalled => exact .waiting unmarked idle uncalled
  | withdrawn marked uncalled => exact .withdrawn marked uncalled
  | working run call place owner awaits controller told =>
      exact .working run call place owner awaits controller told
  | finished status ended called settled =>
      exact .finished status ended (fun created => called (same created))
        settled

/-- A context call of a task whose promise has settled. -/
def LateCall (id : String) (runner : JobsRunner) (action : JobsAction) :
    Prop :=
  match action with
  | .taskLogs run _ => late run
  | .taskProgress run _ _ => late run
  | _ => False
where
  late (run : Nat) : Prop :=
    ∃ call, runner.memory.runs[run]? = some call ∧ call.jobId = id ∧
      call.phase ≠ .awaiting

/-- Every job is at some stage, its events fit its row, and no two rows share an
id. -/
structure Staged
    (store : JobsStore) (memory : Memory) (recent : List Observation) :
    Prop where
  stages : ∀ id, Stage memory (id ∈ handedOver recent) id
    (store.life id).status
  distinct : (store.jobs.map JobRecord.id).Nodup
  wellFormed : ∀ id, (store.life id).WellFormed

/-- A job that was told to stop while it runs. -/
def Stopping (store : JobsStore) (memory : Memory) (id : String) : Prop :=
  (store.life id).status = some .running ∧ id ∈ memory.cancelled

/-- A step is a step in the life of each job and keeps the stages; a job that
was told to stop keeps running or ends as cancelled. -/
structure Evolves
    (late : String → Prop) (recent now : List Observation)
    (store : JobsStore) (memory : Memory)
    (next : JobsStore) (after : Memory) : Prop where
  stages : ∀ id, Stage after (id ∈ handedOver (recent ++ now)) id
    (next.life id).status
  stopping : ∀ id, Stopping store memory id →
    Stopping next after id ∨ (next.life id).status = some .cancelled
  lives : ∀ id, LifeStep (late id) (store.life id) (next.life id)
  distinct : (next.jobs.map JobRecord.id).Nodup
  called : ∀ queue id, .called queue id ∈ now →
    (store.life id).status = some .queued ∧
      (next.life id).status = some .running
  created : ∀ id, store.get id = none → (next.get id).isSome →
    id ∈ handedOver now

section Steps

variable {late : String → Prop} {recent now : List Observation}
variable {store next : JobsStore} {memory after : Memory}

theorem Evolves.staged
    (evolves : Evolves late recent now store memory next after)
    (wellFormed : ∀ id, (store.life id).WellFormed) :
    Staged next after (recent ++ now) where
  stages := evolves.stages
  distinct := evolves.distinct
  wellFormed id := (evolves.lives id).wellFormed (wellFormed id)

theorem Staged.agrees
    (staged : Staged store memory recent)
    (agrees : ∀ id, memory.Agrees after id) : Staged store after recent where
  stages id := (staged.stages id).agrees (agrees id)
  distinct := staged.distinct
  wellFormed := staged.wellFormed

theorem Evolves.agrees
    {before last : Memory}
    (evolves : Evolves late recent now store memory next after)
    (started : ∀ id, before.Agrees memory id)
    (ended : ∀ id, after.Agrees last id) :
    Evolves late recent now store before next last where
  stages id := (evolves.stages id).agrees (ended id)
  stopping id told := by
    have marked : id ∈ memory.cancelled := (started id).marks.mpr told.2
    rcases evolves.stopping id ⟨told.1, marked⟩ with goes_on | cancelled
    · exact .inl ⟨goes_on.1, (ended id).marks.mpr goes_on.2⟩
    · exact .inr cancelled
  lives := evolves.lives
  distinct := evolves.distinct
  called := evolves.called
  created := evolves.created

theorem Memory.agrees_of_same
    (marks : after.cancelled = memory.cancelled)
    (running : after.running = memory.running)
    (runs : after.runs = memory.runs) (id : String) :
    memory.Agrees after id where
  marks := by rw [marks]
  running := by rw [running]
  runs run call _ := by rw [runs]

theorem handedOver_append (recent now : List Observation) :
    handedOver (recent ++ now) = handedOver recent ++ handedOver now := by
  simp [handedOver, createdJobs]

theorem evolves_of_owner
    (staged : Staged store memory recent) (owner : String)
    (others : ∀ id, id ≠ owner →
      next.life id = store.life id ∧ memory.Agrees after id)
    (fresh : ∀ id, id ≠ owner → id ∉ handedOver now)
    (stage : Stage after (owner ∈ handedOver (recent ++ now)) owner
      (next.life owner).status)
    (stopping : Stopping store memory owner →
      Stopping next after owner ∨
        (next.life owner).status = some .cancelled)
    (life : LifeStep (late owner) (store.life owner) (next.life owner))
    (distinct : (next.jobs.map JobRecord.id).Nodup)
    (called : ∀ queue id, .called queue id ∈ now →
      (store.life id).status = some .queued ∧
        (next.life id).status = some .running)
    (created : store.get owner = none → owner ∈ handedOver now) :
    Evolves late recent now store memory next after where
  stages id := by
    by_cases same : id = owner
    · subst same
      exact stage
    · rw [(others id same).1]
      refine ((staged.stages id).agrees (others id same).2).created_congr ?_
      rw [handedOver_append, List.mem_append]
      exact fun created => created.resolve_right (fresh id same)
  stopping id told := by
    by_cases same : id = owner
    · subst same
      exact stopping told
    · refine .inl ⟨?_, (others id same).2.marks.mpr told.2⟩
      rw [(others id same).1]
      exact told.1
  lives id := by
    by_cases same : id = owner
    · subst same
      exact life
    · rw [(others id same).1]
      exact .stay _
  distinct := distinct
  called := called
  created id absent present := by
    by_cases same : id = owner
    · subst same
      exact created absent
    · have kept : next.get id = store.get id :=
        congrArg Life.row (others id same).1
      rw [kept, absent] at present
      cases present

theorem evolves_stay (staged : Staged store memory recent) :
    Evolves late recent [] store memory store memory where
  stages id := by
    rw [List.append_nil]
    exact staged.stages id
  stopping _ told := .inl told
  lives id := .stay _
  distinct := staged.distinct
  called := by simp
  created id absent present := by
    rw [absent] at present
    cases present

theorem JobsStore.enter_life
    (job : JobRecord) (absent : store.get job.id = none)
    (message time : String) :
    (store.enter job message time).life job.id =
        ⟨some job, store.listEvents job.id ++
          [store.nextEvent job.id .queued message (some .none) time]⟩ ∧
      ∀ id, id ≠ job.id →
        (store.enter job message time).life id = store.life id := by
  have appended := (store.insert job).rewrites_append job.id .queued message
    (some .none) time
  constructor
  · refine appended.own.trans ?_
    rw [JobsStore.get_insert, absent, if_pos rfl]
    rfl
  · intro id different
    refine (appended.others id different).trans ?_
    unfold life
    rw [JobsStore.get_insert, if_neg fun same => different same.symm,
      Option.or_none]
    rfl

theorem evolves_enter
    (staged : Staged store memory recent) (job : JobRecord)
    (queued : job.status = .queued) (absent : store.get job.id = none)
    (message time : String) (agrees : ∀ id, memory.Agrees after id)
    (handed : handedOver now = [job.id])
    (silent : ∀ queue id, .called queue id ∉ now) :
    Evolves late recent now store memory (store.enter job message time)
      after := by
  obtain ⟨own, others⟩ := store.enter_life job absent message time
  have stage := staged.stages job.id
  have events := (staged.wellFormed job.id).absent absent
  refine evolves_of_owner staged job.id
    (fun id different => ⟨others id different, agrees id⟩) ?_ ?_ ?_ ?_ ?_ ?_
    fun _ => by rw [handed]; exact List.mem_singleton_self _
  · intro id different
    rw [handed, List.mem_singleton]
    exact different
  · rw [own]
    have status : (store.life job.id).status = none := by
      simp [Life.status, JobsStore.life, absent]
    rw [status] at stage
    change Stage after _ job.id (some job.status)
    rw [queued]
    cases stage.agrees (agrees job.id) with
    | unknown unmarked idle uncalled =>
        exact .waiting unmarked idle uncalled
  · rintro ⟨running, _⟩
    simp [Life.status, JobsStore.life, absent] at running
  · have before : store.life job.id = ⟨none, []⟩ := by
      change (⟨store.get job.id, store.listEvents job.id⟩ : Life) = _
      rw [absent, show store.listEvents job.id = [] from events]
    rw [own, before, show store.listEvents job.id = [] from events]
    exact .create job _ queued rfl
  · have ids : (store.enter job message time).jobs.map JobRecord.id =
        store.jobs.map JobRecord.id ++ [job.id] := by
      simp [JobsStore.enter, JobsStore.insert, JobsStore.append]
    rw [ids]
    refine List.Nodup.append staged.distinct (List.nodup_singleton _) ?_
    intro other member same
    rw [List.mem_singleton] at same
    obtain ⟨row, listed, rfl⟩ := List.mem_map.mp member
    have found := JobsStore.get_of_mem staged.distinct listed
    rw [same, absent] at found
    cases found
  · exact fun queue id shown => absurd shown (silent queue id)

/-! ## Working on a job that is there -/

theorem evolves_rewrite
    (staged : Staged store memory recent) {owner : String} {life : Life}
    (there : (store.get owner).isSome)
    (rewrites : store.Rewrites next owner life)
    (others : ∀ id, id ≠ owner → memory.Agrees after id)
    (quiet : handedOver now = [])
    (stage : Stage after (owner ∈ handedOver recent) owner life.status)
    (stopping : Stopping store memory owner →
      life.status = some .running ∧ owner ∈ after.cancelled ∨
        life.status = some .cancelled)
    (step : LifeStep (late owner) (store.life owner) life)
    (called : ∀ queue id, .called queue id ∈ now →
      (store.life id).status = some .queued ∧
        (next.life id).status = some .running) :
    Evolves late recent now store memory next after := by
  refine evolves_of_owner staged owner
    (fun id different => ⟨rewrites.others id different, others id different⟩)
    ?_ ?_ ?_ ?_ ?_ called fun absent => by rw [absent] at there; cases there
  · intro id _
    rw [quiet]
    exact List.not_mem_nil
  · rw [handedOver_append, quiet, List.append_nil, rewrites.own]
    exact stage
  · unfold Stopping at stopping ⊢
    rw [rewrites.own]
    exact stopping
  · rw [rewrites.own]
    exact step
  · rw [rewrites.ids]
    exact staged.distinct

theorem JobsStore.rewrites_refl (store : JobsStore) (id : String) :
    store.Rewrites store id (store.life id) := ⟨rfl, fun _ _ => rfl, rfl⟩

variable {call : RunCall} {run : Nat} {result : JobsRunner} {id : String}

theorem JobsStore.row_of_status {status : JobStatus}
    (shape : (store.life id).status = some status) :
    ∃ row, store.get id = some row ∧ row.status = status :=
  Option.map_eq_some_iff.mp shape

theorem JobsStore.life_eq {row : JobRecord}
    (found : store.get id = some row) :
    store.life id = ⟨some row, store.listEvents id⟩ := by
  simp [JobsStore.life, found]

theorem Memory.agrees_call
    {owner id : String} (different : id ≠ owner) (call : RunCall)
    (named : call.jobId = owner)
    (marks : id ∈ after.cancelled ↔ id ∈ memory.cancelled)
    (running : after.running.lookup id = memory.running.lookup id)
    (runs : after.runs = memory.runs ++ [call]) :
    memory.Agrees after id where
  marks := marks
  running := running
  runs run other own := by
    rw [runs, List.getElem?_append]
    split
    · rfl
    · rename_i beyond
      have none_there : memory.runs[run]? = none :=
        List.getElem?_eq_none (not_lt.mp beyond)
      rw [none_there]
      constructor
      · intro found
        have same := List.mem_singleton.mp (List.mem_of_getElem? found)
        rw [same, named] at own
        exact absurd own.symm different
      · simp

theorem evolves_call
    (staged : Staged store memory recent)
    (created : id ∈ handedOver recent) (present : (store.get id).isSome)
    (uncalled : id ∉ memory.runs.map RunCall.jobId)
    (queue : Option String) (time : String)
    {result : JobsRunner × List Observation}
    (call : callRunJob queue id time (reliable store memory) = result) :
    Evolves late recent result.2 store memory result.1.store
      result.1.memory := by
  obtain ⟨row, found⟩ := Option.isSome_iff_exists.mp present
  have stage := staged.stages id
  have status : (store.life id).status = some row.status := by
    rw [JobsStore.life_eq found]
    rfl
  rw [status] at stage
  generalize shape : row.status = rowStatus at stage
  cases stage with
  | waiting unmarked idle _ =>
      obtain ⟨job, message, progress, named, input, running, equality⟩ :=
        callRunJob_starts found unmarked queue time
      rw [← call, equality]
      refine evolves_rewrite staged present
        (JobsStore.rewrites_write found job named _ message progress time)
        ?_ rfl ?_ ?_ ?_ ?_
      · intro other different
        exact Memory.agrees_call different _ rfl Iff.rfl
          (AList.lookup_insert_ne different) rfl
      · change Stage _ _ id (some job.status)
        rw [running]
        refine .working memory.runs.length
          ⟨id, queue, false, true, .awaiting⟩ ?_ rfl rfl
          (AList.lookup_insert _) ?_
        · change (memory.runs ++ [_])[memory.runs.length]? = _
          rw [List.getElem?_append_right le_rfl, Nat.sub_self]
          rfl
        · exact ⟨(by simp), fun marked => absurd marked unmarked⟩
      · exact fun told => absurd told.2 unmarked
      · rw [JobsStore.life_eq found]
        exact .work row job _ _ (.inl shape) (.inl running) input rfl
      · intro owner other shown
        cases List.mem_singleton.mp shown
        refine ⟨by rw [status, shape], ?_⟩
        change (JobsStore.life (store.write _ _ _ _ _) id).status = _
        rw [(JobsStore.rewrites_write found job named .started message
          progress time).own]
        exact congrArg some running
  | withdrawn marked _ =>
      rw [← call, callRunJob_skips marked]
      refine evolves_rewrite staged present (store.rewrites_refl id) ?_ rfl ?_ ?_
        (.stay _) (by simp)
      · intro other different
        refine Memory.agrees_call different
          ⟨id, queue, false, false, .returned⟩ rfl ?_ rfl rfl
        change other ∈ memory.cancelled.erase id ↔ _
        simp [Finset.mem_erase, different]
      · rw [status, shape]
        refine .finished .cancelled (by decide) ?_ ?_
        · intro _
          change id ∈ (memory.runs ++ [_]).map RunCall.jobId
          simp
        · intro run call place owner
          change (memory.runs ++ [_])[run]? = some call at place
          rcases List.mem_append.mp (List.mem_of_getElem? place) with
            earlier | new
          · exact absurd (owner ▸ List.mem_map_of_mem earlier) uncalled
          · cases List.mem_singleton.mp new
            rfl
      · intro _
        exact .inr (by rw [status, shape])
  | working run call place owner =>
      exact absurd (owner ▸ List.mem_map_of_mem
        (List.mem_of_getElem? place)) uncalled
  | finished _ ended called => exact absurd (called created) uncalled

theorem Memory.Agrees.trans
    {middle : Memory} (first : memory.Agrees middle id)
    (second : middle.Agrees after id) : memory.Agrees after id where
  marks := second.marks.trans first.marks
  running := second.running.trans first.running
  runs run call own := (second.runs run call own).trans
    (first.runs run call own)

theorem Memory.agrees_changeRun
    (place : memory.runs[run]? = some call)
    (different : id ≠ call.jobId)
    {change : RunCall → RunCall}
    (named : ∀ call, (change call).jobId = call.jobId) :
    memory.Agrees (memory.changeRun run change) id where
  marks := Iff.rfl
  running := rfl
  runs position other own := by
    change (memory.runs.modify run change)[position]? = some other ↔ _
    rw [List.getElem?_modify]
    by_cases same : run = position
    · subst same
      rw [place]
      constructor
      · intro found
        have equality : change call = other := by simpa using found
        rw [← equality, named] at own
        exact absurd own.symm different
      · intro found
        rw [Option.some.inj found] at different
        exact absurd own.symm different
    · simp [same]

theorem Memory.agrees_release
    {owner id : String} (different : id ≠ owner) :
    memory.Agrees (memory.release owner) id where
  marks := by simp [Memory.release, Finset.mem_erase, different]
  running := AList.lookup_erase_ne different
  runs _ _ _ := Iff.rfl

theorem jobs_changeRun (run : Nat) {change : RunCall → RunCall}
    (named : ∀ call, (change call).jobId = call.jobId) :
    (memory.changeRun run change).runs.map RunCall.jobId =
      memory.runs.map RunCall.jobId := by
  apply List.ext_getElem?
  intro position
  simp only [Memory.changeRun, List.getElem?_map, List.getElem?_modify]
  cases memory.runs[position]? with
  | none => rfl
  | some call => by_cases same : run = position <;> simp [same, named]

theorem place_unique
    (once : (memory.runs.map RunCall.jobId).Nodup) {first second : Nat}
    {one other : RunCall} (onePlace : memory.runs[first]? = some one)
    (otherPlace : memory.runs[second]? = some other)
    (same : one.jobId = other.jobId) : first = second := by
  have oneId : (memory.runs.map RunCall.jobId)[first]? =
      some one.jobId := by
    rw [List.getElem?_map, onePlace]
    rfl
  have otherId : (memory.runs.map RunCall.jobId)[second]? =
      some other.jobId := by
    rw [List.getElem?_map, otherPlace]
    rfl
  have inside : first < (memory.runs.map RunCall.jobId).length :=
    (List.getElem?_eq_some_iff.mp oneId).1
  exact (List.getElem?_inj inside once).mp
    (oneId.trans (same ▸ otherId.symm))

theorem Closing.ended {row job : JobRecord} {type : JobEventType}
    (closing : Closing row job type) : ¬ job.status.active := by
  have closes := closing.closes
  generalize job.status = status at closes ⊢
  cases type <;> cases closes <;> decide

theorem Staged.working
    (staged : Staged store memory recent)
    (once : (memory.runs.map RunCall.jobId).Nodup)
    (place : memory.runs[run]? = some call)
    (awaits : call.phase = .awaiting) :
    ∃ row, store.get call.jobId = some row ∧ row.status = .running ∧
      memory.running.lookup call.jobId = some run ∧
      (call.aborted = true ↔ call.jobId ∈ memory.cancelled) := by
  have called : call.jobId ∈ memory.runs.map RunCall.jobId :=
    List.mem_map_of_mem (List.mem_of_getElem? place)
  have stage := staged.stages call.jobId
  generalize shape : (store.life call.jobId).status = status at stage
  cases stage with
  | unknown _ _ uncalled => exact absurd called uncalled
  | waiting _ _ uncalled => exact absurd called uncalled
  | withdrawn _ uncalled => exact absurd called uncalled
  | working position other otherPlace owner _ controller told =>
      have same := place_unique once place otherPlace owner.symm
      subst same
      cases Option.some.inj (place.symm.trans otherPlace)
      obtain ⟨row, found, running⟩ := JobsStore.row_of_status shape
      exact ⟨row, found, running, controller, told⟩
  | finished _ _ _ settled =>
      rw [settled run call place rfl] at awaits
      cases awaits

theorem Memory.agrees_conclude
    (place : memory.runs[run]? = some call)
    (different : id ≠ call.jobId) :
    memory.Agrees (memory.conclude run call.jobId) id := by
  refine (Memory.agrees_release different).trans ?_
  have same : (memory.release call.jobId).runs[run]? = some call := place
  exact Memory.agrees_changeRun same different fun _ => rfl

theorem stage_concluded
    {created : Prop} (once : (memory.runs.map RunCall.jobId).Nodup)
    (place : memory.runs[run]? = some call)
    {status : JobStatus} (ended : ¬ status.active) :
    Stage (memory.conclude run call.jobId) created call.jobId
      (some status) := by
  have jobs : (memory.conclude run call.jobId).runs.map RunCall.jobId =
      memory.runs.map RunCall.jobId :=
    jobs_changeRun run fun _ => rfl
  have last : (memory.conclude run call.jobId).runs[run]? =
      some { call with phase := .returned } := by
    simp [Memory.conclude, Memory.changeRun, Memory.release, place]
  refine .finished status ended ?_ ?_
  · intro _
    rw [jobs]
    exact List.mem_map_of_mem (List.mem_of_getElem? place)
  · intro position other otherPlace owner
    have same : position = run :=
      place_unique (by rw [jobs]; exact once) otherPlace last owner
    subst same
    cases Option.some.inj (otherPlace.symm.trans last)
    rfl

theorem evolves_settle
    (staged : Staged store memory recent)
    (once : (memory.runs.map RunCall.jobId).Nodup)
    (place : memory.runs[run]? = some call)
    (awaits : call.phase = .awaiting) (outcome : TaskOutcome)
    (time : String)
    (settled : settleTask run call outcome time (reliable store memory) =
      result) :
    Evolves late recent [] store memory result.store result.memory := by
  obtain ⟨row, found, running, _, told⟩ :=
    staged.working once place awaits
  have aborted : memory.aborted run = call.aborted := by
    simp [Memory.aborted, place]
  obtain ⟨job, type, message, progress, ended, closing, same, stopped,
    equality⟩ := settleTask_reliable found running
      (by rw [aborted]; exact told) outcome time
  have rewrites := JobsStore.rewrites_write found job closing.named type
    message progress time
  rw [← settled, equality]
  obtain ⟨last, lastPlace, lastOwner, jobs⟩ : ∃ last,
      ended.runs[run]? = some last ∧ last.jobId = call.jobId ∧
        ended.runs.map RunCall.jobId = memory.runs.map RunCall.jobId := by
    rcases same with rfl | rfl
    · exact ⟨call, place, rfl, rfl⟩
    · exact ⟨{ call with aborted := true },
        by simp [Memory.abort, Memory.changeRun, place], rfl,
        jobs_changeRun run fun _ => rfl⟩
  refine evolves_rewrite staged (by rw [found]; rfl) rewrites ?_ rfl ?_ ?_
    ?_ (by simp)
  · intro id different
    have first : memory.Agrees ended id := by
      rcases same with rfl | rfl
      · exact Memory.agrees_of_same rfl rfl rfl id
      · exact Memory.agrees_changeRun place different fun _ => rfl
    refine first.trans ?_
    rw [← lastOwner] at different ⊢
    exact Memory.agrees_conclude lastPlace different
  · rw [← lastOwner]
    exact stage_concluded (by rw [jobs]; exact once) lastPlace closing.ended
  · rintro ⟨_, marked⟩
    have cancelled := stopped (by rw [aborted]; exact told.mpr marked)
    exact .inr (congrArg some cancelled)
  · rw [JobsStore.life_eq found]
    exact .close row job _ _ (.inr running) closing.closes closing.ended
      closing.input

theorem Memory.agrees_withdraw
    {owner id : String} (different : id ≠ owner)
    (own : ∀ run, memory.running.lookup owner = some run →
      ∃ call, memory.runs[run]? = some call ∧ call.jobId = owner) :
    memory.Agrees (memory.withdraw owner) id := by
  have marked : memory.Agrees
      { memory with cancelled := insert owner memory.cancelled } id := by
    refine ⟨?_, rfl, fun _ _ _ => Iff.rfl⟩
    simp [Finset.mem_insert, different]
  unfold Memory.withdraw
  split
  · rename_i run controller
    obtain ⟨call, place, owned⟩ := own run controller
    have same : ({ memory with
        cancelled := insert owner memory.cancelled } :
          Memory).runs[run]? = some call := place
    rw [← owned] at different
    exact marked.trans
      (Memory.agrees_changeRun same different fun _ => rfl)
  · exact marked

variable (late) in
theorem evolves_cancel
    (staged : Staged store memory recent) (id time : String)
    {result : Except String (Option JobRecord) × JobsRunner}
    (cancelled : cancel id time (reliable store memory) = result) :
    Evolves late recent [] store memory result.2.store result.2.memory ∧
      ((store.life id).status = some .queued →
        (result.2.store.life id).status = some .cancelled) ∧
      ((store.life id).status = some .running →
        Stopping result.2.store result.2.memory id) := by
  have idle : (∀ row, store.get id = some row →
      ¬ row.status.active ∨ id ∈ memory.cancelled) →
      result.2 = reliable store memory := by
    intro nothing
    rw [← cancelled]
    exact cancel_idle nothing time
  have stage := staged.stages id
  generalize shape : (store.life id).status = status at stage
  cases stage with
  | unknown =>
      have absent : store.get id = none := Option.map_eq_none_iff.mp shape
      rw [idle (by rw [absent]; simp)]
      exact ⟨evolves_stay staged, (by simp), (by simp)⟩
  | waiting unmarked noController uncalled =>
      obtain ⟨row, found, queued⟩ := JobsStore.row_of_status shape
      obtain ⟨job, message, closing, equality⟩ :=
        cancel_queued found queued unmarked time
      have withdrawn : memory.withdraw id =
          { memory with cancelled := insert id memory.cancelled } := by
        unfold Memory.withdraw
        rw [noController]
      rw [← cancelled, equality, withdrawn]
      have rewrites := JobsStore.rewrites_write found job closing.named
        .cancelled message none time
      have final : job.status = .cancelled :=
        (Option.some.inj closing.closes).symm
      refine ⟨evolves_rewrite staged (by rw [found]; rfl) rewrites ?_ rfl ?_
        ?_ ?_ (by simp), ?_, (by simp)⟩
      · intro other different
        rw [← withdrawn]
        refine Memory.agrees_withdraw different ?_
        rw [noController]
        simp
      · change Stage _ _ id (some job.status)
        rw [final]
        exact .withdrawn (Finset.mem_insert_self _ _) uncalled
      · exact fun told => absurd told.2 unmarked
      · rw [JobsStore.life_eq found]
        exact .close row job _ _ (.inl queued) closing.closes closing.ended
          closing.input
      · intro _
        change (JobsStore.life (store.write _ _ _ _ _) id).status = _
        rw [rewrites.own]
        exact congrArg some final
  | withdrawn marked uncalled =>
      rw [idle fun _ _ => .inr marked]
      exact ⟨evolves_stay staged, (by simp), (by simp)⟩
  | working run call place owner awaits controller told =>
      obtain ⟨row, found, running⟩ := JobsStore.row_of_status shape
      by_cases marked : id ∈ memory.cancelled
      · rw [idle fun _ _ => .inr marked]
        exact ⟨evolves_stay staged, (by simp), fun _ => ⟨shape, marked⟩⟩
      · obtain ⟨message, equality⟩ :=
          cancel_running found running marked time
        have withdrawn : memory.withdraw id = Memory.abort run
            { memory with cancelled := insert id memory.cancelled } := by
          unfold Memory.withdraw
          rw [controller]
        rw [← cancelled, equality, withdrawn]
        have rewrites := store.rewrites_append id .log message none time
        refine ⟨evolves_rewrite staged (by rw [found]; rfl) rewrites ?_ rfl
          ?_ ?_ ?_ (by simp), (by simp),
          fun _ => ⟨?_, Finset.mem_insert_self _ _⟩⟩
        · intro other different
          rw [← withdrawn]
          refine Memory.agrees_withdraw different ?_
          intro position lookup
          cases controller.symm.trans lookup
          exact ⟨call, place, owner⟩
        · change Stage _ _ id ((store.get id).map JobRecord.status)
          rw [found, Option.map_some, running]
          refine .working run { call with aborted := true } ?_ owner awaits
            controller ?_
          · simp [Memory.abort, Memory.changeRun, place]
          · exact ⟨fun _ => Finset.mem_insert_self _ _, fun _ => rfl⟩
        · exact fun told => absurd told.2 marked
        · rw [JobsStore.life_eq found, found]
          exact .work row row _ _ (.inr running) (.inr rfl) rfl rfl
        · change (JobsStore.life (store.append _ _ _ _ _) id).status = _
          rw [rewrites.own]
          exact shape
  | finished status ended =>
      have final : ∀ row, store.get id = some row → ¬ row.status.active := by
        intro row found
        rw [JobsStore.life_eq found] at shape
        cases shape
        exact ended
      rw [idle fun row found => .inl (final row found)]
      refine ⟨evolves_stay staged, ?_, ?_⟩
      · intro queued
        cases queued
        exact absurd (.inl rfl) ended
      · intro running
        cases running
        exact absurd (.inr rfl) ended

theorem evolves_remark
    (staged : Staged store memory recent)
    (place : memory.runs[run]? = some call)
    (lateCall : call.phase ≠ .awaiting → late call.jobId)
    {row job : JobRecord} (found : store.get call.jobId = some row)
    (same : job.status = row.status) (input : job.input = row.input)
    {event : JobEvent}
    (open_ : event.type.closes = none)
    (rewrites : store.Rewrites next call.jobId
      ⟨some job, store.listEvents call.jobId ++ [event]⟩) :
    Evolves late recent [] store memory next memory := by
  have stage := staged.stages call.jobId
  have called : call.jobId ∈ memory.runs.map RunCall.jobId :=
    List.mem_map_of_mem (List.mem_of_getElem? place)
  have status : (store.life call.jobId).status = some row.status := by
    rw [JobsStore.life_eq found]
    rfl
  refine evolves_rewrite staged (by rw [found]; rfl) rewrites
    (fun id _ => Memory.agrees_of_same rfl rfl rfl id) rfl ?_ ?_ ?_ (by simp)
  · change Stage _ _ _ (some job.status)
    rw [same, ← status]
    exact stage
  · rintro ⟨running, marked⟩
    refine .inl ⟨?_, marked⟩
    change some job.status = _
    rw [same, ← status]
    exact running
  · rw [JobsStore.life_eq found]
    by_cases active : row.status.active
    · exact .work row job _ event active (.inr same) input open_
    · refine .remark row job _ event (lateCall ?_) same input open_
      rw [status] at stage
      generalize row.status = rowStatus at stage active
      cases stage with
      | waiting => exact absurd (.inl rfl) active
      | withdrawn _ uncalled => exact absurd called uncalled
      | working => exact absurd (.inr rfl) active
      | finished _ _ _ settled =>
          rw [settled run call place rfl]
          simp

theorem Staged.called_present
    (staged : Staged store memory recent)
    (place : memory.runs[run]? = some call) :
    ∃ row, store.get call.jobId = some row := by
  have stage := staged.stages call.jobId
  cases found : store.get call.jobId with
  | some row => exact ⟨row, rfl⟩
  | none =>
      have status : (store.life call.jobId).status = none := by
        simp [Life.status, JobsStore.life, found]
      rw [status] at stage
      cases stage with
      | unknown _ _ uncalled =>
          exact absurd (List.mem_map_of_mem
            (List.mem_of_getElem? place)) uncalled

theorem evolves_contextLog
    (staged : Staged store memory recent)
    (place : memory.runs[run]? = some call)
    (lateCall : call.phase ≠ .awaiting → late call.jobId)
    (message time : String)
    (logged : (contextLog run call.jobId message time
      (reliable store memory)).2 = result) :
    Evolves late recent [] store memory result.store result.memory := by
  rw [← logged, contextLog_reliable]
  by_cases aborted : memory.aborted run = true
  · rw [if_pos aborted]
    exact evolves_stay staged
  · rw [if_neg aborted]
    obtain ⟨row, found⟩ := staged.called_present place
    have rewrites := store.rewrites_append call.jobId .log message none time
    rw [found] at rewrites
    exact evolves_remark staged place lateCall found rfl rfl rfl rewrites

theorem evolves_contextProgress
    (staged : Staged store memory recent)
    (place : memory.runs[run]? = some call)
    (lateCall : call.phase ≠ .awaiting → late call.jobId)
    (value : Int) (message time : String)
    (reported : (contextProgress run call.jobId value message time
      (reliable store memory)).2 = result) :
    Evolves late recent [] store memory result.store result.memory := by
  obtain ⟨row, found⟩ := staged.called_present place
  rw [← reported]
  rcases contextProgress_reliable found run value message time with
    nothing | ⟨job, progress, named, input, same, _, written⟩
  · rw [nothing]
    exact evolves_stay staged
  · rw [written]
    exact evolves_remark staged place lateCall found same input rfl
      (JobsStore.rewrites_write found job named .progress message progress
        time)

variable (late) in
theorem evolves_restart
    (staged : Staged store memory recent) (time : String)
    (recovered : (recoverInterruptedJobs time
      (reliable store Memory.empty)).2 = result) :
    Evolves late [] [] store Memory.empty result.store result.memory ∧
      ∀ id, (store.life id).status = some .running →
        (result.store.life id).status = some .failed := by
  obtain ⟨next, equality, ids, lives⟩ :=
    recover_reliable Memory.empty store staged.distinct time
  rw [← recovered, equality]
  have idle : ∀ id, id ∉ Memory.empty.runs.map RunCall.jobId :=
    fun _ => List.not_mem_nil
  refine ⟨⟨?_, nofun, ?_, ?_, (by simp), ?_⟩, ?_⟩
  · intro id
    have finished : ∀ status : JobStatus, ¬ status.active →
        Stage Memory.empty (id ∈ handedOver ([] ++ [])) id
          (some status) := by
      intro status ended
      refine .finished status ended (fun created => ?_) nofun
      exact absurd created List.not_mem_nil
    rcases lives id with
      ⟨row, job, event, found, active, input, failed, type, life⟩ |
        ⟨ended, life⟩
    · change Stage _ _ _ (next.life id).status
      rw [life]
      change Stage _ _ _ (some job.status)
      rw [failed]
      exact finished .failed (by decide)
    · change Stage _ _ _ (next.life id).status
      rw [life]
      cases found : store.get id with
      | none =>
          have status : (store.life id).status = none := by
            simp [Life.status, JobsStore.life, found]
          rw [status]
          exact .unknown (Finset.notMem_empty _) rfl (idle id)
      | some row =>
          rw [JobsStore.life_eq found]
          exact finished row.status (ended row found)
  · intro id
    rcases lives id with
      ⟨row, job, event, found, active, input, failed, type, life⟩ |
        ⟨ended, life⟩
    · change LifeStep _ _ (next.life id)
      rw [life, JobsStore.life_eq found]
      refine .close row job _ event active ?_ ?_ input
      · rw [type, failed]
        rfl
      · rw [failed]
        decide
    · change LifeStep _ _ (next.life id)
      rw [life]
      exact .stay _
  · change (next.jobs.map _).Nodup
    rw [ids]
    exact staged.distinct
  · intro id absent present
    rcases lives id with
      ⟨row, job, event, found, _⟩ | ⟨ended, life⟩
    · rw [found] at absent
      cases absent
    · have kept : next.get id = store.get id := congrArg Life.row life
      change (next.get id).isSome at present
      rw [kept, absent] at present
      cases present
  · intro id running
    change (next.life id).status = some .failed
    rcases lives id with
      ⟨row, job, event, found, active, input, failed, type, life⟩ |
        ⟨ended, life⟩
    · rw [life]
      exact congrArg some failed
    · obtain ⟨row, found, status⟩ := JobsStore.row_of_status running
      exact absurd (.inr status) (ended row found)

theorem evolves_drainLoop
    (staged : Staged store memory recent) (queueKey time : String)
    (callable : ∀ id rest,
      memory.queues.lookup queueKey = some (id :: rest) →
        id ∈ handedOver recent ∧ (store.get id).isSome ∧
          id ∉ memory.runs.map RunCall.jobId)
    {result : JobsRunner × List Observation}
    (looped : drainLoop queueKey time (reliable store memory) = result) :
    Evolves late recent result.2 store memory result.1.store
      result.1.memory := by
  unfold drainLoop at looped
  split at looped
  · rw [← looped]
    exact evolves_stay staged
  · rw [← looped]
    exact (evolves_stay staged).agrees
      (Memory.agrees_of_same rfl rfl rfl)
      (Memory.agrees_of_same rfl rfl rfl)
  · rename_i id rest queued
    obtain ⟨created, present, uncalled⟩ := callable id rest queued
    rw [← looped]
    exact (evolves_call staged created present uncalled (some queueKey)
      time rfl).agrees (Memory.agrees_of_same rfl rfl rfl)
        (Memory.agrees_of_same rfl rfl rfl)

end Steps

end GravitPanel.Jobs
