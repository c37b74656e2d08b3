import GravitPanel.Jobs.Runner
import GravitPanel.Core.SerialQueues
import Mathlib.Logic.Relation

/-!
# What the code of the runner may change

The view of the runner's memory as a scheduler of keyed queues, and the small
changes that the code between two `await`s is made of.  Every program of the
runner is a sequence of such changes, so an invariant that each of them keeps
is kept by all programs.
-/

namespace GravitPanel.Jobs

open Program
open SerialQueues (Lanes Label)

def Phase.scheduler : Phase → SerialQueues.Phase
  | .awaiting => .running
  | .returned => .done
  | .rejected => .broken

def RunCall.scheduler (call : RunCall) : SerialQueues.Call String String :=
  ⟨call.jobId, call.queue, call.phase.scheduler⟩

def Thread.scheduler : Thread → SerialQueues.Thread String String
  | .runScheduled jobId => .single jobId
  | .drainScheduled queueKey => .drain queueKey
  | .drainAwaits queueKey run => .awaits queueKey run

def Memory.lanes (memory : Memory) : Lanes String String where
  queues := memory.queues.lookup
  calls := memory.runs.map RunCall.scheduler
  threads := memory.threads.map Thread.scheduler

def Observation.label : Observation → Label String String
  | .scheduled jobId => .created none jobId
  | .enqueued queueKey jobId => .created (some queueKey) jobId
  | .called queue jobId => .started queue jobId

/-- A change of a program on the tables. -/
inductive StoreTouch : JobsRunner → JobsRunner → Prop where
  | access (runner) (throws : Bool) (rest : List Bool)
      (body : runner.faults.body = throws :: rest) :
      StoreTouch runner
        { runner with faults := { runner.faults with body := rest } }
  | replace (runner) (job : JobRecord)
      (present : (runner.store.get job.id).isSome) :
      StoreTouch runner { runner with store := runner.store.replace job }
  | append (runner) (jobId : String) (type : JobEventType)
      (message : String) (progress : Option Progress) (now : String) :
      StoreTouch runner
        { runner with
          store := runner.store.append jobId type message progress now }

/-- A change of a program that works on one job: it moves no queue, call or
drain, and marks no other job as cancelled or not. -/
inductive Touch (owner : String) : JobsRunner → JobsRunner → Prop where
  | store {runner next} (touch : StoreTouch runner next) :
      Touch owner runner next
  | arm (runner) :
      Touch owner runner
        { runner with faults := ⟨runner.faults.handler, []⟩ }
  | memory (runner) (memory : Memory)
      (same : memory.lanes = runner.memory.lanes)
      (others : ∀ id, id ≠ owner →
        (id ∈ memory.cancelled ↔ id ∈ runner.memory.cancelled)) :
      Touch owner runner { runner with memory := memory }

def StoreTouches {Value : Type} (program : JobsProgram Value) : Prop :=
  ∀ start, Keeps (Relation.ReflTransGen StoreTouch start) program

def Touches {Value : Type} (owner : String) (program : JobsProgram Value) :
    Prop :=
  ∀ start, Keeps (Relation.ReflTransGen (Touch owner) start) program

variable {owner : String}
variable {Value : Type} {program : JobsProgram Value} {id : String}

theorem Touches.keeps
    {invariant : JobsRunner → Prop}
    (touches : Touches owner program)
    (kept : ∀ runner next, Touch owner runner next → invariant runner →
      invariant next) : Keeps invariant program := by
  intro runner holds
  have path := touches runner runner .refl
  have along : ∀ reached, Relation.ReflTransGen (Touch owner) runner reached →
      invariant reached := by
    intro reached changes
    induction changes with
    | refl => exact holds
    | tail _ touch ih =>
        exact kept _ _ touch ih
  generalize program runner = result at path ⊢
  obtain ⟨outcome, reached⟩ := result
  cases outcome with
  | error problem => exact along reached path
  | ok value => exact along reached path

theorem StoreTouches.touches
    (touches : StoreTouches program) : Touches owner program := by
  intro start runner path
  have own := touches runner runner .refl
  have along : ∀ reached, Relation.ReflTransGen StoreTouch runner reached →
      Relation.ReflTransGen (Touch owner) start reached := by
    intro reached changes
    exact path.trans (changes.lift id fun _ _ touch => .store touch)
  generalize program runner = result at own ⊢
  obtain ⟨outcome, reached⟩ := result
  cases outcome with
  | error problem => exact along reached own
  | ok value => exact along reached own

theorem storeTouches_access : StoreTouches access := by
  intro start runner path
  unfold access
  cases body : runner.faults.body with
  | nil => exact path
  | cons throws rest =>
      have touch := StoreTouch.access runner throws rest body
      cases throws <;> exact path.tail touch

theorem storeTouches_getRow (id : String) : StoreTouches (getRow id) := by
  intro start
  refine (storeTouches_access start).bind fun _ => ?_
  exact keeps_get.bind fun _ => keeps_pure _

theorem JobsStore.get_id {store : JobsStore}
    {job : JobRecord} (found : store.get id = some job) : job.id = id := by
  have matched := List.find?_some found
  exact of_decide_eq_true matched

theorem storeTouches_updateRow
    {values : JobRecord → JobRecord}
    (named : ∀ job, (values job).id = job.id) :
    StoreTouches (updateRow id values) := by
  intro start runner path
  have read := storeTouches_access start runner path
  unfold updateRow getRow
  simp only [bind_apply]
  generalize access runner = result at read ⊢
  obtain ⟨outcome, reached⟩ := result
  cases outcome with
  | error problem => exact read
  | ok value =>
      simp only [get_apply, pure_apply]
      cases found : reached.store.get id with
      | none => exact read
      | some current =>
          refine Relation.ReflTransGen.tail read (.replace _ _ ?_)
          rw [named, JobsStore.get_id found, found]
          rfl

theorem storeTouches_emit
    (jobId : String) (type : JobEventType) (message : String)
    (progress : Option Progress) (now : String) :
    StoreTouches (emit jobId type message progress now) := by
  intro start
  have appended : Keeps (Relation.ReflTransGen StoreTouch start)
      (appendEvent jobId type message progress now) := by
    refine (storeTouches_access start).bind fun _ => ?_
    intro runner path
    exact Relation.ReflTransGen.tail path (.append _ _ _ _ _ _)
  exact appended.bind fun _ => storeTouches_access start

theorem touches_updateMemory {change : Memory → Memory}
    (kept : ∀ memory, (change memory).lanes = memory.lanes)
    (others : ∀ memory id, id ≠ owner →
      (id ∈ (change memory).cancelled ↔ id ∈ memory.cancelled)) :
    Touches owner (updateMemory change) := by
  intro start runner path
  exact Relation.ReflTransGen.tail path (.memory _ _ (kept _) (others _))

theorem lanes_abort (run : Nat) (memory : Memory) :
    (memory.abort run).lanes = memory.lanes := by
  have calls :
      (memory.runs.modify run fun call => { call with aborted := true }).map
        RunCall.scheduler = memory.runs.map RunCall.scheduler := by
    apply List.ext_getElem?
    intro index
    rw [List.getElem?_map, List.getElem?_map, List.getElem?_modify]
    cases memory.runs[index]? with
    | none => rfl
    | some call =>
        change some (if run = index then _ else call).scheduler =
          some call.scheduler
        split <;> rfl
  simp [Memory.lanes, Memory.abort, Memory.changeRun, calls]

theorem lanes_release (jobId : String) (memory : Memory) :
    (memory.release jobId).lanes = memory.lanes := rfl

theorem cancelled_release (jobId : String) (memory : Memory) (id : String)
    (other : id ≠ jobId) :
    id ∈ (memory.release jobId).cancelled ↔ id ∈ memory.cancelled := by
  simp [Memory.release, Finset.mem_erase, other]

theorem storeTouches_markCancelled (jobId now : String) :
    StoreTouches (markCancelled jobId now) := by
  intro start
  refine Keeps.bind (storeTouches_updateRow ?_ start) fun _ => ?_
  · exact fun _ => rfl
  refine (storeTouches_emit _ _ _ _ _ start).bind fun _ => ?_
  exact keeps_pure _

theorem storeTouches_markFailed (jobId message now : String) :
    StoreTouches (markFailed jobId message now) := by
  intro start
  refine Keeps.bind (storeTouches_updateRow ?_ start) fun _ => ?_
  · exact fun _ => rfl
  exact storeTouches_emit _ _ _ _ _ start

theorem touches_abortController (controller : Option Nat) :
    Touches owner (abortController controller) := by
  cases controller with
  | none => exact fun _ => keeps_pure _
  | some controller =>
      exact touches_updateMemory (lanes_abort controller)
        fun _ _ _ => Iff.rfl

theorem touches_requestCancellation
    (job : JobRecord) (jobId now : String) (controller : Option Nat) :
    Touches jobId (requestCancellation job jobId now controller) := by
  intro start
  have marked : Touches jobId (updateMemory fun memory =>
      { memory with cancelled := insert jobId memory.cancelled }) :=
    touches_updateMemory (fun _ => rfl) fun memory id other => by
      simp [Finset.mem_insert, other]
  refine (marked start).bind fun _ => ?_
  refine (touches_abortController _ start).bind fun _ => ?_
  split
  · refine ((storeTouches_emit _ _ _ _ _).touches start).bind fun _ => ?_
    exact keeps_pure _
  · refine ((storeTouches_markCancelled _ _).touches start).bind
      fun _ => ?_
    exact keeps_pure _

theorem touches_cancel (jobId now : String) :
    Touches jobId (cancel jobId now) := by
  intro start
  refine ((storeTouches_getRow jobId).touches start).bind fun job => ?_
  cases job with
  | none => exact keeps_pure _
  | some job =>
      refine keeps_get.bind fun runner => ?_
      split
      · exact keeps_pure _
      split
      · exact keeps_pure _
      · exact touches_requestCancellation job jobId now _ start

theorem touches_startTask (run : Nat) (jobId now : String) :
    Touches jobId (startTask run jobId now) := by
  intro start
  refine keeps_get.bind fun runner => ?_
  split
  · refine Keeps.bind (touches_updateMemory (lanes_abort run) ?_ start)
      fun _ => ?_
    · exact fun _ _ _ => Iff.rfl
    exact keeps_pure _
  · refine Keeps.bind ((storeTouches_updateRow ?_).touches start)
      fun _ => ?_
    · exact fun _ => rfl
    refine ((storeTouches_emit _ _ _ _ _).touches start).bind fun _ => ?_
    exact keeps_pure _

theorem touches_finishTask
    (run : Nat) (jobId : String) (outcome : TaskOutcome) (now : String) :
    Touches jobId (finishTask run jobId outcome now) := by
  intro start
  cases outcome with
  | rejected message => exact keeps_throw _
  | resolved result =>
      have stopped : Touches jobId (updateMemory fun memory =>
          if jobId ∈ memory.cancelled then memory.abort run
          else memory) := by
        apply touches_updateMemory
        · intro memory
          split
          · exact lanes_abort run memory
          · rfl
        · intro memory id other
          split <;> rfl
      refine (stopped start).bind fun _ => keeps_get.bind fun runner => ?_
      split
      · exact keeps_throw _
      refine ((storeTouches_getRow jobId).touches start).bind fun job => ?_
      split
      · exact keeps_pure _
      cases result with
      | none => exact keeps_throw _
      | some result =>
          refine Keeps.bind ((storeTouches_updateRow ?_).touches start)
            fun _ => ?_
          · exact fun _ => rfl
          exact (storeTouches_emit _ _ _ _ _).touches start

theorem storeTouches_isStopped (run : Nat) (jobId : String) :
    StoreTouches (isStopped run jobId) := by
  intro start
  refine keeps_get.bind fun runner => ?_
  split
  · exact keeps_pure _
  · exact (storeTouches_getRow jobId start).bind fun _ => keeps_pure _

theorem touches_catchError (run : Nat) (jobId error now : String) :
    Touches jobId (catchError run jobId error now) := by
  intro start
  have armed : Keeps (Relation.ReflTransGen (Touch jobId) start)
      (update fun runner : JobsRunner =>
        { runner with faults := ⟨runner.faults.handler, []⟩ } :
          JobsProgram PUnit) :=
    fun runner path => Relation.ReflTransGen.tail path (.arm runner)
  refine armed.bind fun _ => ?_
  refine ((storeTouches_isStopped run jobId).touches start).bind
    fun stopped => ?_
  split
  · refine ((storeTouches_getRow jobId).touches start).bind fun job => ?_
    split
    · exact keeps_pure _
    · exact ((storeTouches_markCancelled jobId now).touches start).bind
        fun _ => keeps_pure _
  · exact (storeTouches_markFailed jobId error now).touches start

theorem touches_guarded
    {body : JobsProgram Phase} (run : Nat) (jobId now : String)
    (kept : Touches jobId body) : Touches jobId (guarded run jobId now body) := by
  intro start
  refine (kept start).handle fun error => ?_
  apply Triple.cleanUp
  have caught : Keeps (Relation.ReflTransGen (Touch jobId) start)
      (catchError run jobId error now >>= fun _ =>
        (pure .returned : JobsProgram Phase)) :=
    (touches_catchError run jobId error now start).bind fun _ =>
      keeps_pure _
  have released : ∀ runner : JobsRunner, Touch jobId runner
      { runner with memory := runner.memory.release jobId } :=
    fun runner => .memory runner _ (lanes_release jobId _)
      (cancelled_release jobId runner.memory)
  refine caught.weaken (fun _ path => path) ?_ ?_
  · exact fun _ runner path =>
      Relation.ReflTransGen.tail path (released runner)
  · exact fun _ runner path =>
      Relation.ReflTransGen.tail path (released runner)

theorem touches_release (jobId : String) :
    Touches jobId (updateMemory (Memory.release jobId)) :=
  touches_updateMemory (lanes_release jobId) (cancelled_release jobId)

theorem touches_tryStart (run : Nat) (jobId now : String) :
    Touches jobId (tryStart run jobId now) := by
  intro start
  refine (touches_startTask run jobId now start).bind fun called => ?_
  cases called with
  | true => exact keeps_pure _
  | false =>
      exact (touches_release jobId start).bind fun _ => keeps_pure _

theorem touches_tryFinish
    (run : Nat) (jobId : String) (outcome : TaskOutcome) (now : String) :
    Touches jobId (tryFinish run jobId outcome now) := by
  intro start
  refine (touches_finishTask run jobId outcome now start).bind fun _ => ?_
  exact (touches_release jobId start).bind fun _ => keeps_pure _

theorem touches_runJob (run : Nat) (jobId now : String) :
    Touches jobId (runJob run jobId now) := by
  intro start
  refine keeps_get.bind fun runner => ?_
  split
  · have erased : Touches jobId (updateMemory fun memory =>
        { memory with cancelled := memory.cancelled.erase jobId }) :=
      touches_updateMemory (fun _ => rfl) (cancelled_release jobId)
    exact (erased start).bind fun _ => keeps_pure _
  · have entered : Touches jobId (updateMemory fun memory =>
        { memory with running := memory.running.insert jobId run }) :=
      touches_updateMemory (fun _ => rfl) fun _ _ _ => Iff.rfl
    refine (entered start).bind fun _ => ?_
    exact touches_guarded run jobId now (touches_tryStart run jobId now)
      start

theorem touches_resumeJob
    (run : Nat) (jobId : String) (outcome : TaskOutcome) (now : String) :
    Touches jobId (resumeJob run jobId outcome now) :=
  touches_guarded run jobId now (touches_tryFinish run jobId outcome now)

theorem storeTouches_contextLog (run : Nat) (jobId message now : String) :
    StoreTouches (contextLog run jobId message now) := by
  intro start
  refine keeps_get.bind fun runner => ?_
  split
  · exact keeps_throw _
  · exact storeTouches_emit _ _ _ _ _ start

theorem storeTouches_contextProgress
    (run : Nat) (jobId : String) (value : Int) (message now : String) :
    StoreTouches (contextProgress run jobId value message now) := by
  intro start
  refine keeps_get.bind fun runner => ?_
  split
  · exact keeps_throw _
  split
  · exact keeps_throw _
  · refine Keeps.bind (storeTouches_updateRow ?_ start) fun _ => ?_
    · exact fun _ => rfl
    exact storeTouches_emit _ _ _ _ _ start

theorem StoreTouches.keepsMemory
    (touches : StoreTouches program) (memory : Memory) :
    Keeps (fun runner => runner.memory = memory) program := by
  intro runner same
  have path := touches runner runner .refl
  have along : ∀ reached, Relation.ReflTransGen StoreTouch runner reached →
      reached.memory = memory := by
    intro reached changes
    induction changes with
    | refl => exact same
    | tail _ touch ih =>
        cases touch <;> exact ih
  generalize program runner = result at path ⊢
  obtain ⟨outcome, reached⟩ := result
  cases outcome with
  | error problem => exact along reached path
  | ok value => exact along reached path

theorem StoreTouches.memory
    (touches : StoreTouches program) (runner : JobsRunner) :
    (program runner).2.memory = runner.memory :=
  (touches.keepsMemory runner.memory).reached rfl

theorem Touch.lanes {runner next : JobsRunner}
    (touch : Touch owner runner next) :
    next.memory.lanes = runner.memory.lanes := by
  cases touch with
  | store touch => cases touch <;> rfl
  | arm => rfl
  | memory memory same => exact same

theorem Touches.lanes
    (touches : Touches owner program) (runner : JobsRunner) :
    (program runner).2.memory.lanes = runner.memory.lanes := by
  have kept : Keeps
      (fun reached => reached.memory.lanes = runner.memory.lanes)
      program :=
    touches.keeps fun _ _ touch same => touch.lanes.trans same
  exact kept.reached rfl

theorem JobsStore.get_replace
    (store : JobsStore) (job : JobRecord) (id : String) :
    (store.replace job).get id =
      if id = job.id then (store.get id).map fun _ => job
      else store.get id := by
  unfold JobsStore.get JobsStore.replace
  induction store.jobs with
  | nil => simp
  | cons row rest ih =>
      simp only [List.map_cons, List.find?_cons]
      by_cases owner : row.id = job.id
      · rw [if_pos owner]
        by_cases same : id = job.id
        · simp [same, owner]
        · rw [if_neg same] at ih ⊢
          have other : ¬ job.id = id := fun equal => same equal.symm
          simp [owner, other, ih]
      · rw [if_neg owner]
        by_cases same : row.id = id
        · have other : ¬ id = job.id := fun equal =>
            owner (same.trans equal)
          simp [same, other]
        · simp [same, ih]

theorem Touch.present {runner next : JobsRunner}
    (touch : Touch owner runner next)
    (present : (runner.store.get id).isSome) :
    (next.store.get id).isSome := by
  cases touch with
  | store touch =>
      cases touch with
      | access => exact present
      | replace job =>
          simp only [JobsStore.get_replace]
          split
          · simpa using present
          · exact present
      | append => exact present
  | arm => exact present
  | memory => exact present

theorem Touches.present
    (touches : Touches owner program) (id : String) :
    Keeps (fun runner => (runner.store.get id).isSome) program :=
  touches.keeps fun _ _ touch present => touch.present present

theorem StoreTouches.present
    (touches : StoreTouches program) (id : String) :
    Keeps (fun runner => (runner.store.get id).isSome) program :=
  (touches.touches : Touches id program).present id

/-- The row of the job is there, and the `catch` block will not throw. -/
def Prepared (id : String) (runner : JobsRunner) : Prop :=
  true ∉ runner.faults.handler ∧ (runner.store.get id).isSome

/-- The row of the job is there, and no access throws. -/
def Calm (id : String) (runner : JobsRunner) : Prop :=
  true ∉ runner.faults.body ∧ (runner.store.get id).isSome

/-- The program does not throw when no access does. -/
def Succeeds {Value : Type} (id : String) (program : JobsProgram Value) :
    Prop :=
  Triple (Calm id) program (fun _ => Calm id) (fun _ _ => False)

theorem Touches.prepared
    (touches : Touches owner program) (id : String) :
    Keeps (Prepared id) program := by
  apply touches.keeps
  rintro runner next touch ⟨quiet, present⟩
  refine ⟨?_, touch.present present⟩
  cases touch with
  | store touch => cases touch <;> exact quiet
  | arm => exact List.not_mem_nil
  | memory => exact quiet

theorem succeeds_access (id : String) : Succeeds id access := by
  rintro runner ⟨quiet, present⟩
  unfold access
  cases body : runner.faults.body with
  | nil =>
      refine ⟨?_, present⟩
      rw [body]
      exact List.not_mem_nil
  | cons throws rest =>
      rw [body, List.mem_cons, not_or] at quiet
      cases throws with
      | true => exact absurd rfl quiet.1
      | false => exact ⟨quiet.2, present⟩

theorem getRow_calm (id : String) :
    Triple (Calm id) (getRow id)
      (fun job runner => Calm id runner ∧ job = runner.store.get id)
      (fun _ _ => False) := by
  refine Triple.bind (succeeds_access id) fun _ => ?_
  intro runner calm
  exact ⟨calm, rfl⟩

theorem succeeds_updateRow
    {values : JobRecord → JobRecord}
    (named : ∀ job, (values job).id = job.id) :
    Succeeds id (updateRow id values) := by
  refine Triple.bind (getRow_calm id) fun current => ?_
  cases current with
  | none =>
      rintro runner ⟨calm, found⟩
      have present := calm.2
      rw [← found] at present
      cases present
  | some current =>
      rintro runner ⟨calm, found⟩
      refine ⟨calm.1, ?_⟩
      have same := JobsStore.get_id found.symm
      simp [JobsStore.get_replace, named, same, ← found]

theorem succeeds_emit
    (id jobId : String) (type : JobEventType) (message : String)
    (progress : Option Progress) (now : String) :
    Succeeds id (emit jobId type message progress now) := by
  have appended : Succeeds id
      (appendEvent jobId type message progress now) :=
    Triple.bind (succeeds_access id) fun _ => fun _ calm => calm
  exact Triple.bind appended fun _ => succeeds_access id

theorem succeeds_markCancelled (id now : String) :
    Succeeds id (markCancelled id now) := by
  refine Triple.bind (succeeds_updateRow ?_) fun _ => ?_
  · exact fun _ => rfl
  refine Triple.bind (succeeds_emit id _ _ _ _ _) fun _ => ?_
  exact fun _ calm => calm

theorem succeeds_markFailed (id message now : String) :
    Succeeds id (markFailed id message now) := by
  refine Triple.bind (succeeds_updateRow ?_) fun _ => ?_
  · exact fun _ => rfl
  exact succeeds_emit id _ _ _ _ _

theorem succeeds_getRow (id : String) : Succeeds id (getRow id) :=
  (getRow_calm id).weaken (fun _ calm => calm)
    (fun _ _ reached => reached.1) (fun _ _ never => never)

theorem catchError_returns (run : Nat) (id error now : String) :
    Triple (Prepared id) (catchError run id error now)
      (fun _ => Calm id) (fun _ _ => False) := by
  have armed : Triple (Prepared id)
      (update fun runner : JobsRunner =>
        { runner with faults := ⟨runner.faults.handler, []⟩ } :
          JobsProgram PUnit)
      (fun _ => Calm id) (fun _ _ => False) :=
    fun _ prepared => prepared
  refine armed.bind fun _ => ?_
  have asked : Succeeds id (isStopped run id) := by
    have read : Succeeds id get := fun _ calm => calm
    refine read.bind fun runner => ?_
    split
    · exact fun _ calm => calm
    · exact (succeeds_getRow id).bind fun _ => fun _ calm => calm
  refine Triple.bind asked fun stopped => ?_
  split
  · refine Triple.bind (succeeds_getRow id) fun job => ?_
    split
    · exact fun _ calm => calm
    · exact (succeeds_markCancelled id now).bind fun _ =>
        fun _ calm => calm
  · exact succeeds_markFailed id error now

theorem guarded_returns
    {body : JobsProgram Phase} {run : Nat} {id now : String}
    (touches : Touches id body)
    (ends : Triple (fun _ => True) body (fun phase _ => phase ≠ .rejected)
      (fun _ _ => True)) :
    Triple (Prepared id) (guarded run id now body)
      (fun phase _ => phase ≠ .rejected) (fun _ _ => False) := by
  refine Triple.handle (fun _ => Prepared id) ?_ fun error => ?_
  · intro runner prepared
    have kept := touches.prepared id runner prepared
    have phase := ends runner trivial
    generalize body runner = result at kept phase ⊢
    obtain ⟨outcome, next⟩ := result
    cases outcome with
    | error problem => exact kept
    | ok value => exact phase
  · apply Triple.cleanUp
    refine (catchError_returns run id error now).bind fun _ => ?_
    exact fun _ _ => nofun

theorem Touches.cancelled
    (touches : Touches owner program) (runner : JobsRunner)
    (other : id ≠ owner) :
    id ∈ (program runner).2.memory.cancelled ↔
      id ∈ runner.memory.cancelled := by
  have kept : Keeps
      (fun reached =>
        id ∈ reached.memory.cancelled ↔ id ∈ runner.memory.cancelled)
      program := by
    apply touches.keeps
    intro reached next touch same
    cases touch with
    | store touch => cases touch <;> exact same
    | arm => exact same
    | memory memory lanes others => exact (others id other).trans same
  exact kept.reached Iff.rfl

end GravitPanel.Jobs
