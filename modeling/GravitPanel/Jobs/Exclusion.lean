import GravitPanel.Jobs.LifeCycle
import GravitPanel.Jobs.Routes

/-!
# Mutual exclusion of guarded jobs

A route that answers 409 when a job of its installation is active creates its
job only while none is, as long as no job of the installation is created while
the handler awaits between its check and its creation.
-/

namespace GravitPanel.Jobs

open Execution

/-- No job of the installation is queued or running. -/
def Idle (store : JobsStore) (installationId : String) : Prop :=
  activeJobForInstallation store installationId = none

theorem idle_iff {store : JobsStore} {installationId : String} :
    Idle store installationId ↔
      ∀ row ∈ store.jobs, row.status.active →
        row.input.installationId ≠ some installationId := by
  unfold Idle activeJobForInstallation JobsStore.listByStatuses
  rw [List.find?_eq_none]
  simp only [List.mem_filter, decide_eq_true_eq, and_imp]
  constructor
  · intro none_found row member active
    exact none_found row member (by simpa [JobStatus.active] using active)
  · intro none_found row member active
    exact none_found row member (by simpa [JobStatus.active] using active)

/-- A reliable step of the runner. -/
def quietly (action : JobsAction) (now : String) : JobsStep :=
  ⟨action, now, ⟨[], []⟩⟩

section Runner

variable {runner next : JobsRunner} {action : JobsAction} {time : String}
variable {now : List Observation}

/-- The event of a step that creates a job: the job had no row and has one with
the given input, and it is the only one that is handed over. -/
theorem step_creates
    (stepped : step runner (quietly action time) = some (next, now))
    {id : String} {input : JobInput}
    (creates : action.creates = some (id, input)) :
    runner.store.get id = none ∧ handedOver now = [id] ∧
      ∃ row, next.store.get id = some row ∧ row.input = input := by
  change perform action time (reliable runner.store runner.memory) =
    some (next, now) at stepped
  have entered : ∀ (job : JobRecord) (message : String),
      runner.store.get job.id = none →
      (runner.store.enter job message time).get job.id = some job :=
    fun job message fresh => congrArg Life.row
      (runner.store.enter_life job fresh message time).1
  cases action with
  | create jobId type jobInput message =>
      cases creates
      obtain ⟨job, rfl, _, rfl, equality, _⟩ := create_reliable
        runner.store runner.memory id type input message time
      simp only [perform, equality] at stepped
      split at stepped
      · cases stepped
      · rename_i fresh
        have absent := Option.not_isSome_iff_eq_none.mp fresh
        cases stepped
        exact ⟨absent, rfl, job, entered job message absent, rfl⟩
  | createQueued queueKey jobId type jobInput message =>
      cases creates
      obtain ⟨job, rfl, _, rfl, _, equality⟩ := create_reliable
        runner.store runner.memory id type input message time
      simp only [perform, equality] at stepped
      split at stepped
      · cases stepped
      · rename_i fresh
        have absent := Option.not_isSome_iff_eq_none.mp fresh
        cases stepped
        exact ⟨absent, rfl, job, entered job message absent, rfl⟩
  | _ => cases creates

theorem step_new_row
    (lives : Lives runner)
    (stepped : step runner (quietly action time) = some (next, now))
    {row : JobRecord} (absent : runner.store.get row.id = none)
    (found : next.store.get row.id = some row) :
    action.creates = some (row.id, row.input) := by
  have told := (lives.step rfl stepped).2
  have created := told.created row.id absent (by rw [found]; rfl)
  cases shape : action.creates with
  | none =>
      have silent := step_silent stepped shape
      simp [handedOver, silent] at created
  | some entry =>
      obtain ⟨_, handed, other, there, input⟩ := step_creates stepped shape
      rw [handed] at created
      have same : row.id = entry.1 := List.mem_singleton.mp created
      rw [← same, found] at there
      have pair : entry = (row.id, row.input) := by
        rw [same, Option.some.inj there, input]
      rw [pair]

theorem Lives.distinct (lives : Lives runner) :
    (runner.store.jobs.map JobRecord.id).Nodup := by
  obtain ⟨recent, living⟩ := lives
  exact living.staged.distinct

theorem step_active
    (lives : Lives runner)
    (stepped : step runner (quietly action time) = some (next, now))
    {row : JobRecord} (found : next.store.get row.id = some row)
    (active : row.status.active) :
    (∃ before, runner.store.get row.id = some before ∧
        before.status.active ∧ before.input = row.input) ∨
      runner.store.get row.id = none ∧
        action.creates = some (row.id, row.input) := by
  have told := (lives.step rfl stepped).2
  rcases (told.lives row.id).active found active with
    absent | ⟨before, there, earlier⟩
  · exact .inr ⟨absent, step_new_row lives stepped absent found⟩
  · obtain ⟨after, same, input⟩ := (told.lives row.id).input there
    have equality : after = row := Option.some.inj (same.symm.trans found)
    rw [equality] at input
    exact .inl ⟨before, there, earlier, input.symm⟩

theorem Idle.step
    {installationId : String} (idle : Idle runner.store installationId)
    (lives : Lives runner)
    (stepped : Jobs.step runner (quietly action time) = some (next, now))
    (other : ∀ id input, action.creates = some (id, input) →
      input.installationId ≠ some installationId) :
    Idle next.store installationId := by
  rw [idle_iff] at idle ⊢
  intro row member active
  have found := JobsStore.get_of_mem (lives.step rfl stepped).1.distinct
    member
  rcases step_active lives stepped found active with
    ⟨before, there, earlier, input⟩ | ⟨_, creates⟩
  · rw [← input]
    exact idle before (List.mem_of_find?_eq_some there) earlier
  · exact other row.id row.input creates

end Runner

/-- No job is created before the next check for a conflicting one. -/
def checksFirst : List Part → Bool
  | [] => true
  | .require _ _ :: rest => checksFirst rest
  | .conflictFor _ :: _ => true
  | .await :: rest => checksFirst rest
  | .create _ :: _ => false
  | .enqueue _ :: _ => true

/-- Every route that creates a job with `create` checks for a conflict
first. -/
theorem route_checksFirst (route : Route) :
    checksFirst route.parts = true := by
  cases route with
  | customizeLauncher logo background favicon =>
      cases logo <;> cases background <;> cases favicon <;> rfl
  | _ => rfl

/-- The request has passed its check for a conflict and has not created its job
yet. -/
def Request.pastCheck (request : Request) : Bool :=
  !checksFirst request.rest

/-- The handler creates a job before its next `await`. -/
def reachesCreation
    (store : JobsStore) (installationId : String) :
    List Part → List Bool → Bool
  | [], _ => false
  | .require _ _ :: rest, answers =>
      if answers.head? = some false then false
      else reachesCreation store installationId rest answers.tail
  | .conflictFor _ :: rest, answers =>
      if (activeJobForInstallation store installationId).isSome then false
      else reachesCreation store installationId rest answers
  | .await :: _, _ => false
  | .create _ :: _, _ => true
  | .enqueue _ :: _, _ => true

/-- How a handler's turn ends. -/
inductive ServedAs (body : RequestBody) (now : String)
    (runner : JobsRunner) (reaches : Bool) : Served → Prop where
  | ended (outputs : List PanelOutput)
      (silent : ∀ guarded installationId jobId,
        .created guarded installationId jobId ∉ outputs) :
      ServedAs body now runner reaches ⟨runner, none, outputs⟩
  | awaits (rest : List Part)
      (checked : checksFirst rest = true ∨
        Idle runner.store body.installationId) :
      ServedAs body now runner reaches ⟨runner, some ⟨body, rest⟩, []⟩
  | created (guarded : Bool) (type : String) (next : JobsRunner)
      (observations : List Observation) (reached : reaches = true)
      (idle : guarded = true → Idle runner.store body.installationId)
      (stepped : step runner (quietly (body.creation guarded type) now) =
        some (next, observations)) :
      ServedAs body now runner reaches
        ⟨next, none,
          [.created guarded body.installationId body.jobId,
            .answered 202 (some body.queuedMessage)]⟩

variable {body : RequestBody}
variable {panel : Panel} {served : Served}

theorem serve_as
    {now : String} {runner : JobsRunner}
    {parts : List Part} {answers : List Bool}
    (checked : checksFirst parts = true ∨
      Idle runner.store body.installationId)
    (run : serve body now parts answers runner = some served) :
    ServedAs body now runner
      (reachesCreation runner.store body.installationId parts answers)
      served := by
  have creates : ∀ guarded type,
      (guarded = true → Idle runner.store body.installationId) →
      createJob body guarded type now runner = some served →
      ServedAs body now runner true served := by
    intro guarded type idle run
    unfold createJob at run
    split at run
    · cases run
    · rename_i next observations stepped
      cases run
      exact .created guarded type next observations rfl idle stepped
  induction parts generalizing answers with
  | nil =>
      cases run
      exact .ended [] nofun
  | cons part rest ih =>
      cases part with
      | require status message =>
          unfold serve at run
          unfold reachesCreation
          split at run
          · cases run
            rename_i fails
            rw [if_pos fails]
            exact .ended _ (by simp)
          · rename_i holds
            rw [if_neg holds]
            exact ih checked run
      | conflictFor message =>
          unfold serve at run
          unfold reachesCreation
          split at run
          · cases run
            rename_i active
            rw [if_pos active]
            exact .ended _ (by simp)
          · rename_i inactive
            rw [if_neg inactive]
            refine ih (.inr ?_) run
            exact Option.not_isSome_iff_eq_none.mp inactive
      | await =>
          cases run
          exact .awaits rest checked
      | create type =>
          refine creates true type (fun _ => ?_) run
          exact checked.resolve_left nofun
      | enqueue type => exact creates false type nofun run

/-- The installation for which a step creates a job. -/
def createsFor (panel : Panel) (event : PanelEvent) : Option String :=
  match event.action with
  | .request route body =>
      if reachesCreation panel.runner.store body.installationId route.parts
          event.answers then
        some body.installationId
      else
        none
  | .resume index =>
      match panel.requests[index]? with
      | none => none
      | some request =>
          if reachesCreation panel.runner.store request.body.installationId
              request.rest event.answers then
            some request.body.installationId
          else
            none
  | .jobs action =>
      match action.creates with
      | none => none
      | some (_, input) => input.installationId

/-- The requests that go on waiting while a step is taken. -/
def waitingBeside (panel : Panel) (action : PanelAction) : List Request :=
  match action with
  | .resume index => panel.requests.eraseIdx index
  | _ => panel.requests

/-- A step creates no job of an installation while another request for it
awaits between its check for a conflict and its creation. -/
def Undisturbed (panel : Panel) (event : PanelEvent) : Prop :=
  ∀ request ∈ waitingBeside panel event.action,
    request.pastCheck = true →
      createsFor panel event ≠ some request.body.installationId

instance (panel : Panel) (event : PanelEvent) :
    Decidable (Undisturbed panel event) :=
  inferInstanceAs (Decidable (∀ request ∈ _, _))

/-- A request that has passed its check finds its installation idle. -/
def CheckHolds (store : JobsStore) (request : Request) : Prop :=
  checksFirst request.rest = true ∨ Idle store request.body.installationId

/-- What a step of the panel does: it leaves the runner alone or is a step of
it, and a job that it shows as created is created by that step, for a guarded
route only while the installation is idle. -/
inductive PanelAdvance
    (panel : Panel) (now : List PanelOutput) : JobsRunner → Prop where
  | idles (silent : ∀ guarded installationId jobId,
        .created guarded installationId jobId ∉ now) :
      PanelAdvance panel now panel.runner
  | steps (action : JobsAction) (time : String) (next : JobsRunner)
      (observations : List Observation)
      (stepped : step panel.runner (quietly action time) =
        some (next, observations))
      (created : ∀ guarded installationId jobId,
        .created guarded installationId jobId ∈ now →
          (∃ input, action.creates = some (jobId, input) ∧
              input.installationId = some installationId) ∧
            (guarded = true → Idle panel.runner.store installationId)) :
      PanelAdvance panel now next

theorem creation_creates
    (body : RequestBody) (guarded : Bool) (type : String) :
    (body.creation guarded type).creates =
      some (body.jobId, body.input) := by
  cases guarded <;> rfl

theorem ServedAs.advance
    {now : String} {reaches : Bool}
    (servedAs : ServedAs body now panel.runner reaches served) :
    PanelAdvance panel served.outputs served.runner := by
  cases servedAs with
  | ended outputs silent => exact .idles silent
  | awaits rest checked => exact .idles nofun
  | created guarded type next observations reached idle stepped =>
      refine .steps _ now next observations stepped ?_
      intro shown installationId jobId member
      rcases List.mem_cons.mp member with equality | answer
      · cases equality
        exact ⟨⟨body.input, creation_creates body guarded type, rfl⟩, idle⟩
      · cases List.mem_singleton.mp answer

/-- What the panel keeps: its runner is alive, and every request that awaits
past its check finds its installation idle. -/
structure Watched (panel : Panel) : Prop where
  lives : Lives panel.runner
  checked : ∀ request ∈ panel.requests,
    CheckHolds panel.runner.store request

theorem PanelAdvance.lives
    {now : List PanelOutput} {next : JobsRunner}
    (advance : PanelAdvance panel now next)
    (lives : Lives panel.runner) : Lives next := by
  cases advance with
  | idles => exact lives
  | steps action time _ observations stepped =>
      exact (lives.step rfl stepped).1

/-- A waiting request still finds its installation idle after a step that
creates no job for it. -/
theorem CheckHolds.step
    {runner next : JobsRunner} {request : Request} {action : JobsAction}
    {time : String} {observations : List Observation}
    (holds : CheckHolds runner.store request) (lives : Lives runner)
    (stepped : Jobs.step runner (quietly action time) =
      some (next, observations))
    (other : request.pastCheck = true → ∀ id input,
      action.creates = some (id, input) →
        input.installationId ≠ some request.body.installationId) :
    CheckHolds next.store request := by
  by_cases checks : checksFirst request.rest = true
  · exact .inl checks
  · have idle := holds.resolve_left checks
    have past : request.pastCheck = true := by
      simp [Request.pastCheck, checks]
    exact .inr (idle.step lives stepped (other past))

theorem createsFor_of_created
    {guarded : Bool} {type : String} {id : String}
    {input : JobInput}
    (creates : (body.creation guarded type).creates = some (id, input)) :
    input.installationId = some body.installationId := by
  rw [creation_creates] at creates
  cases creates
  rfl

theorem Watched.others
    {now : String}
    {reaches : Bool} (watched : Watched panel)
    (servedAs : ServedAs body now panel.runner reaches served)
    {request : Request} (member : request ∈ panel.requests)
    (other : request.pastCheck = true → reaches = true →
      body.installationId ≠ request.body.installationId) :
    CheckHolds served.runner.store request := by
  have holds := watched.checked request member
  cases servedAs with
  | ended => exact holds
  | awaits => exact holds
  | created guarded type next observations reached idle stepped =>
      refine holds.step watched.lives stepped ?_
      intro past id input creates same
      have own := createsFor_of_created creates
      rw [same] at own
      exact other past reached (Option.some.inj own).symm

theorem Watched.step
    {panel next : Panel} {event : PanelEvent} {now : List PanelOutput}
    (watched : Watched panel) (undisturbed : Undisturbed panel event)
    (stepped : panelStep panel event = some (next, now)) :
    Watched next ∧ PanelAdvance panel now next.runner := by
  obtain ⟨action, time, answers⟩ := event
  unfold panelStep at stepped
  cases action with
  | request route body =>
      obtain ⟨served, run, equality⟩ := Option.map_eq_some_iff.mp stepped
      cases equality
      have servedAs := serve_as (.inl (route_checksFirst route)) run
      have advance := servedAs.advance
      refine ⟨⟨advance.lives watched.lives, ?_⟩, advance⟩
      intro request member
      rcases List.mem_append.mp member with waits | new
      · refine watched.others servedAs waits ?_
        intro past reached same
        exact undisturbed request waits past
          ((if_pos reached).trans (congrArg some same))
      · cases servedAs with
        | ended => cases new
        | awaits rest checked =>
            cases List.mem_singleton.mp new
            exact checked
        | created => cases new
  | resume index =>
      simp only at stepped
      split at stepped
      · cases stepped
      rename_i resumed place
      obtain ⟨served, run, equality⟩ := Option.map_eq_some_iff.mp stepped
      cases equality
      have holds := watched.checked resumed (List.mem_of_getElem? place)
      have servedAs := serve_as holds run
      have advance := servedAs.advance
      refine ⟨⟨advance.lives watched.lives, ?_⟩, advance⟩
      intro request member
      rcases List.mem_append.mp member with waits | new
      · have listed : request ∈ panel.requests :=
          List.mem_of_mem_eraseIdx waits
        refine watched.others servedAs listed ?_
        intro past reached same
        refine undisturbed request waits past ?_
        unfold createsFor
        simp only [place]
        rw [if_pos reached, same]
      · cases servedAs with
        | ended => cases new
        | awaits rest checked =>
            cases List.mem_singleton.mp new
            exact checked
        | created => cases new
  | jobs action =>
      obtain ⟨result, run, equality⟩ := Option.map_eq_some_iff.mp stepped
      cases equality
      have advance : PanelAdvance panel [] result.1 :=
        .steps action time result.1 result.2 run nofun
      refine ⟨⟨advance.lives watched.lives, ?_⟩, advance⟩
      intro request member
      simp only at member
      split at member
      · cases member
      · refine (watched.checked request member).step watched.lives run ?_
        intro past id input creates same
        refine undisturbed request member past ?_
        simp [createsFor, creates, same]

def ActiveJob (store : JobsStore) (id : String) : Prop :=
  ∃ row ∈ store.get id, row.status.active

instance (store : JobsStore) (id : String) :
    Decidable (ActiveJob store id) :=
  inferInstanceAs (Decidable (∃ row ∈ store.get id, _))

/-- The jobs that were shown as created have rows with their installation, and
two guarded ones of an installation are not active together. -/
structure Exclusive (store : JobsStore) (past : List PanelOutput) :
    Prop where
  rows : ∀ guarded installationId id,
    .created guarded installationId id ∈ past →
      ∃ row, store.get id = some row ∧
        row.input.installationId = some installationId
  single : ∀ installationId one other,
    .created true installationId one ∈ past →
    .created true installationId other ∈ past →
    ActiveJob store one → ActiveJob store other → one = other

section Exclusive

variable {runner next : JobsRunner} {action : JobsAction} {time : String}
variable {observations : List Observation} {past now : List PanelOutput}

theorem step_row
    (lives : Lives runner)
    (stepped : step runner (quietly action time) =
      some (next, observations)) {id : String} {row : JobRecord}
    (found : runner.store.get id = some row) :
    ∃ after, next.store.get id = some after ∧ after.input = row.input :=
  ((lives.step rfl stepped).2.lives id).input found

theorem step_active_before
    (lives : Lives runner)
    (stepped : step runner (quietly action time) =
      some (next, observations)) {id : String}
    (there : (runner.store.get id).isSome)
    (active : ActiveJob next.store id) : ActiveJob runner.store id := by
  obtain ⟨row, found, alive⟩ := active
  have same := JobsStore.get_id found
  subst same
  rcases step_active lives stepped found alive with
    ⟨before, earlier, activeBefore, _⟩ | ⟨absent, _⟩
  · exact ⟨before, earlier, activeBefore⟩
  · rw [absent] at there
    cases there

/-- A step that shows at most one new job, and a guarded one only for an idle
installation, keeps guarded jobs apart. -/
theorem Exclusive.step
    (exclusive : Exclusive runner.store past) (lives : Lives runner)
    (stepped : Jobs.step runner (quietly action time) =
      some (next, observations))
    (created : ∀ guarded installationId jobId,
      .created guarded installationId jobId ∈ now →
        (∃ input, action.creates = some (jobId, input) ∧
            input.installationId = some installationId) ∧
          (guarded = true → Idle runner.store installationId)) :
    Exclusive next.store (past ++ now) := by
  have rowBefore : ∀ {guarded installationId id},
      .created guarded installationId id ∈ past →
        (runner.store.get id).isSome := by
    intro guarded installationId id shown
    obtain ⟨row, found, _⟩ := exclusive.rows _ _ _ shown
    rw [found]
    rfl
  -- A job created now cannot meet an earlier one of its installation.
  have apart : ∀ {installationId one other},
      .created true installationId one ∈ past →
      .created true installationId other ∈ now →
      ActiveJob next.store one → False := by
    intro installationId one other earlier new active
    have idle := idle_iff.mp ((created _ _ _ new).2 rfl)
    obtain ⟨row, found, alive⟩ :=
      step_active_before lives stepped (rowBefore earlier) active
    obtain ⟨same, there, input⟩ := exclusive.rows _ _ _ earlier
    cases found.symm.trans there
    exact idle row (List.mem_of_find?_eq_some found) alive input
  refine ⟨?_, ?_⟩
  · intro guarded installationId id shown
    rcases List.mem_append.mp shown with earlier | new
    · obtain ⟨row, found, input⟩ := exclusive.rows _ _ _ earlier
      obtain ⟨after, there, same⟩ := step_row lives stepped found
      exact ⟨after, there, by rw [same]; exact input⟩
    · obtain ⟨⟨input, creates, owner⟩, _⟩ := created _ _ _ new
      obtain ⟨_, _, row, found, same⟩ := step_creates stepped creates
      exact ⟨row, found, by rw [same]; exact owner⟩
  · intro installationId one other oneShown otherShown oneActive
      otherActive
    rcases List.mem_append.mp oneShown with oneEarlier | oneNew
    · rcases List.mem_append.mp otherShown with otherEarlier | otherNew
      · exact exclusive.single installationId one other oneEarlier
          otherEarlier
          (step_active_before lives stepped (rowBefore oneEarlier)
            oneActive)
          (step_active_before lives stepped (rowBefore otherEarlier)
            otherActive)
      · exact (apart oneEarlier otherNew oneActive).elim
    · rcases List.mem_append.mp otherShown with otherEarlier | otherNew
      · exact (apart otherEarlier oneNew otherActive).elim
      · obtain ⟨⟨_, first, _⟩, _⟩ := created _ _ _ oneNew
        obtain ⟨⟨_, second, _⟩, _⟩ := created _ _ _ otherNew
        cases first.symm.trans second
        rfl

end Exclusive

theorem exclusive_advance
    {past now : List PanelOutput} {next : JobsRunner}
    (exclusive : Exclusive panel.runner.store past)
    (watched : Watched panel) (advance : PanelAdvance panel now next) :
    Exclusive next.store (past ++ now) := by
  cases advance with
  | idles silent =>
      have shown : ∀ {guarded installationId id},
          .created guarded installationId id ∈ past ++ now →
          .created guarded installationId id ∈ past := by
        intro guarded installationId id member
        exact (List.mem_append.mp member).resolve_right
          (silent guarded installationId id)
      refine ⟨fun _ _ _ member => exclusive.rows _ _ _ (shown member), ?_⟩
      intro installationId one other oneShown otherShown
      exact exclusive.single installationId one other (shown oneShown)
        (shown otherShown)
  | steps action time _ observations stepped created =>
      exact exclusive.step watched.lives stepped created

theorem watched_start (now : String) : Watched (Panel.start now) :=
  ⟨lives_new now, nofun⟩

theorem panel_run
    {now : String} {events : List PanelEvent} {final : Panel}
    {outputs : List PanelOutput}
    (undisturbed : Meets panelStep Undisturbed (Panel.start now) events)
    (run : execute panelStep (Panel.start now) events =
      some (final, outputs)) :
    Watched final ∧ Exclusive final.runner.store outputs := by
  refine execute_induction_of_meets
    (motive := fun panel past =>
      Watched panel ∧ Exclusive panel.runner.store past) ?_ ?_
    undisturbed run
  · intro panel past event next now holds condition stepped
    obtain ⟨watched, advance⟩ := holds.1.step condition stepped
    exact ⟨watched, exclusive_advance holds.2 holds.1 advance⟩
  · exact ⟨watched_start now, nofun, nofun⟩

/-- Guarded jobs exclude each other, as long as no job of an installation is
created while another request for it awaits between its check for a conflict and
its creation. -/
theorem guarded_jobs_exclusive
    (now : String) (events : List PanelEvent) (final : Panel)
    (outputs : List PanelOutput)
    (undisturbed : Meets panelStep Undisturbed (Panel.start now) events)
    (run : execute panelStep (Panel.start now) events =
      some (final, outputs)) :
    (∀ earlier event later middle shown next visible installationId jobId,
      events = earlier ++ event :: later →
      execute panelStep (Panel.start now) earlier = some (middle, shown) →
      panelStep middle event = some (next, visible) →
      .created true installationId jobId ∈ visible →
      activeJobForInstallation middle.runner.store installationId = none) ∧
    ∀ installationId one other,
      .created true installationId one ∈ outputs →
      .created true installationId other ∈ outputs →
      ActiveJob final.runner.store one →
      ActiveJob final.runner.store other → one = other := by
  refine ⟨?_, (panel_run undisturbed run).2.single⟩
  intro earlier event later middle shown next visible installationId jobId
    split before stepped created
  subst split
  have parts := undisturbed.append before
  have watched := (panel_run parts.1 before).1
  obtain ⟨_, advance⟩ := watched.step parts.2.1 stepped
  generalize next.runner = reached at advance
  cases advance with
  | idles silent => exact absurd created (silent _ _ _)
  | steps action time _ observations _ creates =>
      exact (creates _ _ _ created).2 rfl

def requestFor (jobId : String) : RequestBody :=
  ⟨"survival", "\x7b\x7d", "queued", jobId⟩

def panelEvent (action : PanelAction) : PanelEvent :=
  ⟨action, "2026-01-01T00:00:00.000Z", []⟩

/-- An upload reads its body while a file operation is requested. -/
def racingEvents : List PanelEvent :=
  [panelEvent (.request .uploadFile (requestFor "upload")),
    panelEvent (.request .fileOperation (requestFor "operation"))]

/-- What the race leads to, as a test of the panel before and after the upload
goes on. -/
def raced (result : Panel × List PanelOutput) : Bool :=
  match panelStep result.1 (panelEvent (.resume 0)) with
  | none => false
  | some (next, visible) =>
      decide (.created true "survival" "operation" ∈ result.2 ∧
        .created true "survival" "upload" ∈ visible ∧
        activeJobForInstallation result.1.runner.store "survival" ≠ none ∧
        ActiveJob next.runner.store "operation" ∧
        ActiveJob next.runner.store "upload")

/-- The upload creates its job while the job of the file operation is
active. -/
theorem upload_races_operation :
    ∃ middle shown next visible,
      execute panelStep (Panel.start "now") racingEvents =
          some (middle, shown) ∧
        panelStep middle (panelEvent (.resume 0)) = some (next, visible) ∧
        .created true "survival" "operation" ∈ shown ∧
        .created true "survival" "upload" ∈ visible ∧
        activeJobForInstallation middle.runner.store "survival" ≠ none ∧
        ActiveJob next.runner.store "operation" ∧
        ActiveJob next.runner.store "upload" := by
  have races : (execute panelStep (Panel.start "now") racingEvents).map
      raced = some true := by
    decide +kernel
  obtain ⟨⟨middle, shown⟩, run, answer⟩ := Option.map_eq_some_iff.mp races
  unfold raced at answer
  split at answer
  · cases answer
  · rename_i next visible stepped
    exact ⟨middle, shown, next, visible, run, stepped,
      of_decide_eq_true answer⟩

/-- The file operation comes after the upload has created its job. -/
def orderedEvents : List PanelEvent :=
  [panelEvent (.request .uploadFile (requestFor "upload")),
    panelEvent (.resume 0),
    panelEvent (.request .fileOperation (requestFor "operation"))]

theorem guarded_jobs_exclusive_ordered :
    ∃ final outputs,
      execute panelStep (Panel.start "now") orderedEvents =
          some (final, outputs) ∧
        .created true "survival" "upload" ∈ outputs ∧
        ∀ other, .created true "survival" other ∈ outputs →
          ActiveJob final.runner.store other → other = "upload" := by
  have uploads :
      (execute panelStep (Panel.start "now") orderedEvents).map
        (fun result => decide (.created true "survival" "upload" ∈ result.2 ∧
          ActiveJob result.1.runner.store "upload")) = some true := by
    decide +kernel
  obtain ⟨⟨final, outputs⟩, run, answer⟩ :=
    Option.map_eq_some_iff.mp uploads
  obtain ⟨created, active⟩ := of_decide_eq_true answer
  have exclusive := (guarded_jobs_exclusive "now" orderedEvents final outputs
    (by decide +kernel) run).2
  exact ⟨final, outputs, run, created, fun other shown alive =>
    exclusive "survival" other "upload" shown created alive active⟩

end GravitPanel.Jobs
