import GravitPanel.Jobs.LogStream

/-!
# The browser shows the log without a gap

Whatever breaks in between, the events that a browser shows of a job are the
newest ones of a part of its log, in order and each once; once nothing is on its
way to a subscribed browser it shows the newest events of the whole log.
-/

namespace GravitPanel.Jobs

open GravitPanel.Execution LogWindow

/-- The sequences of the stored events increase. -/
structure Sequenced (store : JobsStore) : Prop where
  increasing : store.events.Pairwise fun earlier later =>
    earlier.sequence < later.sequence
  bounded : ∀ event ∈ store.events, event.sequence ≤ store.sequence

section Store

variable {store : JobsStore} {jobId : String} {type : JobEventType}
variable {message createdAt : String} {progress : Option Progress}

theorem Sequenced.log (sequenced : Sequenced store) (jobId : String) :
    Increasing StreamEvent.sequence (store.log jobId) := by
  refine List.pairwise_map.mpr ((sequenced.increasing.filter _).imp ?_)
  intro earlier later less
  exact Int.ofNat_lt.mpr less

theorem Sequenced.append (sequenced : Sequenced store) :
    Sequenced (store.append jobId type message progress createdAt) where
  increasing := by
    refine List.pairwise_append.mpr
      ⟨sequenced.increasing, List.pairwise_singleton _ _, ?_⟩
    intro earlier member later last
    rw [List.mem_singleton.mp last]
    exact Nat.lt_succ_of_le (sequenced.bounded earlier member)
  bounded event member := by
    rcases List.mem_append.mp member with old | new
    · exact Nat.le_succ_of_le (sequenced.bounded event old)
    · rw [List.mem_singleton.mp new]
      exact Nat.le_refl _

theorem log_append_same :
    (store.append jobId type message progress createdAt).log jobId =
      store.log jobId ++ [⟨(store.sequence + 1 : Nat), jobId, type, message,
        progress, createdAt⟩] := by
  simp [JobsStore.log, JobsStore.listEvents, JobsStore.append,
    JobEvent.streamed]

theorem log_append_other {other : String} (different : jobId ≠ other) :
    (store.append jobId type message progress createdAt).log other =
      store.log other := by
  simp [JobsStore.log, JobsStore.listEvents, JobsStore.append, different]

end Store

def JobSocketMessage.carried : JobSocketMessage → Message StreamEvent
  | .history events _ => .history events
  | .event sent => .item sent

def SocketPhase.link : SocketPhase → Option (Link StreamEvent)
  | .opened socket =>
      some ⟨socket.messages.map JobSocketMessage.carried, socket.subscribed⟩
  | _ => none

/-- Behind the events of the log there may be the outcome that a poll has
found, if the events show none. -/
def OutcomeShown (jobId : String) (shown closing : List StreamEvent)
    (phase : SocketPhase) : Prop :=
  closing = [] ∨ phase = .closed ∧
    (∀ event ∈ newest historyLimit shown, terminalType event.type = false) ∧
      ∃ record now, record.id = jobId ∧
        closing = [JobLogStream.outcomeEvent record now]

/-- The events are the newest ones of a part of the log. -/
def ShowsLog (store : JobsStore) (stream : JobLogStream) (jobId : String) :
    Prop :=
  ∃ shown closing, stream.events = newest historyLimit shown ++ closing ∧
    Follows historyLimit (store.log jobId) shown stream.phase.link ∧
      OutcomeShown jobId shown closing stream.phase

structure KeptLog (run : LogRun) : Prop where
  sequenced : Sequenced run.store
  idle : run.stream.connectedJobId = none →
    run.stream.events = [] ∧ run.stream.phase = .closed
  shows : ∀ jobId, run.stream.connectedJobId = some jobId →
    ShowsLog run.store run.stream jobId

section Stream

variable {store : JobsStore} {stream : JobLogStream} {jobId : String}

theorem ShowsLog.opened (shows : ShowsLog store stream jobId)
    (active : stream.phase ≠ .closed) :
    ∃ shown, stream.events = newest historyLimit shown ∧
      Follows historyLimit (store.log jobId) shown stream.phase.link := by
  obtain ⟨shown, closing, events, follows, closed⟩ := shows
  rcases closed with rfl | ⟨absurdity, -⟩
  · rw [List.append_nil] at events
    exact ⟨shown, events, follows⟩
  · exact absurd absurdity active

theorem showsLog_of_follows (shown : List StreamEvent)
    (events : stream.events = newest historyLimit shown)
    (follows : Follows historyLimit (store.log jobId) shown
      stream.phase.link) : ShowsLog store stream jobId :=
  ⟨shown, [], by rw [List.append_nil, events], follows, .inl rfl⟩

theorem ShowsLog.disconnected {phase : SocketPhase}
    (shows : ShowsLog store stream jobId) (link : phase.link = none)
    (closed : stream.phase = .closed → phase = .closed) :
    ShowsLog store { stream with phase } jobId := by
  obtain ⟨shown, closing, events, follows, last⟩ := shows
  refine ⟨shown, closing, events, ?_, ?_⟩
  · change Follows historyLimit (store.log jobId) shown phase.link
    rw [link]
    exact .disconnected follows.part
  · rcases last with none | ⟨ended, rest⟩
    · exact .inl none
    · exact .inr ⟨closed ended, rest⟩

theorem ShowsLog.finish {record : JobRecord} {now : String}
    (shows : ShowsLog store stream jobId) (same : record.id = jobId) :
    ShowsLog store (stream.finish record now) jobId := by
  unfold JobLogStream.finish
  by_cases finished : record.id ∈ stream.finishedJobs
  · rw [if_pos finished]
    exact shows
  · rw [if_neg finished]
    obtain ⟨shown, closing, events, follows, last⟩ := shows
    have part : Follows historyLimit (store.log jobId) shown none :=
      .disconnected follows.part
    by_cases terminal : (stream.events.any fun event =>
        terminalType event.type) = true
    · rw [if_pos terminal]
      refine ⟨shown, closing, events, part, ?_⟩
      rcases last with none | ⟨-, rest⟩
      · exact .inl none
      · exact .inr ⟨rfl, rest⟩
    · rw [if_neg terminal]
      rw [Bool.not_eq_true, List.any_eq_false] at terminal
      rcases last with rfl | ⟨-, -, old, time, owner, rfl⟩
      · rw [List.append_nil] at events
        refine ⟨shown, _, by rw [← events], part, .inr ⟨rfl, ?_, record, now,
          same, rfl⟩⟩
        intro event member
        rw [← events] at member
        exact Bool.not_eq_true _ ▸ terminal event member
      · have outcome : terminalType
            (JobLogStream.outcomeEvent old time).type = true := by
          change terminalType (JobLogStream.outcomeType old.status) = true
          cases old.status <;> rfl
        refine absurd outcome (terminal _ ?_)
        rw [events]
        exact List.mem_append_right _ List.mem_cons_self

theorem onEvents_events (jobId : String) (batch : List StreamEvent)
    (stream : JobLogStream) :
    (stream.onEvents jobId batch).events =
      merge StreamEvent.sequence historyLimit stream.events batch := by
  unfold JobLogStream.onEvents
  split
  · rename_i none
    exact (merge_of_nil none).symm
  · dsimp only
    split <;> rfl

theorem onEvents_phase (jobId : String) (batch : List StreamEvent)
    (stream : JobLogStream) :
    (stream.onEvents jobId batch).phase = stream.phase ∨
      (stream.onEvents jobId batch).phase = .closed := by
  unfold JobLogStream.onEvents
  split
  · exact .inl rfl
  · dsimp only
    split
    · exact .inl rfl
    · exact .inr rfl

theorem onEvents_connected (jobId : String) (batch : List StreamEvent)
    (stream : JobLogStream) :
    (stream.onEvents jobId batch).connectedJobId = stream.connectedJobId := by
  unfold JobLogStream.onEvents
  split
  · rfl
  · dsimp only
    split <;> rfl

theorem delivered_connected (jobId : String) (socket : JobSocket)
    (message : JobSocketMessage) (rest : List JobSocketMessage) :
    (stream.delivered jobId socket message rest).connectedJobId =
      stream.connectedJobId := by
  unfold JobLogStream.delivered
  split
  · exact onEvents_connected _ _ _
  · exact onEvents_connected _ _ _

theorem ShowsLog.delivered {message : JobSocketMessage}
    {rest : List JobSocketMessage} {subscribed : Bool}
    (sequenced : Sequenced store) (shows : ShowsLog store stream jobId)
    (opened : stream.phase = .opened ⟨message :: rest, subscribed⟩) :
    ShowsLog store (stream.delivered jobId ⟨message :: rest, subscribed⟩
      message rest) jobId := by
  obtain ⟨shown, events, follows⟩ := shows.opened (by rw [opened]; simp)
  rw [opened] at follows
  have advanced : ∃ next,
      merge StreamEvent.sequence historyLimit (newest historyLimit shown)
          message.events = newest historyLimit next ∧
        Follows historyLimit (store.log jobId) next
          (some ⟨rest.map JobSocketMessage.carried, subscribed⟩) := by
    cases message with
    | history items terminal =>
        obtain ⟨more, rfl, later⟩ := follows.history
        exact ⟨shown ++ more, merge_history
          ((sequenced.log jobId).sublist later.part.sublist), later⟩
    | event sent =>
        have later := follows.appended
        have increasing := (sequenced.log jobId).sublist later.part.sublist
        refine ⟨shown ++ [sent], ?_, later⟩
        refine merge_item ?_ increasing
        unfold historyLimit
        omega
  obtain ⟨next, merged, later⟩ := advanced
  have received : ShowsLog store (JobLogStream.onEvents jobId message.events
      { stream with phase := .opened ⟨rest, subscribed⟩ }) jobId := by
    refine showsLog_of_follows next ?_ ?_
    · rw [onEvents_events]
      change merge _ _ stream.events _ = _
      rw [events, merged]
    · rcases onEvents_phase jobId message.events
        { stream with phase := .opened ⟨rest, subscribed⟩ } with same | closed
      · rw [same]
        exact later
      · rw [closed]
        exact .disconnected later.part
  unfold JobLogStream.delivered
  dsimp only
  split
  · exact received.disconnected rfl fun _ => rfl
  · exact received

end Stream

section Steps

variable {run : LogRun}

theorem KeptLog.withPhase {phase : SocketPhase} (kept : KeptLog run)
    (link : phase.link = none)
    (closed : run.stream.phase = .closed → phase = .closed) :
    KeptLog (run.withPhase phase) where
  sequenced := kept.sequenced
  idle empty := ⟨(kept.idle empty).1, closed (kept.idle empty).2⟩
  shows jobId connected := (kept.shows jobId connected).disconnected link closed

theorem KeptLog.withStore {store : JobsStore} (kept : KeptLog run)
    (events : store.events = run.store.events)
    (sequence : store.sequence = run.store.sequence) :
    KeptLog { run with store } where
  sequenced := by
    refine ⟨?_, ?_⟩
    · rw [events]
      exact kept.sequenced.increasing
    · rw [events, sequence]
      exact kept.sequenced.bounded
  idle := kept.idle
  shows jobId connected := by
    have same : store.log jobId = run.store.log jobId := by
      unfold JobsStore.log JobsStore.listEvents
      rw [events]
    obtain ⟨shown, closing, shows, follows, last⟩ := kept.shows jobId connected
    refine ⟨shown, closing, shows, ?_, last⟩
    rw [same]
    exact follows

theorem ShowsLog.grow {store longer : JobsStore} {stream : JobLogStream}
    {jobId : String} (shows : ShowsLog store stream jobId)
    (grown : store.log jobId <+: longer.log jobId)
    (link : stream.phase.link = none) : ShowsLog longer stream jobId := by
  obtain ⟨shown, closing, events, follows, last⟩ := shows
  refine ⟨shown, closing, events, ?_, last⟩
  rw [link]
  exact follows.drop grown

theorem follows_sendEvent {log shown : List StreamEvent} {socket : JobSocket}
    (follows : Follows historyLimit log shown
      (SocketPhase.opened socket).link) (event : StreamEvent) (sent : Bool) :
    Follows historyLimit (log ++ [event]) shown
      (SocketPhase.opened (socket.sendEvent event sent)).link := by
  obtain ⟨messages, subscribed⟩ := socket
  have grown := follows.grow (List.prefix_append log [event])
  unfold JobSocket.sendEvent
  cases subscribed with
  | false => exact grown
  | true =>
      cases sent with
      | false => exact grown
      | true =>
          have published := follows.publish rfl event
            (!terminalType event.type)
          change Follows historyLimit _ _ (some ⟨List.map _ (_ ++ [_]), _⟩)
          rw [List.map_append]
          exact published

theorem KeptLog.missed {jobId message createdAt : String}
    {type : JobEventType} {progress : Option Progress} (kept : KeptLog run)
    (none : run.stream.phase.link = none) :
    KeptLog { run with
      store := run.store.append jobId type message progress createdAt } := by
  refine ⟨kept.sequenced.append, kept.idle, fun other same => ?_⟩
  refine (kept.shows other same).grow ?_ none
  by_cases owned : jobId = other
  · subst owned
    rw [log_append_same]
    exact List.prefix_append _ _
  · rw [log_append_other owned]

theorem kept_emitted (kept : KeptLog run) (jobId : String)
    (type : JobEventType) (message : String) (progress : Option Progress)
    (createdAt : String) (sent : Bool) :
    KeptLog (emittedStep run jobId type message progress createdAt sent) := by
  have sequenced : Sequenced
      (run.store.append jobId type message progress createdAt) :=
    kept.sequenced.append
  unfold emittedStep
  dsimp only
  cases phase : run.stream.phase with
  | opened socket =>
      dsimp only
      by_cases connected : run.stream.connectedJobId = some jobId
      · rw [if_pos connected]
        refine ⟨sequenced, fun idle => ?_, fun other shown => ?_⟩
        · rw [LogRun.withPhase, connected] at idle
          cases idle
        · rw [LogRun.withPhase, connected] at shown
          cases shown
          obtain ⟨shown, events, follows⟩ :=
            (kept.shows jobId connected).opened (by rw [phase]; simp)
          rw [phase] at follows
          refine showsLog_of_follows shown events ?_
          change Follows historyLimit
            ((run.store.append jobId type message progress createdAt).log jobId)
              shown (SocketPhase.opened _).link
          rw [log_append_same]
          exact follows_sendEvent follows _ sent
      · rw [if_neg connected]
        refine ⟨sequenced, kept.idle, fun other same => ?_⟩
        obtain ⟨shown, closing, events, follows, last⟩ := kept.shows other same
        refine ⟨shown, closing, events, ?_, last⟩
        rw [log_append_other fun equal => connected (by rw [equal, same])]
        exact follows
  | closed => exact kept.missed (congrArg _ phase)
  | connecting => exact kept.missed (congrArg _ phase)
  | waiting => exact kept.missed (congrArg _ phase)

theorem kept_watched (kept : KeptLog run) (job : Option JobRecord) :
    KeptLog { run with stream := run.stream.watched job } := by
  unfold JobLogStream.watched
  by_cases same : job.map JobRecord.id = run.stream.connectedJobId
  · rw [if_pos same]
    exact ⟨kept.sequenced, kept.idle, kept.shows⟩
  · rw [if_neg same]
    refine ⟨kept.sequenced, ?_, ?_⟩
    · intro idle
      cases job with
      | none => exact ⟨rfl, rfl⟩
      | some job => cases idle
    · intro jobId connected
      refine showsLog_of_follows [] List.drop_nil.symm ?_
      cases job with
      | none => cases connected
      | some job => exact .disconnected List.nil_prefix

theorem kept_opened (kept : KeptLog run) {jobId : String}
    (connected : run.stream.connectedJobId = some jobId)
    (connecting : run.stream.phase = .connecting) :
    KeptLog (openedStep run jobId) := by
  unfold openedStep openSocket
  cases run.store.get jobId with
  | none =>
      refine kept.withPhase rfl fun closed => ?_
      rw [connecting] at closed
      cases closed
  | some job =>
      dsimp only [Option.map_some]
      refine ⟨kept.sequenced, ?_, ?_⟩
      · intro idle
        change run.stream.connectedJobId = none at idle
        rw [connected] at idle
        cases idle
      · intro other same
        change run.stream.connectedJobId = some other at same
        rw [connected] at same
        cases same
        obtain ⟨shown, events, follows⟩ :=
          (kept.shows jobId connected).opened (by rw [connecting]; simp)
        exact showsLog_of_follows shown events (.connect follows.part _)

theorem kept_delivered (kept : KeptLog run) {jobId : String}
    {message : JobSocketMessage} {rest : List JobSocketMessage}
    {subscribed : Bool}
    (connected : run.stream.connectedJobId = some jobId)
    (opened : run.stream.phase = .opened ⟨message :: rest, subscribed⟩) :
    KeptLog { run with
      stream := run.stream.delivered jobId ⟨message :: rest, subscribed⟩
        message rest } := by
  refine ⟨kept.sequenced, ?_, ?_⟩
  · intro idle
    rw [delivered_connected, connected] at idle
    cases idle
  · intro other same
    rw [delivered_connected, connected] at same
    cases same
    exact (kept.shows jobId connected).delivered kept.sequenced opened

theorem finish_connected (record : JobRecord) (now : String)
    (stream : JobLogStream) :
    (stream.finish record now).connectedJobId = stream.connectedJobId := by
  unfold JobLogStream.finish
  split <;> rfl

theorem KeptLog.finish {record : JobRecord} {now : String}
    (kept : KeptLog run)
    (connected : run.stream.connectedJobId = some record.id) :
    KeptLog { run with stream := run.stream.finish record now } := by
  refine ⟨kept.sequenced, ?_, ?_⟩
  · intro idle
    rw [finish_connected, connected] at idle
    cases idle
  · intro other same
    rw [finish_connected, connected] at same
    cases same
    exact (kept.shows record.id connected).finish rfl

theorem kept_polled (kept : KeptLog run) (record : JobRecord) (now : String) :
    KeptLog { run with stream := run.stream.polled record now } := by
  unfold JobLogStream.polled
  by_cases connected : run.stream.connectedJobId = some record.id
  · rw [if_pos connected]
    have current : KeptLog { run with
        stream := { run.stream with currentJob := some record } } :=
      ⟨kept.sequenced, kept.idle, kept.shows⟩
    split
    · exact current.finish connected
    · exact current
  · rw [if_neg connected]
    exact kept

theorem kept_refreshed (kept : KeptLog run) (record : JobRecord)
    (now : String) :
    KeptLog { run with stream := run.stream.refreshed record now } := by
  unfold JobLogStream.refreshed
  by_cases connected : run.stream.connectedJobId = some record.id
  · rw [if_pos connected]
    exact kept.finish connected
  · rw [if_neg connected]
    exact kept

theorem kept_logStep {event : LogEvent} {next : LogRun} {outputs : List Unit}
    (kept : KeptLog run) (step : logStep run event = some (next, outputs)) :
    KeptLog next := by
  cases event with
  | inserted job =>
      cases step
      exact kept.withStore rfl rfl
  | replaced job =>
      cases step
      exact kept.withStore rfl rfl
  | emitted jobId type message progress createdAt sent =>
      cases step
      exact kept_emitted kept jobId type message progress createdAt sent
  | watched job =>
      cases step
      exact kept_watched kept job
  | opened =>
      simp only [logStep] at step
      split at step
      · rename_i jobId connecting connected
        cases step
        exact kept_opened kept connected connecting
      · cases step
  | delivered =>
      simp only [logStep] at step
      split at step
      · rename_i opened connected
        cases step
        exact kept_delivered kept connected opened
      · cases step
  | lost =>
      simp only [logStep] at step
      split at step
      · rename_i connecting
        cases step
        refine kept.withPhase rfl fun closed => ?_
        rw [connecting] at closed
        cases closed
      · rename_i opened
        cases step
        refine kept.withPhase rfl fun closed => ?_
        rw [opened] at closed
        cases closed
      · cases step
  | retried =>
      simp only [logStep] at step
      split at step
      · rename_i waiting
        cases step
        refine kept.withPhase rfl fun closed => ?_
        rw [waiting] at closed
        cases closed
      · cases step
  | polled record now =>
      cases step
      exact kept_polled kept record now
  | refreshed index record now =>
      simp only [logStep] at step
      split at step
      · cases step
      · split at step
        · cases step
          have taken : KeptLog { run with
              stream := run.stream.withoutRefresh index } :=
            ⟨kept.sequenced, kept.idle, kept.shows⟩
          exact kept_refreshed taken record now
        · cases step
  | disposed =>
      cases step
      exact kept.withPhase rfl fun _ => rfl

end Steps

/-- What the browser shows at the end of a run. -/
structure LogShown (run : LogRun) : Prop where
  increasing : ∀ jobId,
    Increasing StreamEvent.sequence (run.store.log jobId)
  idle : run.stream.connectedJobId = none → run.stream.events = []
  part : ∀ jobId, run.stream.connectedJobId = some jobId →
    ∃ shown closing, run.stream.events = newest historyLimit shown ++ closing ∧
      shown <+: run.store.log jobId ∧
        OutcomeShown jobId shown closing run.stream.phase
  complete : ∀ jobId, run.stream.connectedJobId = some jobId →
    run.stream.phase = .opened ⟨[], true⟩ →
      run.stream.events = run.store.listRecentEvents jobId historyLimit

/-- In every run, over events of all jobs, broken connections, lost messages
and polls, the browser shows the newest events of a part of the log of its job,
without a gap and each once, and of the whole log when it is subscribed and
nothing is on its way. -/
theorem log_shown {events : List LogEvent} {final : LogRun}
    {outputs : List Unit}
    (run : execute logStep ⟨JobsStore.empty, JobLogStream.empty⟩ events =
      some (final, outputs)) : LogShown final := by
  have start : KeptLog ⟨JobsStore.empty, JobLogStream.empty⟩ := by
    refine ⟨⟨List.Pairwise.nil, ?_⟩, fun _ => ⟨rfl, rfl⟩, ?_⟩
    · exact fun event absent => by cases absent
    · exact fun jobId absent => by cases absent
  have kept := execute_induction (motive := fun run _ => KeptLog run)
    (fun state past event next now holds step => kept_logStep holds step)
    start run
  refine ⟨kept.sequenced.log, fun idle => (kept.idle idle).1, ?_, ?_⟩
  · intro jobId connected
    obtain ⟨shown, closing, shows, follows, last⟩ := kept.shows jobId connected
    exact ⟨shown, closing, shows, follows.part, last⟩
  · intro jobId connected live
    obtain ⟨shown, shows, follows⟩ :=
      (kept.shows jobId connected).opened (by rw [live]; simp)
    rw [live] at follows
    rw [shows, follows.complete]
    rfl

def exampleJob : JobRecord where
  id := "job"
  type := "demo.noop"
  status := .running
  progress := .none
  input := ⟨none, "{}"⟩
  result := none
  error := none
  createdAt := "2026-08-02T00:00:00.000Z"
  startedAt := none
  finishedAt := none

/-- Two events are on their way when the connection breaks, and a third one
follows before the next attempt. -/
def exampleLogEvents : List LogEvent :=
  [.inserted exampleJob, .emitted "job" .queued "queued" none "now" true,
    .watched (some exampleJob), .opened, .delivered,
    .emitted "job" .started "started" none "now" true,
    .emitted "other" .log "elsewhere" none "now" true,
    .emitted "job" .log "first" none "now" true, .delivered, .lost,
    .emitted "job" .log "second" none "now" true, .retried, .opened,
    .delivered]

theorem log_shown_reconnected :
    ∃ final outputs,
      execute logStep ⟨JobsStore.empty, JobLogStream.empty⟩
          exampleLogEvents = some (final, outputs) ∧
        final.stream.phase = .opened ⟨[], true⟩ ∧
          final.stream.events.map StreamEvent.sequence = [1, 2, 4, 5] ∧
            LogShown final := by
  have completes : (execute logStep ⟨JobsStore.empty, JobLogStream.empty⟩
      exampleLogEvents).map (fun result => (result.1.stream.phase,
        result.1.stream.events.map StreamEvent.sequence)) =
      some (.opened ⟨[], true⟩, [1, 2, 4, 5]) := by
    decide +kernel
  obtain ⟨⟨final, outputs⟩, ran, same⟩ := Option.map_eq_some_iff.mp completes
  obtain ⟨phase, events⟩ := Prod.mk.inj same
  exact ⟨final, outputs, ran, phase, events, log_shown ran⟩

end GravitPanel.Jobs
