import GravitPanel.Agent.CommandOutcome

/-!
# At most one execution per command id

Before its first grant an id is held nowhere and nothing of it has run; from
the grant on it is linked to its outcome for as long as fewer than the limit
of other ids become terminal.
-/

namespace GravitPanel.Agent

open GravitPanel.Execution
open CommandResultCache

/-- The pending entry of the first grant of the id and what follows it. -/
def afterGrant (id : String) :
    List Observation → Option (PendingCommandResult × List Observation)
  | [] => none
  | .begun other (.owner entry) :: rest =>
      if other = id then some (entry, rest) else afterGrant id rest
  | _ :: rest => afterGrant id rest

theorem afterGrant_append
    (id : String) (first second : List Observation) :
    afterGrant id (first ++ second) =
      match afterGrant id first with
      | some (entry, rest) => some (entry, rest ++ second)
      | none => afterGrant id second := by
  induction first with
  | nil => rfl
  | cons observation rest ih =>
      cases observation with
      | begun other answer =>
          cases answer with
          | owner entry =>
              by_cases same : other = id
              · simp [afterGrant, same]
              · simpa [afterGrant, same] using ih
          | _ => exact ih
      | _ => exact ih

theorem afterGrant_eq_none
    {id : String} {observations : List Observation}
    (ungranted : ∀ observation ∈ observations,
      isGrant id observation = false) :
    afterGrant id observations = none := by
  induction observations with
  | nil => rfl
  | cons observation rest ih =>
      have later : afterGrant id rest = none :=
        ih fun other member =>
          ungranted other (List.mem_cons_of_mem observation member)
      have now := ungranted observation List.mem_cons_self
      cases observation with
      | begun other answer =>
          cases answer with
          | owner entry =>
              have different : other ≠ id := by
                simpa [isGrant] using now
              simpa [afterGrant, different] using later
          | _ => exact later
      | _ => exact later

theorem afterGrant_split
    {id : String} {before after : List Observation}
    {entry : PendingCommandResult}
    (first : ∀ observation ∈ before, isGrant id observation = false) :
    afterGrant id (before ++ .begun id (.owner entry) :: after) =
      some (entry, after) := by
  rw [afterGrant_append, afterGrant_eq_none first]
  simp [afterGrant]

/-- Nothing in the world holds the id. -/
def World.Free (world : World) (id : String) : Prop :=
  ∀ process, world.process = some process → id ∉ process.held

section Grant

variable {config : BindingConfig} {world next : World} {id : String}
variable {now : List Observation}

theorem Process.free_of_le
    {process moved : Process}
    (free : id ∉ process.held)
    (held : moved.held.count id ≤ process.held.count id) :
    id ∉ moved.held := by
  rw [← List.count_eq_zero] at free ⊢
  omega

theorem start_held
    {process : Process} {time : String}
    {commandsOutcome cursorOutcome : WriteOutcome}
    (running : (world.start config time commandsOutcome
      cursorOutcome).1.process = some process) :
    process.held = [] := by
  simp only [World.start] at running
  cases opened : (openCommandResultCache config.paths config.id config.limit
      world.files time commandsOutcome cursorOutcome).1 with
  | none =>
      rw [opened] at running
      cases running
  | some cache =>
      rw [opened] at running
      cases Option.some.inj running
      rfl

theorem granted_linked
    {process : Process} {command : CommandEnvelope} {time : String}
    {outcome : WriteOutcome}
    (sound : process.Sound config)
    (idle : process.reader = .idle)
    (free : command.id ∉ process.held)
    (absent : process.cache.completed.lookup command.id = none)
    (written : ((process.cache.accept command.id
      ⟨process.channels, time⟩).persistLocked time outcome
        world.files.commands).2 = none) :
    World.Linked
      ⟨{ world.files with
          commands := ((process.cache.accept command.id
            ⟨process.channels, time⟩).persistLocked time outcome
              world.files.commands).1 },
        some
          { process with
            cache := process.cache.accept command.id
              ⟨process.channels, time⟩
            channels := process.channels + 1
            reader := .granted command }⟩
      command.id ∅ (.pending ⟨process.channels, time⟩) 0 := by
  have linkedCache :
      CacheLinked
        (process.cache.accept command.id ⟨process.channels, time⟩)
        command.id ∅ (.pending ⟨process.channels, time⟩) :=
    ⟨AList.lookup_insert _, AList.lookup_eq_none.mp absent⟩
  have durable :
      (process.cache.accept command.id
        ⟨process.channels, time⟩).statePath ≠ "" := sound.durable
  rw [← List.count_eq_zero, Process.held_count, idle] at free
  refine ⟨?_, ?_, by simp, by omega⟩
  · rw [(persistLocked_error durable time outcome _).mp written,
      persistLocked_disk durable]
    exact snapshot_onDisk linkedCache time
  · intro candidate equality
    cases Option.some.inj equality
    refine ⟨linkedCache, ?_, ?_, ?_⟩
    · simp only [Process.held_count, Reader.held,
        List.count_singleton_self]
      simp only [Reader.held, List.count_nil] at free
      omega
    · intro settled
      exact absurd rfl (settled ⟨process.channels, time⟩)
    · have bound := process.worker.runnable_count_le command.id
      simp only [Process.runnable_count, Reader.runnable,
        List.count_singleton_self]
      simp only [Reader.held, List.count_nil] at free
      omega

theorem Advance.free
    (advance : Advance config world next now) (sound : world.Sound config)
    (free : world.Free id) :
    now.count (.executed id) = 0 ∧
      ((afterGrant id now = none ∧ next.Free id) ∨
        ∃ entry, afterGrant id now = some (entry, []) ∧
          next.Linked id ∅ (.pending entry) 0) := by
  cases advance with
  | moved process moved running cache held runnable =>
      refine ⟨rfl, .inl ⟨rfl, ?_⟩⟩
      intro candidate equality
      cases Option.some.inj equality
      exact Process.free_of_le (free process running) (held id)
  | executed process moved commandID running cache held runnable =>
      have different : commandID ≠ id := by
        rintro rfl
        have bound := runnable commandID
        have none := List.count_eq_zero.mpr (free process running)
        have le := process.runnable_count_le commandID
        rw [List.count_singleton_self] at bound
        omega
      refine ⟨by simp [different], .inl ⟨rfl, ?_⟩⟩
      intro candidate equality
      cases Option.some.inj equality
      exact Process.free_of_le (free process running) (held id)
  | received process command time outcome running idle =>
      have persistedQuiet : ∀ answer, isGrant id (.begun command.id answer) =
          false → afterGrant id
            (persistedWhen outcome ++ [.begun command.id answer]) = none := by
        intro answer refused
        apply afterGrant_eq_none
        intro observation member
        rcases List.mem_append.mp member with written | begun
        · rw [mem_persistedWhen written]
          rfl
        · rw [List.mem_singleton.mp begun]
          exact refused
      have notExecuted : ∀ answer,
          (persistedWhen outcome ++
            [Observation.begun command.id answer]).count
              (.executed id) = 0 := by
        intro answer
        rw [List.count_eq_zero]
        intro member
        rcases List.mem_append.mp member with written | begun
        · cases mem_persistedWhen written
        · cases List.mem_singleton.mp begun
      have freeProcess := free process running
      rcases begin_cases process.cache world.files.commands command.id
          process.channels time outcome with
        ⟨result, _, answered⟩ | ⟨entry, _, _, answered⟩ |
          ⟨absent, _, ⟨message, answered⟩ | ⟨written, answered⟩⟩ <;>
        simp only [World.receive, answered]
      · refine ⟨by simp, .inl ⟨rfl, ?_⟩⟩
        intro candidate equality
        cases Option.some.inj equality
        exact freeProcess
      · refine ⟨by simp, .inl ⟨rfl, ?_⟩⟩
        intro candidate equality
        cases Option.some.inj equality
        exact freeProcess
      · refine ⟨notExecuted _, .inl ⟨persistedQuiet _ rfl, ?_⟩⟩
        intro candidate equality
        cases Option.some.inj equality
        exact freeProcess
      · refine ⟨notExecuted _, ?_⟩
        by_cases same : command.id = id
        · subst same
          refine .inr ⟨⟨process.channels, time⟩, ?_, ?_⟩
          · exact afterGrant_split fun observation member => by
              rw [mem_persistedWhen member]
              rfl
          · exact granted_linked (sound process running) idle freeProcess
              absent written
        · refine .inl ⟨persistedQuiet _ ?_, ?_⟩
          · simpa [isGrant] using same
          · intro candidate equality
            cases Option.some.inj equality
            rw [← List.count_eq_zero, Process.held_count] at freeProcess ⊢
            simp only [Reader.held, List.count_singleton, beq_iff_eq, same]
            simp only [idle, Reader.held, List.count_nil] at freeProcess
            simpa using freeProcess
  | completed process moved commandID result time outcome running cache
      held runnable =>
      refine ⟨complete_not_executed world moved commandID id result time
        outcome, .inl ⟨?_, ?_⟩⟩
      · apply afterGrant_eq_none
        intro observation member
        rw [World.complete_eq] at member
        rcases List.mem_cons.mp member with rfl | written
        · rfl
        · rw [mem_persistedWhen written]
          rfl
      · rw [World.complete_eq]
        intro candidate equality
        cases Option.some.inj equality
        have bound := held id
        exact Process.free_of_le (free process running)
          (by change moved.held.count id ≤ _; omega)
  | crashed =>
      refine ⟨rfl, .inl ⟨rfl, ?_⟩⟩
      intro candidate equality
      cases equality
  | started time commandsOutcome cursorOutcome stopped =>
      refine ⟨start_not_executed config world time id commandsOutcome
        cursorOutcome, .inl ⟨?_, ?_⟩⟩
      · apply afterGrant_eq_none
        intro observation member
        rcases start_quiet member with ⟨other, rfl⟩ | rfl <;> rfl
      · intro candidate equality
        rw [start_held equality]
        exact List.not_mem_nil

end Grant

/-- What holds of the id after the observations `past`. -/
def Tracked
    (config : BindingConfig) (id : String) (world : World)
    (past : List Observation) : Prop :=
  world.Sound config ∧
    match afterGrant id past with
    | none => world.Free id ∧ past.count (.executed id) = 0
    | some (entry, after) =>
        (othersTerminal id after).card < config.cacheLimit →
          world.Linked id (othersTerminal id after)
              ((outcomeMonitor id).after (.pending entry) after)
              (past.count (.executed id)) ∧
            (outcomeMonitor id).Accepts (.pending entry) after

theorem tracked_start
    (config : BindingConfig) (id : String) (files : StateFiles) :
    Tracked config id ⟨files, none⟩ [] := by
  refine ⟨?_, ?_, rfl⟩
  · intro process equality
    cases equality
  · intro process equality
    cases equality

theorem tracked_step
    {config : BindingConfig} {id : String} {world next : World}
    {past now : List Observation} {event : Event}
    (tracked : Tracked config id world past)
    (stepEquality : step config world event = some (next, now)) :
    Tracked config id next (past ++ now) := by
  have advance := step_advance stepEquality
  obtain ⟨sound, state⟩ := tracked
  refine ⟨advance.sound sound, ?_⟩
  rw [afterGrant_append, List.count_append]
  cases granted : afterGrant id past with
  | some grant =>
      obtain ⟨entry, after⟩ := grant
      rw [granted] at state
      intro few
      obtain ⟨linked, accepted⟩ :=
        state (Nat.lt_of_le_of_lt
          (Finset.card_le_card (othersTerminal_subset id after now)) few)
      rw [othersTerminal_append] at few ⊢
      obtain ⟨linkedNext, acceptedNext⟩ := advance.linked sound linked few
      rw [Monitor.after_append, Monitor.accepts_append]
      exact ⟨linkedNext, accepted, acceptedNext⟩
  | none =>
      rw [granted] at state
      obtain ⟨free, notExecuted⟩ := state
      obtain ⟨quiet, ⟨ungranted, freeNext⟩ | ⟨entry, grant, linked⟩⟩ :=
        advance.free sound free
      · rw [ungranted]
        exact ⟨freeNext, by omega⟩
      · rw [grant]
        intro few
        rw [notExecuted, quiet]
        exact ⟨linked, trivial⟩

/-- From its first grant on, and while fewer than the limit of other ids become
terminal, the side effect of an id starts at most once and each later `begin`
of it returns what is known of its outcome. -/
theorem at_most_once
    (config : BindingConfig) (files : StateFiles) (id : String)
    (events : List Event) (final : World)
    (before after : List Observation) (pending : PendingCommandResult)
    (run : execute (step config) ⟨files, none⟩ events =
      some (final, before ++ .begun id (.owner pending) :: after))
    (first : ∀ observation ∈ before, isGrant id observation = false)
    (few : (othersTerminal id after).card < config.cacheLimit) :
    (before ++ .begun id (.owner pending) :: after).count (.executed id) ≤
        1 ∧
      ∀ past answer later,
        after = past ++ .begun id answer :: later →
          answer =
            ((outcomeMonitor id).after (.pending pending) past).answer id := by
  have tracked :=
    execute_induction
      (fun _ _ _ _ _ holds stepEquality => tracked_step holds stepEquality)
      (tracked_start config id files) run
  obtain ⟨_, state⟩ := tracked
  rw [afterGrant_split first] at state
  obtain ⟨linked, accepted⟩ := state few
  refine ⟨linked.once, ?_⟩
  intro past answer later split
  exact accepted.allows_at split answer rfl

def redeliveryConfig : BindingConfig :=
  ⟨"survival", "minecraft.service", ⟨"/var/lib/agent", "5f"⟩, 2⟩

/-- A start command that is redelivered while it is queued and again after a
crash that came before its completion was durable. -/
def redeliveryEvents : List Event :=
  [.start "10:00" .written .written,
    .receive ⟨"c1", "survival", "service.start", ""⟩ "10:01" .written,
    .enqueue, .workerTake,
    .receive ⟨"c1", "survival", "service.start", ""⟩ "10:02" .written,
    .workerExecute (.ok "started"), .crash,
    .start "10:03" .written .written,
    .receive ⟨"c1", "survival", "service.start", ""⟩ "10:04" .written]

def redeliveryObservations : List Observation :=
  [.begun "c1" (.waiting ⟨0, "10:01"⟩), .executed "c1", .crashed,
    .loadedUnknown "c1", .persisted,
    .begun "c1" (.cached (unknownOutcome "c1"))]

theorem at_most_once_redelivered :
    ∃ final,
      execute (step redeliveryConfig) ⟨⟨none, none⟩, none⟩ redeliveryEvents =
          some (final, [.persisted, .persisted] ++
            .begun "c1" (.owner ⟨0, "10:01"⟩) :: redeliveryObservations) ∧
        List.count (Observation.executed "c1")
            ([.persisted, .persisted] ++ .begun "c1" (.owner ⟨0, "10:01"⟩) ::
              redeliveryObservations) ≤ 1 ∧
          ∀ past answer later,
            redeliveryObservations = past ++ .begun "c1" answer :: later →
              answer = ((outcomeMonitor "c1").after
                (.pending ⟨0, "10:01"⟩) past).answer "c1" := by
  have outputs :
      (execute (step redeliveryConfig) ⟨⟨none, none⟩, none⟩
        redeliveryEvents).map Prod.snd =
          some ([.persisted, .persisted] ++
            .begun "c1" (.owner ⟨0, "10:01"⟩) :: redeliveryObservations) := by
    decide +kernel
  obtain ⟨⟨final, shown⟩, run, equality⟩ := Option.map_eq_some_iff.mp outputs
  change shown = _ at equality
  rw [equality] at run
  exact ⟨final, run,
    at_most_once redeliveryConfig ⟨none, none⟩ "c1" redeliveryEvents final
      [.persisted, .persisted] redeliveryObservations ⟨0, "10:01"⟩ run
      (by decide) (by decide)⟩

end GravitPanel.Agent
