import GravitPanel.Core.Execution
import GravitPanel.Servers.AgentNetwork
import GravitPanel.Servers.EventTable
import GravitPanel.Servers.ServiceChanges

/-!
# One terminal record for each command

The status of a command comes from the first report that finishes it, and each
report of a finished command is announced by one more event.  Both are followed
over whole runs of the service, whatever else happens in between.
-/

namespace GravitPanel.Servers

open GravitPanel.Execution
open GravitPanel.Action ServerAgentStore ServerAgentService

/-- What `command.completed` and `command.failed` say. -/
inductive CommandReport where
  | completed
  | failed (error : String)
  deriving DecidableEq, Repr

def AgentMessage.report : AgentMessage → Option (String × CommandReport)
  | .commandCompleted (some id) _ => some (id, .completed)
  | .commandFailed (some id) error =>
      some (id, .failed (error.getD "Agent command failed"))
  | _ => none

/-- A report counts for the command that it names, on a socket of the
command's binding. -/
def heard
    (id : String) (bindingId : Option String)
    (service : ServerAgentService) (told : String × CommandReport) :
    Option CommandReport :=
  match service.store.getCommand id with
  | none => none
  | some command =>
      if told.1 = id ∧ bindingId = some command.bindingId then some told.2
      else none

/-- The report of a command that an event brings. -/
def reportOf
    (id : String) (service : ServerAgentService) :
    ServiceEvent → Option CommandReport
  | .message _ socket message =>
      message.report.bind
        (heard id (service.bindings.lookup socket) service)
  | _ => none

variable {command : ServerCommand} {events : List ServerRuntimeEvent}
variable {report : CommandReport} {output error : Option String}
variable {bindingId : Option String} {watch : Watch}

theorem heard_of_ne
    {id : String}
    {service : ServerAgentService} {told : String × CommandReport}
    (other : told.1 ≠ id) : heard id bindingId service told = none := by
  unfold heard
  split
  · rfl
  · exact if_neg fun both => other both.1

theorem heard_of_found
    {id : String}
    {service : ServerAgentService}
    (found : service.store.getCommand id = some command)
    (report : CommandReport) :
    heard id bindingId service (id, report) =
      if bindingId = some command.bindingId then some report else none := by
  simp only [heard, found, true_and]

/-- The event says that the command has ended. -/
def isTerminalEvent (id : String) (event : ServerRuntimeEvent) : Bool :=
  event.commandId = some id ∧
    (event.type = "command.succeeded" ∨ event.type = "command.failed")

def terminalEvents (id : String) (effects : List Effect) :
    List ServerRuntimeEvent :=
  effects.filterMap fun effect =>
    match effect with
    | .published event =>
        if isTerminalEvent id event then some event else none
    | _ => none

@[simp]
theorem terminalEvents_append
    (id : String) (first second : List Effect) :
    terminalEvents id (first ++ second) =
      terminalEvents id first ++ terminalEvents id second := by
  simp [terminalEvents]

def ServerCommandStatus.outcome : ServerCommandStatus → Option Bool
  | .succeeded => some true
  | .failed => some false
  | _ => none

/-- How the command is stored when this is its first terminal event: an empty
error text counts as success. -/
def ServerRuntimeEvent.storedAs (event : ServerRuntimeEvent) : Bool :=
  event.type = "command.succeeded" ∨ event.message = ""

/-- The event that a report publishes. -/
def Announces (report : CommandReport) (event : ServerRuntimeEvent) : Prop :=
  match report with
  | .completed => event.type = "command.succeeded"
  | .failed error =>
      event.type = "command.failed" ∧ (event.message = "" ↔ error = "")

/-- The terminal events are those of the reports, behind one of an expiry if
there was one.  Once there is a report, no expiry is added: `expiries` is their
number. -/
def Announced
    (expiries : Nat) (reports : List CommandReport)
    (events : List ServerRuntimeEvent) : Prop :=
  (reports ≠ [] → events.length = expiries + reports.length) ∧
    ∃ expired told, events = expired ++ told ∧
      (expired = [] ∨ ∃ event : ServerRuntimeEvent, expired = [event] ∧
        event.type = "command.failed" ∧ event.message ≠ "") ∧
        List.Forall₂ Announces reports told

/-- Ids are distinct, and the event table holds the newest events. -/
structure Ledger (service : ServerAgentService) (past : List Effect) :
    Prop where
  ids : (service.store.commands.map ServerCommand.id).Nodup
  table : ∀ bindingId,
    Recorded bindingId [] service.store (recordedEvents bindingId past)

/-- The stored command and the terminal events follow from its reports. -/
structure Told
    (id : String) (expiries : Nat) (reports : List CommandReport)
    (commands : List ServerCommand) (events : List ServerRuntimeEvent) :
    Prop where
  unknown : id ∉ commands.map ServerCommand.id → events = []
  owners : ∀ command ∈ commands, command.id = id →
    ∀ event ∈ events, event.bindingId = command.bindingId
  status : ∀ command ∈ commands, command.id = id →
    command.status.outcome =
      events.head?.map ServerRuntimeEvent.storedAs
  announced : Announced expiries reports events

def Settled
    (id : String) (expiries : Nat) (reports : List CommandReport)
    (service : ServerAgentService) (past : List Effect) : Prop :=
  Ledger service past ∧
    Told id expiries reports service.store.commands (terminalEvents id past)

theorem Ledger.of_events
    {service next : ServerAgentService} {past : List Effect}
    (ledger : Ledger service past)
    (ids : (next.store.commands.map ServerCommand.id).Nodup)
    (events : next.store.events = service.store.events)
    (sequence : next.store.sequence = service.store.sequence) :
    Ledger next past where
  ids := ids
  table bindingId := by
    have table := ledger.table bindingId
    constructor
    · rw [events]
      exact table.increasing
    · rw [events, sequence]
      exact table.bounded
    · rw [events]
      exact table.suffix
    · rw [events]
      exact table.complete
    · exact table.apart

/-- The handler changes no command and publishes no terminal event. -/
structure Uneventful (handler : Handler) : Prop where
  ledger : Keeps Ledger handler
  commands : ∀ service,
    (handler service).1.store.commands = service.store.commands
  events : ∀ id service, terminalEvents id (handler service).2 = []

theorem Uneventful.settled
    {handler : Handler} (uneventful : Uneventful handler) (id : String)
    (expiries : Nat) (reports : List CommandReport) :
    Keeps (Settled id expiries reports) handler := by
  intro service past settled
  refine ⟨uneventful.ledger service past settled.1, ?_⟩
  rw [uneventful.commands, terminalEvents_append, uneventful.events, List.append_nil]
  exact settled.2

theorem Uneventful.andThen
    {first second : Handler} (firstUneventful : Uneventful first)
    (secondUneventful : Uneventful second) : Uneventful (first.andThen second) where
  ledger := Triple.andThen firstUneventful.ledger secondUneventful.ledger
  commands service := by
    change (second (first service).1).1.store.commands = _
    rw [secondUneventful.commands, firstUneventful.commands]
  events id service := by
    change terminalEvents id
      ((first service).2 ++ (second (first service).1).2) = []
    rw [terminalEvents_append, firstUneventful.events, secondUneventful.events]
    rfl

theorem uneventful_skip : Uneventful skip where
  ledger := triple_skip
  commands _ := rfl
  events _ _ := rfl

theorem uneventful_of_tables
    {handler : Handler}
    (commands : ∀ service,
      (handler service).1.store.commands = service.store.commands)
    (events : ∀ service,
      (handler service).1.store.events = service.store.events)
    (sequence : ∀ service,
      (handler service).1.store.sequence = service.store.sequence)
    (unpublished : ∀ service, ∀ effect ∈ (handler service).2,
      ∀ event, effect ≠ .published event) :
    Uneventful handler where
  ledger service past ledger := by
    have same : ∀ bindingId,
        recordedEvents bindingId (past ++ (handler service).2) =
          recordedEvents bindingId past := by
      intro bindingId
      have none : recordedEvents bindingId (handler service).2 = [] := by
        apply List.eq_nil_iff_forall_not_mem.mpr
        intro event member
        exact unpublished service _ (mem_recordedEvents.mp member).1 event rfl
      rw [recordedEvents_append, none, List.append_nil]
    have ids : ((handler service).1.store.commands.map
        ServerCommand.id).Nodup := by
      rw [commands]
      exact ledger.ids
    have kept := ledger.of_events ids (events service) (sequence service)
    refine ⟨ids, ?_⟩
    intro bindingId
    rw [same]
    exact kept.table bindingId
  commands := commands
  events id service := by
    apply List.eq_nil_iff_forall_not_mem.mpr
    intro event member
    obtain ⟨effect, present, found⟩ := List.mem_filterMap.mp member
    cases effect with
    | published other => exact unpublished service _ present other rfl
    | _ => cases found

theorem uneventful_of_store
    {handler : Handler}
    (result : ∀ service, (handler service).1.store = service.store ∧
      ∀ event, .published event ∉ (handler service).2) :
    Uneventful handler := by
  apply uneventful_of_tables
  · intro service
    rw [(result service).1]
  · intro service
    rw [(result service).1]
  · intro service
    rw [(result service).1]
  · intro service effect member event same
    exact (result service).2 event (same ▸ member)

theorem ledger_publish
    (bindingId type message : String) (commandId cursor : Option String)
    (createdAt : EventTime) :
    Keeps Ledger
      (publish bindingId type message commandId cursor createdAt) := by
  intro service past ledger
  refine ⟨?_, ?_⟩
  · have commands := appendEvent_commands service.store bindingId type
      message commandId cursor createdAt
    change ((service.store.appendEvent bindingId type message commandId
      cursor createdAt).1.commands.map ServerCommand.id).Nodup
    rw [commands]
    exact ledger.ids
  · intro owner
    rw [recordedEvents_append]
    exact (ledger.table owner).appendEvent
      (fun earlier member => (mem_recordedEvents.mp member).2)
      bindingId type message commandId cursor createdAt

theorem publish_outputs
    (bindingId type message : String) (commandId cursor : Option String)
    (createdAt : EventTime) (service : ServerAgentService) :
    ∀ effect ∈ (publish bindingId type message commandId cursor createdAt
      service).2, ∃ event : ServerRuntimeEvent,
        effect = .published event ∧ event.bindingId = bindingId ∧
          event.commandId = commandId ∧
            event.type = JavaScript.slice 64 type ∧
              event.message = JavaScript.slice 16384 message := by
  intro effect member
  simp only [publish, appendEvent] at member
  split at member
  · cases member
  · rw [List.mem_singleton.mp member]
    exact ⟨_, rfl, rfl, rfl, rfl, rfl⟩

/-- The types of the events that end no command. -/
def quietTypes : List String :=
  ["agent.connected", "agent.disconnected", "command.queued",
    "command.delivered", "command.running", "command.output"]

theorem quietTypes_ongoing : ∀ type ∈ quietTypes,
    JavaScript.slice 64 type ≠ "command.succeeded" ∧
      JavaScript.slice 64 type ≠ "command.failed" := by
  decide +kernel

theorem endingTypes_kept : ∀ type ∈ ["command.succeeded", "command.failed"],
    JavaScript.slice 64 type = type := by
  decide +kernel

theorem uneventful_publish
    (bindingId type message : String) (commandId cursor : Option String)
    (createdAt : EventTime)
    (ongoing : JavaScript.slice 64 type ≠ "command.succeeded" ∧
      JavaScript.slice 64 type ≠ "command.failed") :
    Uneventful (publish bindingId type message commandId cursor createdAt) where
  ledger := ledger_publish bindingId type message commandId cursor createdAt
  commands service := appendEvent_commands service.store bindingId type
    message commandId cursor createdAt
  events id service := by
    apply List.eq_nil_iff_forall_not_mem.mpr
    intro event member
    obtain ⟨effect, present, found⟩ := List.mem_filterMap.mp member
    obtain ⟨published, rfl, -, -, type, -⟩ :=
      publish_outputs bindingId _ message commandId cursor createdAt service
        effect present
    have hidden : isTerminalEvent id published = false := by
      apply decide_eq_false
      rintro ⟨-, succeeded | failed⟩
      · exact ongoing.1 (type.symm.trans succeeded)
      · exact ongoing.2 (type.symm.trans failed)
    simp only [hidden] at found
    cases found

theorem ids_map_rowUpdate
    {commands : List ServerCommand} {row : ServerCommand → ServerCommand}
    (update : RowUpdate row) :
    (commands.map row).map ServerCommand.id =
      commands.map ServerCommand.id := by
  rw [List.map_map]
  exact List.map_congr_left fun command _ => update.id command

theorem keeps_updateCommands
    {row : ServerCommand → ServerCommand} (update : RowUpdate row)
    (outcome : ∀ command,
      (row command).status.outcome = command.status.outcome)
    (id : String) (expiries : Nat) (reports : List CommandReport) :
    Keeps (Settled id expiries reports)
      (updateStore fun store => store.updateCommands row) := by
  intro service past settled
  obtain ⟨ledger, told⟩ := settled
  have effects : past ++
      (updateStore (fun store => store.updateCommands row) service).2 =
        past := List.append_nil past
  rw [effects]
  have ids := @ids_map_rowUpdate service.store.commands row update
  constructor
  · apply ledger.of_events
    · change ((service.store.commands.map row).map
        ServerCommand.id).Nodup
      rw [ids]
      exact ledger.ids
    · rfl
    · rfl
  · change Told id expiries reports (service.store.commands.map row) _
    refine ⟨?_, ?_, ?_, told.announced⟩
    · rw [ids]
      exact told.unknown
    · intro command member named
      obtain ⟨before, present, rfl⟩ := List.mem_map.mp member
      rw [update.bindingId]
      rw [update.id] at named
      exact told.owners before present named
    · intro command member named
      obtain ⟨before, present, rfl⟩ := List.mem_map.mp member
      rw [outcome]
      rw [update.id] at named
      exact told.status before present named

theorem outcome_requeueRow
    (bindingId : Option String) (command : ServerCommand) :
    (requeueRow bindingId command).status.outcome =
      command.status.outcome := by
  unfold requeueRow
  split
  next active =>
    have ongoing := active.1
    cases status : command.status <;> rw [status] at ongoing <;>
      first | rfl | cases ongoing
  · rfl

theorem outcome_deliveredRow
    (id : String) (now : Nat) (command : ServerCommand) :
    (deliveredRow id now command).status.outcome =
      command.status.outcome := by
  unfold deliveredRow
  split
  next queued =>
    rw [queued.2]
    rfl
  · rfl

theorem outcome_runningRow
    (id : String) (now : Nat) (command : ServerCommand) :
    (runningRow id now command).status.outcome =
      command.status.outcome := by
  unfold runningRow
  split
  next waiting =>
    cases waiting.2 with
    | inl queued =>
        rw [queued]
        rfl
    | inr delivered =>
        rw [delivered]
        rfl
  · rfl

theorem outcome_finishedRow
    {id : String} {output error : Option String} {now : Nat}
    {command : ServerCommand} (named : command.id = id) :
    (finishedRow id output error now command).status.outcome =
      some (command.status.outcome.getD
        (decide (error = none ∨ error = some ""))) := by
  unfold finishedRow
  by_cases terminal : command.status.terminal = true
  · rw [if_neg fun selected => selected.2 terminal]
    cases status : command.status <;> rw [status] at terminal <;>
      first | rfl | cases terminal
  · rw [if_pos ⟨named, terminal⟩]
    have ongoing : command.status.outcome = none := by
      cases status : command.status <;> rw [status] at terminal <;>
        first | rfl | exact absurd rfl terminal
    rw [ongoing]
    by_cases well : error = none ∨ error = some ""
    · simp only [if_pos well, decide_eq_true well]
      rfl
    · simp only [if_neg well, decide_eq_false well]
      rfl

theorem finishedRow_of_ne
    {id : String} {now : Nat}
    (other : command.id ≠ id) :
    finishedRow id output error now command = command := by
  unfold finishedRow
  rw [if_neg fun selected => other selected.1]

/-- Finish a command and say so, with a quiet handler in between. -/
def conclude
    (bindingId : String) (command : ServerCommand)
    (output error : Option String) (finished : Nat) (middle : Handler)
    (type message : String) (createdAt : EventTime) : Handler :=
  (updateStore fun store =>
    store.finishCommand command.id output error finished).andThen
      (middle.andThen
        (publish bindingId type message (some command.id) none createdAt))

theorem slice_eq_empty_iff (text : String) :
    JavaScript.slice 16384 text = "" ↔ text = "" := by
  constructor
  · intro empty
    have characters := congrArg String.toList empty
    rw [JavaScript.slice, String.toList_ofList] at characters
    apply String.toList_inj.mp
    cases shape : text.toList with
    | nil => rfl
    | cons character rest =>
        have fits : JavaScript.units character ≤ 16384 := by
          unfold JavaScript.units
          split <;> decide
        rw [shape, JavaScript.sliceChars, if_pos fits] at characters
        cases characters
  · rintro rfl
    rfl

theorem publish_terminal
    (bindingId type message id : String) (createdAt : EventTime)
    (terminal : JavaScript.slice 64 type = type ∧
      (type = "command.succeeded" ∨ type = "command.failed"))
    (service : ServerAgentService) :
    ∃ event : ServerRuntimeEvent,
      (publish bindingId type message (some id) none createdAt service).2 =
          [.published event] ∧
        event.bindingId = bindingId ∧ event.commandId = some id ∧
          event.type = type ∧
            event.message = JavaScript.slice 16384 message := by
  simp only [publish, appendEvent, storedCursor, cursorTaken,
    Bool.false_eq_true, if_false]
  exact ⟨_, rfl, rfl, rfl, terminal.1, rfl⟩

/-- Finishing one command and saying so.  Of the command in question, `next`
are then the reports. -/
theorem settled_conclude
    {id : String} {expiries nextExpiries : Nat}
    {reports next : List CommandReport}
    {service : ServerAgentService} {past : List Effect}
    {bindingId : String}
    {finished : Nat} {middle : Handler}
    {type message : String} {createdAt : EventTime}
    (settled : Settled id expiries reports service past)
    (member : command ∈ service.store.commands)
    (owned : command.bindingId = bindingId)
    (uneventful : Uneventful middle)
    (terminal : JavaScript.slice 64 type = type ∧
      (type = "command.succeeded" ∨ type = "command.failed"))
    (stored : (error = none ∨ error = some "") ↔
      (type = "command.succeeded" ∨
        JavaScript.slice 16384 message = ""))
    (announced : command.id = id → ∀ event : ServerRuntimeEvent,
      event.type = type →
        event.message = JavaScript.slice 16384 message →
          Announced nextExpiries next (terminalEvents id past ++ [event]))
    (others : command.id ≠ id →
      next = reports ∧ nextExpiries = expiries) :
    Settled id nextExpiries next
      (conclude bindingId command output error finished middle type message
        createdAt service).1
      (past ++ (conclude bindingId command output error finished middle type
        message createdAt service).2) := by
  obtain ⟨ledger, told⟩ := settled
  let row := finishedRow command.id output error finished
  let updated : ServerAgentService :=
    { service with store := service.store.updateCommands row }
  have update : RowUpdate row :=
    finishedRow_rowUpdate command.id output error finished
  have ids := @ids_map_rowUpdate service.store.commands row update
  have updatedLedger : Ledger updated past := by
    apply ledger.of_events
    · change ((service.store.commands.map row).map
        ServerCommand.id).Nodup
      rw [ids]
      exact ledger.ids
    · rfl
    · rfl
  have middleLedger := uneventful.ledger updated past updatedLedger
  have publishedLedger := ledger_publish bindingId type message
    (some command.id) none createdAt (middle updated).1 _ middleLedger
  obtain ⟨event, outputs, eventOwner, eventCommand, eventType,
    eventMessage⟩ := publish_terminal bindingId type message command.id
      createdAt terminal (middle updated).1
  have commands : (publish bindingId type message (some command.id) none
      createdAt (middle updated).1).1.store.commands =
        service.store.commands.map row := by
    have published := appendEvent_commands (middle updated).1.store
      bindingId type message (some command.id) none createdAt
    have between := uneventful.commands updated
    exact published.trans between
  have effects : past ++ (conclude bindingId command output error finished
      middle type message createdAt service).2 =
        past ++ (middle updated).2 ++
          (publish bindingId type message (some command.id) none createdAt
            (middle updated).1).2 := by
    rw [List.append_assoc]
    exact congrArg (past ++ ·) (List.nil_append _)
  refine ⟨?_, ?_⟩
  · rw [effects]
    exact publishedLedger
  · change Told id nextExpiries next (publish bindingId type message (some command.id)
      none createdAt (middle updated).1).1.store.commands _
    rw [effects, commands, outputs, terminalEvents_append,
      terminalEvents_append, uneventful.events, List.append_nil]
    by_cases same : command.id = id
    · have shown : terminalEvents id [.published event] = [event] := by
        have matching : isTerminalEvent id event = true := by
          apply decide_eq_true
          rw [eventCommand, eventType, same]
          exact ⟨rfl, terminal.2⟩
        simp only [terminalEvents, List.filterMap_cons, matching, if_true,
          List.filterMap_nil]
      rw [shown]
      refine ⟨?_, ?_, ?_, announced same event eventType eventMessage⟩
      · intro unknown
        rw [ids] at unknown
        exact absurd (List.mem_map.mpr ⟨command, member, same⟩) unknown
      · intro other otherMember named published present
        obtain ⟨before, beforeMember, rfl⟩ := List.mem_map.mp otherMember
        rw [update.id] at named
        rw [update.bindingId]
        rcases List.mem_append.mp present with earlier | new
        · exact told.owners before beforeMember named published earlier
        · have sameRow : before = command :=
            List.inj_on_of_nodup_map ledger.ids beforeMember member
              (named.trans same.symm)
          rw [List.mem_singleton.mp new, eventOwner, sameRow, owned]
      · intro other otherMember named
        obtain ⟨before, beforeMember, rfl⟩ := List.mem_map.mp otherMember
        rw [update.id] at named
        have status := told.status before beforeMember named
        have outcome := @outcome_finishedRow command.id output error
          finished before (named.trans same.symm)
        have last : event.storedAs =
            decide (error = none ∨ error = some "") := by
          unfold ServerRuntimeEvent.storedAs
          rw [eventType, eventMessage]
          exact decide_eq_decide.mpr stored.symm
        rw [outcome, status]
        cases shape : terminalEvents id past with
        | nil =>
            change some (decide _) = some event.storedAs
            rw [last]
        | cons first rest => rfl
    · have hidden : terminalEvents id [.published event] = [] := by
        have unrelated : isTerminalEvent id event = false := by
          apply decide_eq_false
          rintro ⟨named, -⟩
          rw [eventCommand, Option.some.injEq] at named
          exact same named
        simp only [terminalEvents, List.filterMap_cons, unrelated,
          Bool.false_eq_true, if_false, List.filterMap_nil]
      rw [hidden, List.append_nil, (others same).1, (others same).2]
      have unchanged : ∀ before : ServerCommand, before.id = id →
          row before = before := by
        intro before named
        apply finishedRow_of_ne
        intro equal
        exact same (equal.symm.trans named)
      refine ⟨?_, ?_, ?_, told.announced⟩
      · rw [ids]
        exact told.unknown
      · intro other otherMember named
        obtain ⟨before, beforeMember, rfl⟩ := List.mem_map.mp otherMember
        rw [update.id] at named
        rw [unchanged before named]
        exact told.owners before beforeMember named
      · intro other otherMember named
        obtain ⟨before, beforeMember, rfl⟩ := List.mem_map.mp otherMember
        rw [update.id] at named
        rw [unchanged before named]
        exact told.status before beforeMember named

/-! ## The handlers of the service -/

section Handlers

variable (id : String) (expiries : Nat) (reports : List CommandReport)

theorem uneventful_update
    {change : ServerAgentService → ServerAgentService}
    (store : ∀ service, (change service).store = service.store) :
    Uneventful (Action.update change) := by
  apply uneventful_of_store
  intro service
  exact ⟨store service, fun event => List.not_mem_nil⟩

theorem keeps_update
    {change : ServerAgentService → ServerAgentService}
    (store : ∀ service, (change service).store = service.store) :
    Keeps (Settled id expiries reports) (Action.update change) :=
  (uneventful_update store).settled id expiries reports

theorem uneventful_updateStore
    {change : ServerAgentStore → ServerAgentStore}
    (tables : ∀ store, (change store).commands = store.commands ∧
      (change store).events = store.events ∧
        (change store).sequence = store.sequence) :
    Uneventful (updateStore change) := by
  apply uneventful_of_tables
  · intro service
    exact (tables service.store).1
  · intro service
    exact (tables service.store).2.1
  · intro service
    exact (tables service.store).2.2
  · intro service effect absent
    cases absent

theorem uneventful_emit
    {effect : Effect} (unpublished : ∀ event, effect ≠ .published event) :
    Uneventful (emit effect) := by
  apply uneventful_of_store
  intro service
  refine ⟨rfl, ?_⟩
  intro event member
  exact unpublished event (List.mem_singleton.mp member).symm

theorem uneventful_openSocket (socket : SocketKey) :
    Uneventful (openSocket socket) := by
  apply uneventful_of_store
  intro service
  unfold openSocket
  split <;> simp

theorem uneventful_helloTimeout (socket : SocketKey) :
    Uneventful (helloTimeout socket) := by
  apply uneventful_of_store
  intro service
  unfold helloTimeout
  split
  · split <;> simp
  · simp

theorem uneventful_dropFilesystem (socket : SocketKey) :
    Uneventful (dropFilesystem socket) := by
  apply uneventful_of_store
  intro service
  simp [dropFilesystem]

theorem keeps_close (environment : Environment) (socket : SocketKey) :
    Keeps (Settled id expiries reports) (close environment socket) := by
  have removes : Keeps (Settled id expiries reports)
      (Action.update fun service : ServerAgentService =>
        { service with
          helloTimers := service.helloTimers.erase socket
          pendingSockets := service.pendingSockets.erase socket }) :=
    keeps_update id expiries reports fun _ => rfl
  have forgets : Keeps (Settled id expiries reports)
      (Action.update fun service : ServerAgentService =>
        { service with bindings := service.bindings.erase socket }) :=
    keeps_update id expiries reports fun _ => rfl
  refine Triple.andThen removes ?_
  intro service past settled
  dsimp only
  split
  · rw [List.append_nil]
    exact settled
  next bindingId bound =>
    refine Triple.andThen forgets ?_ service past settled
    intro service past settled
    dsimp only
    split
    · rw [List.append_nil]
      exact settled
    · have unregisters : Keeps (Settled id expiries reports)
          (Action.update fun service : ServerAgentService =>
            { service with sockets := service.sockets.erase bindingId }) :=
        keeps_update id expiries reports fun _ => rfl
      have requeues := keeps_updateCommands
        (requeueRow_rowUpdate (some bindingId))
        (outcome_requeueRow (some bindingId)) id expiries reports
      have ongoing := quietTypes_ongoing "agent.disconnected"
        (by simp [quietTypes])
      refine keeps_all ?_ service past settled
      intro handler member
      simp only [List.mem_cons, List.not_mem_nil, or_false] at member
      rcases member with rfl | rfl | rfl | rfl
      · exact unregisters
      · exact (uneventful_dropFilesystem socket).settled id expiries reports
      · exact requeues
      · exact (uneventful_publish _ _ _ _ _ _ ongoing).settled id expiries reports

theorem keeps_expiry
    {service : ServerAgentService} {past : List Effect}
    {command : ServerCommand} {bindingId : String} (now : Nat)
    (settled : Settled id expiries reports service past)
    (pending : command ∈ service.store.pendingCommands bindingId) :
    Settled id expiries reports
      (conclude bindingId command none (some expiredMessage) now skip
        "command.failed" expiredMessage (.clock now) service).1
      (past ++ (conclude bindingId command none (some expiredMessage) now
        skip "command.failed" expiredMessage (.clock now) service).2) := by
  obtain ⟨member, owned, queued⟩ := mem_pendingRows.mp pending
  have notEmpty : JavaScript.slice 16384 expiredMessage ≠ "" := by
    rw [Ne, slice_eq_empty_iff]
    decide
  apply settled_conclude settled member owned uneventful_skip
  · exact ⟨endingTypes_kept "command.failed" (by simp), .inr rfl⟩
  · constructor
    · rintro (absent | empty)
      · cases absent
      · rw [Option.some.injEq] at empty
        exact absurd (congrArg (JavaScript.slice 16384) empty) notEmpty
    · rintro (other | empty)
      · exact absurd other (by decide)
      · exact absurd empty notEmpty
  · intro named event type message
    have status := settled.2.status command member named
    rw [queued] at status
    have none : terminalEvents id past = [] := by
      cases shape : terminalEvents id past with
      | nil => rfl
      | cons first rest =>
          rw [shape] at status
          cases status
    obtain ⟨-, expired, told, split, -, announces⟩ := settled.2.announced
    rw [none] at split
    obtain ⟨rfl, rfl⟩ := List.nil_eq_append_iff.mp split
    cases announces
    rw [none]
    refine ⟨fun nonempty => absurd rfl nonempty, [event], [], rfl,
      Or.inr ⟨event, rfl, type, ?_⟩, .nil⟩
    rw [message]
    exact notEmpty
  · intro _
    exact ⟨rfl, rfl⟩

theorem keeps_dispatchLoop
    (environment : Environment) (bindingId : String) (rounds : Nat) :
    Keeps (Settled id expiries reports)
      (dispatchLoop environment bindingId rounds) := by
  induction rounds with
  | zero => exact triple_skip
  | succ rounds ih =>
      intro service past settled
      rw [dispatchLoop]
      dsimp only
      split
      next socket command rest registered idle pending =>
        have first : command ∈
            service.store.pendingCommands bindingId := by
          rw [pending]
          exact List.mem_cons_self
        split
        · have regrouped :
              all
                [updateStore fun store =>
                  store.finishCommand command.id none (some expiredMessage)
                    (environment.clock rounds),
                publish bindingId "command.failed" expiredMessage
                  (some command.id) none
                  (.clock (environment.clock rounds)),
                dispatchLoop environment bindingId rounds] =
              (conclude bindingId command none (some expiredMessage)
                (environment.clock rounds) skip "command.failed"
                expiredMessage
                (.clock (environment.clock rounds))).andThen
                  (dispatchLoop environment bindingId rounds) := by
            simp only [all_cons, all_nil, conclude, andThen_assoc,
              andThen_skip, skip_andThen]
          have expired := keeps_expiry id expiries reports
            (environment.clock rounds) settled first
          have later := ih _ _ expired
          rw [regrouped]
          have effects (first second : Handler) :
              past ++ (first.andThen second service).2 =
                (past ++ (first service).2) ++
                  (second (first service).1).2 := by
            rw [List.append_assoc]
            rfl
          rw [effects]
          exact later
        · split
          · exact keeps_close id expiries reports environment socket service past
              settled
          · have sends : Keeps (Settled id expiries reports)
                (emit (.sent socket (commandMessage command))) :=
              (uneventful_emit fun event impossible =>
                by cases impossible).settled id expiries reports
            have ongoing := quietTypes_ongoing "command.delivered"
              (by simp [quietTypes])
            refine keeps_all ?_ service past settled
            intro handler member
            simp only [List.mem_cons, List.not_mem_nil, or_false] at member
            rcases member with rfl | rfl | rfl
            · exact sends
            · exact keeps_updateCommands
                (deliveredRow_rowUpdate command.id _)
                (outcome_deliveredRow command.id _) id expiries reports
            · exact (uneventful_publish _ _ _ _ _ _ ongoing).settled id
                expiries reports
      · rw [List.append_nil]
        exact settled

theorem keeps_dispatchNext
    (environment : Environment) (bindingId : String) :
    Keeps (Settled id expiries reports) (dispatchNext environment bindingId) := by
  intro service past settled
  exact keeps_dispatchLoop id expiries reports environment bindingId _ service past
    settled

theorem uneventful_closePrevious
    (bindingId : String) (socket : SocketKey) :
    Uneventful (closePrevious bindingId socket) := by
  apply uneventful_of_store
  intro service
  unfold closePrevious
  split
  · split <;> simp
  · simp

theorem keeps_hello
    (environment : Environment) (socket : SocketKey)
    (message : Option AgentHello) :
    Keeps (Settled id expiries reports) (hello environment socket message) := by
  have asksToClose : Keeps (Settled id expiries reports)
      (emit (.closeAsked socket)) :=
    (uneventful_emit fun event impossible =>
      by cases impossible).settled id expiries reports
  cases message with
  | none => exact asksToClose
  | some message =>
      cases authenticated : environment.authenticate message.token with
      | none =>
          simp only [hello, authenticated]
          exact asksToClose
      | some bindingId =>
          simp only [hello, authenticated]
          refine keeps_all ?_
          intro handler member
          simp only [List.mem_cons, List.not_mem_nil, or_false] at member
          rcases member with rfl | rfl | rfl | rfl
          · exact (uneventful_closePrevious bindingId socket).settled id
              expiries reports
          · exact keeps_update id expiries reports fun _ => rfl
          · have saves : Uneventful (updateStore fun store =>
                store.saveAgent bindingId
                  (JavaScript.slice 64 message.agentVersion)
                  (JavaScript.slice 253 message.hostname)
                  ((message.capabilities.filterMap fun name => name).take 32)
                  (environment.clock 0)) :=
              uneventful_updateStore fun _ => ⟨rfl, rfl, rfl⟩
            exact saves.settled id expiries reports
          · split
            · exact triple_skip
            · have sends : Keeps (Settled id expiries reports)
                  (emit (.sent socket (.helloAccepted bindingId))) :=
                (uneventful_emit fun event impossible =>
                  by cases impossible).settled id expiries reports
              have ongoing := quietTypes_ongoing "agent.connected"
                (by simp [quietTypes])
              refine keeps_all ?_
              intro handler member
              simp only [List.mem_cons, List.not_mem_nil, or_false]
                at member
              rcases member with rfl | rfl | rfl
              · exact sends
              · exact (uneventful_publish _ _ _ _ _ _ ongoing).settled id
                  expiries reports
              · exact keeps_dispatchNext id expiries reports environment bindingId

theorem tables_touch
    (store : ServerAgentStore) (bindingId : String) (now : Nat) :
    (store.touch bindingId now).commands = store.commands ∧
      (store.touch bindingId now).events = store.events ∧
        (store.touch bindingId now).sequence = store.sequence := by
  unfold touch
  split <;> exact ⟨rfl, rfl, rfl⟩

theorem tables_saveRuntime
    (store : ServerAgentStore) (bindingId : String)
    (runtime : ServerServiceRuntime) (now : Nat) :
    (store.saveRuntime bindingId runtime now).commands = store.commands ∧
      (store.saveRuntime bindingId runtime now).events = store.events ∧
        (store.saveRuntime bindingId runtime now).sequence =
          store.sequence := by
  unfold saveRuntime
  split <;> exact ⟨rfl, rfl, rfl⟩

theorem uneventful_status
    (environment : Environment) (bindingId : String)
    (value : Option ServerServiceRuntime) :
    Uneventful (status environment bindingId value) := by
  cases value with
  | none => exact uneventful_skip
  | some runtime =>
      exact uneventful_updateStore fun store =>
        tables_saveRuntime store bindingId _ _

theorem ongoing_logType (stream : Option String) :
    JavaScript.slice 64 (logType stream) ≠ "command.succeeded" ∧
      JavaScript.slice 64 (logType stream) ≠ "command.failed" := by
  have initial : ∃ rest, (logType stream).toList = 'l' :: rest := by
    cases stream with
    | none => exact ⟨"og.stdout".toList, rfl⟩
    | some text =>
        refine ⟨"og.".toList ++ (JavaScript.slice 32 text).toList, ?_⟩
        change ("log." ++ JavaScript.slice 32 text).toList = _
        rw [String.toList_append]
        rfl
  obtain ⟨rest, shape⟩ := initial
  have sliced : ∃ kept, (JavaScript.slice 64 (logType stream)).toList =
      'l' :: kept := by
    rw [JavaScript.slice, String.toList_ofList, shape,
      JavaScript.sliceChars, if_pos (by decide)]
    exact ⟨_, rfl⟩
  obtain ⟨kept, start⟩ := sliced
  constructor <;> intro same <;> rw [same] at start <;>
    exact absurd (List.cons.inj start).1 (by decide)

theorem uneventful_log
    (environment : Environment) (socket : SocketKey) (bindingId : String)
    (line : Option LogLine) :
    Uneventful (log environment socket bindingId line) := by
  cases line with
  | none => exact uneventful_skip
  | some line =>
      refine Uneventful.andThen
        (uneventful_publish _ _ _ _ _ _ (ongoing_logType line.stream)) ?_
      split
      · exact uneventful_skip
      next cursor _ =>
        split
        · exact uneventful_skip
        · split
          · exact uneventful_skip
          · exact uneventful_emit fun event impossible =>
              by cases impossible

theorem uneventful_filesystemResponse
    (socket : SocketKey) (bindingId : String) (requestId : Option String)
    (ok : Bool) (result : String) (error : Option String) :
    Uneventful
      (filesystemResponse socket bindingId requestId ok result error) := by
  apply uneventful_of_store
  intro service
  unfold filesystemResponse
  cases requestId with
  | none => simp
  | some requestId =>
      dsimp only
      split
      · simp
      · split <;> simp

theorem uneventful_requestFilesystem
    (environment : Environment)
    (request bindingId operation payload : String) :
    Uneventful
      (requestFilesystem environment request bindingId operation
        payload) := by
  apply uneventful_of_store
  intro service
  unfold requestFilesystem
  split
  · simp
  · split
    · simp
    · split <;> simp

theorem uneventful_filesystemTimeout (request : String) :
    Uneventful (filesystemTimeout request) := by
  apply uneventful_of_store
  intro service
  unfold filesystemTimeout
  split <;> simp

theorem keeps_ack
    (environment : Environment) (bindingId : String)
    (commandId : Option String) :
    Keeps (Settled id expiries reports) (ack environment bindingId commandId) := by
  intro service past settled
  unfold ServerAgentService.ack withCommand
  dsimp only
  split
  · rw [List.append_nil]
    exact settled
  next command found =>
    split
    · rw [List.append_nil]
      exact settled
    · have ongoing := quietTypes_ongoing "command.running"
        (by simp [quietTypes])
      refine keeps_all ?_ service past settled
      intro handler member
      simp only [List.mem_cons, List.not_mem_nil, or_false] at member
      rcases member with rfl | rfl
      · exact keeps_updateCommands (runningRow_rowUpdate command.id _)
          (outcome_runningRow command.id _) id expiries reports
      · exact (uneventful_publish _ _ _ _ _ _ ongoing).settled id expiries reports

theorem keeps_create
    {service : ServerAgentService} {past : List Effect}
    (settled : Settled id expiries reports service past)
    (newId bindingId : String) (type : ServerCommandType)
    (payload : Option String) (now : Nat)
    (unused : newId ∉ service.store.commands.map ServerCommand.id) :
    Settled id expiries reports
      { service with
        store := { service.store with
          commands := service.store.commands ++
            [newCommand newId bindingId type payload now] } }
      past := by
  obtain ⟨ledger, told⟩ := settled
  constructor
  · apply ledger.of_events
    · change ((service.store.commands ++ [_]).map ServerCommand.id).Nodup
      rw [List.map_append, List.map_singleton]
      have distinct := ledger.ids.concat unused
      rw [List.concat_eq_append] at distinct
      exact distinct
    · rfl
    · rfl
  · change Told id expiries reports (service.store.commands ++ [_]) _
    refine ⟨?_, ?_, ?_, told.announced⟩
    · intro unknown
      apply told.unknown
      intro known
      apply unknown
      rw [List.map_append]
      exact List.mem_append_left _ known
    · intro command member named event present
      rcases List.mem_append.mp member with old | new
      · exact told.owners command old named event present
      · rw [List.mem_singleton.mp new] at named
        have fresh := told.unknown (named ▸ unused)
        rw [fresh] at present
        cases present
    · intro command member named
      rcases List.mem_append.mp member with old | new
      · exact told.status command old named
      · rw [List.mem_singleton.mp new] at named ⊢
        rw [told.unknown (named ▸ unused)]
        rfl

theorem keeps_createCommand
    (environment : Environment) (newId bindingId : String)
    (type : ServerCommandType) (command : Option String) :
    Keeps (Settled id expiries reports)
      (ServerAgentService.createCommand environment newId bindingId type
        command) := by
  unfold ServerAgentService.createCommand
  split
  · exact (uneventful_emit fun event impossible =>
      by cases impossible).settled id expiries reports
  next payload _ =>
    intro service past settled
    dsimp only
    split
    · exact (uneventful_emit fun event impossible =>
        by cases impossible).settled id expiries reports service past settled
    next store created inserted =>
      unfold ServerAgentStore.createCommand at inserted
      split at inserted
      · cases inserted
      next unused =>
        cases inserted
        have stored := keeps_create id expiries reports settled newId bindingId type
          payload (environment.clock 0) unused
        have ongoing := quietTypes_ongoing "command.queued"
          (by simp [quietTypes])
        have later : Keeps (Settled id expiries reports) (all
            [publish bindingId "command.queued" type.text (some newId) none
              (.clock (environment.clock 0)),
            dispatchNext environment bindingId,
            emit (.created (newCommand newId bindingId type payload
              (environment.clock 0)))]) := by
          refine keeps_all ?_
          intro handler member
          simp only [List.mem_cons, List.not_mem_nil, or_false] at member
          rcases member with rfl | rfl | rfl
          · exact (uneventful_publish _ _ _ _ _ _ ongoing).settled id
              expiries reports
          · exact keeps_dispatchNext id expiries reports environment bindingId
          · exact (uneventful_emit fun event impossible =>
              by cases impossible).settled id expiries reports
        exact later _ past stored

theorem keeps_restart :
    Keeps (Settled id expiries reports)
      (Action.update fun service : ServerAgentService =>
        new service.store) := by
  have requeues := keeps_updateCommands (requeueRow_rowUpdate none)
    (outcome_requeueRow none) id expiries reports
  have forgets : Keeps (Settled id expiries reports)
      (Action.update fun service : ServerAgentService =>
        { service with
          sockets := ∅, bindings := ∅, helloTimers := []
          pendingSockets := [], pendingFilesystem := [] }) :=
    keeps_update id expiries reports fun _ => rfl
  exact Triple.andThen requeues forgets

end Handlers

variable {id : String} {expiries : Nat} {reports : List CommandReport}
variable {service : ServerAgentService} {past : List Effect}

theorem Announced.length_le
    (announced : Announced expiries reports events) :
    reports.length ≤ events.length := by
  obtain ⟨-, expired, told, rfl, -, announcements⟩ := announced
  rw [List.length_append, announcements.length_eq]
  exact Nat.le_add_left _ _

theorem Announced.concat
    {event : ServerRuntimeEvent}
    (announced : Announced expiries reports events)
    (announces : Announces report event) :
    Announced (events.length - reports.length) (reports ++ [report])
      (events ++ [event]) := by
  have fewer := announced.length_le
  obtain ⟨-, expired, told, rfl, expiry, announcements⟩ := announced
  refine ⟨?_, expired, told ++ [event], List.append_assoc _ _ _, expiry, ?_⟩
  · intro _
    simp only [List.length_append] at fewer ⊢
    simp only [List.length_cons, List.length_nil]
    omega
  · exact List.rel_append announcements (.cons announces .nil)

/-- What is settled after a step that began with these reports and outputs, and
in which a report may have been heard. -/
def SettledAfter
    (id : String) (expiries : Nat) (reports : List CommandReport)
    (past : List Effect) (report : Option CommandReport)
    (service : ServerAgentService) (outputs : List Effect) : Prop :=
  match report with
  | none => Settled id expiries reports service (past ++ outputs)
  | some report =>
      Settled id ((terminalEvents id past).length - reports.length)
        (reports ++ [report]) service (past ++ outputs)

theorem settled_withCommand
    {id named bindingId : String}
    {handler : ServerCommand → Handler}
    (settled : Settled id expiries reports service past)
    (handles : ∀ command ∈ service.store.commands, command.id = named →
      command.bindingId = bindingId →
        SettledAfter id expiries reports past
          (if named = id then some report else none)
          (handler command service).1 (handler command service).2) :
    SettledAfter id expiries reports past
      (heard id (some bindingId) service (named, report))
      (withCommand bindingId (some named) handler service).1
      (withCommand bindingId (some named) handler service).2 := by
  have still : SettledAfter id expiries reports past none service [] := by
    change Settled id expiries reports service (past ++ [])
    rw [List.append_nil]
    exact settled
  unfold withCommand
  rw [Option.bind_some]
  cases found : service.store.getCommand named with
  | none =>
      have silent :
          heard id (some bindingId) service (named, report) = none := by
        by_cases about : named = id
        · subst about
          simp only [heard, found]
        · exact heard_of_ne about
      rw [silent]
      exact still
  | some command =>
      obtain ⟨member, same⟩ := getCommand_spec found
      by_cases owned : command.bindingId = bindingId
      · have handled := handles command member same owned
        simp only [if_neg (not_not_intro owned)]
        by_cases about : named = id
        · subst about
          rw [if_pos rfl] at handled
          rw [heard_of_found found, if_pos (congrArg some owned.symm)]
          exact handled
        · rw [if_neg about] at handled
          rw [heard_of_ne about]
          exact handled
      · have silent :
            heard id (some bindingId) service (named, report) = none := by
          by_cases about : named = id
          · subst about
            rw [heard_of_found found]
            apply if_neg
            intro equal
            exact owned (Option.some.inj equal).symm
          · exact heard_of_ne about
        rw [silent]
        simp only [if_pos owned]
        exact still

theorem settledAfter_conclude
    {id named bindingId : String}
    {finished : Nat} {middle : Handler} {type message : String}
    {createdAt : EventTime} (environment : Environment)
    (settled : Settled id expiries reports service past)
    (member : command ∈ service.store.commands)
    (same : command.id = named) (owned : command.bindingId = bindingId)
    (uneventful : Uneventful middle)
    (terminal : JavaScript.slice 64 type = type ∧
      (type = "command.succeeded" ∨ type = "command.failed"))
    (stored : (error = none ∨ error = some "") ↔
      (type = "command.succeeded" ∨
        JavaScript.slice 16384 message = ""))
    (announces : ∀ event : ServerRuntimeEvent, event.type = type →
      event.message = JavaScript.slice 16384 message →
        Announces report event) :
    SettledAfter id expiries reports past
      (if named = id then some report else none)
      ((conclude bindingId command output error finished middle type message
        createdAt).andThen (dispatchNext environment bindingId) service).1
      ((conclude bindingId command output error finished middle type message
        createdAt).andThen (dispatchNext environment bindingId)
          service).2 := by
  by_cases about : named = id
  · rw [if_pos about]
    have concluded : Settled id
        ((terminalEvents id past).length - reports.length)
        (reports ++ [report])
        (conclude bindingId command output error finished middle type
          message createdAt service).1
        (past ++ (conclude bindingId command output error finished middle
          type message createdAt service).2) := by
      apply settled_conclude settled member owned uneventful terminal stored
      · intro _ event eventType eventMessage
        exact settled.2.announced.concat
          (announces event eventType eventMessage)
      · intro other
        exact absurd (same.trans about) other
    have dispatched := keeps_dispatchNext id _ _ environment bindingId _ _
      concluded
    rw [List.append_assoc] at dispatched
    exact dispatched
  · rw [if_neg about]
    have concluded : Settled id expiries reports
        (conclude bindingId command output error finished middle type
          message createdAt service).1
        (past ++ (conclude bindingId command output error finished middle
          type message createdAt service).2) := by
      apply settled_conclude settled member owned uneventful terminal stored
      · intro equal
        exact absurd (same.symm.trans equal) about
      · intro _
        exact ⟨rfl, rfl⟩
    have dispatched := keeps_dispatchNext id _ _ environment bindingId _ _
      concluded
    rw [List.append_assoc] at dispatched
    exact dispatched

theorem settled_complete
    {id bindingId : String}
    (settled : Settled id expiries reports service past)
    (environment : Environment) (named : String) (output : Option String) :
    SettledAfter id expiries reports past
      (heard id (some bindingId) service (named, .completed))
      (complete environment bindingId (some named) output service).1
      (complete environment bindingId (some named) output service).2 := by
  apply settled_withCommand settled
  intro command member same owned
  let middle : Handler :=
    if output.getD "" = "" then skip
    else publish bindingId "command.output" (output.getD "")
      (some command.id) none (.clock (environment.clock 0))
  have uneventful : Uneventful middle := by
    have ongoing := quietTypes_ongoing "command.output"
      (by simp [quietTypes])
    by_cases silent : output.getD "" = ""
    · simp only [middle, if_pos silent]
      exact uneventful_skip
    · simp only [middle, if_neg silent]
      exact uneventful_publish _ _ _ _ _ _ ongoing
  have regrouped :
      all
        [updateStore fun store =>
          store.finishCommand command.id (some (output.getD "")) none
            (environment.clock 0),
        middle,
        publish bindingId "command.succeeded" command.type.text
          (some command.id) none (.clock (environment.clock 0)),
        dispatchNext environment bindingId] =
      (conclude bindingId command (some (output.getD "")) none
        (environment.clock 0) middle "command.succeeded" command.type.text
        (.clock (environment.clock 0))).andThen
          (dispatchNext environment bindingId) := by
    simp only [all_cons, all_nil, conclude, andThen_assoc, andThen_skip]
  change SettledAfter id expiries reports past _ ((all _ : Handler) service).1
    ((all _ : Handler) service).2
  rw [regrouped]
  apply settledAfter_conclude environment settled member same owned
    uneventful
  · exact ⟨endingTypes_kept "command.succeeded" (by simp), .inl rfl⟩
  · exact ⟨fun _ => Or.inl rfl, fun _ => Or.inl rfl⟩
  · intro event type _
    exact type

theorem settled_fail
    {id bindingId : String}
    (settled : Settled id expiries reports service past)
    (environment : Environment) (named : String) (error : Option String) :
    SettledAfter id expiries reports past
      (heard id (some bindingId) service
        (named, .failed (error.getD "Agent command failed")))
      (fail environment bindingId (some named) error service).1
      (fail environment bindingId (some named) error service).2 := by
  apply settled_withCommand settled
  intro command member same owned
  let text := error.getD "Agent command failed"
  have regrouped :
      all
        [updateStore fun store =>
          store.finishCommand command.id none (some text)
            (environment.clock 0),
        publish bindingId "command.failed" text (some command.id) none
          (.clock (environment.clock 0)),
        dispatchNext environment bindingId] =
      (conclude bindingId command none (some text) (environment.clock 0)
        skip "command.failed" text (.clock (environment.clock 0))).andThen
          (dispatchNext environment bindingId) := by
    simp only [all_cons, all_nil, conclude, andThen_assoc, andThen_skip,
      skip_andThen]
  change SettledAfter id expiries reports past _ ((all _ : Handler) service).1
    ((all _ : Handler) service).2
  rw [regrouped]
  apply settledAfter_conclude environment settled member same owned
    uneventful_skip
  · exact ⟨endingTypes_kept "command.failed" (by simp), .inr rfl⟩
  · rw [slice_eq_empty_iff]
    simp
  · intro event type message
    refine ⟨type, ?_⟩
    rw [message, slice_eq_empty_iff]

/-! ## Every event -/

theorem heard_of_commands
    {service next : ServerAgentService} (told : String × CommandReport)
    (commands : next.store.commands = service.store.commands) :
    heard id bindingId next told = heard id bindingId service told := by
  unfold heard getCommand
  rw [commands]

theorem heard_unbound
    (id : String) (service : ServerAgentService)
    (told : String × CommandReport) :
    heard id none service told = none := by
  unfold heard
  split
  · rfl
  · apply if_neg
    rintro ⟨-, impossible⟩
    cases impossible

theorem settled_handleBound
    {id bindingId : String}
    (settled : Settled id expiries reports service past)
    (environment : Environment) (socket : SocketKey)
    (message : AgentMessage) :
    SettledAfter id expiries reports past
      (message.report.bind (heard id (some bindingId) service))
      (handleBound environment socket bindingId message service).1
      (handleBound environment socket bindingId message service).2 := by
  cases message with
  | status runtime =>
      exact (uneventful_status environment bindingId runtime).settled id
        expiries reports service past settled
  | log line =>
      exact (uneventful_log environment socket bindingId line).settled id
        expiries reports service past settled
  | commandAck commandId =>
      exact keeps_ack id expiries reports environment bindingId commandId
        service past settled
  | commandCompleted commandId output =>
      cases commandId with
      | none => exact triple_skip service past settled
      | some named => exact settled_complete settled environment named output
  | commandFailed commandId error =>
      cases commandId with
      | none => exact triple_skip service past settled
      | some named => exact settled_fail settled environment named error
  | fsResponse requestId ok result error =>
      exact (uneventful_filesystemResponse socket bindingId requestId ok
        result error).settled id expiries reports service past settled
  | unreadable => exact triple_skip service past settled
  | hello greeting => exact triple_skip service past settled
  | heartbeat => exact triple_skip service past settled
  | unknown => exact triple_skip service past settled

theorem settled_handle_bound
    (settled : Settled id expiries reports service past)
    (environment : Environment) (socket : SocketKey)
    (message : AgentMessage)
    (handled : handle environment socket message = fun service =>
      match service.bindings.lookup socket with
      | none => (service, [.closeAsked socket])
      | some bindingId =>
          ((updateStore fun store =>
            store.touch bindingId (environment.clock 0)).andThen
              (handleBound environment socket bindingId message)) service) :
    SettledAfter id expiries reports past
      (reportOf id service (.message environment socket message))
      (handle environment socket message service).1
      (handle environment socket message service).2 := by
  rw [handled, reportOf]
  dsimp only
  cases bound : service.bindings.lookup socket with
  | none =>
      have silent : message.report.bind (heard id none service) = none := by
        cases message.report with
        | none => rfl
        | some told => exact heard_unbound id service told
      rw [silent]
      exact (uneventful_emit fun event impossible =>
        by cases impossible).settled id expiries reports service past settled
  | some bindingId =>
      let touched : ServerAgentService :=
        { service with
          store := service.store.touch bindingId (environment.clock 0) }
      have touches : Uneventful (updateStore fun store =>
          store.touch bindingId (environment.clock 0)) :=
        uneventful_updateStore fun store => tables_touch store bindingId _
      have begun := touches.settled id expiries reports service past settled
      have begun : Settled id expiries reports touched past := by
        have same : past ++ (updateStore (fun store =>
            store.touch bindingId (environment.clock 0)) service).2 =
              past := List.append_nil past
        rw [same] at begun
        exact begun
      have done := @settled_handleBound _ _ _ _ id bindingId begun
        environment socket message
      have commands : touched.store.commands = service.store.commands :=
        (tables_touch service.store bindingId (environment.clock 0)).1
      have sameReport :
          message.report.bind (heard id (some bindingId) touched) =
            message.report.bind (heard id (some bindingId) service) := by
        cases message.report with
        | none => rfl
        | some told => exact heard_of_commands told commands
      rw [sameReport] at done
      exact done

theorem settled_serve
    (settled : Settled id expiries reports service past)
    (event : ServiceEvent) :
    SettledAfter id expiries reports past (reportOf id service event)
      (serve event service).1 (serve event service).2 := by
  cases event with
  | opened socket =>
      exact (uneventful_openSocket socket).settled id expiries reports
        service past settled
  | helloTimedOut socket =>
      exact (uneventful_helloTimeout socket).settled id expiries reports
        service past settled
  | message environment socket message =>
      cases message with
      | unreadable => exact triple_skip service past settled
      | hello greeting =>
          exact keeps_hello id expiries reports environment socket greeting
            service past settled
      | heartbeat => exact settled_handle_bound settled _ _ _ rfl
      | status runtime => exact settled_handle_bound settled _ _ _ rfl
      | log line => exact settled_handle_bound settled _ _ _ rfl
      | commandAck commandId => exact settled_handle_bound settled _ _ _ rfl
      | commandCompleted commandId output =>
          exact settled_handle_bound settled _ _ _ rfl
      | commandFailed commandId error =>
          exact settled_handle_bound settled _ _ _ rfl
      | fsResponse requestId ok result error =>
          exact settled_handle_bound settled _ _ _ rfl
      | unknown => exact settled_handle_bound settled _ _ _ rfl
  | closed environment socket =>
      exact keeps_close id expiries reports environment socket service past
        settled
  | createCommand environment newId bindingId type command =>
      exact keeps_createCommand id expiries reports environment newId
        bindingId type command service past settled
  | requestFilesystem environment request bindingId operation payload =>
      exact (uneventful_requestFilesystem environment request bindingId
        operation payload).settled id expiries reports service past settled
  | filesystemTimedOut request =>
      exact (uneventful_filesystemTimeout request).settled id expiries
        reports service past settled
  | restarted =>
      exact keeps_restart id expiries reports service past settled

/-- The service, what it has put out, and the reports of one command that it
has heard. -/
structure Watch where
  service : ServerAgentService
  past : List Effect
  reports : List CommandReport

def Watch.start : Watch :=
  ⟨ServerAgentService.new ServerAgentStore.empty, [], []⟩

def watchStep (id : String) (watch : Watch) (event : ServiceEvent) :
    Option (Watch × List Effect) :=
  some
    (⟨(serve event watch.service).1,
      watch.past ++ (serve event watch.service).2,
      watch.reports ++ (reportOf id watch.service event).toList⟩,
      (serve event watch.service).2)

/-- The log says of a command how it is stored. -/
def Agrees (event : ServerRuntimeEvent) (status : ServerCommandStatus) :
    Prop :=
  event.type = "command.succeeded" ∧ status = .succeeded ∨
    event.type = "command.failed" ∧ status = .failed

/-- A reported command is stored as succeeded if its first report was
`command.completed`, and its binding's log has exactly one terminal event,
which agrees. -/
def RecordedTruthfully (id : String) (watch : Watch) : Prop :=
  ∀ command, watch.service.store.getCommand id = some command →
    watch.reports ≠ [] →
      (command.status = .succeeded ↔
        watch.reports.head? = some .completed) ∧
        ∃ event : ServerRuntimeEvent,
          (recordedEvents command.bindingId watch.past).filter
              (isTerminalEvent id) = [event] ∧
            Agrees event command.status

/-- A report comes to an unfinished command, and does not fail it with an empty
text. -/
def ReportedOnce (id : String) (watch : Watch) (event : ServiceEvent) :
    Prop :=
  ∀ report, reportOf id watch.service event = some report →
    report ≠ .failed "" ∧
      ∀ command, watch.service.store.getCommand id = some command →
        ¬ command.status.terminal

theorem filter_recordedEvents
    (id bindingId : String) (past : List Effect) :
    (recordedEvents bindingId past).filter (isTerminalEvent id) =
      (terminalEvents id past).filter fun event =>
        event.bindingId = bindingId := by
  induction past with
  | nil => rfl
  | cons effect rest ih =>
      have step (events : List Effect) (tail : List Effect) :
          recordedEvents bindingId (events ++ tail) =
            recordedEvents bindingId events ++
              recordedEvents bindingId tail :=
        recordedEvents_append bindingId events tail
      have first := step [effect] rest
      have other := terminalEvents_append id [effect] rest
      rw [List.singleton_append] at first other
      rw [first, other, List.filter_append, List.filter_append,
        ih]
      congr 1
      cases effect with
      | published event =>
          by_cases owned : event.bindingId = bindingId
          · by_cases ends : isTerminalEvent id event = true
            · simp [recordedEvents, terminalEvents, owned, ends]
            · simp [recordedEvents, terminalEvents, owned, ends]
          · by_cases ends : isTerminalEvent id event = true
            · simp [recordedEvents, terminalEvents, owned, ends]
            · simp [recordedEvents, terminalEvents, owned, ends]
      | _ => rfl

/-- At most one report, which does not fail the command with an empty text, and
no expiry before it. -/
structure Once
    (expiries : Nat) (reports : List CommandReport) : Prop where
  single : reports ≠ [] → ∃ report, reports = [report] ∧
    report ≠ .failed ""
  unexpired : reports ≠ [] → expiries = 0

theorem recordedTruthfully_of_once
    (settled : Settled id expiries watch.reports watch.service watch.past)
    (once : Once expiries watch.reports) : RecordedTruthfully id watch := by
  intro command found nonempty
  obtain ⟨member, named⟩ := getCommand_spec found
  obtain ⟨report, reports, notEmpty⟩ := once.single nonempty
  have none := once.unexpired nonempty
  have told := settled.2
  obtain ⟨counted, expired, announced, events, -, announces⟩ :=
    told.announced
  have count := counted nonempty
  rw [reports] at announces count
  cases announces with
  | cons announces rest =>
      rename_i event others
      cases rest
      have alone : expired = [] := by
        rw [events, none] at count
        simp only [List.length_append, List.length_cons,
          List.length_nil] at count
        apply List.length_eq_zero_iff.mp
        omega
      rw [alone, List.nil_append] at events
      have owner := told.owners command member named event (by
        rw [events]
        exact List.mem_singleton_self event)
      have status := told.status command member named
      rw [events] at status
      have outcome : command.status.outcome = some event.storedAs := status
      have log : (recordedEvents command.bindingId watch.past).filter
          (isTerminalEvent id) = [event] := by
        rw [filter_recordedEvents, events, List.filter_cons,
          if_pos (decide_eq_true owner)]
        rfl
      rw [reports]
      cases report with
      | completed =>
          have type : event.type = "command.succeeded" := announces
          have well : event.storedAs = true := decide_eq_true (Or.inl type)
          have succeeded : command.status = .succeeded := by
            rw [well] at outcome
            cases shape : command.status <;> rw [shape] at outcome <;>
              first | rfl | cases outcome
          exact ⟨⟨fun _ => rfl, fun _ => succeeded⟩, event, log,
            Or.inl ⟨type, succeeded⟩⟩
      | failed error =>
          obtain ⟨type, text⟩ := announces
          have visible : event.message ≠ "" := by
            intro empty
            exact notEmpty (congrArg CommandReport.failed (text.mp empty))
          have badly : event.storedAs = false := by
            apply decide_eq_false
            rintro (other | empty)
            · rw [type] at other
              exact absurd other (by decide)
            · exact visible empty
          have failed : command.status = .failed := by
            rw [badly] at outcome
            cases shape : command.status <;> rw [shape] at outcome <;>
              first | rfl | cases outcome
          refine ⟨⟨?_, ?_⟩, event, log, Or.inr ⟨type, failed⟩⟩
          · intro succeeded
            rw [failed] at succeeded
            cases succeeded
          · intro completed
            cases completed

/-- What is known along a run: the invariant of the service, and that the
command was reported once. -/
def Followed (id : String) (watch : Watch) : Prop :=
  ∃ expiries, Settled id expiries watch.reports watch.service watch.past ∧
    Once expiries watch.reports

theorem followed_start (id : String) : Followed id Watch.start := by
  refine ⟨0, ⟨⟨?_, ?_⟩, ?_⟩, ?_, ?_⟩
  · exact List.nodup_nil
  · intro bindingId
    constructor
    · exact List.Pairwise.nil
    · intro event impossible
      cases impossible
    · exact List.suffix_rfl
    · exact Or.inl rfl
    · intro before first middle second after impossible
      cases before with
      | nil => cases impossible
      | cons earlier rest => cases impossible
  · constructor
    · intro _
      rfl
    · intro command impossible
      cases impossible
    · intro command impossible
      cases impossible
    · refine ⟨fun nonempty => absurd rfl nonempty, [], [], rfl, Or.inl rfl, ?_⟩
      exact List.Forall₂.nil
  · intro nonempty
    exact absurd rfl nonempty
  · intro _
    rfl

theorem reportOf_spec
    {event : ServiceEvent}
    (told : reportOf id service event = some report) :
    ∃ command, service.store.getCommand id = some command := by
  cases event with
  | message environment socket message =>
      obtain ⟨named, -, listened⟩ := Option.bind_eq_some_iff.mp told
      unfold heard at listened
      cases found : service.store.getCommand id with
      | none =>
          rw [found] at listened
          cases listened
      | some command => exact ⟨command, rfl⟩
  | _ => cases told

theorem terminal_iff_outcome (status : ServerCommandStatus) :
    status.terminal ↔ status.outcome ≠ none := by
  cases status <;> decide

theorem Told.unfinished
    {commands : List ServerCommand}
    (told : Told id expiries reports commands events)
    (member : command ∈ commands) (same : command.id = id) :
    ¬ command.status.terminal ↔ events = [] := by
  rw [terminal_iff_outcome, not_not, told.status command member same,
    Option.map_eq_none_iff, List.head?_eq_none_iff]

theorem RecordedTruthfully.event
    (truthful : RecordedTruthfully id watch)
    (settled : Settled id expiries watch.reports watch.service watch.past)
    (found : watch.service.store.getCommand id = some command)
    (nonempty : watch.reports ≠ []) :
    ∃ event, terminalEvents id watch.past = [event] ∧
      Agrees event command.status := by
  obtain ⟨member, named⟩ := getCommand_spec found
  obtain ⟨-, event, log, agrees⟩ := truthful command found nonempty
  refine ⟨event, ?_, agrees⟩
  rw [filter_recordedEvents] at log
  have all : (terminalEvents id watch.past).filter
      (fun event => event.bindingId = command.bindingId) =
        terminalEvents id watch.past := by
    apply List.filter_eq_self.mpr
    intro other present
    exact decide_eq_true
      (settled.2.owners command member named other present)
  exact all.symm.trans log

theorem Settled.found
    (settled : Settled id expiries reports service past)
    (nonempty : reports ≠ []) :
    ∃ command, service.store.getCommand id = some command := by
  have stored : id ∈ service.store.commands.map ServerCommand.id := by
    by_contra absent
    have fewer := settled.2.announced.length_le
    rw [settled.2.unknown absent] at fewer
    exact nonempty (List.length_eq_zero_iff.mp (Nat.le_zero.mp fewer))
  obtain ⟨command, member, same⟩ := List.mem_map.mp stored
  apply Option.isSome_iff_exists.mp
  apply List.find?_isSome.mpr
  exact ⟨command, member, decide_eq_true same⟩

theorem followed_keeps
    {event : ServiceEvent}
    (followed : Followed id watch) (met : ReportedOnce id watch event) :
    Followed id
      ⟨(serve event watch.service).1,
        watch.past ++ (serve event watch.service).2,
        watch.reports ++ (reportOf id watch.service event).toList⟩ := by
  obtain ⟨expiries, settled, once⟩ := followed
  have after := settled_serve settled event
  cases told : reportOf id watch.service event with
  | none =>
      rw [told] at after
      refine ⟨expiries, ?_, ?_⟩
      · rw [Option.toList_none, List.append_nil]
        exact after
      · rw [Option.toList_none, List.append_nil]
        exact once
  | some report =>
      rw [told] at after
      obtain ⟨notEmpty, unfinished⟩ := met report told
      obtain ⟨command, found⟩ := reportOf_spec told
      obtain ⟨member, named⟩ := getCommand_spec found
      have quiet : terminalEvents id watch.past = [] :=
        (settled.2.unfinished member named).mp (unfinished command found)
      have unreported : watch.reports = [] := by
        have fewer := settled.2.announced.length_le
        rw [quiet] at fewer
        exact List.length_eq_zero_iff.mp (Nat.le_zero.mp fewer)
      refine ⟨_, after, ?_⟩
      rw [quiet, unreported]
      constructor
      · intro _
        exact ⟨report, rfl, notEmpty⟩
      · intro _
        rfl

theorem reportedOnce_of_truthful
    {event : ServiceEvent}
    (followed : Followed id watch)
    (truthful : RecordedTruthfully id
      ⟨(serve event watch.service).1,
        watch.past ++ (serve event watch.service).2,
        watch.reports ++ (reportOf id watch.service event).toList⟩) :
    ReportedOnce id watch event := by
  obtain ⟨expiries, settled, once⟩ := followed
  have after := settled_serve settled event
  intro report told
  rw [told] at after truthful
  let next : Watch :=
    ⟨(serve event watch.service).1,
      watch.past ++ (serve event watch.service).2,
      watch.reports ++ [report]⟩
  have settledNext : Settled id
      ((terminalEvents id watch.past).length - watch.reports.length)
      next.reports next.service next.past := after
  have truthfulNext : RecordedTruthfully id next := truthful
  have nonempty : next.reports ≠ [] :=
    List.append_ne_nil_of_right_ne_nil _ (List.cons_ne_nil _ _)
  obtain ⟨later, foundLater⟩ := settledNext.found nonempty
  obtain ⟨event, single, agrees⟩ :=
    truthfulNext.event settledNext foundLater nonempty
  obtain ⟨counted, expired, announcedEvents, together, -, announces⟩ :=
    settledNext.2.announced
  have count := counted nonempty
  rw [single] at count together
  have reportsLength : next.reports.length = watch.reports.length + 1 :=
    List.length_append
  have earlier := settled.2.announced.length_le
  rw [reportsLength, List.length_singleton] at count
  have quiet : terminalEvents id watch.past = [] := by
    apply List.length_eq_zero_iff.mp
    omega
  have unreported : watch.reports = [] := by
    apply List.length_eq_zero_iff.mp
    omega
  refine ⟨?_, ?_⟩
  · intro empty
    have reports : next.reports = [.failed ""] := by
      change watch.reports ++ [report] = _
      rw [unreported, empty]
      rfl
    rw [reports] at announces
    cases announces with
    | cons first rest =>
        rename_i announced others
        cases rest
        obtain ⟨type, text⟩ := first
        have same : announced = event := by
          have last := congrArg List.getLast? together
          rw [List.getLast?_concat, List.getLast?_singleton] at last
          exact (Option.some.inj last).symm
        obtain ⟨member, named⟩ := getCommand_spec foundLater
        have status := settledNext.2.status later member named
        rw [single] at status
        have stored : event.storedAs = true := by
          apply decide_eq_true
          right
          rw [← same]
          exact text.mpr rfl
        have outcome : later.status.outcome = some true :=
          status.trans (congrArg some stored)
        rcases agrees with ⟨succeeded, -⟩ | ⟨-, failed⟩
        · rw [← same, type] at succeeded
          exact absurd succeeded (by decide)
        · rw [failed] at outcome
          cases outcome
  · intro command found
    obtain ⟨member, named⟩ := getCommand_spec found
    exact (settled.2.unfinished member named).mpr quiet

theorem settled_execute
    {events : List ServiceEvent} {final : Watch}
    {outputs : List Effect}
    (run : execute (watchStep id) Watch.start events =
      some (final, outputs)) :
    ∃ expiries,
      Settled id expiries final.reports final.service final.past := by
  refine execute_induction
    (motive := fun watch _ => ∃ expiries,
      Settled id expiries watch.reports watch.service watch.past)
    ?_ ?_ run
  · rintro watch past event next now ⟨expiries, settled⟩ equality
    cases equality
    have after := settled_serve settled event
    cases told : reportOf id watch.service event with
    | none =>
        rw [told] at after
        refine ⟨expiries, ?_⟩
        rw [Option.toList_none, List.append_nil]
        exact after
    | some report =>
        rw [told] at after
        exact ⟨_, after⟩
  · obtain ⟨expiries, settled, once⟩ := followed_start id
    exact ⟨expiries, settled⟩

/-- The record of a command is truthful at every moment of a run exactly when
every report of it comes to an unfinished command and does not fail it with an
empty text; and the event table holds the log, or at least its newest rows. -/
theorem terminalRecord_iff
    {id : String} {events : List ServiceEvent} {final : Watch}
    {outputs : List Effect}
    (run : execute (watchStep id) Watch.start events =
      some (final, outputs)) :
    ((∀ passed rest reached made, events = passed ++ rest →
        execute (watchStep id) Watch.start passed = some (reached, made) →
          RecordedTruthfully id reached) ↔
      Meets (watchStep id) (ReportedOnce id) Watch.start events) ∧
      ∀ bindingId,
        rowsOf final.service.store.events bindingId <:+
            recordedEvents bindingId final.past ∧
          (rowsOf final.service.store.events bindingId =
              recordedEvents bindingId final.past ∨
            keptEvents ≤
              (rowsOf final.service.store.events bindingId).length) := by
  refine ⟨?_, ?_⟩
  · have property : ∀ watch, Followed id watch →
        RecordedTruthfully id watch := by
      rintro watch ⟨expiries, settled, once⟩
      exact recordedTruthfully_of_once settled once
    refine passes_iff_meets property ?_ ?_ (followed_start id) run
    · intro watch event next now followed equality met
      cases equality
      exact followed_keeps followed met
    · intro watch event next now followed equality truthful
      cases equality
      exact reportedOnce_of_truthful followed truthful
  · obtain ⟨expiries, ledger, told⟩ := settled_execute run
    intro bindingId
    have table := ledger.table bindingId
    exact ⟨table.suffix, table.complete⟩

/-- What a record is judged by: the status of the command, and the types of its
terminal events in the log of its binding. -/
def Watch.record
    (id : String) (watch : Watch) :
    Option (ServerCommandStatus × List String) :=
  (watch.service.store.getCommand id).map fun command =>
    (command.status,
      ((recordedEvents command.bindingId watch.past).filter
        (isTerminalEvent id)).map ServerRuntimeEvent.type)

theorem RecordedTruthfully.record
    {status : ServerCommandStatus}
    {types : List String}
    (truthful : RecordedTruthfully id watch)
    (reported : watch.reports ≠ [])
    (record : watch.record id = some (status, types)) :
    status = .succeeded ∧ types = ["command.succeeded"] ∨
      status = .failed ∧ types = ["command.failed"] := by
  obtain ⟨command, found, shown⟩ := Option.map_eq_some_iff.mp record
  obtain ⟨-, event, log, agrees⟩ := truthful command found reported
  rw [log] at shown
  cases shown
  rcases agrees with ⟨type, succeeded⟩ | ⟨type, failed⟩
  · left
    exact ⟨succeeded, congrArg (fun type => [type]) type⟩
  · right
    exact ⟨failed, congrArg (fun type => [type]) type⟩

/-- A command is started, and its agent reports this. -/
def reportedEvents (report : AgentMessage) : List ServiceEvent :=
  [.message (steadyEnvironment 5) 1 agentHello,
    .createCommand (steadyEnvironment 10) "c1" "survival" .serviceStart none,
    .message (steadyEnvironment 20) 1 report]

theorem single_report_recorded :
    ∃ final outputs,
      execute (watchStep "c1") Watch.start
          (reportedEvents (.commandCompleted (some "c1") (some "started"))) =
          some (final, outputs) ∧
        ((∀ passed rest reached made,
          reportedEvents (.commandCompleted (some "c1") (some "started")) =
              passed ++ rest →
            execute (watchStep "c1") Watch.start passed =
                some (reached, made) →
              RecordedTruthfully "c1" reached) ↔
          Meets (watchStep "c1") (ReportedOnce "c1") Watch.start
            (reportedEvents
              (.commandCompleted (some "c1") (some "started")))) ∧
        final.record "c1" = some (.succeeded, ["command.succeeded"]) := by
  have reached :
      (execute (watchStep "c1") Watch.start
        (reportedEvents
          (.commandCompleted (some "c1") (some "started")))).map
          (fun result => result.1.record "c1") =
        some (some (.succeeded, ["command.succeeded"])) := by
    decide +kernel
  obtain ⟨⟨final, outputs⟩, run, record⟩ :=
    Option.map_eq_some_iff.mp reached
  exact ⟨final, outputs, run, (terminalRecord_iff run).1, record⟩

/-- The connection is replaced after the report, which the agent then sends
again. -/
def replayedEvents : List ServiceEvent :=
  reportedEvents (.commandCompleted (some "c1") (some "started")) ++
    [.message (steadyEnvironment 30) 2 agentHello,
      .message (steadyEnvironment 40) 2
        (.commandCompleted (some "c1") (some "started"))]

theorem replayed_report_recorded_twice :
    ∃ final outputs,
      execute (watchStep "c1") Watch.start replayedEvents =
          some (final, outputs) ∧
        final.record "c1" = some
          (.succeeded, ["command.succeeded", "command.succeeded"]) ∧
        ¬ RecordedTruthfully "c1" final := by
  have reached :
      (execute (watchStep "c1") Watch.start replayedEvents).map
          (fun result => (result.1.record "c1", result.1.reports)) =
        some (some (.succeeded, ["command.succeeded", "command.succeeded"]),
          [.completed, .completed]) := by
    decide +kernel
  obtain ⟨⟨final, outputs⟩, run, answer⟩ :=
    Option.map_eq_some_iff.mp reached
  obtain ⟨record, reports⟩ := Prod.mk.inj answer
  refine ⟨final, outputs, run, record, ?_⟩
  intro truthful
  have reported : final.reports ≠ [] := by
    rw [reports]
    decide
  rcases truthful.record reported record with ⟨-, once⟩ | ⟨failed, -⟩
  · exact absurd once (by decide)
  · cases failed

theorem empty_failure_stored_as_success :
    ∃ final outputs,
      execute (watchStep "c1") Watch.start
          (reportedEvents (.commandFailed (some "c1") (some ""))) =
          some (final, outputs) ∧
        final.record "c1" = some (.succeeded, ["command.failed"]) := by
  have reached :
      (execute (watchStep "c1") Watch.start
        (reportedEvents (.commandFailed (some "c1") (some "")))).map
          (fun result => result.1.record "c1") =
        some (some (.succeeded, ["command.failed"])) := by
    decide +kernel
  obtain ⟨⟨final, outputs⟩, run, record⟩ :=
    Option.map_eq_some_iff.mp reached
  exact ⟨final, outputs, run, record⟩

end GravitPanel.Servers
