import Mathlib.Data.List.AList
import Mathlib.Data.List.Sort
import GravitPanel.Core.JavaScript

/-!
# The tables behind the server agents

`server-agent.store.ts` and its tables in `db/schema.ts`.  A table is the list
of its rows in `rowid` order, a query reads or rewrites that list, and clock
readings are milliseconds.  Bindings are neither added nor removed while these
tables are used.
-/

namespace GravitPanel.Servers

inductive ServerCommandType where
  | serviceStart
  | serviceStop
  | serviceRestart
  | consoleExecute
  deriving DecidableEq, Repr

def ServerCommandType.text : ServerCommandType → String
  | .serviceStart => "service.start"
  | .serviceStop => "service.stop"
  | .serviceRestart => "service.restart"
  | .consoleExecute => "console.execute"

inductive ServerCommandStatus where
  | queued
  | delivered
  | running
  | succeeded
  | failed
  deriving DecidableEq, Repr

namespace ServerCommandStatus

/-- `status IN ('delivered', 'running')`. -/
def active : ServerCommandStatus → Bool
  | .delivered => true
  | .running => true
  | _ => false

/-- `status IN ('succeeded', 'failed')`. -/
def terminal : ServerCommandStatus → Bool
  | .succeeded => true
  | .failed => true
  | _ => false

end ServerCommandStatus

/-- A row of `server_commands`; the payload holds at most a `command`. -/
structure ServerCommand where
  id : String
  bindingId : String
  type : ServerCommandType
  payload : Option String
  status : ServerCommandStatus
  output : Option String
  error : Option String
  createdAt : Nat
  deliveredAt : Option Nat
  startedAt : Option Nat
  finishedAt : Option Nat
  deriving DecidableEq, Repr

/-- The `created_at` of an event: the panel's clock, or the text that an agent
gave for a journal line. -/
inductive EventTime where
  | clock (now : Nat)
  | given (text : String)
  deriving DecidableEq, Repr

/-- A row of `server_runtime_events`. -/
structure ServerRuntimeEvent where
  sequence : Nat
  bindingId : String
  commandId : Option String
  type : String
  message : String
  cursor : Option String
  createdAt : EventTime
  deriving DecidableEq, Repr

structure ServerServiceRuntime where
  state : String
  subState : String
  mainPid : Int
  updatedAt : String
  deriving DecidableEq, Repr

/-- A row of `server_agents`. -/
structure AgentRow where
  agentVersion : String
  hostname : String
  capabilities : List String
  runtime : Option ServerServiceRuntime
  connectedAt : Nat
  lastSeenAt : Nat
  deriving DecidableEq, Repr

/-- What `runtime` reports about a binding. -/
structure ServerRuntimeState where
  bindingId : String
  connected : Bool
  agentVersion : Option String
  hostname : Option String
  capabilities : List String
  lastSeenAt : Option Nat
  runtime : Option ServerServiceRuntime
  deriving DecidableEq, Repr

/-- `sequence` is the last value that `AUTOINCREMENT` handed out. -/
structure ServerAgentStore where
  agents : AList fun _ : String => AgentRow
  commands : List ServerCommand
  events : List ServerRuntimeEvent
  sequence : Nat

namespace ServerAgentStore

def empty : ServerAgentStore := ⟨∅, [], [], 0⟩

def saveAgent
    (store : ServerAgentStore) (bindingId agentVersion hostname : String)
    (capabilities : List String) (now : Nat) : ServerAgentStore :=
  { store with
    agents := store.agents.insert bindingId
      { agentVersion, hostname, capabilities
        runtime := (store.agents.lookup bindingId).bind AgentRow.runtime
        connectedAt := now
        lastSeenAt := now } }

def touch
    (store : ServerAgentStore) (bindingId : String) (now : Nat) :
    ServerAgentStore :=
  match store.agents.lookup bindingId with
  | none => store
  | some row =>
      { store with
        agents := store.agents.insert bindingId { row with lastSeenAt := now } }

def saveRuntime
    (store : ServerAgentStore) (bindingId : String)
    (runtime : ServerServiceRuntime) (now : Nat) :
    ServerAgentStore :=
  match store.agents.lookup bindingId with
  | none => store
  | some row =>
      { store with
        agents := store.agents.insert bindingId
          { row with runtime := some runtime, lastSeenAt := now } }

def runtime
    (store : ServerAgentStore) (bindingId : String) (connected : Bool) :
    ServerRuntimeState :=
  let row := store.agents.lookup bindingId
  { bindingId, connected
    agentVersion := row.map AgentRow.agentVersion
    hostname := row.map AgentRow.hostname
    capabilities := (row.map AgentRow.capabilities).getD []
    lastSeenAt := row.map AgentRow.lastSeenAt
    runtime := row.bind AgentRow.runtime }

/-- The row that `createCommand` inserts. -/
def newCommand
    (id bindingId : String) (type : ServerCommandType)
    (payload : Option String) (now : Nat) : ServerCommand where
  id := id
  bindingId := bindingId
  type := type
  payload := payload
  status := .queued
  output := none
  error := none
  createdAt := now
  deliveredAt := none
  startedAt := none
  finishedAt := none

/-- Insert a command under a fresh id; an id that exists violates the primary
key. -/
def createCommand
    (store : ServerAgentStore) (id bindingId : String)
    (type : ServerCommandType) (payload : Option String)
    (now : Nat) : Option (ServerAgentStore × ServerCommand) :=
  if id ∈ store.commands.map ServerCommand.id then
    none
  else
    let command := newCommand id bindingId type payload now
    some ({ store with commands := store.commands ++ [command] }, command)

def getCommand (store : ServerAgentStore) (id : String) :
    Option ServerCommand :=
  store.commands.find? fun command => command.id = id

/-- `ORDER BY created_at ASC`. -/
def byCreation (commands : List ServerCommand) : List ServerCommand :=
  commands.insertionSort fun first second =>
    first.createdAt ≤ second.createdAt

/-- The queued commands of a binding in the order of their creation. -/
def pendingRows (commands : List ServerCommand) (bindingId : String) :
    List ServerCommand :=
  byCreation (commands.filter fun command =>
    command.bindingId = bindingId ∧ command.status = .queued)

def activeRow (commands : List ServerCommand) (bindingId : String) :
    Option ServerCommand :=
  (byCreation (commands.filter fun command =>
    command.bindingId = bindingId ∧ command.status.active)).head?

def pendingCommands (store : ServerAgentStore) (bindingId : String) :
    List ServerCommand :=
  pendingRows store.commands bindingId

def activeCommand (store : ServerAgentStore) (bindingId : String) :
    Option ServerCommand :=
  activeRow store.commands bindingId

/-- An `UPDATE` that changes each row by itself. -/
def updateCommands
    (store : ServerAgentStore) (row : ServerCommand → ServerCommand) :
    ServerAgentStore :=
  { store with commands := store.commands.map row }

def requeueRow (bindingId : Option String) (command : ServerCommand) :
    ServerCommand :=
  if command.status.active ∧
      (bindingId.getD "" = "" ∨ bindingId = some command.bindingId) then
    { command with status := .queued, deliveredAt := none }
  else
    command

/-- Requeue the active commands of one binding, or of all when no binding id
is given. -/
def requeueActive (store : ServerAgentStore) (bindingId : Option String) :
    ServerAgentStore :=
  store.updateCommands (requeueRow bindingId)

def deliveredRow
    (id : String) (now : Nat) (command : ServerCommand) :
    ServerCommand :=
  if command.id = id ∧ command.status = .queued then
    { command with status := .delivered, deliveredAt := some now }
  else
    command

def markDelivered
    (store : ServerAgentStore) (id : String) (now : Nat) :
    ServerAgentStore :=
  store.updateCommands (deliveredRow id now)

def runningRow
    (id : String) (now : Nat) (command : ServerCommand) :
    ServerCommand :=
  if command.id = id ∧
      (command.status = .queued ∨ command.status = .delivered) then
    { command with
      status := .running
      startedAt := some (command.startedAt.getD now) }
  else
    command

def markRunning
    (store : ServerAgentStore) (id : String) (now : Nat) :
    ServerAgentStore :=
  store.updateCommands (runningRow id now)

/-- An empty error text counts as success. -/
def finishedRow
    (id : String) (output error : Option String) (now : Nat)
    (command : ServerCommand) : ServerCommand :=
  if command.id = id ∧ ¬ command.status.terminal then
    { command with
      status :=
        if error = none ∨ error = some "" then .succeeded else .failed
      output := output.map (JavaScript.slice 65536)
      error := error.map (JavaScript.slice 4000)
      startedAt := some (command.startedAt.getD now)
      finishedAt := some now }
  else
    command

def finishCommand
    (store : ServerAgentStore) (id : String) (output error : Option String)
    (now : Nat) : ServerAgentStore :=
  store.updateCommands (finishedRow id output error now)

def keptEvents : Nat := 2000

/-- The sequences of `ORDER BY sequence DESC LIMIT 2000`. -/
def newestSequences
    (events : List ServerRuntimeEvent) (bindingId : String) : List Nat :=
  (((events.filter fun event => event.bindingId = bindingId).reverse).take
    keptEvents).map ServerRuntimeEvent.sequence

/-- Delete the events of a binding that are not among its newest. -/
def pruneEvents
    (events : List ServerRuntimeEvent) (bindingId : String) :
    List ServerRuntimeEvent :=
  events.filter fun event =>
    event.bindingId ≠ bindingId ∨
      event.sequence ∈ newestSequences events bindingId

/-- `cursor?.slice(0, 2000) || null`. -/
def storedCursor (cursor : Option String) : Option String :=
  match cursor with
  | none => none
  | some text =>
      if JavaScript.slice 2000 text = "" then
        none
      else
        some (JavaScript.slice 2000 text)

/-- The unique index over `(binding_id, cursor)` holds the cursor already. -/
def cursorTaken
    (events : List ServerRuntimeEvent) (bindingId : String) :
    Option String → Bool
  | none => false
  | some cursor =>
      events.any fun event =>
        event.bindingId = bindingId ∧ event.cursor = some cursor

/-- `INSERT OR IGNORE` an event and prune the binding's oldest ones. -/
def appendEvent
    (store : ServerAgentStore) (bindingId type message : String)
    (commandId cursor : Option String) (createdAt : EventTime) :
    ServerAgentStore × Option ServerRuntimeEvent :=
  if cursorTaken store.events bindingId (storedCursor cursor) then
    (store, none)
  else
    let event : ServerRuntimeEvent :=
      { sequence := store.sequence + 1
        bindingId
        commandId
        type := JavaScript.slice 64 type
        message := JavaScript.slice 16384 message
        cursor := storedCursor cursor
        createdAt }
    ({ store with
        events := pruneEvents (store.events ++ [event]) bindingId
        sequence := store.sequence + 1 },
      some event)

/-- The newest events of a binding, oldest first. -/
def listEvents
    (store : ServerAgentStore) (bindingId : String) (limit : Nat) :
    List ServerRuntimeEvent :=
  (((store.events.filter fun event =>
    event.bindingId = bindingId).reverse).take limit).reverse

end ServerAgentStore

end GravitPanel.Servers
