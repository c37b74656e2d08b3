import GravitPanel.Core.Execution
import GravitPanel.Core.LogWindow
import GravitPanel.Servers.AgentStore

/-!
# The console of a server in the browser

`server-browser-events.service.ts` sends the events of a binding, and
`ServerRuntimeConsole.vue` collects them and shows them frame by frame.  A
connection starts over with an empty console.
-/

namespace GravitPanel.Servers

open GravitPanel.Execution LogWindow

def ServerRuntimeEvent.sent (event : ServerRuntimeEvent) :
    ServerRuntimeEvent :=
  { event with cursor := none }

@[irreducible]
def consoleLimit : Nat := 500

abbrev ConsoleMessage := Message ServerRuntimeEvent

/-- `open` of the service: it subscribes, and then sends the history. -/
def ServerAgentStore.openConsole (store : ServerAgentStore)
    (bindingId : String) : List ConsoleMessage :=
  [.history ((store.listEvents bindingId consoleLimit).map
    ServerRuntimeEvent.sent)]

/-- Without a connection, before the socket opens, with what is on its way
through an open one, and until the next attempt. -/
inductive ConsolePhase where
  | hidden
  | connecting
  | live (messages : List ConsoleMessage)
  | reconnecting
  deriving DecidableEq, Repr

/-- `frame` tells whether a flush is scheduled. -/
structure ServerConsole where
  bindingId : String
  events : List ServerRuntimeEvent
  pendingEvents : List ServerRuntimeEvent
  seenSequences : List Nat
  frame : Bool
  phase : ConsolePhase
  deriving DecidableEq, Repr

namespace ServerConsole

def empty (bindingId : String) : ServerConsole :=
  ⟨bindingId, [], [], [], false, .hidden⟩

def connect (console : ServerConsole) : ServerConsole :=
  { console with
    events := []
    pendingEvents := []
    seenSequences := []
    phase := .connecting }

def disconnect (console : ServerConsole) : ServerConsole :=
  { console with
    pendingEvents := []
    frame := false
    phase := .hidden }

/-- The watcher of the properties, whichever of them has changed. -/
def watched (bindingId : String) (active : Bool) (console : ServerConsole) :
    ServerConsole :=
  if active then connect { console with bindingId }
  else disconnect { console with bindingId }

def applyHistory (history : List ServerRuntimeEvent)
    (console : ServerConsole) : ServerConsole :=
  let next := newest consoleLimit (sorted ServerRuntimeEvent.sequence
    (history.filter fun event => event.bindingId = console.bindingId))
  { console with
    events := next
    seenSequences := next.map ServerRuntimeEvent.sequence }

def flushPendingEvents (console : ServerConsole) : ServerConsole :=
  if console.pendingEvents = [] then
    { console with frame := false }
  else
    let next := newest consoleLimit (sorted ServerRuntimeEvent.sequence
      (console.events ++ console.pendingEvents))
    { console with
      frame := false
      events := next
      pendingEvents := []
      seenSequences := next.map ServerRuntimeEvent.sequence }

def enqueueEvent (event : ServerRuntimeEvent) (console : ServerConsole) :
    ServerConsole :=
  if event.bindingId ≠ console.bindingId ∨
      event.sequence ∈ console.seenSequences then
    console
  else
    { console with
      seenSequences := event.sequence :: console.seenSequences
      pendingEvents := console.pendingEvents ++ [event]
      frame := true }

def received : ConsoleMessage → ServerConsole → ServerConsole
  | .history events => applyHistory events
  | .item event => enqueueEvent event

/-- The listener of the subscription. -/
def published (event : ServerRuntimeEvent) (console : ServerConsole) :
    ServerConsole :=
  match console.phase with
  | .live messages =>
      if event.bindingId = console.bindingId then
        { console with phase := .live (messages ++ [.item event.sent]) }
      else
        console
  | _ => console

end ServerConsole

structure ConsoleRun where
  store : ServerAgentStore
  console : ServerConsole

inductive ConsoleEvent where
  | recorded (bindingId type message : String)
      (commandId cursor : Option String) (createdAt : EventTime)
  | watched (bindingId : String) (active : Bool)
  | opened
  | delivered
  | flushed
  | lost
  | retried

/-- A stored event is published; an ignored one is not. -/
def consoleRecorded (run : ConsoleRun) (bindingId type message : String)
    (commandId cursor : Option String) (createdAt : EventTime) :
    ConsoleRun × List ServerRuntimeEvent :=
  match run.store.appendEvent bindingId type message commandId cursor
      createdAt with
  | (store, none) => ({ run with store }, [])
  | (store, some event) =>
      (⟨store, run.console.published event⟩, [event])

def ConsoleRun.withPhase (run : ConsoleRun) (phase : ConsolePhase) :
    ConsoleRun :=
  { run with console := { run.console with phase } }

/-- The outputs are the events that are recorded.  A connection breaks between
any two steps, and what is on its way is lost. -/
def consoleStep (run : ConsoleRun) :
    ConsoleEvent → Option (ConsoleRun × List ServerRuntimeEvent)
  | .recorded bindingId type message commandId cursor createdAt =>
      some (consoleRecorded run bindingId type message commandId cursor
        createdAt)
  | .watched bindingId active =>
      some ({ run with console := run.console.watched bindingId active }, [])
  | .opened =>
      match run.console.phase with
      | .connecting =>
          some (run.withPhase
            (.live (run.store.openConsole run.console.bindingId)), [])
      | _ => none
  | .delivered =>
      match run.console.phase with
      | .live (message :: rest) =>
          some ({ run with
            console := ServerConsole.received message
              { run.console with phase := .live rest } }, [])
      | _ => none
  | .flushed =>
      if run.console.frame then
        some ({ run with console := run.console.flushPendingEvents }, [])
      else
        none
  | .lost =>
      match run.console.phase with
      | .connecting => some (run.withPhase .reconnecting, [])
      | .live _ => some (run.withPhase .reconnecting, [])
      | _ => none
  | .retried =>
      match run.console.phase with
      | .reconnecting =>
          some ({ run with console := run.console.connect }, [])
      | _ => none

end GravitPanel.Servers
