import GravitPanel.Core.Execution
import GravitPanel.Agent.CacheInvariant
import GravitPanel.Agent.CommandLoop
import GravitPanel.Servers.EventTable

/-!
# The journal between agent and panel

The journal sender of the agent (`streamJournal`, `deliverJournalLine`,
`sendLog` and `saveJournalCursor` in `agent/`) composed with the `log` handler
of the panel.  A line that was written to a connection may reach the panel late
or never, an acknowledgement may be lost, and the streams of several sessions
run side by side.
-/

namespace GravitPanel.Journal

open GravitPanel.Agent GravitPanel.Servers
open ServerAgentService

/-- The `logLine` that `parseJournalEntry` makes of a journal entry. -/
structure JournalLine where
  cursor : String
  createdAt : String
  stream : String
  message : String
  deriving DecidableEq, Repr

def JournalLine.log (line : JournalLine) : LogLine :=
  ⟨line.message, some line.stream, some line.cursor, some line.createdAt⟩

/-- Where the stream of a session stands: between two runs of `journalctl`,
before the next line of a run, inside `sendLog`, or between `sendLog` and
`persistCursor`. -/
inductive Stream where
  | waiting
  | reading (next : Nat)
  | sending (line : Nat) (acked : Bool)
  | acknowledged (line : Nat)
  deriving DecidableEq, Repr

structure AgentProcess where
  cache : CommandResultCache
  streams : AList fun _ : SocketKey => Stream

/-- `written` and `acks` are the log messages and acknowledgements that were
written to a connection; `starts` tells where the runs of `journalctl` without
a cursor began. -/
structure System where
  panel : ServerAgentService
  files : StateFiles
  agent : Option AgentProcess
  written : List (SocketKey × LogLine)
  acks : List (SocketKey × String)
  starts : List Nat

def System.start
    (store : ServerAgentStore) (commands : Option PersistedCommandState) :
    System where
  panel := ServerAgentService.new store
  files := ⟨commands, none⟩
  agent := none
  written := []
  acks := []
  starts := []

inductive JournalEvent where
  | agentStarts (now : String) (commandsOutcome cursorOutcome : WriteOutcome)
  | agentStops
  | connects (socket : SocketKey)
  | journalctlStarts (socket : SocketKey) (first : Nat)
  | lineRead (socket : SocketKey)
  | ackArrives (socket : SocketKey) (cursor : String)
  | sendReturns (socket : SocketKey)
  | cursorSaved (socket : SocketKey) (outcome : WriteOutcome)
  | streamFails (socket : SocketKey)
  | streamEnds (socket : SocketKey)
  | panelLogs (environment : Environment) (socket : SocketKey)
      (line : LogLine)
  | panelPublishes (owner type message : String)
      (commandId cursor : Option String) (createdAt : EventTime)
  | panelRestarts

/-- The acknowledgements among the effects of the panel. -/
def acknowledgements (effects : List Effect) :
    List (SocketKey × String) :=
  effects.filterMap fun effect =>
    match effect with
    | .sent socket (.logAck cursor) => some (socket, cursor)
    | _ => none

/-- The first line that `journalctl` lists: after the cursor it is given, or
where a run without a cursor begins. -/
def firstLine
    (lines : List JournalLine) (cursor : String) (first : Nat) : Nat :=
  if cursor = "" then
    first
  else
    lines.findIdx (fun line => line.cursor = cursor) + 1

namespace System

/-- The system with the stream of a session in a new phase. -/
def withStream
    (system : System) (process : AgentProcess) (socket : SocketKey)
    (stream : Stream) : System :=
  { system with
    agent := some
      { process with streams := process.streams.insert socket stream } }

/-- `openCommandResultCache` on the files that are on disk. -/
def startAgent
    (config : BindingConfig) (system : System) (now : String)
    (commandsOutcome cursorOutcome : WriteOutcome) : System :=
  match openCommandResultCache config.paths config.id config.limit
      system.files now commandsOutcome cursorOutcome with
  | (opened, files) =>
      { system with
        files := files
        agent := opened.map fun cache => ⟨cache, ∅⟩ }

/-- `persistCursor` after `sendLog` returned; an error ends this run of
`journalctl`. -/
def saveCursor
    (system : System) (process : AgentProcess) (socket : SocketKey)
    (next : Nat) (cursor : String) (outcome : WriteOutcome) : System :=
  match process.cache.saveJournalCursor system.files.cursor cursor outcome with
  | (cache, disk, error) =>
      { system with
        files := { system.files with cursor := disk }
        agent := some
          { cache := cache
            streams := process.streams.insert socket
              (match error with
              | none => .reading next
              | some _ => .waiting) } }

def handled (system : System) (handler : Handler) :
    System × List Effect :=
  match handler system.panel with
  | (panel, effects) =>
      ({ system with
          panel := panel
          acks := system.acks ++ acknowledgements effects }, effects)

end System

def streamStep
    (lines : List JournalLine) (system : System) (process : AgentProcess)
    (event : JournalEvent) : Option System :=
  match event with
  | .connects socket => some (system.withStream process socket .waiting)
  | .journalctlStarts socket first =>
      if process.streams.lookup socket = some .waiting then
        some
          { system.withStream process socket
              (.reading (firstLine lines process.cache.cursor first)) with
            starts :=
              if process.cache.cursor = "" then first :: system.starts
              else system.starts }
      else
        none
  | .lineRead socket =>
      match process.streams.lookup socket with
      | some (.reading next) =>
          match lines[next]? with
          | none => none
          | some line =>
              some
                { system.withStream process socket
                    (if line.cursor = "" then .reading (next + 1)
                    else .sending next false) with
                  written := (socket, line.log) :: system.written }
      | _ => none
  | .ackArrives socket cursor =>
      match process.streams.lookup socket with
      | some (.sending index _) =>
          if (socket, cursor) ∈ system.acks ∧
              lines[index]?.map JournalLine.cursor = some cursor then
            some (system.withStream process socket (.sending index true))
          else
            none
      | _ => none
  | .sendReturns socket =>
      match process.streams.lookup socket with
      | some (.sending index true) =>
          some (system.withStream process socket (.acknowledged index))
      | _ => none
  | .cursorSaved socket outcome =>
      match process.streams.lookup socket with
      | some (.acknowledged index) =>
          match lines[index]? with
          | none => none
          | some line =>
              some (system.saveCursor process socket (index + 1) line.cursor
                outcome)
      | _ => none
  | .streamFails socket =>
      match process.streams.lookup socket with
      | some (.reading _) =>
          some (system.withStream process socket .waiting)
      | some (.sending _ _) =>
          some (system.withStream process socket .waiting)
      | _ => none
  | .streamEnds socket =>
      if process.streams.lookup socket = some .waiting then
        some
          { system with
            agent := some
              { process with streams := process.streams.erase socket } }
      else
        none
  | _ => none

/-- One step of agent and panel.  Other events of the binding carry no
cursor. -/
def step
    (config : BindingConfig) (lines : List JournalLine) (system : System)
    (event : JournalEvent) : Option (System × List Effect) :=
  match event with
  | .panelLogs environment socket line =>
      if (socket, line) ∈ system.written then
        some (system.handled (log environment socket config.id (some line)))
      else
        none
  | .panelPublishes owner type message commandId cursor createdAt =>
      if owner = config.id ∧ cursor ≠ none then
        none
      else
        some (system.handled
          (publish owner type message commandId cursor createdAt))
  | .panelRestarts =>
      some ({ system with panel := .new system.panel.store }, [])
  | .agentStops => some ({ system with agent := none }, [])
  | .agentStarts now commandsOutcome cursorOutcome =>
      match system.agent with
      | some _ => none
      | none =>
          some (system.startAgent config now commandsOutcome cursorOutcome,
            [])
  | event =>
      match system.agent with
      | none => none
      | some process =>
          (streamStep lines system process event).map fun next => (next, [])

end GravitPanel.Journal
