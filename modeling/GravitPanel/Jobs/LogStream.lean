import GravitPanel.Core.Execution
import GravitPanel.Core.LogWindow
import GravitPanel.Jobs.Store

/-!
# The log of a job in the browser

`jobs-browser-events.service.ts` sends the log of a job,
`job-event-socket.ts` connects to it again and again, and
`useJobLogStream.ts` shows it.  A poll may be answered at any time.
-/

namespace GravitPanel.Jobs

open GravitPanel.Execution LogWindow

def terminalType : JobEventType → Bool
  | .completed => true
  | .failed => true
  | .cancelled => true
  | _ => false

def terminalStatus : JobStatus → Bool
  | .succeeded => true
  | .failed => true
  | .cancelled => true
  | _ => false

structure StreamEvent where
  sequence : Int
  jobId : String
  type : JobEventType
  message : String
  progress : Option Progress
  createdAt : String
  deriving DecidableEq, Repr

def JobEvent.streamed (event : JobEvent) : StreamEvent :=
  ⟨event.sequence, event.jobId, event.type, event.message, event.progress,
    event.createdAt⟩

namespace JobsStore

/-- The log of a job as the browser gets it. -/
def log (store : JobsStore) (jobId : String) : List StreamEvent :=
  (store.listEvents jobId).map JobEvent.streamed

def listRecentEvents (store : JobsStore) (jobId : String) (limit : Nat) :
    List StreamEvent :=
  newest limit (store.log jobId)

end JobsStore

inductive JobSocketMessage where
  | history (events : List StreamEvent) (terminal : Bool)
  | event (event : StreamEvent)
  deriving DecidableEq, Repr

namespace JobSocketMessage

def events : JobSocketMessage → List StreamEvent
  | .history events _ => events
  | .event sent => [sent]

/-- Whether the browser closes the socket after this message. -/
def terminal : JobSocketMessage → Bool
  | .history events terminal =>
      terminal || events.any fun listed => terminalType listed.type
  | .event sent => terminalType sent.type

end JobSocketMessage

/-- The messages that are on their way, and the subscription of the server. -/
structure JobSocket where
  messages : List JobSocketMessage
  subscribed : Bool
  deriving DecidableEq, Repr

@[irreducible]
def historyLimit : Nat := 1000

/-- `open` of the service; an unknown job has no socket. -/
def openSocket (store : JobsStore) (jobId : String) : Option JobSocket :=
  (store.get jobId).map fun job =>
    ⟨[.history (store.listRecentEvents jobId historyLimit)
        (terminalStatus job.status)],
      !terminalStatus job.status⟩

/-- The listener of a subscription; it ends with a terminal event, and when it
cannot send. -/
def JobSocket.sendEvent (socket : JobSocket) (event : StreamEvent)
    (sent : Bool) : JobSocket :=
  if socket.subscribed then
    if sent then
      ⟨socket.messages ++ [.event event], !terminalType event.type⟩
    else
      { socket with subscribed := false }
  else
    socket

/-- Without a connection, before the socket opens, with an open one, and until
the next attempt. -/
inductive SocketPhase where
  | closed
  | connecting
  | opened (socket : JobSocket)
  | waiting
  deriving DecidableEq, Repr

/-- `refreshing` are the jobs whose final record is asked for. -/
structure JobLogStream where
  connectedJobId : Option String
  currentJob : Option JobRecord
  events : List StreamEvent
  finishedJobs : List String
  refreshing : List String
  phase : SocketPhase
  deriving DecidableEq, Repr

namespace JobLogStream

def empty : JobLogStream := ⟨none, none, [], [], [], .closed⟩

def watched (job : Option JobRecord) (stream : JobLogStream) : JobLogStream :=
  if job.map JobRecord.id = stream.connectedJobId then
    { stream with currentJob := job }
  else
    { stream with
      connectedJobId := job.map JobRecord.id
      currentJob := job
      events := []
      phase := if job.isSome then .connecting else .closed }

def outcomeType : JobStatus → JobEventType
  | .succeeded => .completed
  | .cancelled => .cancelled
  | _ => .failed

def outcomeEvent (record : JobRecord) (now : String) : StreamEvent where
  sequence := -1
  jobId := record.id
  type := outcomeType record.status
  message := record.error.getD
    (if record.status = .succeeded then "Job completed successfully"
      else "Job cancelled by user")
  progress := some record.progress
  createdAt := record.finishedAt.getD now

def finish (record : JobRecord) (now : String) (stream : JobLogStream) :
    JobLogStream :=
  if record.id ∈ stream.finishedJobs then
    stream
  else
    { stream with
      finishedJobs := record.id :: stream.finishedJobs
      phase := .closed
      currentJob := some record
      events :=
        if stream.events.any fun event => terminalType event.type then
          stream.events
        else
          stream.events ++ [outcomeEvent record now] }

def polled (record : JobRecord) (now : String) (stream : JobLogStream) :
    JobLogStream :=
  if stream.connectedJobId = some record.id then
    if terminalStatus record.status then
      finish record now { stream with currentJob := some record }
    else
      { stream with currentJob := some record }
  else
    stream

/-- The answer after a terminal event. -/
def refreshed (record : JobRecord) (now : String) (stream : JobLogStream) :
    JobLogStream :=
  if stream.connectedJobId = some record.id then
    finish record now stream
  else
    stream

def withoutRefresh (index : Nat) (stream : JobLogStream) : JobLogStream :=
  { stream with refreshing := stream.refreshing.eraseIdx index }

def latestProgress (events : List StreamEvent) : Option Progress :=
  (events.filterMap StreamEvent.progress).getLast?

def withProgress (progress : Option Progress) (job : JobRecord) : JobRecord :=
  match progress with
  | none => job
  | some progress => { job with progress }

def outcomeStatus : JobEventType → JobStatus
  | .completed => .succeeded
  | .cancelled => .cancelled
  | _ => .failed

def withOutcome (jobId : String) (event : StreamEvent) (job : JobRecord) :
    JobRecord :=
  if job.id = jobId then { job with status := outcomeStatus event.type }
  else job

/-- The listener for events; after a terminal one it closes the connection and
asks for the final record. -/
def onEvents (jobId : String) (batch : List StreamEvent)
    (stream : JobLogStream) : JobLogStream :=
  match additions StreamEvent.sequence stream.events batch with
  | [] => stream
  | added =>
      let shown :=
        { stream with
          events :=
            merge StreamEvent.sequence historyLimit stream.events batch
          currentJob :=
            stream.currentJob.map (withProgress (latestProgress added)) }
      match (added.filter fun event => terminalType event.type).getLast? with
      | none => shown
      | some event =>
          { shown with
            phase := .closed
            currentJob := shown.currentJob.map (withOutcome jobId event)
            refreshing := shown.refreshing ++ [jobId] }

/-- The socket closes itself behind a terminal message. -/
def delivered (jobId : String) (socket : JobSocket)
    (message : JobSocketMessage) (rest : List JobSocketMessage)
    (stream : JobLogStream) : JobLogStream :=
  let received := onEvents jobId message.events
    { stream with phase := .opened { socket with messages := rest } }
  if message.terminal then { received with phase := .closed } else received

end JobLogStream

structure LogRun where
  store : JobsStore
  stream : JobLogStream
  deriving DecidableEq, Repr

inductive LogEvent where
  | inserted (job : JobRecord)
  | replaced (job : JobRecord)
  | emitted (jobId : String) (type : JobEventType) (message : String)
      (progress : Option Progress) (createdAt : String) (sent : Bool)
  | watched (job : Option JobRecord)
  | opened
  | delivered
  | lost
  | retried
  | polled (record : JobRecord) (now : String)
  | refreshed (index : Nat) (record : JobRecord) (now : String)
  | disposed

def LogRun.withPhase (run : LogRun) (phase : SocketPhase) : LogRun :=
  { run with stream := { run.stream with phase } }

/-- The event is stored, and then a subscription gets it. -/
def emittedStep (run : LogRun) (jobId : String) (type : JobEventType)
    (message : String) (progress : Option Progress) (createdAt : String)
    (sent : Bool) : LogRun :=
  let store := run.store.append jobId type message progress createdAt
  let event : StreamEvent :=
    ⟨store.sequence, jobId, type, message, progress, createdAt⟩
  match run.stream.phase with
  | .opened socket =>
      if run.stream.connectedJobId = some jobId then
        LogRun.withPhase { run with store }
          (.opened (socket.sendEvent event sent))
      else
        { run with store }
  | _ => { run with store }

def openedStep (run : LogRun) (jobId : String) : LogRun :=
  match openSocket run.store jobId with
  | none => run.withPhase .waiting
  | some socket => run.withPhase (.opened socket)

/-- A connection breaks between any two steps, and what is on its way is
lost. -/
def logStep (run : LogRun) : LogEvent → Option (LogRun × List Unit)
  | .inserted job => some ({ run with store := run.store.insert job }, [])
  | .replaced job => some ({ run with store := run.store.replace job }, [])
  | .emitted jobId type message progress createdAt sent =>
      some (emittedStep run jobId type message progress createdAt sent, [])
  | .watched job =>
      some ({ run with stream := run.stream.watched job }, [])
  | .opened =>
      match run.stream.phase, run.stream.connectedJobId with
      | .connecting, some jobId => some (openedStep run jobId, [])
      | _, _ => none
  | .delivered =>
      match run.stream.phase, run.stream.connectedJobId with
      | .opened ⟨message :: rest, subscribed⟩, some jobId =>
          some ({ run with
            stream := run.stream.delivered jobId ⟨message :: rest, subscribed⟩
              message rest }, [])
      | _, _ => none
  | .lost =>
      match run.stream.phase with
      | .connecting => some (run.withPhase .waiting, [])
      | .opened _ => some (run.withPhase .waiting, [])
      | _ => none
  | .retried =>
      match run.stream.phase with
      | .waiting => some (run.withPhase .connecting, [])
      | _ => none
  | .polled record now =>
      some ({ run with stream := run.stream.polled record now }, [])
  | .refreshed index record now =>
      match run.stream.refreshing[index]? with
      | none => none
      | some jobId =>
          if record.id = jobId then
            some ({ run with
              stream := (run.stream.withoutRefresh index).refreshed record
                now }, [])
          else none
  | .disposed => some (run.withPhase .closed, [])

end GravitPanel.Jobs
