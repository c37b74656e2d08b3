import GravitPanel.Core.Action
import GravitPanel.Servers.AgentStore

/-!
# The panel's side of the agent connections

`server-agent.service.ts`: which socket is registered for a binding, how
messages of a socket change the command and event tables, and which queued
command is sent next.  Each handler runs to completion; what it takes from
outside (the clock, the token check, a `send` that throws) is its environment.
-/

namespace GravitPanel.Servers

/-- The object that identifies a socket in the maps of the service. -/
abbrev SocketKey := Nat

inductive PanelMessage where
  | helloAccepted (bindingId : String)
  | command (id bindingId : String) (type : ServerCommandType)
      (payload : Option String) (createdAt : Nat)
  | logAck (cursor : String)
  | fsRequest (id bindingId operation payload : String)
  deriving DecidableEq, Repr

/-- A well-formed `hello`; entries of `capabilities` may be of any type. -/
structure AgentHello where
  token : String
  agentVersion : String
  hostname : String
  capabilities : List (Option String)
  deriving DecidableEq, Repr

structure LogLine where
  message : String
  stream : Option String
  cursor : Option String
  createdAt : Option String
  deriving DecidableEq, Repr

/-- What arrives on a socket.  A field that must have a type is absent when it
has another one. -/
inductive AgentMessage where
  | unreadable
  | hello (message : Option AgentHello)
  | heartbeat
  | status (runtime : Option ServerServiceRuntime)
  | log (line : Option LogLine)
  | commandAck (commandId : Option String)
  | commandCompleted (commandId output : Option String)
  | commandFailed (commandId error : Option String)
  | fsResponse (requestId : Option String) (ok : Bool) (result : String)
      (error : Option String)
  | unknown
  deriving DecidableEq, Repr

/-- What a handler does outside the service. -/
inductive Effect where
  | sent (socket : SocketKey) (message : PanelMessage)
  | closeAsked (socket : SocketKey)
  | published (event : ServerRuntimeEvent)
  | created (command : ServerCommand)
  | refused (reason : String)
  | settled (requestId : String) (result : Except String String)
  deriving DecidableEq

structure PendingFilesystemRequest where
  bindingId : String
  socketKey : SocketKey
  deriving DecidableEq, Repr

/-- `pendingFilesystem` is a map in insertion order. -/
structure ServerAgentService where
  store : ServerAgentStore
  sockets : AList fun _ : String => SocketKey
  bindings : AList fun _ : SocketKey => String
  helloTimers : List SocketKey
  pendingSockets : List SocketKey
  pendingFilesystem : List (String × PendingFilesystemRequest)

abbrev Handler := Action ServerAgentService Effect

/-- What a handler meets outside: the binding of a token, the readings of the
clock and the error of a `send` that throws. -/
structure Environment where
  authenticate : String → Option String
  clock : Nat → Nat
  throws : SocketKey → PanelMessage → Option String

namespace ServerAgentService

open GravitPanel.Action ServerAgentStore

/-- The constructor requeues what an earlier process left active. -/
def new (store : ServerAgentStore) : ServerAgentService where
  store := store.requeueActive none
  sockets := ∅
  bindings := ∅
  helloTimers := []
  pendingSockets := []
  pendingFilesystem := []

def isConnected (service : ServerAgentService) (bindingId : String) : Bool :=
  (service.sockets.lookup bindingId).isSome

def runtime (service : ServerAgentService) (bindingId : String) :
    ServerRuntimeState :=
  service.store.runtime bindingId (service.isConnected bindingId)

def updateStore (change : ServerAgentStore → ServerAgentStore) : Handler :=
  update fun service => { service with store := change service.store }

def publish
    (bindingId type message : String) (commandId cursor : Option String)
    (createdAt : EventTime) : Handler :=
  fun service =>
    match service.store.appendEvent bindingId type message commandId cursor
        createdAt with
    | (store, event) =>
        ({ service with store := store }, event.toList.map .published)

def openSocket (socket : SocketKey) : Handler :=
  fun service =>
    if 100 ≤ service.pendingSockets.length then
      (service, [.closeAsked socket])
    else
      ({ service with
          pendingSockets := socket :: service.pendingSockets.erase socket
          helloTimers := socket :: service.helloTimers.erase socket }, [])

/-- The timer of `open` fires. -/
def helloTimeout (socket : SocketKey) : Handler :=
  fun service =>
    if socket ∈ service.helloTimers then
      ({ service with
          pendingSockets := service.pendingSockets.erase socket },
        if (service.bindings.lookup socket).isSome then []
        else [.closeAsked socket])
    else
      (service, [])

/-- Reject the filesystem requests that wait for a socket. -/
def dropFilesystem (socket : SocketKey) : Handler :=
  fun service =>
    ({ service with
        pendingFilesystem := service.pendingFilesystem.filter fun entry =>
          entry.2.socketKey ≠ socket },
      (service.pendingFilesystem.filter fun entry =>
        entry.2.socketKey = socket).map fun entry =>
          .settled entry.1
            (.error "Host agent disconnected during filesystem request"))

def close (environment : Environment) (socket : SocketKey) : Handler :=
  (update fun service =>
    { service with
      helloTimers := service.helloTimers.erase socket
      pendingSockets := service.pendingSockets.erase socket }).andThen
  fun service =>
    match service.bindings.lookup socket with
    | none => (service, [])
    | some bindingId =>
        ((update fun service =>
          { service with bindings := service.bindings.erase socket }).andThen
        fun service =>
          if service.sockets.lookup bindingId ≠ some socket then
            (service, [])
          else
            all
              [update fun service =>
                { service with sockets := service.sockets.erase bindingId },
              dropFilesystem socket,
              updateStore fun store => store.requeueActive (some bindingId),
              publish bindingId "agent.disconnected" "Host agent disconnected"
                none none (.clock (environment.clock 0))] service) service

def deliveryDeadline : Nat := 5 * 60000

def expiredMessage : String := "Command expired before delivery"

def commandMessage (command : ServerCommand) : PanelMessage :=
  .command command.id command.bindingId command.type command.payload
    command.createdAt

/-- The recursion of `dispatchNext`; each round that expires a command leaves
one queued command less. -/
def dispatchLoop (environment : Environment) (bindingId : String) :
    Nat → Handler
  | 0 => skip
  | rounds + 1 => fun service =>
      match service.sockets.lookup bindingId,
          service.store.activeCommand bindingId,
          service.store.pendingCommands bindingId with
      | some socket, none, command :: _ =>
          if deliveryDeadline < environment.clock rounds - command.createdAt
          then
            all
              [updateStore fun store =>
                store.finishCommand command.id none (some expiredMessage)
                  (environment.clock rounds),
              publish bindingId "command.failed" expiredMessage
                (some command.id) none (.clock (environment.clock rounds)),
              dispatchLoop environment bindingId rounds] service
          else
            match environment.throws socket (commandMessage command) with
            | some _ => close environment socket service
            | none =>
                all
                  [emit (.sent socket (commandMessage command)),
                  updateStore fun store =>
                    store.markDelivered command.id
                      (environment.clock rounds),
                  publish bindingId "command.delivered" command.type.text
                    (some command.id) none
                    (.clock (environment.clock rounds))] service
      | _, _, _ => (service, [])

def dispatchNext (environment : Environment) (bindingId : String) : Handler :=
  fun service =>
    dispatchLoop environment bindingId
      ((service.store.pendingCommands bindingId).length + 1) service

/-- Ask a socket that was registered before to close. -/
def closePrevious (bindingId : String) (socket : SocketKey) : Handler :=
  fun service =>
    match service.sockets.lookup bindingId with
    | some previous =>
        (service, if previous ≠ socket then [.closeAsked previous] else [])
    | none => (service, [])

def register (bindingId : String) (socket : SocketKey) : Handler :=
  update fun service =>
    { service with
      sockets := service.sockets.insert bindingId socket
      bindings := service.bindings.insert socket bindingId
      helloTimers := service.helloTimers.erase socket
      pendingSockets := service.pendingSockets.erase socket }

def hello
    (environment : Environment) (socket : SocketKey)
    (message : Option AgentHello) : Handler :=
  match message with
  | none => emit (.closeAsked socket)
  | some message =>
      match environment.authenticate message.token with
      | none => emit (.closeAsked socket)
      | some bindingId =>
          all
            [closePrevious bindingId socket,
            register bindingId socket,
            updateStore fun store =>
              store.saveAgent bindingId
                (JavaScript.slice 64 message.agentVersion)
                (JavaScript.slice 253 message.hostname)
                ((message.capabilities.filterMap id).take 32)
                (environment.clock 0),
            match environment.throws socket (.helloAccepted bindingId) with
            | some _ => skip
            | none =>
                all
                  [emit (.sent socket (.helloAccepted bindingId)),
                  publish bindingId "agent.connected"
                    ("Host agent connected from " ++ message.hostname)
                    none none (.clock (environment.clock 0)),
                  dispatchNext environment bindingId]]

def status
    (environment : Environment) (bindingId : String)
    (value : Option ServerServiceRuntime) : Handler :=
  match value with
  | none => skip
  | some runtime =>
      updateStore fun store =>
        store.saveRuntime bindingId
          { state := JavaScript.slice 64 runtime.state
            subState := JavaScript.slice 64 runtime.subState
            mainPid := max 0 runtime.mainPid
            updatedAt := runtime.updatedAt }
          (environment.clock 0)

def logType (stream : Option String) : String :=
  match stream with
  | some stream => "log." ++ JavaScript.slice 32 stream
  | none => "log.stdout"

/-- Store a journal line and acknowledge its cursor, stored or not. -/
def log
    (environment : Environment) (socket : SocketKey) (bindingId : String)
    (line : Option LogLine) : Handler :=
  match line with
  | none => skip
  | some line =>
      (publish bindingId (logType line.stream) line.message none line.cursor
        (match line.createdAt with
          | some text => .given text
          | none => .clock (environment.clock 0))).andThen
      (match line.cursor with
        | none => skip
        | some cursor =>
            if cursor = "" then
              skip
            else
              match environment.throws socket (.logAck cursor) with
              | some _ => skip
              | none => emit (.sent socket (.logAck cursor)))

/-- Run a handler for a command of the binding and ignore any other id. -/
def withCommand
    (bindingId : String) (commandId : Option String)
    (handler : ServerCommand → Handler) : Handler :=
  fun service =>
    match commandId.bind service.store.getCommand with
    | none => (service, [])
    | some command =>
        if command.bindingId ≠ bindingId then (service, [])
        else handler command service

def ack
    (environment : Environment) (bindingId : String)
    (commandId : Option String) : Handler :=
  withCommand bindingId commandId fun command =>
    all
      [updateStore fun store =>
        store.markRunning command.id (environment.clock 0),
      publish bindingId "command.running" command.type.text
        (some command.id) none (.clock (environment.clock 0))]

def complete
    (environment : Environment) (bindingId : String)
    (commandId output : Option String) : Handler :=
  withCommand bindingId commandId fun command =>
    all
      [updateStore fun store =>
        store.finishCommand command.id (some (output.getD "")) none
          (environment.clock 0),
      if output.getD "" = "" then
        skip
      else
        publish bindingId "command.output" (output.getD "")
          (some command.id) none (.clock (environment.clock 0)),
      publish bindingId "command.succeeded" command.type.text
        (some command.id) none (.clock (environment.clock 0)),
      dispatchNext environment bindingId]

def fail
    (environment : Environment) (bindingId : String)
    (commandId error : Option String) : Handler :=
  withCommand bindingId commandId fun command =>
    all
      [updateStore fun store =>
        store.finishCommand command.id none
          (some (error.getD "Agent command failed")) (environment.clock 0),
      publish bindingId "command.failed"
        (error.getD "Agent command failed") (some command.id) none
        (.clock (environment.clock 0)),
      dispatchNext environment bindingId]

def filesystemResponse
    (socket : SocketKey) (bindingId : String) (requestId : Option String)
    (ok : Bool) (result : String) (error : Option String) : Handler :=
  fun service =>
    match requestId with
    | none => (service, [])
    | some requestId =>
        match service.pendingFilesystem.lookup requestId with
        | none => (service, [])
        | some pending =>
            if pending.bindingId ≠ bindingId ∨ pending.socketKey ≠ socket then
              (service, [])
            else
              ({ service with
                  pendingFilesystem :=
                    service.pendingFilesystem.filter fun entry =>
                      entry.1 ≠ requestId },
                [.settled requestId
                  (if ok then .ok result
                  else .error
                    (error.getD "Live filesystem request failed"))])

def handleBound
    (environment : Environment) (socket : SocketKey) (bindingId : String) :
    AgentMessage → Handler
  | .status runtime => status environment bindingId runtime
  | .log line => log environment socket bindingId line
  | .commandAck commandId => ack environment bindingId commandId
  | .commandCompleted commandId output =>
      complete environment bindingId commandId output
  | .commandFailed commandId error =>
      fail environment bindingId commandId error
  | .fsResponse requestId ok result error =>
      filesystemResponse socket bindingId requestId ok result error
  | _ => skip

def handle
    (environment : Environment) (socket : SocketKey)
    (message : AgentMessage) : Handler :=
  match message with
  | .unreadable => skip
  | .hello message => hello environment socket message
  | message => fun service =>
      match service.bindings.lookup socket with
      | none => (service, [.closeAsked socket])
      | some bindingId =>
          ((updateStore fun store =>
            store.touch bindingId (environment.clock 0)).andThen
              (handleBound environment socket bindingId message)) service

/-- `/[\u0000-\u0008\u000b-\u001f\u007f\r\n]/`. -/
def isControl (character : Char) : Bool :=
  let code := character.val.toNat
  code ≤ 8 || (11 ≤ code && code ≤ 31) || code == 127 ||
    character == '\r' || character == '\n'

/-- The payload that `createCommand` stores, or the reason it refuses. -/
def commandPayload
    (type : ServerCommandType) (command : Option String) :
    Except String (Option String) :=
  match type with
  | .consoleExecute =>
      match command with
      | none => .error "Console command must be between 1 and 1000 characters"
      | some command =>
          if JavaScript.trim command = "" ∨
              1000 < JavaScript.length command then
            .error "Console command must be between 1 and 1000 characters"
          else if command.toList.any isControl then
            .error "Console command contains unsupported control characters"
          else
            .ok (some (JavaScript.trim command))
  | _ => .ok none

def createCommand
    (environment : Environment) (id bindingId : String)
    (type : ServerCommandType) (command : Option String) : Handler :=
  match commandPayload type command with
  | .error reason => emit (.refused reason)
  | .ok payload => fun service =>
      match service.store.createCommand id bindingId type payload
          (environment.clock 0) with
      | none => (service, [.refused "UNIQUE constraint failed"])
      | some (store, command) =>
          all
            [updateStore fun _ => store,
            publish bindingId "command.queued" type.text (some command.id)
              none (.clock (environment.clock 0)),
            dispatchNext environment bindingId,
            emit (.created command)] service

def requestFilesystem
    (environment : Environment) (id bindingId operation payload : String) :
    Handler :=
  fun service =>
    match service.sockets.lookup bindingId with
    | none => (service, [.refused "Host agent is offline"])
    | some socket =>
        if "filesystem-v1" ∉
            (service.store.runtime bindingId true).capabilities then
          (service, [.refused "Host agent does not support live files"])
        else
          match environment.throws socket
              (.fsRequest id bindingId operation payload) with
          | some error => (service, [.settled id (.error error)])
          | none =>
              ({ service with
                  pendingFilesystem := service.pendingFilesystem ++
                    [(id, ⟨bindingId, socket⟩)] },
                [.sent socket (.fsRequest id bindingId operation payload)])

/-- The timer of `requestFilesystem` fires. -/
def filesystemTimeout (requestId : String) : Handler :=
  fun service =>
    match service.pendingFilesystem.lookup requestId with
    | none => (service, [])
    | some _ =>
        ({ service with
            pendingFilesystem := service.pendingFilesystem.filter fun entry =>
              entry.1 ≠ requestId },
          [.settled requestId
            (.error "Live filesystem request timed out")])

end ServerAgentService

/-- What can happen to the service, one handler at a time. -/
inductive ServiceEvent where
  | opened (socket : SocketKey)
  | helloTimedOut (socket : SocketKey)
  | message (environment : Environment) (socket : SocketKey)
      (message : AgentMessage)
  | closed (environment : Environment) (socket : SocketKey)
  | createCommand (environment : Environment) (id bindingId : String)
      (type : ServerCommandType) (command : Option String)
  | requestFilesystem (environment : Environment)
      (id bindingId operation payload : String)
  | filesystemTimedOut (requestId : String)
  | restarted

namespace ServerAgentService

/-- The handler of an event. -/
def serve : ServiceEvent → Handler
  | .opened socket => openSocket socket
  | .helloTimedOut socket => helloTimeout socket
  | .message environment socket message => handle environment socket message
  | .closed environment socket => close environment socket
  | .createCommand environment id bindingId type command =>
      createCommand environment id bindingId type command
  | .requestFilesystem environment id bindingId operation payload =>
      requestFilesystem environment id bindingId operation payload
  | .filesystemTimedOut requestId => filesystemTimeout requestId
  | .restarted => Action.update fun service => new service.store

end ServerAgentService

end GravitPanel.Servers
