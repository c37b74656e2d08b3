import GravitPanel.Agent.Idempotency

/-!
# The command loop of one binding

`agent/agent.go`: the read loop of `connect` accepts commands through the
result cache and enqueues them, `commandWorker` executes them one at a time,
and the process may stop at any moment and be started again on the files that
are then on disk.  Every interleaving of these parties is a list of events.
-/

namespace GravitPanel.Agent

def commandQueueCapacity : Nat := 64

def maxCommandBytes : Nat := 1000

/-- The `commandEnvelope` of `protocol.go` with the payload's `command`. -/
structure CommandEnvelope where
  id : String
  bindingID : String
  type : String
  command : String
  deriving DecidableEq, Repr

structure BindingConfig where
  id : String
  unit : String
  paths : StatePaths
  limit : Nat
  deriving DecidableEq, Repr

/-- The limit that `makeCommandResultCache` takes from the configured one. -/
def BindingConfig.cacheLimit (config : BindingConfig) : Nat :=
  max 1 config.limit

/-- The side effect that `executeCommand` starts. -/
inductive SideEffect where
  | systemctl (action unit : String)
  | rcon (command : String)
  deriving DecidableEq, Repr

/-- The checks of `executeCommand`: the side effect of a command, or the error
it is refused with before anything runs. -/
def commandEffect (config : BindingConfig) (command : CommandEnvelope) :
    Except String SideEffect :=
  if command.bindingID ≠ "" ∧ command.bindingID ≠ config.id then
    .error "command bindingId does not match this binding"
  else if command.type = "service.start" then
    .ok (.systemctl "start" config.unit)
  else if command.type = "service.stop" then
    .ok (.systemctl "stop" config.unit)
  else if command.type = "service.restart" then
    .ok (.systemctl "restart" config.unit)
  else if command.type = "console.execute" then
    if command.command = "" then
      .error "payload.command is required"
    else if maxCommandBytes < command.command.utf8ByteSize then
      .error "command exceeds 1000 bytes"
    else if '\x00' ∈ command.command.toList then
      .error "command contains NUL"
    else
      .ok (.rcon command.command)
  else
    .error ("unsupported command type \"" ++ command.type ++ "\"")

/-- The terminal message for an output or an error. -/
def resultMessage (commandID : String) :
    Except String String → CommandResultMessage
  | .ok output => ⟨"command.completed", commandID, output, ""⟩
  | .error error => ⟨"command.failed", commandID, "", error⟩

def queueFullResult (commandID : String) : CommandResultMessage :=
  resultMessage commandID (.error "command queue is full for this binding")

/-- Where the read loop stands between `begin` and the next message. -/
inductive Reader where
  | idle
  | granted (command : CommandEnvelope)
  | rejected (command : CommandEnvelope)

/-- Where `commandWorker` stands. -/
inductive Worker where
  | idle
  | taken (command : CommandEnvelope)
  | finished (command : CommandEnvelope) (result : CommandResultMessage)

/-- A running agent process, restricted to one binding. -/
structure Process where
  cache : CommandResultCache
  channels : Nat
  reader : Reader
  commands : List CommandEnvelope
  worker : Worker

structure World where
  files : StateFiles
  process : Option Process

inductive Event where
  | receive (command : CommandEnvelope) (now : String)
      (outcome : WriteOutcome)
  | enqueue
  | completeRejected (now : String) (outcome : WriteOutcome)
  | workerTake
  | workerExecute (report : Except String String)
  | workerComplete (now : String) (outcome : WriteOutcome)
  | crash
  | start (now : String) (commandsOutcome cursorOutcome : WriteOutcome)

/-- What a run makes visible: the answer of each `begin`, each side effect,
each id becoming terminal, each state write that reached the disk, and the
crashes. -/
inductive Observation where
  | begun (commandID : String) (answer : CommandResultCache.BeginResult)
  | executed (commandID : String)
  | completed (commandID : String) (result : CommandResultMessage)
  | loadedUnknown (commandID : String)
  | persisted
  | crashed
  deriving DecidableEq, Repr

def persistedWhen (outcome : WriteOutcome) : List Observation :=
  if outcome.reachesDisk then [.persisted] else []

/-- The world with its process in a new state. -/
def World.running (world : World) (process : Process) : World :=
  { world with process := some process }

/-- `complete` on the files of the world. -/
def World.complete
    (world : World) (process : Process) (commandID : String)
    (result : CommandResultMessage) (now : String) (outcome : WriteOutcome) :
    World × List Observation :=
  match process.cache.complete world.files.commands commandID result now
      outcome with
  | (cache, disk, _) =>
      (⟨{ world.files with commands := disk },
          some { process with cache := cache }⟩,
        .completed commandID result :: persistedWhen outcome)

theorem World.complete_eq
    (world : World) (process : Process) (commandID : String)
    (result : CommandResultMessage) (now : String)
    (outcome : WriteOutcome) :
    world.complete process commandID result now outcome =
      (⟨{ world.files with
            commands := ((process.cache.record commandID result).persistLocked
              now outcome world.files.commands).1 },
          some { process with
            cache := process.cache.record commandID result }⟩,
        .completed commandID result :: persistedWhen outcome) := by
  rcases write :
    (process.cache.record commandID result).persistLocked now outcome
      world.files.commands with ⟨disk, cause⟩
  cases cause <;> simp [World.complete, CommandResultCache.complete, write]

/-- `begin` and the bookkeeping of the read loop after it. -/
def World.receive
    (world : World) (process : Process) (command : CommandEnvelope)
    (now : String) (outcome : WriteOutcome) :
    World × List Observation :=
  match process.cache.begin world.files.commands command.id process.channels
      now outcome with
  | (cache, disk, answer) =>
      let begun := { process with cache := cache }
      let files := { world.files with commands := disk }
      match answer with
      | .cached _ => (⟨files, some begun⟩, [.begun command.id answer])
      | .waiting _ => (⟨files, some begun⟩, [.begun command.id answer])
      | .error _ =>
          (⟨files, some { begun with channels := process.channels + 1 }⟩,
            persistedWhen outcome ++ [.begun command.id answer])
      | .owner _ =>
          (⟨files, some
              { begun with
                channels := process.channels + 1
                reader := .granted command }⟩,
            persistedWhen outcome ++ [.begun command.id answer])

/-- `newBindingAgents` on the files that are on disk. -/
def World.start
    (config : BindingConfig) (world : World) (now : String)
    (commandsOutcome cursorOutcome : WriteOutcome) :
    World × List Observation :=
  let cache := emptyCommandResultCache config.paths config.id config.limit
  match openCommandResultCache config.paths config.id config.limit
      world.files now commandsOutcome cursorOutcome with
  | (opened, files) =>
      (⟨files, opened.map fun cache => ⟨cache, 0, .idle, [], .idle⟩⟩,
        match cache.load world.files.commands with
        | .error _ => []
        | .ok loaded =>
            (acceptedIDs world.files.commands).map .loadedUnknown ++
              match loaded.loadCursor world.files.cursor with
              | .error _ => []
              | .ok _ => persistedWhen commandsOutcome)

def processStep
    (config : BindingConfig) (world : World) (process : Process) :
    Event → Option (World × List Observation)
  | .start _ _ _ => none
  | .crash => some ({ world with process := none }, [.crashed])
  | .receive command now outcome =>
      match process.reader with
      | .idle =>
          if command.id = "" then
            some (world, [])
          else
            some (world.receive process command now outcome)
      | _ => none
  | .enqueue =>
      match process.reader with
      | .granted command =>
          if process.commands.length < commandQueueCapacity then
            some (world.running
              { process with
                reader := .idle
                commands := process.commands ++ [command] }, [])
          else
            some (world.running
              { process with reader := .rejected command }, [])
      | _ => none
  | .completeRejected now outcome =>
      match process.reader with
      | .rejected command =>
          some (world.complete { process with reader := .idle }
            command.id (queueFullResult command.id) now outcome)
      | _ => none
  | .workerTake =>
      match process.worker, process.commands with
      | .idle, command :: rest =>
          some (world.running
            { process with commands := rest, worker := .taken command }, [])
      | _, _ => none
  | .workerExecute report =>
      match process.worker with
      | .taken command =>
          match commandEffect config command with
          | .error error =>
              some (world.running
                { process with
                  worker := .finished command
                    (resultMessage command.id (.error error)) }, [])
          | .ok _ =>
              some (world.running
                { process with
                  worker := .finished command
                    (resultMessage command.id report) },
                [.executed command.id])
      | _ => none
  | .workerComplete now outcome =>
      match process.worker with
      | .finished command result =>
          some (world.complete { process with worker := .idle }
            command.id result now outcome)
      | _ => none

/-- One step of the binding's agent; only `start` is possible while no process
runs. -/
def step (config : BindingConfig) (world : World) (event : Event) :
    Option (World × List Observation) :=
  match world.process with
  | some process => processStep config world process event
  | none =>
      match event with
      | .start now commandsOutcome cursorOutcome =>
          some (world.start config now commandsOutcome cursorOutcome)
      | _ => none

end GravitPanel.Agent
