import GravitPanel.Servers.AgentService
import GravitPanel.Servers.CommandTable

/-!
# Commands and connections

The view of the service that the dispatch of commands depends on, the rounds of
`dispatchNext` as a relation on views, and one relation that says for every
event what it changes.
-/

namespace GravitPanel.Servers

open GravitPanel.Action
open ServerAgentStore ServerAgentService

/-- A command that was written to a socket. -/
structure Delivery where
  socket : SocketKey
  id : String
  bindingId : String
  createdAt : Nat
  deriving DecidableEq, Repr

def deliveryOf : Effect → Option Delivery
  | .sent socket (.command id bindingId _ _ createdAt) =>
      some ⟨socket, id, bindingId, createdAt⟩
  | _ => none

def deliveries (effects : List Effect) : List Delivery :=
  effects.filterMap deliveryOf

@[simp]
theorem deliveries_nil : deliveries [] = [] := rfl

@[simp]
theorem deliveries_append (first second : List Effect) :
    deliveries (first ++ second) =
      deliveries first ++ deliveries second := by
  simp [deliveries]

@[simp]
theorem deliveries_cons (effect : Effect) (rest : List Effect) :
    deliveries (effect :: rest) =
      (deliveryOf effect).toList ++ deliveries rest := by
  cases visible : deliveryOf effect <;> simp [deliveries, visible]

/-- The part of the service that decides which command is sent where, and the
deliveries made so far. -/
structure CommandView where
  commands : List ServerCommand
  sockets : AList fun _ : String => SocketKey
  bindings : AList fun _ : SocketKey => String
  sent : List Delivery

def ServerAgentService.view
    (service : ServerAgentService) (sent : List Delivery) : CommandView :=
  ⟨service.store.commands, service.sockets, service.bindings, sent⟩

namespace CommandView

def updateCommands
    (view : CommandView) (row : ServerCommand → ServerCommand) :
    CommandView :=
  { view with commands := view.commands.map row }

/-- `close`: only the registered socket of a binding takes its registration
with it and requeues the active commands. -/
def close (view : CommandView) (socket : SocketKey) : CommandView :=
  match view.bindings.lookup socket with
  | none => view
  | some bindingId =>
      if view.sockets.lookup bindingId ≠ some socket then
        { view with bindings := view.bindings.erase socket }
      else
        { view with
          commands := view.commands.map (requeueRow (some bindingId))
          sockets := view.sockets.erase bindingId
          bindings := view.bindings.erase socket }

def register
    (view : CommandView) (bindingId : String) (socket : SocketKey) :
    CommandView :=
  { view with
    sockets := view.sockets.insert bindingId socket
    bindings := view.bindings.insert socket bindingId }

def deliver
    (view : CommandView) (socket : SocketKey) (command : ServerCommand)
    (now : Nat) : CommandView :=
  { view with
    commands := view.commands.map (deliveredRow command.id now)
    sent := view.sent ++
      [⟨socket, command.id, command.bindingId, command.createdAt⟩] }

def create (view : CommandView) (command : ServerCommand) : CommandView :=
  { view with commands := view.commands ++ [command] }

def restart (view : CommandView) : CommandView where
  commands := view.commands.map (requeueRow none)
  sockets := ∅
  bindings := ∅
  sent := view.sent

end CommandView

/-- The rounds of `dispatchNext` for a binding. -/
inductive Round (environment : Environment) (bindingId : String) :
    CommandView → CommandView → Prop where
  | stopped {view : CommandView}
      (blocked : view.sockets.lookup bindingId = none ∨
        activeRow view.commands bindingId ≠ none ∨
          pendingRows view.commands bindingId = []) :
      Round environment bindingId view view
  | expired {view next : CommandView} (socket : SocketKey)
      (command : ServerCommand) (rest : List ServerCommand) (reading : Nat)
      (registered : view.sockets.lookup bindingId = some socket)
      (idle : activeRow view.commands bindingId = none)
      (first : pendingRows view.commands bindingId = command :: rest)
      (late : deliveryDeadline <
        environment.clock reading - command.createdAt)
      (later : Round environment bindingId
        (view.updateCommands (finishedRow command.id none
          (some expiredMessage) (environment.clock reading))) next) :
      Round environment bindingId view next
  | dropped {view : CommandView} (socket : SocketKey)
      (command : ServerCommand) (rest : List ServerCommand)
      (registered : view.sockets.lookup bindingId = some socket)
      (idle : activeRow view.commands bindingId = none)
      (first : pendingRows view.commands bindingId = command :: rest)
      (throws : environment.throws socket (commandMessage command) ≠ none) :
      Round environment bindingId view (view.close socket)
  | delivered {view : CommandView} (socket : SocketKey)
      (command : ServerCommand) (rest : List ServerCommand) (reading : Nat)
      (registered : view.sockets.lookup bindingId = some socket)
      (idle : activeRow view.commands bindingId = none)
      (first : pendingRows view.commands bindingId = command :: rest)
      (timely : environment.clock reading - command.createdAt ≤
        deliveryDeadline) :
      Round environment bindingId view
        (view.deliver socket command (environment.clock reading))

/-- The command that a message reports a result for, with the output and the
error that `finishCommand` is given. -/
def AgentMessage.result :
    AgentMessage → Option (String × Option String × Option String)
  | .commandCompleted (some id) output =>
      some (id, some (output.getD ""), none)
  | .commandFailed (some id) error =>
      some (id, none, some (error.getD "Agent command failed"))
  | _ => none

def AgentMessage.names : AgentMessage → Option String
  | .commandAck id => id
  | .commandCompleted id _ => id
  | .commandFailed id _ => id
  | _ => none

inductive Change : ServiceEvent → CommandView → CommandView → Prop where
  | unseen (event : ServiceEvent) (view : CommandView) :
      Change event view view
  | registered {view : CommandView} (environment : Environment)
      (socket : SocketKey) (message : AgentHello) (bindingId : String)
      (authenticated :
        environment.authenticate message.token = some bindingId) :
      Change (.message environment socket (.hello (some message))) view
        (view.register bindingId socket)
  | greeted {view next : CommandView} (environment : Environment)
      (socket : SocketKey) (message : AgentHello) (bindingId : String)
      (authenticated :
        environment.authenticate message.token = some bindingId)
      (dispatched : Round environment bindingId
        (view.register bindingId socket) next) :
      Change (.message environment socket (.hello (some message))) view next
  | acknowledged {view : CommandView} (environment : Environment)
      (socket : SocketKey) (bindingId : String) (command : ServerCommand)
      (bound : view.bindings.lookup socket = some bindingId)
      (member : command ∈ view.commands)
      (owned : command.bindingId = bindingId) :
      Change (.message environment socket (.commandAck (some command.id)))
        view (view.updateCommands
          (runningRow command.id (environment.clock 0)))
  | finished {view next : CommandView} (environment : Environment)
      (socket : SocketKey) (message : AgentMessage) (bindingId : String)
      (command : ServerCommand) (output error : Option String)
      (bound : view.bindings.lookup socket = some bindingId)
      (member : command ∈ view.commands)
      (owned : command.bindingId = bindingId)
      (named : message.names = some command.id)
      (result : message.result = some (command.id, output, error))
      (dispatched : Round environment bindingId
        (view.updateCommands (finishedRow command.id output error
          (environment.clock 0))) next) :
      Change (.message environment socket message) view next
  | closed {view : CommandView} (environment : Environment)
      (socket : SocketKey) :
      Change (.closed environment socket) view (view.close socket)
  | created {view next : CommandView} (environment : Environment)
      (id bindingId : String) (type : ServerCommandType)
      (input payload : Option String)
      (unused : id ∉ view.commands.map ServerCommand.id)
      (dispatched : Round environment bindingId
        (view.create (newCommand id bindingId type payload
          (environment.clock 0))) next) :
      Change (.createCommand environment id bindingId type input) view next
  | restarted {view : CommandView} :
      Change .restarted view view.restart

end GravitPanel.Servers
