import GravitPanel.Core.Execution
import GravitPanel.Servers.ServiceChanges

/-!
# The panel and its agent connections

Runs of the service together with the deliveries made so far and the sockets
whose close has been reported.  A closed socket neither opens nor speaks again.
-/

namespace GravitPanel.Servers

open GravitPanel.Execution
open ServerAgentStore ServerAgentService

structure Network where
  service : ServerAgentService
  sent : List Delivery
  closed : List SocketKey

namespace Network

/-- A panel process that starts on the tables of a database. -/
def start (store : ServerAgentStore) : Network :=
  ⟨ServerAgentService.new store, [], []⟩

def view (network : Network) : CommandView :=
  network.service.view network.sent

def commands (network : Network) : List ServerCommand :=
  network.service.store.commands

end Network

def ServiceEvent.speaker : ServiceEvent → Option SocketKey
  | .opened socket => some socket
  | .message _ socket _ => some socket
  | _ => none

def ServiceEvent.closes : ServiceEvent → List SocketKey
  | .closed _ socket => [socket]
  | _ => []

def networkStep (network : Network) (event : ServiceEvent) :
    Option (Network × List Effect) :=
  if event.speaker.any (· ∈ network.closed) then
    none
  else
    match serve event network.service with
    | (service, effects) =>
        some
          (⟨service, network.sent ++ deliveries effects,
            event.closes ++ network.closed⟩, effects)

theorem networkStep_change
    {network next : Network} {event : ServiceEvent} {effects : List Effect}
    (stepEquality : networkStep network event = some (next, effects)) :
    Change event network.view next.view := by
  unfold networkStep at stepEquality
  split at stepEquality
  · cases stepEquality
  · cases Option.some.inj stepEquality
    exact serve_change event network.service network.sent

theorem networkStep_closed
    {network next : Network} {environment : Environment}
    {socket : SocketKey} {effects : List Effect}
    (stepEquality : networkStep network (.closed environment socket) =
      some (next, effects)) :
    next.view = network.view.close socket := by
  unfold networkStep at stepEquality
  split at stepEquality
  · cases stepEquality
  · cases Option.some.inj stepEquality
    exact close_realizes environment socket network.service network.sent

variable {command : ServerCommand}

theorem RowUpdate.mem_of_terminal
    {row : ServerCommand → ServerCommand} (update : RowUpdate row)
    {commands : List ServerCommand}
    (member : command ∈ commands) (terminal : command.status.terminal) :
    command ∈ commands.map row := by
  rw [← update.terminal command terminal]
  exact List.mem_map_of_mem member

theorem CommandView.close_terminal
    {view : CommandView} (socket : SocketKey)
    (member : command ∈ view.commands) (terminal : command.status.terminal) :
    command ∈ (view.close socket).commands := by
  unfold CommandView.close
  split
  · exact member
  · split
    · exact member
    · exact RowUpdate.mem_of_terminal (requeueRow_rowUpdate _) member terminal

theorem Round.terminal
    {environment : Environment} {bindingId : String}
    {view next : CommandView}
    (round : Round environment bindingId view next)
    (member : command ∈ view.commands) (terminal : command.status.terminal) :
    command ∈ next.commands := by
  induction round with
  | stopped blocked => exact member
  | expired socket head rest reading registered idle first late later ih =>
      exact ih
        (RowUpdate.mem_of_terminal (finishedRow_rowUpdate _ _ _ _) member
          terminal)
  | dropped socket head rest registered idle first throws =>
      exact CommandView.close_terminal socket member terminal
  | delivered socket head rest reading registered idle first timely =>
      exact RowUpdate.mem_of_terminal (deliveredRow_rowUpdate _ _) member
        terminal

/-- A finished command is kept unchanged, with its status, output, error and
times, by every event. -/
theorem Change.terminal
    {event : ServiceEvent} {view next : CommandView}
    (change : Change event view next)
    (member : command ∈ view.commands) (terminal : command.status.terminal) :
    command ∈ next.commands := by
  cases change with
  | unseen => exact member
  | registered => exact member
  | greeted environment socket message bindingId authenticated dispatched =>
      exact dispatched.terminal member terminal
  | acknowledged environment socket bindingId acked bound known owned =>
      exact RowUpdate.mem_of_terminal (runningRow_rowUpdate _ _) member
        terminal
  | finished environment socket message bindingId done output error bound
      known owned named result dispatched =>
      exact dispatched.terminal
        (RowUpdate.mem_of_terminal (finishedRow_rowUpdate _ _ _ _) member
          terminal) terminal
  | closed environment socket =>
      exact CommandView.close_terminal socket member terminal
  | created environment id bindingId type input payload unused dispatched =>
      exact dispatched.terminal (List.mem_append_left _ member) terminal
  | restarted =>
      exact RowUpdate.mem_of_terminal (requeueRow_rowUpdate none) member
        terminal

theorem terminal_kept
    {network final : Network} {events : List ServiceEvent}
    {effects : List Effect}
    (run : execute networkStep network events = some (final, effects))
    (member : command ∈ network.commands)
    (terminal : command.status.terminal) :
    command ∈ final.commands :=
  execute_induction (motive := fun state _ => command ∈ state.commands)
    (fun _ _ _ _ _ holds stepEquality =>
      (networkStep_change stepEquality).terminal holds terminal)
    member run

/-- An environment with a fixed clock reading whose `send` never throws. -/
def steadyEnvironment (now : Nat) : Environment where
  authenticate token := if token = "token" then some "survival" else none
  clock _ := now
  throws _ _ := none

def agentHello : AgentMessage :=
  .hello (some ⟨"token", "0.2.0", "game-1", [some "systemd"]⟩)

end GravitPanel.Servers
