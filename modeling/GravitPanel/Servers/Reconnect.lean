import GravitPanel.Servers.AgentNetwork

/-!
# Commands across a reconnect

A delivered or running command can still be answered when one of the sessions
it was sent on is open.  The close of a replaced socket is the only event that
can take the last such session away: `close` returns early for it and requeues
nothing.
-/

namespace GravitPanel.Servers

open GravitPanel.Execution
open ServerAgentStore

/-- An agent of one binding: it presents that binding's token, and it reports
about a command only on a socket on which the command was sent. -/
def SessionConduct (bindingId : String) (network : Network) :
    ServiceEvent → Prop
  | .message environment socket message =>
      (∀ hello, message = .hello (some hello) →
        ∀ owner ∈ environment.authenticate hello.token,
          owner = bindingId) ∧
        ∀ id ∈ message.names, ∃ delivery ∈ network.sent,
          delivery.socket = socket ∧ delivery.id = id
  | _ => True

def SentOnOpenSession
    (bindingId : String) (view : CommandView) (command : ServerCommand) :
    Prop :=
  ∃ delivery ∈ view.sent, delivery.id = command.id ∧
    view.bindings.lookup delivery.socket = some bindingId

/-- While a socket is registered, each active command was sent on it or on
another session that is still open. -/
def Answerable (bindingId : String) (network : Network) : Prop :=
  ∀ registered ∈ network.service.sockets.lookup bindingId,
    ∀ command ∈ network.commands, command.bindingId = bindingId →
      command.status.active →
        ∃ delivery ∈ network.sent, delivery.id = command.id ∧
          (delivery.socket = registered ∨
            network.service.bindings.lookup delivery.socket =
              some bindingId)

/-- The early return of `close` is not taken while an active command was sent
on no other open session. -/
def HarmlessClose (bindingId : String) (network : Network) :
    ServiceEvent → Prop
  | .closed _ socket =>
      network.service.bindings.lookup socket = some bindingId →
      network.service.sockets.lookup bindingId ≠ some socket →
        ∀ command ∈ network.commands, command.bindingId = bindingId →
          command.status.active →
            ∃ delivery ∈ network.sent, delivery.id = command.id ∧
              delivery.socket ≠ socket ∧
                network.service.bindings.lookup delivery.socket =
                  some bindingId
  | _ => True

instance (bindingId : String) (network : Network) :
    Decidable (Answerable bindingId network) := by
  unfold Answerable
  infer_instance

theorem presents_iff
    {environment : Environment} {hello : AgentHello} {bindingId : String} :
    (∀ owner ∈ environment.authenticate hello.token, owner = bindingId) ↔
      ∀ other, AgentMessage.hello (some hello) = .hello (some other) →
        ∀ owner ∈ environment.authenticate other.token,
          owner = bindingId := by
  constructor
  · intro holds other same
    cases same
    exact holds
  · intro holds
    exact holds hello rfl

instance (environment : Environment) (message : AgentMessage)
    (bindingId : String) :
    Decidable (∀ hello, message = .hello (some hello) →
      ∀ owner ∈ environment.authenticate hello.token,
        owner = bindingId) :=
  match message with
  | .hello (some _) => decidable_of_iff _ presents_iff
  | .hello none | .unreadable | .heartbeat | .status _ | .log _
  | .commandAck _ | .commandCompleted _ _ | .commandFailed _ _
  | .fsResponse _ _ _ _ | .unknown => .isTrue fun other same => by cases same

instance (bindingId : String) (network : Network) (event : ServiceEvent) :
    Decidable (SessionConduct bindingId network event) :=
  match event with
  | .message .. => by unfold SessionConduct; infer_instance
  | .opened _ | .helloTimedOut _ | .closed .. | .createCommand ..
  | .requestFilesystem .. | .filesystemTimedOut _ | .restarted =>
      instDecidableTrue

instance (bindingId : String) (network : Network) (event : ServiceEvent) :
    Decidable (HarmlessClose bindingId network event) :=
  match event with
  | .closed .. => by unfold HarmlessClose; infer_instance
  | .opened _ | .helloTimedOut _ | .message .. | .createCommand ..
  | .requestFilesystem .. | .filesystemTimedOut _ | .restarted =>
      instDecidableTrue

/-- The sockets of the one binding, and its active commands. -/
structure Connected (bindingId : String) (view : CommandView) : Prop where
  registered : ∀ owner socket, view.sockets.lookup owner = some socket →
    owner = bindingId ∧ view.bindings.lookup socket = some bindingId
  bound : ∀ socket owner, view.bindings.lookup socket = some owner →
    owner = bindingId
  answerable : ∀ command ∈ view.commands, command.bindingId = bindingId →
    command.status.active → SentOnOpenSession bindingId view command

section Steps

variable {bindingId : String} {view next : CommandView}

theorem Connected.updateCommands
    {row : ServerCommand → ServerCommand}
    (connected : Connected bindingId view) (update : RowUpdate row)
    (activates : ∀ command ∈ view.commands,
      command.bindingId = bindingId → (row command).status.active →
        SentOnOpenSession bindingId view command) :
    Connected bindingId (view.updateCommands row) where
  registered := connected.registered
  bound := connected.bound
  answerable command member owned active := by
    obtain ⟨before, present, rfl⟩ := List.mem_map.mp member
    rw [update.bindingId] at owned
    obtain ⟨delivery, sent, id, opened⟩ :=
      activates before present owned active
    refine ⟨delivery, sent, ?_, opened⟩
    rw [update.id, id]

theorem Connected.register
    (connected : Connected bindingId view) (socket : SocketKey) :
    Connected bindingId (view.register bindingId socket) where
  registered owner other lookup := by
    change (view.sockets.insert bindingId socket).lookup owner = some other
      at lookup
    change owner = bindingId ∧
      (view.bindings.insert socket bindingId).lookup other = some bindingId
    by_cases same : owner = bindingId
    · subst same
      rw [AList.lookup_insert] at lookup
      cases lookup
      exact ⟨rfl, AList.lookup_insert _⟩
    · rw [AList.lookup_insert_ne same] at lookup
      exact absurd (connected.registered owner other lookup).1 same
  bound other owner lookup := by
    change (view.bindings.insert socket bindingId).lookup other = some owner
      at lookup
    by_cases same : other = socket
    · subst same
      rw [AList.lookup_insert] at lookup
      exact (Option.some.inj lookup).symm
    · rw [AList.lookup_insert_ne same] at lookup
      exact connected.bound other owner lookup
  answerable command member owned active := by
    obtain ⟨delivery, sent, id, opened⟩ :=
      connected.answerable command member owned active
    refine ⟨delivery, sent, id, ?_⟩
    change (view.bindings.insert socket bindingId).lookup delivery.socket =
      some bindingId
    by_cases same : delivery.socket = socket
    · rw [same, AList.lookup_insert]
    · rw [AList.lookup_insert_ne same, opened]

theorem Connected.deliver
    {owner : String} {socket : SocketKey} {command : ServerCommand}
    {now : Nat}
    (connected : Connected bindingId view)
    (registered : view.sockets.lookup owner = some socket) :
    Connected bindingId (view.deliver socket command now) where
  registered := connected.registered
  bound := connected.bound
  answerable other member owned active := by
    obtain ⟨before, present, rfl⟩ := List.mem_map.mp member
    have update := deliveredRow_rowUpdate command.id now
    rw [update.bindingId] at owned
    rcases deliveredRow_active active with same | wasActive
    · refine ⟨_, List.mem_append_right _ List.mem_cons_self, ?_, ?_⟩
      · rw [update.id, same]
      · exact (connected.registered owner socket registered).2
    · obtain ⟨delivery, sent, id, opened⟩ :=
        connected.answerable before present owned wasActive
      refine ⟨delivery, List.mem_append_left _ sent, ?_, opened⟩
      rw [update.id, id]

theorem Connected.disconnect
    {owner : String} {socket : SocketKey}
    (connected : Connected bindingId view)
    (registered : view.sockets.lookup owner = some socket) :
    Connected bindingId (view.close socket) := by
  obtain ⟨rfl, bound⟩ := connected.registered owner socket registered
  unfold CommandView.close
  rw [bound]
  simp only [registered, ne_eq, not_true_eq_false, if_false]
  refine ⟨?_, ?_, ?_⟩
  · intro other otherSocket lookup
    change (view.sockets.erase owner).lookup other = some otherSocket
      at lookup
    by_cases same : other = owner
    · rw [same, AList.lookup_erase] at lookup
      cases lookup
    · rw [AList.lookup_erase_ne same] at lookup
      exact absurd (connected.registered other otherSocket lookup).1 same
  · intro other otherOwner lookup
    change (view.bindings.erase socket).lookup other = some otherOwner
      at lookup
    by_cases same : other = socket
    · rw [same, AList.lookup_erase] at lookup
      cases lookup
    · rw [AList.lookup_erase_ne same] at lookup
      exact connected.bound other otherOwner lookup
  · intro command member owned active
    obtain ⟨before, _, rfl⟩ := List.mem_map.mp member
    rw [(requeueRow_rowUpdate _).bindingId] at owned
    exact absurd active (requeueRow_idle owned)

theorem Connected.abandon
    {socket : SocketKey}
    (connected : Connected bindingId view)
    (bound : view.bindings.lookup socket = some bindingId)
    (other : view.sockets.lookup bindingId ≠ some socket)
    (harmless : ∀ command ∈ view.commands,
      command.bindingId = bindingId → command.status.active →
        ∃ delivery ∈ view.sent, delivery.id = command.id ∧
          delivery.socket ≠ socket ∧
            view.bindings.lookup delivery.socket = some bindingId) :
    Connected bindingId (view.close socket) := by
  unfold CommandView.close
  rw [bound]
  simp only [other, ne_eq, not_false_eq_true, if_true]
  refine ⟨?_, ?_, ?_⟩
  · intro owner registered lookup
    obtain ⟨rfl, opened⟩ := connected.registered owner registered lookup
    refine ⟨rfl, ?_⟩
    have different : registered ≠ socket := by
      rintro rfl
      exact other lookup
    rw [AList.lookup_erase_ne different, opened]
  · intro otherSocket owner lookup
    by_cases same : otherSocket = socket
    · rw [same, AList.lookup_erase] at lookup
      cases lookup
    · rw [AList.lookup_erase_ne same] at lookup
      exact connected.bound otherSocket owner lookup
  · intro command member owned active
    obtain ⟨delivery, sent, id, different, opened⟩ :=
      harmless command member owned active
    refine ⟨delivery, sent, id, ?_⟩
    rw [AList.lookup_erase_ne different, opened]

theorem Connected.round
    {environment : Environment} {owner : String}
    (round : Round environment owner view next)
    (connected : Connected bindingId view) : Connected bindingId next := by
  induction round with
  | stopped blocked => exact connected
  | expired socket command rest reading registered idle first late later ih =>
      apply ih
      apply connected.updateCommands (finishedRow_rowUpdate _ _ _ _)
      intro other member owned active
      exact connected.answerable other member owned
        (finishedRow_active active)
  | dropped socket command rest registered idle first throws =>
      exact connected.disconnect registered
  | delivered socket command rest reading registered idle first timely =>
      exact connected.deliver registered

theorem Connected.idle
    (connected : Connected bindingId view)
    {row : ServerCommand → ServerCommand} (update : RowUpdate row)
    (activates : ∀ command,
      (row command).status.active → command.status.active) :
    Connected bindingId (view.updateCommands row) := by
  apply connected.updateCommands update
  intro command member owned active
  exact connected.answerable command member owned (activates command active)

end Steps

theorem connected_step
    {bindingId : String} {network next : Network} {event : ServiceEvent}
    {effects : List Effect}
    (connected : Connected bindingId network.view)
    (conduct : SessionConduct bindingId network event)
    (harmless : HarmlessClose bindingId network event)
    (stepEquality : networkStep network event = some (next, effects)) :
    Connected bindingId next.view := by
  have change := networkStep_change stepEquality
  generalize next.view = after at change ⊢
  generalize viewEquality : network.view = view at change connected
  cases change with
  | unseen => exact connected
  | registered environment socket message owner authenticated =>
      cases conduct.1 message rfl owner authenticated
      exact connected.register socket
  | greeted environment socket message owner authenticated dispatched =>
      cases conduct.1 message rfl owner authenticated
      exact Connected.round dispatched (connected.register socket)
  | acknowledged environment socket owner command bound member owned =>
      apply connected.updateCommands (runningRow_rowUpdate _ _)
      intro other otherMember otherOwned active
      rcases runningRow_active active with same | wasActive
      · obtain ⟨delivery, sent, sameSocket, id⟩ := conduct.2 command.id rfl
        subst viewEquality
        refine ⟨delivery, sent, id.trans same.symm, ?_⟩
        rw [sameSocket, bound, connected.bound socket owner bound]
      · exact connected.answerable other otherMember otherOwned wasActive
  | finished environment socket message owner command output error bound
      member owned named result dispatched =>
      apply Connected.round dispatched
      exact connected.idle (finishedRow_rowUpdate _ _ _ _)
        fun _ => finishedRow_active
  | closed environment socket =>
      cases bound : view.bindings.lookup socket with
      | none =>
          have shape : view.close socket = view := by
            simp [CommandView.close, bound]
          rw [shape]
          exact connected
      | some owner =>
          cases connected.bound socket owner bound
          by_cases registered : view.sockets.lookup bindingId = some socket
          · exact connected.disconnect registered
          · subst viewEquality
            exact connected.abandon bound registered
              (harmless bound registered)
  | created environment id owner type input payload unused dispatched =>
      apply Connected.round dispatched
      refine ⟨connected.registered, connected.bound, ?_⟩
      intro command member owned active
      rcases List.mem_append.mp member with old | new
      · exact connected.answerable command old owned active
      · rw [List.mem_singleton.mp new] at active
        cases active
  | restarted =>
      refine ⟨?_, ?_, ?_⟩
      · intro owner socket lookup
        cases lookup
      · intro socket owner lookup
        cases lookup
      · intro command member owned active
        obtain ⟨before, _, rfl⟩ := List.mem_map.mp member
        exact absurd active (requeueRow_none_idle before)

theorem connected_start (bindingId : String) (store : ServerAgentStore) :
    Connected bindingId (Network.start store).view := by
  refine ⟨?_, ?_, ?_⟩
  · intro owner socket lookup
    cases lookup
  · intro socket owner lookup
    cases lookup
  · intro command member owned active
    obtain ⟨before, _, rfl⟩ := List.mem_map.mp member
    exact absurd active (requeueRow_none_idle before)

/-- If the early return of `close` is taken only when it is harmless, no
command is stranded by a reconnect; when the registered session is the only
open one, every active command was sent on it. -/
theorem reconnect_strands_nothing
    (bindingId : String) (store : ServerAgentStore)
    (events : List ServiceEvent) (final : Network) (effects : List Effect)
    (conduct : Meets networkStep (SessionConduct bindingId)
      (Network.start store) events)
    (harmless : Meets networkStep (HarmlessClose bindingId)
      (Network.start store) events)
    (run : execute networkStep (Network.start store) events =
      some (final, effects)) :
    Answerable bindingId final ∧
      ∀ registered,
        final.service.sockets.lookup bindingId = some registered →
        (∀ socket, final.service.bindings.lookup socket = some bindingId →
          socket = registered) →
        ∀ command ∈ final.commands, command.bindingId = bindingId →
          command.status.active →
            ∃ delivery ∈ final.sent, delivery.id = command.id ∧
              delivery.socket = registered := by
  have connected : Connected bindingId final.view :=
    execute_induction_of_meets
      (motive := fun network _ => Connected bindingId network.view)
      (fun _ _ _ _ _ holds condition stepEquality =>
        connected_step holds condition.1 condition.2 stepEquality)
      (connected_start bindingId store) (conduct.and harmless) run
  refine ⟨?_, ?_⟩
  · intro registered lookup command member owned active
    obtain ⟨delivery, sent, id, opened⟩ :=
      connected.answerable command member owned active
    exact ⟨delivery, sent, id, .inr opened⟩
  · intro registered lookup alone command member owned active
    obtain ⟨delivery, sent, id, opened⟩ :=
      connected.answerable command member owned active
    exact ⟨delivery, sent, id, alone delivery.socket opened⟩

/-- A close that is not harmless strands a command of the socket that replaced
the closed one. -/
theorem harmful_close_strands
    {bindingId : String} {network next : Network}
    {environment : Environment} {socket other : SocketKey}
    {effects : List Effect}
    (connected : Connected bindingId network.view)
    (stepEquality : networkStep network (.closed environment socket) =
      some (next, effects))
    (registered : network.service.sockets.lookup bindingId = some other)
    (harmful : ¬ HarmlessClose bindingId network
      (.closed environment socket)) :
    ¬ Answerable bindingId next := by
  intro answerable
  apply harmful
  intro bound different command member owned active
  have closed := networkStep_closed stepEquality
  have shape : network.view.close socket =
      { network.view with
        bindings := network.view.bindings.erase socket } := by
    have lookup : network.view.bindings.lookup socket = some bindingId :=
      bound
    have unregistered :
        network.view.sockets.lookup bindingId ≠ some socket := different
    unfold CommandView.close
    rw [lookup]
    exact if_pos unregistered
  rw [shape] at closed
  have sockets := congrArg CommandView.sockets closed
  have bindings := congrArg CommandView.bindings closed
  have commands := congrArg CommandView.commands closed
  have sent := congrArg CommandView.sent closed
  change next.service.sockets = network.service.sockets at sockets
  change next.service.bindings = network.service.bindings.erase socket
    at bindings
  change next.commands = network.commands at commands
  change next.sent = network.sent at sent
  unfold Answerable at answerable
  rw [sockets, commands, sent, bindings] at answerable
  obtain ⟨delivery, delivered, id, session⟩ :=
    answerable other registered command member owned active
  have otherDifferent : other ≠ socket := by
    rintro rfl
    exact different registered
  refine ⟨delivery, delivered, id, ?_⟩
  rcases session with same | opened
  · rw [same]
    exact ⟨otherDifferent,
      (connected.registered bindingId other registered).2⟩
  · have notClosed : delivery.socket ≠ socket := by
      intro same
      rw [same, AList.lookup_erase] at opened
      cases opened
    rw [AList.lookup_erase_ne notClosed] at opened
    exact ⟨notClosed, opened⟩

/-- The agent reconnects while its first command runs; the close of the
replaced socket is reported after the new `hello`. -/
def replacedEvents : List ServiceEvent :=
  [.message (steadyEnvironment 5) 1 agentHello,
    .createCommand (steadyEnvironment 10) "c1" "survival" .serviceStart none,
    .message (steadyEnvironment 20) 1 (.commandAck (some "c1")),
    .message (steadyEnvironment 30) 2 agentHello,
    .closed (steadyEnvironment 40) 1]

/-- The running command was sent on the closed socket only, and nothing
requeues it. -/
theorem replaced_socket_strands_command :
    Meets networkStep (SessionConduct "survival")
        (Network.start ServerAgentStore.empty) replacedEvents ∧
      ∃ final effects,
        execute networkStep (Network.start ServerAgentStore.empty)
            replacedEvents = some (final, effects) ∧
          ¬ Answerable "survival" final := by
  refine ⟨by decide +kernel, ?_⟩
  have stranded :
      (execute networkStep (Network.start ServerAgentStore.empty)
        replacedEvents).map (fun result =>
          decide (Answerable "survival" result.1)) = some false := by
    decide +kernel
  obtain ⟨⟨final, effects⟩, run, answer⟩ :=
    Option.map_eq_some_iff.mp stranded
  exact ⟨final, effects, run, of_decide_eq_false answer⟩

/-- The same reconnect with the close reported before the new `hello`. -/
def closedFirstEvents : List ServiceEvent :=
  [.message (steadyEnvironment 5) 1 agentHello,
    .createCommand (steadyEnvironment 10) "c1" "survival" .serviceStart none,
    .message (steadyEnvironment 20) 1 (.commandAck (some "c1")),
    .closed (steadyEnvironment 30) 1,
    .message (steadyEnvironment 40) 2 agentHello]

theorem reconnect_strands_nothing_closed_first :
    ∃ final effects,
      execute networkStep (Network.start ServerAgentStore.empty)
          closedFirstEvents = some (final, effects) ∧
        Answerable "survival" final := by
  have succeeds :
      (execute networkStep (Network.start ServerAgentStore.empty)
        closedFirstEvents).isSome := by
    decide +kernel
  obtain ⟨⟨final, effects⟩, run⟩ := Option.isSome_iff_exists.mp succeeds
  exact ⟨final, effects, run,
    (reconnect_strands_nothing "survival" ServerAgentStore.empty
      closedFirstEvents final effects (by decide +kernel)
      (by decide +kernel) run).1⟩

end GravitPanel.Servers
