import GravitPanel.Servers.CommandView

/-!
# What each handler changes

Every handler of the service realizes one of the changes of `Change`.
Invariants of commands and connections are proved from that relation and never
unfold a handler.
-/

namespace GravitPanel.Servers

open GravitPanel.Action
open ServerAgentStore ServerAgentService

def viewAfter
    (handler : Handler) (service : ServerAgentService)
    (sent : List Delivery) : CommandView :=
  (handler service).1.view (sent ++ deliveries (handler service).2)

theorem viewAfter_andThen
    (first second : Handler) (service : ServerAgentService)
    (sent : List Delivery) :
    viewAfter (first.andThen second) service sent =
      viewAfter second (first service).1
        (sent ++ deliveries (first service).2) := by
  simp [viewAfter, andThen, List.append_assoc]

/-- A handler that the view does not see. -/
def Invisible (handler : Handler) : Prop :=
  ∀ service sent, viewAfter handler service sent = service.view sent

variable {change : CommandView → CommandView → Prop} {first second : Handler}

theorem Invisible.andThen
    (firstUnseen : Invisible first) (secondUnseen : Invisible second) :
    Invisible (first.andThen second) := by
  intro service sent
  rw [viewAfter_andThen, secondUnseen]
  exact firstUnseen service sent

/-- Whatever view a handler starts from, the change relates it to the view
that the handler leaves. -/
def Realizes
    (change : CommandView → CommandView → Prop) (handler : Handler) : Prop :=
  ∀ service sent, change (service.view sent) (viewAfter handler service sent)

theorem Realizes.after_invisible
    (realizes : Realizes change second) (unseen : Invisible first) :
    Realizes change (first.andThen second) := by
  intro service sent
  rw [viewAfter_andThen, ← unseen service sent]
  exact realizes _ _

theorem Realizes.before_invisible
    (realizes : Realizes change first) (unseen : Invisible second) :
    Realizes change (first.andThen second) := by
  intro service sent
  rw [viewAfter_andThen, unseen]
  exact realizes service sent

theorem Realizes.after_exact
    {update : CommandView → CommandView}
    (exact : Realizes (fun before after => after = update before) first)
    (realizes : Realizes change second) :
    Realizes (fun before after => change (update before) after)
      (first.andThen second) := by
  intro service sent
  rw [viewAfter_andThen, ← exact service sent]
  exact realizes _ _

theorem invisible_skip : Invisible skip := by
  intro service sent
  simp [viewAfter, skip]

theorem invisible_emit {effect : Effect} (quiet : deliveryOf effect = none) :
    Invisible (emit effect) := by
  intro service sent
  simp [viewAfter, emit, quiet]

theorem appendEvent_commands
    (store : ServerAgentStore) (bindingId type message : String)
    (commandId cursor : Option String) (createdAt : EventTime) :
    (store.appendEvent bindingId type message commandId cursor
      createdAt).1.commands = store.commands := by
  unfold appendEvent
  split <;> rfl

theorem deliveries_published (event : Option ServerRuntimeEvent) :
    deliveries (event.toList.map .published) = [] := by
  cases event <;> rfl

theorem invisible_publish
    (bindingId type message : String) (commandId cursor : Option String)
    (createdAt : EventTime) :
    Invisible
      (publish bindingId type message commandId cursor createdAt) := by
  intro service sent
  have commands :=
    appendEvent_commands service.store bindingId type message commandId
      cursor createdAt
  simp [viewAfter, publish, view, commands, deliveries_published]

theorem invisible_updateStore
    {change : ServerAgentStore → ServerAgentStore}
    (commands : ∀ store, (change store).commands = store.commands) :
    Invisible (updateStore change) := by
  intro service sent
  simp [viewAfter, updateStore, Action.update, view, commands]

theorem touch_commands
    (store : ServerAgentStore) (bindingId : String) (now : Nat) :
    (store.touch bindingId now).commands = store.commands := by
  unfold touch
  split <;> rfl

theorem saveRuntime_commands
    (store : ServerAgentStore) (bindingId : String)
    (runtime : ServerServiceRuntime) (now : Nat) :
    (store.saveRuntime bindingId runtime now).commands =
      store.commands := by
  unfold saveRuntime
  split <;> rfl

theorem deliveries_settled
    (requests : List (String × PendingFilesystemRequest))
    (result : Except String String) :
    deliveries (requests.map fun request =>
      .settled request.1 result) = [] := by
  induction requests with
  | nil => rfl
  | cons request rest ih => exact ih

theorem viewAfter_updateCommands
    (service : ServerAgentService) (sent : List Delivery)
    (row : ServerCommand → ServerCommand) :
    viewAfter (updateStore fun store => store.updateCommands row) service
        sent =
      (service.view sent).updateCommands row := by
  simp [viewAfter, updateStore, Action.update, view,
    CommandView.updateCommands, ServerAgentStore.updateCommands]

theorem close_realizes (environment : Environment) (socket : SocketKey) :
    Realizes (fun before after => after = before.close socket)
      (close environment socket) := by
  intro service sent
  cases bound : service.bindings.lookup socket with
  | none =>
      simp [viewAfter, close, andThen, Action.update, bound, view,
        CommandView.close]
  | some bindingId =>
      by_cases registered :
          service.sockets.lookup bindingId = some socket
      · simp [viewAfter, close, andThen, Action.update, bound, registered,
          view, CommandView.close, dropFilesystem, deliveries_settled,
          updateStore, publish, skip, appendEvent_commands,
          deliveries_published, requeueActive,
          ServerAgentStore.updateCommands]
      · simp [viewAfter, close, andThen, Action.update, bound, registered,
          view, CommandView.close]

theorem pendingRows_finished_length
    {commands rest : List ServerCommand} {bindingId : String}
    {command : ServerCommand} {output error : Option String}
    {now : Nat}
    (first : pendingRows commands bindingId = command :: rest) :
    (pendingRows (commands.map (finishedRow command.id output error now))
        bindingId).length < (pendingRows commands bindingId).length := by
  have queuedBefore : ∀ other : ServerCommand,
      (finishedRow command.id output error now other).status = .queued →
        other.status = .queued ∧ other.id ≠ command.id := by
    intro other queued
    by_cases same : other.id = command.id
    · exfalso
      unfold finishedRow at queued
      split at queued
      · simp only at queued
        split at queued <;> cases queued
      · rename_i unselected
        exact unselected ⟨same, by simp [queued,
          ServerCommandStatus.terminal]⟩
    · unfold finishedRow at queued
      rw [if_neg fun selected => same selected.1] at queued
      exact ⟨queued, same⟩
  have sameBinding :=
    (finishedRow_rowUpdate command.id output error now).bindingId
  have member : command ∈ commands ∧ command.bindingId = bindingId ∧
      command.status = .queued := by
    rw [← mem_pendingRows, first]
    exact List.mem_cons_self
  simp only [pendingRows, byCreation, List.length_insertionSort,
    ← List.countP_eq_length_filter, List.countP_map]
  -- Every row that is still counted was counted before, apart from `command`.
  obtain ⟨before, after, rfl⟩ := List.mem_iff_append.mp member.1
  have fewer : ∀ rows : List ServerCommand,
      rows.countP ((fun row => decide (row.bindingId = bindingId ∧
          row.status = .queued)) ∘
            finishedRow command.id output error now) ≤
        rows.countP fun row => decide (row.bindingId = bindingId ∧
          row.status = .queued) := by
    intro rows
    apply List.countP_mono_left
    intro row _ counted
    simp only [Function.comp, decide_eq_true_eq, sameBinding] at counted ⊢
    exact ⟨counted.1, (queuedBefore row counted.2).1⟩
  have dropped :
      ((fun row => decide (row.bindingId = bindingId ∧
        row.status = .queued)) ∘
          finishedRow command.id output error now) command = false := by
    simp only [Function.comp, decide_eq_false_iff_not]
    intro counted
    exact (queuedBefore command counted.2).2 rfl
  have counted : (decide (command.bindingId = bindingId ∧
      command.status = .queued)) = true := decide_eq_true member.2
  simp only [List.countP_append, List.countP_cons, dropped, counted]
  have firstPart := fewer before
  have secondPart := fewer after
  simp only [if_true, Bool.false_eq_true, if_false]
  omega

theorem dispatchLoop_expired
    (environment : Environment) (bindingId : String) (rounds : Nat)
    (service : ServerAgentService) (sent : List Delivery)
    (socket : SocketKey) (command : ServerCommand)
    (rest : List ServerCommand)
    (registered : service.sockets.lookup bindingId = some socket)
    (active : service.store.activeCommand bindingId = none)
    (pending : service.store.pendingCommands bindingId = command :: rest)
    (late : deliveryDeadline <
      environment.clock rounds - command.createdAt)
    (enough :
      (service.store.pendingCommands bindingId).length < rounds + 1)
    (ih :
      ∀ (service : ServerAgentService) (sent : List Delivery),
        (service.store.pendingCommands bindingId).length < rounds →
          Round environment bindingId (service.view sent)
            (viewAfter (dispatchLoop environment bindingId rounds) service
              sent)) :
    Round environment bindingId (service.view sent)
      (viewAfter (dispatchLoop environment bindingId (rounds + 1)) service
        sent) := by
  let finishing : Handler := updateStore fun store =>
    store.finishCommand command.id none (some expiredMessage)
      (environment.clock rounds)
  let reporting : Handler := publish bindingId "command.failed"
    expiredMessage (some command.id) none (.clock (environment.clock rounds))
  let next : ServerAgentService := (reporting (finishing service).1).1
  have viewEquality :
      next.view sent = (service.view sent).updateCommands
        (finishedRow command.id none (some expiredMessage)
          (environment.clock rounds)) := by
    simp [next, reporting, finishing, publish, view, updateStore,
      Action.update, appendEvent_commands, finishCommand,
      CommandView.updateCommands, ServerAgentStore.updateCommands]
  have shape :
      viewAfter (dispatchLoop environment bindingId (rounds + 1)) service
          sent =
        viewAfter (dispatchLoop environment bindingId rounds) next sent := by
    simp [viewAfter, dispatchLoop, registered, active, pending, late, next,
      reporting, finishing, andThen, updateStore, Action.update, publish,
      deliveries_published, skip]
  have fewer :
      (next.store.pendingCommands bindingId).length < rounds := by
    have commands := congrArg CommandView.commands viewEquality
    change next.store.commands = service.store.commands.map _ at commands
    rw [pendingCommands, commands]
    have less := @pendingRows_finished_length service.store.commands rest
      bindingId command none (some expiredMessage) (environment.clock rounds)
      pending
    simp only [pendingCommands] at enough
    omega
  have later := ih next sent fewer
  rw [viewEquality] at later
  rw [shape]
  exact .expired socket command rest rounds registered active pending late
    later

theorem dispatchLoop_delivered
    (environment : Environment) (bindingId : String) (rounds : Nat)
    (service : ServerAgentService) (sent : List Delivery)
    (socket : SocketKey) (command : ServerCommand)
    (rest : List ServerCommand)
    (registered : service.sockets.lookup bindingId = some socket)
    (active : service.store.activeCommand bindingId = none)
    (pending : service.store.pendingCommands bindingId = command :: rest)
    (timely : ¬ deliveryDeadline <
      environment.clock rounds - command.createdAt) :
    Round environment bindingId (service.view sent)
      (viewAfter (dispatchLoop environment bindingId (rounds + 1)) service
        sent) := by
  cases throws : environment.throws socket (commandMessage command) with
  | some error =>
      have shape :
          viewAfter (dispatchLoop environment bindingId (rounds + 1))
              service sent =
            viewAfter (close environment socket) service sent := by
        simp [viewAfter, dispatchLoop, registered, active, pending, timely,
          throws]
      rw [shape, close_realizes environment socket service sent]
      exact .dropped socket command rest registered active pending
        (by simp [throws])
  | none =>
      have shape :
          viewAfter (dispatchLoop environment bindingId (rounds + 1))
              service sent =
            (service.view sent).deliver socket command
              (environment.clock rounds) := by
        rw [viewAfter]
        simp only [dispatchLoop, registered, active, pending, if_neg timely,
          throws]
        simp [andThen, emit, updateStore, Action.update, publish, skip,
          appendEvent_commands, view, CommandView.deliver, markDelivered,
          ServerAgentStore.updateCommands, deliveries, deliveryOf,
          commandMessage]
      rw [shape]
      exact .delivered socket command rest rounds registered active pending
        (Nat.not_lt.mp timely)

theorem dispatchLoop_realizes
    (environment : Environment) (bindingId : String) :
    ∀ (rounds : Nat) (service : ServerAgentService) (sent : List Delivery),
      (service.store.pendingCommands bindingId).length < rounds →
        Round environment bindingId (service.view sent)
          (viewAfter (dispatchLoop environment bindingId rounds) service
            sent)
  | 0, service, sent, enough => absurd enough (Nat.not_lt_zero _)
  | rounds + 1, service, sent, enough => by
      have stop :
          (service.sockets.lookup bindingId = none ∨
            service.store.activeCommand bindingId ≠ none ∨
              service.store.pendingCommands bindingId = []) →
          dispatchLoop environment bindingId (rounds + 1) service =
            (service, []) →
          Round environment bindingId (service.view sent)
            (viewAfter (dispatchLoop environment bindingId (rounds + 1))
              service sent) := by
        intro blocked equality
        rw [viewAfter, equality, deliveries_nil, List.append_nil]
        exact .stopped blocked
      cases registered : service.sockets.lookup bindingId with
      | none => exact stop (.inl registered) (by simp [dispatchLoop, registered])
      | some socket =>
          cases active : service.store.activeCommand bindingId with
          | some command =>
              exact stop (.inr (.inl (by simp [active])))
                (by simp [dispatchLoop, registered, active])
          | none =>
              cases pending : service.store.pendingCommands bindingId with
              | nil =>
                  exact stop (.inr (.inr pending))
                    (by simp [dispatchLoop, registered, active, pending])
              | cons command rest =>
                  by_cases late : deliveryDeadline <
                      environment.clock rounds - command.createdAt
                  · exact dispatchLoop_expired environment bindingId rounds
                      service sent socket command rest registered active
                      pending late enough
                      (dispatchLoop_realizes environment bindingId rounds)
                  · exact dispatchLoop_delivered environment bindingId rounds
                      service sent socket command rest registered active
                      pending late

theorem dispatchNext_realizes
    (environment : Environment) (bindingId : String) :
    Realizes (Round environment bindingId)
      (dispatchNext environment bindingId) := by
  intro service sent
  exact dispatchLoop_realizes environment bindingId _ service sent
    (Nat.lt_succ_self _)

theorem update_dispatch_realizes
    {before : List Handler} (environment : Environment)
    (bindingId : String) (row : ServerCommand → ServerCommand)
    (unseen : ∀ handler ∈ before, Invisible handler) :
    Realizes
      (fun view next => Round environment bindingId
        (view.updateCommands row) next)
      ((updateStore fun store => store.updateCommands row).andThen
        (all (before ++ [dispatchNext environment bindingId]))) := by
  have dispatches : ∀ handlers : List Handler,
      (∀ handler ∈ handlers, Invisible handler) →
      Realizes (Round environment bindingId)
        (all (handlers ++ [dispatchNext environment bindingId])) := by
    intro handlers
    induction handlers with
    | nil =>
        intro _
        exact (dispatchNext_realizes environment bindingId).before_invisible
          invisible_skip
    | cons handler rest ih =>
        intro each
        exact (ih fun other member =>
          each other (List.mem_cons_of_mem handler member)).after_invisible
            (each handler List.mem_cons_self)
  have updates :
      Realizes (fun before after => after = before.updateCommands row)
        (updateStore fun store => store.updateCommands row) :=
    fun service sent => viewAfter_updateCommands service sent row
  exact updates.after_exact (dispatches before unseen)

theorem getCommand_spec
    {store : ServerAgentStore} {id : String} {command : ServerCommand}
    (found : store.getCommand id = some command) :
    command ∈ store.commands ∧ command.id = id := by
  refine ⟨List.mem_of_find?_eq_some found, ?_⟩
  simpa using List.find?_some found

theorem change_of_invisible
    {handler : Handler} (event : ServiceEvent) (unseen : Invisible handler) :
    Realizes (Change event) handler := by
  intro service sent
  rw [unseen]
  exact .unseen event _

theorem invisible_openSocket (socket : SocketKey) :
    Invisible (openSocket socket) := by
  intro service sent
  unfold viewAfter openSocket
  split <;> simp [view, deliveryOf]

theorem invisible_helloTimeout (socket : SocketKey) :
    Invisible (helloTimeout socket) := by
  intro service sent
  unfold viewAfter helloTimeout
  split
  · split <;> simp [view, deliveryOf]
  · simp

theorem invisible_closePrevious
    (bindingId : String) (socket : SocketKey) :
    Invisible (closePrevious bindingId socket) := by
  intro service sent
  unfold viewAfter closePrevious
  split
  · split <;> simp [deliveryOf]
  · simp

theorem invisible_requestFilesystem
    (environment : Environment) (id bindingId operation payload : String) :
    Invisible
      (requestFilesystem environment id bindingId operation payload) := by
  intro service sent
  unfold viewAfter requestFilesystem
  split
  · simp [deliveryOf]
  · split
    · simp [deliveryOf]
    · split <;> simp [view, deliveryOf]

theorem invisible_filesystemTimeout (requestId : String) :
    Invisible (filesystemTimeout requestId) := by
  intro service sent
  unfold viewAfter filesystemTimeout
  split <;> simp [view, deliveryOf]

theorem invisible_filesystemResponse
    (socket : SocketKey) (bindingId : String) (requestId : Option String)
    (ok : Bool) (result : String) (error : Option String) :
    Invisible
      (filesystemResponse socket bindingId requestId ok result error) := by
  intro service sent
  unfold viewAfter filesystemResponse
  split
  · simp
  · split
    · simp
    · split <;> simp [view, deliveryOf]

theorem invisible_status
    (environment : Environment) (bindingId : String)
    (value : Option ServerServiceRuntime) :
    Invisible (status environment bindingId value) := by
  cases value with
  | none => exact invisible_skip
  | some runtime =>
      exact invisible_updateStore fun store =>
        saveRuntime_commands store bindingId _ _

theorem invisible_log
    (environment : Environment) (socket : SocketKey) (bindingId : String)
    (line : Option LogLine) :
    Invisible (log environment socket bindingId line) := by
  cases line with
  | none => exact invisible_skip
  | some line =>
      refine (invisible_publish _ _ _ _ _ _).andThen ?_
      cases line.cursor with
      | none => exact invisible_skip
      | some cursor =>
          simp only
          split
          · exact invisible_skip
          · split
            · exact invisible_skip
            · exact invisible_emit rfl

theorem withCommand_change
    {event : ServiceEvent} {bindingId : String} {commandId : Option String}
    {handler : ServerCommand → Handler} {service : ServerAgentService}
    {sent : List Delivery}
    (found : ∀ command ∈ service.store.commands,
      commandId = some command.id → command.bindingId = bindingId →
        Change event (service.view sent)
          (viewAfter (handler command) service sent)) :
    Change event (service.view sent)
      (viewAfter (withCommand bindingId commandId handler) service sent) := by
  have unseen : Change event (service.view sent)
      (service.view (sent ++ deliveries [])) := by
    rw [deliveries_nil, List.append_nil]
    exact .unseen event _
  unfold viewAfter withCommand
  split
  · exact unseen
  · rename_i command lookup
    split
    · exact unseen
    · rename_i owned
      obtain ⟨id, rfl, selected⟩ := Option.bind_eq_some_iff.mp lookup
      obtain ⟨member, rfl⟩ := getCommand_spec selected
      exact found command member rfl (not_not.mp owned)

theorem handleBound_change
    {environment : Environment} {socket : SocketKey} {bindingId : String}
    {message : AgentMessage} {service : ServerAgentService}
    (bound : service.bindings.lookup socket = some bindingId)
    (sent : List Delivery) :
    Change (.message environment socket message) (service.view sent)
      (viewAfter (handleBound environment socket bindingId message) service
        sent) := by
  cases message with
  | status runtime =>
      exact change_of_invisible _
        (invisible_status environment bindingId runtime) service sent
  | log line =>
      exact change_of_invisible _
        (invisible_log environment socket bindingId line) service sent
  | fsResponse requestId ok result error =>
      exact change_of_invisible _
        (invisible_filesystemResponse socket bindingId requestId ok result
          error) service sent
  | commandAck commandId =>
      apply withCommand_change
      rintro command member rfl owned
      have acked :
          Realizes
            (fun before after => after = before.updateCommands
              (runningRow command.id (environment.clock 0)))
            (all
              [updateStore fun store =>
                store.markRunning command.id (environment.clock 0),
              publish bindingId "command.running" command.type.text
                (some command.id) none (.clock (environment.clock 0))]) := by
        have updates :
            Realizes
              (fun before after => after = before.updateCommands
                (runningRow command.id (environment.clock 0)))
              (updateStore fun store =>
                store.markRunning command.id (environment.clock 0)) :=
          fun service sent => viewAfter_updateCommands service sent _
        exact updates.before_invisible
          ((invisible_publish _ _ _ _ _ _).andThen invisible_skip)
      rw [acked service sent]
      exact .acknowledged environment socket bindingId command bound member
        owned
  | commandCompleted commandId output =>
      apply withCommand_change
      rintro command member rfl owned
      have realized :=
        @update_dispatch_realizes
          [if output.getD "" = "" then skip
            else publish bindingId "command.output" (output.getD "")
              (some command.id) none (.clock (environment.clock 0)),
          publish bindingId "command.succeeded" command.type.text
            (some command.id) none (.clock (environment.clock 0))]
          environment bindingId
          (finishedRow command.id (some (output.getD "")) none
            (environment.clock 0))
          (by
            intro handler handlerMember
            simp only [List.mem_cons, List.not_mem_nil, or_false]
              at handlerMember
            rcases handlerMember with rfl | rfl
            · split
              · exact invisible_skip
              · exact invisible_publish _ _ _ _ _ _
            · exact invisible_publish _ _ _ _ _ _)
          service sent
      exact .finished environment socket _ bindingId command _ _ bound member
        owned rfl rfl realized
  | commandFailed commandId error =>
      apply withCommand_change
      rintro command member rfl owned
      have realized :=
        @update_dispatch_realizes
          [publish bindingId "command.failed"
            (error.getD "Agent command failed") (some command.id) none
            (.clock (environment.clock 0))]
          environment bindingId
          (finishedRow command.id none
            (some (error.getD "Agent command failed"))
            (environment.clock 0))
          (by
            intro handler handlerMember
            rw [List.mem_singleton.mp handlerMember]
            exact invisible_publish _ _ _ _ _ _)
          service sent
      exact .finished environment socket _ bindingId command _ _ bound member
        owned rfl rfl realized
  | _ => exact change_of_invisible _ invisible_skip service sent

theorem hello_realizes
    {environment : Environment} {socket : SocketKey} {message : AgentHello}
    {bindingId : String}
    (authenticated :
      environment.authenticate message.token = some bindingId) :
    Realizes
        (fun before after => after = before.register bindingId socket)
        (hello environment socket (some message)) ∨
      Realizes
        (fun before after => Round environment bindingId
          (before.register bindingId socket) after)
        (hello environment socket (some message)) := by
  rw [hello]
  simp only [authenticated]
  have registers :
      Realizes
        (fun before after => after = before.register bindingId socket)
        (register bindingId socket) := by
    intro service sent
    simp [viewAfter, register, Action.update, view, CommandView.register]
  have saves :
      Invisible (updateStore fun store =>
        store.saveAgent bindingId
          (JavaScript.slice 64 message.agentVersion)
          (JavaScript.slice 253 message.hostname)
          ((message.capabilities.filterMap id).take 32)
          (environment.clock 0)) :=
    invisible_updateStore fun _ => rfl
  cases throws : environment.throws socket (.helloAccepted bindingId) with
  | some error =>
      exact .inl
        ((registers.before_invisible
          (saves.andThen (invisible_skip.andThen
            invisible_skip))).after_invisible
              (invisible_closePrevious bindingId socket))
  | none =>
      have dispatches :=
        ((((dispatchNext_realizes environment
          bindingId).before_invisible
            invisible_skip).after_invisible
              (invisible_publish bindingId "agent.connected"
                ("Host agent connected from " ++ message.hostname)
                none none
                (.clock (environment.clock 0)))).after_invisible
                  (@invisible_emit
                    (.sent socket (.helloAccepted bindingId))
                    rfl)).before_invisible invisible_skip
      exact .inr
        ((registers.after_exact
          (dispatches.after_invisible saves)).after_invisible
            (invisible_closePrevious bindingId socket))

theorem hello_change
    (environment : Environment) (socket : SocketKey)
    (message : Option AgentHello) :
    Realizes (Change (.message environment socket (.hello message)))
      (hello environment socket message) := by
  cases message with
  | none => exact change_of_invisible _ (invisible_emit rfl)
  | some message =>
      cases authenticated : environment.authenticate message.token with
      | none =>
          rw [hello]
          simp only [authenticated]
          exact change_of_invisible _ (invisible_emit rfl)
      | some bindingId =>
          intro service sent
          rcases @hello_realizes environment socket message bindingId
              authenticated with registers | greets
          · rw [registers service sent]
            exact .registered environment socket message bindingId
              authenticated
          · exact .greeted environment socket message bindingId
              authenticated (greets service sent)

theorem createCommand_change
    (environment : Environment) (id bindingId : String)
    (type : ServerCommandType) (command : Option String) :
    Realizes (Change (.createCommand environment id bindingId type command))
      (ServerAgentService.createCommand environment id bindingId type
        command) := by
  unfold ServerAgentService.createCommand
  cases commandPayload type command with
  | error reason => exact change_of_invisible _ (invisible_emit rfl)
  | ok payload =>
      intro service sent
      by_cases taken : id ∈ service.store.commands.map ServerCommand.id
      · simp only [viewAfter, ServerAgentStore.createCommand, if_pos taken,
          deliveries_cons, deliveryOf, deliveries_nil, Option.toList_none,
          List.append_nil]
        exact .unseen _ _
      · have dispatches :=
          ((((dispatchNext_realizes environment bindingId).before_invisible
            ((@invisible_emit (.created (newCommand id bindingId type payload
              (environment.clock 0))) rfl).andThen
                invisible_skip)).after_invisible
                  (invisible_publish bindingId "command.queued" type.text
                    (some (newCommand id bindingId type payload
                      (environment.clock 0)).id) none
                    (.clock (environment.clock 0)))))
        have result := dispatches
          { service with
            store := { service.store with
              commands := service.store.commands ++
                [newCommand id bindingId type payload
                  (environment.clock 0)] } } sent
        refine .created environment id bindingId type command payload taken ?_
        simpa [viewAfter, ServerAgentStore.createCommand, taken, andThen,
          updateStore, Action.update, view, CommandView.create] using result

theorem restart_change :
    Realizes (Change .restarted)
      (Action.update fun service : ServerAgentService =>
        new service.store) := by
  intro service sent
  have shape :
      viewAfter (Action.update fun service : ServerAgentService =>
        new service.store) service sent = (service.view sent).restart := by
    simp [viewAfter, Action.update, new, view, CommandView.restart,
      requeueActive, ServerAgentStore.updateCommands]
  rw [shape]
  exact .restarted

/-- The part of `handle` that answers a socket for its binding. -/
def answer
    (environment : Environment) (socket : SocketKey)
    (message : AgentMessage) : Handler := fun service =>
  match service.bindings.lookup socket with
  | none => (service, [.closeAsked socket])
  | some bindingId =>
      ((updateStore fun store =>
        store.touch bindingId (environment.clock 0)).andThen
          (handleBound environment socket bindingId message)) service

theorem answer_change
    (environment : Environment) (socket : SocketKey)
    (message : AgentMessage) :
    Realizes (Change (.message environment socket message))
      (answer environment socket message) := by
  intro service sent
  cases lookup : service.bindings.lookup socket with
  | none =>
      simp only [viewAfter, answer, lookup, deliveries_cons, deliveryOf,
        deliveries_nil, Option.toList_none, List.append_nil]
      exact .unseen _ _
  | some bindingId =>
      have touches :
          Invisible (updateStore fun store =>
            store.touch bindingId (environment.clock 0)) :=
        invisible_updateStore fun store => touch_commands store bindingId _
      have result := @handleBound_change environment socket bindingId message
        ((updateStore fun store =>
          store.touch bindingId (environment.clock 0)) service).1
        lookup
        (sent ++ deliveries ((updateStore fun store =>
          store.touch bindingId (environment.clock 0)) service).2)
      rw [← viewAfter_andThen] at result
      have same := touches service sent
      rw [viewAfter] at same
      rw [same] at result
      simpa only [viewAfter, answer, lookup] using result

theorem serve_change (event : ServiceEvent) :
    Realizes (Change event) (serve event) := by
  cases event with
  | opened socket => exact change_of_invisible _ (invisible_openSocket socket)
  | helloTimedOut socket =>
      exact change_of_invisible _ (invisible_helloTimeout socket)
  | closed environment socket =>
      intro service sent
      rw [serve, close_realizes environment socket service sent]
      exact .closed environment socket
  | createCommand environment id bindingId type command =>
      exact createCommand_change environment id bindingId type command
  | requestFilesystem environment id bindingId operation payload =>
      exact change_of_invisible _
        (invisible_requestFilesystem environment id bindingId operation
          payload)
  | filesystemTimedOut requestId =>
      exact change_of_invisible _ (invisible_filesystemTimeout requestId)
  | restarted => exact restart_change
  | message environment socket message =>
      cases message with
      | unreadable => exact change_of_invisible _ invisible_skip
      | hello message => exact hello_change environment socket message
      | _ => exact answer_change environment socket _

end GravitPanel.Servers
