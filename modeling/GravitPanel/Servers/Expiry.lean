import GravitPanel.Servers.AgentNetwork

/-!
# Commands that expire

`dispatchNext` fails a command that is older than the deadline with the text
"Command expired before delivery".  The text is true of a command that was
never written to a socket; a command that `close` or a restart has requeued was
written before and can reach the same branch.  What was requeued is recorded
beside the network.
-/

namespace GravitPanel.Servers

open GravitPanel.Execution
open ServerAgentStore ServerAgentService

/-- No command with the id was ever written to a socket. -/
def Unsent (sent : List Delivery) (id : String) : Prop :=
  ∀ delivery ∈ sent, delivery.id ≠ id

instance (sent : List Delivery) (id : String) :
    Decidable (Unsent sent id) := by
  unfold Unsent
  infer_instance

/-- A dispatch that starts from the view takes the branch that fails the
command for its age. -/
inductive Expires (environment : Environment) (bindingId : String) :
    CommandView → ServerCommand → Prop where
  | now {view : CommandView} (socket : SocketKey) (command : ServerCommand)
      (rest : List ServerCommand) (reading : Nat)
      (registered : view.sockets.lookup bindingId = some socket)
      (idle : activeRow view.commands bindingId = none)
      (first : pendingRows view.commands bindingId = command :: rest)
      (late : deliveryDeadline <
        environment.clock reading - command.createdAt) :
      Expires environment bindingId view command
  | later {view : CommandView} {other : ServerCommand} (socket : SocketKey)
      (command : ServerCommand) (rest : List ServerCommand) (reading : Nat)
      (registered : view.sockets.lookup bindingId = some socket)
      (idle : activeRow view.commands bindingId = none)
      (first : pendingRows view.commands bindingId = command :: rest)
      (late : deliveryDeadline <
        environment.clock reading - command.createdAt)
      (then_ : Expires environment bindingId
        (view.updateCommands (finishedRow command.id none
          (some expiredMessage) (environment.clock reading))) other) :
      Expires environment bindingId view other

/-- The view in which an event calls `dispatchNext`. -/
inductive Dispatches :
    ServiceEvent → CommandView → Environment → String → CommandView →
      Prop where
  | greeted {view : CommandView} (environment : Environment)
      (socket : SocketKey) (message : AgentHello) (bindingId : String)
      (authenticated :
        environment.authenticate message.token = some bindingId) :
      Dispatches (.message environment socket (.hello (some message))) view
        environment bindingId (view.register bindingId socket)
  | finished {view : CommandView} (environment : Environment)
      (socket : SocketKey) (message : AgentMessage) (bindingId : String)
      (command : ServerCommand) (output error : Option String)
      (bound : view.bindings.lookup socket = some bindingId)
      (member : command ∈ view.commands)
      (owned : command.bindingId = bindingId)
      (result : message.result = some (command.id, output, error)) :
      Dispatches (.message environment socket message) view environment
        bindingId (view.updateCommands (finishedRow command.id output error
          (environment.clock 0)))
  | created {view : CommandView} (environment : Environment)
      (id bindingId : String) (type : ServerCommandType)
      (input payload : Option String)
      (unused : id ∉ view.commands.map ServerCommand.id) :
      Dispatches (.createCommand environment id bindingId type input) view
        environment bindingId (view.create (newCommand id bindingId type
          payload (environment.clock 0)))

/-- A network with the commands that were requeued after a delivery. -/
structure RequeueRun where
  network : Network
  requeued : List String

/-- The commands whose `delivered_at` a step has cleared. -/
def requeuedBy (before after : List ServerCommand) : List String :=
  (before.filter fun command => command.deliveredAt.isSome ∧
    ∃ later ∈ after, later.id = command.id ∧
      later.deliveredAt = none).map ServerCommand.id

namespace RequeueRun

def start : RequeueRun :=
  ⟨Network.start ServerAgentStore.empty, []⟩

def step (run : RequeueRun) (event : ServiceEvent) :
    Option (RequeueRun × List Effect) :=
  (networkStep run.network event).map fun result =>
    (⟨result.1, run.requeued ++
      requeuedBy run.network.commands result.1.commands⟩, result.2)

end RequeueRun

/-- When the queue of a registered and idle agent is dispatched, no command in
it that was requeued is past the deadline; and no result that is stored for a
command that was sent has that very text as its error. -/
structure RequeuedInTime (run : RequeueRun) (event : ServiceEvent) :
    Prop where
  timely : ∀ environment bindingId view,
    Dispatches event run.network.view environment bindingId view →
      view.sockets.lookup bindingId ≠ none →
        activeRow view.commands bindingId = none →
          ∀ command ∈ pendingRows view.commands bindingId,
            command.id ∈ run.requeued → ∀ reading,
              environment.clock reading - command.createdAt ≤
                deliveryDeadline
  reported : ∀ environment socket message bindingId command output error,
    event = .message environment socket message →
      run.network.view.bindings.lookup socket = some bindingId →
        command ∈ run.network.commands →
          command.bindingId = bindingId →
            ¬ command.status.terminal →
              ¬ Unsent run.network.sent command.id →
                message.result = some (command.id, output, error) →
                  error.map (JavaScript.slice 4000) ≠ some expiredMessage

/-- A command that is stored as expired was never sent. -/
def ExpiryTruthful (network : Network) : Prop :=
  ∀ command ∈ network.commands, command.error = some expiredMessage →
    Unsent network.sent command.id

instance (network : Network) : Decidable (ExpiryTruthful network) := by
  unfold ExpiryTruthful
  infer_instance

/-- What makes the text true: only finished commands have an error. -/
structure Truthful (view : CommandView) : Prop where
  ids : (view.commands.map ServerCommand.id).Nodup
  finished : ∀ command ∈ view.commands, command.error ≠ none →
    command.status.terminal
  unsent : ∀ command ∈ view.commands,
    command.error = some expiredMessage → Unsent view.sent command.id

namespace Truthful

variable {view next : CommandView}

theorem ids_map
    {commands : List ServerCommand} {row : ServerCommand → ServerCommand}
    (update : RowUpdate row) :
    (commands.map row).map ServerCommand.id =
      commands.map ServerCommand.id := by
  rw [List.map_map]
  exact List.map_congr_left fun command _ => update.id command

theorem updateCommands
    {row : ServerCommand → ServerCommand} (truthful : Truthful view)
    (update : RowUpdate row)
    (errors : ∀ command, (row command).error = command.error) :
    Truthful (view.updateCommands row) where
  ids := by
    change ((view.commands.map row).map ServerCommand.id).Nodup
    rw [ids_map update]
    exact truthful.ids
  finished command member failed := by
    obtain ⟨before, present, rfl⟩ := List.mem_map.mp member
    rw [errors] at failed
    have terminal := truthful.finished before present failed
    rwa [update.terminal before terminal]
  unsent command member expired := by
    obtain ⟨before, present, rfl⟩ := List.mem_map.mp member
    rw [errors] at expired
    rw [update.id]
    exact truthful.unsent before present expired

theorem finish
    {id : String} {output error : Option String} (truthful : Truthful view)
    (now : Nat)
    (honest : ∀ command ∈ view.commands, command.id = id →
      ¬ command.status.terminal →
        error.map (JavaScript.slice 4000) = some expiredMessage →
          Unsent view.sent id) :
    Truthful (view.updateCommands (finishedRow id output error now)) where
  ids := by
    change ((view.commands.map _).map ServerCommand.id).Nodup
    rw [ids_map (finishedRow_rowUpdate id output error now)]
    exact truthful.ids
  finished command member failed := by
    obtain ⟨before, present, rfl⟩ := List.mem_map.mp member
    by_cases selected : before.id = id ∧ ¬ before.status.terminal
    · unfold finishedRow
      rw [if_pos selected]
      dsimp only
      split <;> rfl
    · unfold finishedRow at failed ⊢
      rw [if_neg selected] at failed ⊢
      exact truthful.finished before present failed
  unsent command member expired := by
    obtain ⟨before, present, rfl⟩ := List.mem_map.mp member
    by_cases selected : before.id = id ∧ ¬ before.status.terminal
    · unfold finishedRow at expired ⊢
      rw [if_pos selected] at expired ⊢
      dsimp only at expired ⊢
      rw [selected.1]
      exact honest before present selected.1 selected.2 expired
    · unfold finishedRow at expired ⊢
      rw [if_neg selected] at expired ⊢
      exact truthful.unsent before present expired

theorem deliver
    {bindingId : String} {socket : SocketKey} {command : ServerCommand}
    {rest : List ServerCommand} (truthful : Truthful view) (now : Nat)
    (first : pendingRows view.commands bindingId = command :: rest) :
    Truthful (view.deliver socket command now) := by
  have pending : command ∈ pendingRows view.commands bindingId := by
    rw [first]
    exact List.mem_cons_self
  obtain ⟨present, -, queued⟩ := mem_pendingRows.mp pending
  have errors : ∀ other,
      (deliveredRow command.id now other).error = other.error := by
    intro other
    unfold deliveredRow
    split <;> rfl
  have updated :=
    truthful.updateCommands (deliveredRow_rowUpdate command.id now) errors
  refine ⟨updated.ids, updated.finished, ?_⟩
  intro other member expired delivery sent
  rcases List.mem_append.mp sent with old | new
  · exact updated.unsent other member expired delivery old
  · rw [List.mem_singleton.mp new]
    obtain ⟨before, beforePresent, rfl⟩ := List.mem_map.mp member
    rw [errors] at expired
    rw [(deliveredRow_rowUpdate command.id now).id]
    intro same
    have equality : command = before :=
      List.inj_on_of_nodup_map truthful.ids present beforePresent same
    subst equality
    have terminal :=
      truthful.finished command present (by simp [expired])
    rw [queued] at terminal
    cases terminal

theorem close (truthful : Truthful view) (socket : SocketKey) :
    Truthful (view.close socket) := by
  unfold CommandView.close
  split
  · exact truthful
  · split
    · exact ⟨truthful.ids, truthful.finished, truthful.unsent⟩
    · rename_i bindingId _ _
      have requeued :=
        truthful.updateCommands (requeueRow_rowUpdate (some bindingId))
          (by intro command; unfold requeueRow; split <;> rfl)
      exact ⟨requeued.ids, requeued.finished, requeued.unsent⟩

theorem create {command : ServerCommand} (truthful : Truthful view)
    (unused : command.id ∉ view.commands.map ServerCommand.id)
    (noError : command.error = none) : Truthful (view.create command) where
  ids := by
    change ((view.commands ++ [command]).map ServerCommand.id).Nodup
    rw [List.map_append]
    have distinct := truthful.ids.concat unused
    rw [List.concat_eq_append] at distinct
    exact distinct
  finished other member failed := by
    rcases List.mem_append.mp member with old | new
    · exact truthful.finished other old failed
    · rw [List.mem_singleton.mp new] at failed
      exact absurd noError failed
  unsent other member failed := by
    rcases List.mem_append.mp member with old | new
    · exact truthful.unsent other old failed
    · rw [List.mem_singleton.mp new, noError] at failed
      cases failed

theorem register (truthful : Truthful view)
    (bindingId : String) (socket : SocketKey) :
    Truthful (view.register bindingId socket) :=
  ⟨truthful.ids, truthful.finished, truthful.unsent⟩

theorem round {environment : Environment} {bindingId : String}
    (round : Round environment bindingId view next)
    (truthful : Truthful view)
    (unsent : ∀ command, Expires environment bindingId view command →
      Unsent view.sent command.id) :
    Truthful next := by
  induction round with
  | stopped blocked => exact truthful
  | expired socket command rest reading registered idle first late later ih =>
      apply ih
      · apply truthful.finish
        intro _ _ _ _ _
        exact unsent command
          (.now socket command rest reading registered idle first late)
      · intro other expires
        exact unsent other
          (.later socket command rest reading registered idle first late
            expires)
  | dropped socket command rest registered idle first throws =>
      exact truthful.close socket
  | delivered socket command rest reading registered idle first timely =>
      exact truthful.deliver _ first

end Truthful

/-! ## Commands that were requeued -/

/-- A queued command has no time of delivery. -/
def Cleared (commands : List ServerCommand) : Prop :=
  ∀ command ∈ commands, command.status = .queued →
    command.deliveredAt = none

/-- What the changes of a step keep of the commands and their deliveries. -/
structure Evolves (view next : CommandView) : Prop where
  ids : ∀ command ∈ view.commands,
    ∃ later ∈ next.commands, later.id = command.id
  sent : ∀ delivery ∈ next.sent, delivery ∈ view.sent ∨
    ∃ command ∈ next.commands, command.id = delivery.id ∧
      command.deliveredAt.isSome
  cleared : Cleared view.commands → Cleared next.commands

namespace Evolves

variable {view middle next : CommandView}

theorem refl (view : CommandView) : Evolves view view :=
  ⟨fun command member => ⟨command, member, rfl⟩,
    fun _ member => .inl member, id⟩

theorem before
    (first : Evolves view middle) (unsent : middle.sent = view.sent)
    (second : Evolves middle next) : Evolves view next where
  ids command member := by
    obtain ⟨later, present, same⟩ := first.ids command member
    obtain ⟨last, kept, also⟩ := second.ids later present
    exact ⟨last, kept, also.trans same⟩
  sent delivery member := unsent ▸ second.sent delivery member
  cleared holds := second.cleared (first.cleared holds)

theorem updateCommands {row : ServerCommand → ServerCommand}
    (update : RowUpdate row)
    (clears : ∀ command, (row command).status = .queued →
      (row command).deliveredAt = none ∨
        command.status = .queued ∧
          (row command).deliveredAt = command.deliveredAt) :
    Evolves view (view.updateCommands row) where
  ids command member :=
    ⟨row command, List.mem_map_of_mem member, update.id command⟩
  sent _ member := .inl member
  cleared holds command member queued := by
    obtain ⟨former, present, rfl⟩ := List.mem_map.mp member
    rcases clears former queued with none | ⟨before, same⟩
    · exact none
    · rw [same]
      exact holds former present before

theorem finish (id : String) (output error : Option String) (now : Nat) :
    Evolves view (view.updateCommands (finishedRow id output error now)) := by
  refine updateCommands (finishedRow_rowUpdate id output error now) ?_
  intro command queued
  unfold finishedRow at queued ⊢
  split at queued
  · dsimp only at queued
    split at queued <;> cases queued
  · rename_i unselected
    rw [if_neg unselected]
    exact .inr ⟨queued, rfl⟩

theorem run (id : String) (now : Nat) :
    Evolves view (view.updateCommands (runningRow id now)) := by
  refine updateCommands (runningRow_rowUpdate id now) ?_
  intro command queued
  unfold runningRow at queued ⊢
  split at queued
  · cases queued
  · rename_i unselected
    rw [if_neg unselected]
    exact .inr ⟨queued, rfl⟩

theorem requeue (bindingId : Option String) :
    Evolves view (view.updateCommands (requeueRow bindingId)) := by
  refine updateCommands (requeueRow_rowUpdate bindingId) ?_
  intro command queued
  unfold requeueRow at queued ⊢
  split at queued
  · rename_i selected
    rw [if_pos selected]
    exact .inl rfl
  · rename_i unselected
    rw [if_neg unselected]
    exact .inr ⟨queued, rfl⟩

theorem close (socket : SocketKey) : Evolves view (view.close socket) := by
  unfold CommandView.close
  split
  · exact refl view
  · rename_i bindingId _
    split
    · exact ⟨(refl view).ids, (refl view).sent, id⟩
    · have requeued : Evolves view
          (view.updateCommands (requeueRow (some bindingId))) :=
        requeue (some bindingId)
      exact ⟨requeued.ids, requeued.sent, requeued.cleared⟩

theorem deliver {bindingId : String} {socket : SocketKey}
    {command : ServerCommand} {rest : List ServerCommand} (now : Nat)
    (first : pendingRows view.commands bindingId = command :: rest) :
    Evolves view (view.deliver socket command now) := by
  have pending : command ∈ pendingRows view.commands bindingId := by
    rw [first]
    exact List.mem_cons_self
  obtain ⟨present, -, queued⟩ := mem_pendingRows.mp pending
  have marked : Evolves view
      (view.updateCommands (deliveredRow command.id now)) := by
    refine updateCommands (deliveredRow_rowUpdate command.id now) ?_
    intro other waits
    unfold deliveredRow at waits ⊢
    split at waits
    · cases waits
    · rename_i unselected
      rw [if_neg unselected]
      exact .inr ⟨waits, rfl⟩
  refine ⟨marked.ids, ?_, marked.cleared⟩
  intro delivery member
  rcases List.mem_append.mp member with old | new
  · exact .inl old
  · rw [List.mem_singleton.mp new]
    refine .inr ⟨deliveredRow command.id now command,
      List.mem_map_of_mem present,
      (deliveredRow_rowUpdate command.id now).id command, ?_⟩
    rw [deliveredRow, if_pos ⟨rfl, queued⟩]
    rfl

theorem create {command : ServerCommand} (fresh : command.deliveredAt = none) :
    Evolves view (view.create command) where
  ids other member := ⟨other, List.mem_append_left _ member, rfl⟩
  sent _ member := .inl member
  cleared holds other member queued := by
    rcases List.mem_append.mp member with old | new
    · exact holds other old queued
    · rw [List.mem_singleton.mp new]
      exact fresh

theorem round {environment : Environment} {bindingId : String}
    (round : Round environment bindingId view next) : Evolves view next := by
  induction round with
  | stopped blocked => exact refl _
  | expired socket command rest reading registered idle first late later ih =>
      exact (finish _ _ _ _).before rfl ih
  | dropped socket command rest registered idle first throws =>
      exact close socket
  | delivered socket command rest reading registered idle first timely =>
      exact deliver _ first

theorem change {event : ServiceEvent}
    (change : Change event view next) : Evolves view next := by
  cases change with
  | unseen => exact refl view
  | registered environment socket message bindingId authenticated =>
      exact ⟨(refl view).ids, (refl view).sent, id⟩
  | greeted environment socket message bindingId authenticated dispatched =>
      have greeted := Evolves.round dispatched
      exact ⟨greeted.ids, greeted.sent, greeted.cleared⟩
  | acknowledged environment socket bindingId command bound member owned =>
      exact run _ _
  | finished environment socket message bindingId command output error bound
      member owned named result dispatched =>
      exact (finish _ _ _ _).before rfl (Evolves.round dispatched)
  | closed environment socket => exact close socket
  | created environment id bindingId type input payload unused dispatched =>
      exact (create rfl).before rfl (Evolves.round dispatched)
  | restarted =>
      have requeued : Evolves view
          (view.updateCommands (requeueRow none)) := requeue none
      exact ⟨requeued.ids, requeued.sent, requeued.cleared⟩

end Evolves

/-- Every command that was sent has its time of delivery or was requeued. -/
structure Traced (requeued : List String) (view : CommandView) : Prop where
  cleared : Cleared view.commands
  sent : ∀ delivery ∈ view.sent, ∃ command ∈ view.commands,
    command.id = delivery.id ∧
      (command.deliveredAt.isSome ∨ command.id ∈ requeued)

namespace Traced

variable {requeued : List String} {view next : CommandView}

theorem evolve (traced : Traced requeued view) (evolves : Evolves view next) :
    Traced (requeued ++ requeuedBy view.commands next.commands) next where
  cleared := evolves.cleared traced.cleared
  sent delivery member := by
    rcases evolves.sent delivery member with old | ⟨later, present, same, some⟩
    · obtain ⟨command, before, same, marked⟩ := traced.sent delivery old
      obtain ⟨later, present, also⟩ := evolves.ids command before
      refine ⟨later, present, also.trans same, ?_⟩
      cases cleared : later.deliveredAt with
      | some time => exact .inl rfl
      | none =>
          refine .inr (List.mem_append.mpr ?_)
          rcases marked with stamped | listed
          · refine .inr (also ▸ List.mem_map_of_mem ?_)
            exact List.mem_filter.mpr ⟨before,
              decide_eq_true ⟨stamped, later, present, also, cleared⟩⟩
          · exact .inl (also ▸ listed)
    · exact ⟨later, present, same, .inl some⟩

theorem unsent (traced : Traced requeued view)
    (ids : (view.commands.map ServerCommand.id).Nodup)
    {command : ServerCommand} (member : command ∈ view.commands)
    (queued : command.status = .queued) (kept : command.id ∉ requeued) :
    Unsent view.sent command.id := by
  intro delivery sent same
  obtain ⟨other, present, named, marked⟩ := traced.sent delivery sent
  have equality : other = command :=
    List.inj_on_of_nodup_map ids present member (named.trans same)
  subst equality
  rcases marked with stamped | listed
  · rw [traced.cleared other member queued] at stamped
    cases stamped
  · exact kept listed

theorem unsent_of_unused (traced : Traced requeued view) {id : String}
    (unused : id ∉ view.commands.map ServerCommand.id) :
    Unsent view.sent id := by
  intro delivery sent same
  obtain ⟨other, present, named, _⟩ := traced.sent delivery sent
  exact unused (List.mem_map.mpr ⟨other, present, named.trans same⟩)

end Traced

theorem Expires.pending
    {environment : Environment} {bindingId : String} {view : CommandView}
    {command : ServerCommand}
    (expires : Expires environment bindingId view command) :
    view.sockets.lookup bindingId ≠ none ∧
      activeRow view.commands bindingId = none ∧
        command ∈ pendingRows view.commands bindingId ∧
          ∃ reading, deliveryDeadline <
            environment.clock reading - command.createdAt := by
  induction expires with
  | now socket command rest reading registered idle first late =>
      refine ⟨?_, idle, ?_, reading, late⟩
      · rw [registered]
        exact Option.some_ne_none socket
      · rw [first]
        exact List.mem_cons_self
  | later socket first rest reading registered idle pending late expires ih =>
      obtain ⟨-, -, waits, expired⟩ := ih
      refine ⟨?_, idle, ?_, expired⟩
      · rw [registered]
        exact Option.some_ne_none socket
      · obtain ⟨member, owned, queued⟩ := mem_pendingRows.mp waits
        obtain ⟨former, present, rfl⟩ := List.mem_map.mp member
        unfold finishedRow at owned queued ⊢
        split at queued
        · cases queued
        · rename_i unselected
          rw [if_neg unselected] at owned ⊢
          exact mem_pendingRows.mpr ⟨present, owned, queued⟩

theorem unsent_of_expires
    {run : RequeueRun} {event : ServiceEvent} {environment : Environment}
    {bindingId : String} {view : CommandView} {command : ServerCommand}
    (traced : Traced run.requeued run.network.view)
    (truthful : Truthful run.network.view)
    (condition : RequeuedInTime run event)
    (dispatches : Dispatches event run.network.view environment bindingId
      view)
    (expires : Expires environment bindingId view command) :
    Unsent run.network.view.sent command.id := by
  obtain ⟨registered, idle, pending, reading, late⟩ := expires.pending
  have kept : command.id ∉ run.requeued := fun listed =>
    Nat.not_lt.mpr (condition.timely environment bindingId view dispatches
      registered idle command pending listed reading) late
  obtain ⟨member, -, queued⟩ := mem_pendingRows.mp pending
  cases dispatches with
  | greeted environment socket message bindingId authenticated =>
      exact traced.unsent truthful.ids member queued kept
  | finished environment socket message bindingId done output error bound
      present owned result =>
      obtain ⟨former, before, rfl⟩ := List.mem_map.mp member
      unfold finishedRow at queued kept ⊢
      split at queued
      · dsimp only at queued
        split at queued <;> cases queued
      · rename_i unselected
        rw [if_neg unselected] at kept ⊢
        exact traced.unsent truthful.ids before queued kept
  | created environment id bindingId type input payload unused =>
      rcases List.mem_append.mp member with old | new
      · exact traced.unsent truthful.ids old queued kept
      · rw [List.mem_singleton.mp new]
        exact traced.unsent_of_unused unused

theorem truthful_step
    {run : RequeueRun} {next : Network} {event : ServiceEvent}
    {effects : List Effect}
    (truthful : Truthful run.network.view)
    (traced : Traced run.requeued run.network.view)
    (condition : RequeuedInTime run event)
    (stepEquality : networkStep run.network event = some (next, effects)) :
    Truthful next.view := by
  have change := networkStep_change stepEquality
  have reported := condition.reported
  have expired : ∀ {environment bindingId view}, Dispatches event
      run.network.view environment bindingId view → ∀ command,
        Expires environment bindingId view command →
          Unsent run.network.view.sent command.id :=
    fun dispatches _ expires =>
      unsent_of_expires traced truthful condition dispatches expires
  generalize next.view = after at change ⊢
  change ∀ environment socket message bindingId command output error,
    event = .message environment socket message →
      run.network.view.bindings.lookup socket = some bindingId →
        command ∈ run.network.view.commands →
          command.bindingId = bindingId →
            ¬ command.status.terminal →
              ¬ Unsent run.network.view.sent command.id →
                message.result = some (command.id, output, error) →
                  error.map (JavaScript.slice 4000) ≠ some expiredMessage
    at reported
  generalize run.network.view = view at change truthful expired reported
  cases change with
  | unseen => exact truthful
  | registered environment socket message bindingId authenticated =>
      exact truthful.register bindingId socket
  | greeted environment socket message bindingId authenticated dispatched =>
      exact (truthful.register bindingId socket).round dispatched
        (expired (.greeted environment socket message bindingId
          authenticated))
  | acknowledged environment socket bindingId command bound member owned =>
      apply truthful.updateCommands (runningRow_rowUpdate _ _)
      intro other
      unfold runningRow
      split <;> rfl
  | finished environment socket message bindingId command output error bound
      member owned named result dispatched =>
      have finished :
          Truthful (view.updateCommands (finishedRow command.id output error
            (environment.clock 0))) := by
        apply truthful.finish
        intro other present same running text
        have equality : other = command :=
          List.inj_on_of_nodup_map truthful.ids present member same
        subst equality
        by_contra wasSent
        exact reported environment socket message bindingId other output
          error rfl bound member owned running wasSent result text
      exact finished.round dispatched
        (expired (.finished environment socket message bindingId command
          output error bound member owned result))
  | closed environment socket => exact truthful.close socket
  | created environment id bindingId type input payload unused dispatched =>
      have created :
          Truthful (view.create (newCommand id bindingId type payload
            (environment.clock 0))) :=
        truthful.create unused rfl
      exact created.round dispatched
        (expired (.created environment id bindingId type input payload
          unused))
  | restarted =>
      have requeued :=
        truthful.updateCommands (requeueRow_rowUpdate none)
          (by intro command; unfold requeueRow; split <;> rfl)
      exact ⟨requeued.ids, requeued.finished, requeued.unsent⟩

theorem truthful_start : Truthful RequeueRun.start.network.view where
  ids := List.nodup_nil
  finished _ member := absurd member List.not_mem_nil
  unsent _ member := absurd member List.not_mem_nil

theorem traced_start : Traced [] RequeueRun.start.network.view where
  cleared _ member := absurd member List.not_mem_nil
  sent _ member := absurd member List.not_mem_nil

/-- The command is written to the first session, requeued when that session
closes, and expired by the next one. -/
def requeuedEvents : List ServiceEvent :=
  [.message (steadyEnvironment 5) 1 agentHello,
    .createCommand (steadyEnvironment 10) "c1" "survival" .serviceStart none,
    .closed (steadyEnvironment 20) 1,
    .message (steadyEnvironment 400000) 2 agentHello]

/-- The event reports no result, and no requeued command is past the deadline
at its time. -/
def Punctual (run : RequeueRun) (event : ServiceEvent) : Prop :=
  match event with
  | .message environment _ message =>
      message.result = none ∧
        ∀ command ∈ run.network.commands, command.id ∈ run.requeued →
          environment.clock 0 - command.createdAt ≤ deliveryDeadline
  | .createCommand environment .. =>
      ∀ command ∈ run.network.commands, command.id ∈ run.requeued →
        environment.clock 0 - command.createdAt ≤ deliveryDeadline
  | _ => True

instance (run : RequeueRun) (event : ServiceEvent) :
    Decidable (Punctual run event) :=
  match event with
  | .message .. | .opened _ | .helloTimedOut _ | .closed ..
  | .createCommand .. | .requestFilesystem .. | .filesystemTimedOut _
  | .restarted => by unfold Punctual; infer_instance

/-- The clock of the event stands still. -/
def Momentary : ServiceEvent → Prop
  | .message environment _ _ => ∀ reading,
      environment.clock reading = environment.clock 0
  | .createCommand environment .. => ∀ reading,
      environment.clock reading = environment.clock 0
  | _ => True

theorem Punctual.requeuedInTime
    {run : RequeueRun} {event : ServiceEvent}
    (punctual : Punctual run event ∧ Momentary event) :
    RequeuedInTime run event where
  timely environment bindingId view dispatches _ _ command pending listed
      reading := by
    obtain ⟨punctual, steady⟩ := punctual
    obtain ⟨member, -, queued⟩ := mem_pendingRows.mp pending
    cases dispatches with
    | greeted environment socket message bindingId authenticated =>
        rw [steady reading]
        exact punctual.2 command member listed
    | finished environment socket message bindingId done output error bound
        present owned result =>
        exact absurd (punctual.1.symm.trans result) nofun
    | created environment id bindingId type input payload unused =>
        rw [steady reading]
        rcases List.mem_append.mp member with old | new
        · exact punctual command old listed
        · rw [List.mem_singleton.mp new]
          exact (Nat.sub_self (environment.clock 0)).le.trans (Nat.zero_le _)
  reported environment socket message bindingId command output error same _ _
      _ _ _ result := by
    obtain ⟨punctual, -⟩ := punctual
    subst same
    exact absurd (punctual.1.symm.trans result) nofun

/-- A command that waited for an agent for too long, and one that is sent,
requeued when the session closes, and sent again in time. -/
def offlineEvents : List ServiceEvent :=
  [.createCommand (steadyEnvironment 10) "c1" "survival" .serviceStart none,
    .message (steadyEnvironment 400000) 1 agentHello,
    .createCommand (steadyEnvironment 400001) "c2" "survival" .serviceStop
      none,
    .closed (steadyEnvironment 400002) 1,
    .message (steadyEnvironment 400003) 2 agentHello]

end GravitPanel.Servers
