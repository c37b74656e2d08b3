import GravitPanel.Servers.AgentNetwork

/-!
# Commands of a binding are dispatched one at a time and in order

Each delivery overtakes nothing: when a command has been sent, every command of
its binding that was created earlier is finished.  All the rest follows from
that and from the creation times of the binding's commands being increasing.
-/

namespace GravitPanel.Servers

open GravitPanel.Execution
open ServerAgentStore

/-- The commands of a binding, in table order. -/
def ownedBy (commands : List ServerCommand) (bindingId : String) :
    List ServerCommand :=
  commands.filter fun command => command.bindingId = bindingId

theorem mem_ownedBy {commands : List ServerCommand} {bindingId : String}
    {command : ServerCommand} :
    command ∈ ownedBy commands bindingId ↔
      command ∈ commands ∧ command.bindingId = bindingId := by
  simp [ownedBy]

/-- A command that is delivered for the first time was created after all the
commands that were delivered before it. -/
def FirstDeliveriesInOrder (bindingId : String) (sent : List Delivery) :
    Prop :=
  ∀ before delivery after, sent = before ++ delivery :: after →
    delivery.bindingId = bindingId →
    (∀ earlier ∈ before, earlier.bindingId = bindingId →
      earlier.id ≠ delivery.id) →
    ∀ earlier ∈ before, earlier.bindingId = bindingId →
      earlier.createdAt < delivery.createdAt

/-- The invariant of the command table and the deliveries of one binding. -/
structure Serial
    (bindingId : String) (commands : List ServerCommand)
    (sent : List Delivery) : Prop where
  ids_nodup : (commands.map ServerCommand.id).Nodup
  increasing : (ownedBy commands bindingId).Pairwise
    fun earlier later => earlier.createdAt < later.createdAt
  recorded : ∀ delivery ∈ sent, ∃ command ∈ commands,
    command.bindingId = delivery.bindingId ∧ command.id = delivery.id ∧
      command.createdAt = delivery.createdAt
  active_sent : ∀ command ∈ commands,
    command.bindingId = bindingId → command.status.active →
      ∃ delivery ∈ sent, delivery.bindingId = bindingId ∧
        delivery.id = command.id
  overtaken : ∀ delivery ∈ sent, delivery.bindingId = bindingId →
    ∀ command ∈ commands, command.bindingId = bindingId →
      command.createdAt < delivery.createdAt → command.status.terminal
  in_order : FirstDeliveriesInOrder bindingId sent

/-- An agent names only ids that were sent to it, and the creation times of the
binding's commands increase. -/
def AgentConduct (bindingId : String) (network : Network) :
    ServiceEvent → Prop
  | .message _ socket message =>
      network.service.bindings.lookup socket = some bindingId →
        ∀ id ∈ message.names, ∃ delivery ∈ network.sent, delivery.id = id
  | .createCommand environment _ owner _ _ =>
      owner = bindingId →
        ∀ command ∈ network.commands, command.bindingId = bindingId →
          command.createdAt < environment.clock 0
  | _ => True

instance (bindingId : String) (network : Network) (event : ServiceEvent) :
    Decidable (AgentConduct bindingId network event) :=
  match event with
  | .message .. | .createCommand .. => by unfold AgentConduct; infer_instance
  | .opened _ | .helloTimedOut _ | .closed .. | .requestFilesystem ..
  | .filesystemTimedOut _ | .restarted => instDecidableTrue

theorem eq_of_id_eq
    {commands : List ServerCommand} {first second : ServerCommand}
    (nodup : (commands.map ServerCommand.id).Nodup)
    (firstMember : first ∈ commands) (secondMember : second ∈ commands)
    (same : first.id = second.id) : first = second :=
  List.inj_on_of_nodup_map nodup firstMember secondMember same

section Serial

variable {bindingId : String} {commands : List ServerCommand}
variable {sent : List Delivery}

theorem Serial.eq_of_createdAt_eq
    {first second : ServerCommand} (serial : Serial bindingId commands sent)
    (firstMember : first ∈ commands)
    (firstOwned : first.bindingId = bindingId)
    (secondMember : second ∈ commands)
    (secondOwned : second.bindingId = bindingId)
    (same : first.createdAt = second.createdAt) : first = second := by
  have firstListed := mem_ownedBy.mpr ⟨firstMember, firstOwned⟩
  have secondListed := mem_ownedBy.mpr ⟨secondMember, secondOwned⟩
  obtain ⟨i, iBound, rfl⟩ := List.mem_iff_getElem.mp firstListed
  obtain ⟨j, jBound, rfl⟩ := List.mem_iff_getElem.mp secondListed
  have pairs := List.pairwise_iff_getElem.mp serial.increasing
  rcases Nat.lt_trichotomy i j with less | equal | greater
  · have strict := pairs i j iBound jBound less
    omega
  · subst equal
    rfl
  · have strict := pairs j i jBound iBound greater
    omega

theorem Serial.updateCommands
    {row : ServerCommand → ServerCommand}
    (serial : Serial bindingId commands sent) (update : RowUpdate row)
    (activates : ∀ command ∈ commands,
      command.bindingId = bindingId → (row command).status.active →
        command.status.active ∨
          ∃ delivery ∈ sent, delivery.bindingId = bindingId ∧
            delivery.id = command.id) :
    Serial bindingId (commands.map row) sent where
  ids_nodup := by
    have ids : (commands.map row).map ServerCommand.id =
        commands.map ServerCommand.id := by
      rw [List.map_map]
      exact List.map_congr_left fun command _ => update.id command
    change ((commands.map row).map ServerCommand.id).Nodup
    rw [ids]
    exact serial.ids_nodup
  increasing := by
    have owned : ownedBy (commands.map row) bindingId =
        (ownedBy commands bindingId).map row := by
      rw [ownedBy, List.filter_map]
      congr 1
      apply List.filter_congr
      intro command _
      simp [update.bindingId]
    change (ownedBy (commands.map row) bindingId).Pairwise _
    rw [owned, List.pairwise_map]
    exact serial.increasing.imp fun less => by
      rwa [update.createdAt, update.createdAt]
  recorded delivery member := by
    obtain ⟨command, present, ownedCommand, id, createdAt⟩ :=
      serial.recorded delivery member
    refine ⟨row command, List.mem_map_of_mem present, ?_, ?_, ?_⟩
    · rw [update.bindingId, ownedCommand]
    · rw [update.id, id]
    · rw [update.createdAt, createdAt]
  active_sent command member owned active := by
    obtain ⟨before, present, rfl⟩ := List.mem_map.mp member
    rw [update.bindingId] at owned
    rw [update.id]
    rcases activates before present owned active with wasActive | delivered
    · exact serial.active_sent before present owned wasActive
    · exact delivered
  overtaken delivery member owned command commandMember ownedCommand less := by
    obtain ⟨before, present, rfl⟩ := List.mem_map.mp commandMember
    rw [update.bindingId] at ownedCommand
    rw [update.createdAt] at less
    have terminal :=
      serial.overtaken delivery member owned before present ownedCommand less
    rw [update.terminal before terminal]
    exact terminal
  in_order := serial.in_order

theorem Serial.create
    {id owner : String} {type : ServerCommandType} {payload : Option String}
    {now : Nat}
    (serial : Serial bindingId commands sent)
    (unused : id ∉ commands.map ServerCommand.id)
    (later : owner = bindingId → ∀ command ∈ commands,
      command.bindingId = bindingId → command.createdAt < now) :
    Serial bindingId
      (commands ++ [newCommand id owner type payload now]) sent where
  ids_nodup := by
    have appended := serial.ids_nodup.concat unused
    rw [List.concat_eq_append] at appended
    rw [List.map_append]
    exact appended
  increasing := by
    by_cases same : owner = bindingId
    · have owned :
          ownedBy (commands ++ [newCommand id owner type payload now])
              bindingId =
            ownedBy commands bindingId ++
              [newCommand id owner type payload now] := by
        simp [ownedBy, newCommand, same]
      rw [owned, List.pairwise_append]
      refine ⟨serial.increasing, List.pairwise_singleton _ _, ?_⟩
      intro command member created createdMember
      rw [List.mem_singleton.mp createdMember]
      obtain ⟨present, ownedCommand⟩ := mem_ownedBy.mp member
      exact later same command present ownedCommand
    · have owned :
          ownedBy (commands ++ [newCommand id owner type payload now])
              bindingId = ownedBy commands bindingId := by
        simp [ownedBy, newCommand, same]
      rw [owned]
      exact serial.increasing
  recorded delivery member := by
    obtain ⟨command, present, rest⟩ := serial.recorded delivery member
    exact ⟨command, List.mem_append_left _ present, rest⟩
  active_sent command member owned active := by
    rcases List.mem_append.mp member with old | new
    · exact serial.active_sent command old owned active
    · rw [List.mem_singleton.mp new] at active
      cases active
  overtaken delivery member owned command commandMember ownedCommand less := by
    rcases List.mem_append.mp commandMember with old | new
    · exact serial.overtaken delivery member owned command old ownedCommand
        less
    · exfalso
      obtain ⟨other, present, ownedOther, _, createdAt⟩ :=
        serial.recorded delivery member
      rw [owned] at ownedOther
      have created := List.mem_singleton.mp new
      rw [created] at ownedCommand less
      have before := later ownedCommand other present ownedOther
      change now < delivery.createdAt at less
      omega
  in_order := serial.in_order

/-- A delivery of an unfinished command that every earlier command of its
binding precedes keeps the invariant. -/
theorem Serial.send
    {socket : SocketKey} {command : ServerCommand}
    (serial : Serial bindingId commands sent)
    (member : command ∈ commands) (unfinished : ¬ command.status.terminal)
    (earlier : ∀ other ∈ commands,
      other.bindingId = command.bindingId →
        other.createdAt < command.createdAt → other.status.terminal) :
    Serial bindingId commands
      (sent ++
        [⟨socket, command.id, command.bindingId, command.createdAt⟩]) where
  ids_nodup := serial.ids_nodup
  increasing := serial.increasing
  recorded delivery deliveryMember := by
    rcases List.mem_append.mp deliveryMember with old | new
    · exact serial.recorded delivery old
    · rw [List.mem_singleton.mp new]
      exact ⟨command, member, rfl, rfl, rfl⟩
  active_sent other otherMember owned active := by
    obtain ⟨delivery, deliveryMember, rest⟩ :=
      serial.active_sent other otherMember owned active
    exact ⟨delivery, List.mem_append_left _ deliveryMember, rest⟩
  overtaken delivery deliveryMember owned other otherMember otherOwned less := by
    rcases List.mem_append.mp deliveryMember with old | new
    · exact serial.overtaken delivery old owned other otherMember otherOwned
        less
    · rw [List.mem_singleton.mp new] at owned less
      exact earlier other otherMember (otherOwned.trans owned.symm) less
  in_order before delivery after split owned unseen previous previousMember
      previousOwned := by
    rcases List.eq_nil_or_concat after with rfl | ⟨tail, last, rfl⟩
    · -- The new delivery is the one that is first.
      obtain ⟨rfl, lastShape⟩ := List.append_inj' split rfl
      rw [← List.cons.inj lastShape |>.1] at owned unseen ⊢
      obtain ⟨known, present, knownOwned, id, createdAt⟩ :=
        serial.recorded previous previousMember
      rw [previousOwned] at knownOwned
      by_contra notLess
      have less :
          command.createdAt < previous.createdAt ∨
            command.createdAt = previous.createdAt := by
        change ¬ previous.createdAt < command.createdAt at notLess
        omega
      rcases less with less | equal
      · exact unfinished (serial.overtaken previous previousMember
          previousOwned command member owned less)
      · have same := serial.eq_of_createdAt_eq member owned present
          knownOwned (equal.trans createdAt.symm)
        apply unseen previous previousMember previousOwned
        rw [← id, ← same]
    · rw [List.concat_eq_append, ← List.cons_append,
        ← List.append_assoc] at split
      have sentShape := (List.append_inj' split rfl).1
      exact serial.in_order before delivery tail sentShape owned unseen
        previous previousMember previousOwned

theorem Serial.deliver
    {owner : String} {socket : SocketKey} {command : ServerCommand}
    {rest : List ServerCommand} {now : Nat}
    (serial : Serial bindingId commands sent)
    (idle : activeRow commands owner = none)
    (first : pendingRows commands owner = command :: rest) :
    Serial bindingId (commands.map (deliveredRow command.id now))
      (sent ++
        [⟨socket, command.id, command.bindingId, command.createdAt⟩]) := by
  obtain ⟨member, owned, queued⟩ :
      command ∈ commands ∧ command.bindingId = owner ∧
        command.status = .queued := by
    rw [← mem_pendingRows, first]
    exact List.mem_cons_self
  have unfinished : ¬ command.status.terminal := by
    rw [queued]
    simp [ServerCommandStatus.terminal]
  -- An earlier command of the binding is neither active nor pending.
  have earlier : ∀ other ∈ commands,
      other.bindingId = command.bindingId →
        other.createdAt < command.createdAt → other.status.terminal := by
    intro other otherMember otherOwned less
    rw [owned] at otherOwned
    have inactive := activeRow_eq_none.mp idle other otherMember otherOwned
    have notQueued : other.status ≠ .queued := by
      intro otherQueued
      have le := pendingRows_head_le first otherMember otherOwned otherQueued
      omega
    cases status : other.status <;>
      simp_all [ServerCommandStatus.active, ServerCommandStatus.terminal]
  have sentSerial :=
    @Serial.send bindingId commands sent socket command serial member
      unfinished earlier
  apply sentSerial.updateCommands (deliveredRow_rowUpdate command.id now)
  intro other otherMember otherOwned active
  rcases deliveredRow_active active with same | wasActive
  · have equality := eq_of_id_eq serial.ids_nodup otherMember member same
    refine .inr ⟨_, List.mem_append_right _ List.mem_cons_self, ?_, ?_⟩
    · rw [← otherOwned, equality]
    · rw [equality]
  · exact .inl wasActive

end Serial

section Runs

variable {bindingId : String}

theorem serial_close
    {view : CommandView} (socket : SocketKey)
    (serial : Serial bindingId view.commands view.sent) :
    Serial bindingId (view.close socket).commands
      (view.close socket).sent := by
  unfold CommandView.close
  split
  · exact serial
  · split
    · exact serial
    · apply serial.updateCommands (requeueRow_rowUpdate _)
      intro command member owned active
      exact .inl (requeueRow_active active)

theorem serial_round
    {environment : Environment} {owner : String} {view next : CommandView}
    (round : Round environment owner view next)
    (serial : Serial bindingId view.commands view.sent) :
    Serial bindingId next.commands next.sent := by
  induction round with
  | stopped blocked => exact serial
  | expired socket command rest reading registered idle first late later ih =>
      apply ih
      apply serial.updateCommands (finishedRow_rowUpdate _ _ _ _)
      intro other member owned active
      exact .inl (finishedRow_active active)
  | dropped socket command rest registered idle first throws =>
      exact serial_close socket serial
  | delivered socket command rest reading registered idle first timely =>
      exact serial.deliver idle first

theorem serial_step
    {network next : Network} {event : ServiceEvent} {effects : List Effect}
    (serial : Serial bindingId network.commands network.sent)
    (conduct : AgentConduct bindingId network event)
    (stepEquality : networkStep network event = some (next, effects)) :
    Serial bindingId next.commands next.sent := by
  have change := networkStep_change stepEquality
  change Serial bindingId network.view.commands network.view.sent at serial
  change Serial bindingId next.view.commands next.view.sent
  generalize next.view = after at change ⊢
  generalize viewEquality : network.view = view at change serial
  cases change with
  | unseen => exact serial
  | registered => exact serial
  | greeted environment socket message owner authenticated dispatched =>
      exact serial_round dispatched serial
  | acknowledged environment socket owner command bound member owned =>
      apply serial.updateCommands (runningRow_rowUpdate _ _)
      intro other otherMember otherOwned active
      rcases runningRow_active active with same | wasActive
      · have equality := eq_of_id_eq serial.ids_nodup otherMember member same
        subst viewEquality
        rw [← owned, ← equality, otherOwned] at bound
        obtain ⟨delivery, sent, id⟩ := conduct bound command.id rfl
        obtain ⟨known, present, knownOwned, knownId, _⟩ :=
          serial.recorded delivery sent
        have knownEquality :=
          eq_of_id_eq serial.ids_nodup present otherMember
            (knownId.trans (id.trans same.symm))
        refine .inr ⟨delivery, sent, ?_, id.trans same.symm⟩
        rw [← knownOwned, knownEquality, otherOwned]
      · exact .inl wasActive
  | finished environment socket message owner command output error bound
      member owned named result dispatched =>
      apply serial_round dispatched
      apply serial.updateCommands (finishedRow_rowUpdate _ _ _ _)
      intro other otherMember otherOwned active
      exact .inl (finishedRow_active active)
  | closed environment socket => exact serial_close socket serial
  | created environment id owner type input payload unused dispatched =>
      apply serial_round dispatched
      apply serial.create unused
      subst viewEquality
      exact conduct
  | restarted =>
      apply serial.updateCommands (requeueRow_rowUpdate none)
      intro command member owned active
      exact .inl (requeueRow_active active)

theorem serial_start
    {store : ServerAgentStore}
    (unique : (store.commands.map ServerCommand.id).Nodup)
    (unowned : ∀ command ∈ store.commands,
      command.bindingId ≠ bindingId) :
    Serial bindingId (Network.start store).commands
      (Network.start store).sent := by
  have initial : Serial bindingId store.commands [] := by
    refine ⟨unique, ?_, by simp, ?_, by simp, ?_⟩
    · have none : ownedBy store.commands bindingId = [] := by
        rw [ownedBy, List.filter_eq_nil_iff]
        intro command member
        simpa using unowned command member
      rw [none]
      exact List.Pairwise.nil
    · intro command member owned
      exact absurd owned (unowned command member)
    · intro before delivery after split
      simp at split
  apply initial.updateCommands (requeueRow_rowUpdate none)
  intro command member owned
  exact absurd owned (unowned command member)

theorem Serial.active_length
    {commands : List ServerCommand} {sent : List Delivery}
    (serial : Serial bindingId commands sent) :
    ((ownedBy commands bindingId).filter fun command =>
      command.status.active).length ≤ 1 := by
  have increasing := serial.increasing.filter fun command =>
    command.status.active
  cases shape : (ownedBy commands bindingId).filter fun command =>
      command.status.active with
  | nil => exact Nat.zero_le 1
  | cons first rest =>
      cases rest with
      | nil => exact Nat.le_refl 1
      | cons second rest =>
          exfalso
          have listed : ∀ command ∈ first :: second :: rest,
              command ∈ commands ∧ command.bindingId = bindingId ∧
                command.status.active := by
            intro command member
            rw [← shape] at member
            obtain ⟨ownedMember, active⟩ := List.mem_filter.mp member
            obtain ⟨present, owned⟩ := mem_ownedBy.mp ownedMember
            exact ⟨present, owned, active⟩
          obtain ⟨firstMember, firstOwned, firstActive⟩ :=
            listed first List.mem_cons_self
          obtain ⟨secondMember, secondOwned, secondActive⟩ :=
            listed second (List.mem_cons_of_mem _ List.mem_cons_self)
          obtain ⟨delivery, sent, owned, id⟩ :=
            serial.active_sent second secondMember secondOwned secondActive
          obtain ⟨known, present, _, knownId, createdAt⟩ :=
            serial.recorded delivery sent
          have same := eq_of_id_eq serial.ids_nodup present secondMember
            (knownId.trans id)
          rw [same] at createdAt
          rw [shape] at increasing
          have less : first.createdAt < second.createdAt :=
            (List.pairwise_cons.mp increasing).1 second List.mem_cons_self
          rw [createdAt] at less
          exact not_terminal_of_active firstActive
            (serial.overtaken delivery sent owned first firstMember
              firstOwned less)

theorem Serial.earliest
    {commands : List ServerCommand} {sent : List Delivery}
    (serial : Serial bindingId commands sent)
    {delivery : Delivery} {command other : ServerCommand}
    (delivered : delivery ∈ sent) (owned : delivery.bindingId = bindingId)
    (member : command ∈ commands) (id : command.id = delivery.id)
    (otherMember : other ∈ commands)
    (otherOwned : other.bindingId = bindingId)
    (unfinished : ¬ other.status.terminal) :
    command.createdAt ≤ other.createdAt := by
  obtain ⟨known, present, _, knownId, createdAt⟩ :=
    serial.recorded delivery delivered
  have same := eq_of_id_eq serial.ids_nodup present member
    (knownId.trans id.symm)
  rw [same] at createdAt
  by_contra greater
  apply unfinished
  apply serial.overtaken delivery delivered owned other otherMember otherOwned
  omega

/-- Over any run of the service with restarts, old and new sockets: one command
of a binding is active at most, what was sent and is unfinished is the earliest
unfinished command, first deliveries follow the order of creation, and a
finished command never changes. -/
theorem serial_dispatch
    (bindingId : String) (store : ServerAgentStore)
    (unique : (store.commands.map ServerCommand.id).Nodup)
    (unowned : ∀ command ∈ store.commands, command.bindingId ≠ bindingId)
    (events : List ServiceEvent) (final : Network) (effects : List Effect)
    (conduct : Meets networkStep (AgentConduct bindingId)
      (Network.start store) events)
    (run : execute networkStep (Network.start store) events =
      some (final, effects)) :
    ((ownedBy final.commands bindingId).filter fun command =>
        command.status.active).length ≤ 1 ∧
      (∀ delivery ∈ final.sent, delivery.bindingId = bindingId →
        ∀ command ∈ final.commands, command.id = delivery.id →
          ¬ command.status.terminal →
          ∀ other ∈ ownedBy final.commands bindingId,
            ¬ other.status.terminal →
              command.createdAt ≤ other.createdAt) ∧
      FirstDeliveriesInOrder bindingId final.sent ∧
      ∀ earlier later middle middleEffects,
        events = earlier ++ later →
        execute networkStep (Network.start store) earlier =
          some (middle, middleEffects) →
        ∀ command ∈ middle.commands, command.status.terminal →
          command ∈ final.commands := by
  have serial : Serial bindingId final.commands final.sent :=
    execute_induction_of_meets
      (motive := fun network _ =>
        Serial bindingId network.commands network.sent)
      (fun _ _ _ _ _ holds conducted stepEquality =>
        serial_step holds conducted stepEquality)
      (serial_start unique unowned) conduct run
  refine ⟨serial.active_length, ?_, serial.in_order, ?_⟩
  · intro delivery delivered owned command member id _ other otherListed
      unfinished
    obtain ⟨otherMember, otherOwned⟩ := mem_ownedBy.mp otherListed
    exact serial.earliest delivered owned member id otherMember otherOwned
      unfinished
  · intro earlier later middle middleEffects split reached command member
      terminal
    subst split
    obtain ⟨state, before, after, firstRun, secondRun, _⟩ :=
      execute_append_eq_some run
    rw [reached] at firstRun
    cases Option.some.inj firstRun
    exact terminal_kept secondRun member terminal

end Runs

/-- The first command is delivered, requeued by the close of its socket,
delivered again on a second one and completed there. -/
def reconnectEvents : List ServiceEvent :=
  [.message (steadyEnvironment 5) 1 agentHello,
    .createCommand (steadyEnvironment 10) "c1" "survival" .serviceStart none,
    .createCommand (steadyEnvironment 20) "c2" "survival" .serviceStop none,
    .closed (steadyEnvironment 30) 1,
    .message (steadyEnvironment 40) 2 agentHello,
    .message (steadyEnvironment 50) 2 (.commandAck (some "c1")),
    .message (steadyEnvironment 60) 2 (.commandCompleted (some "c1") none)]

theorem serial_dispatch_reconnected :
    ∃ final effects,
      execute networkStep (Network.start ServerAgentStore.empty)
          reconnectEvents = some (final, effects) ∧
        final.sent.map Delivery.id = ["c1", "c1", "c2"] ∧
          ((ownedBy final.commands "survival").filter fun command =>
            command.status.active).length ≤ 1 := by
  have sent :
      (execute networkStep (Network.start ServerAgentStore.empty)
        reconnectEvents).map (fun result => result.1.sent.map Delivery.id) =
          some ["c1", "c1", "c2"] := by
    decide +kernel
  obtain ⟨⟨final, effects⟩, run, ids⟩ := Option.map_eq_some_iff.mp sent
  refine ⟨final, effects, run, ids, ?_⟩
  exact (serial_dispatch "survival" ServerAgentStore.empty List.nodup_nil
    (by simp [ServerAgentStore.empty]) reconnectEvents final effects
    (by decide +kernel) run).1

end GravitPanel.Servers
