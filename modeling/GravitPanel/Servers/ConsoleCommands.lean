import GravitPanel.Agent.Rcon
import GravitPanel.Servers.AgentService

/-!
# Console commands on both sides

The panel counts the UTF-16 code units of a command before it trims it; the
agent counts the UTF-8 bytes of what was stored.
-/

namespace GravitPanel.Servers

open GravitPanel.Action GravitPanel.Agent ServerAgentService ServerAgentStore

/-- Every command returned so far satisfies the condition. -/
def ReturnedOnly
    (condition : ServerCommand → Prop) (_ : ServerAgentService)
    (past : List Effect) : Prop :=
  ∀ stored, .created stored ∈ past → condition stored

section Returned

variable {condition : ServerCommand → Prop}

theorem returnedOnly_append
    {before after : ServerAgentService} {past outputs : List Effect}
    (holds : ReturnedOnly condition before past)
    (quiet : ∀ stored, .created stored ∉ outputs) :
    ReturnedOnly condition after (past ++ outputs) := by
  intro stored member
  rcases List.mem_append.mp member with early | late
  · exact holds stored early
  · exact absurd late (quiet stored)

theorem publish_returns
    (bindingId type message : String) (commandId cursor : Option String)
    (createdAt : EventTime) :
    Keeps (ReturnedOnly condition)
      (publish bindingId type message commandId cursor createdAt) := by
  intro service past holds
  apply returnedOnly_append holds
  intro stored member
  obtain ⟨event, _, shape⟩ := List.mem_map.mp member
  cases shape

theorem updateStore_returns
    (change : ServerAgentStore → ServerAgentStore) :
    Keeps (ReturnedOnly condition) (updateStore change) := by
  intro service past holds
  exact returnedOnly_append holds fun _ => List.not_mem_nil

theorem emit_returns
    {effect : Effect}
    (allowed : ∀ stored, effect = .created stored → condition stored) :
    Keeps (ReturnedOnly condition) (emit effect) := by
  intro service past holds stored member
  rcases List.mem_append.mp member with early | late
  · exact holds stored early
  · exact allowed stored (List.mem_singleton.mp late).symm

theorem dropFilesystem_returns (socket : SocketKey) :
    Keeps (ReturnedOnly condition) (dropFilesystem socket) := by
  intro service past holds
  apply returnedOnly_append holds
  intro stored member
  obtain ⟨request, _, shape⟩ := List.mem_map.mp member
  cases shape

theorem close_returns (environment : Environment) (socket : SocketKey) :
    Keeps (ReturnedOnly condition) (close environment socket) := by
  intro service past holds
  apply returnedOnly_append holds
  intro stored member
  have parts : ∀ bindingId,
      Keeps (ReturnedOnly fun _ => False)
        (all
          [Action.update fun service : ServerAgentService =>
            { service with sockets := service.sockets.erase bindingId },
          dropFilesystem socket,
          updateStore fun store => store.requeueActive (some bindingId),
          publish bindingId "agent.disconnected" "Host agent disconnected"
            none none (.clock (environment.clock 0))]) := by
    intro bindingId
    apply keeps_all
    simp only [List.forall_mem_cons, List.not_mem_nil, false_imp_iff,
      implies_true, and_true]
    refine ⟨?_, dropFilesystem_returns socket, updateStore_returns _,
      publish_returns _ _ _ _ _ _⟩
    intro service past holds
    exact returnedOnly_append holds fun _ => List.not_mem_nil
  unfold close andThen Action.update at member
  simp only [List.nil_append] at member
  split at member
  · exact List.not_mem_nil member
  next bindingId _ =>
    split at member
    · exact List.not_mem_nil member
    · exact parts bindingId _ [] (fun _ => List.not_mem_nil) stored member

theorem dispatchLoop_returns
    (environment : Environment) (bindingId : String) (rounds : Nat) :
    Keeps (ReturnedOnly condition)
      (dispatchLoop environment bindingId rounds) := by
  induction rounds with
  | zero => exact triple_skip
  | succ rounds ih =>
      intro service past holds
      unfold dispatchLoop
      split
      next socket command rest _ _ _ =>
        split
        · refine keeps_all ?_ service past holds
          simp only [List.forall_mem_cons, List.not_mem_nil, false_imp_iff,
            implies_true, and_true]
          exact ⟨updateStore_returns _, publish_returns _ _ _ _ _ _,
            ih⟩
        · split
          · exact close_returns environment socket service past holds
          · refine keeps_all ?_ service past holds
            simp only [List.forall_mem_cons, List.not_mem_nil,
              false_imp_iff, implies_true, and_true]
            refine ⟨emit_returns fun stored sent => ?_,
              updateStore_returns _, publish_returns _ _ _ _ _ _⟩
            cases sent
      · exact returnedOnly_append holds fun _ => List.not_mem_nil

end Returned

theorem created_payload
    {environment : Environment} {id bindingId : String}
    {type : ServerCommandType} {command : Option String}
    {service : ServerAgentService} {stored : ServerCommand}
    (returned : .created stored ∈
      (ServerAgentService.createCommand environment id bindingId type
        command service).2) :
    commandPayload type command = .ok stored.payload ∧
      stored.bindingId = bindingId ∧ stored.type = type := by
  unfold ServerAgentService.createCommand at returned
  cases checked : commandPayload type command with
  | error reason =>
      rw [checked] at returned
      cases List.mem_singleton.mp returned
  | ok payload =>
      rw [checked] at returned
      simp only at returned
      cases inserted : service.store.createCommand id bindingId type payload
          (environment.clock 0) with
      | none =>
          rw [inserted] at returned
          cases List.mem_singleton.mp returned
      | some pair =>
          obtain ⟨store, row⟩ := pair
          rw [inserted] at returned
          simp only at returned
          have rowShape : row = newCommand id bindingId type payload
              (environment.clock 0) := by
            unfold ServerAgentStore.createCommand at inserted
            split at inserted <;> cases inserted
            rfl
          have keeps : Keeps (ReturnedOnly fun other => other = row)
              (all
                [updateStore fun _ => store,
                publish bindingId "command.queued" type.text (some row.id)
                  none (.clock (environment.clock 0)),
                dispatchNext environment bindingId,
                emit (.created row)]) := by
            apply keeps_all
            simp only [List.forall_mem_cons, List.not_mem_nil, false_imp_iff,
              implies_true, and_true]
            refine ⟨updateStore_returns _, publish_returns _ _ _ _ _ _, ?_,
              emit_returns fun other same => ?_⟩
            · intro service past holds
              exact dispatchLoop_returns environment bindingId _ service past
                holds
            · cases same
              rfl
          have none : ReturnedOnly (fun other => other = row) service [] :=
            fun _ member => absurd member List.not_mem_nil
          have same : stored = row :=
            keeps service [] none stored returned
          rw [same, rowShape]
          exact ⟨rfl, rfl, rfl⟩

def agentEnvelope (command : ServerCommand) : CommandEnvelope :=
  ⟨command.id, command.bindingId, command.type.text,
    command.payload.getD ""⟩

/-- `executeCommand` runs the command over RCON, and the command fits a
packet. -/
def AcceptedByAgent
    (config : BindingConfig) (envelope : CommandEnvelope) : Prop :=
  commandEffect config envelope = .ok (.rcon envelope.command) ∧
    ∃ bytes,
      encodeRCONPacket
        ⟨2, rconCommand, Utf8.encode envelope.command.toList⟩ = .ok bytes

theorem mem_of_mem_trimChars
    {character : Char} {characters : List Char}
    (member : character ∈ JavaScript.trimChars characters) :
    character ∈ characters := by
  have kept := (List.dropWhile_suffix _).subset (List.mem_reverse.mp member)
  exact (List.dropWhile_suffix _).subset (List.mem_reverse.mp kept)

theorem commandPayload_spec
    {command : String} {payload : Option String}
    (checked : commandPayload .consoleExecute (some command) =
      .ok payload) :
    payload = some (JavaScript.trim command) ∧
      JavaScript.trim command ≠ "" ∧
        '\x00' ∉ (JavaScript.trim command).toList := by
  unfold commandPayload at checked
  simp only at checked
  split at checked
  · cases checked
  next bounded =>
    split at checked
    · cases checked
    next clean =>
      cases checked
      refine ⟨rfl, fun empty => bounded (.inl empty), ?_⟩
      intro member
      rw [JavaScript.trim, String.toList_ofList] at member
      apply clean
      rw [List.any_eq_true]
      exact ⟨_, mem_of_mem_trimChars member, by decide⟩

theorem acceptedByAgent_iff
    {config : BindingConfig} {envelope : CommandEnvelope}
    (binding : envelope.bindingID = config.id)
    (console : envelope.type = "console.execute")
    (nonempty : envelope.command ≠ "")
    (clean : '\x00' ∉ envelope.command.toList) :
    AcceptedByAgent config envelope ↔
      envelope.command.utf8ByteSize ≤ maxCommandBytes := by
  have effect : commandEffect config envelope =
      if maxCommandBytes < envelope.command.utf8ByteSize then
        .error "command exceeds 1000 bytes"
      else
        .ok (.rcon envelope.command) := by
    simp [commandEffect, binding, console, nonempty, clean]
  constructor
  · rintro ⟨accepted, -⟩
    rw [effect] at accepted
    split at accepted
    · cases accepted
    next fits => exact Nat.not_lt.mp fits
  · intro fits
    refine ⟨effect.trans (if_neg (Nat.not_lt.mpr fits)), ?_⟩
    have noZero : 0 ∉ Utf8.encode envelope.command.toList :=
      fun zero => clean ((Utf8.zero_mem_encode _).mp zero)
    have size :
        ¬ maxRCONPacket <
          4 + 4 + (Utf8.encode envelope.command.toList).length + 2 := by
      rw [Utf8.length_encode_toList]
      unfold maxRCONPacket
      unfold maxCommandBytes at fits
      omega
    unfold encodeRCONPacket
    simp only [if_neg noZero, if_neg size]
    exact ⟨_, rfl⟩

/-- An accepted console command passes the checks of the agent exactly when its
trimmed text has at most `maxCommandBytes` bytes. -/
theorem console_command_agreed_iff
    (environment : Environment) (id bindingId command : String)
    (service : ServerAgentService) (stored : ServerCommand)
    (config : BindingConfig)
    (returned : .created stored ∈
      (ServerAgentService.createCommand environment id bindingId
        .consoleExecute (some command) service).2)
    (addressed : config.id = bindingId) :
    AcceptedByAgent config (agentEnvelope stored) ↔
      (JavaScript.trim command).utf8ByteSize ≤ maxCommandBytes := by
  obtain ⟨checked, binding, type⟩ := created_payload returned
  obtain ⟨payload, nonempty, clean⟩ := commandPayload_spec checked
  have text : (agentEnvelope stored).command = JavaScript.trim command := by
    rw [agentEnvelope, payload]
    rfl
  have accepted := @acceptedByAgent_iff config (agentEnvelope stored)
    (binding.trans addressed.symm) (by rw [agentEnvelope, type]; rfl)
    (text ▸ nonempty) (text ▸ clean)
  rw [accepted, text]

/-- A panel that is reached by nobody and whose clock stands still. -/
def quietEnvironment : Environment where
  authenticate := fun _ => none
  clock := fun _ => 0
  throws := fun _ _ => none

def emptyService : ServerAgentService :=
  new ServerAgentStore.empty

def rconBinding : BindingConfig :=
  ⟨"b1", "gravit-main.service", ⟨"/var/lib/gravit-agent", "b1"⟩, 16⟩

theorem console_command_agreed_say :
    AcceptedByAgent rconBinding
        (agentEnvelope (newCommand "c1" "b1" .consoleExecute
          (some "say hello") 0)) ↔
      (JavaScript.trim " say hello ").utf8ByteSize ≤ maxCommandBytes :=
  console_command_agreed_iff quietEnvironment "c1" "b1" " say hello "
    emptyService
    (newCommand "c1" "b1" .consoleExecute (some "say hello") 0)
    rconBinding (by decide +kernel) rfl

theorem created_of_payload
    {environment : Environment} {id bindingId : String}
    {type : ServerCommandType} {command payload : Option String}
    {service : ServerAgentService}
    (checked : commandPayload type command = .ok payload)
    (fresh : id ∉ service.store.commands.map ServerCommand.id) :
    .created (newCommand id bindingId type payload (environment.clock 0)) ∈
      (ServerAgentService.createCommand environment id bindingId type
        command service).2 := by
  simp only [ServerAgentService.createCommand, checked,
    ServerAgentStore.createCommand, if_neg fresh, all_cons, all_nil,
    Action.andThen, List.mem_append]
  exact .inr (.inr (.inr (.inl (List.mem_singleton.mpr rfl))))

def letters (count : Nat) : String :=
  String.ofList (List.replicate count 'я')

theorem letters_bytes (count : Nat) :
    (letters count).utf8ByteSize = 2 * count := by
  have size : Char.utf8Size 'я' = 2 := by decide
  rw [← Utf8.length_encode_toList, letters, String.toList_ofList,
    Utf8.length_encode, List.map_replicate, List.sum_replicate_nat, size,
    Nat.mul_comm]

theorem letters_length (count : Nat) :
    JavaScript.length (letters count) = count := by
  have unit : JavaScript.units 'я' = 1 := by decide
  rw [JavaScript.length, letters, String.toList_ofList, List.map_replicate,
    List.sum_replicate_nat, unit, Nat.mul_one]

theorem letters_trimmed (count : Nat) :
    JavaScript.trim (letters count) = letters count := by
  have visible : JavaScript.isWhiteSpace 'я' = false := by decide
  have kept : (List.replicate count 'я').dropWhile
      JavaScript.isWhiteSpace = List.replicate count 'я' := by
    cases count with
    | zero => rfl
    | succ count =>
        rw [List.replicate_succ, List.dropWhile_cons_of_neg (by decide)]
  rw [JavaScript.trim, letters, String.toList_ofList, JavaScript.trimChars,
    kept, List.reverse_replicate, kept, List.reverse_replicate]

theorem letters_payload
    {count : Nat} (positive : 0 < count) (few : count ≤ 1000) :
    commandPayload .consoleExecute (some (letters count)) =
      .ok (some (letters count)) := by
  have nonempty : letters count ≠ "" := by
    intro empty
    have bytes := letters_bytes count
    rw [empty, String.utf8ByteSize_empty] at bytes
    omega
  have clean : ¬ (letters count).toList.any isControl = true := by
    intro control
    obtain ⟨character, member, holds⟩ := List.any_eq_true.mp control
    rw [letters, String.toList_ofList] at member
    rw [List.eq_of_mem_replicate member] at holds
    exact absurd holds (by decide)
  have bounded : ¬ (letters count = "" ∨
      1000 < JavaScript.length (letters count)) := by
    rw [letters_length]
    rintro (empty | long)
    · exact nonempty empty
    · omega
  unfold commandPayload
  simp only [letters_trimmed]
  rw [if_neg bounded, if_neg clean]

/-- The panel accepts 501 letters and the agent refuses them. -/
theorem letters_refused_by_agent :
    ∃ stored : ServerCommand,
      .created stored ∈
        (ServerAgentService.createCommand quietEnvironment "c1" "b1"
          .consoleExecute (some (letters 501)) emptyService).2 ∧
        rconBinding.id = "b1" ∧
        ¬ AcceptedByAgent rconBinding (agentEnvelope stored) := by
  have checked : commandPayload .consoleExecute (some (letters 501)) =
      .ok (some (letters 501)) :=
    letters_payload (by decide) (by decide)
  have returned : .created (newCommand "c1" "b1" .consoleExecute
      (some (letters 501)) 0) ∈
        (ServerAgentService.createCommand quietEnvironment "c1" "b1"
          .consoleExecute (some (letters 501)) emptyService).2 :=
    created_of_payload checked (by decide)
  refine ⟨_, returned, rfl, ?_⟩
  obtain ⟨payload, nonempty, clean⟩ := commandPayload_spec checked
  rw [letters_trimmed] at nonempty clean
  intro accepted
  have fits := (@acceptedByAgent_iff rconBinding (agentEnvelope
    (newCommand "c1" "b1" .consoleExecute (some (letters 501)) 0)) rfl rfl
      nonempty clean).mp accepted
  have size := letters_bytes 501
  change (letters 501).utf8ByteSize ≤ 1000 at fits
  omega

end GravitPanel.Servers
