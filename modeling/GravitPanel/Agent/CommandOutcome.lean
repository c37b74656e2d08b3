import Mathlib.Data.Finset.Card
import GravitPanel.Core.Execution
import GravitPanel.Agent.CacheInvariant
import GravitPanel.Agent.CommandLoop

/-!
# The outcome of a granted command

A command id that `begin` granted is tracked through redelivery, completion,
crashes and restarts.  The abstract automaton `Life` says what is known about
its outcome; the link ties that to the maps in memory, the state file and the
places of the process that hold the command, and every step keeps it.
-/

namespace GravitPanel.Agent

open GravitPanel.Execution
open CommandResultCache

/-- What is known about the outcome of a granted id. -/
inductive Life where
  | pending (entry : PendingCommandResult)
  | recorded (result : CommandResultMessage) (durable : Bool)
  | unknown

namespace Life

/-- A result becomes durable with the first write that reaches the disk after
it; a crash before that leaves the outcome unknown. -/
def observe (id : String) : Life → Observation → Life
  | .pending entry, .completed other result =>
      if other = id then .recorded result false else .pending entry
  | .pending _, .crashed => .unknown
  | .recorded result false, .persisted => .recorded result true
  | .recorded _ false, .crashed => .unknown
  | life, _ => life

/-- What `begin` has to return for the id. -/
def answer (id : String) : Life → BeginResult
  | .pending entry => .waiting entry
  | .recorded result _ => .cached result
  | .unknown => .cached (unknownOutcome id)

/-- The result that a restart would read from the state file. -/
def survivor (id : String) : Life → CommandResultMessage
  | .recorded result true => result
  | _ => unknownOutcome id

/-- The outcome does not change when the process stops. -/
def Settled : Life → Prop
  | .recorded _ true => True
  | .unknown => True
  | _ => False

end Life

/-- Every answer of `begin` for the id is the one that the outcome so far
determines. -/
def outcomeMonitor (id : String) : Monitor Observation Life where
  next := Life.observe id
  allows life observation :=
    ∀ answer, observation = .begun id answer → answer = life.answer id

/-- The observation grants ownership of the id. -/
def isGrant (id : String) : Observation → Bool
  | .begun other (.owner _) => other = id
  | _ => false

def terminalID : Observation → Option String
  | .completed id _ => some id
  | .loadedUnknown id => some id
  | _ => none

def othersTerminal (id : String) (observations : List Observation) :
    Finset String :=
  (observations.filterMap terminalID).toFinset.erase id

theorem othersTerminal_append
    (id : String) (first second : List Observation) :
    othersTerminal id (first ++ second) =
      othersTerminal id first ∪ othersTerminal id second := by
  ext other
  simp only [othersTerminal, List.filterMap_append, List.toFinset_append,
    Finset.mem_erase, Finset.mem_union]
  tauto

theorem othersTerminal_subset
    (id : String) (first second : List Observation) :
    othersTerminal id first ⊆ othersTerminal id (first ++ second) := by
  rw [othersTerminal_append]
  exact Finset.subset_union_left

theorem mem_persistedWhen
    {outcome : WriteOutcome} {observation : Observation}
    (member : observation ∈ persistedWhen outcome) :
    observation = .persisted := by
  unfold persistedWhen at member
  split at member
  · exact List.mem_singleton.mp member
  · cases member

theorem start_quiet
    {config : BindingConfig} {world : World} {now : String}
    {commandsOutcome cursorOutcome : WriteOutcome}
    {observation : Observation}
    (member : observation ∈
      (world.start config now commandsOutcome cursorOutcome).2) :
    (∃ other, observation = .loadedUnknown other) ∨
      observation = .persisted := by
  simp only [World.start] at member
  split at member
  · cases member
  · rcases List.mem_append.mp member with old | new
    · obtain ⟨other, _, rfl⟩ := List.mem_map.mp old
      exact .inl ⟨other, rfl⟩
    · split at new
      · cases new
      · exact .inr (mem_persistedWhen new)

theorem start_not_executed
    (config : BindingConfig) (world : World) (now id : String)
    (commandsOutcome cursorOutcome : WriteOutcome) :
    (world.start config now commandsOutcome cursorOutcome).2.count
      (.executed id) = 0 := by
  rw [List.count_eq_zero]
  intro member
  rcases start_quiet member with ⟨other, equality⟩ | equality <;>
    cases equality

theorem complete_not_executed
    (world : World) (process : Process) (commandID id : String)
    (result : CommandResultMessage) (now : String)
    (outcome : WriteOutcome) :
    (world.complete process commandID result now outcome).2.count
      (.executed id) = 0 := by
  rw [World.complete_eq, List.count_eq_zero]
  intro member
  rcases List.mem_cons.mp member with equality | written
  · cases equality
  · cases mem_persistedWhen written

theorem othersTerminal_persistedWhen
    (id : String) (outcome : WriteOutcome) :
    othersTerminal id (persistedWhen outcome) = ∅ := by
  unfold persistedWhen
  split <;> rfl

def Reader.held : Reader → List String
  | .idle => []
  | .granted command => [command.id]
  | .rejected command => [command.id]

def Reader.runnable : Reader → List String
  | .granted command => [command.id]
  | _ => []

def Worker.held : Worker → List String
  | .idle => []
  | .taken command => [command.id]
  | .finished command _ => [command.id]

def Worker.runnable : Worker → List String
  | .taken command => [command.id]
  | _ => []

/-- The ids between `begin` and `complete`. -/
def Process.held (process : Process) : List String :=
  process.reader.held ++ process.commands.map CommandEnvelope.id ++
    process.worker.held

/-- The ids whose side effect may still start. -/
def Process.runnable (process : Process) : List String :=
  process.reader.runnable ++ process.commands.map CommandEnvelope.id ++
    process.worker.runnable

theorem Process.held_count (process : Process) (id : String) :
    process.held.count id =
      process.reader.held.count id +
        (process.commands.map CommandEnvelope.id).count id +
          process.worker.held.count id := by
  simp only [Process.held, List.count_append]

theorem Process.runnable_count (process : Process) (id : String) :
    process.runnable.count id =
      process.reader.runnable.count id +
        (process.commands.map CommandEnvelope.id).count id +
          process.worker.runnable.count id := by
  simp only [Process.runnable, List.count_append]

theorem Worker.runnable_count_le (worker : Worker) (id : String) :
    worker.runnable.count id ≤ worker.held.count id := by
  cases worker <;> simp [Worker.runnable, Worker.held]

theorem Process.runnable_count_le
    (process : Process) (id : String) :
    process.runnable.count id ≤ process.held.count id := by
  have readers :
      process.reader.runnable.count id ≤ process.reader.held.count id := by
    cases process.reader <;> simp [Reader.runnable, Reader.held]
  have workers := process.worker.runnable_count_le id
  rw [process.held_count, process.runnable_count]
  omega

/-- The id stands in `order` and only ids of `others` follow it. -/
def Retained
    (order : List String) (id : String) (others : Finset String) : Prop :=
  ∃ before after, order = before ++ id :: after ∧
    ∀ other ∈ after, other ∈ others

theorem length_lt_of_nodup
    {before after : List String} {id : String} {others : Finset String}
    {limit : Nat}
    (nodup : (before ++ id :: after).Nodup)
    (known : ∀ other ∈ after, other ∈ others)
    (few : others.card < limit) :
    after.length < limit := by
  have afterNodup : after.Nodup :=
    (List.nodup_cons.mp (List.nodup_append.mp nodup).2.1).2
  have bound : after.toFinset.card ≤ others.card :=
    Finset.card_le_card fun other member =>
      known other (List.mem_toFinset.mp member)
  rw [List.toFinset_card_of_nodup afterNodup] at bound
  omega

/-- The cache agrees with what is known about the id. -/
def CacheLinked
    (cache : CommandResultCache) (id : String) (others : Finset String) :
    Life → Prop
  | .pending pending =>
      cache.pending.lookup id = some pending ∧ id ∉ cache.completed
  | .recorded result _ =>
      cache.completed.lookup id = some result ∧
        Retained cache.order id others
  | .unknown =>
      cache.completed.lookup id = some (unknownOutcome id) ∧
        Retained cache.order id others

variable {cache : CommandResultCache}

theorem CacheLinked.begin_eq
    {id : String}
    {others : Finset String} {life : Life}
    (linked : CacheLinked cache id others life)
    (onDisk : Option PersistedCommandState) (channel : Nat)
    (now : String) (outcome : WriteOutcome) :
    cache.begin onDisk id channel now outcome =
      (cache, onDisk, life.answer id) := by
  cases life with
  | pending pending =>
      have absent : cache.completed.lookup id = none :=
        AList.lookup_eq_none.mpr linked.2
      simp [CommandResultCache.begin, absent, linked.1, Life.answer]
  | recorded result durable =>
      simp [CommandResultCache.begin, linked.1, Life.answer]
  | unknown =>
      simp [CommandResultCache.begin, linked.1, Life.answer]

/-- The result that an entry of the state file stands for. -/
def recovered (entry : PersistedCommandEntry) :
    Option CommandResultMessage :=
  if entry.status = commandStatusAccepted then
    some (unknownOutcome entry.commandID)
  else
    entry.result

theorem recovered_of_loadResult
    {entry : PersistedCommandEntry} {result : CommandResultMessage}
    (loaded : loadResult entry = .ok result) :
    recovered entry = some result := by
  unfold loadResult at loaded
  unfold recovered
  split at loaded
  · rename_i accepted
    rw [if_pos accepted]
    exact congrArg some (Except.ok.inj loaded)
  · rename_i notAccepted
    rw [if_neg notAccepted]
    split at loaded
    · split at loaded
      · cases loaded
      · rename_i found equality
        rw [equality]
        split at loaded
        · cases loaded
        · exact congrArg some (Except.ok.inj loaded)
    · cases loaded

/-- The state file holds an entry of the id that stands for `result`, and the
entries after it are accepted ones or belong to `others`. -/
def OnDisk
    (onDisk : Option PersistedCommandState) (id : String)
    (result : CommandResultMessage) (others : Finset String) : Prop :=
  ∃ state before entry after,
    onDisk = some state ∧
      state.commands = before ++ entry :: after ∧
      entry.commandID = id ∧
      recovered entry = some result ∧
      ∀ later ∈ after,
        later.status ≠ commandStatusAccepted → later.commandID ∈ others

theorem OnDisk.mono
    {onDisk : Option PersistedCommandState} {id : String}
    {result : CommandResultMessage} {others more : Finset String}
    (present : OnDisk onDisk id result others) (subset : others ⊆ more) :
    OnDisk onDisk id result more := by
  obtain ⟨state, before, entry, after, file, place, name, outcome, known⟩ :=
    present
  exact ⟨state, before, entry, after, file, place, name, outcome,
    fun later member terminal => subset (known later member terminal)⟩

theorem snapshot_onDisk
    {id : String}
    {others : Finset String} {life : Life}
    (linked : CacheLinked cache id others life) (now : String) :
    OnDisk (some (cache.snapshot now)) id
      ((life.observe id .persisted).survivor id) others := by
  have terminal : ∀ result,
      cache.completed.lookup id = some result →
      Retained cache.order id others →
      OnDisk (some (cache.snapshot now)) id result others := by
    rintro result found ⟨before, after, place, known⟩
    refine ⟨_, before.map (cache.terminalEntry now),
      cache.terminalEntry now id,
      after.map (cache.terminalEntry now) ++
        cache.pendingIDs.map cache.acceptedEntry,
      rfl, by simp [snapshot, place], rfl, ?_, ?_⟩
    · simp [recovered, terminalEntry, found, commandStatusTerminal,
        commandStatusAccepted]
    · intro later member notAccepted
      rcases List.mem_append.mp member with terminalMember | acceptedMember
      · obtain ⟨other, otherMember, rfl⟩ := List.mem_map.mp terminalMember
        exact known other otherMember
      · obtain ⟨other, _, rfl⟩ := List.mem_map.mp acceptedMember
        exact absurd rfl notAccepted
  cases life with
  | pending pending =>
      have member : id ∈ cache.pendingIDs := by
        rw [mem_pendingIDs, ← AList.lookup_isSome, linked.1]
        rfl
      obtain ⟨before, after, place⟩ := List.mem_iff_append.mp member
      refine ⟨_, cache.order.map (cache.terminalEntry now) ++
          before.map cache.acceptedEntry,
        cache.acceptedEntry id, after.map cache.acceptedEntry,
        rfl, by simp [snapshot, place], rfl, rfl, ?_⟩
      intro later laterMember notAccepted
      obtain ⟨other, _, rfl⟩ := List.mem_map.mp laterMember
      exact absurd rfl notAccepted
  | recorded result durable =>
      have written := terminal result linked.1 linked.2
      cases durable <;> exact written
  | unknown => exact terminal (unknownOutcome id) linked.1 linked.2

theorem persistLocked_onDisk
    {id : String}
    {others : Finset String} {life : Life}
    {onDisk : Option PersistedCommandState}
    (durable : cache.statePath ≠ "")
    (linked : CacheLinked cache id others life)
    (present : OnDisk onDisk id (life.survivor id) others)
    (now : String) (outcome : WriteOutcome) :
    OnDisk (cache.persistLocked now outcome onDisk).1 id
      (((outcomeMonitor id).after life (persistedWhen outcome)).survivor id)
      others := by
  rw [persistLocked_disk durable]
  cases reaches : outcome.reachesDisk with
  | true =>
      simpa [persistedWhen, reaches, outcomeMonitor] using
        snapshot_onDisk linked now
  | false => simpa [persistedWhen, reaches] using present

/-! ## What one step keeps -/

/-- The command of the id is held at most once, and only while its outcome is
pending; its side effect has started or may start at most once. -/
structure Process.Linked
    (process : Process) (id : String) (others : Finset String)
    (life : Life) (executions : Nat) : Prop where
  cache : CacheLinked process.cache id others life
  held : process.held.count id ≤ 1
  released : (∀ entry, life ≠ .pending entry) → id ∉ process.held
  once : process.runnable.count id + executions ≤ 1

structure World.Linked
    (world : World) (id : String) (others : Finset String)
    (life : Life) (executions : Nat) : Prop where
  disk : OnDisk world.files.commands id (life.survivor id) others
  process : ∀ process, world.process = some process →
    process.Linked id others life executions
  stopped : world.process = none → life.Settled
  once : executions ≤ 1

/-- The parts of a process that do not depend on the id. -/
structure Process.Sound (config : BindingConfig) (process : Process) :
    Prop where
  formed : process.cache.WellFormed
  limit : config.cacheLimit ≤ process.cache.limit
  durable : process.cache.statePath ≠ ""

def World.Sound (config : BindingConfig) (world : World) : Prop :=
  ∀ process, world.process = some process → process.Sound config

section Steps

variable {config : BindingConfig} {world : World} {process : Process}
variable {id : String} {others : Finset String} {life : Life}
variable {executions : Nat}

theorem Process.Linked.move
    {moved : Process} {later : Nat}
    (linked : process.Linked id others life executions)
    (cache : moved.cache = process.cache)
    (held : moved.held.count id ≤ process.held.count id)
    (runnable : moved.runnable.count id + later ≤
      process.runnable.count id + executions) :
    moved.Linked id others life later where
  cache := by
    rw [cache]
    exact linked.cache
  held := Nat.le_trans held linked.held
  released settled := by
    have none := List.count_eq_zero.mpr (linked.released settled)
    exact List.count_eq_zero.mp (by omega)
  once := Nat.le_trans runnable linked.once

theorem World.Linked.move
    {moved : Process} {later : Nat}
    (linked : world.Linked id others life executions)
    (running : world.process = some process)
    (cache : moved.cache = process.cache)
    (held : moved.held.count id ≤ process.held.count id)
    (runnable : moved.runnable.count id + later ≤
      process.runnable.count id + executions) :
    (world.running moved).Linked id others life later where
  disk := linked.disk
  process candidate equality := by
    cases Option.some.inj equality
    exact (linked.process process running).move cache held runnable
  stopped stopped := by cases stopped
  once := by
    have once :=
      ((linked.process process running).move cache held runnable).once
    omega

/-! ### Completion -/

variable {cache : CommandResultCache} {result : CommandResultMessage}

theorem record_linked_other
    {other : String}
    (formed : cache.WellFormed)
    (linked : CacheLinked cache id others life)
    (different : other ≠ id)
    (few : (insert other others).card < cache.limit) :
    CacheLinked (cache.record other result) id (insert other others)
      life := by
  have terminal : ∀ found,
      cache.completed.lookup id = some found →
      Retained cache.order id others →
      (cache.record other result).completed.lookup id = some found ∧
        Retained (cache.record other result).order id
          (insert other others) := by
    rintro found lookup ⟨before, after, place, known⟩
    obtain ⟨later, laterPlace, laterKnown⟩ :
        ∃ later, cache.extendedOrder other = before ++ id :: later ∧
          ∀ candidate ∈ later, candidate ∈ insert other others := by
      unfold extendedOrder
      split
      · exact ⟨after, place, fun candidate member =>
          Finset.mem_insert_of_mem (known candidate member)⟩
      · refine ⟨after ++ [other], by simp [place], ?_⟩
        intro candidate member
        rcases List.mem_append.mp member with old | new
        · exact Finset.mem_insert_of_mem (known candidate old)
        · rw [List.mem_singleton.mp new]
          exact Finset.mem_insert_self other others
    have short : later.length < cache.limit := by
      have nodup := @extendedOrder_nodup cache other formed
      rw [laterPlace] at nodup
      exact length_lt_of_nodup nodup laterKnown few
    obtain ⟨⟨kept, keptPlace⟩, keptLookup⟩ :=
      @record_retains cache other result id before later formed
        laterPlace short
    refine ⟨?_, kept, later, keptPlace, laterKnown⟩
    rw [keptLookup, AList.lookup_insert_ne (Ne.symm different), lookup]
  cases life with
  | pending pending =>
      refine ⟨?_, ?_⟩
      · rw [record_pending, AList.lookup_erase_ne (Ne.symm different)]
        exact linked.1
      · intro member
        rcases mem_record_completed member with equal | present
        · exact different equal.symm
        · exact linked.2 present
  | recorded found durable => exact terminal found linked.1 linked.2
  | unknown => exact terminal (unknownOutcome id) linked.1 linked.2

theorem record_linked_self
    {entry : PendingCommandResult}
    (formed : cache.WellFormed)
    (linked : CacheLinked cache id others (.pending entry))
    (result : CommandResultMessage) :
    CacheLinked (cache.record id result) id others
      (.recorded result false) := by
  have absent : (cache.completed.lookup id).isSome = false := by
    rw [AList.lookup_eq_none.mpr linked.2]
    rfl
  have place : cache.extendedOrder id = cache.order ++ id :: [] := by
    simp [extendedOrder, absent]
  obtain ⟨⟨kept, keptPlace⟩, keptLookup⟩ :=
    @record_retains cache id result id cache.order [] formed place
      formed.limit_pos
  refine ⟨?_, kept, [], keptPlace, by simp⟩
  rw [keptLookup, AList.lookup_insert]

theorem CacheLinked.after_persistedWhen
    (linked : CacheLinked cache id others life) (outcome : WriteOutcome) :
    CacheLinked cache id others
      ((outcomeMonitor id).after life (persistedWhen outcome)) := by
  unfold persistedWhen
  split
  · cases life with
    | recorded result durable => cases durable <;> exact linked
    | _ => exact linked
  · exact linked

theorem accepts_persistedWhen (outcome : WriteOutcome) :
    (outcomeMonitor id).Accepts life (persistedWhen outcome) := by
  unfold persistedWhen
  split <;> simp [Monitor.Accepts, outcomeMonitor]

/-- `complete` for a command that the process held: the result of another id
leaves the outcome alone, the result of the id itself settles it. -/
theorem World.Linked.complete
    {moved : Process} {commandID : String}
    {now : String} {outcome : WriteOutcome}
    (linked : world.Linked id others life executions)
    (running : world.process = some process)
    (sound : process.Sound config)
    (cache : moved.cache = process.cache)
    (held : process.held.count id =
      moved.held.count id + [commandID].count id)
    (runnable : moved.runnable.count id ≤ process.runnable.count id)
    (few : (others ∪ othersTerminal id
      (world.complete moved commandID result now outcome).2).card <
        config.cacheLimit) :
    (world.complete moved commandID result now outcome).1.Linked id
        (others ∪ othersTerminal id
          (world.complete moved commandID result now outcome).2)
        ((outcomeMonitor id).after life
          (world.complete moved commandID result now outcome).2)
        executions ∧
      (outcomeMonitor id).Accepts life
        (world.complete moved commandID result now outcome).2 := by
  have inProcess := linked.process process running
  have names :
      othersTerminal id
          (.completed commandID result :: persistedWhen outcome) =
        [commandID].toFinset.erase id := by
    rw [← List.singleton_append, othersTerminal_append,
      othersTerminal_persistedWhen, Finset.union_empty]
    rfl
  rw [World.complete_eq] at few ⊢
  simp only [names] at few ⊢
  -- The link after the result is in memory and before the write.
  have recorded :
      CacheLinked (moved.cache.record commandID result) id
          (others ∪ [commandID].toFinset.erase id)
          (life.observe id (.completed commandID result)) ∧
        (life.observe id (.completed commandID result)).survivor id =
          life.survivor id ∧
        ((∀ entry, life.observe id (.completed commandID result) ≠
          .pending entry) → id ∉ moved.held) := by
    rw [cache]
    by_cases same : commandID = id
    · subst same
      have pendingNow : ∃ entry, life = .pending entry := by
        by_contra settled
        have gone := inProcess.released fun entry equality =>
          settled ⟨entry, equality⟩
        rw [← List.count_eq_zero, held] at gone
        simp at gone
      obtain ⟨entry, rfl⟩ := pendingNow
      have recordedSelf :=
        record_linked_self sound.formed inProcess.cache result
      refine ⟨?_, by simp [Life.observe, Life.survivor], ?_⟩
      · simpa [Life.observe] using recordedSelf
      · intro _
        have bound := inProcess.held
        rw [held, List.count_singleton_self] at bound
        exact List.count_eq_zero.mp (by omega)
    · have more :
          others ∪ [commandID].toFinset.erase id =
            insert commandID others := by
        ext candidate
        simp only [List.toFinset_cons, List.toFinset_nil,
          Finset.mem_union, Finset.mem_erase, Finset.mem_insert]
        constructor
        · rintro (old | ⟨_, new | absurdity⟩)
          · exact .inr old
          · exact .inl new
          · cases absurdity
        · rintro (rfl | old)
          · exact .inr ⟨same, .inl rfl⟩
          · exact .inl old
      have unchanged :
          life.observe id (.completed commandID result) = life := by
        cases life with
        | pending entry => simp [Life.observe, same]
        | recorded found durable => cases durable <;> rfl
        | unknown => rfl
      rw [more] at few ⊢
      rw [unchanged]
      refine ⟨record_linked_other sound.formed inProcess.cache same
        (Nat.lt_of_lt_of_le few sound.limit), rfl, ?_⟩
      intro settled
      have gone := inProcess.released settled
      rw [← List.count_eq_zero, held] at gone
      rw [← List.count_eq_zero]
      omega
  obtain ⟨linkedCache, survives, released⟩ := recorded
  have durable : (moved.cache.record commandID result).statePath ≠ "" := by
    rw [record_statePath, cache]
    exact sound.durable
  have written :=
    persistLocked_onDisk durable linkedCache
      (by
        rw [survives]
        exact linked.disk.mono Finset.subset_union_left)
      now outcome
  have once := inProcess.once
  have heldBound := inProcess.held
  refine ⟨⟨written, ?_, ?_, linked.once⟩, ?_, accepts_persistedWhen outcome⟩
  · intro candidate equality
    cases Option.some.inj equality
    refine ⟨linkedCache.after_persistedWhen outcome, ?_, ?_, ?_⟩
    · change moved.held.count id ≤ 1
      omega
    · intro settled
      apply released
      intro entry equality
      have pendingStays :
          (outcomeMonitor id).after (.pending entry)
            (persistedWhen outcome) = .pending entry := by
        unfold persistedWhen
        split <;> rfl
      apply settled entry
      rw [Monitor.after_cons]
      change (outcomeMonitor id).after
        (life.observe id (.completed commandID result)) _ = _
      rw [equality, pendingStays]
    · change moved.runnable.count id + executions ≤ 1
      omega
  · intro stopped
    cases stopped
  · intro answer equality
    cases equality

/-! ### Redelivery -/

theorem accept_linked
    {other : String}
    (linked : CacheLinked cache id others life)
    (different : id ≠ other) (entry : PendingCommandResult) :
    CacheLinked (cache.accept other entry) id others life := by
  cases life with
  | pending pending =>
      refine ⟨?_, linked.2⟩
      change (cache.pending.insert other entry).lookup id = some pending
      rw [AList.lookup_insert_ne different]
      exact linked.1
  | recorded result durable => exact linked
  | unknown => exact linked

theorem withdraw_linked
    {other : String}
    (linked : CacheLinked cache id others life)
    (different : id ≠ other) (entry : PendingCommandResult) :
    CacheLinked (cache.withdraw other entry) id others life := by
  cases life with
  | pending pending =>
      refine ⟨?_, linked.2⟩
      change ((cache.pending.insert other entry).erase other).lookup id =
        some pending
      rw [AList.lookup_erase_ne different, AList.lookup_insert_ne different]
      exact linked.1
  | recorded result durable => exact linked
  | unknown => exact linked

theorem observe_begun
    (life : Life) (commandID : String) (answer : BeginResult) :
    life.observe id (.begun commandID answer) = life := by
  cases life with
  | recorded result durable => cases durable <;> rfl
  | _ => rfl

/-- `begin` of the id answers what its outcome determines, and `begin` of
another id leaves it alone. -/
theorem World.Linked.receive
    {command : CommandEnvelope} {now : String} {outcome : WriteOutcome}
    (linked : world.Linked id others life executions)
    (running : world.process = some process)
    (sound : process.Sound config)
    (idle : process.reader = .idle) :
    (world.receive process command now outcome).1.Linked id others
        ((outcomeMonitor id).after life
          (world.receive process command now outcome).2)
        executions ∧
      (outcomeMonitor id).Accepts life
        (world.receive process command now outcome).2 := by
  have inProcess := linked.process process running
  by_cases same : command.id = id
  · have answered :=
      inProcess.cache.begin_eq world.files.commands process.channels now
        outcome
    rw [← same] at answered
    have shape :
        world.receive process command now outcome =
          (⟨world.files, some process⟩,
            [.begun command.id (life.answer command.id)]) := by
      simp only [World.receive, answered]
      cases life <;> rfl
    have worldShape : (⟨world.files, some process⟩ : World) = world := by
      rw [← running]
    rw [shape, worldShape]
    refine ⟨?_, ?_, trivial⟩
    · change world.Linked id others (life.observe id _) executions
      rw [observe_begun]
      exact linked
    · intro answer equality
      cases equality
      rfl
  · have different : id ≠ command.id := fun equality =>
      same equality.symm
    have quiet : ∀ answer,
        (outcomeMonitor id).Accepts life [.begun command.id answer] := by
      intro answer
      refine ⟨?_, trivial⟩
      intro found equality
      cases equality
      exact absurd rfl same
    have durable :
        (process.cache.accept command.id
          ⟨process.channels, now⟩).statePath ≠ "" := sound.durable
    have written :=
      persistLocked_onDisk durable
        (accept_linked inProcess.cache different ⟨process.channels, now⟩)
        linked.disk now outcome
    have unchanged : (world.running process).Linked id others life
        executions :=
      linked.move running rfl le_rfl le_rfl
    -- The two answers that come after a state write.
    have persisted : ∀ (changed : Process) (answer : BeginResult),
        CacheLinked changed.cache id others life →
        changed.held.count id = process.held.count id →
        changed.runnable.count id = process.runnable.count id →
        World.Linked
            ⟨{ world.files with
                commands := ((process.cache.accept command.id
                  ⟨process.channels, now⟩).persistLocked now outcome
                    world.files.commands).1 },
              some changed⟩
            id others
            ((outcomeMonitor id).after life
              (persistedWhen outcome ++ [.begun command.id answer]))
            executions ∧
          (outcomeMonitor id).Accepts life
            (persistedWhen outcome ++ [.begun command.id answer]) := by
      intro changed answer cache held runnable
      have observed :
          (outcomeMonitor id).after life
              (persistedWhen outcome ++ [.begun command.id answer]) =
            (outcomeMonitor id).after life (persistedWhen outcome) := by
        rw [Monitor.after_append]
        exact observe_begun _ _ _
      rw [observed, Monitor.accepts_append]
      refine ⟨⟨written, ?_, by simp, linked.once⟩,
        accepts_persistedWhen outcome, ?_, trivial⟩
      · intro candidate equality
        cases Option.some.inj equality
        refine ⟨cache.after_persistedWhen outcome, ?_, ?_, ?_⟩
        · rw [held]
          exact inProcess.held
        · intro settled
          rw [← List.count_eq_zero, held, List.count_eq_zero]
          apply inProcess.released
          rintro entry rfl
          apply settled entry
          unfold persistedWhen
          split <;> rfl
        · rw [runnable]
          exact inProcess.once
      · intro found equality
        cases equality
        exact absurd rfl same
    rcases begin_cases process.cache world.files.commands command.id
        process.channels now outcome with
      ⟨result, _, answered⟩ | ⟨entry, _, _, answered⟩ |
        ⟨_, _, ⟨message, answered⟩ | ⟨_, answered⟩⟩
    · simp only [World.receive, answered]
      refine ⟨?_, quiet _⟩
      simpa [outcomeMonitor, observe_begun, World.running] using unchanged
    · simp only [World.receive, answered]
      refine ⟨?_, quiet _⟩
      simpa [outcomeMonitor, observe_begun, World.running] using unchanged
    · simp only [World.receive, answered]
      exact persisted _ _
        (withdraw_linked inProcess.cache different _) rfl rfl
    · simp only [World.receive, answered]
      refine persisted _ _
        (accept_linked inProcess.cache different _) ?_ ?_
      · simp [Process.held, idle, Reader.held, same]
      · simp [Process.runnable, idle, Reader.runnable, same]

/-! ### Crash and restart -/

theorem Life.survivor_crashed (life : Life) :
    (life.observe id .crashed).survivor id = life.survivor id := by
  cases life with
  | recorded result durable => cases durable <;> rfl
  | _ => rfl

theorem World.Linked.crash
    (linked : world.Linked id others life executions) :
    ({ world with process := none } : World).Linked id others
      (life.observe id .crashed) executions where
  disk := by
    rw [Life.survivor_crashed]
    exact linked.disk
  process process equality := by cases equality
  stopped _ := by
    cases life with
    | recorded result durable => cases durable <;> trivial
    | _ => trivial
  once := linked.once

theorem settled_quiet
    (settled : life.Settled) {observations : List Observation}
    (quiet : ∀ observation ∈ observations,
      (∃ other, observation = .loadedUnknown other) ∨
        observation = .persisted) :
    (outcomeMonitor id).after life observations = life ∧
      (outcomeMonitor id).Accepts life observations := by
  induction observations with
  | nil => exact ⟨rfl, trivial⟩
  | cons observation rest ih =>
      have unchanged : life.observe id observation = life := by
        rcases quiet observation List.mem_cons_self with
          ⟨other, rfl⟩ | rfl
        · cases life with
          | recorded result durable => cases durable <;> rfl
          | _ => rfl
        · cases life with
          | pending entry => cases settled
          | recorded result durable =>
              cases durable
              · cases settled
              · rfl
          | unknown => rfl
      obtain ⟨later, accepted⟩ := ih fun other member =>
        quiet other (List.mem_cons_of_mem observation member)
      refine ⟨?_, ?_, ?_⟩
      · rw [Monitor.after_cons]
        change (outcomeMonitor id).after (life.observe id observation) rest
          = life
        rw [unchanged, later]
      · intro answer equality
        rcases quiet observation List.mem_cons_self with
          ⟨other, rfl⟩ | rfl <;> cases equality
      · change (outcomeMonitor id).Accepts (life.observe id observation) rest
        rw [unchanged]
        exact accepted

theorem OnDisk.load_linked
    {cache loaded : CommandResultCache}
    {onDisk : Option PersistedCommandState}
    (present : OnDisk onDisk id result others)
    (fresh : cache.Fresh) (success : cache.load onDisk = .ok loaded)
    (few : (others ∪ othersTerminal id
      ((acceptedIDs onDisk).map .loadedUnknown)).card < cache.limit) :
    loaded.completed.lookup id = some result ∧
      Retained loaded.order id
        (others ∪ othersTerminal id
          ((acceptedIDs onDisk).map .loadedUnknown)) := by
  obtain ⟨state, before, entry, after, rfl, place, rfl, outcome, known⟩ :=
    present
  obtain ⟨order, completed, entriesLoaded, _⟩ := load_some_spec success
  rw [fresh.order, fresh.completed] at entriesLoaded
  obtain ⟨orderShape, nodup, _, _⟩ :=
    loadEntries_spec List.nodup_nil entriesLoaded
  rw [List.nil_append, place, List.map_append, List.map_cons] at orderShape
  subst orderShape
  have afterKnown :
      ∀ other ∈ after.map PersistedCommandEntry.commandID,
        other ∈ others ∪ othersTerminal entry.commandID
          ((acceptedIDs (some state)).map .loadedUnknown) := by
    intro other member
    have different : other ≠ entry.commandID := by
      rintro rfl
      have tailNodup := (List.nodup_append.mp nodup).2.1
      exact (List.nodup_cons.mp tailNodup).1 member
    obtain ⟨later, laterMember, rfl⟩ := List.mem_map.mp member
    by_cases accepted : later.status = commandStatusAccepted
    · apply Finset.mem_union_right
      have named :
          later.commandID ∈ acceptedIDs (some state) := by
        refine List.mem_map.mpr ⟨later, ?_, rfl⟩
        rw [List.mem_filter, place]
        refine ⟨?_, decide_eq_true accepted⟩
        exact List.mem_append_right before
          (List.mem_cons_of_mem entry laterMember)
      rw [othersTerminal, Finset.mem_erase, List.mem_toFinset,
        List.mem_filterMap]
      exact ⟨different, .loadedUnknown later.commandID,
        List.mem_map_of_mem named, rfl⟩
    · exact Finset.mem_union_left _ (known later laterMember accepted)
  have short := length_lt_of_nodup nodup afterKnown few
  rw [List.length_map] at short
  obtain ⟨found, kept, foundEquality, foundLookup, keptPlace⟩ :=
    load_retains fresh success place short
  have same : found = result := by
    rw [recovered_of_loadResult foundEquality] at outcome
    exact Option.some.inj outcome
  rw [same] at foundLookup
  exact ⟨foundLookup, kept, _, keptPlace, afterKnown⟩

theorem World.Linked.start
    {now : String} {commandsOutcome cursorOutcome : WriteOutcome}
    (linked : world.Linked id others life executions)
    (stopped : world.process = none)
    (few : (others ∪ othersTerminal id
      (world.start config now commandsOutcome cursorOutcome).2).card <
        config.cacheLimit) :
    (world.start config now commandsOutcome cursorOutcome).1.Linked id
        (others ∪ othersTerminal id
          (world.start config now commandsOutcome cursorOutcome).2)
        ((outcomeMonitor id).after life
          (world.start config now commandsOutcome cursorOutcome).2)
        executions ∧
      (outcomeMonitor id).Accepts life
        (world.start config now commandsOutcome cursorOutcome).2 := by
  have settled := linked.stopped stopped
  have loadedQuiet : ∀ observation ∈
      (acceptedIDs world.files.commands).map Observation.loadedUnknown,
      ∃ other, observation = .loadedUnknown other := by
    intro observation member
    obtain ⟨other, _, rfl⟩ := List.mem_map.mp member
    exact ⟨other, rfl⟩
  have unopened : ∀ observations : List Observation,
      (∀ observation ∈ observations,
        (∃ other, observation = .loadedUnknown other) ∨
          observation = .persisted) →
      World.Linked ⟨world.files, none⟩ id
          (others ∪ othersTerminal id observations)
          ((outcomeMonitor id).after life observations) executions ∧
        (outcomeMonitor id).Accepts life observations := by
    intro observations quiet
    obtain ⟨unchanged, accepted⟩ := @settled_quiet id life settled _ quiet
    rw [unchanged]
    exact ⟨⟨linked.disk.mono Finset.subset_union_left, by simp,
      fun _ => settled, linked.once⟩, accepted⟩
  rcases openCommandResultCache_cases config.paths config.id config.limit
      world.files now commandsOutcome cursorOutcome with
    ⟨problem, loading, opening⟩ |
      ⟨loaded, problem, loading, cursorLoading, opening⟩ |
        ⟨loaded, cursor, opened, files, loading, cursorLoading, opening,
          written, shape⟩
  · simp only [World.start, opening, loading] at few ⊢
    exact unopened [] (by simp)
  · simp only [World.start, opening, loading, cursorLoading] at few ⊢
    refine unopened _ ?_
    intro observation member
    rw [List.append_nil] at member
    exact .inl (loadedQuiet observation member)
  · simp only [World.start, opening, loading, cursorLoading] at few ⊢
    rw [othersTerminal_append, othersTerminal_persistedWhen,
      Finset.union_empty] at few ⊢
    obtain ⟨unchanged, accepted⟩ :=
      @settled_quiet id life settled
        ((acceptedIDs world.files.commands).map .loadedUnknown ++
          persistedWhen commandsOutcome) fun observation member => by
        rcases List.mem_append.mp member with old | new
        · exact .inl (loadedQuiet observation old)
        · exact .inr (mem_persistedWhen new)
    obtain ⟨quietWrite, _⟩ :=
      @settled_quiet id life settled (persistedWhen commandsOutcome)
        fun observation member => .inr (mem_persistedWhen member)
    have fresh :=
      emptyCommandResultCache_fresh config.paths config.id config.limit
    obtain ⟨limit, nothingPending, path⟩ := load_frame loading
    obtain ⟨found, retained⟩ :=
      linked.disk.load_linked fresh loading few
    have linkedCache :
        CacheLinked { loaded with cursor := cursor } id
          (others ∪ othersTerminal id
            ((acceptedIDs world.files.commands).map .loadedUnknown))
          life := by
      cases life with
      | pending entry => cases settled
      | recorded result durable =>
          cases durable
          · cases settled
          · exact ⟨found, retained⟩
      | unknown => exact ⟨found, retained⟩
    have durable :
        ({ loaded with cursor := cursor } : CommandResultCache).statePath ≠
          "" := by
      change loaded.statePath ≠ ""
      rw [path]
      exact StatePaths.stateFilePath_ne_empty config.paths
    have onDisk :=
      persistLocked_onDisk durable linkedCache
        (linked.disk.mono Finset.subset_union_left) now commandsOutcome
    rw [quietWrite, ← written] at onDisk
    rw [unchanged]
    refine ⟨⟨onDisk, ?_, fun _ => settled, linked.once⟩, accepted⟩
    intro process equality
    rcases shape with rfl | rfl
    · cases equality
    · cases Option.some.inj equality
      refine ⟨linkedCache, ?_, ?_, ?_⟩
      · simp [Process.held, Reader.held, Worker.held]
      · intro _
        simp [Process.held, Reader.held, Worker.held]
      · have once := linked.once
        simpa [Process.runnable, Reader.runnable, Worker.runnable] using once

end Steps

/-- What a step of the agent amounts to for the places that hold commands. -/
inductive Advance (config : BindingConfig) (world : World) :
    World → List Observation → Prop where
  | moved (process moved : Process)
      (running : world.process = some process)
      (cache : moved.cache = process.cache)
      (held : ∀ id, moved.held.count id ≤ process.held.count id)
      (runnable : ∀ id, moved.runnable.count id ≤ process.runnable.count id) :
      Advance config world (world.running moved) []
  | executed (process moved : Process) (commandID : String)
      (running : world.process = some process)
      (cache : moved.cache = process.cache)
      (held : ∀ id, moved.held.count id ≤ process.held.count id)
      (runnable : ∀ id, moved.runnable.count id + [commandID].count id ≤
        process.runnable.count id) :
      Advance config world (world.running moved) [.executed commandID]
  | received (process : Process) (command : CommandEnvelope)
      (now : String) (outcome : WriteOutcome)
      (running : world.process = some process)
      (idle : process.reader = .idle) :
      Advance config world
        (world.receive process command now outcome).1
        (world.receive process command now outcome).2
  | completed (process moved : Process) (commandID : String)
      (result : CommandResultMessage) (now : String)
      (outcome : WriteOutcome)
      (running : world.process = some process)
      (cache : moved.cache = process.cache)
      (held : ∀ id, process.held.count id =
        moved.held.count id + [commandID].count id)
      (runnable : ∀ id, moved.runnable.count id ≤ process.runnable.count id) :
      Advance config world
        (world.complete moved commandID result now outcome).1
        (world.complete moved commandID result now outcome).2
  | crashed : Advance config world { world with process := none } [.crashed]
  | started (now : String) (commandsOutcome cursorOutcome : WriteOutcome)
      (stopped : world.process = none) :
      Advance config world
        (world.start config now commandsOutcome cursorOutcome).1
        (world.start config now commandsOutcome cursorOutcome).2

theorem running_self
    {world : World} {process : Process}
    (running : world.process = some process) :
    world.running process = world := by
  simp [World.running, ← running]

theorem step_advance
    {config : BindingConfig} {world next : World} {event : Event}
    {now : List Observation}
    (stepEquality : step config world event = some (next, now)) :
    Advance config world next now := by
  unfold step at stepEquality
  split at stepEquality
  · rename_i process running
    cases event with
    | start time commandsOutcome cursorOutcome => cases stepEquality
    | crash =>
        cases Option.some.inj stepEquality
        exact .crashed
    | receive command time outcome =>
        simp only [processStep] at stepEquality
        split at stepEquality
        · rename_i idle
          split at stepEquality
          · cases Option.some.inj stepEquality
            have still := @Advance.moved config world process process
              running rfl (fun _ => le_rfl) (fun _ => le_rfl)
            rwa [running_self running] at still
          · have shape := Option.some.inj stepEquality
            have received := @Advance.received config world process
              command time outcome running idle
            rwa [shape] at received
        · cases stepEquality
    | enqueue =>
        simp only [processStep] at stepEquality
        split at stepEquality
        · rename_i command granted
          split at stepEquality
          · cases Option.some.inj stepEquality
            refine .moved process _ running rfl ?_ ?_ <;> intro id <;>
              simp only [Process.held_count, Process.runnable_count, granted,
                Reader.held, Reader.runnable, List.map_append,
                List.map_cons, List.map_nil, List.count_append,
                List.count_nil] <;> omega
          · cases Option.some.inj stepEquality
            refine .moved process _ running rfl ?_ ?_ <;> intro id <;>
              simp only [Process.held_count, Process.runnable_count, granted,
                Reader.held, Reader.runnable, List.count_nil] <;> omega
        · cases stepEquality
    | completeRejected time outcome =>
        simp only [processStep] at stepEquality
        split at stepEquality
        · rename_i command rejected
          have shape := Option.some.inj stepEquality
          have completed := @Advance.completed config world process
            { process with reader := .idle } command.id
            (queueFullResult command.id) time outcome running rfl
            (by
              intro id
              simp only [Process.held_count, rejected, Reader.held,
                List.count_nil]
              omega)
            (by
              intro id
              simp only [Process.runnable_count, rejected, Reader.runnable]
              omega)
          rwa [shape] at completed
        · cases stepEquality
    | workerTake =>
        simp only [processStep] at stepEquality
        split at stepEquality
        · rename_i command rest idle queue
          cases Option.some.inj stepEquality
          refine .moved process _ running rfl ?_ ?_ <;> intro id <;>
            simp only [Process.held_count, Process.runnable_count, idle,
              queue, Worker.held, Worker.runnable, List.map_cons,
              List.count_cons, List.count_nil] <;> omega
        · cases stepEquality
    | workerExecute report =>
        simp only [processStep] at stepEquality
        split at stepEquality
        · rename_i command taken
          split at stepEquality
          · cases Option.some.inj stepEquality
            refine .moved process _ running rfl ?_ ?_ <;> intro id <;>
              simp only [Process.held_count, Process.runnable_count, taken,
                Worker.held, Worker.runnable, List.count_nil] <;> omega
          · cases Option.some.inj stepEquality
            refine .executed process _ command.id running rfl ?_ ?_ <;>
              intro id <;>
              simp only [Process.held_count, Process.runnable_count, taken,
                Worker.held, Worker.runnable, List.count_nil] <;> omega
        · cases stepEquality
    | workerComplete time outcome =>
        simp only [processStep] at stepEquality
        split at stepEquality
        · rename_i command result finished
          have shape := Option.some.inj stepEquality
          have completed := @Advance.completed config world process
            { process with worker := .idle } command.id result time outcome
            running rfl
            (by
              intro id
              simp only [Process.held_count, finished, Worker.held,
                List.count_nil]
              omega)
            (by
              intro id
              simp only [Process.runnable_count, finished, Worker.runnable]
              omega)
          rwa [shape] at completed
        · cases stepEquality
  · rename_i stopped
    cases event with
    | start time commandsOutcome cursorOutcome =>
        have shape := Option.some.inj stepEquality
        have started := @Advance.started config world time
          commandsOutcome cursorOutcome stopped
        rwa [shape] at started
    | _ => cases stepEquality

section Runs

variable {config : BindingConfig} {world next : World} {id : String}
variable {others : Finset String} {life : Life} {executions : Nat}
variable {now : List Observation}

theorem Advance.sound
    (advance : Advance config world next now) (sound : world.Sound config) :
    next.Sound config := by
  intro candidate equality
  cases advance with
  | moved process moved running cache held runnable =>
      cases Option.some.inj equality
      obtain ⟨formed, limit, durable⟩ := sound process running
      refine ⟨?_, ?_, ?_⟩ <;> rw [cache] <;> assumption
  | executed process moved commandID running cache held runnable =>
      cases Option.some.inj equality
      obtain ⟨formed, limit, durable⟩ := sound process running
      refine ⟨?_, ?_, ?_⟩ <;> rw [cache] <;> assumption
  | received process command time outcome running idle =>
      obtain ⟨formed, limit, durable⟩ := sound process running
      rcases begin_cases process.cache world.files.commands command.id
          process.channels time outcome with
        ⟨result, _, answered⟩ | ⟨entry, _, _, answered⟩ |
          ⟨absent, _, ⟨message, answered⟩ | ⟨_, answered⟩⟩ <;>
        simp only [World.receive, answered] at equality <;>
        cases Option.some.inj equality
      · exact ⟨formed, limit, durable⟩
      · exact ⟨formed, limit, durable⟩
      · exact ⟨withdraw_wellFormed formed _, limit, durable⟩
      · exact ⟨accept_wellFormed formed absent _, limit, durable⟩
  | completed process moved commandID result time outcome running cache
      held runnable =>
      obtain ⟨formed, limit, durable⟩ := sound process running
      rw [World.complete_eq] at equality
      cases Option.some.inj equality
      rw [← cache] at formed limit durable
      exact ⟨record_wellFormed formed, limit, durable⟩
  | crashed => cases equality
  | started time commandsOutcome cursorOutcome stopped =>
      rcases openCommandResultCache_cases config.paths config.id config.limit
          world.files time commandsOutcome cursorOutcome with
        ⟨problem, loading, opening⟩ |
          ⟨loaded, problem, loading, cursorLoading, opening⟩ |
            ⟨loaded, cursor, opened, files, loading, cursorLoading, opening,
              written, shape⟩ <;>
        simp only [World.start, opening] at equality
      · cases equality
      · cases equality
      · rcases shape with rfl | rfl
        · cases equality
        · cases Option.some.inj equality
          have fresh :=
            emptyCommandResultCache_fresh config.paths config.id config.limit
          obtain ⟨limit, _, path⟩ := load_frame loading
          have formed := load_wellFormed fresh loading
          refine ⟨{ formed with }, ?_, ?_⟩
          · change config.cacheLimit ≤ loaded.limit
            rw [limit]
            exact le_rfl
          · change loaded.statePath ≠ ""
            rw [path]
            exact StatePaths.stateFilePath_ne_empty config.paths

/-- While few other ids become terminal, a step keeps the id linked to its
outcome and answers its redeliveries accordingly. -/
theorem Advance.linked
    (advance : Advance config world next now) (sound : world.Sound config)
    (linked : world.Linked id others life executions)
    (few : (others ∪ othersTerminal id now).card < config.cacheLimit) :
    next.Linked id (others ∪ othersTerminal id now)
        ((outcomeMonitor id).after life now)
        (executions + now.count (.executed id)) ∧
      (outcomeMonitor id).Accepts life now := by
  have observed : ∀ observations : List Observation,
      observations.filterMap terminalID = [] →
      others ∪ othersTerminal id observations = others := by
    intro observations quiet
    simp [othersTerminal, quiet]
  cases advance with
  | moved process moved running cache held runnable =>
      rw [observed [] rfl]
      have kept := linked.move running cache (held id)
        (Nat.add_le_add_right (runnable id) executions)
      exact ⟨kept, trivial⟩
  | executed process moved commandID running cache held runnable =>
      rw [observed [.executed commandID] rfl]
      have unchanged :
          (outcomeMonitor id).after life [.executed commandID] = life := by
        cases life with
        | recorded result durable => cases durable <;> rfl
        | _ => rfl
      have counted :
          [Observation.executed commandID].count (.executed id) =
            [commandID].count id := by
        simp [List.count_singleton]
      rw [unchanged, counted]
      refine ⟨?_, ?_, trivial⟩
      · apply linked.move running cache (held id)
        have bound := runnable id
        omega
      · intro answer equality
        cases equality
  | received process command time outcome running idle =>
      have quiet :
          (world.receive process command time outcome).2.filterMap
              terminalID = [] ∧
            (world.receive process command time outcome).2.count
              (.executed id) = 0 := by
        rcases begin_cases process.cache world.files.commands command.id
            process.channels time outcome with
          ⟨result, _, answered⟩ | ⟨entry, _, _, answered⟩ |
            ⟨_, _, ⟨message, answered⟩ | ⟨_, answered⟩⟩ <;>
          simp only [World.receive, answered, persistedWhen] <;>
          cases outcome.reachesDisk <;> simp [terminalID]
      rw [observed _ quiet.1, quiet.2]
      exact linked.receive running (sound process running) idle
  | completed process moved commandID result time outcome running cache
      held runnable =>
      rw [complete_not_executed]
      exact linked.complete running (sound process running) cache (held id)
        (runnable id) few
  | crashed =>
      rw [observed [.crashed] rfl]
      refine ⟨linked.crash, ?_, trivial⟩
      intro answer equality
      cases equality
  | started time commandsOutcome cursorOutcome stopped =>
      rw [start_not_executed]
      exact linked.start stopped few

end Runs

end GravitPanel.Agent
