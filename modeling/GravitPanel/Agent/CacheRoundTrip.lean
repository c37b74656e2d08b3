import Mathlib.Data.List.DropRight
import GravitPanel.Core.Execution
import GravitPanel.Agent.CacheInvariant

/-!
# The state file reads back

The cache on its own, under any calls its users can make: accepted ids and
results are those that the command loop hands over, writes fail as they like,
and the process is opened again on whatever is on disk.  In every state the
file that `persistLocked` writes is one that `load` accepts, and loading it
keeps the recorded results and turns the pending ids into unknown outcomes.
-/

namespace GravitPanel.Agent

open GravitPanel.Execution

abbrev CommandID := { id : String // id ≠ "" }

/-- A terminal message for the id, as `executeCommand` and the read loop make
them. -/
structure CommandResultMessage.TerminalFor
    (result : CommandResultMessage) (id : String) : Prop where
  commandID : result.commandID = id
  type : result.type = "command.completed" ∨ result.type = "command.failed"

theorem unknownOutcome_terminalFor (id : String) :
    (unknownOutcome id).TerminalFor id where
  commandID := rfl
  type := .inr rfl

inductive CacheEvent where
  | reopen (limit : Nat) (now : String)
      (commandsOutcome cursorOutcome : WriteOutcome)
  | begin (commandID : CommandID) (channel : Nat) (now : String)
      (outcome : WriteOutcome)
  | complete (commandID : CommandID) (result : CommandResultMessage)
      (terminal : result.TerminalFor commandID) (now : String)
      (outcome : WriteOutcome)
  | saveJournalCursor (cursor : String) (outcome : WriteOutcome)

/-- The files of a binding and the cache of the process that has them open. -/
structure CacheWorld where
  files : StateFiles
  cache : Option CommandResultCache

/-- One call on the cache; the answers of `begin` are visible. -/
def cacheStep
    (paths : StatePaths) (bindingID : String) (world : CacheWorld) :
    CacheEvent → Option (CacheWorld × List CommandResultCache.BeginResult)
  | .reopen limit now commandsOutcome cursorOutcome =>
      match openCommandResultCache paths bindingID limit world.files now
          commandsOutcome cursorOutcome with
      | (opened, files) => some (⟨files, opened⟩, [])
  | .begin commandID channel now outcome =>
      match world.cache with
      | none => none
      | some cache =>
          match cache.begin world.files.commands commandID channel now
              outcome with
          | (cache, disk, answer) =>
              some (⟨{ world.files with commands := disk }, some cache⟩,
                [answer])
  | .complete commandID result _ now outcome =>
      match world.cache with
      | none => none
      | some cache =>
          match cache.complete world.files.commands commandID result now
              outcome with
          | (cache, disk, _) =>
              some (⟨{ world.files with commands := disk }, some cache⟩, [])
  | .saveJournalCursor cursor outcome =>
      match world.cache with
      | none => none
      | some cache =>
          match cache.saveJournalCursor world.files.cursor cursor outcome with
          | (cache, disk, _) =>
              some (⟨{ world.files with cursor := disk }, some cache⟩, [])

namespace CommandResultCache

/-- The invariant with what `load` checks again of every entry. -/
structure Persistable
    (cache : CommandResultCache) (paths : StatePaths) (bindingID : String) :
    Prop where
  wellFormed : cache.WellFormed
  terminal : ∀ id result, cache.completed.lookup id = some result →
    id ≠ "" ∧ result.TerminalFor id
  pending : ∀ id ∈ cache.pending, id ≠ ""
  bindingID : cache.bindingID = bindingID
  statePath : cache.statePath = paths.stateFilePath

theorem trimLoop_order (limit : Nat) (order : List String)
    (completed : ResultMap) :
    (trimLoop limit order completed).1 = order.rtake limit := by
  obtain ⟨dropped, split, _, bound, full⟩ :=
    trimLoop_spec limit order completed
  generalize (trimLoop limit order completed).1 = kept at split bound full
  subst split
  rw [List.rtake, List.length_append]
  rcases full with nothing | full
  · subst nothing
    have none : 0 + kept.length - limit = 0 := by omega
    rw [List.length_nil, none]
    rfl
  · have all : dropped.length + kept.length - limit = dropped.length := by
      omega
    rw [all, List.drop_left]

theorem trimLoop_lookup
    {limit : Nat} {order : List String} {completed : ResultMap}
    {id : String} {result : CommandResultMessage}
    (found : (trimLoop limit order completed).2.lookup id = some result) :
    completed.lookup id = some result := by
  obtain ⟨dropped, _, lookups, _, _⟩ := trimLoop_spec limit order completed
  rw [lookups] at found
  split at found
  · cases found
  · exact found

theorem trimLoop_lookup_kept
    {limit : Nat} {order : List String} {id : String}
    (completed : ResultMap) (nodup : order.Nodup)
    (kept : id ∈ (trimLoop limit order completed).1) :
    (trimLoop limit order completed).2.lookup id = completed.lookup id := by
  obtain ⟨dropped, split, lookups, _, _⟩ :=
    trimLoop_spec limit order completed
  rw [lookups, if_neg]
  intro gone
  rw [split] at nodup
  exact (List.nodup_append.mp nodup).2.2 id gone id kept rfl

section Operations

variable {cache : CommandResultCache} {paths : StatePaths}
variable {bindingID : String}

theorem accept_persistable
    {commandID : String}
    (persistable : cache.Persistable paths bindingID)
    (named : commandID ≠ "")
    (absent : cache.completed.lookup commandID = none)
    (entry : PendingCommandResult) :
    (cache.accept commandID entry).Persistable paths bindingID :=
  { persistable with
    wellFormed := accept_wellFormed persistable.wellFormed absent entry
    pending := by
      intro id member
      rcases AList.mem_insert _ |>.mp member with rfl | member
      · exact named
      · exact persistable.pending id member }

theorem withdraw_persistable
    (persistable : cache.Persistable paths bindingID)
    (commandID : String) (entry : PendingCommandResult) :
    (cache.withdraw commandID entry).Persistable paths bindingID :=
  { persistable with
    wellFormed := withdraw_wellFormed persistable.wellFormed entry
    pending := by
      intro id member
      change id ∈ (cache.pending.insert commandID entry).erase commandID
        at member
      rw [AList.mem_erase, AList.mem_insert] at member
      exact persistable.pending id (member.2.resolve_left member.1) }

theorem record_persistable
    {commandID : String} {result : CommandResultMessage}
    (persistable : cache.Persistable paths bindingID)
    (named : commandID ≠ "") (terminal : result.TerminalFor commandID) :
    (cache.record commandID result).Persistable paths bindingID :=
  { persistable with
    wellFormed := record_wellFormed persistable.wellFormed
    terminal := by
      intro id other found
      have before := trimLoop_lookup found
      by_cases same : id = commandID
      · subst same
        rw [AList.lookup_insert] at before
        cases before
        exact ⟨named, terminal⟩
      · rw [AList.lookup_insert_ne same] at before
        exact persistable.terminal id other before
    pending := by
      intro id member
      rw [record_pending, AList.mem_erase] at member
      exact persistable.pending id member.2 }

theorem loadEntries_named :
    ∀ {entries : List PersistedCommandEntry} {order : List String}
      {completed : ResultMap} {loaded : List String × ResultMap},
      loadEntries entries order completed = .ok loaded →
        ∀ entry ∈ entries, entry.commandID ≠ ""
  | [], _, _, _, _ => by simp
  | entry :: rest, order, completed, loaded, success => by
      rw [loadEntries] at success
      split at success
      · cases success
      rename_i named
      split at success
      · cases success
      split at success
      · cases success
      intro candidate member
      rcases List.mem_cons.mp member with rfl | later
      · exact named
      · exact loadEntries_named success candidate later

theorem loadResult_terminalFor
    {entry : PersistedCommandEntry} {result : CommandResultMessage}
    (read : loadResult entry = .ok result) :
    result.TerminalFor entry.commandID := by
  rw [loadResult] at read
  split at read
  · cases read
    exact unknownOutcome_terminalFor entry.commandID
  split at read
  · split at read
    · cases read
    split at read
    · cases read
    rename_i valid
    cases read
    rw [not_or, not_not, not_and_or, not_not, not_not] at valid
    exact ⟨valid.1, valid.2⟩
  · cases read

theorem load_persistable
    {limit : Nat} {loaded : CommandResultCache}
    {onDisk : Option PersistedCommandState}
    (success :
      (emptyCommandResultCache paths bindingID limit).load onDisk =
        .ok loaded) :
    loaded.Persistable paths bindingID := by
  have fresh := emptyCommandResultCache_fresh paths bindingID limit
  obtain ⟨_, pending, statePath⟩ := load_frame success
  refine ⟨load_wellFormed fresh success, ?_, ?_, ?_, statePath⟩
  · cases onDisk with
    | none =>
        cases success
        intro id result found
        rw [fresh.completed, AList.lookup_empty] at found
        cases found
    | some state =>
        obtain ⟨order, completed, entriesLoaded, rfl⟩ :=
          load_some_spec success
        rw [fresh.order, fresh.completed] at entriesLoaded
        obtain ⟨_, _, others, read⟩ :=
          loadEntries_spec List.nodup_nil entriesLoaded
        intro id result found
        have before := trimLoop_lookup found
        by_cases listed :
          id ∈ state.commands.map PersistedCommandEntry.commandID
        · obtain ⟨entry, member, rfl⟩ := List.mem_map.mp listed
          obtain ⟨value, resultEquality, present⟩ := read entry member
          cases before.symm.trans present
          exact ⟨loadEntries_named entriesLoaded entry member,
            loadResult_terminalFor resultEquality⟩
        · rw [others id listed, AList.lookup_empty] at before
          cases before
  · intro id member
    rw [pending, fresh.pending] at member
    simp at member
  · cases onDisk with
    | none =>
        cases success
        rfl
    | some state =>
        obtain ⟨order, completed, _, rfl⟩ := load_some_spec success
        rfl

theorem loadEntries_succeeds :
    ∀ {entries : List PersistedCommandEntry} {order : List String}
      (completed : ResultMap),
      (order ++ entries.map PersistedCommandEntry.commandID).Nodup →
      (∀ entry ∈ entries, entry.commandID ≠ "" ∧
        ∃ result, loadResult entry = .ok result) →
      ∃ loaded, loadEntries entries order completed = .ok loaded
  | [], order, completed, _, _ => ⟨(order, completed), rfl⟩
  | entry :: rest, order, completed, nodup, readable => by
      obtain ⟨named, result, read⟩ := readable entry List.mem_cons_self
      rw [List.map_cons, List.append_cons] at nodup
      have unseen : entry.commandID ∉ order := by
        intro seen
        have front := (List.nodup_append.mp nodup).1
        exact (List.nodup_append.mp front).2.2 _ seen _ (by simp) rfl
      obtain ⟨loaded, success⟩ :=
        loadEntries_succeeds
          (completed.insert entry.commandID result) nodup
          fun other member => readable other (List.mem_cons_of_mem _ member)
      refine ⟨loaded, ?_⟩
      rw [loadEntries, if_neg named, if_neg unseen, read]
      exact success

theorem snapshot_ids (cache : CommandResultCache) (now : String) :
    (cache.snapshot now).commands.map PersistedCommandEntry.commandID =
      cache.order ++ cache.pendingIDs := by
  have terminal :
      (PersistedCommandEntry.commandID ∘ cache.terminalEntry now) = id := rfl
  have accepted :
      (PersistedCommandEntry.commandID ∘ cache.acceptedEntry) = id := rfl
  simp [snapshot, terminal, accepted]

theorem order_append_pendingIDs_nodup (formed : cache.WellFormed) :
    (cache.order ++ cache.pendingIDs).Nodup := by
  refine List.nodup_append.mpr ⟨formed.order_nodup, ?_, ?_⟩
  · have sorted := List.perm_insertionSort (· ≤ ·) cache.pending.keys
    exact sorted.nodup_iff.mpr cache.pending.keys_nodup
  · intro id listed other pending same
    subst same
    exact formed.pending_fresh id (mem_pendingIDs.mp pending)
      ((formed.mem_order id).mp listed)

/-- The result that a restart reads for an id of the state file. -/
def survivor (cache : CommandResultCache) (id : String) :
    CommandResultMessage :=
  (cache.completed.lookup id).getD (unknownOutcome id)

theorem loadResult_snapshot
    (persistable : cache.Persistable paths bindingID) (now : String)
    {entry : PersistedCommandEntry}
    (member : entry ∈ (cache.snapshot now).commands) :
    entry.commandID ≠ "" ∧
      loadResult entry = .ok (cache.survivor entry.commandID) := by
  rcases List.mem_append.mp member with terminal | accepted
  · obtain ⟨id, listed, rfl⟩ := List.mem_map.mp terminal
    rw [persistable.wellFormed.mem_order, ← AList.lookup_isSome,
      Option.isSome_iff_exists] at listed
    obtain ⟨result, found⟩ := listed
    obtain ⟨named, names, type⟩ := persistable.terminal id result found
    refine ⟨named, ?_⟩
    have valid :
        ¬(result.commandID ≠ id ∨
          (result.type ≠ "command.completed" ∧
            result.type ≠ "command.failed")) := by
      rintro (different | ⟨notCompleted, notFailed⟩)
      · exact different names
      · exact type.elim notCompleted notFailed
    simp [loadResult, terminalEntry, survivor, found, valid,
      commandStatusTerminal, commandStatusAccepted]
  · obtain ⟨id, listed, rfl⟩ := List.mem_map.mp accepted
    have pending := mem_pendingIDs.mp listed
    have absent : cache.completed.lookup id = none :=
      AList.lookup_eq_none.mpr
        (persistable.wellFormed.pending_fresh id pending)
    refine ⟨persistable.pending id pending, ?_⟩
    simp [loadResult, acceptedEntry, survivor, absent,
      commandStatusAccepted]

/-- What a restart reads from the state file of a cache. -/
structure ReadsBack
    (cache : CommandResultCache) (limit : Nat)
    (loaded : CommandResultCache) : Prop where
  order : loaded.order = (cache.order ++ cache.pendingIDs).rtake limit
  terminal : ∀ id ∈ loaded.order, id ∈ cache.order →
    loaded.completed.lookup id = cache.completed.lookup id
  unknown : ∀ id ∈ loaded.order, id ∈ cache.pending →
    loaded.completed.lookup id = some (unknownOutcome id)
  others : ∀ id ∉ loaded.order, loaded.completed.lookup id = none
  pending : loaded.pending = ∅

theorem snapshot_reads_back
    (persistable : cache.Persistable paths bindingID)
    (now : String) (limit : Nat) :
    ∃ loaded,
      (emptyCommandResultCache paths bindingID limit).load
          (some (cache.snapshot now)) = .ok loaded ∧
        cache.ReadsBack (max 1 limit) loaded := by
  have ids := snapshot_ids cache now
  have nodup := order_append_pendingIDs_nodup persistable.wellFormed
  obtain ⟨⟨order, completed⟩, entriesLoaded⟩ :=
    @loadEntries_succeeds (cache.snapshot now).commands [] ∅
      (by rwa [List.nil_append, ids])
      fun entry member =>
        ⟨(loadResult_snapshot persistable now member).1, _,
          (loadResult_snapshot persistable now member).2⟩
  obtain ⟨orderShape, orderNodup, others, read⟩ :=
    loadEntries_spec List.nodup_nil entriesLoaded
  rw [List.nil_append, ids] at orderShape
  have success :
      (emptyCommandResultCache paths bindingID limit).load
          (some (cache.snapshot now)) =
        .ok (trimLocked
          { emptyCommandResultCache paths bindingID limit with
            order := order
            completed := completed }) := by
    have binding :
        ¬(cache.snapshot now).bindingID ≠
          (emptyCommandResultCache paths bindingID limit).bindingID :=
      not_not.mpr persistable.bindingID
    have version :
        ¬(cache.snapshot now).version ≠ commandStateVersion :=
      not_not.mpr rfl
    have fresh :
        loadEntries (cache.snapshot now).commands
            (emptyCommandResultCache paths bindingID limit).order
            (emptyCommandResultCache paths bindingID limit).completed =
          .ok (order, completed) :=
      entriesLoaded
    rw [load, if_neg version, if_neg binding, fresh]
  refine ⟨_, success, ?_⟩
  have kept :
      (trimLoop (max 1 limit) order completed).1 =
        (cache.order ++ cache.pendingIDs).rtake (max 1 limit) := by
    rw [trimLoop_order, orderShape]
  have formed :=
    load_wellFormed (emptyCommandResultCache_fresh paths bindingID limit)
      success
  have results : ∀ id ∈ (trimLoop (max 1 limit) order completed).1,
      (trimLoop (max 1 limit) order completed).2.lookup id =
        some (cache.survivor id) := by
    intro id listed
    rw [trimLoop_lookup_kept completed orderNodup listed]
    have member : id ∈ order := by
      obtain ⟨dropped, split, _⟩ :=
        trimLoop_spec (max 1 limit) order completed
      rw [split]
      exact List.mem_append_right dropped listed
    rw [orderShape, ← ids] at member
    obtain ⟨entry, entryMember, rfl⟩ := List.mem_map.mp member
    obtain ⟨result, resultEquality, present⟩ := read entry entryMember
    have expected := (loadResult_snapshot persistable now entryMember).2
    cases resultEquality.symm.trans expected
    exact present
  refine ⟨kept, ?_, ?_, ?_, rfl⟩
  · intro id listed known
    rw [persistable.wellFormed.mem_order, ← AList.lookup_isSome,
      Option.isSome_iff_exists] at known
    obtain ⟨result, found⟩ := known
    rw [found]
    refine (results id listed).trans ?_
    rw [survivor, found, Option.getD_some]
  · intro id listed waiting
    have absent : cache.completed.lookup id = none :=
      AList.lookup_eq_none.mpr
        (persistable.wellFormed.pending_fresh id waiting)
    refine (results id listed).trans ?_
    rw [survivor, absent, Option.getD_none]
  · intro id absent
    rw [formed.mem_order] at absent
    exact AList.lookup_eq_none.mpr absent

end Operations

theorem saveJournalCursor_frame
    (cache : CommandResultCache) (onDisk : Option PersistedCursorState)
    (cursor : String) (outcome : WriteOutcome) :
    ∃ moved,
      (cache.saveJournalCursor onDisk cursor outcome).1 =
        { cache with cursor := moved } := by
  unfold saveJournalCursor
  split
  · exact ⟨cache.cursor, rfl⟩
  split
  · exact ⟨cache.cursor, rfl⟩
  split
  · exact ⟨cache.cursor, rfl⟩
  cases written :
    ({ cache with cursor := cursor } : CommandResultCache).persistCursorLocked
      outcome onDisk with
  | mk disk cause =>
      cases cause with
      | none => exact ⟨cursor, by simp only [written]⟩
      | some cause => exact ⟨cache.cursor, by simp only [written]⟩

end CommandResultCache

/-- The cache is persistable, and the state file is the one found at first or
one that a persistable cache wrote. -/
structure CacheWorld.Sound
    (paths : StatePaths) (bindingID : String)
    (initial : Option PersistedCommandState) (world : CacheWorld) : Prop where
  cache : ∀ cache, world.cache = some cache →
    cache.Persistable paths bindingID
  disk : world.files.commands = initial ∨
    ∃ cache now, CommandResultCache.Persistable cache paths bindingID ∧
      world.files.commands = some (cache.snapshot now)

section Runs

open CommandResultCache

variable {paths : StatePaths} {bindingID : String}
variable {initial : Option PersistedCommandState}

theorem persistLocked_sound
    {cache : CommandResultCache} {onDisk : Option PersistedCommandState}
    (persistable : cache.Persistable paths bindingID)
    (before : onDisk = initial ∨
      ∃ cache now, CommandResultCache.Persistable cache paths bindingID ∧
        onDisk = some (cache.snapshot now))
    (now : String) (outcome : WriteOutcome) :
    (cache.persistLocked now outcome onDisk).1 = initial ∨
      ∃ cache' now', CommandResultCache.Persistable cache' paths bindingID ∧
        (cache.persistLocked now outcome onDisk).1 =
          some (cache'.snapshot now') := by
  have durable : cache.statePath ≠ "" := by
    rw [persistable.statePath]
    exact paths.stateFilePath_ne_empty
  rw [persistLocked_disk durable]
  split
  · exact .inr ⟨cache, now, persistable, rfl⟩
  · exact before

theorem cacheStep_sound
    {world next : CacheWorld} {event : CacheEvent}
    {answers : List BeginResult}
    (sound : world.Sound paths bindingID initial)
    (stepped : cacheStep paths bindingID world event = some (next, answers)) :
    next.Sound paths bindingID initial := by
  cases event with
  | reopen limit now commandsOutcome cursorOutcome =>
      simp only [cacheStep, Option.some.injEq, Prod.mk.injEq] at stepped
      obtain ⟨rfl, -⟩ := stepped
      rcases openCommandResultCache_cases paths bindingID limit world.files
          now commandsOutcome cursorOutcome with
        ⟨_, _, refused⟩ | ⟨_, _, _, _, refused⟩ |
          ⟨loaded, cursor, opened, files, loading, _, result, written,
            answered⟩
      · rw [refused]
        exact ⟨nofun, sound.disk⟩
      · rw [refused]
        exact ⟨nofun, sound.disk⟩
      · have persistable :
            ({ loaded with cursor := cursor } :
              CommandResultCache).Persistable paths bindingID :=
          { load_persistable loading with
            wellFormed :=
              { (load_persistable loading).wellFormed with } }
        rw [result]
        refine ⟨?_, ?_⟩
        · intro cache equality
          rcases answered with rfl | rfl
          · cases equality
          · cases equality
            exact persistable
        · rw [written]
          exact persistLocked_sound persistable sound.disk now
            commandsOutcome
  | begin commandID channel now outcome =>
      cases running : world.cache with
      | none => simp [cacheStep, running] at stepped
      | some cache =>
          simp only [cacheStep, running, Option.some.injEq,
            Prod.mk.injEq] at stepped
          obtain ⟨rfl, -⟩ := stepped
          have persistable := sound.cache cache running
          rcases begin_cases cache world.files.commands commandID channel
              now outcome with
            ⟨_, _, answered⟩ | ⟨_, _, _, answered⟩ |
              ⟨absent, _, ⟨_, answered⟩ | ⟨_, answered⟩⟩
          · rw [answered]
            exact ⟨fun _ equality => Option.some.inj equality ▸ persistable,
              sound.disk⟩
          · rw [answered]
            exact ⟨fun _ equality => Option.some.inj equality ▸ persistable,
              sound.disk⟩
          · rw [answered]
            have accepted :=
              accept_persistable persistable commandID.property absent
                ⟨channel, now⟩
            refine ⟨?_, persistLocked_sound accepted sound.disk now outcome⟩
            intro candidate equality
            cases Option.some.inj equality
            exact withdraw_persistable persistable commandID ⟨channel, now⟩
          · rw [answered]
            have accepted :=
              accept_persistable persistable commandID.property absent
                ⟨channel, now⟩
            exact ⟨fun _ equality => Option.some.inj equality ▸ accepted,
              persistLocked_sound accepted sound.disk now outcome⟩
  | complete commandID result terminal now outcome =>
      cases running : world.cache with
      | none => simp [cacheStep, running] at stepped
      | some cache =>
          simp only [cacheStep, running, Option.some.injEq,
            Prod.mk.injEq] at stepped
          obtain ⟨rfl, -⟩ := stepped
          have recorded :=
            record_persistable (sound.cache cache running)
              commandID.property terminal
          have onDisk :=
            persistLocked_sound recorded sound.disk now outcome
          rcases written :
            (cache.record commandID result).persistLocked now outcome
              world.files.commands with ⟨disk, cause⟩
          rw [written] at onDisk
          cases cause <;>
            simp only [CommandResultCache.complete, written] <;>
            exact ⟨fun _ equality => Option.some.inj equality ▸ recorded,
              onDisk⟩
  | saveJournalCursor cursor outcome =>
      cases running : world.cache with
      | none => simp [cacheStep, running] at stepped
      | some cache =>
          simp only [cacheStep, running, Option.some.injEq,
            Prod.mk.injEq] at stepped
          obtain ⟨rfl, -⟩ := stepped
          obtain ⟨moved, equality⟩ :=
            saveJournalCursor_frame cache world.files.cursor cursor outcome
          rw [equality]
          have persistable := sound.cache cache running
          refine ⟨?_, sound.disk⟩
          intro candidate same
          cases Option.some.inj same
          exact
            { persistable with
              wellFormed := { persistable.wellFormed with } }

/-- In every state that calls, failed writes and restarts lead to, the cache
keeps its invariant, the file it writes reads back as its terminal results
followed by its pending ids as unknown outcomes, and the file on disk is one
that a start accepts, unless it is still the one found at first. -/
theorem result_cache_reads_back
    (paths : StatePaths) (bindingID : String) (initial : StateFiles)
    (events : List CacheEvent) (world : CacheWorld)
    (answers : List BeginResult)
    (run : execute (cacheStep paths bindingID) ⟨initial, none⟩ events =
      some (world, answers)) :
    (∀ cache, world.cache = some cache →
      cache.WellFormed ∧
        ∀ now onDisk limit, ∃ loaded,
          (emptyCommandResultCache paths bindingID limit).load
              (cache.persistLocked now .written onDisk).1 = .ok loaded ∧
            cache.ReadsBack (max 1 limit) loaded) ∧
      (world.files.commands = initial.commands ∨
        ∀ limit, ∃ loaded,
          (emptyCommandResultCache paths bindingID limit).load
            world.files.commands = .ok loaded) := by
  have sound : world.Sound paths bindingID initial.commands :=
    execute_induction
      (motive := fun world _ => world.Sound paths bindingID initial.commands)
      (fun _ _ _ _ _ holds stepped => cacheStep_sound holds stepped)
      ⟨nofun, .inl rfl⟩ run
  constructor
  · intro cache running
    have persistable := sound.cache cache running
    refine ⟨persistable.wellFormed, ?_⟩
    intro now onDisk limit
    have durable : cache.statePath ≠ "" := by
      rw [persistable.statePath]
      exact paths.stateFilePath_ne_empty
    have reached : WriteOutcome.written.reachesDisk = true := rfl
    rw [persistLocked_disk durable, if_pos reached]
    exact snapshot_reads_back persistable now limit
  · rcases sound.disk with untouched | ⟨cache, now, persistable, written⟩
    · exact .inl untouched
    · refine .inr fun limit => ?_
      obtain ⟨loaded, success, _⟩ :=
        snapshot_reads_back persistable now limit
      exact ⟨loaded, written ▸ success⟩

end Runs

/-- An id completed without having been accepted, an acceptance whose write
failed after the rename, a repeated completion, and a command still pending. -/
def oddEvents : List CacheEvent :=
  [.reopen 2 "10:00" .written .written,
    .complete ⟨"c9", by decide⟩ (unknownOutcome "c9")
      (unknownOutcome_terminalFor "c9") "10:01" .written,
    .begin ⟨"c1", by decide⟩ 0 "10:02" .written,
    .begin ⟨"c2", by decide⟩ 1 "10:03" (.failed true "EIO"),
    .begin ⟨"c3", by decide⟩ 2 "10:04" .written,
    .complete ⟨"c1", by decide⟩ ⟨"command.completed", "c1", "done", ""⟩
      ⟨rfl, .inl rfl⟩ "10:05" (.failed false "ENOSPC"),
    .complete ⟨"c1", by decide⟩ ⟨"command.completed", "c1", "done", ""⟩
      ⟨rfl, .inl rfl⟩ "10:06" .written]

theorem result_cache_reads_back_odd_order :
    ∃ world cache answers,
      execute (cacheStep ⟨"/var/lib/agent", "5f"⟩ "survival")
          ⟨⟨none, none⟩, none⟩ oddEvents = some (world, answers) ∧
        world.cache = some cache ∧
          cache.order = ["c9", "c1"] ∧ cache.pendingIDs = ["c3"] ∧
            cache.WellFormed ∧
              ∀ now onDisk, ∃ loaded,
                (emptyCommandResultCache ⟨"/var/lib/agent", "5f"⟩ "survival"
                    2).load (cache.persistLocked now .written onDisk).1 =
                  .ok loaded ∧
                  loaded.order = ["c1", "c3"] ∧ cache.ReadsBack 2 loaded := by
  have reached :
      ((execute (cacheStep ⟨"/var/lib/agent", "5f"⟩ "survival")
        ⟨⟨none, none⟩, none⟩ oddEvents).bind fun result =>
          result.1.cache).map (fun cache => (cache.order, cache.pendingIDs)) =
        some (["c9", "c1"], ["c3"]) := by
    decide +kernel
  obtain ⟨cache, opened, parts⟩ := Option.map_eq_some_iff.mp reached
  obtain ⟨⟨world, answers⟩, run, running⟩ := Option.bind_eq_some_iff.mp opened
  obtain ⟨order, pendingIDs⟩ := Prod.mk.inj parts
  obtain ⟨kept, _⟩ :=
    result_cache_reads_back ⟨"/var/lib/agent", "5f"⟩ "survival" ⟨none, none⟩
      oddEvents world answers run
  obtain ⟨formed, reads⟩ := kept cache running
  refine ⟨world, cache, answers, run, running, order, pendingIDs, formed, ?_⟩
  intro now onDisk
  obtain ⟨loaded, success, back⟩ := reads now onDisk 2
  refine ⟨loaded, success, ?_, back⟩
  rw [back.order, order, pendingIDs]
  rfl

end GravitPanel.Agent
