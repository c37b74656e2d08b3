import GravitPanel.Agent.Idempotency

/-!
# What the result cache keeps

The invariant of `commandResultCache` and one specification lemma for each of
its operations: what trimming drops, what `record` and `load` leave in
`completed` and `order`, and what a state write puts on disk.
-/

namespace GravitPanel.Agent

namespace CommandResultCache

/-- The completed results are exactly the ids of `order`, no id is both
pending and completed, and `order` respects the limit. -/
structure WellFormed (cache : CommandResultCache) : Prop where
  order_nodup : cache.order.Nodup
  mem_order : ∀ id, id ∈ cache.order ↔ id ∈ cache.completed
  pending_fresh : ∀ id, id ∈ cache.pending → id ∉ cache.completed
  order_length : cache.order.length ≤ cache.limit
  limit_pos : 0 < cache.limit

theorem trimLoop_spec (limit : Nat) :
    ∀ (order : List String) (completed : ResultMap),
      ∃ dropped,
        order = dropped ++ (trimLoop limit order completed).1 ∧
        (∀ id, (trimLoop limit order completed).2.lookup id =
          if id ∈ dropped then none else completed.lookup id) ∧
        (trimLoop limit order completed).1.length ≤ limit ∧
        (dropped = [] ∨
          (trimLoop limit order completed).1.length = limit)
  | [], completed => ⟨[], rfl, by simp [trimLoop], by simp [trimLoop], .inl rfl⟩
  | oldest :: rest, completed => by
      by_cases exceeds : limit < (oldest :: rest).length
      · obtain ⟨dropped, split, lookups, bound, full⟩ :=
          trimLoop_spec limit rest (completed.erase oldest)
        rw [trimLoop, if_pos exceeds]
        refine ⟨oldest :: dropped, ?_, ?_, bound, .inr ?_⟩
        · rw [List.cons_append, ← split]
        · intro id
          rw [lookups id]
          by_cases same : id = oldest
          · subst same
            simp
          · simp [same, AList.lookup_erase_ne same]
        · rcases full with nothing | full
          · subst nothing
            rw [List.nil_append] at split
            rw [← split] at bound ⊢
            simp only [List.length_cons] at exceeds
            omega
          · exact full
      · rw [trimLoop, if_neg exceeds]
        exact ⟨[], rfl, by simp, Nat.not_lt.mp exceeds, .inl rfl⟩

theorem trimLoop_retains
    {limit : Nat} (before after : List String) (id : String)
    (completed : ResultMap) (few : after.length < limit) :
    ∃ kept,
      (trimLoop limit (before ++ id :: after) completed).1 =
        kept ++ id :: after := by
  obtain ⟨dropped, split, _, _, full⟩ :=
    trimLoop_spec limit (before ++ id :: after) completed
  rcases full with nothing | full
  · subst nothing
    exact ⟨before, by simpa using split.symm⟩
  · rcases List.append_eq_append_iff.mp split with
      ⟨middle, droppedShape, afterShape⟩ | ⟨middle, beforeShape, keptShape⟩
    · cases middle with
      | nil => exact ⟨[], by simpa using afterShape.symm⟩
      | cons head tail =>
          simp only [List.cons_append, List.cons.injEq] at afterShape
          have lengths := congrArg List.length afterShape.2
          rw [List.length_append, full] at lengths
          omega
    · exact ⟨middle, keptShape⟩

theorem mem_of_lookup_eq_some
    {map : ResultMap} {id : String} {result : CommandResultMessage}
    (found : map.lookup id = some result) : id ∈ map :=
  AList.lookup_isSome.mp (by simp [found])

theorem trimLocked_wellFormed
    {cache : CommandResultCache}
    (nodup : cache.order.Nodup)
    (same : ∀ id, id ∈ cache.order ↔ id ∈ cache.completed)
    (fresh : ∀ id, id ∈ cache.pending → id ∉ cache.completed)
    (positive : 0 < cache.limit) :
    cache.trimLocked.WellFormed := by
  obtain ⟨dropped, split, lookups, bound, _⟩ :=
    trimLoop_spec cache.limit cache.order cache.completed
  have parts := nodup
  rw [split] at parts
  obtain ⟨_, keptNodup, apart⟩ := List.nodup_append.mp parts
  have mem_kept : ∀ id,
      id ∈ cache.trimLocked.completed ↔
        id ∉ dropped ∧ id ∈ cache.completed := by
    intro id
    rw [← AList.lookup_isSome, ← AList.lookup_isSome]
    change ((trimLoop cache.limit cache.order
      cache.completed).2.lookup id).isSome ↔ _
    rw [lookups id]
    by_cases gone : id ∈ dropped <;> simp [gone]
  refine ⟨keptNodup, ?_, ?_, bound, positive⟩
  · intro id
    rw [mem_kept id, ← same id]
    change id ∈ (trimLoop cache.limit cache.order cache.completed).1 ↔ _
    constructor
    · intro member
      refine ⟨fun gone => apart id gone id member rfl, ?_⟩
      rw [split]
      exact List.mem_append_right dropped member
    · rintro ⟨stays, member⟩
      rw [split] at member
      exact (List.mem_append.mp member).resolve_left stays
  · intro id member completed
    exact fresh id member ((mem_kept id).mp completed).2

theorem begin_cases
    (cache : CommandResultCache) (onDisk : Option PersistedCommandState)
    (commandID : String) (channel : Nat) (now : String)
    (outcome : WriteOutcome) :
    (∃ result,
      cache.completed.lookup commandID = some result ∧
        cache.begin onDisk commandID channel now outcome =
          (cache, onDisk, .cached result)) ∨
    (∃ entry,
      cache.completed.lookup commandID = none ∧
        cache.pending.lookup commandID = some entry ∧
          cache.begin onDisk commandID channel now outcome =
            (cache, onDisk, .waiting entry)) ∨
    (cache.completed.lookup commandID = none ∧
      cache.pending.lookup commandID = none ∧
      ((∃ message,
        cache.begin onDisk commandID channel now outcome =
          (cache.withdraw commandID ⟨channel, now⟩,
            ((cache.accept commandID ⟨channel, now⟩).persistLocked
              now outcome onDisk).1, .error message)) ∨
      (((cache.accept commandID ⟨channel, now⟩).persistLocked
          now outcome onDisk).2 = none ∧
        cache.begin onDisk commandID channel now outcome =
          (cache.accept commandID ⟨channel, now⟩,
            ((cache.accept commandID ⟨channel, now⟩).persistLocked
              now outcome onDisk).1, .owner ⟨channel, now⟩)))) := by
  unfold CommandResultCache.begin
  cases completed : cache.completed.lookup commandID with
  | some result => exact .inl ⟨result, rfl, rfl⟩
  | none =>
      cases pending : cache.pending.lookup commandID with
      | some entry => exact .inr (.inl ⟨entry, rfl, rfl, rfl⟩)
      | none =>
          refine .inr (.inr ⟨rfl, rfl, ?_⟩)
          rcases written :
              (cache.accept commandID ⟨channel, now⟩).persistLocked
                now outcome onDisk with ⟨disk, cause⟩
          cases cause with
          | some cause =>
              exact .inl ⟨"persist accepted command: " ++ cause, by
                simp only [written]⟩
          | none => exact .inr ⟨rfl, by simp only [written]⟩

theorem accept_wellFormed
    {cache : CommandResultCache} {commandID : String}
    (formed : cache.WellFormed)
    (absent : cache.completed.lookup commandID = none)
    (entry : PendingCommandResult) :
    (cache.accept commandID entry).WellFormed :=
  { formed with
    pending_fresh := by
      intro id member
      change id ∈ cache.pending.insert commandID entry at member
      rw [AList.mem_insert] at member
      rcases member with rfl | member
      · exact AList.lookup_eq_none.mp absent
      · exact formed.pending_fresh id member }

theorem withdraw_wellFormed
    {cache : CommandResultCache} {commandID : String}
    (formed : cache.WellFormed) (entry : PendingCommandResult) :
    (cache.withdraw commandID entry).WellFormed :=
  { formed with
    pending_fresh := by
      intro id member
      change id ∈ (cache.pending.insert commandID entry).erase commandID
        at member
      rw [AList.mem_erase, AList.mem_insert] at member
      exact formed.pending_fresh id (member.2.resolve_left member.1) }

section Record

variable {cache : CommandResultCache} {commandID : String}
variable {result : CommandResultMessage}

/-- `order` after `complete` and before trimming. -/
def extendedOrder (cache : CommandResultCache) (commandID : String) :
    List String :=
  if (cache.completed.lookup commandID).isSome then
    cache.order
  else
    cache.order ++ [commandID]

theorem extendedOrder_nodup (formed : cache.WellFormed) :
    (cache.extendedOrder commandID).Nodup := by
  unfold extendedOrder
  split
  · exact formed.order_nodup
  · rename_i absent
    rw [AList.lookup_isSome, ← formed.mem_order] at absent
    simpa using formed.order_nodup.concat absent

theorem record_completed :
    (cache.record commandID result).completed =
      (trimLoop cache.limit (cache.extendedOrder commandID)
        (cache.completed.insert commandID result)).2 := rfl

@[simp]
theorem record_pending :
    (cache.record commandID result).pending =
      cache.pending.erase commandID := rfl

@[simp]
theorem record_statePath :
    (cache.record commandID result).statePath = cache.statePath := rfl

theorem record_wellFormed (formed : cache.WellFormed) :
    (cache.record commandID result).WellFormed := by
  refine trimLocked_wellFormed (extendedOrder_nodup formed) ?_ ?_
    formed.limit_pos
  · intro id
    change id ∈ cache.extendedOrder commandID ↔ _
    rw [AList.mem_insert, ← formed.mem_order id]
    unfold extendedOrder
    split
    · rename_i present
      rw [AList.lookup_isSome, ← formed.mem_order] at present
      constructor
      · exact Or.inr
      · rintro (rfl | member)
        · exact present
        · exact member
    · simp [or_comm]
  · intro id member completed
    rw [AList.mem_erase] at member
    rw [AList.mem_insert] at completed
    rcases completed with equal | completed
    · exact member.1 equal
    · exact formed.pending_fresh id member.2 completed

theorem mem_record_completed {id : String}
    (member : id ∈ (cache.record commandID result).completed) :
    id = commandID ∨ id ∈ cache.completed := by
  obtain ⟨dropped, _, lookups, _, _⟩ :=
    trimLoop_spec cache.limit (cache.extendedOrder commandID)
      (cache.completed.insert commandID result)
  rw [← AList.lookup_isSome, record_completed, lookups id] at member
  split at member
  · simp at member
  · rwa [AList.lookup_isSome, AList.mem_insert] at member

theorem record_retains
    {id : String} {before after : List String}
    (formed : cache.WellFormed)
    (place : cache.extendedOrder commandID = before ++ id :: after)
    (few : after.length < cache.limit) :
    (∃ kept, (cache.record commandID result).order = kept ++ id :: after) ∧
      (cache.record commandID result).completed.lookup id =
        (cache.completed.insert commandID result).lookup id := by
  obtain ⟨kept, keptShape⟩ :=
    trimLoop_retains before after id
      (cache.completed.insert commandID result) few
  rw [← place] at keptShape
  refine ⟨⟨kept, keptShape⟩, ?_⟩
  obtain ⟨dropped, split, lookups, _, _⟩ :=
    trimLoop_spec cache.limit (cache.extendedOrder commandID)
      (cache.completed.insert commandID result)
  rw [record_completed, lookups id, if_neg]
  intro gone
  have nodup := @extendedOrder_nodup cache commandID formed
  rw [split, keptShape] at nodup
  exact (List.nodup_append.mp nodup).2.2 id gone id (by simp) rfl

end Record

theorem loadEntries_spec :
    ∀ {entries : List PersistedCommandEntry} {order order' : List String}
      {completed completed' : ResultMap},
      order.Nodup →
      loadEntries entries order completed = .ok (order', completed') →
      order' = order ++ entries.map PersistedCommandEntry.commandID ∧
        order'.Nodup ∧
        (∀ id, id ∉ entries.map PersistedCommandEntry.commandID →
          completed'.lookup id = completed.lookup id) ∧
        ∀ entry ∈ entries, ∃ result,
          loadResult entry = .ok result ∧
            completed'.lookup entry.commandID = some result
  | [], order, order', completed, completed', nodup, loaded => by
      simp only [loadEntries, Except.ok.injEq, Prod.mk.injEq] at loaded
      obtain ⟨rfl, rfl⟩ := loaded
      exact ⟨by simp, nodup, fun _ _ => rfl, by simp⟩
  | entry :: rest, order, order', completed, completed', nodup, loaded => by
      rw [loadEntries] at loaded
      split at loaded
      · cases loaded
      split at loaded
      · cases loaded
      rename_i unseen
      split at loaded
      · cases loaded
      rename_i result resultEquality
      have extendedNodup : (order ++ [entry.commandID]).Nodup := by
        simpa using nodup.concat unseen
      obtain ⟨orderShape, finalNodup, others, found⟩ :=
        loadEntries_spec extendedNodup loaded
      have notLater :
          entry.commandID ∉ rest.map PersistedCommandEntry.commandID := by
        rw [orderShape, List.append_assoc] at finalNodup
        have tailNodup := (List.nodup_append.mp finalNodup).2.1
        exact (List.nodup_cons.mp tailNodup).1
      refine ⟨by simp [orderShape], finalNodup, ?_, ?_⟩
      · intro id absent
        simp only [List.map_cons, List.mem_cons, not_or] at absent
        rw [others id absent.2, AList.lookup_insert_ne absent.1]
      · intro candidate member
        rcases List.mem_cons.mp member with rfl | later
        · refine ⟨result, resultEquality, ?_⟩
          rw [others _ notLater, AList.lookup_insert]
        · exact found candidate later

/-- A cache before its files are read. -/
structure Fresh (cache : CommandResultCache) : Prop where
  order : cache.order = []
  completed : cache.completed = ∅
  pending : cache.pending = ∅
  limit_pos : 0 < cache.limit

theorem load_some_spec
    {cache loaded : CommandResultCache} {state : PersistedCommandState}
    (success : cache.load (some state) = .ok loaded) :
    ∃ order completed,
      loadEntries state.commands cache.order cache.completed =
          .ok (order, completed) ∧
        loaded = trimLocked
          { cache with order := order, completed := completed } := by
  simp only [load] at success
  split at success
  · cases success
  split at success
  · cases success
  split at success
  · cases success
  rename_i order completed entriesLoaded
  exact ⟨order, completed, entriesLoaded, (Except.ok.inj success).symm⟩

variable {onDisk : Option PersistedCommandState}

theorem load_frame
    {cache loaded : CommandResultCache}
    (success : cache.load onDisk = .ok loaded) :
    loaded.limit = cache.limit ∧ loaded.pending = cache.pending ∧
      loaded.statePath = cache.statePath := by
  cases onDisk with
  | none =>
      cases success
      exact ⟨rfl, rfl, rfl⟩
  | some state =>
      obtain ⟨order, completed, _, rfl⟩ := load_some_spec success
      exact ⟨rfl, rfl, rfl⟩

theorem load_wellFormed
    {cache loaded : CommandResultCache}
    (fresh : cache.Fresh) (success : cache.load onDisk = .ok loaded) :
    loaded.WellFormed := by
  cases onDisk with
  | none =>
      cases success
      exact
        { order_nodup := by simp [fresh.order]
          mem_order := by simp [fresh.order, fresh.completed]
          pending_fresh := by simp [fresh.pending]
          order_length := by simp [fresh.order]
          limit_pos := fresh.limit_pos }
  | some state =>
      obtain ⟨order, completed, entriesLoaded, rfl⟩ :=
        load_some_spec success
      rw [fresh.order, fresh.completed] at entriesLoaded
      obtain ⟨orderShape, nodup, others, found⟩ :=
        loadEntries_spec List.nodup_nil entriesLoaded
      rw [List.nil_append] at orderShape
      subst orderShape
      refine trimLocked_wellFormed nodup ?_ ?_ fresh.limit_pos
      · intro id
        constructor
        · intro member
          obtain ⟨entry, entryMember, rfl⟩ := List.mem_map.mp member
          obtain ⟨result, _, present⟩ := found entry entryMember
          exact mem_of_lookup_eq_some present
        · intro present
          by_contra absent
          rw [← AList.lookup_isSome, others id absent] at present
          simp at present
      · intro id member
        simp [fresh.pending] at member

theorem load_retains
    {cache loaded : CommandResultCache} {state : PersistedCommandState}
    {before after : List PersistedCommandEntry}
    {entry : PersistedCommandEntry}
    (fresh : cache.Fresh) (success : cache.load (some state) = .ok loaded)
    (place : state.commands = before ++ entry :: after)
    (few : after.length < cache.limit) :
    ∃ result kept,
      loadResult entry = .ok result ∧
        loaded.completed.lookup entry.commandID = some result ∧
          loaded.order = kept ++ entry.commandID ::
            after.map PersistedCommandEntry.commandID := by
  obtain ⟨order, completed, entriesLoaded, rfl⟩ := load_some_spec success
  rw [fresh.order, fresh.completed] at entriesLoaded
  obtain ⟨orderShape, nodup, _, found⟩ :=
    loadEntries_spec List.nodup_nil entriesLoaded
  obtain ⟨result, resultEquality, present⟩ :=
    found entry (by rw [place]; simp)
  rw [List.nil_append, place, List.map_append, List.map_cons] at orderShape
  subst orderShape
  obtain ⟨kept, keptShape⟩ :=
    trimLoop_retains
      (before.map PersistedCommandEntry.commandID)
      (after.map PersistedCommandEntry.commandID)
      entry.commandID completed (by simpa using few)
  refine ⟨result, kept, resultEquality, ?_, keptShape⟩
  obtain ⟨dropped, split, lookups, _, _⟩ :=
    trimLoop_spec cache.limit
      (before.map PersistedCommandEntry.commandID ++ entry.commandID ::
        after.map PersistedCommandEntry.commandID) completed
  change (trimLoop cache.limit _ completed).2.lookup entry.commandID = _
  rw [lookups, if_neg, present]
  intro gone
  rw [split, keptShape] at nodup
  exact (List.nodup_append.mp nodup).2.2 _ gone _ (by simp) rfl

theorem persistLocked_disk
    {cache : CommandResultCache} (durable : cache.statePath ≠ "")
    (now : String) (outcome : WriteOutcome)
    (onDisk : Option PersistedCommandState) :
    (cache.persistLocked now outcome onDisk).1 =
      if outcome.reachesDisk then some (cache.snapshot now) else onDisk := by
  rw [persistLocked, if_neg durable]
  cases outcome with
  | written => rfl
  | failed renamed cause => cases renamed <;> rfl

theorem persistLocked_error
    {cache : CommandResultCache} (durable : cache.statePath ≠ "")
    (now : String) (outcome : WriteOutcome)
    (onDisk : Option PersistedCommandState) :
    (cache.persistLocked now outcome onDisk).2 = none ↔
      outcome = .written := by
  rw [persistLocked, if_neg durable]
  cases outcome with
  | written => simp [atomicWriteState]
  | failed renamed cause => cases renamed <;> simp [atomicWriteState]

theorem mem_pendingIDs
    {cache : CommandResultCache} {id : String} :
    id ∈ cache.pendingIDs ↔ id ∈ cache.pending := by
  rw [pendingIDs, List.mem_insertionSort, AList.mem_keys]

theorem emptyCommandResultCache_fresh
    (paths : StatePaths) (bindingID : String) (limit : Nat) :
    (emptyCommandResultCache paths bindingID limit).Fresh where
  order := rfl
  completed := rfl
  pending := rfl
  limit_pos := by
    simp [emptyCommandResultCache, makeCommandResultCache]

theorem loadCursor_frame
    {cache opened : CommandResultCache}
    {onDisk : Option PersistedCursorState}
    (success : cache.loadCursor onDisk = .ok opened) :
    ∃ cursor, opened = { cache with cursor := cursor } := by
  cases onDisk with
  | none =>
      cases success
      exact ⟨cache.cursor, rfl⟩
  | some state =>
      simp only [loadCursor] at success
      split at success
      · cases success
      split at success
      · cases success
      split at success
      · cases success
      exact ⟨state.cursor, (Except.ok.inj success).symm⟩

/-- A cache is opened on what `load` read; the command file is written back
only when both files could be read. -/
theorem openCommandResultCache_cases
    (paths : StatePaths) (bindingID : String) (limit : Nat)
    (onDisk : StateFiles) (now : String)
    (commandsOutcome cursorOutcome : WriteOutcome) :
    (∃ problem,
      (emptyCommandResultCache paths bindingID limit).load onDisk.commands =
          .error problem ∧
        openCommandResultCache paths bindingID limit onDisk now
          commandsOutcome cursorOutcome = (none, onDisk)) ∨
    (∃ loaded problem,
      (emptyCommandResultCache paths bindingID limit).load onDisk.commands =
          .ok loaded ∧
        loaded.loadCursor onDisk.cursor = .error problem ∧
          openCommandResultCache paths bindingID limit onDisk now
            commandsOutcome cursorOutcome = (none, onDisk)) ∨
    (∃ loaded cursor opened files,
      (emptyCommandResultCache paths bindingID limit).load onDisk.commands =
          .ok loaded ∧
        loaded.loadCursor onDisk.cursor =
          .ok { loaded with cursor := cursor } ∧
        openCommandResultCache paths bindingID limit onDisk now
          commandsOutcome cursorOutcome = (opened, files) ∧
        files.commands =
          (({ loaded with cursor := cursor } :
            CommandResultCache).persistLocked now commandsOutcome
              onDisk.commands).1 ∧
        (opened = none ∨ opened = some { loaded with cursor := cursor })) := by
  simp only [openCommandResultCache]
  cases loading :
    (emptyCommandResultCache paths bindingID limit).load onDisk.commands with
  | error problem => exact .inl ⟨problem, rfl, rfl⟩
  | ok loaded =>
      cases cursorLoading : loaded.loadCursor onDisk.cursor with
      | error problem =>
          exact .inr (.inl ⟨loaded, problem, rfl, cursorLoading, by
            simp only [cursorLoading]⟩)
      | ok opened =>
          obtain ⟨cursor, rfl⟩ := loadCursor_frame cursorLoading
          refine .inr (.inr ⟨loaded, cursor, ?_⟩)
          simp only [cursorLoading]
          rcases written :
            ({ loaded with cursor := cursor } :
              CommandResultCache).persistLocked now commandsOutcome
                onDisk.commands with ⟨commands, cause⟩
          cases cause with
          | some cause =>
              exact ⟨none, _, trivial, trivial, rfl, rfl, .inl rfl⟩
          | none =>
              rcases cursorWritten :
                ({ loaded with cursor := cursor } :
                  CommandResultCache).persistCursorLocked cursorOutcome
                    onDisk.cursor with ⟨cursorDisk, cursorCause⟩
              cases cursorCause with
              | some cause =>
                  exact ⟨none, _, trivial, trivial, rfl, rfl, .inl rfl⟩
              | none => exact ⟨_, _, trivial, trivial, rfl, rfl, .inr rfl⟩

def cursorOf (onDisk : Option PersistedCursorState) : String :=
  (onDisk.map PersistedCursorState.cursor).getD ""

theorem persistCursorLocked_cursor
    (cache : CommandResultCache) (outcome : WriteOutcome)
    (onDisk : Option PersistedCursorState) :
    cursorOf (cache.persistCursorLocked outcome onDisk).1 =
        cursorOf onDisk ∨
      cursorOf (cache.persistCursorLocked outcome onDisk).1 =
        cache.cursor := by
  unfold persistCursorLocked
  split
  · exact .inl rfl
  · cases outcome with
    | written => exact .inr rfl
    | failed renamed cause =>
        cases renamed with
        | true => exact .inr rfl
        | false => exact .inl rfl

theorem saveJournalCursor_cursor
    (cache : CommandResultCache) (onDisk : Option PersistedCursorState)
    (cursor : String) (outcome : WriteOutcome) :
    ((cache.saveJournalCursor onDisk cursor outcome).1.cursor =
        cache.cursor ∨
      (cache.saveJournalCursor onDisk cursor outcome).1.cursor = cursor) ∧
      (cursorOf (cache.saveJournalCursor onDisk cursor outcome).2.1 =
          cursorOf onDisk ∨
        cursorOf (cache.saveJournalCursor onDisk cursor outcome).2.1 =
          cursor) := by
  unfold saveJournalCursor
  split
  · exact ⟨.inl rfl, .inl rfl⟩
  split
  · exact ⟨.inl rfl, .inl rfl⟩
  split
  · exact ⟨.inl rfl, .inl rfl⟩
  have written := persistCursorLocked_cursor
    { cache with cursor := cursor } outcome onDisk
  rcases result : persistCursorLocked { cache with cursor := cursor } outcome
      onDisk with ⟨disk, cause⟩
  rw [result] at written
  cases cause with
  | some cause =>
      simp only [result]
      exact ⟨.inl trivial, written⟩
  | none =>
      simp only [result]
      exact ⟨.inr trivial, written⟩

theorem load_cursor
    {cache loaded : CommandResultCache}
    (success : cache.load onDisk = .ok loaded) :
    loaded.cursor = cache.cursor := by
  cases onDisk with
  | none =>
      cases success
      rfl
  | some state =>
      obtain ⟨order, completed, _, rfl⟩ := load_some_spec success
      rfl

theorem loadCursor_cursor
    {cache opened : CommandResultCache}
    {onDisk : Option PersistedCursorState}
    (fresh : cache.cursor = "")
    (success : cache.loadCursor onDisk = .ok opened) :
    opened.cursor = cursorOf onDisk := by
  cases onDisk with
  | none =>
      cases success
      exact fresh
  | some state =>
      simp only [loadCursor] at success
      split at success
      · cases success
      split at success
      · cases success
      split at success
      · cases success
      cases success
      rfl

theorem openCommandResultCache_cursor
    (paths : StatePaths) (bindingID : String) (limit : Nat)
    (onDisk : StateFiles) (now : String)
    (commandsOutcome cursorOutcome : WriteOutcome) :
    (∀ cache,
      (openCommandResultCache paths bindingID limit onDisk now
        commandsOutcome cursorOutcome).1 = some cache →
          cache.cursor = cursorOf onDisk.cursor) ∧
      cursorOf (openCommandResultCache paths bindingID limit onDisk now
        commandsOutcome cursorOutcome).2.cursor =
          cursorOf onDisk.cursor := by
  simp only [openCommandResultCache]
  cases loading :
    (emptyCommandResultCache paths bindingID limit).load onDisk.commands with
  | error problem => exact ⟨nofun, rfl⟩
  | ok loaded =>
      cases cursorLoading : loaded.loadCursor onDisk.cursor with
      | error problem =>
          simp only [cursorLoading]
          exact ⟨nofun, trivial⟩
      | ok opened =>
          simp only [cursorLoading]
          have cursor : opened.cursor = cursorOf onDisk.cursor :=
            loadCursor_cursor (load_cursor loading) cursorLoading
          have written :=
            persistCursorLocked_cursor opened cursorOutcome onDisk.cursor
          rw [cursor, or_self] at written
          rcases opened.persistLocked now commandsOutcome onDisk.commands with
            ⟨commands, cause⟩
          cases cause with
          | some cause => exact ⟨nofun, rfl⟩
          | none =>
              rcases result :
                opened.persistCursorLocked cursorOutcome onDisk.cursor with
                ⟨disk, cursorCause⟩
              rw [result] at written
              cases cursorCause with
              | some cause => exact ⟨nofun, written⟩
              | none =>
                  refine ⟨?_, written⟩
                  intro cache equality
                  cases equality
                  exact cursor

end CommandResultCache

end GravitPanel.Agent
