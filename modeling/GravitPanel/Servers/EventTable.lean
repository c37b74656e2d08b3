import GravitPanel.Servers.AgentService

/-!
# The event table keeps the newest events of a binding

The rows of a binding are the end of the sequence of all its events, and at
least its newest ones; the unique index over cursors therefore ignores a line
for as long as its first event is among them.
-/

namespace GravitPanel.Servers

open ServerAgentStore

/-- The events of a binding, in the order of their sequence. -/
def rowsOf (events : List ServerRuntimeEvent) (bindingId : String) :
    List ServerRuntimeEvent :=
  events.filter fun event => event.bindingId = bindingId

/-- The last `count` elements of a list. -/
def lastOf {Row : Type} (count : Nat) (rows : List Row) : List Row :=
  rows.drop (rows.length - count)

theorem lastOf_eq_reverse_take
    {Row : Type} (count : Nat) (rows : List Row) :
    (rows.reverse.take count).reverse = lastOf count rows := by
  rw [List.take_reverse, List.reverse_reverse, lastOf]

theorem lastOf_suffix {Row : Type} (count : Nat) (rows : List Row) :
    lastOf count rows <:+ rows :=
  List.drop_suffix _ _

theorem lastOf_length {Row : Type} (count : Nat) (rows : List Row) :
    (lastOf count rows).length = min count rows.length := by
  rw [lastOf, List.length_drop]
  omega

theorem filter_key_mem_lastOf
    {Row : Type} {rows : List Row} {key : Row → Nat} {count : Nat}
    (distinct : (rows.map key).Nodup) :
    (rows.filter fun row => key row ∈ (lastOf count rows).map key) =
      lastOf count rows := by
  have split := List.take_append_drop (rows.length - count) rows
  have parts := distinct
  rw [← split, List.map_append] at parts
  have apart := (List.nodup_append.mp parts).2.2
  calc
    (rows.filter fun row => key row ∈ (lastOf count rows).map key) =
        (rows.take (rows.length - count) ++
          rows.drop (rows.length - count)).filter fun row =>
            key row ∈ (lastOf count rows).map key := by
      rw [split]
    _ = [] ++ lastOf count rows := by
      rw [List.filter_append]
      congr 1
      · rw [List.filter_eq_nil_iff]
        intro row member kept
        have listed := of_decide_eq_true kept
        exact apart _ (List.mem_map_of_mem member) _ listed rfl
      · apply List.filter_eq_self.mpr
        intro row member
        exact decide_eq_true (List.mem_map_of_mem member)
    _ = lastOf count rows := List.nil_append _

theorem newestSequences_eq
    (events : List ServerRuntimeEvent) (bindingId : String) :
    newestSequences events bindingId =
      ((lastOf keptEvents (rowsOf events bindingId)).map
        ServerRuntimeEvent.sequence).reverse := by
  rw [newestSequences, ← lastOf_eq_reverse_take, List.map_reverse,
    List.reverse_reverse]
  rfl

variable {old recorded : List ServerRuntimeEvent} {bindingId : String}
variable {store : ServerAgentStore} {event : ServerRuntimeEvent}

theorem rowsOf_pruneEvents_same
    {events : List ServerRuntimeEvent}
    (increasing : events.Pairwise fun earlier later =>
      earlier.sequence < later.sequence) :
    rowsOf (pruneEvents events bindingId) bindingId =
      lastOf keptEvents (rowsOf events bindingId) := by
  have distinct :
      ((rowsOf events bindingId).map ServerRuntimeEvent.sequence).Nodup := by
    rw [List.Nodup, List.pairwise_map]
    exact (increasing.filter _).imp fun less => Nat.ne_of_lt less
  have kept : ∀ event : ServerRuntimeEvent,
      event.sequence ∈ newestSequences events bindingId ↔
        event.sequence ∈ (lastOf keptEvents (rowsOf events bindingId)).map
          ServerRuntimeEvent.sequence := by
    intro event
    rw [newestSequences_eq, List.mem_reverse]
  rw [← filter_key_mem_lastOf distinct]
  simp only [rowsOf, pruneEvents, List.filter_filter, kept]
  apply List.filter_congr
  intro event _
  by_cases owned : event.bindingId = bindingId <;> simp [owned]

theorem rowsOf_pruneEvents_other
    {events : List ServerRuntimeEvent} {bindingId owner : String}
    (different : owner ≠ bindingId) :
    rowsOf (pruneEvents events owner) bindingId =
      rowsOf events bindingId := by
  rw [rowsOf, pruneEvents, List.filter_filter, rowsOf]
  apply List.filter_congr
  intro event _
  by_cases owned : event.bindingId = bindingId
  · simp [owned, Ne.symm different]
  · simp [owned]

/-- Two events with one cursor are at least the number of kept events apart. -/
def CursorsApart (events : List ServerRuntimeEvent) : Prop :=
  ∀ before first middle second after,
    events = before ++ first :: (middle ++ second :: after) →
    second.cursor ≠ none → first.cursor = second.cursor →
      keptEvents ≤ middle.length

/-- The table and the events that were recorded for a binding since it held
the rows `old`. -/
structure Recorded
    (bindingId : String) (old : List ServerRuntimeEvent)
    (store : ServerAgentStore) (recorded : List ServerRuntimeEvent) :
    Prop where
  increasing : store.events.Pairwise fun earlier later =>
    earlier.sequence < later.sequence
  bounded : ∀ event ∈ store.events, event.sequence ≤ store.sequence
  suffix : rowsOf store.events bindingId <:+ old ++ recorded
  complete : rowsOf store.events bindingId = old ++ recorded ∨
    keptEvents ≤ (rowsOf store.events bindingId).length
  apart : CursorsApart recorded

/-- The events of a binding that effects publish. -/
def recordedEvents (bindingId : String) (effects : List Effect) :
    List ServerRuntimeEvent :=
  effects.filterMap fun effect =>
    match effect with
    | .published event =>
        if event.bindingId = bindingId then some event else none
    | _ => none

@[simp]
theorem recordedEvents_append
    (bindingId : String) (first second : List Effect) :
    recordedEvents bindingId (first ++ second) =
      recordedEvents bindingId first ++ recordedEvents bindingId second := by
  simp [recordedEvents]

theorem mem_recordedEvents
    {effects : List Effect}
    :
    event ∈ recordedEvents bindingId effects ↔
      .published event ∈ effects ∧ event.bindingId = bindingId := by
  simp only [recordedEvents, List.mem_filterMap]
  constructor
  · rintro ⟨effect, member, found⟩
    cases effect with
    | published other =>
        simp only at found
        split at found
        · rename_i owned
          cases Option.some.inj found
          exact ⟨member, owned⟩
        · cases found
    | _ => cases found
  · rintro ⟨member, owned⟩
    exact ⟨.published event, member, by simp [owned]⟩

theorem Recorded.mem_of_recent
    {old recorded before after : List ServerRuntimeEvent}
    (table : Recorded bindingId old store recorded)
    (split : recorded = before ++ event :: after)
    (recent : after.length < keptEvents) : event ∈ store.events := by
  have inRows : event ∈ rowsOf store.events bindingId := by
    rcases table.complete with all | full
    · rw [all, split]
      simp
    · have ending : event :: after <:+ old ++ recorded :=
        ⟨old ++ before, by rw [split, List.append_assoc]⟩
      have inside : event :: after <:+ rowsOf store.events bindingId := by
        apply List.suffix_of_suffix_length_le ending table.suffix
        rw [List.length_cons]
        omega
      exact inside.subset List.mem_cons_self
  exact (List.mem_filter.mp inRows).1

theorem Recorded.apart_append
    (table : Recorded bindingId old store recorded)
    (owners : ∀ earlier ∈ recorded, earlier.bindingId = bindingId)
    (free : cursorTaken store.events bindingId event.cursor = false) :
    CursorsApart (recorded ++ [event]) := by
  intro before first middle second after split stored same
  rcases List.eq_nil_or_concat after with rfl | ⟨tail, last, rfl⟩
  · have shape : recorded ++ [event] =
        (before ++ first :: middle) ++ [second] := by
      rw [split]
      simp
    obtain ⟨earlier, new⟩ := List.append_inj' shape rfl
    cases List.cons.inj new |>.1
    by_contra close
    have present := table.mem_of_recent earlier (Nat.lt_of_not_le close)
    have owner := owners first (by rw [earlier]; simp)
    cases cursor : event.cursor with
    | none => exact stored cursor
    | some text =>
        rw [cursor] at free same
        have taken : cursorTaken store.events bindingId (some text) := by
          rw [cursorTaken, List.any_eq_true]
          exact ⟨first, present, decide_eq_true ⟨owner, same⟩⟩
        rw [taken] at free
        cases free
  · have shape : recorded ++ [event] =
        (before ++ first :: (middle ++ second :: tail)) ++ [last] := by
      rw [split]
      simp
    have earlier := (List.append_inj' shape rfl).1
    exact table.apart before first middle second tail earlier stored same

theorem Recorded.rows_append
    (table : Recorded bindingId old store recorded)
    (event : ServerRuntimeEvent) (owner : String)
    (eventOwner : event.bindingId = owner)
    (extended : (store.events ++ [event]).Pairwise fun earlier later =>
      earlier.sequence < later.sequence) :
    rowsOf (pruneEvents (store.events ++ [event]) owner) bindingId <:+
        old ++ (recorded ++ recordedEvents bindingId [.published event]) ∧
      (rowsOf (pruneEvents (store.events ++ [event]) owner) bindingId =
          old ++ (recorded ++
            recordedEvents bindingId [.published event]) ∨
        keptEvents ≤ (rowsOf (pruneEvents (store.events ++ [event]) owner)
          bindingId).length) := by
  by_cases same : owner = bindingId
  · subst same
    have shown : recordedEvents owner [.published event] = [event] := by
      simp [recordedEvents, eventOwner]
    have rows : rowsOf (store.events ++ [event]) owner =
        rowsOf store.events owner ++ [event] := by
      simp [rowsOf, eventOwner]
    have grown : rowsOf store.events owner ++ [event] <:+
        old ++ (recorded ++ [event]) := by
      obtain ⟨gone, shape⟩ := table.suffix
      refine ⟨gone, ?_⟩
      rw [← List.append_assoc, shape, List.append_assoc]
    rw [rowsOf_pruneEvents_same extended, shown, rows]
    refine ⟨(lastOf_suffix _ _).trans grown, ?_⟩
    by_cases long : keptEvents ≤ (rowsOf store.events owner ++ [event]).length
    · right
      rw [lastOf_length]
      omega
    · left
      have whole :
          lastOf keptEvents (rowsOf store.events owner ++ [event]) =
            rowsOf store.events owner ++ [event] := by
        rw [lastOf]
        have nothing :
            (rowsOf store.events owner ++ [event]).length - keptEvents =
              0 := by
          omega
        rw [nothing, List.drop_zero]
      rcases table.complete with all | full
      · rw [whole, all, List.append_assoc]
      · rw [List.length_append] at long
        omega
  · have hidden : recordedEvents bindingId [.published event] = [] := by
      simp [recordedEvents, eventOwner, same]
    have rows : rowsOf (store.events ++ [event]) bindingId =
        rowsOf store.events bindingId := by
      simp [rowsOf, eventOwner, same]
    rw [rowsOf_pruneEvents_other same, hidden, rows, List.append_nil]
    exact ⟨table.suffix, table.complete⟩

theorem Recorded.appendEvent
    (table : Recorded bindingId old store recorded)
    (owners : ∀ earlier ∈ recorded, earlier.bindingId = bindingId)
    (owner type message : String) (commandId cursor : Option String)
    (createdAt : EventTime) :
    Recorded bindingId old
      (store.appendEvent owner type message commandId cursor createdAt).1
      (recorded ++ recordedEvents bindingId
        ((store.appendEvent owner type message commandId cursor
          createdAt).2.toList.map .published)) := by
  unfold ServerAgentStore.appendEvent
  by_cases taken : cursorTaken store.events owner (storedCursor cursor)
  · rw [if_pos taken]
    simpa [recordedEvents] using table
  · rw [if_neg taken]
    simp only
    generalize eventEquality :
      ({ sequence := store.sequence + 1, bindingId := owner
         commandId := commandId, type := JavaScript.slice 64 type
         message := JavaScript.slice 16384 message
         cursor := storedCursor cursor, createdAt := createdAt } :
          ServerRuntimeEvent) = event
    have eventOwner : event.bindingId = owner := by rw [← eventEquality]
    have eventCursor : event.cursor = storedCursor cursor := by
      rw [← eventEquality]
    have eventSequence : event.sequence = store.sequence + 1 := by
      rw [← eventEquality]
    have extended :
        (store.events ++ [event]).Pairwise fun earlier later =>
          earlier.sequence < later.sequence := by
      rw [List.pairwise_append]
      refine ⟨table.increasing, List.pairwise_singleton _ _, ?_⟩
      intro earlier member later laterMember
      rw [List.mem_singleton.mp laterMember, eventSequence]
      have bound := table.bounded earlier member
      omega
    refine ⟨extended.filter _, ?_, ?_, ?_, ?_⟩
    · intro other member
      have present := (List.mem_filter.mp member).1
      rcases List.mem_append.mp present with earlier | new
      · have bound := table.bounded other earlier
        change other.sequence ≤ store.sequence + 1
        omega
      · rw [List.mem_singleton.mp new, eventSequence]
    · exact (table.rows_append event owner eventOwner extended).1
    · exact (table.rows_append event owner eventOwner extended).2
    · by_cases same : owner = bindingId
      · subst same
        have shown :
            recordedEvents owner [.published event] = [event] := by
          simp [recordedEvents, eventOwner]
        have free : cursorTaken store.events owner event.cursor = false := by
          rw [eventCursor]
          exact Bool.eq_false_iff.mpr taken
        change CursorsApart (recorded ++
          recordedEvents owner [.published event])
        rw [shown]
        exact table.apart_append owners free
      · have hidden :
            recordedEvents bindingId [.published event] = [] := by
          simp [recordedEvents, eventOwner, same]
        change CursorsApart (recorded ++
          recordedEvents bindingId [.published event])
        rw [hidden, List.append_nil]
        exact table.apart

end GravitPanel.Servers
