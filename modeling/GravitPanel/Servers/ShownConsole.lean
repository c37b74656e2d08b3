import GravitPanel.Servers.EventTable
import GravitPanel.Servers.ServerConsole

/-!
# The console shows what was recorded without a gap

The table keeps only the newest events of a binding, and the browser starts over
with every connection.  Even so an open console has the newest events of a part
of all that was ever recorded for its binding, each once.
-/

namespace GravitPanel.Servers

open GravitPanel.Execution LogWindow ServerAgentStore ServerConsole

/-- The recorded events of a binding as the browser gets them. -/
def consoleLog (bindingId : String) (recorded : List ServerRuntimeEvent) :
    List ServerRuntimeEvent :=
  (rowsOf recorded bindingId).map ServerRuntimeEvent.sent

/-- The table of a run beside all that was recorded. -/
structure ConsoleTable (store : ServerAgentStore)
    (recorded : List ServerRuntimeEvent) : Prop where
  rows : ∀ bindingId, Recorded bindingId [] store (rowsOf recorded bindingId)
  increasing : Increasing ServerRuntimeEvent.sequence recorded
  bounded : ∀ event ∈ recorded, event.sequence ≤ store.sequence

section Table

variable {store : ServerAgentStore} {recorded : List ServerRuntimeEvent}
variable {bindingId type message : String} {commandId cursor : Option String}
variable {createdAt : EventTime}

theorem rowsOf_append (first second : List ServerRuntimeEvent) :
    rowsOf (first ++ second) bindingId =
      rowsOf first bindingId ++ rowsOf second bindingId :=
  List.filter_append _ _

theorem consoleLog_append (first second : List ServerRuntimeEvent) :
    consoleLog bindingId (first ++ second) =
      consoleLog bindingId first ++ consoleLog bindingId second := by
  rw [consoleLog, rowsOf_append, List.map_append]
  rfl

theorem recordedEvents_published (events : List ServerRuntimeEvent) :
    recordedEvents bindingId (events.map Effect.published) =
      rowsOf events bindingId := by
  induction events with
  | nil => rfl
  | cons event rest ih =>
      by_cases owned : event.bindingId = bindingId
      · simp_all [recordedEvents, rowsOf]
      · simp_all [recordedEvents, rowsOf]

theorem owner_of_mem_rowsOf {event : ServerRuntimeEvent}
    (member : event ∈ rowsOf recorded bindingId) :
    event.bindingId = bindingId :=
  of_decide_eq_true (List.mem_filter.mp member).2

theorem owner_of_mem_consoleLog {event : ServerRuntimeEvent}
    (member : event ∈ consoleLog bindingId recorded) :
    event.bindingId = bindingId := by
  obtain ⟨row, present, rfl⟩ := List.mem_map.mp member
  have owner : row.bindingId = bindingId := owner_of_mem_rowsOf present
  exact owner

theorem ConsoleTable.log (table : ConsoleTable store recorded)
    (bindingId : String) :
    Increasing ServerRuntimeEvent.sequence (consoleLog bindingId recorded) :=
  List.pairwise_map.mpr ((table.increasing.filter _).imp fun less => less)

theorem appendEvent_stored {event : ServerRuntimeEvent}
    (stored : (store.appendEvent bindingId type message commandId cursor
      createdAt).2 = some event) :
    event.sequence = store.sequence + 1 ∧
      (store.appendEvent bindingId type message commandId cursor
        createdAt).1.sequence = store.sequence + 1 := by
  unfold appendEvent at stored ⊢
  split at stored
  · cases stored
  · rename_i free
    cases stored
    rw [if_neg free]
    exact ⟨rfl, rfl⟩

theorem appendEvent_ignored
    (ignored : (store.appendEvent bindingId type message commandId cursor
      createdAt).2 = none) :
    (store.appendEvent bindingId type message commandId cursor
      createdAt).1 = store := by
  unfold appendEvent at ignored ⊢
  split at ignored
  · rename_i taken
    rw [if_pos taken]
  · cases ignored

theorem ConsoleTable.append (table : ConsoleTable store recorded) :
    ConsoleTable
      (store.appendEvent bindingId type message commandId cursor createdAt).1
      (recorded ++ (store.appendEvent bindingId type message commandId cursor
        createdAt).2.toList) := by
  have rows : ∀ owner, Recorded owner []
      (store.appendEvent bindingId type message commandId cursor createdAt).1
      (rowsOf (recorded ++ (store.appendEvent bindingId type message commandId
        cursor createdAt).2.toList) owner) := by
    intro owner
    have grown := (table.rows owner).appendEvent
      (fun earlier member => owner_of_mem_rowsOf member)
      bindingId type message commandId cursor createdAt
    rw [recordedEvents_published, ← rowsOf_append] at grown
    exact grown
  cases stored : (store.appendEvent bindingId type message commandId cursor
      createdAt).2 with
  | none =>
      rw [appendEvent_ignored stored, Option.toList_none, List.append_nil]
      exact table
  | some event =>
      obtain ⟨sequence, next⟩ := appendEvent_stored stored
      rw [stored] at rows
      refine ⟨rows, ?_, fun other member => ?_⟩
      · refine List.pairwise_append.mpr
          ⟨table.increasing, List.pairwise_singleton _ _, ?_⟩
        intro earlier member later last
        rw [List.mem_singleton.mp last, sequence]
        exact Nat.lt_succ_of_le (table.bounded earlier member)
      · rw [next]
        rcases List.mem_append.mp member with old | new
        · exact Nat.le_succ_of_le (table.bounded other old)
        · rw [List.mem_singleton.mp new, sequence]

theorem newest_map {Item Other : Type} (count : Nat) (function : Item → Other)
    (items : List Item) :
    newest count (items.map function) = (newest count items).map function := by
  rw [newest, newest, List.length_map, List.map_drop]

theorem exists_of_mem_sequences {count sequence : Nat}
    {items : List ServerRuntimeEvent}
    (member : sequence ∈
      (newest count items).map ServerRuntimeEvent.sequence) :
    ∃ event ∈ items, event.sequence = sequence := by
  obtain ⟨event, present, same⟩ := List.mem_map.mp member
  exact ⟨event, (newest_suffix _ _).subset present, same⟩

theorem consoleLimit_le : consoleLimit ≤ keptEvents := by
  unfold consoleLimit keptEvents
  omega

theorem ConsoleTable.history (table : ConsoleTable store recorded)
    (bindingId : String) :
    (store.listEvents bindingId consoleLimit).map ServerRuntimeEvent.sent =
      newest consoleLimit (consoleLog bindingId recorded) := by
  have listed : store.listEvents bindingId consoleLimit =
      newest consoleLimit (rowsOf store.events bindingId) :=
    lastOf_eq_reverse_take _ _
  rw [listed, consoleLog, newest_map]
  congr 1
  rcases (table.rows bindingId).complete with all | full
  · rw [all, List.nil_append]
  · obtain ⟨older, split⟩ := (table.rows bindingId).suffix
    rw [List.nil_append] at split
    rw [← split, newest_append_of_le (consoleLimit_le.trans full)]

end Table

def ConsolePhase.link : ConsolePhase → Option (Link ServerRuntimeEvent)
  | .live messages => some ⟨messages, true⟩
  | _ => none

def OnlyItems (messages : List ConsoleMessage) : Prop :=
  ∀ message ∈ messages, ∃ event, message = .item event

/-- A history comes first, and to a console that has nothing pending. -/
def HistoryFirst (pending : List ServerRuntimeEvent) :
    List ConsoleMessage → Prop
  | [] => True
  | .history _ :: rest => pending = [] ∧ OnlyItems rest
  | .item _ :: rest => OnlyItems rest

def Arriving (pending : List ServerRuntimeEvent) : ConsolePhase → Prop
  | .connecting => pending = []
  | .live messages => HistoryFirst pending messages
  | _ => True

/-- The events are the newest ones of a part of the log, and the pending ones
come next. -/
def ShowsConsole (log : List ServerRuntimeEvent) (console : ServerConsole) :
    Prop :=
  ∃ front, console.events = newest consoleLimit front ∧
    LogWindow.Follows consoleLimit log (front ++ console.pendingEvents)
        console.phase.link ∧
      ∀ sequence ∈ console.seenSequences,
        ∃ event ∈ front ++ console.pendingEvents, event.sequence = sequence

structure KeptConsole (run : ConsoleRun)
    (recorded : List ServerRuntimeEvent) : Prop where
  table : ConsoleTable run.store recorded
  scheduled : run.console.frame = false → run.console.pendingEvents = []
  arriving : Arriving run.console.pendingEvents run.console.phase
  shows : run.console.phase ≠ .hidden →
    ShowsConsole (consoleLog run.console.bindingId recorded) run.console

section Console

variable {log : List ServerRuntimeEvent} {console : ServerConsole}
variable {messages rest : List ConsoleMessage}
variable {pending : List ServerRuntimeEvent} {event : ServerRuntimeEvent}

theorem OnlyItems.historyFirst (items : OnlyItems messages) :
    HistoryFirst pending messages := by
  cases messages with
  | nil => exact trivial
  | cons first rest =>
      obtain ⟨event, rfl⟩ := items first List.mem_cons_self
      exact fun message member => items message (List.mem_cons_of_mem _ member)

theorem OnlyItems.append (items : OnlyItems messages) :
    OnlyItems (messages ++ [.item event]) := by
  intro message member
  rcases List.mem_append.mp member with old | new
  · exact items message old
  · exact ⟨event, List.mem_singleton.mp new⟩

theorem HistoryFirst.append (first : HistoryFirst pending messages) :
    HistoryFirst pending (messages ++ [.item event]) := by
  cases messages with
  | nil => exact fun message absent => by cases absent
  | cons message rest =>
      cases message with
      | history events => exact ⟨first.1, first.2.append⟩
      | item other => exact OnlyItems.append first

theorem showsConsole_connect (log : List ServerRuntimeEvent)
    (console : ServerConsole) : ShowsConsole log console.connect :=
  ⟨[], List.drop_nil.symm, .disconnected List.nil_prefix,
    fun sequence absent => by cases absent⟩

theorem ShowsConsole.flush (shows : ShowsConsole log console)
    (increasing : Increasing ServerRuntimeEvent.sequence log) :
    ShowsConsole log console.flushPendingEvents := by
  obtain ⟨front, events, follows, seen⟩ := shows
  unfold flushPendingEvents
  by_cases idle : console.pendingEvents = []
  · rw [if_pos idle]
    exact ⟨front, events, follows, seen⟩
  · rw [if_neg idle]
    have later : Increasing ServerRuntimeEvent.sequence
        (newest consoleLimit front ++ console.pendingEvents) :=
      increasing.sublist (((newest_suffix _ front).sublist.append_right
        _).trans follows.part.sublist)
    have shown : newest consoleLimit (sorted ServerRuntimeEvent.sequence
        (console.events ++ console.pendingEvents)) =
        newest consoleLimit (front ++ console.pendingEvents) := by
      rw [events, sorted_of_increasing later, newest_newest_append]
    refine ⟨front ++ console.pendingEvents, shown, ?_, ?_⟩
    · change LogWindow.Follows consoleLimit log (_ ++ []) console.phase.link
      rw [List.append_nil]
      exact follows
    · intro sequence member
      dsimp only at member ⊢
      rw [shown] at member
      rw [List.append_nil]
      exact exists_of_mem_sequences member

theorem ShowsConsole.history {history : List ServerRuntimeEvent}
    (shows : ShowsConsole log console)
    (increasing : Increasing ServerRuntimeEvent.sequence log)
    (owners : ∀ event ∈ log, event.bindingId = console.bindingId)
    (live : console.phase = .live (.history history :: rest))
    (idle : console.pendingEvents = []) :
    ShowsConsole log
      (applyHistory history { console with phase := .live rest }) := by
  obtain ⟨front, events, follows, seen⟩ := shows
  rw [live, idle, List.append_nil] at follows
  obtain ⟨more, rfl, later⟩ := follows.history
  have inside := (newest_suffix consoleLimit (front ++ more)).sublist.trans
    later.part.sublist
  have owned : ((newest consoleLimit (front ++ more)).filter fun event =>
      event.bindingId = console.bindingId) =
        newest consoleLimit (front ++ more) := by
    refine List.filter_eq_self.mpr fun event member => ?_
    exact decide_eq_true (owners event (inside.subset member))
  have shown : newest consoleLimit (sorted ServerRuntimeEvent.sequence
      ((newest consoleLimit (front ++ more)).filter fun event =>
        event.bindingId = console.bindingId)) =
          newest consoleLimit (front ++ more) := by
    rw [owned, sorted_of_increasing (increasing.sublist inside)]
    refine newest_of_length_le ?_
    rw [length_newest]
    exact Nat.min_le_left _ _
  refine ⟨front ++ more, shown, ?_, ?_⟩
  · change LogWindow.Follows consoleLimit log (_ ++ console.pendingEvents)
      (some ⟨rest, true⟩)
    rw [idle, List.append_nil]
    exact later
  · intro sequence member
    change sequence ∈ List.map _ (newest _ (sorted _ _)) at member
    rw [shown] at member
    obtain ⟨event, present, same⟩ := exists_of_mem_sequences member
    exact ⟨event, List.mem_append_left _ present, same⟩

theorem ShowsConsole.enqueue (shows : ShowsConsole log console)
    (increasing : Increasing ServerRuntimeEvent.sequence log)
    (owners : ∀ event ∈ log, event.bindingId = console.bindingId)
    (live : console.phase = .live (.item event :: rest)) :
    ShowsConsole log
      (enqueueEvent event { console with phase := .live rest }) := by
  obtain ⟨front, events, follows, seen⟩ := shows
  rw [live] at follows
  have later := follows.appended
  have owner : event.bindingId = console.bindingId :=
    owners event (later.part.subset
      (List.mem_append_right _ (List.mem_singleton.mpr rfl)))
  have unseen : event.sequence ∉ console.seenSequences := by
    intro repeated
    obtain ⟨other, present, same⟩ := seen _ repeated
    have apart := (List.pairwise_append.mp
      (increasing.sublist later.part.sublist)).2.2
    exact absurd same (Nat.ne_of_lt
      (apart other present event (List.mem_singleton.mpr rfl)))
  unfold enqueueEvent
  rw [if_neg (not_or.mpr ⟨not_not.mpr owner, unseen⟩)]
  rw [List.append_assoc] at later
  refine ⟨front, events, later, ?_⟩
  intro sequence member
  rcases List.mem_cons.mp member with rfl | old
  · exact ⟨event, List.mem_append_right _
      (List.mem_append_right _ (List.mem_singleton.mpr rfl)), rfl⟩
  · obtain ⟨other, present, same⟩ := seen sequence old
    refine ⟨other, ?_, same⟩
    rw [← List.append_assoc]
    exact List.mem_append_left _ present

theorem ShowsConsole.grow {longer : List ServerRuntimeEvent}
    (shows : ShowsConsole log console) (grown : log <+: longer)
    (link : console.phase.link = none) : ShowsConsole longer console := by
  obtain ⟨front, events, follows, seen⟩ := shows
  refine ⟨front, events, ?_, seen⟩
  rw [link]
  exact follows.drop grown

end Console

section Steps

variable {run : ConsoleRun} {recorded : List ServerRuntimeEvent}

theorem kept_connect (kept : KeptConsole run recorded) (bindingId : String) :
    KeptConsole { run with
      console := connect { run.console with bindingId } } recorded where
  table := kept.table
  scheduled _ := rfl
  arriving := rfl
  shows _ := showsConsole_connect _ _

theorem kept_watched (kept : KeptConsole run recorded) (bindingId : String)
    (active : Bool) :
    KeptConsole { run with
      console := run.console.watched bindingId active } recorded := by
  cases active with
  | true => exact kept_connect kept bindingId
  | false =>
      exact ⟨kept.table, fun _ => rfl, trivial, fun shown => absurd rfl shown⟩

theorem kept_opened (kept : KeptConsole run recorded)
    (connecting : run.console.phase = .connecting) :
    KeptConsole (run.withPhase
      (.live (run.store.openConsole run.console.bindingId))) recorded := by
  have arriving := kept.arriving
  have shows := kept.shows (by rw [connecting]; simp)
  rw [connecting] at arriving
  refine ⟨kept.table, kept.scheduled,
    ⟨arriving, fun message absent => by cases absent⟩, fun _ => ?_⟩
  obtain ⟨front, events, follows, seen⟩ := shows
  refine ⟨front, events, ?_, seen⟩
  change LogWindow.Follows consoleLimit _ _ (some ⟨openConsole _ _, true⟩)
  rw [openConsole, kept.table.history]
  exact .connect follows.part true

theorem kept_lost (kept : KeptConsole run recorded)
    (shown : run.console.phase ≠ .hidden) :
    KeptConsole (run.withPhase .reconnecting) recorded := by
  refine ⟨kept.table, kept.scheduled, trivial, fun _ => ?_⟩
  obtain ⟨front, events, follows, seen⟩ := kept.shows shown
  exact ⟨front, events, .disconnected follows.part, seen⟩

theorem flushPendingEvents_spec (console : ServerConsole) :
    console.flushPendingEvents.bindingId = console.bindingId ∧
      console.flushPendingEvents.phase = console.phase ∧
        console.flushPendingEvents.pendingEvents = [] := by
  unfold flushPendingEvents
  by_cases idle : console.pendingEvents = []
  · rw [if_pos idle]
    exact ⟨rfl, rfl, idle⟩
  · rw [if_neg idle]
    exact ⟨rfl, rfl, rfl⟩

theorem kept_flushed (kept : KeptConsole run recorded) :
    KeptConsole { run with console := run.console.flushPendingEvents }
      recorded := by
  obtain ⟨owner, phase, idle⟩ := flushPendingEvents_spec run.console
  refine ⟨kept.table, fun _ => idle, ?_, fun shown => ?_⟩
  · have arriving := kept.arriving
    dsimp only
    rw [idle, phase]
    cases current : run.console.phase with
    | connecting => exact rfl
    | live messages =>
        rw [current] at arriving
        cases messages with
        | nil => exact trivial
        | cons message rest =>
            cases message with
            | history events => exact ⟨rfl, arriving.2⟩
            | item event => exact arriving
    | hidden => exact trivial
    | reconnecting => exact trivial
  · dsimp only at shown ⊢
    rw [phase] at shown
    rw [owner]
    exact (kept.shows shown).flush (kept.table.log _)

theorem kept_history (kept : KeptConsole run recorded)
    {history : List ServerRuntimeEvent} {rest : List ConsoleMessage}
    (live : run.console.phase = .live (.history history :: rest)) :
    KeptConsole { run with
      console := applyHistory history
        { run.console with phase := .live rest } } recorded := by
  have arriving := kept.arriving
  rw [live] at arriving
  obtain ⟨idle, items⟩ := arriving
  exact ⟨kept.table, kept.scheduled, items.historyFirst, fun _ =>
    (kept.shows (by rw [live]; simp)).history (kept.table.log _)
      (fun event member => owner_of_mem_consoleLog member) live idle⟩

theorem enqueueEvent_cases (event : ServerRuntimeEvent)
    (console : ServerConsole) :
    enqueueEvent event console = console ∨
      enqueueEvent event console =
        { console with
          seenSequences := event.sequence :: console.seenSequences
          pendingEvents := console.pendingEvents ++ [event]
          frame := true } := by
  unfold enqueueEvent
  split
  · exact .inl rfl
  · exact .inr rfl

theorem kept_item (kept : KeptConsole run recorded)
    {event : ServerRuntimeEvent} {rest : List ConsoleMessage}
    (live : run.console.phase = .live (.item event :: rest)) :
    KeptConsole { run with
      console := enqueueEvent event
        { run.console with phase := .live rest } } recorded := by
  have arriving := kept.arriving
  rw [live] at arriving
  have items : OnlyItems rest := arriving
  have shows := (kept.shows (by rw [live]; simp)).enqueue (kept.table.log _)
    (fun event member => owner_of_mem_consoleLog member) live
  rcases enqueueEvent_cases event { run.console with phase := .live rest } with
    same | same
  · rw [same] at shows ⊢
    exact ⟨kept.table, kept.scheduled, items.historyFirst, fun _ => shows⟩
  · rw [same] at shows ⊢
    exact ⟨kept.table, (fun absurdity => by cases absurdity),
      items.historyFirst, fun _ => shows⟩

theorem published_other {event : ServerRuntimeEvent} {console : ServerConsole}
    (other : console.phase.link = none ∨
      event.bindingId ≠ console.bindingId) :
    console.published event = console := by
  unfold published
  rcases other with none | different
  · split
    · rename_i messages live
      rw [live] at none
      cases none
    · rfl
  · split
    · rw [if_neg different]
    · rfl

theorem published_live {event : ServerRuntimeEvent} {console : ServerConsole}
    {messages : List ConsoleMessage} (live : console.phase = .live messages)
    (owner : event.bindingId = console.bindingId) :
    console.published event =
      { console with phase := .live (messages ++ [.item event.sent]) } := by
  unfold published
  rw [live]
  dsimp only
  rw [if_pos owner]

theorem kept_missed (kept : KeptConsole run recorded)
    {store : ServerAgentStore} {event : ServerRuntimeEvent}
    (table : ConsoleTable store (recorded ++ [event]))
    (none : run.console.phase.link = none) :
    KeptConsole ⟨store, run.console.published event⟩ (recorded ++ [event]) := by
  have grown : consoleLog run.console.bindingId recorded <+:
      consoleLog run.console.bindingId (recorded ++ [event]) := by
    rw [consoleLog_append]
    exact List.prefix_append _ _
  rw [published_other (.inl none)]
  exact ⟨table, kept.scheduled, kept.arriving,
    fun shown => (kept.shows shown).grow grown none⟩

theorem kept_published (kept : KeptConsole run recorded)
    {store : ServerAgentStore} {event : ServerRuntimeEvent}
    (table : ConsoleTable store (recorded ++ [event])) :
    KeptConsole ⟨store, run.console.published event⟩ (recorded ++ [event]) := by
  by_cases owner : event.bindingId = run.console.bindingId
  · cases phase : run.console.phase with
    | live messages =>
        rw [published_live phase owner]
        have arriving := kept.arriving
        have shows := kept.shows (by rw [phase]; simp)
        rw [phase] at arriving
        refine ⟨table, kept.scheduled, HistoryFirst.append arriving,
          fun _ => ?_⟩
        obtain ⟨front, events, follows, seen⟩ := shows
        rw [phase] at follows
        refine ⟨front, events, ?_, seen⟩
        have last : consoleLog run.console.bindingId [event] =
            [event.sent] := by
          simp [consoleLog, rowsOf, owner]
        change LogWindow.Follows consoleLimit (consoleLog run.console.bindingId
          (recorded ++ [event])) _ (some ⟨messages ++ [_], true⟩)
        rw [consoleLog_append, last]
        exact follows.publish rfl event.sent true
    | hidden => exact kept_missed kept table (congrArg _ phase)
    | connecting => exact kept_missed kept table (congrArg _ phase)
    | reconnecting => exact kept_missed kept table (congrArg _ phase)
  · rw [published_other (.inr owner)]
    refine ⟨table, kept.scheduled, kept.arriving, fun shown => ?_⟩
    have absent : consoleLog run.console.bindingId [event] = [] := by
      simp [consoleLog, rowsOf, owner]
    dsimp only
    rw [consoleLog_append, absent, List.append_nil]
    exact kept.shows shown

theorem kept_recorded (kept : KeptConsole run recorded)
    (bindingId type message : String) (commandId cursor : Option String)
    (createdAt : EventTime) :
    KeptConsole
      (consoleRecorded run bindingId type message commandId cursor createdAt).1
      (recorded ++ (consoleRecorded run bindingId type message commandId cursor
        createdAt).2) := by
  have table : ConsoleTable
      (run.store.appendEvent bindingId type message commandId cursor
        createdAt).1
      (recorded ++ (run.store.appendEvent bindingId type message commandId
        cursor createdAt).2.toList) :=
    kept.table.append
  unfold consoleRecorded
  rcases appended : run.store.appendEvent bindingId type message commandId
    cursor createdAt with ⟨store, stored⟩
  rw [appended] at table
  cases stored with
  | none =>
      rw [Option.toList_none, List.append_nil] at table
      rw [List.append_nil]
      exact ⟨table, kept.scheduled, kept.arriving, kept.shows⟩
  | some event => exact kept_published kept table

theorem kept_consoleStep {event : ConsoleEvent} {next : ConsoleRun}
    {outputs : List ServerRuntimeEvent} (kept : KeptConsole run recorded)
    (step : consoleStep run event = some (next, outputs)) :
    KeptConsole next (recorded ++ outputs) := by
  cases event with
  | recorded bindingId type message commandId cursor createdAt =>
      have same := Option.some.inj step
      have both := kept_recorded kept bindingId type message commandId cursor
        createdAt
      rw [same] at both
      exact both
  | watched bindingId active =>
      cases step
      rw [List.append_nil]
      exact kept_watched kept bindingId active
  | opened =>
      simp only [consoleStep] at step
      split at step
      · rename_i connecting
        cases step
        rw [List.append_nil]
        exact kept_opened kept connecting
      · cases step
  | delivered =>
      simp only [consoleStep] at step
      split at step
      · rename_i message rest live
        cases step
        rw [List.append_nil]
        cases message with
        | history history => exact kept_history kept live
        | item event => exact kept_item kept live
      · cases step
  | flushed =>
      simp only [consoleStep] at step
      split at step
      · cases step
        rw [List.append_nil]
        exact kept_flushed kept
      · cases step
  | lost =>
      simp only [consoleStep] at step
      split at step
      · rename_i connecting
        cases step
        rw [List.append_nil]
        exact kept_lost kept (by rw [connecting]; simp)
      · rename_i messages live
        cases step
        rw [List.append_nil]
        exact kept_lost kept (by rw [live]; simp)
      · cases step
  | retried =>
      simp only [consoleStep] at step
      split at step
      · cases step
        rw [List.append_nil]
        exact kept_connect kept run.console.bindingId
      · cases step

end Steps

/-- What the console has at the end of a run, beside all events that were
recorded in it. -/
structure ConsoleShown (run : ConsoleRun)
    (recorded : List ServerRuntimeEvent) : Prop where
  increasing : Increasing ServerRuntimeEvent.sequence recorded
  scheduled : run.console.pendingEvents ≠ [] → run.console.frame = true
  part : run.console.phase ≠ .hidden →
    ∃ front, run.console.events = newest consoleLimit front ∧
      front ++ run.console.pendingEvents <+:
        consoleLog run.console.bindingId recorded
  complete : run.console.phase = .live [] →
    run.console.flushPendingEvents.events =
      newest consoleLimit (consoleLog run.console.bindingId recorded)

/-- In every run, over events of all bindings that the table soon forgets,
broken connections and lost messages, an open console has the newest events of
a part of what was recorded for its binding, the pending ones come next and are
going to be shown, and once nothing is on its way a frame shows the newest
events of all that was recorded. -/
theorem console_shown {bindingId : String} {events : List ConsoleEvent}
    {final : ConsoleRun} {recorded : List ServerRuntimeEvent}
    (run : execute consoleStep
      ⟨ServerAgentStore.empty, ServerConsole.empty bindingId⟩ events =
        some (final, recorded)) :
    ConsoleShown final recorded := by
  have start : KeptConsole
      ⟨ServerAgentStore.empty, ServerConsole.empty bindingId⟩ [] := by
    refine ⟨⟨fun owner => ?_, List.Pairwise.nil, ?_⟩, fun _ => rfl, trivial,
      fun shown => absurd rfl shown⟩
    · refine ⟨List.Pairwise.nil, ?_, List.suffix_refl _, .inl rfl, ?_⟩
      · exact fun event absent => by cases absent
      · intro before first middle second after split
        exact absurd split.symm (by simp [rowsOf])
    · exact fun event absent => by cases absent
  have kept := execute_induction (motive := KeptConsole)
    (fun state past event next now holds step => kept_consoleStep holds step)
    start run
  refine ⟨kept.table.increasing, fun pending => ?_, fun shown => ?_,
    fun live => ?_⟩
  · cases frame : final.console.frame with
    | true => rfl
    | false => exact absurd (kept.scheduled frame) pending
  · obtain ⟨front, events, follows, seen⟩ := kept.shows shown
    exact ⟨front, events, follows.part⟩
  · have flushed := kept_flushed kept
    obtain ⟨owner, phase, idle⟩ := flushPendingEvents_spec final.console
    rw [live] at phase
    obtain ⟨front, shown, follows, -⟩ := flushed.shows (by
      dsimp only
      rw [phase]
      simp)
    dsimp only at shown follows
    rw [idle, List.append_nil, phase, owner] at follows
    rw [shown, follows.complete]

/-- An event is on its way when the connection breaks, a repeated line is
ignored, and the next connection starts over. -/
def exampleConsoleEvents : List ConsoleEvent :=
  [.watched "lobby" true,
    .recorded "lobby" "agent.connected" "connected" none none (.clock 1),
    .opened,
    .recorded "lobby" "log.stdout" "first" none (some "a") (.given "t1"),
    .recorded "arena" "log.stdout" "elsewhere" none (some "a") (.given "t1"),
    .delivered, .delivered, .flushed,
    .recorded "lobby" "log.stdout" "second" none (some "b") (.given "t2"),
    .lost,
    .recorded "lobby" "log.stdout" "second" none (some "b") (.given "t2"),
    .recorded "lobby" "log.stdout" "third" none (some "c") (.given "t3"),
    .retried, .opened,
    .recorded "lobby" "log.stdout" "fourth" none (some "d") (.given "t4"),
    .delivered, .delivered]

theorem console_shown_reconnected :
    ∃ final recorded,
      execute consoleStep
          ⟨ServerAgentStore.empty, ServerConsole.empty "lobby"⟩
          exampleConsoleEvents = some (final, recorded) ∧
        final.console.phase = .live [] ∧
          final.console.events.map ServerRuntimeEvent.sequence =
              [1, 2, 4, 5] ∧
            final.console.pendingEvents.map ServerRuntimeEvent.sequence =
                [6] ∧
              ConsoleShown final recorded := by
  have completes : (execute consoleStep
      ⟨ServerAgentStore.empty, ServerConsole.empty "lobby"⟩
      exampleConsoleEvents).map (fun result => (result.1.console.phase,
        result.1.console.events.map ServerRuntimeEvent.sequence,
        result.1.console.pendingEvents.map ServerRuntimeEvent.sequence)) =
      some (.live [], [1, 2, 4, 5], [6]) := by
    decide +kernel
  obtain ⟨⟨final, recorded⟩, ran, same⟩ := Option.map_eq_some_iff.mp completes
  obtain ⟨phase, rest⟩ := Prod.mk.inj same
  obtain ⟨shown, pending⟩ := Prod.mk.inj rest
  exact ⟨final, recorded, ran, phase, shown, pending, console_shown ran⟩

end GravitPanel.Servers
