import GravitPanel.Journal.Delivery
import GravitPanel.Servers.AgentNetwork

/-!
# Journal lines are neither lost nor recorded twice

A cursor that the agent holds, in memory or on disk, belongs to a line up to
which the panel has recorded every line since a run of `journalctl` without a
cursor began.  The table side of the argument is that a cursor is recorded
again only after its first event has left the newest events of the binding.
-/

namespace GravitPanel.Journal

open GravitPanel.Agent GravitPanel.Servers GravitPanel.Execution
open CommandResultCache ServerAgentStore ServerAgentService

/-- Lines with pairwise distinct cursors that the panel stores unchanged: not
empty, of at most 2000 ASCII characters. -/
structure DistinctCursors (lines : List JournalLine) : Prop where
  distinct : (lines.map JournalLine.cursor).Nodup
  not_empty : ∀ line ∈ lines, line.cursor ≠ ""
  short : ∀ line ∈ lines, line.cursor.toList.length ≤ 2000
  ascii : ∀ line ∈ lines, ∀ character ∈ line.cursor.toList,
    character.val ≤ 0x7F

/-- The panel has recorded an event for the line. -/
def Accepted
    (bindingID : String) (line : JournalLine) (past : List Effect) : Prop :=
  ∃ event ∈ recordedEvents bindingID past,
    event.cursor = some line.cursor ∧
      event.message = JavaScript.slice 16384 line.message

theorem Accepted.mono
    {bindingID : String} {line : JournalLine} {past : List Effect}
    (accepted : Accepted bindingID line past) (now : List Effect) :
    Accepted bindingID line (past ++ now) := by
  obtain ⟨event, member, rest⟩ := accepted
  refine ⟨event, ?_, rest⟩
  rw [recordedEvents_append]
  exact List.mem_append_left _ member

section Lines

variable {lines : List JournalLine}

theorem length_of_ascii {text : String}
    (ascii : ∀ character ∈ text.toList, character.val ≤ 0x7F) :
    JavaScript.length text = text.toList.length := by
  have units : text.toList.map JavaScript.units =
      text.toList.map fun _ => 1 := by
    apply List.map_congr_left
    intro character member
    have small := ascii character member
    have basic : character.val ≤ 0xFFFF := by
      rw [UInt32.le_iff_toNat_le] at small ⊢
      exact Nat.le_trans small (by decide)
    simp [JavaScript.units, basic]
  simp [JavaScript.length, units]

theorem DistinctCursors.storedCursor_eq
    (cursors : DistinctCursors lines) {line : JournalLine}
    (member : line ∈ lines) :
    storedCursor (some line.cursor) = some line.cursor := by
  have fits : JavaScript.length line.cursor ≤ 2000 := by
    rw [length_of_ascii (cursors.ascii line member)]
    exact cursors.short line member
  simp [storedCursor, JavaScript.slice_of_le fits,
    cursors.not_empty line member]

theorem DistinctCursors.eq_of_cursor_eq
    (cursors : DistinctCursors lines) {first second : JournalLine}
    (firstMember : first ∈ lines) (secondMember : second ∈ lines)
    (same : first.cursor = second.cursor) : first = second :=
  List.inj_on_of_nodup_map cursors.distinct firstMember secondMember same

theorem DistinctCursors.firstLine_eq
    (cursors : DistinctCursors lines) {index : Nat} {line : JournalLine}
    (place : lines[index]? = some line) (first : Nat) :
    firstLine lines line.cursor first = index + 1 := by
  obtain ⟨bound, rfl⟩ := List.getElem?_eq_some_iff.mp place
  have notEmpty := cursors.not_empty _ (List.getElem_mem bound)
  have found : lines.findIdx (fun line =>
      line.cursor = lines[index].cursor) = index := by
    rw [List.findIdx_eq bound]
    refine ⟨by simp, ?_⟩
    intro earlier less
    have distinct := List.nodup_iff_injective_get.mp cursors.distinct
    apply decide_eq_false
    intro same
    have earlierBound : earlier < (lines.map JournalLine.cursor).length := by
      rw [List.length_map]
      omega
    have indexBound : index < (lines.map JournalLine.cursor).length := by
      rw [List.length_map]
      omega
    have equal := @distinct ⟨earlier, earlierBound⟩ ⟨index, indexBound⟩
      (by simpa using same)
    have indices := congrArg Fin.val equal
    change earlier = index at indices
    omega
  rw [firstLine, if_neg notEmpty, found]

end Lines

/-- The events of the binding that carry a cursor are recorded lines. -/
def StoredLines
    (bindingID : String) (lines : List JournalLine)
    (store : ServerAgentStore) (past : List Effect) : Prop :=
  ∀ event ∈ store.events, event.bindingId = bindingID →
    ∀ cursor, event.cursor = some cursor →
      ∃ line ∈ lines, line.cursor = cursor ∧ Accepted bindingID line past

section Panel

variable {bindingID : String} {lines : List JournalLine}
variable {old : List ServerRuntimeEvent} {panel : ServerAgentService}
variable {past : List Effect}

theorem recorded_publish
    (table : Recorded bindingID old panel.store
      (recordedEvents bindingID past))
    (owner type message : String) (commandId cursor : Option String)
    (createdAt : EventTime) :
    Recorded bindingID old
      (publish owner type message commandId cursor createdAt panel).1.store
      (recordedEvents bindingID (past ++
        (publish owner type message commandId cursor
          createdAt panel).2)) := by
  rw [recordedEvents_append]
  exact table.appendEvent
    (fun earlier member => (mem_recordedEvents.mp member).2)
    owner type message commandId cursor createdAt

theorem stored_publish_other
    {owner : String} {cursor : Option String}
    (stored : StoredLines bindingID lines panel.store past)
    (other : owner ≠ bindingID ∨ cursor = none)
    (type message : String) (commandId : Option String)
    (createdAt : EventTime) :
    StoredLines bindingID lines
      (publish owner type message commandId cursor createdAt panel).1.store
      (past ++ (publish owner type message commandId cursor
        createdAt panel).2) := by
  intro event member owned text carried
  have kept : event ∈ panel.store.events := by
    simp only [publish, appendEvent] at member
    split at member
    · exact member
    · have present := (List.mem_filter.mp member).1
      rcases List.mem_append.mp present with earlier | new
      · exact earlier
      · rw [List.mem_singleton.mp new] at owned carried
        rcases other with different | absent
        · exact absurd owned different
        · rw [absent] at carried
          cases carried
  obtain ⟨line, lineMember, cursorEquality, accepted⟩ :=
    stored event kept owned text carried
  exact ⟨line, lineMember, cursorEquality, accepted.mono _⟩

theorem publish_accepts
    (cursors : DistinctCursors lines)
    (stored : StoredLines bindingID lines panel.store past)
    {line : JournalLine} (member : line ∈ lines)
    (type : String) (createdAt : EventTime) :
    Accepted bindingID line
        (past ++ (publish bindingID type line.message none
          (some line.cursor) createdAt panel).2) ∧
      StoredLines bindingID lines
        (publish bindingID type line.message none (some line.cursor)
          createdAt panel).1.store
        (past ++ (publish bindingID type line.message none
          (some line.cursor) createdAt panel).2) := by
  have accepted :
      Accepted bindingID line
        (past ++ (publish bindingID type line.message none
          (some line.cursor) createdAt panel).2) := by
    simp only [publish, appendEvent, cursors.storedCursor_eq member]
    split
    · rename_i taken
      rw [cursorTaken, List.any_eq_true] at taken
      obtain ⟨event, present, matching⟩ := taken
      obtain ⟨owned, carried⟩ := of_decide_eq_true matching
      obtain ⟨other, otherMember, cursorEquality, recorded⟩ :=
        stored event present owned line.cursor carried
      rw [cursors.eq_of_cursor_eq otherMember member cursorEquality]
        at recorded
      exact recorded.mono _
    · refine ⟨_, mem_recordedEvents.mpr ⟨List.mem_append_right _
        List.mem_cons_self, rfl⟩, rfl, rfl⟩
  refine ⟨accepted, ?_⟩
  intro event present owned text carried
  simp only [publish, appendEvent, cursors.storedCursor_eq member] at present
  have earlierOrNew : event ∈ panel.store.events ∨
      text = line.cursor := by
    split at present
    · exact .inl present
    · have listed := (List.mem_filter.mp present).1
      rcases List.mem_append.mp listed with earlier | new
      · exact .inl earlier
      · rw [List.mem_singleton.mp new] at carried
        exact .inr (Option.some.inj carried).symm
  rcases earlierOrNew with earlier | same
  · obtain ⟨other, otherMember, cursorEquality, recorded⟩ :=
      stored event earlier owned text carried
    exact ⟨other, otherMember, cursorEquality, recorded.mono _⟩
  · exact ⟨line, member, same.symm, accepted⟩

end Panel

/-- The lines from where a run of `journalctl` without a cursor began up to
`next` are recorded; that run began at `first` or before. -/
def Covered
    (bindingID : String) (lines : List JournalLine) (starts : List Nat)
    (past : List Effect) (first next : Nat) : Prop :=
  ∃ origin ∈ starts, origin ≤ first ∧
    ∀ index, origin ≤ index → index < next →
      ∀ line, lines[index]? = some line → Accepted bindingID line past

theorem Covered.mono
    {bindingID : String} {lines : List JournalLine}
    {starts more : List Nat} {past : List Effect} {first next : Nat}
    (covered : Covered bindingID lines starts past first next)
    (subset : starts ⊆ more) (now : List Effect) :
    Covered bindingID lines more (past ++ now) first next := by
  obtain ⟨origin, member, le, accepted⟩ := covered
  exact ⟨origin, subset member, le, fun index lower upper line place =>
    (accepted index lower upper line place).mono now⟩

/-- A stream sends a line only when all lines before it are recorded. -/
def StreamCovered
    (bindingID : String) (lines : List JournalLine) (starts : List Nat)
    (past : List Effect) : Stream → Prop
  | .waiting => True
  | .reading next => Covered bindingID lines starts past next next
  | .sending index acked =>
      Covered bindingID lines starts past index index ∧
        (acked = true → ∀ line, lines[index]? = some line →
          Accepted bindingID line past)
  | .acknowledged index =>
      Covered bindingID lines starts past index (index + 1)

theorem StreamCovered.mono
    {bindingID : String} {lines : List JournalLine}
    {starts more : List Nat} {past : List Effect} {stream : Stream}
    (covered : StreamCovered bindingID lines starts past stream)
    (subset : starts ⊆ more) (now : List Effect) :
    StreamCovered bindingID lines more (past ++ now) stream := by
  cases stream with
  | waiting => trivial
  | reading next => exact Covered.mono covered subset now
  | sending index acked =>
      exact ⟨covered.1.mono subset now, fun arrived line place =>
        (covered.2 arrived line place).mono now⟩
  | acknowledged index => exact Covered.mono covered subset now

/-- A cursor that the agent may hold: none, or that of a line up to which the
panel has recorded the journal. -/
def CursorCovered
    (bindingID : String) (lines : List JournalLine) (starts : List Nat)
    (past : List Effect) (cursor : String) : Prop :=
  cursor = "" ∨ ∃ index line, lines[index]? = some line ∧
    line.cursor = cursor ∧
      Covered bindingID lines starts past index (index + 1)

theorem CursorCovered.mono
    {bindingID : String} {lines : List JournalLine}
    {starts more : List Nat} {past : List Effect} {cursor : String}
    (covered : CursorCovered bindingID lines starts past cursor)
    (subset : starts ⊆ more) (now : List Effect) :
    CursorCovered bindingID lines more (past ++ now) cursor := by
  rcases covered with none | ⟨index, line, place, equality, lower⟩
  · exact .inl none
  · exact .inr ⟨index, line, place, equality, lower.mono subset now⟩

/-- The invariant of agent, connection and panel. -/
structure InStep
    (bindingID : String) (lines : List JournalLine)
    (old : List ServerRuntimeEvent) (system : System)
    (past : List Effect) : Prop where
  table : Recorded bindingID old system.panel.store
    (recordedEvents bindingID past)
  stored : StoredLines bindingID lines system.panel.store past
  written : ∀ entry ∈ system.written, ∃ line ∈ lines, entry.2 = line.log
  acks : ∀ entry ∈ system.acks, ∃ line ∈ lines, line.cursor = entry.2 ∧
    Accepted bindingID line past
  disk : CursorCovered bindingID lines system.starts past
    (cursorOf system.files.cursor)
  memory : ∀ process, system.agent = some process →
    CursorCovered bindingID lines system.starts past process.cache.cursor
  streams : ∀ process, system.agent = some process →
    ∀ socket stream, process.streams.lookup socket = some stream →
      StreamCovered bindingID lines system.starts past stream

section Steps

variable {bindingID : String} {lines : List JournalLine}
variable {old : List ServerRuntimeEvent} {system : System}
variable {past : List Effect}
variable {process : AgentProcess} {line : JournalLine} {starts : List Nat}
variable {socket : SocketKey} {index : Nat}

theorem InStep.withStream
    {stream : Stream}
    (inStep : InStep bindingID lines old system past)
    (running : system.agent = some process)
    (covered : StreamCovered bindingID lines system.starts past stream) :
    InStep bindingID lines old (system.withStream process socket stream)
      past :=
  { inStep with
    memory := by
      intro candidate equality
      cases Option.some.inj equality
      exact inStep.memory process running
    streams := by
      intro candidate equality other otherStream lookup
      cases Option.some.inj equality
      by_cases same : other = socket
      · rw [same, AList.lookup_insert] at lookup
        cases lookup
        exact covered
      · rw [AList.lookup_insert_ne same] at lookup
        exact inStep.streams process running other otherStream lookup }

theorem InStep.handled
    {handler : Handler}
    (inStep : InStep bindingID lines old system past)
    (table : Recorded bindingID old (handler system.panel).1.store
      (recordedEvents bindingID (past ++ (handler system.panel).2)))
    (stored : StoredLines bindingID lines (handler system.panel).1.store
      (past ++ (handler system.panel).2))
    (acks : ∀ entry ∈ acknowledgements (handler system.panel).2,
      ∃ line ∈ lines, line.cursor = entry.2 ∧
        Accepted bindingID line (past ++ (handler system.panel).2)) :
    InStep bindingID lines old (system.handled handler).1
      (past ++ (system.handled handler).2) where
  table := table
  stored := stored
  written := inStep.written
  acks entry member := by
    rcases List.mem_append.mp member with earlier | new
    · obtain ⟨line, lineMember, cursor, accepted⟩ :=
        inStep.acks entry earlier
      exact ⟨line, lineMember, cursor, accepted.mono _⟩
    · exact acks entry new
  disk := inStep.disk.mono (List.Subset.refl _) _
  memory process running :=
    (inStep.memory process running).mono (List.Subset.refl _) _
  streams process running socket stream lookup :=
    (inStep.streams process running socket stream lookup).mono
      (List.Subset.refl _) _

theorem log_cases
    (bindingID : String) (environment : Environment) (socket : SocketKey) (line : JournalLine)
    (panel : ServerAgentService) :
    ∃ type createdAt acknowledgement,
      (acknowledgement = [] ∨
        acknowledgement = [Effect.sent socket (.logAck line.cursor)]) ∧
      (log environment socket bindingID (some line.log) panel).1 =
        (publish bindingID type line.message none (some line.cursor)
          createdAt panel).1 ∧
      (log environment socket bindingID (some line.log) panel).2 =
        (publish bindingID type line.message none (some line.cursor)
          createdAt panel).2 ++ acknowledgement := by
  refine ⟨logType line.stream, .given line.createdAt, ?_⟩
  by_cases empty : line.cursor = ""
  · refine ⟨[], .inl rfl, ?_, ?_⟩ <;>
      simp [log, JournalLine.log, Action.andThen, Action.skip, empty]
  · cases thrown : environment.throws socket (.logAck line.cursor) with
    | some problem =>
        refine ⟨[], .inl rfl, ?_, ?_⟩ <;>
          simp [log, JournalLine.log, Action.andThen, Action.skip, empty,
            thrown]
    | none =>
        refine ⟨_, .inr rfl, ?_, ?_⟩ <;>
          simp [log, JournalLine.log, Action.andThen, Action.emit, empty,
            thrown]

theorem acknowledgements_publish
    (owner type message : String) (commandId cursor : Option String)
    (createdAt : EventTime) (panel : ServerAgentService) :
    acknowledgements
      (publish owner type message commandId cursor createdAt panel).2 =
        [] := by
  simp only [publish, acknowledgements]
  rw [List.filterMap_map]
  exact List.filterMap_eq_nil_iff.mpr fun _ _ => rfl

theorem InStep.logged
    (cursors : DistinctCursors lines)
    (inStep : InStep bindingID lines old system past)
    (environment : Environment) (socket : SocketKey)
    (member : line ∈ lines) :
    InStep bindingID lines old
      (system.handled (log environment socket bindingID
        (some line.log))).1
      (past ++ (system.handled (log environment socket bindingID
        (some line.log))).2) := by
  obtain ⟨type, createdAt, acknowledgement, shape, panelEquality,
    effectsEquality⟩ :=
    log_cases bindingID environment socket line system.panel
  have invisible : recordedEvents bindingID acknowledgement = [] := by
    rcases shape with rfl | rfl <;> rfl
  have table := recorded_publish inStep.table bindingID type line.message
    none (some line.cursor) createdAt
  obtain ⟨accepted, stored⟩ :=
    publish_accepts cursors inStep.stored member type createdAt
  apply inStep.handled
  · rw [panelEquality, effectsEquality, ← List.append_assoc,
      recordedEvents_append, invisible, List.append_nil]
    exact table
  · rw [panelEquality, effectsEquality, ← List.append_assoc]
    intro event present owned cursor carried
    obtain ⟨other, otherMember, cursorEquality, recorded⟩ :=
      stored event present owned cursor carried
    exact ⟨other, otherMember, cursorEquality, recorded.mono _⟩
  · intro entry acknowledged
    rw [effectsEquality] at acknowledged ⊢
    rw [acknowledgements, List.filterMap_append, List.mem_append]
      at acknowledged
    rcases acknowledged with published | sent
    · have none := acknowledgements_publish bindingID type line.message none
        (some line.cursor) createdAt system.panel
      rw [acknowledgements] at none
      rw [none] at published
      cases published
    · refine ⟨line, member, ?_, ?_⟩
      · rcases shape with rfl | rfl
        · cases sent
        · rw [List.mem_singleton.mp sent]
      · rw [← List.append_assoc]
        exact accepted.mono _

theorem InStep.published
    {owner : String} {cursor : Option String}
    (inStep : InStep bindingID lines old system past)
    (other : owner ≠ bindingID ∨ cursor = none)
    (type message : String) (commandId : Option String)
    (createdAt : EventTime) :
    InStep bindingID lines old
      (system.handled (publish owner type message commandId cursor
        createdAt)).1
      (past ++ (system.handled (publish owner type message commandId cursor
        createdAt)).2) := by
  apply inStep.handled
  · exact recorded_publish inStep.table owner type message commandId cursor
      createdAt
  · exact stored_publish_other inStep.stored other type message commandId
      createdAt
  · rw [acknowledgements_publish]
    exact fun _ member => absurd member List.not_mem_nil

/-! ## Steps of a stream -/

theorem CursorCovered.of_covered
    (place : lines[index]? = some line)
    (covered : Covered bindingID lines starts past index (index + 1)) :
    CursorCovered bindingID lines starts past line.cursor :=
  .inr ⟨index, line, place, rfl, covered⟩

theorem Covered.extend
    (covered : Covered bindingID lines starts past index index)
    (place : lines[index]? = some line)
    (accepted : Accepted bindingID line past) :
    Covered bindingID lines starts past index (index + 1) := by
  obtain ⟨origin, member, le, earlier⟩ := covered
  refine ⟨origin, member, le, ?_⟩
  intro other lower upper otherLine otherPlace
  by_cases last : other = index
  · subst last
    rw [place] at otherPlace
    cases otherPlace
    exact accepted
  · exact earlier other lower (by omega) otherLine otherPlace

theorem Covered.shift
    (covered : Covered bindingID lines starts past index (index + 1)) :
    Covered bindingID lines starts past (index + 1) (index + 1) := by
  obtain ⟨origin, member, le, accepted⟩ := covered
  exact ⟨origin, member, by omega, accepted⟩

theorem Covered.begin
    {first : Nat} (member : first ∈ starts) :
    Covered bindingID lines starts past first first := by
  refine ⟨first, member, Nat.le_refl first, ?_⟩
  intro index lower upper
  omega

theorem InStep.journalctlStarts
    (cursors : DistinctCursors lines)
    (inStep : InStep bindingID lines old system past)
    (running : system.agent = some process) (first : Nat) :
    InStep bindingID lines old
      { system.withStream process socket
          (.reading (firstLine lines process.cache.cursor first)) with
        starts :=
          if process.cache.cursor = "" then first :: system.starts
          else system.starts } past := by
  by_cases empty : process.cache.cursor = ""
  · have grown : InStep bindingID lines old
        { system with starts := first :: system.starts } past :=
      { inStep with
        disk := by
          simpa using inStep.disk.mono (List.subset_cons_self first _) []
        memory := by
          intro candidate equality
          simpa using (inStep.memory candidate equality).mono
            (List.subset_cons_self first _) []
        streams := by
          intro candidate equality other stream lookup
          simpa using (inStep.streams candidate equality other stream
            lookup).mono (List.subset_cons_self first _) [] }
    have covered : Covered bindingID lines (first :: system.starts) past
        first first :=
      Covered.begin List.mem_cons_self
    have begun : InStep bindingID lines old
        (({ system with starts := first :: system.starts } :
          System).withStream process socket (.reading first)) past :=
      grown.withStream running covered
    simpa [System.withStream, firstLine, empty] using begun
  · have covered := inStep.memory process running
    rcases covered with none | ⟨index, line, place, equality, upTo⟩
    · exact absurd none empty
    · have next := cursors.firstLine_eq place first
      have resumed : InStep bindingID lines old
          (system.withStream process socket (.reading (index + 1))) past :=
        inStep.withStream running upTo.shift
      rw [equality] at next
      rw [if_neg empty, next]
      exact resumed

theorem InStep.saveCursor
    (inStep : InStep bindingID lines old system past)
    (running : system.agent = some process)
    (place : lines[index]? = some line)
    (covered : Covered bindingID lines system.starts past index (index + 1))
    (outcome : WriteOutcome) :
    InStep bindingID lines old
      (system.saveCursor process socket (index + 1) line.cursor outcome)
      past := by
  have either := saveJournalCursor_cursor process.cache system.files.cursor
    line.cursor outcome
  have new := CursorCovered.of_covered place covered
  unfold System.saveCursor
  rcases result : process.cache.saveJournalCursor system.files.cursor
      line.cursor outcome with ⟨cache, disk, error⟩
  rw [result] at either
  refine { inStep with disk := ?_, memory := ?_, streams := ?_ }
  · rcases either.2 with same | changed
    · change CursorCovered bindingID lines system.starts past (cursorOf disk)
      rw [same]
      exact inStep.disk
    · change CursorCovered bindingID lines system.starts past (cursorOf disk)
      rw [changed]
      exact new
  · intro candidate equality
    cases Option.some.inj equality
    rcases either.1 with same | changed
    · change CursorCovered bindingID lines system.starts past cache.cursor
      rw [same]
      exact inStep.memory process running
    · change CursorCovered bindingID lines system.starts past cache.cursor
      rw [changed]
      exact new
  · intro candidate equality other stream lookup
    cases Option.some.inj equality
    by_cases same : other = socket
    · rw [same, AList.lookup_insert] at lookup
      cases lookup
      cases error with
      | none => exact covered.shift
      | some problem => trivial
    · rw [AList.lookup_insert_ne same] at lookup
      exact inStep.streams process running other stream lookup

theorem InStep.streamStep
    {event : JournalEvent} {next : System}
    (cursors : DistinctCursors lines)
    (inStep : InStep bindingID lines old system past)
    (running : system.agent = some process)
    (stepEquality : streamStep lines system process event = some next) :
    InStep bindingID lines old next past := by
  cases event with
  | connects socket =>
      cases stepEquality
      exact inStep.withStream running trivial
  | journalctlStarts socket first =>
      simp only [Journal.streamStep] at stepEquality
      split at stepEquality
      · cases stepEquality
        exact inStep.journalctlStarts cursors running first
      · cases stepEquality
  | lineRead socket =>
      simp only [Journal.streamStep] at stepEquality
      split at stepEquality
      · rename_i index lookup
        split at stepEquality
        · cases stepEquality
        · rename_i line place
          cases stepEquality
          have member := List.mem_of_getElem? place
          have covered := inStep.streams process running socket _ lookup
          rw [if_neg (cursors.not_empty line member)]
          have sending : InStep bindingID lines old
              (system.withStream process socket (.sending index false))
              past :=
            inStep.withStream running ⟨covered, (by simp)⟩
          exact
            { sending with
              written := by
                intro entry written
                rcases List.mem_cons.mp written with rfl | earlier
                · exact ⟨line, member, rfl⟩
                · exact inStep.written entry earlier }
      · cases stepEquality
  | ackArrives socket cursor =>
      simp only [Journal.streamStep] at stepEquality
      split at stepEquality
      · rename_i index acked lookup
        split at stepEquality
        · rename_i arrived
          cases stepEquality
          have covered := inStep.streams process running socket _ lookup
          apply inStep.withStream running
          refine ⟨covered.1, fun _ line place => ?_⟩
          obtain ⟨other, otherMember, cursorEquality, accepted⟩ :=
            inStep.acks _ arrived.1
          have same : line.cursor = cursor := by
            simpa [place] using arrived.2
          have equal := cursors.eq_of_cursor_eq otherMember
            (List.mem_of_getElem? place) (cursorEquality.trans same.symm)
          rw [← equal]
          exact accepted
        · cases stepEquality
      · cases stepEquality
  | sendReturns socket =>
      simp only [Journal.streamStep] at stepEquality
      split at stepEquality
      · rename_i index lookup
        cases stepEquality
        obtain ⟨covered, accepted⟩ :=
          inStep.streams process running socket _ lookup
        apply inStep.withStream running
        cases place : lines[index]? with
        | some line => exact covered.extend place (accepted rfl line place)
        | none =>
            obtain ⟨origin, member, le, earlier⟩ := covered
            refine ⟨origin, member, le, ?_⟩
            intro other lower upper otherLine otherPlace
            by_cases last : other = index
            · rw [last, place] at otherPlace
              cases otherPlace
            · exact earlier other lower (by omega) otherLine otherPlace
      · cases stepEquality
  | cursorSaved socket outcome =>
      simp only [Journal.streamStep] at stepEquality
      split at stepEquality
      · rename_i index lookup
        split at stepEquality
        · cases stepEquality
        · rename_i line place
          cases stepEquality
          have covered := inStep.streams process running socket _ lookup
          exact inStep.saveCursor running place covered outcome
      · cases stepEquality
  | streamFails socket =>
      simp only [Journal.streamStep] at stepEquality
      split at stepEquality
      · cases stepEquality
        exact inStep.withStream running trivial
      · cases stepEquality
        exact inStep.withStream running trivial
      · cases stepEquality
  | streamEnds socket =>
      simp only [Journal.streamStep] at stepEquality
      split at stepEquality
      · cases stepEquality
        exact
          { inStep with
            memory := by
              intro candidate equality
              cases Option.some.inj equality
              exact inStep.memory process running
            streams := by
              intro candidate equality other stream lookup
              cases Option.some.inj equality
              by_cases same : other = socket
              · rw [same, AList.lookup_erase] at lookup
                cases lookup
              · rw [AList.lookup_erase_ne same] at lookup
                exact inStep.streams process running other stream lookup }
      · cases stepEquality
  | agentStarts | agentStops | panelLogs | panelPublishes | panelRestarts =>
      cases stepEquality

theorem InStep.startAgent
    (inStep : InStep bindingID lines old system past)
    (config : BindingConfig) (now : String)
    (commandsOutcome cursorOutcome : WriteOutcome) :
    InStep bindingID lines old
      (system.startAgent config now commandsOutcome cursorOutcome)
      past := by
  obtain ⟨memory, disk⟩ := openCommandResultCache_cursor config.paths
    config.id config.limit system.files now commandsOutcome cursorOutcome
  unfold System.startAgent
  rcases result : openCommandResultCache config.paths config.id config.limit
      system.files now commandsOutcome cursorOutcome with ⟨opened, files⟩
  rw [result] at memory disk
  refine { inStep with disk := ?_, memory := ?_, streams := ?_ }
  · change CursorCovered bindingID lines system.starts past
      (cursorOf files.cursor)
    rw [disk]
    exact inStep.disk
  · intro process equality
    obtain ⟨cache, present, rfl⟩ := Option.map_eq_some_iff.mp equality
    change CursorCovered bindingID lines system.starts past cache.cursor
    rw [memory cache present]
    exact inStep.disk
  · intro process equality socket stream lookup
    obtain ⟨cache, present, rfl⟩ := Option.map_eq_some_iff.mp equality
    cases lookup

theorem InStep.step
    {config : BindingConfig} {event : JournalEvent} {next : System}
    {now : List Effect}
    (cursors : DistinctCursors lines)
    (inStep : InStep config.id lines old system past)
    (stepEquality : step config lines system event = some (next, now)) :
    InStep config.id lines old next (past ++ now) := by
  cases event with
  | panelLogs environment socket line =>
      simp only [Journal.step] at stepEquality
      split at stepEquality
      · rename_i arrived
        cases stepEquality
        obtain ⟨source, member, rfl⟩ := inStep.written _ arrived
        exact inStep.logged cursors environment socket member
      · cases stepEquality
  | panelPublishes owner type message commandId cursor createdAt =>
      simp only [Journal.step] at stepEquality
      split at stepEquality
      · cases stepEquality
      · rename_i other
        cases stepEquality
        have apart : owner ≠ config.id ∨ cursor = none := by
          by_cases same : owner = config.id
          · right
            by_contra present
            exact other ⟨same, present⟩
          · exact .inl same
        exact inStep.published apart type message commandId createdAt
  | panelRestarts =>
      cases stepEquality
      rw [List.append_nil]
      exact
        { inStep with
          table := ⟨inStep.table.increasing, inStep.table.bounded,
            inStep.table.suffix, inStep.table.complete, inStep.table.apart⟩
          stored := inStep.stored }
  | agentStops =>
      cases stepEquality
      rw [List.append_nil]
      exact { inStep with memory := by simp, streams := by simp }
  | agentStarts time commandsOutcome cursorOutcome =>
      simp only [Journal.step] at stepEquality
      split at stepEquality
      · cases stepEquality
      · cases stepEquality
        rw [List.append_nil]
        exact inStep.startAgent config time commandsOutcome cursorOutcome
  | connects _ | journalctlStarts _ _ | lineRead _ | ackArrives _ _
  | sendReturns _ | cursorSaved _ _ | streamFails _ | streamEnds _ =>
      simp only [Journal.step] at stepEquality
      split at stepEquality
      · cases stepEquality
      · rename_i process running
        obtain ⟨reached, found, same⟩ :=
          Option.map_eq_some_iff.mp stepEquality
        cases same
        rw [List.append_nil]
        exact inStep.streamStep cursors running found

end Steps

/-- An event table in order that has no line of the binding's journal yet. -/
structure UnseenJournal
    (bindingID : String) (store : ServerAgentStore) : Prop where
  increasing : store.events.Pairwise fun earlier later =>
    earlier.sequence < later.sequence
  bounded : ∀ event ∈ store.events, event.sequence ≤ store.sequence
  unseen : ∀ event ∈ store.events, event.bindingId = bindingID →
    event.cursor = none

theorem inStep_start
    {config : BindingConfig} {lines : List JournalLine}
    {store : ServerAgentStore}
    (unseen : UnseenJournal config.id store)
    (commands : Option PersistedCommandState) :
    InStep config.id lines (rowsOf store.events config.id)
      (System.start store commands) [] where
  table :=
    { increasing := unseen.increasing
      bounded := unseen.bounded
      suffix := ⟨[], (List.append_nil _).symm⟩
      complete := .inl (List.append_nil _).symm
      apart := by
        intro before first middle second after split
        cases before <;> cases split }
  stored := by
    intro event member owned cursor carried
    rw [unseen.unseen event member owned] at carried
    cases carried
  written := nofun
  acks := nofun
  disk := .inl rfl
  memory := nofun
  streams := nofun

/-- The agent has the cursor on disk or, while it runs, in memory. -/
def System.Holds (system : System) (cursor : String) : Prop :=
  cursorOf system.files.cursor = cursor ∨
    ∃ process, system.agent = some process ∧ process.cache.cursor = cursor

/-- A cursor that the agent holds vouches for every line since the start of the
stream, and the panel records a line again only when two thousand newer events
have displaced its first one.  The stream starts where a run of `journalctl`
without a cursor begins, so at one line when all such runs begin there. -/
theorem journal_exactly_once
    (config : BindingConfig) (lines : List JournalLine)
    (store : ServerAgentStore) (commands : Option PersistedCommandState)
    (cursors : DistinctCursors lines)
    (unseen : UnseenJournal config.id store)
    (events : List JournalEvent) (final : System) (effects : List Effect)
    (run : execute (step config lines) (System.start store commands) events =
      some (final, effects)) :
    (∀ index line, lines[index]? = some line → final.Holds line.cursor →
      ∃ origin ∈ final.starts, origin ≤ index ∧
        ∀ earlier, origin ≤ earlier → earlier ≤ index →
          ∀ other, lines[earlier]? = some other →
            Accepted config.id other effects) ∧
      CursorsApart (recordedEvents config.id effects) := by
  have inStep : InStep config.id lines (rowsOf store.events config.id) final
      effects :=
    execute_induction
      (motive := InStep config.id lines (rowsOf store.events config.id))
      (fun _ _ _ _ _ holds stepEquality => holds.step cursors stepEquality)
      (inStep_start unseen commands) run
  refine ⟨?_, inStep.table.apart⟩
  intro index line place held
  have covered : CursorCovered config.id lines final.starts effects
      line.cursor := by
    rcases held with onDisk | ⟨process, running, inMemory⟩
    · rw [← onDisk]
      exact inStep.disk
    · rw [← inMemory]
      exact inStep.memory process running
  have member := List.mem_of_getElem? place
  rcases covered with none | ⟨other, same, otherPlace, equality, upTo⟩
  · exact absurd none (cursors.not_empty line member)
  · have index_eq : other = index := by
      have next := cursors.firstLine_eq place 0
      rw [← equality, cursors.firstLine_eq otherPlace] at next
      omega
    subst index_eq
    obtain ⟨origin, started, le, accepted⟩ := upTo
    exact ⟨origin, started, le, fun earlier lower upper =>
      accepted earlier lower (by omega)⟩

def twoLines : List JournalLine :=
  [⟨"s=1", "2026-01-01T00:00:00Z", "stdout", "Starting"⟩,
    ⟨"s=2", "2026-01-01T00:00:01Z", "stdout", "Done"⟩]

/-- The acknowledgement of the first line is lost with its connection; the next
session sends the line again, and the panel ignores and acknowledges it. -/
def lostAcknowledgement : List JournalEvent :=
  [.agentStarts "now" .written .written,
    .connects 1, .journalctlStarts 1 0, .lineRead 1,
    .panelLogs (steadyEnvironment 10) 1 (twoLines[0].log),
    .streamFails 1, .streamEnds 1,
    .connects 2, .journalctlStarts 2 0, .lineRead 2,
    .panelLogs (steadyEnvironment 20) 2 (twoLines[0].log),
    .ackArrives 2 "s=1", .sendReturns 2,
    .cursorSaved 2 (.failed true "sync"),
    .journalctlStarts 2 0, .lineRead 2, .streamFails 2, .agentStops]

def survivalConfig : BindingConfig :=
  ⟨"survival", "gravit-survival.service", ⟨"/state", "digest"⟩, 128⟩

theorem journal_exactly_once_lost_acknowledgement :
    ∃ final effects,
      execute (step survivalConfig twoLines)
          (System.start ServerAgentStore.empty none) lostAcknowledgement =
            some (final, effects) ∧
        cursorOf final.files.cursor = "s=1" ∧
          Accepted "survival" twoLines[0] effects ∧
            CursorsApart (recordedEvents "survival" effects) := by
  have held :
      (execute (step survivalConfig twoLines)
        (System.start ServerAgentStore.empty none) lostAcknowledgement).map
          (fun result => (cursorOf result.1.files.cursor, result.1.starts)) =
        some ("s=1", [0, 0, 0]) := by
    decide +kernel
  obtain ⟨⟨final, effects⟩, run, equality⟩ := Option.map_eq_some_iff.mp held
  obtain ⟨cursor, starts⟩ := Prod.mk.inj equality
  have exactly := journal_exactly_once survivalConfig twoLines
    ServerAgentStore.empty none
    { distinct := by simp [twoLines]
      not_empty := by simp [twoLines]
      short := by simp [twoLines]
      ascii := by simp [twoLines] }
    { increasing := List.Pairwise.nil
      bounded := nofun
      unseen := nofun }
    lostAcknowledgement final effects run
  obtain ⟨origin, _, le, accepted⟩ :=
    exactly.1 0 twoLines[0] rfl (.inl cursor)
  exact ⟨final, effects, run, cursor, accepted 0 le (Nat.le_refl 0) _ rfl,
    exactly.2⟩

end GravitPanel.Journal
