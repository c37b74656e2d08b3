import GravitPanel.Core.Execution
import GravitPanel.Servers.FilesystemRequests

/-!
# Every request is settled once

The pending requests are accounted for by what has happened: a promise is
pending exactly while it is unsettled, it is resolved only by an answer on the
socket and for the binding it was sent on, and a timer or the close of the
registered socket settles it.
-/

namespace GravitPanel.Servers

open GravitPanel.Execution
open GravitPanel.History
open ServerAgentStore ServerAgentService

abbrev PendingRequests := List (String × PendingFilesystemRequest)

/-- The pending requests are the requested and unsettled ones. -/
structure Accounted
    (pending : PendingRequests) (trace : List RequestEvent) : Prop where
  fresh : (requestedIds trace).Nodup
  once : (settledIds trace).Nodup
  known : ∀ id ∈ settledIds trace, id ∈ requestedIds trace
  keys : (pending.map Prod.fst).Nodup
  unsettled : ∀ id request, (id, request) ∈ pending ↔
    .requested id request.bindingId request.socketKey ∈ trace ∧
      id ∉ settledIds trace
  sourced : ∀ before after id result,
    trace = before ++ .settled id (.ok result) :: after →
      ∃ earlier bindingId socket,
        before =
            earlier ++ [.response socket (some bindingId) id true result] ∧
          .requested id bindingId socket ∈ earlier

/-- A timer that fired and a registered socket that was closed leave no
earlier request of theirs unsettled. -/
structure SettledInTime (trace : List RequestEvent) : Prop where
  timed : ∀ before after id bindingId socket,
    trace = before ++ .timedOut id :: after →
      .requested id bindingId socket ∈ before → id ∈ settledIds trace
  closed : ∀ before after socket registeredFor id bindingId,
    trace = before ++ .closed socket registeredFor :: after →
      .requested id bindingId socket ∈ before →
        bindingId ∈ registeredFor → id ∈ settledIds trace

theorem accounted_nil : Accounted [] [] where
  fresh := .nil
  once := .nil
  known := by simp [settledIds]
  keys := .nil
  unsettled := by simp
  sourced := by simp

theorem settledInTime_nil : SettledInTime [] := ⟨by simp, by simp⟩

theorem mem_of_lookup_request
    {pending : PendingRequests} {id : String}
    {request : PendingFilesystemRequest}
    (found : pending.lookup id = some request) : (id, request) ∈ pending := by
  obtain ⟨before, after, rfl, _⟩ := List.lookup_eq_some_iff.mp found
  simp

theorem mem_requestedIds {trace : List RequestEvent} {id : String} :
    id ∈ requestedIds trace ↔
      ∃ bindingId socket, .requested id bindingId socket ∈ trace := by
  simp only [requestedIds, List.mem_filterMap]
  constructor
  · rintro ⟨event, member, requests⟩
    cases event with
    | requested other bindingId socket =>
        cases requests
        exact ⟨bindingId, socket, member⟩
    | _ => cases requests
  · rintro ⟨bindingId, socket, member⟩
    exact ⟨_, member, rfl⟩

namespace Accounted

variable {pending : PendingRequests} {trace : List RequestEvent}

theorem pending_iff (accounted : Accounted pending trace) (id : String) :
    id ∈ pending.map Prod.fst ↔
      id ∈ requestedIds trace ∧ id ∉ settledIds trace := by
  rw [List.mem_map, mem_requestedIds]
  constructor
  · rintro ⟨⟨id, request⟩, member, rfl⟩
    obtain ⟨requested, open_⟩ := (accounted.unsettled id request).mp member
    exact ⟨⟨_, _, requested⟩, open_⟩
  · rintro ⟨⟨bindingId, socket, requested⟩, open_⟩
    exact ⟨(id, ⟨bindingId, socket⟩),
      (accounted.unsettled id ⟨bindingId, socket⟩).mpr ⟨requested, open_⟩,
      rfl⟩

theorem note {event : RequestEvent} (accounted : Accounted pending trace)
    (notRequest : event.requestedId = none)
    (notSettled : event.settledId = none) :
    Accounted pending (trace ++ [event]) := by
  have requests : requestedIds (trace ++ [event]) = requestedIds trace := by
    simp [requestedIds, notRequest]
  have settles : settledIds (trace ++ [event]) = settledIds trace := by
    simp [settledIds, notSettled]
  refine ⟨requests ▸ accounted.fresh, settles ▸ accounted.once, ?_,
    accounted.keys, ?_, ?_⟩
  · rw [requests, settles]
    exact accounted.known
  · intro id request
    rw [settles, accounted.unsettled, List.mem_append, List.mem_singleton]
    constructor
    · rintro ⟨requested, open_⟩
      exact ⟨.inl requested, open_⟩
    · rintro ⟨requested | rfl, open_⟩
      · exact ⟨requested, open_⟩
      · cases notRequest
  · intro before after id result split
    rcases append_split split with ⟨rest, old⟩ | ⟨earlier, _, new⟩
    · exact accounted.sourced before rest id result old
    · have member : .settled id (.ok result) ∈ [event] := by
        rw [new]
        simp
      rw [← List.mem_singleton.mp member] at notSettled
      cases notSettled

theorem request {id bindingId : String} {socket : SocketKey}
    (accounted : Accounted pending trace)
    (unused : id ∉ requestedIds trace) :
    Accounted (pending ++ [(id, ⟨bindingId, socket⟩)])
      (trace ++ [.requested id bindingId socket]) := by
  have requests :
      requestedIds (trace ++ [.requested id bindingId socket]) =
        requestedIds trace ++ [id] := by
    simp [requestedIds, RequestEvent.requestedId]
  have settles :
      settledIds (trace ++ [.requested id bindingId socket]) =
        settledIds trace := by
    simp [settledIds, RequestEvent.settledId]
  have unsettled : id ∉ settledIds trace :=
    fun settled => unused (accounted.known id settled)
  refine ⟨?_, settles ▸ accounted.once, ?_, ?_, ?_, ?_⟩
  · have distinct := accounted.fresh.concat unused
    rw [List.concat_eq_append] at distinct
    rw [requests]
    exact distinct
  · rw [requests, settles]
    intro other settled
    exact List.mem_append_left _ (accounted.known other settled)
  · have absent : id ∉ pending.map Prod.fst := by
      rw [accounted.pending_iff]
      exact fun both => unused both.1
    have distinct := accounted.keys.concat absent
    rw [List.concat_eq_append] at distinct
    rw [List.map_append]
    exact distinct
  · intro other found
    rw [settles, List.mem_append, List.mem_append, accounted.unsettled,
      List.mem_singleton, List.mem_singleton]
    constructor
    · rintro (⟨requested, open_⟩ | new)
      · exact ⟨.inl requested, open_⟩
      · cases new
        exact ⟨.inr rfl, unsettled⟩
    · rintro ⟨requested | new, open_⟩
      · exact .inl ⟨requested, open_⟩
      · cases new
        exact .inr rfl
  · intro before after other result split
    rcases append_split split with ⟨rest, old⟩ | ⟨earlier, _, new⟩
    · exact accounted.sourced before rest other result old
    · have member :
          .settled other (.ok result) ∈
            [RequestEvent.requested id bindingId socket] := by
        rw [new]
        simp
      cases List.mem_singleton.mp member

theorem settle
    {chosen : String × PendingFilesystemRequest → Bool}
    {result : String × PendingFilesystemRequest → Except String String}
    (accounted : Accounted pending trace)
    (source : ∀ earlier later id value,
      ((pending.filter chosen).map fun entry =>
          RequestEvent.settled entry.1 (result entry)) =
        earlier ++ .settled id (.ok value) :: later →
          ∃ before bindingId socket,
            trace ++ earlier =
                before ++
                  [.response socket (some bindingId) id true value] ∧
              .requested id bindingId socket ∈ before) :
    Accounted (pending.filter fun entry => !chosen entry)
      (trace ++ (pending.filter chosen).map fun entry =>
        .settled entry.1 (result entry)) := by
  have requests : ∀ entries : PendingRequests,
      requestedIds (entries.map fun entry =>
        .settled entry.1 (result entry)) = [] := by
    intro entries
    simp [requestedIds, RequestEvent.requestedId]
  have settles : ∀ entries : PendingRequests,
      settledIds (entries.map fun entry =>
        .settled entry.1 (result entry)) = entries.map Prod.fst := by
    intro entries
    rw [settledIds, List.filterMap_map]
    exact congrFun List.filterMap_eq_map _
  refine ⟨?_, ?_, ?_, ?_, ?_, ?_⟩
  · rw [requestedIds_append, requests, List.append_nil]
    exact accounted.fresh
  · rw [settledIds_append, settles]
    refine List.nodup_append.mpr ⟨accounted.once, ?_, ?_⟩
    · exact accounted.keys.sublist
        (List.filter_sublist.map Prod.fst)
    · intro id settled other member same
      subst same
      obtain ⟨entry, listed, rfl⟩ := List.mem_map.mp member
      have present := List.mem_of_mem_filter listed
      exact ((accounted.unsettled entry.1 entry.2).mp present).2 settled
  · intro id settled
    rw [requestedIds_append, requests, List.append_nil]
    rw [settledIds_append, settles, List.mem_append] at settled
    rcases settled with old | new
    · exact accounted.known id old
    · obtain ⟨entry, listed, rfl⟩ := List.mem_map.mp new
      have member : entry.1 ∈ pending.map Prod.fst :=
        List.mem_map_of_mem (List.mem_of_mem_filter listed)
      exact ((accounted.pending_iff entry.1).mp member).1
  · exact accounted.keys.sublist (List.filter_sublist.map Prod.fst)
  · intro id request
    rw [settledIds_append, settles, List.mem_filter, List.mem_append,
      List.mem_append, not_or, accounted.unsettled]
    have notNew :
        RequestEvent.requested id request.bindingId request.socketKey ∉
          (pending.filter chosen).map fun entry =>
            .settled entry.1 (result entry) := by
      intro member
      obtain ⟨entry, _, equality⟩ := List.mem_map.mp member
      cases equality
    constructor
    · rintro ⟨⟨requested, open_⟩, kept⟩
      refine ⟨.inl requested, open_, ?_⟩
      intro member
      obtain ⟨entry, listed, same⟩ := List.mem_map.mp member
      obtain ⟨present, picked⟩ := List.mem_filter.mp listed
      have equality : entry = (id, request) :=
        List.inj_on_of_nodup_map accounted.keys present
          ((accounted.unsettled id request).mpr ⟨requested, open_⟩) same
      rw [← equality, picked] at kept
      cases kept
    · rintro ⟨requested | new, open_, unpicked⟩
      · refine ⟨⟨requested, open_⟩, ?_⟩
        by_contra picked
        rw [Bool.not_eq_true', Bool.not_eq_false] at picked
        apply unpicked
        refine List.mem_map.mpr ⟨(id, request), ?_, rfl⟩
        exact List.mem_filter.mpr
          ⟨(accounted.unsettled id request).mpr ⟨requested, open_⟩, picked⟩
      · exact absurd new notNew
  · intro before after id value split
    rcases append_split split with ⟨rest, old⟩ | ⟨earlier, rfl, new⟩
    · exact accounted.sourced before rest id value old
    · exact source earlier after id value new

theorem reject
    {chosen : String × PendingFilesystemRequest → Bool} {error : String}
    (accounted : Accounted pending trace) :
    Accounted (pending.filter fun entry => !chosen entry)
      (trace ++ (pending.filter chosen).map fun entry =>
        .settled entry.1 (.error error)) := by
  refine accounted.settle ?_
  intro earlier later id value shape
  have member :
      RequestEvent.settled id (.ok value) ∈
        (pending.filter chosen).map fun entry =>
          RequestEvent.settled entry.1 (.error error) := by
    rw [shape]
    simp
  obtain ⟨entry, _, equality⟩ := List.mem_map.mp member
  cases equality

theorem disconnect (accounted : Accounted pending trace)
    (socket : SocketKey) :
    Accounted (pending.filter fun entry => entry.2.socketKey ≠ socket)
      (trace ++ disconnected pending socket) := by
  have rejected :
      Accounted
        (pending.filter fun entry => !decide (entry.2.socketKey = socket))
        (trace ++ (pending.filter fun entry =>
          decide (entry.2.socketKey = socket)).map fun entry =>
            .settled entry.1 (.error
              "Host agent disconnected during filesystem request")) :=
    accounted.reject
  simpa only [decide_not, disconnected] using rejected

theorem filter_id {id : String} {request : PendingFilesystemRequest}
    (accounted : Accounted pending trace)
    (found : pending.lookup id = some request) :
    pending.filter (fun entry => entry.1 = id) = [(id, request)] := by
  obtain ⟨before, after, shape, others⟩ := List.lookup_eq_some_iff.mp found
  have keys := accounted.keys
  subst shape
  rw [List.map_append, List.map_cons, List.nodup_append,
    List.nodup_cons] at keys
  have early : before.filter (fun entry => entry.1 = id) = [] := by
    rw [List.filter_eq_nil_iff]
    intro entry member same
    have different := others entry member
    rw [of_decide_eq_true same, bne_self_eq_false] at different
    cases different
  have late : after.filter (fun entry => entry.1 = id) = [] := by
    rw [List.filter_eq_nil_iff]
    intro entry member same
    apply keys.2.1.1
    exact List.mem_map.mpr ⟨entry, member, of_decide_eq_true same⟩
  rw [List.filter_append, List.filter_cons, early, late]
  simp

theorem settle_id {id : String} {request : PendingFilesystemRequest}
    {value : Except String String}
    (accounted : Accounted pending trace)
    (found : pending.lookup id = some request)
    (source : ∀ result, value = .ok result →
      ∃ before,
        trace = before ++
            [.response request.socketKey (some request.bindingId) id true
              result] ∧
          .requested id request.bindingId request.socketKey ∈ before) :
    Accounted (pending.filter fun entry => entry.1 ≠ id)
      (trace ++ [.settled id value]) := by
  have only := accounted.filter_id found
  have settled :
      Accounted (pending.filter fun entry => !decide (entry.1 = id))
        (trace ++ (pending.filter fun entry => decide (entry.1 = id)).map
          fun entry => .settled entry.1 value) := by
    refine accounted.settle ?_
    intro earlier later other result shape
    rw [only] at shape
    cases earlier with
    | nil =>
        injection shape with headEquality _
        cases headEquality
        obtain ⟨before, split, requested⟩ := source result rfl
        exact ⟨before, request.bindingId, request.socketKey,
          by simpa using split, requested⟩
    | cons head rest =>
        injection shape with _ restEquality
        simp at restEquality
  rw [only] at settled
  simpa only [decide_not, List.map_cons, List.map_nil] using settled

end Accounted

/-! ## Timers and closes -/

def RequestEvent.urges : RequestEvent → Bool
  | .timedOut _ => true
  | .closed _ _ => true
  | _ => false

namespace SettledInTime

variable {trace more : List RequestEvent}

theorem append
    (inTime : SettledInTime trace) (arrival : List RequestEvent)
    (calm : ∀ event ∈ more, event.urges = false)
    (timed : ∀ id bindingId socket, arrival = [.timedOut id] →
      .requested id bindingId socket ∈ trace →
        id ∈ settledIds (trace ++ arrival ++ more))
    (closed : ∀ socket registeredFor id bindingId,
      arrival = [.closed socket registeredFor] →
        .requested id bindingId socket ∈ trace →
          bindingId ∈ registeredFor →
            id ∈ settledIds (trace ++ arrival ++ more))
    (single : arrival.length ≤ 1) :
    SettledInTime (trace ++ arrival ++ more) := by
  have grows : ∀ id, id ∈ settledIds trace →
      id ∈ settledIds (trace ++ arrival ++ more) := by
    intro id settled
    rw [List.append_assoc, settledIds_append]
    exact List.mem_append_left _ settled
  have places : ∀ before after event,
      trace ++ arrival ++ more = before ++ event :: after →
        event.urges = true →
          (∃ rest, trace = before ++ event :: rest) ∨
            before = trace ∧ arrival = [event] := by
    intro before after event split urges
    rw [List.append_assoc] at split
    rcases append_split split with old | ⟨earlier, rfl, new⟩
    · exact .inl old
    · rcases append_split new with ⟨rest, shape⟩ | ⟨others, _, late⟩
      · subst shape
        rw [List.length_append, List.length_cons] at single
        have empty : earlier = [] := List.length_eq_zero_iff.mp (by omega)
        have done : rest = [] := List.length_eq_zero_iff.mp (by omega)
        subst empty done
        exact .inr ⟨List.append_nil trace, rfl⟩
      · have member : event ∈ more := by
          rw [late]
          simp
        rw [calm event member] at urges
        cases urges
  refine ⟨?_, ?_⟩
  · intro before after id bindingId socket split requested
    rcases places before after _ split rfl with ⟨rest, old⟩ | ⟨rfl, now⟩
    · exact grows id
        (inTime.timed before rest id bindingId socket old requested)
    · exact timed id bindingId socket now requested
  · intro before after socket registeredFor id bindingId split requested
      registered
    rcases places before after _ split rfl with ⟨rest, old⟩ | ⟨rfl, now⟩
    · exact grows id
        (inTime.closed before rest socket registeredFor id bindingId old
          requested registered)
    · exact closed socket registeredFor id bindingId now requested registered

theorem calmly
    (inTime : SettledInTime trace) (arrival : List RequestEvent)
    (calm : ∀ event ∈ more, event.urges = false)
    (single : arrival.length ≤ 1)
    (quiet : ∀ event ∈ arrival, event.urges = false) :
    SettledInTime (trace ++ arrival ++ more) := by
  refine inTime.append arrival calm ?_ ?_ single
  · rintro id bindingId socket rfl
    cases quiet _ List.mem_cons_self
  · rintro socket registeredFor id bindingId rfl
    cases quiet _ List.mem_cons_self

end SettledInTime

theorem disconnected_calm
    {pending : PendingRequests} {socket : SocketKey} {event : RequestEvent}
    (member : event ∈ disconnected pending socket) :
    event.urges = false := by
  obtain ⟨entry, _, rfl⟩ := List.mem_map.mp member
  rfl

/-- When `close` is called for a socket that is registered for the binding of
a request pending on it, the socket is bound to a binding that it is
registered for. -/
def ClosesFully (run : RequestRun) : ServiceEvent → Prop
  | .closed _ socket =>
      (∃ entry ∈ run.service.pendingFilesystem,
        entry.2.socketKey = socket ∧
          run.service.sockets.lookup entry.2.bindingId = some socket) →
        (run.service.bindings.lookup socket).bind
          (fun bindingId => run.service.sockets.lookup bindingId) =
            some socket
  | _ => True

instance (run : RequestRun) (event : ServiceEvent) :
    Decidable (ClosesFully run event) :=
  match event with
  | .closed .. => by unfold ClosesFully; infer_instance
  | .opened _ | .helloTimedOut _ | .message .. | .createCommand ..
  | .requestFilesystem .. | .filesystemTimedOut _ | .restarted =>
      instDecidableTrue

structure RequestsKept (run : RequestRun) : Prop where
  accounted : Accounted run.service.pendingFilesystem run.trace
  inTime : SettledInTime run.trace

section Steps

variable {run : RequestRun}

theorem kept_unrelated {event : ServiceEvent}
    (kept : RequestsKept run) (unrelated : event.unrelated) :
    RequestsKept
      ⟨(serve event run.service).1,
        run.trace ++ requestArrivals run.service event ++
          settlements (serve event run.service).2⟩ := by
  have arrivals : requestArrivals run.service event = [] := by
    cases event with
    | message environment socket message =>
        cases message with
        | fsResponse requestId ok result error => cases unrelated
        | _ => rfl
    | requestFilesystem environment id bindingId operation payload =>
        cases unrelated
    | filesystemTimedOut id => cases unrelated
    | closed environment socket => cases unrelated
    | _ => rfl
  have shed := sheds_serve unrelated run.service.pendingFilesystem []
    run.service [] ⟨rfl, rfl⟩
  rw [List.nil_append] at shed
  rw [arrivals]
  rcases shed with ⟨pending, settles⟩ | ⟨socket, pending, settles⟩
  · rw [settles]
    refine ⟨?_, kept.inTime.calmly [] (by simp) (by simp) (by simp)⟩
    dsimp only
    rw [pending]
    simpa using kept.accounted
  · rw [settles, List.nil_append]
    refine ⟨?_, kept.inTime.calmly [] (fun _ => disconnected_calm) (by simp)
      (by simp)⟩
    dsimp only
    rw [pending, List.append_nil]
    exact kept.accounted.disconnect socket

variable {environment : Environment} {socket : SocketKey}

theorem kept_request
    {id bindingId operation payload : String}
    (kept : RequestsKept run)
    (unused : ∀ other ∈ requestedIds (requestArrivals run.service
      (.requestFilesystem environment id bindingId operation payload)),
        other ∉ requestedIds run.trace) :
    RequestsKept
      ⟨(serve (.requestFilesystem environment id bindingId operation
          payload) run.service).1,
        run.trace ++ requestArrivals run.service (.requestFilesystem
            environment id bindingId operation payload) ++
          settlements (serve (.requestFilesystem environment id bindingId
            operation payload) run.service).2⟩ := by
  simp only [serve, requestFilesystem, requestArrivals] at unused ⊢
  cases registered : run.service.sockets.lookup bindingId with
  | none =>
      refine ⟨?_, kept.inTime.calmly [] (by simp [settlementOf])
        (by simp) (by simp)⟩
      simpa [settlementOf] using kept.accounted
  | some socket =>
      rw [registered] at unused
      dsimp only at unused ⊢
      by_cases capable : "filesystem-v1" ∈
          (run.service.store.runtime bindingId true).capabilities
      · rw [if_pos capable] at unused ⊢
        rw [if_neg (not_not.mpr capable)]
        have fresh := unused id (by
          simp [requestedIds, RequestEvent.requestedId])
        have requested :=
          @Accounted.request _ _ id bindingId socket kept.accounted fresh
        cases throws : environment.throws socket
            (.fsRequest id bindingId operation payload) with
        | none =>
            refine ⟨?_, kept.inTime.calmly _
              (by simp [settlementOf]) (by simp)
              (by simp [RequestEvent.urges])⟩
            simpa [settlementOf] using requested
        | some error =>
            refine ⟨?_, kept.inTime.calmly _
              (by simp [settlementOf, RequestEvent.urges])
              (by simp) (by simp [RequestEvent.urges])⟩
            have absent :
                id ∉ run.service.pendingFilesystem.map Prod.fst := by
              rw [kept.accounted.pending_iff]
              exact fun both => fresh both.1
            have found :
                (run.service.pendingFilesystem ++
                  [(id, (⟨bindingId, socket⟩ :
                    PendingFilesystemRequest))]).lookup id =
                      some ⟨bindingId, socket⟩ := by
              have nowhere :
                  run.service.pendingFilesystem.lookup id = none := by
                rw [List.lookup_eq_none_iff]
                intro entry member
                have different : entry.1 ≠ id := by
                  rintro rfl
                  exact absent (List.mem_map_of_mem member)
                rw [bne_iff_ne]
                exact Ne.symm different
              rw [List.lookup_append, nowhere, Option.none_or,
                List.lookup_cons_self]
            have settled :=
              @Accounted.settle_id _ _ id ⟨bindingId, socket⟩
                (.error error) requested found (by simp)
            have dropped :
                (run.service.pendingFilesystem ++
                  [(id, (⟨bindingId, socket⟩ :
                    PendingFilesystemRequest))]).filter
                      (fun entry => entry.1 ≠ id) =
                    run.service.pendingFilesystem := by
              rw [List.filter_append, List.filter_eq_self.mpr]
              · simp
              · intro entry member
                rw [decide_eq_true_eq]
                rintro rfl
                exact absent (List.mem_map_of_mem member)
            rw [dropped] at settled
            simpa [settlementOf] using settled
      · rw [if_neg capable]
        rw [if_pos capable]
        refine ⟨?_, kept.inTime.calmly []
          (by simp [settlementOf]) (by simp) (by simp)⟩
        simpa [settlementOf] using kept.accounted

theorem kept_timeout {id : String} (kept : RequestsKept run) :
    RequestsKept
      ⟨(serve (.filesystemTimedOut id) run.service).1,
        run.trace ++ [.timedOut id] ++
          settlements (serve (.filesystemTimedOut id) run.service).2⟩ := by
  have noted := @Accounted.note _ _ (.timedOut id) kept.accounted rfl rfl
  simp only [serve, filesystemTimeout]
  cases found : run.service.pendingFilesystem.lookup id with
  | none =>
      refine ⟨?_, kept.inTime.append [.timedOut id]
        (by simp) ?_ (by simp) (by simp)⟩
      · simpa using noted
      · rintro other bindingId socket shape requested
        cases shape
        simp only [settlements_nil, List.append_nil,
          settledIds_append]
        refine List.mem_append_left _ ?_
        by_contra open_
        have member := (kept.accounted.unsettled id
          ⟨bindingId, socket⟩).mpr ⟨requested, open_⟩
        have different := List.lookup_eq_none_iff.mp found _ member
        simp at different
  | some request =>
      have settled :=
        @Accounted.settle_id _ _ id request
          (.error "Live filesystem request timed out") noted found
          (by simp)
      refine ⟨?_, kept.inTime.append [.timedOut id]
        (by simp [settlementOf, RequestEvent.urges]) ?_ (by simp)
        (by simp)⟩
      · simpa [settlementOf] using settled
      · rintro other bindingId socket shape _
        cases shape
        rw [mem_settledIds]
        exact ⟨.error "Live filesystem request timed out",
          List.mem_append_right _ (by simp [settlementOf])⟩

theorem kept_response
    {requestId : Option String} {ok : Bool} {result : String}
    {error : Option String} (kept : RequestsKept run) :
    RequestsKept
      ⟨(serve (.message environment socket
          (.fsResponse requestId ok result error)) run.service).1,
        run.trace ++ requestArrivals run.service (.message environment
            socket (.fsResponse requestId ok result error)) ++
          settlements (serve (.message environment socket
            (.fsResponse requestId ok result error)) run.service).2⟩ := by
  change RequestsKept
    ⟨(handle environment socket (.fsResponse requestId ok result error)
        run.service).1,
      run.trace ++ requestArrivals run.service (.message environment
          socket (.fsResponse requestId ok result error)) ++
        settlements (handle environment socket
          (.fsResponse requestId ok result error) run.service).2⟩
  rw [handle_spoken rfl]
  cases requestId with
  | none =>
      have unchanged :
          RequestsKept ⟨run.service, run.trace ++ [] ++ []⟩ := by
        simpa using kept
      cases bound : run.service.bindings.lookup socket with
      | none => exact unchanged
      | some bindingId => exact ⟨unchanged.accounted, unchanged.inTime⟩
  | some id =>
      simp only [requestArrivals]
      have noted :=
        @Accounted.note _ _ (.response socket
          (run.service.bindings.lookup socket) id ok result)
          kept.accounted rfl rfl
      have calm : ∀ more, (∀ event ∈ more, event.urges = false) →
          SettledInTime (run.trace ++
            [.response socket (run.service.bindings.lookup socket) id ok
              result] ++ more) := by
        intro more quiet
        exact kept.inTime.calmly _ quiet (by simp)
          (by simp [RequestEvent.urges])
      cases bound : run.service.bindings.lookup socket with
      | none =>
          rw [bound] at noted calm
          refine ⟨?_, calm _ (by simp [settlementOf])⟩
          simpa [settlementOf] using noted
      | some bindingId =>
          rw [bound] at noted calm
          simp only [handleBound, filesystemResponse, Action.andThen,
            updateStore, Action.update]
          cases found : run.service.pendingFilesystem.lookup id with
          | none =>
              refine ⟨?_, calm _ (by simp)⟩
              simpa using noted
          | some request =>
              dsimp only
              split
              · refine ⟨?_, calm _ (by simp)⟩
                simpa using noted
              · rename_i matching
                rw [not_or, not_not, not_not] at matching
                obtain ⟨sameBinding, sameSocket⟩ := matching
                refine ⟨?_, calm _
                  (by simp [settlementOf, RequestEvent.urges])⟩
                have requested := ((kept.accounted.unsettled id request).mp
                  (mem_of_lookup_request found)).1
                have settled :=
                  @Accounted.settle_id _ _ id request
                    (if ok then .ok result
                      else .error
                        (error.getD "Live filesystem request failed"))
                    noted found (by
                      intro value resolved
                      refine ⟨run.trace, ?_, requested⟩
                      cases ok with
                      | false => cases resolved
                      | true =>
                          cases resolved
                          rw [sameBinding, sameSocket])
                simpa [settlementOf] using settled

theorem mem_registrations
    {service : ServerAgentService}
    {bindingId : String} :
    bindingId ∈ registrations service socket ↔
      service.sockets.lookup bindingId = some socket := by
  unfold registrations
  rw [List.mem_filter, decide_eq_true_eq]
  refine ⟨fun both => both.2, fun registered => ⟨?_, registered⟩⟩
  exact AList.mem_keys.mp
    (AList.lookup_isSome.mp (by rw [registered]; rfl))

theorem kept_close
    (kept : RequestsKept run)
    (condition : ClosesFully run (.closed environment socket)) :
    RequestsKept
      ⟨(serve (.closed environment socket) run.service).1,
        run.trace ++ requestArrivals run.service
            (.closed environment socket) ++
          settlements (serve (.closed environment socket)
            run.service).2⟩ := by
  simp only [requestArrivals]
  have noted :=
    @Accounted.note _ _ (.closed socket (registrations run.service socket))
      kept.accounted rfl rfl
  obtain ⟨full, partly⟩ := close_requests environment socket run.service
  by_cases registered : ∃ bindingId,
      run.service.bindings.lookup socket = some bindingId ∧
        run.service.sockets.lookup bindingId = some socket
  · obtain ⟨pending, settles⟩ := full registered
    simp only [serve]
    refine ⟨?_, ?_⟩
    · dsimp only
      rw [pending, settles]
      exact noted.disconnect socket
    · rw [settles]
      refine kept.inTime.append _ (fun _ => disconnected_calm) (by simp)
        ?_ (by simp)
      rintro socket registeredFor id bindingId shape requested _
      cases shape
      rw [List.append_assoc, settledIds_append]
      by_cases open_ : id ∈ settledIds run.trace
      · exact List.mem_append_left _ open_
      · refine List.mem_append_right _ ?_
        have member := (kept.accounted.unsettled id
          ⟨bindingId, _⟩).mpr ⟨requested, open_⟩
        rw [mem_settledIds]
        refine ⟨.error "Host agent disconnected during filesystem request",
          List.mem_append_right _ ?_⟩
        refine List.mem_map.mpr ⟨_, List.mem_filter.mpr ⟨member, ?_⟩, rfl⟩
        exact decide_eq_true rfl
  · obtain ⟨pending, settles⟩ := partly registered
    simp only [serve]
    refine ⟨?_, ?_⟩
    · dsimp only
      rw [pending, settles, List.append_nil]
      exact noted
    · rw [settles]
      refine kept.inTime.append _ (by simp) (by simp) ?_ (by simp)
      rintro socket registeredFor id bindingId shape requested among
      cases shape
      rw [List.append_nil, settledIds_append]
      refine List.mem_append_left _ ?_
      by_contra open_
      -- otherwise the request is pending on the registered socket
      have member := (kept.accounted.unsettled id
        ⟨bindingId, _⟩).mpr ⟨requested, open_⟩
      have serves := condition
        ⟨_, member, rfl, mem_registrations.mp among⟩
      obtain ⟨served, bound, registeredToo⟩ :=
        Option.bind_eq_some_iff.mp serves
      exact registered ⟨served, bound, registeredToo⟩

theorem requestStep_kept
    {event : ServiceEvent} {next : RequestRun} {now : List Effect}
    (kept : RequestsKept run) (condition : ClosesFully run event)
    (stepped : requestStep run event = some (next, now)) :
    RequestsKept next := by
  have fresh : event ≠ .restarted →
      (∀ other ∈ requestedIds (requestArrivals run.service event),
        other ∉ requestedIds run.trace) ∧
      next = ⟨(serve event run.service).1,
        run.trace ++ requestArrivals run.service event ++
          settlements (serve event run.service).2⟩ := by
    intro running
    unfold requestStep at stepped
    split at stepped
    · exact absurd rfl running
    · split at stepped
      · cases stepped
      · rename_i unused
        cases stepped
        refine ⟨?_, rfl⟩
        simpa using unused
  cases event with
  | restarted =>
      cases stepped
      exact ⟨accounted_nil, settledInTime_nil⟩
  | requestFilesystem environment id bindingId operation payload =>
      obtain ⟨unused, rfl⟩ := fresh (by simp)
      exact kept_request kept unused
  | filesystemTimedOut id =>
      obtain ⟨_, rfl⟩ := fresh (by simp)
      exact kept_timeout kept
  | closed environment socket =>
      obtain ⟨_, rfl⟩ := fresh (by simp)
      exact kept_close kept condition
  | message environment socket message =>
      obtain ⟨_, rfl⟩ := fresh (by simp)
      cases message with
      | fsResponse requestId ok result error => exact kept_response kept
      | _ => exact kept_unrelated kept rfl
  | _ =>
      obtain ⟨_, rfl⟩ := fresh (by simp)
      exact kept_unrelated kept rfl

end Steps

/-- What is promised about the requests of a process: every promise is settled
at most once and by its own answer, the pending ids are the unsettled ones, and
a timer or the close of the registered socket settles. -/
structure SettlesOnce (run : RequestRun) : Prop where
  once : (settledIds run.trace).Nodup
  pending : ∀ id, id ∈ run.service.pendingFilesystem.map Prod.fst ↔
    id ∈ requestedIds run.trace ∧ id ∉ settledIds run.trace
  resolved : ∀ before after id result,
    run.trace = before ++ .settled id (.ok result) :: after →
      ∃ earlier bindingId socket,
        before =
            earlier ++ [.response socket (some bindingId) id true result] ∧
          .requested id bindingId socket ∈ earlier
  inTime : SettledInTime run.trace

theorem RequestsKept.settlesOnce {run : RequestRun}
    (kept : RequestsKept run) : SettlesOnce run :=
  ⟨kept.accounted.once, kept.accounted.pending_iff, kept.accounted.sourced,
    kept.inTime⟩

/-- If `close` always reaches the requests of a registered socket, every
request is settled once, in time and from its own peer. -/
theorem requests_settle_once
    (store : ServerAgentStore) (events : List ServiceEvent)
    (run : RequestRun) (effects : List Effect)
    (condition : Meets requestStep ClosesFully
      ⟨ServerAgentService.new store, []⟩ events)
    (ran : execute requestStep ⟨ServerAgentService.new store, []⟩ events =
      some (run, effects)) :
    SettlesOnce run := by
  have kept : RequestsKept run :=
    execute_induction_of_meets
      (motive := fun run _ => RequestsKept run)
      (fun _ _ _ _ _ kept condition stepped =>
        requestStep_kept kept condition stepped)
      ⟨accounted_nil, settledInTime_nil⟩ condition ran
  exact kept.settlesOnce

/-- A close that does not reach the requests of a registered socket leaves one
of them unsettled. -/
theorem missed_close_leaves_request
    {run next : RequestRun} {event : ServiceEvent} {now : List Effect}
    (kept : RequestsKept run) (missed : ¬ ClosesFully run event)
    (stepped : requestStep run event = some (next, now)) :
    ¬ SettledInTime next.trace := by
  unfold ClosesFully at missed
  split at missed
  · rename_i environment socket
    rw [Classical.not_imp] at missed
    obtain ⟨⟨⟨id, request⟩, member, onSocket, registered⟩, elsewhere⟩ :=
      missed
    have unregistered : ¬ ∃ bindingId,
        run.service.bindings.lookup socket = some bindingId ∧
          run.service.sockets.lookup bindingId = some socket := by
      rintro ⟨bindingId, bound, serves⟩
      apply elsewhere
      rw [bound]
      exact serves
    obtain ⟨_, settles⟩ :=
      (close_requests environment socket run.service).2 unregistered
    obtain ⟨requested, open_⟩ :=
      (kept.accounted.unsettled id request).mp member
    cases stepped
    change ¬ SettledInTime (run.trace ++
      [.closed socket (registrations run.service socket)] ++
        settlements (close environment socket run.service).2)
    rw [settles, List.append_nil]
    intro inTime
    have settled := inTime.closed run.trace [] socket
      (registrations run.service socket) id request.bindingId rfl
      (onSocket ▸ requested) (mem_registrations.mpr registered)
    rw [settledIds_append, List.mem_append] at settled
    rcases settled with old | new
    · exact open_ old
    · simp [settledIds, RequestEvent.settledId] at new
  · exact absurd trivial missed

def helloWithFiles (token : String) : AgentMessage :=
  .hello (some ⟨token, "0.2.0", "game-1", [some "filesystem-v1"]⟩)

/-- The socket of a pending request says hello for a second binding, which then
moves to a socket of its own. -/
def missedEvents : List ServiceEvent :=
  [.message twoTokens 1 (helloWithFiles "first"),
    .message twoTokens 1 (helloWithFiles "second"),
    .message twoTokens 2 (helloWithFiles "second"),
    .requestFilesystem twoTokens "request-1" "lobby" "list" "\x7b\x7d",
    .closed twoTokens 1]

/-- The registered socket of the request is closed, and the request stays
pending. -/
theorem closed_socket_leaves_request :
    ∃ run effects,
      execute requestStep
          ⟨ServerAgentService.new ServerAgentStore.empty, []⟩ missedEvents =
        some (run, effects) ∧
      run.trace =
        [.requested "request-1" "lobby" 1, .closed 1 ["lobby"]] ∧
      ¬ SettlesOnce run := by
  have reached :
      (execute requestStep
        ⟨ServerAgentService.new ServerAgentStore.empty, []⟩
        missedEvents).map (fun result => result.1.trace) =
        some [.requested "request-1" "lobby" 1, .closed 1 ["lobby"]] := by
    decide +kernel
  obtain ⟨⟨run, effects⟩, ran, trace⟩ := Option.map_eq_some_iff.mp reached
  dsimp only at trace
  refine ⟨run, effects, ran, trace, ?_⟩
  intro settles
  have settled := settles.inTime.closed
    [.requested "request-1" "lobby" 1] [] 1 ["lobby"] "request-1" "lobby"
    trace List.mem_cons_self List.mem_cons_self
  rw [trace] at settled
  simp [settledIds, RequestEvent.settledId] at settled

/-- One request is answered, and the next one is rejected by a close. -/
def answeredEvents : List ServiceEvent :=
  [.message twoTokens 1 (helloWithFiles "first"),
    .requestFilesystem twoTokens "request-1" "lobby" "list" "\x7b\x7d",
    .message twoTokens 1 (.fsResponse (some "request-1") true "done" none),
    .requestFilesystem twoTokens "request-2" "lobby" "list" "\x7b\x7d",
    .closed twoTokens 1]

theorem requests_settle_once_answered :
    ∃ run effects,
      execute requestStep
          ⟨ServerAgentService.new ServerAgentStore.empty, []⟩
          answeredEvents = some (run, effects) ∧
        settledIds run.trace = ["request-1", "request-2"] ∧
          SettlesOnce run := by
  have reached :
      (execute requestStep
        ⟨ServerAgentService.new ServerAgentStore.empty, []⟩
        answeredEvents).map (fun result => settledIds result.1.trace) =
        some ["request-1", "request-2"] := by
    decide +kernel
  obtain ⟨⟨run, effects⟩, ran, settled⟩ :=
    Option.map_eq_some_iff.mp reached
  exact ⟨run, effects, ran, settled,
    requests_settle_once ServerAgentStore.empty answeredEvents run effects
      (by decide +kernel) ran⟩

end GravitPanel.Servers
