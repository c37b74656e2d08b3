import GravitPanel.Servers.Registry

/-!
# Live filesystem requests

What happens to the promises of `requestFilesystem`: when they are made, what
arrives for them, and when they are settled.  For every handler it is said what
it does to the pending requests.
-/

namespace GravitPanel.Servers

open GravitPanel.Action
open ServerAgentStore ServerAgentService

/-- What happens to the requests of one process, as far as promises see it. -/
inductive RequestEvent where
  | requested (id bindingId : String) (socket : SocketKey)
  | response (socket : SocketKey) (bindingId : Option String) (id : String)
      (ok : Bool) (result : String)
  | timedOut (id : String)
  | closed (socket : SocketKey) (registeredFor : List String)
  | settled (id : String) (result : Except String String)
  deriving DecidableEq

def registrations (service : ServerAgentService) (socket : SocketKey) :
    List String :=
  service.sockets.keys.filter fun bindingId =>
    service.sockets.lookup bindingId = some socket

/-- What the event itself says about requests.  A promise that is rejected
before it has an id is not among them. -/
def requestArrivals (service : ServerAgentService) :
    ServiceEvent → List RequestEvent
  | .requestFilesystem _ id bindingId _ _ =>
      match service.sockets.lookup bindingId with
      | none => []
      | some socket =>
          if "filesystem-v1" ∈
              (service.store.runtime bindingId true).capabilities then
            [.requested id bindingId socket]
          else
            []
  | .message _ socket (.fsResponse (some id) ok result _) =>
      [.response socket (service.bindings.lookup socket) id ok result]
  | .filesystemTimedOut id => [.timedOut id]
  | .closed _ socket => [.closed socket (registrations service socket)]
  | _ => []

def settlementOf : Effect → Option RequestEvent
  | .settled id result => some (.settled id result)
  | _ => none

def settlements (effects : List Effect) : List RequestEvent :=
  effects.filterMap settlementOf

@[simp]
theorem settlements_nil : settlements [] = [] := rfl

@[simp]
theorem settlements_cons (effect : Effect) (rest : List Effect) :
    settlements (effect :: rest) =
      (settlementOf effect).toList ++ settlements rest := by
  unfold settlements
  cases shape : settlementOf effect with
  | none => simp [shape]
  | some event => simp [shape]

@[simp]
theorem settlements_append (first second : List Effect) :
    settlements (first ++ second) =
      settlements first ++ settlements second := by
  simp [settlements]

/-- The service with what has happened to the requests of its process. -/
structure RequestRun where
  service : ServerAgentService
  trace : List RequestEvent

def RequestEvent.requestedId : RequestEvent → Option String
  | .requested id _ _ => some id
  | _ => none

def RequestEvent.settledId : RequestEvent → Option String
  | .settled id _ => some id
  | _ => none

def requestedIds (trace : List RequestEvent) : List String :=
  trace.filterMap RequestEvent.requestedId

def settledIds (trace : List RequestEvent) : List String :=
  trace.filterMap RequestEvent.settledId

@[simp]
theorem requestedIds_append (first second : List RequestEvent) :
    requestedIds (first ++ second) =
      requestedIds first ++ requestedIds second := by
  simp [requestedIds]

@[simp]
theorem settledIds_append (first second : List RequestEvent) :
    settledIds (first ++ second) =
      settledIds first ++ settledIds second := by
  simp [settledIds]

theorem mem_settledIds {trace : List RequestEvent} {id : String} :
    id ∈ settledIds trace ↔ ∃ result, .settled id result ∈ trace := by
  simp only [settledIds, List.mem_filterMap]
  constructor
  · rintro ⟨event, member, settles⟩
    cases event with
    | settled other result =>
        cases settles
        exact ⟨result, member⟩
    | _ => cases settles
  · rintro ⟨result, member⟩
    exact ⟨_, member, rfl⟩

/-- One event of the service.  `crypto.randomUUID` never returns an id twice,
and the promises of a process end with it. -/
def requestStep (run : RequestRun) (event : ServiceEvent) :
    Option (RequestRun × List Effect) :=
  match event with
  | .restarted =>
      some (⟨(serve event run.service).1, []⟩, (serve event run.service).2)
  | _ =>
      if (requestedIds (requestArrivals run.service event)).any
          (· ∈ requestedIds run.trace) then
        none
      else
        some
          (⟨(serve event run.service).1,
            run.trace ++ requestArrivals run.service event ++
              settlements (serve event run.service).2⟩,
            (serve event run.service).2)

/-- The pending requests and the settlements so far. -/
def Holding
    (pending : List (String × PendingFilesystemRequest))
    (settled : List RequestEvent) :
    ServerAgentService → List Effect → Prop :=
  fun service past =>
    service.pendingFilesystem = pending ∧ settlements past = settled

/-- A handler that neither adds, removes nor settles a request. -/
def Quiet (handler : Handler) : Prop :=
  ∀ pending settled, Keeps (Holding pending settled) handler

/-- The requests on a socket, rejected as `close` rejects them. -/
def disconnected
    (pending : List (String × PendingFilesystemRequest))
    (socket : SocketKey) : List RequestEvent :=
  (pending.filter fun entry => entry.2.socketKey = socket).map fun entry =>
    .settled entry.1
      (.error "Host agent disconnected during filesystem request")

/-- Nothing was done, or the requests of one socket were rejected. -/
def Shed
    (pending : List (String × PendingFilesystemRequest))
    (settled : List RequestEvent) :
    ServerAgentService → List Effect → Prop :=
  fun service past =>
    Holding pending settled service past ∨
      ∃ socket,
        Holding
          (pending.filter fun entry => entry.2.socketKey ≠ socket)
          (settled ++ disconnected pending socket) service past

/-- A handler that closes at most one socket. -/
def Sheds (handler : Handler) : Prop :=
  ∀ pending settled,
    Triple (Holding pending settled) handler (Shed pending settled)

theorem Quiet.andThen {first second : Handler}
    (firstQuiet : Quiet first) (secondQuiet : Quiet second) :
    Quiet (first.andThen second) :=
  fun pending settled =>
    (firstQuiet pending settled).andThen (secondQuiet pending settled)

theorem Quiet.sheds {handler : Handler} (quiet : Quiet handler) :
    Sheds handler :=
  fun pending settled =>
    (quiet pending settled).weaken (fun _ _ holds => holds)
      fun _ _ holds => .inl holds

theorem Quiet.thenSheds {first second : Handler}
    (quiet : Quiet first) (sheds : Sheds second) :
    Sheds (first.andThen second) :=
  fun pending settled =>
    (quiet pending settled).andThen (sheds pending settled)

theorem Sheds.thenQuiet {first second : Handler}
    (sheds : Sheds first) (quiet : Quiet second) :
    Sheds (first.andThen second) := by
  intro pending settled
  refine (sheds pending settled).andThen ?_
  rintro service past (holds | ⟨socket, holds⟩)
  · exact .inl (quiet _ _ service past holds)
  · exact .inr ⟨socket, quiet _ _ service past holds⟩

theorem quiet_all {handlers : List Handler}
    (each : ∀ handler ∈ handlers, Quiet handler) : Quiet (all handlers) :=
  fun pending settled =>
    keeps_all fun handler member => each handler member pending settled

theorem sheds_all {handlers : List Handler} {last : Handler}
    (each : ∀ handler ∈ handlers, Quiet handler) (sheds : Sheds last) :
    Sheds (all (handlers ++ [last])) := by
  induction handlers with
  | nil => exact sheds.thenQuiet fun _ _ => triple_skip
  | cons handler rest ih =>
      have later := ih fun other member =>
        each other (List.mem_cons_of_mem handler member)
      exact (each handler List.mem_cons_self).thenSheds later

theorem quiet_of_eq {handler : Handler}
    (pending : ∀ service, (handler service).1.pendingFilesystem =
      service.pendingFilesystem)
    (settles : ∀ service, settlements (handler service).2 = []) :
    Quiet handler := by
  rintro requests settled service past ⟨rfl, rfl⟩
  exact ⟨pending service, by simp [settles service]⟩

theorem quiet_skip : Quiet skip :=
  quiet_of_eq (fun _ => rfl) fun _ => rfl

theorem quiet_emit {effect : Effect} (other : settlementOf effect = none) :
    Quiet (emit effect) :=
  quiet_of_eq (fun _ => rfl) fun _ => by simp [emit, settlements, other]

theorem quiet_updateStore (change : ServerAgentStore → ServerAgentStore) :
    Quiet (updateStore change) :=
  quiet_of_eq (fun _ => rfl) fun _ => rfl

theorem settlements_published (event : Option ServerRuntimeEvent) :
    settlements (event.toList.map .published) = [] := by
  cases event <;> rfl

theorem quiet_publish
    (bindingId type message : String) (commandId cursor : Option String)
    (createdAt : EventTime) :
    Quiet (publish bindingId type message commandId cursor createdAt) :=
  quiet_of_eq (fun _ => rfl) fun _ => settlements_published _

theorem quiet_openSocket (socket : SocketKey) :
    Quiet (openSocket socket) := by
  refine quiet_of_eq (fun service => ?_) fun service => ?_ <;>
    (unfold openSocket; split <;> rfl)

theorem quiet_helloTimeout (socket : SocketKey) :
    Quiet (helloTimeout socket) := by
  refine quiet_of_eq (fun service => ?_) fun service => ?_
  · unfold helloTimeout
    split <;> rfl
  · unfold helloTimeout
    split
    · dsimp only
      split <;> rfl
    · rfl

theorem quiet_closePrevious (bindingId : String) (socket : SocketKey) :
    Quiet (closePrevious bindingId socket) := by
  refine quiet_of_eq (fun service => ?_) fun service => ?_
  · unfold closePrevious
    split <;> rfl
  · unfold closePrevious
    split
    · dsimp only
      split <;> rfl
    · rfl

theorem quiet_register (bindingId : String) (socket : SocketKey) :
    Quiet (register bindingId socket) :=
  quiet_of_eq (fun _ => rfl) fun _ => rfl

theorem settlements_dropFilesystem
    (service : ServerAgentService) (socket : SocketKey) :
    settlements (dropFilesystem socket service).2 =
      disconnected service.pendingFilesystem socket := by
  unfold dropFilesystem disconnected settlements
  rw [List.filterMap_map]
  exact congrFun List.filterMap_eq_map _

/-- `close` takes the full path for a socket that is registered for its
binding, and otherwise leaves every request as it is. -/
theorem close_requests
    (environment : Environment) (socket : SocketKey)
    (service : ServerAgentService) :
    ((∃ bindingId, service.bindings.lookup socket = some bindingId ∧
        service.sockets.lookup bindingId = some socket) →
      (close environment socket service).1.pendingFilesystem =
          service.pendingFilesystem.filter
            (fun entry => entry.2.socketKey ≠ socket) ∧
        settlements (close environment socket service).2 =
          disconnected service.pendingFilesystem socket) ∧
    ((¬ ∃ bindingId, service.bindings.lookup socket = some bindingId ∧
        service.sockets.lookup bindingId = some socket) →
      (close environment socket service).1.pendingFilesystem =
          service.pendingFilesystem ∧
        settlements (close environment socket service).2 = []) := by
  constructor
  · rintro ⟨bindingId, bound, registered⟩
    have dropped := settlements_dropFilesystem service socket
    unfold dropFilesystem at dropped
    simp only [close, andThen, Action.update, bound, registered, ne_eq,
      not_true_eq_false, if_false, all_cons, all_nil, dropFilesystem,
      updateStore, publish, skip, List.nil_append, List.append_nil,
      settlements_append, settlements_published]
    exact ⟨trivial, dropped⟩
  · intro unregistered
    cases bound : service.bindings.lookup socket with
    | none => simp [close, andThen, Action.update, bound, settlements]
    | some bindingId =>
        have different : service.sockets.lookup bindingId ≠ some socket :=
          fun registered => unregistered ⟨bindingId, bound, registered⟩
        simp [close, andThen, Action.update, bound, different, settlements]

theorem sheds_close (environment : Environment) (socket : SocketKey) :
    Sheds (close environment socket) := by
  rintro pending settled service past ⟨rfl, rfl⟩
  obtain ⟨registered, unregistered⟩ :=
    close_requests environment socket service
  by_cases full : ∃ bindingId,
      service.bindings.lookup socket = some bindingId ∧
        service.sockets.lookup bindingId = some socket
  · obtain ⟨requests, settles⟩ := registered full
    exact .inr ⟨socket, requests, by simp [settles]⟩
  · obtain ⟨requests, settles⟩ := unregistered full
    exact .inl ⟨requests, by simp [settles]⟩

theorem sheds_dispatchLoop (environment : Environment) (bindingId : String) :
    ∀ rounds, Sheds (dispatchLoop environment bindingId rounds)
  | 0 => quiet_skip.sheds
  | rounds + 1 => by
      intro pending settled service past holds
      unfold dispatchLoop
      split
      · rename_i socket command rest registered active queued
        split
        · exact (sheds_all
            (by
              intro handler member
              simp only [List.mem_cons, List.not_mem_nil, or_false] at member
              rcases member with rfl | rfl
              · exact quiet_updateStore _
              · exact quiet_publish _ _ _ _ _ _)
            (sheds_dispatchLoop environment bindingId rounds) :
              Sheds (all ([_, _] ++ [_]))) pending settled service past holds
        · split
          · exact sheds_close environment socket pending settled service past
              holds
          · refine (quiet_all ?_).sheds pending settled service past holds
            intro handler member
            simp only [List.mem_cons, List.not_mem_nil, or_false] at member
            rcases member with rfl | rfl | rfl
            · exact quiet_emit rfl
            · exact quiet_updateStore _
            · exact quiet_publish _ _ _ _ _ _
      · exact quiet_skip.sheds pending settled service past holds

theorem sheds_dispatchNext
    (environment : Environment) (bindingId : String) :
    Sheds (dispatchNext environment bindingId) :=
  fun pending settled service past holds =>
    sheds_dispatchLoop environment bindingId _ pending settled service past
      holds

theorem quiet_status
    (environment : Environment) (bindingId : String)
    (value : Option ServerServiceRuntime) :
    Quiet (status environment bindingId value) := by
  cases value with
  | none => exact quiet_skip
  | some runtime => exact quiet_updateStore _

theorem quiet_log
    (environment : Environment) (socket : SocketKey) (bindingId : String)
    (line : Option LogLine) :
    Quiet (log environment socket bindingId line) := by
  cases line with
  | none => exact quiet_skip
  | some line =>
      refine (quiet_publish _ _ _ _ _ _).andThen ?_
      cases line.cursor with
      | none => exact quiet_skip
      | some cursor =>
          dsimp only
          split
          · exact quiet_skip
          · split
            · exact quiet_skip
            · exact quiet_emit rfl

theorem sheds_withCommand
    {bindingId : String} {commandId : Option String}
    {handler : ServerCommand → Handler}
    (each : ∀ command, Sheds (handler command)) :
    Sheds (withCommand bindingId commandId handler) := by
  intro pending settled service past holds
  unfold withCommand
  split
  · exact quiet_skip.sheds pending settled service past holds
  · rename_i command found
    split
    · exact quiet_skip.sheds pending settled service past holds
    · exact each command pending settled service past holds

theorem sheds_handleBound
    (environment : Environment) (socket : SocketKey) (bindingId : String)
    (message : AgentMessage)
    (other : ∀ requestId ok result error,
      message ≠ .fsResponse requestId ok result error) :
    Sheds (handleBound environment socket bindingId message) := by
  cases message with
  | status runtime => exact (quiet_status _ _ _).sheds
  | log line => exact (quiet_log _ _ _ _).sheds
  | fsResponse requestId ok result error =>
      exact absurd rfl (other requestId ok result error)
  | commandAck commandId =>
      refine sheds_withCommand fun command => (quiet_all ?_).sheds
      intro handler member
      simp only [List.mem_cons, List.not_mem_nil, or_false] at member
      rcases member with rfl | rfl
      · exact quiet_updateStore _
      · exact quiet_publish _ _ _ _ _ _
  | commandCompleted commandId output =>
      refine sheds_withCommand fun command => ?_
      refine (sheds_all ?_ (sheds_dispatchNext environment bindingId) :
        Sheds (all ([_, _, _] ++ [_])))
      intro handler member
      simp only [List.mem_cons, List.not_mem_nil, or_false] at member
      rcases member with rfl | rfl | rfl
      · exact quiet_updateStore _
      · split
        · exact quiet_skip
        · exact quiet_publish _ _ _ _ _ _
      · exact quiet_publish _ _ _ _ _ _
  | commandFailed commandId error =>
      refine sheds_withCommand fun command => ?_
      refine (sheds_all ?_ (sheds_dispatchNext environment bindingId) :
        Sheds (all ([_, _] ++ [_])))
      intro handler member
      simp only [List.mem_cons, List.not_mem_nil, or_false] at member
      rcases member with rfl | rfl
      · exact quiet_updateStore _
      · exact quiet_publish _ _ _ _ _ _
  | _ => exact quiet_skip.sheds

theorem sheds_hello
    (environment : Environment) (socket : SocketKey)
    (message : Option AgentHello) :
    Sheds (hello environment socket message) := by
  cases message with
  | none => exact (quiet_emit rfl).sheds
  | some message =>
      unfold hello
      dsimp only
      split
      · exact (quiet_emit rfl).sheds
      · rename_i bindingId authenticated
        refine (sheds_all ?_ ?_ : Sheds (all ([_, _, _] ++ [_])))
        · intro handler member
          simp only [List.mem_cons, List.not_mem_nil, or_false] at member
          rcases member with rfl | rfl | rfl
          · exact quiet_closePrevious _ _
          · exact quiet_register _ _
          · exact quiet_updateStore _
        · split
          · exact quiet_skip.sheds
          · refine (sheds_all ?_ (sheds_dispatchNext environment bindingId) :
              Sheds (all ([_, _] ++ [_])))
            intro handler member
            simp only [List.mem_cons, List.not_mem_nil, or_false] at member
            rcases member with rfl | rfl
            · exact quiet_emit rfl
            · exact quiet_publish _ _ _ _ _ _

theorem sheds_createCommand
    (environment : Environment) (id bindingId : String)
    (type : ServerCommandType) (command : Option String) :
    Sheds (ServerAgentService.createCommand environment id bindingId type
      command) := by
  unfold ServerAgentService.createCommand
  split
  · exact (quiet_emit rfl).sheds
  · intro pending settled service past holds
    dsimp only
    split
    · exact (@quiet_emit (.refused "UNIQUE constraint failed") rfl).sheds pending
        settled service past holds
    · have dispatched :
          ∀ store : ServerAgentStore, ∀ command : ServerCommand,
            Sheds (all
              [updateStore fun _ => store,
              publish bindingId "command.queued" type.text
                (some command.id) none (.clock (environment.clock 0)),
              dispatchNext environment bindingId,
              emit (.created command)]) := by
        intro store command
        have created : Quiet (all [emit (.created command)]) :=
          quiet_all fun handler member => by
            rw [List.mem_singleton.mp member]
            exact quiet_emit rfl
        exact (quiet_updateStore _).thenSheds
          ((quiet_publish _ _ _ _ _ _).thenSheds
            ((sheds_dispatchNext environment bindingId).thenQuiet created))
      exact dispatched _ _ pending settled service past holds

/-- The events that neither make a request nor answer one. -/
def ServiceEvent.unrelated : ServiceEvent → Bool
  | .requestFilesystem _ _ _ _ _ => false
  | .filesystemTimedOut _ => false
  | .message _ _ (.fsResponse _ _ _ _) => false
  | .closed _ _ => false
  | .restarted => false
  | _ => true

theorem sheds_handle
    (environment : Environment) (socket : SocketKey)
    (message : AgentMessage)
    (other : ∀ requestId ok result error,
      message ≠ .fsResponse requestId ok result error) :
    Sheds (handle environment socket message) := by
  have bound : ∀ spoken : message.spoken,
      Sheds (handle environment socket message) := by
    intro spoken pending settled service past holds
    rw [handle_spoken spoken]
    split
    · exact (@quiet_emit (.closeAsked socket) rfl).sheds
        pending settled service past holds
    · exact ((quiet_updateStore _).thenSheds
        (sheds_handleBound environment socket _ message other)) pending
          settled service past holds
  cases message with
  | unreadable => exact quiet_skip.sheds
  | hello message => exact sheds_hello environment socket message
  | _ => exact bound rfl

theorem sheds_serve {event : ServiceEvent} (unrelated : event.unrelated) :
    Sheds (serve event) := by
  cases event with
  | opened socket => exact (quiet_openSocket socket).sheds
  | helloTimedOut socket => exact (quiet_helloTimeout socket).sheds
  | createCommand environment id bindingId type command =>
      exact sheds_createCommand environment id bindingId type command
  | message environment socket message =>
      refine sheds_handle environment socket message ?_
      rintro requestId ok result error rfl
      cases unrelated
  | _ => cases unrelated

end GravitPanel.Servers
