import GravitPanel.Core.Execution
import GravitPanel.Core.History
import GravitPanel.Servers.ServiceChanges

/-!
# The registry of agent sockets

`sockets` says which socket serves a binding and `bindings` for which binding a
socket speaks.  Both are compared with the history of accepted hellos and
closed sockets, under any order of hellos, replacements and closes.
-/

namespace GravitPanel.Servers

open GravitPanel.Execution
open GravitPanel.History
open ServerAgentStore ServerAgentService

/-- What happened to a socket. -/
inductive Connection where
  | accepted (socket : SocketKey) (bindingId : String)
  | closed (socket : SocketKey)
  | restarted
  deriving DecidableEq, Repr

/-- The sockets that lost their binding.  Only `close` takes a binding away,
also when `dispatchNext` calls it after a `send` that throws. -/
def unbound (before after : AList fun _ : SocketKey => String) :
    List SocketKey :=
  before.keys.filter fun socket => (after.lookup socket).isNone

def connections (event : ServiceEvent) (service next : ServerAgentService) :
    List Connection :=
  match event with
  | .message environment socket (.hello (some message)) =>
      match environment.authenticate message.token with
      | none => []
      | some bindingId =>
          .accepted socket bindingId ::
            (unbound (service.bindings.insert socket bindingId)
              next.bindings).map .closed
  | .closed _ socket => [.closed socket]
  | .restarted => [.restarted]
  | _ => (unbound service.bindings next.bindings).map .closed

/-- One event of the service, with what it did to the connections. -/
def registryStep (service : ServerAgentService) (event : ServiceEvent) :
    Option (ServerAgentService × List Connection) :=
  some ((serve event service).1,
    connections event service (serve event service).1)

/-- The latest accepted hello of the socket was for the binding, and the
socket has not been closed since. -/
def Speaks
    (history : List Connection) (socket : SocketKey) (bindingId : String) :
    Prop :=
  Standing
    (fun later =>
      later ≠ .closed socket ∧ later ≠ .restarted ∧
        ∀ other, later ≠ .accepted socket other)
    (.accepted socket bindingId) history

/-- The socket speaks for the binding, and no other socket has been accepted
for it since. -/
def Serves
    (history : List Connection) (socket : SocketKey) (bindingId : String) :
    Prop :=
  Standing
    (fun later =>
      (later ≠ .closed socket ∧ later ≠ .restarted ∧
        ∀ other, later ≠ .accepted socket other) ∧
        ∀ replacement, later ≠ .accepted replacement bindingId)
    (.accepted socket bindingId) history

/-- No socket speaks for any binding: every one has been closed. -/
def AllClosed (history : List Connection) : Prop :=
  ∀ socket bindingId, ¬ Speaks history socket bindingId

section Histories

variable {history : List Connection} {socket other : SocketKey}
variable {bindingId owner : String}

theorem Serves.speaks (serves : Serves history socket bindingId) :
    Speaks history socket bindingId := by
  obtain ⟨before, after, shape, kept⟩ := serves
  exact ⟨before, after, shape, fun later member => (kept later member).1⟩

theorem speaks_accepted :
    Speaks (history ++ [.accepted other owner]) socket bindingId ↔
      if socket = other then bindingId = owner
      else Speaks history socket bindingId := by
  unfold Speaks
  rw [standing_concat]
  by_cases same : socket = other
  · subst same
    simp [eq_comm]
  · simp [same, eq_comm]

theorem serves_accepted :
    Serves (history ++ [.accepted other owner]) socket bindingId ↔
      (socket = other ∧ bindingId = owner) ∨
        Serves history socket bindingId ∧ socket ≠ other ∧
          bindingId ≠ owner := by
  unfold Serves
  rw [standing_concat]
  simp only [Connection.accepted.injEq, ne_eq, reduceCtorEq,
    not_false_eq_true, true_and, not_and, eq_comm]
  constructor
  · rintro (same | ⟨stands, others, replacements⟩)
    · exact .inl same
    · refine .inr ⟨stands, ?_, ?_⟩
      · exact fun equality => others owner equality rfl
      · exact fun equality => replacements other rfl equality
  · rintro (same | ⟨stands, differentSocket, differentBinding⟩)
    · exact .inl same
    · exact .inr ⟨stands, fun _ equality => absurd equality differentSocket,
        fun _ _ equality => differentBinding equality⟩

theorem speaks_closed :
    Speaks (history ++ [.closed other]) socket bindingId ↔
      Speaks history socket bindingId ∧ socket ≠ other := by
  unfold Speaks
  rw [standing_concat]
  simp [eq_comm]

theorem serves_closed :
    Serves (history ++ [.closed other]) socket bindingId ↔
      Serves history socket bindingId ∧ socket ≠ other := by
  unfold Serves
  rw [standing_concat]
  simp [eq_comm]

theorem speaks_restarted :
    ¬ Speaks (history ++ [.restarted]) socket bindingId := by
  unfold Speaks
  rw [standing_concat]
  simp

theorem serves_restarted :
    ¬ Serves (history ++ [.restarted]) socket bindingId :=
  fun serves => speaks_restarted serves.speaks

end Histories

@[simp]
theorem unbound_self (bindings : AList fun _ : SocketKey => String) :
    unbound bindings bindings = [] := by
  rw [unbound, List.filter_eq_nil_iff]
  intro socket member
  rw [← AList.mem_keys, ← AList.lookup_isSome] at member
  simpa using Option.isSome_iff_ne_none.mp member

theorem unbound_erase
    {bindings : AList fun _ : SocketKey => String} {socket : SocketKey}
    (member : socket ∈ bindings) :
    unbound bindings (bindings.erase socket) = [socket] := by
  have only : ∀ other ∈ bindings.keys,
      ((bindings.erase socket).lookup other).isNone =
        decide (other = socket) := by
    intro other listed
    by_cases same : other = socket
    · subst same
      simp
    · rw [AList.lookup_erase_ne same]
      rw [← AList.mem_keys, ← AList.lookup_isSome] at listed
      simp [same, listed]
  have once : bindings.keys.count socket = 1 :=
    List.count_eq_one_of_mem bindings.keys_nodup
      (AList.mem_keys.mp member)
  rw [unbound, List.filter_congr only, List.filter_eq, once]
  rfl

/-- `bindings` holds who speaks and `sockets` who serves. -/
structure Follows (view : CommandView) (history : List Connection) : Prop where
  speaks : ∀ socket bindingId,
    view.bindings.lookup socket = some bindingId ↔
      Speaks history socket bindingId
  serves : ∀ bindingId socket,
    view.sockets.lookup bindingId = some socket ↔
      Serves history socket bindingId

namespace Follows

variable {view next : CommandView} {history : List Connection}
variable {socket : SocketKey} {bindingId : String}

theorem bound (follows : Follows view history)
    (registered : view.sockets.lookup bindingId = some socket) :
    view.bindings.lookup socket = some bindingId :=
  (follows.speaks socket bindingId).mpr
    ((follows.serves bindingId socket).mp registered).speaks

theorem congr (follows : Follows view history)
    (sockets : next.sockets = view.sockets)
    (bindings : next.bindings = view.bindings) :
    Follows next history where
  speaks socket bindingId := by rw [bindings, follows.speaks]
  serves bindingId socket := by rw [sockets, follows.serves]

theorem accept (follows : Follows view history)
    (steady : ∀ other, view.sockets.lookup other = some socket →
      other = bindingId) :
    Follows (view.register bindingId socket)
      (history ++ [.accepted socket bindingId]) where
  speaks other owner := by
    change (view.bindings.insert socket bindingId).lookup other = _ ↔ _
    rw [speaks_accepted]
    by_cases same : other = socket
    · subst same
      rw [AList.lookup_insert, if_pos rfl, Option.some.injEq, eq_comm]
    · rw [AList.lookup_insert_ne same, if_neg same, follows.speaks]
  serves owner other := by
    change (view.sockets.insert bindingId socket).lookup owner = _ ↔ _
    rw [serves_accepted]
    by_cases same : owner = bindingId
    · subst same
      rw [AList.lookup_insert, Option.some.injEq]
      constructor
      · rintro rfl
        exact .inl ⟨rfl, rfl⟩
      · rintro (⟨rfl, _⟩ | ⟨_, _, different⟩)
        · rfl
        · exact absurd rfl different
    · rw [AList.lookup_insert_ne same, follows.serves]
      constructor
      · intro serves
        refine .inr ⟨serves, ?_, same⟩
        rintro rfl
        exact same (steady owner ((follows.serves owner other).mpr serves))
      · rintro (⟨_, equality⟩ | ⟨serves, _, _⟩)
        · exact absurd equality same
        · exact serves

theorem close (follows : Follows view history) (socket : SocketKey) :
    Follows (view.close socket) (history ++ [.closed socket]) := by
  unfold CommandView.close
  cases bound : view.bindings.lookup socket with
  | none =>
      have silent : ∀ owner, ¬ Speaks history socket owner := by
        intro owner speaks
        rw [← follows.speaks, bound] at speaks
        cases speaks
      refine ⟨?_, ?_⟩
      · intro other owner
        rw [speaks_closed, follows.speaks]
        constructor
        · intro speaks
          refine ⟨speaks, ?_⟩
          rintro rfl
          exact silent owner speaks
        · exact And.left
      · intro owner other
        rw [serves_closed, follows.serves]
        constructor
        · intro serves
          refine ⟨serves, ?_⟩
          rintro rfl
          exact silent owner serves.speaks
        · exact And.left
  | some bindingId =>
      have speaks : ∀ other owner,
          (view.bindings.erase socket).lookup other = some owner ↔
            Speaks (history ++ [.closed socket]) other owner := by
        intro other owner
        rw [speaks_closed]
        by_cases same : other = socket
        · subst same
          rw [AList.lookup_erase]
          simp
        · rw [AList.lookup_erase_ne same, follows.speaks]
          simp [same]
      by_cases registered : view.sockets.lookup bindingId = some socket
      · simp only [registered, ne_eq, not_true_eq_false, if_false]
        refine ⟨speaks, ?_⟩
        intro owner other
        rw [serves_closed]
        change (view.sockets.erase bindingId).lookup owner = _ ↔ _
        by_cases same : owner = bindingId
        · subst same
          rw [AList.lookup_erase]
          simp only [reduceCtorEq, false_iff, not_and, not_not]
          intro serves
          rw [← follows.serves, registered] at serves
          exact (Option.some.inj serves).symm
        · rw [AList.lookup_erase_ne same, follows.serves]
          refine ⟨fun serves => ⟨serves, ?_⟩, And.left⟩
          rintro rfl
          rw [follows.bound ((follows.serves owner other).mpr serves)]
            at bound
          exact same (Option.some.inj bound)
      · simp only [ne_eq, registered, not_false_eq_true, if_true]
        refine ⟨speaks, ?_⟩
        intro owner other
        rw [serves_closed, follows.serves]
        refine ⟨fun serves => ⟨serves, ?_⟩, And.left⟩
        rintro rfl
        have lookup := (follows.serves owner other).mpr serves
        rw [follows.bound lookup] at bound
        cases bound
        exact registered lookup

theorem dropped (follows : Follows view history) (socket : SocketKey) :
    Follows (view.close socket)
      (history ++ (unbound view.bindings
        (view.close socket).bindings).map .closed) := by
  cases bound : view.bindings.lookup socket with
  | none =>
      have shape : view.close socket = view := by
        simp [CommandView.close, bound]
      rw [shape, unbound_self]
      simpa using follows
  | some bindingId =>
      have bindings :
          (view.close socket).bindings = view.bindings.erase socket := by
        unfold CommandView.close
        rw [bound]
        dsimp only
        split <;> rfl
      have member : socket ∈ view.bindings :=
        AList.lookup_isSome.mp (by simp [bound])
      rw [bindings, unbound_erase member]
      exact follows.close socket

theorem round {environment : Environment}
    (round : Round environment bindingId view next)
    (follows : Follows view history) :
    Follows next
      (history ++ (unbound view.bindings next.bindings).map .closed) := by
  induction round with
  | stopped blocked =>
      rw [unbound_self]
      simpa using follows
  | expired socket command rest reading registered idle first late later ih =>
      exact ih (follows.congr rfl rfl)
  | dropped socket command rest registered idle first throws =>
      exact follows.dropped socket
  | delivered socket command rest reading registered idle first timely =>
      rw [CommandView.deliver, unbound_self, List.map_nil, List.append_nil]
      exact follows.congr rfl rfl

end Follows

/-- An accepted hello does not arrive on a socket that is registered for
another binding. -/
def ServesNoOther (service : ServerAgentService) : ServiceEvent → Prop
  | .message environment socket (.hello (some message)) =>
      ∀ bindingId ∈ environment.authenticate message.token,
        ∀ other ∈ service.sockets.keys,
          service.sockets.lookup other = some socket → other = bindingId
  | _ => True

instance (service : ServerAgentService) (event : ServiceEvent) :
    Decidable (ServesNoOther service event) :=
  match event with
  | .message _ _ (.hello (some _)) => by unfold ServesNoOther; infer_instance
  | .message _ _ (.hello none) | .message _ _ .unreadable
  | .message _ _ .heartbeat | .message _ _ (.status _) | .message _ _ (.log _)
  | .message _ _ (.commandAck _) | .message _ _ (.commandCompleted _ _)
  | .message _ _ (.commandFailed _ _) | .message _ _ (.fsResponse _ _ _ _)
  | .message _ _ .unknown | .opened _ | .helloTimedOut _ | .closed ..
  | .createCommand .. | .requestFilesystem .. | .filesystemTimedOut _
  | .restarted => instDecidableTrue

variable {service : ServerAgentService} {event : ServiceEvent}
variable {environment : Environment}

theorem ServesNoOther.steady
    {socket : SocketKey} {message : AgentHello} {bindingId : String}
    (condition : ServesNoOther service
      (.message environment socket (.hello (some message))))
    (authenticated :
      environment.authenticate message.token = some bindingId) :
    ∀ other, service.sockets.lookup other = some socket →
      other = bindingId := by
  intro other registered
  have listed : other ∈ service.sockets :=
    AList.lookup_isSome.mp (by simp [registered])
  exact condition bindingId authenticated other (AList.mem_keys.mp listed)
    registered

theorem Change.follows
    {view next : CommandView}
    {history : List Connection}
    (change : Change event view next) (follows : Follows view history)
    (notHello : ∀ environment socket message,
      event ≠ .message environment socket (.hello (some message)))
    (notClosed : ∀ environment socket, event ≠ .closed environment socket)
    (notRestarted : event ≠ .restarted) :
    Follows next
      (history ++ (unbound view.bindings next.bindings).map .closed) := by
  cases change with
  | unseen =>
      rw [unbound_self]
      simpa using follows
  | registered environment socket message =>
      exact absurd rfl (notHello environment socket message)
  | greeted environment socket message =>
      exact absurd rfl (notHello environment socket message)
  | acknowledged environment socket owner command bound member owned =>
      rw [CommandView.updateCommands, unbound_self, List.map_nil,
        List.append_nil]
      exact follows.congr rfl rfl
  | finished environment socket message owner command output error bound
      member owned named result dispatched =>
      have finished :
          Follows (view.updateCommands (finishedRow command.id output error
            (environment.clock 0))) history := follows.congr rfl rfl
      have after := Follows.round dispatched finished
      exact after
  | closed environment socket =>
      exact absurd rfl (notClosed environment socket)
  | created environment id owner type input payload unused dispatched =>
      have created :
          Follows (view.create (newCommand id owner type payload
            (environment.clock 0))) history := follows.congr rfl rfl
      have after := Follows.round dispatched created
      exact after
  | restarted => exact absurd rfl notRestarted

/-- An event that neither greets nor ends a session. -/
def ServiceEvent.calm : ServiceEvent → Bool
  | .message _ _ (.hello (some _)) => false
  | .closed _ _ => false
  | .restarted => false
  | _ => true

theorem follows_quiet
    {history : List Connection}
    (follows : Follows (service.view []) history)
    (quiet : connections event service (serve event service).1 =
      (unbound service.bindings (serve event service).1.bindings).map .closed)
    (calm : event.calm = true) :
    Follows (viewAfter (serve event) service [])
      (history ++ connections event service (serve event service).1) := by
  rw [quiet]
  refine (serve_change event service []).follows follows ?_ ?_ ?_
  · intro environment socket message same
    rw [same] at calm
    cases calm
  · intro environment socket same
    rw [same] at calm
    cases calm
  · intro same
    rw [same] at calm
    cases calm

theorem follows_hello
    {history : List Connection}
    {socket : SocketKey} {message : AgentHello}
    {bindingId : String}
    (follows : Follows (service.view []) history)
    (authenticated :
      environment.authenticate message.token = some bindingId)
    (steady : ∀ other, service.sockets.lookup other = some socket →
      other = bindingId) :
    Follows
      (viewAfter (hello environment socket (some message)) service [])
      (history ++ .accepted socket bindingId ::
        (unbound (service.bindings.insert socket bindingId)
          (hello environment socket (some message) service).1.bindings).map
            .closed) := by
  have accepted := follows.accept steady
  rw [List.append_cons]
  rcases @hello_realizes environment socket message bindingId authenticated
      with registers | greets
  · have after := registers service []
    have bindings := congrArg CommandView.bindings after
    change (hello environment socket (some message) service).1.bindings =
      service.bindings.insert socket bindingId at bindings
    rw [after, bindings, unbound_self, List.map_nil, List.append_nil]
    exact accepted
  · exact Follows.round (greets service []) accepted

theorem follows_step
    {service next : ServerAgentService}
    {history now : List Connection}
    (follows : Follows (service.view []) history)
    (condition : ServesNoOther service event)
    (stepped : registryStep service event = some (next, now)) :
    Follows (next.view []) (history ++ now) := by
  simp only [registryStep, Option.some.injEq, Prod.mk.injEq] at stepped
  obtain ⟨rfl, rfl⟩ := stepped
  suffices reached :
      Follows (viewAfter (serve event) service [])
        (history ++ connections event service (serve event service).1) from
    reached.congr rfl rfl
  cases event with
  | closed environment socket =>
      rw [serve, close_realizes environment socket service []]
      exact follows.close socket
  | restarted =>
      refine ⟨?_, ?_⟩
      · intro socket bindingId
        exact iff_of_false (fun bound => by cases bound) speaks_restarted
      · intro bindingId socket
        exact iff_of_false (fun bound => by cases bound) serves_restarted
  | message environment socket message =>
      cases message with
      | hello message =>
          cases message with
          | none => exact follows_quiet follows rfl rfl
          | some message =>
              cases authenticated :
                  environment.authenticate message.token with
              | none =>
                  have shape :
                      serve (.message environment socket
                        (.hello (some message))) service =
                          (service, [.closeAsked socket]) := by
                    change hello environment socket (some message) service = _
                    simp only [hello, authenticated]
                    rfl
                  simp only [viewAfter, shape, connections, authenticated,
                    List.append_nil]
                  exact follows.congr rfl rfl
              | some bindingId =>
                  simp only [connections, authenticated]
                  exact follows_hello follows authenticated
                    (condition.steady authenticated)
      | _ => exact follows_quiet follows rfl rfl
  | _ => exact follows_quiet follows rfl rfl

/-- A message that is handled for the binding of its socket. -/
def AgentMessage.spoken : AgentMessage → Bool
  | .unreadable => false
  | .hello _ => false
  | _ => true

theorem handle_spoken
    {message : AgentMessage} (spoken : message.spoken)
    (environment : Environment) (socket : SocketKey)
    (service : ServerAgentService) :
    handle environment socket message service =
      match service.bindings.lookup socket with
      | none => (service, [.closeAsked socket])
      | some bindingId =>
          ((updateStore fun store =>
            store.touch bindingId (environment.clock 0)).andThen
              (handleBound environment socket bindingId message)) service := by
  cases message with
  | unreadable => cases spoken
  | hello message => cases spoken
  | _ => rfl

/-- What the two maps promise about the history of the connections. -/
structure Coherent
    (service : ServerAgentService) (history : List Connection) : Prop where
  registered : ∀ bindingId socket,
    service.sockets.lookup bindingId = some socket →
      service.bindings.lookup socket = some bindingId
  connected : ∀ bindingId, service.isConnected bindingId ↔
    ∃ socket, Serves history socket bindingId
  attributed : ∀ environment socket message bindingId,
    AgentMessage.spoken message → Speaks history socket bindingId →
      handle environment socket message service =
        ((updateStore fun store =>
          store.touch bindingId (environment.clock 0)).andThen
            (handleBound environment socket bindingId message)) service
  unattributed : ∀ environment socket message,
    AgentMessage.spoken message →
      (∀ bindingId, ¬ Speaks history socket bindingId) →
        handle environment socket message service =
          (service, [.closeAsked socket])
  disconnected : AllClosed history → ∀ bindingId,
    service.isConnected bindingId = false

theorem Follows.isConnected
    {history : List Connection}
    (follows : Follows (service.view []) history) (bindingId : String) :
    service.isConnected bindingId ↔
      ∃ socket, Serves history socket bindingId := by
  rw [ServerAgentService.isConnected, Option.isSome_iff_exists]
  exact exists_congr fun socket => follows.serves bindingId socket

theorem Follows.coherent
    {history : List Connection}
    (follows : Follows (service.view []) history) :
    Coherent service history where
  registered bindingId socket registered := follows.bound registered
  connected := follows.isConnected
  attributed environment socket message bindingId spoken speaks := by
    have bound := (follows.speaks socket bindingId).mpr speaks
    change service.bindings.lookup socket = some bindingId at bound
    rw [handle_spoken spoken, bound]
  unattributed environment socket message spoken silent := by
    have bound : service.bindings.lookup socket = none := by
      by_contra spoken
      obtain ⟨bindingId, lookup⟩ := Option.ne_none_iff_exists'.mp spoken
      exact silent bindingId ((follows.speaks socket bindingId).mp lookup)
    rw [handle_spoken spoken, bound]
  disconnected closed bindingId := by
    by_contra connected
    rw [Bool.not_eq_false, follows.isConnected] at connected
    obtain ⟨socket, serves⟩ := connected
    exact closed socket bindingId serves.speaks

theorem follows_start (store : ServerAgentStore) :
    Follows ((ServerAgentService.new store).view []) [] where
  speaks _ _ := iff_of_false (fun bound => by cases bound) standing_nil
  serves _ _ := iff_of_false (fun bound => by cases bound) standing_nil

/-- If no accepted hello arrives on a socket that is registered for another
binding, the registry is coherent in every state. -/
theorem registry_coherent
    (store : ServerAgentStore) (events : List ServiceEvent)
    (service : ServerAgentService) (history : List Connection)
    (condition : Meets registryStep ServesNoOther
      (ServerAgentService.new store) events)
    (run : execute registryStep (ServerAgentService.new store) events =
      some (service, history)) :
    Coherent service history := by
  have follows : Follows (service.view []) history :=
    execute_induction_of_meets
      (motive := fun service history => Follows (service.view []) history)
      (fun _ _ _ _ _ follows condition stepped =>
        follows_step follows condition stepped)
      (follows_start store) condition run
  exact follows.coherent

theorem Round.rebound
    {bindingId other : String}
    {view next : CommandView} {socket : SocketKey}
    (round : Round environment bindingId view next)
    (different : other ≠ bindingId)
    (bound : view.bindings.lookup socket = some bindingId)
    (registered : view.sockets.lookup bindingId = some socket)
    (kept : view.sockets.lookup other = some socket) :
    next.sockets.lookup other = some socket ∧
      next.bindings.lookup socket ≠ some other := by
  have unlike : some bindingId ≠ some other :=
    fun equality => different (Option.some.inj equality).symm
  induction round with
  | stopped blocked => exact ⟨kept, bound ▸ unlike⟩
  | expired target command rest reading found idle first late later ih =>
      exact ih bound registered kept
  | dropped target command rest found idle first throws =>
      cases registered.symm.trans found
      unfold CommandView.close
      rw [bound]
      simp only [registered, ne_eq, not_true_eq_false, if_false,
        AList.lookup_erase_ne different, AList.lookup_erase, kept]
      exact ⟨trivial, nofun⟩
  | delivered target command rest reading found idle first timely =>
      exact ⟨kept, bound ▸ unlike⟩

/-- A hello on a socket that is registered for another binding breaks the
registry at once. -/
theorem rebinding_hello_breaks
    {service next : ServerAgentService}
    {now : List Connection}
    (rebinds : ¬ ServesNoOther service event)
    (stepped : registryStep service event = some (next, now)) :
    ∃ bindingId socket, next.sockets.lookup bindingId = some socket ∧
      next.bindings.lookup socket ≠ some bindingId := by
  unfold ServesNoOther at rebinds
  split at rebinds
  · rename_i environment socket message
    simp only [registryStep, Option.some.injEq, Prod.mk.injEq] at stepped
    obtain ⟨rfl, -⟩ := stepped
    push Not at rebinds
    obtain ⟨bindingId, authenticated, other, -, kept, different⟩ := rebinds
    refine ⟨other, socket, ?_⟩
    have bound :
        ((service.view []).register bindingId socket).bindings.lookup
          socket = some bindingId := AList.lookup_insert _
    have registered :
        ((service.view []).register bindingId socket).sockets.lookup
          bindingId = some socket := AList.lookup_insert _
    have stays :
        ((service.view []).register bindingId socket).sockets.lookup other =
          some socket := (AList.lookup_insert_ne different).trans kept
    rcases @hello_realizes environment socket message bindingId
        authenticated with registers | greets
    · have view := registers service []
      have sockets := congrArg CommandView.sockets view
      have bindings := congrArg CommandView.bindings view
      refine ⟨(congrArg (AList.lookup other) sockets).trans stays, ?_⟩
      intro equality
      have same := (congrArg (AList.lookup socket) bindings).trans bound
      cases (Eq.symm same).trans equality
      exact different rfl
    · exact (greets service []).rebound different bound registered stays
  · exact absurd trivial rebinds

def twoTokens : Environment where
  authenticate token :=
    if token = "first" then some "lobby"
    else if token = "second" then some "survival"
    else none
  clock _ := 10
  throws _ _ := none

def helloWith (token : String) : AgentMessage :=
  .hello (some ⟨token, "0.2.0", "game-1", [some "systemd"]⟩)

/-- One socket says hello with the tokens of two bindings and is closed. -/
def reboundEvents : List ServiceEvent :=
  [.opened 1, .message twoTokens 1 (helloWith "first"),
    .message twoTokens 1 (helloWith "second"), .closed twoTokens 1]

/-- Every socket has been closed, and the first binding is still reported
connected. -/
theorem rebound_socket_stays_connected :
    ∃ service history,
      execute registryStep (ServerAgentService.new ServerAgentStore.empty)
          reboundEvents = some (service, history) ∧
        AllClosed history ∧ service.isConnected "lobby" = true ∧
          ¬ Coherent service history := by
  have reached :
      (execute registryStep (ServerAgentService.new ServerAgentStore.empty)
        reboundEvents).map
          (fun result => (result.1.isConnected "lobby", result.2)) =
        some (true, [.accepted 1 "lobby", .accepted 1 "survival",
          .closed 1]) := by
    decide +kernel
  obtain ⟨⟨service, history⟩, run, shape⟩ :=
    Option.map_eq_some_iff.mp reached
  obtain ⟨connected, rfl⟩ := Prod.mk.inj shape
  have closed : AllClosed
      [.accepted 1 "lobby", .accepted 1 "survival", .closed 1] := by
    intro socket bindingId speaks
    obtain ⟨spoken, notClosed⟩ := (@speaks_closed
      [.accepted 1 "lobby", .accepted 1 "survival"] socket 1 bindingId).mp
        speaks
    rw [show [Connection.accepted 1 "lobby", .accepted 1 "survival"] =
        [.accepted 1 "lobby"] ++ [.accepted 1 "survival"] from rfl,
      speaks_accepted, if_neg notClosed] at spoken
    have none := (@speaks_accepted [] socket 1 bindingId "lobby").mp spoken
    rw [if_neg notClosed] at none
    exact standing_nil none
  refine ⟨service, _, run, closed, connected, ?_⟩
  intro coherent
  cases connected.symm.trans (coherent.disconnected closed "lobby")

def twoAgentsEvents : List ServiceEvent :=
  [.opened 1, .message twoTokens 1 (helloWith "first"), .opened 2,
    .message twoTokens 2 (helloWith "second"),
    .message twoTokens 3 (helloWith "first"), .closed twoTokens 1,
    .closed twoTokens 2]

theorem registry_coherent_two_agents :
    ∃ service history,
      execute registryStep (ServerAgentService.new ServerAgentStore.empty)
          twoAgentsEvents = some (service, history) ∧
        service.isConnected "lobby" = true ∧
          service.isConnected "survival" = false ∧
            Coherent service history := by
  have reached :
      (execute registryStep (ServerAgentService.new ServerAgentStore.empty)
        twoAgentsEvents).map
          (fun result => (result.1.isConnected "lobby",
            result.1.isConnected "survival")) = some (true, false) := by
    decide +kernel
  obtain ⟨⟨service, history⟩, run, shape⟩ :=
    Option.map_eq_some_iff.mp reached
  obtain ⟨lobby, survival⟩ := Prod.mk.inj shape
  exact ⟨service, history, run, lobby, survival,
    registry_coherent ServerAgentStore.empty twoAgentsEvents service history
      (by decide +kernel) run⟩

end GravitPanel.Servers
