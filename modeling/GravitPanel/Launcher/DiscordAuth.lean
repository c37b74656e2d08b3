import GravitPanel.Core.Dictionary

/-!
# Browser authorization

The authorizations of `DiscordAuthCoreProvider.java` that a launcher starts and
a browser completes.  The maps are shared by threads and only
`createPendingState` is synchronized, so a call is kept as the operation on the
maps that it does next, and calls may alternate after each of them.  Clock
readings are milliseconds.
-/

namespace GravitPanel.Launcher

variable {Client Report : Type}

def PENDING_STATE_TTL_MS : Int := 10 * 60 * 1000

def COMPLETED_AUTH_TTL_MS : Int := 2 * 60 * 1000

/-- Pending states and completions are compared by reference: `identity` is
the number of the object. -/
structure PendingAuthState (Client : Type) where
  identity : Nat
  client : Client
  createdAt : Int
  deriving DecidableEq, Repr

structure CompletedAuth (Report : Type) where
  identity : Nat
  report : Report
  createdAt : Int
  deriving DecidableEq, Repr

/-- The provider with its maps; `allocated` is the number of objects that were
constructed. -/
structure DiscordAuthCoreProvider (Client Report : Type) where
  pendingStates : Dictionary String (PendingAuthState Client)
  completedAuth : Dictionary Client (CompletedAuth Report)
  completedAuthByState : Dictionary String (CompletedAuth Report)
  allocated : Nat

/-- A thrown exception with its message, or `AuthException.userNotFound()`. -/
inductive AuthProblem where
  | message (text : String)
  | userNotFound
  deriving DecidableEq, Repr

/-- What follows `cleanupExpiredStates` in the call that runs it. -/
inductive AfterCleanup (Client Report : Type) where
  | createPendingState (client : Client)
  | consumePendingState (state : String) (client : Client)
  | complete (client : Client) (report : Report)
  | consume (client : Client)
  | nothing
  deriving DecidableEq, Repr

/-- A pass of `removeIf` over a map, with the keys it has still to visit. -/
inductive CleanupPass (Client : Type) where
  | pendingStates (remaining : List String)
  | completedAuth (remaining : List Client)
  | completedAuthByState (remaining : List String)
  deriving DecidableEq, Repr

/-- What a running call does next. -/
inductive AuthCall (Client Report : Type) where
  /-- `cleanupExpiredStates` reads the clock. -/
  | readClock (next : AfterCleanup Client Report)
  | clean (now : Int) (pass : CleanupPass Client)
      (next : AfterCleanup Client Report)
  /-- `createPendingState` looks for the client and stores a new state. -/
  | scan (client : Client) (remaining : List String)
  | register (state : String) (pending : PendingAuthState Client)
  /-- `consumePendingState` reads the state and removes what it has read. -/
  | look (state : String) (client : Client)
  | withdraw (state : String) (pending : PendingAuthState Client)
  /-- `completeBrowserAuthorization` removes the state, or all states of the
  client, and stores a new completion. -/
  | detach (state : String) (report : Report)
  | discard (client : Client) (report : Report) (remaining : List String)
  | construct (client : Client) (report : Report) (state : Option String)
  | store (client : Client) (completed : CompletedAuth Report)
      (state : Option String)
  | index (state : String) (completed : CompletedAuth Report)
  /-- `consumeBrowserAuthorization` removes the completion of the client; the
  cleanup has read the given time. -/
  | consume (client : Client) (now : Int)
  /-- `consumeBrowserAuthorizationState` removes the completion of the state,
  and then the entries of its client. -/
  | take (state : String)
  | drop (completed : CompletedAuth Report)
  deriving DecidableEq, Repr

namespace DiscordAuthCoreProvider

def new : DiscordAuthCoreProvider Client Report :=
  ⟨.empty, .empty, .empty, 0⟩

def cleanupExpiredStates : AuthCall Client Report :=
  .readClock .nothing

def createPendingState (client : Client) : AuthCall Client Report :=
  .readClock (.createPendingState client)

def consumePendingState (state : String) (client : Client) :
    AuthCall Client Report :=
  .readClock (.consumePendingState state client)

/-- `completeBrowserAuthorization` with a state. -/
def completeBrowserAuthorizationState (state : String) (report : Report) :
    AuthCall Client Report :=
  .detach state report

/-- `completeBrowserAuthorization` with a client. -/
def completeBrowserAuthorization (client : Client) (report : Report) :
    AuthCall Client Report :=
  .readClock (.complete client report)

def consumeBrowserAuthorization (client : Client) : AuthCall Client Report :=
  .readClock (.consume client)

def consumeBrowserAuthorizationState (state : String) :
    AuthCall Client Report :=
  .take state

/-- `createPendingState` holds the monitor of the provider until it
returns. -/
def synchronized : AuthCall Client Report → Bool
  | .readClock (.createPendingState _) => true
  | .clean _ _ (.createPendingState _) => true
  | .scan _ _ => true
  | .register _ _ => true
  | _ => false

end DiscordAuthCoreProvider

/-- A completion that a call has taken out of the map that it asks, with the
time and the state that was asked for; it is absent if the client asked. -/
structure Delivery (Report : Type) where
  completed : CompletedAuth Report
  time : Int
  state : Option String
  deriving DecidableEq, Repr

/-- What a call returns; a delivered completion is returned by its report. -/
inductive AuthAnswer (Report : Type) where
  | cleaned
  | pendingState (state : String)
  | consumed (found : Bool)
  | stored
  | delivered (delivery : Delivery Report)
  | made (report : Report)
  | failed (problem : AuthProblem)
  deriving DecidableEq, Repr

/-- What an operation does to the entry of a client in `completedAuth`. -/
inductive ClientOperation (Client : Type) where
  | stored (client : Client) (identity : Nat)
  | asked (client : Client)
  | expired (client : Client)
  | dropped (identity : Nat)
  deriving DecidableEq, Repr

/-- The result of one operation: the provider, the rest of the call unless it
returns, its answer, and the change of `completedAuth`. -/
structure AuthResult (Client Report : Type) where
  provider : DiscordAuthCoreProvider Client Report
  rest : Option (AuthCall Client Report)
  answers : List (AuthAnswer Report)
  operations : List (ClientOperation Client)

inductive VisitedKey (Client : Type) where
  | state (state : String)
  | client (client : Client)
  deriving DecidableEq, Repr

namespace DiscordAuthCoreProvider

/-- A call that goes on without having changed `completedAuth`. -/
def continues
    (provider : DiscordAuthCoreProvider Client Report)
    (rest : AuthCall Client Report) : AuthResult Client Report :=
  ⟨provider, some rest, [], []⟩

/-- A call that returns without having changed `completedAuth`. -/
def returns
    (provider : DiscordAuthCoreProvider Client Report)
    (answer : AuthAnswer Report) : AuthResult Client Report :=
  ⟨provider, none, [answer], []⟩

def expiredState : AuthProblem := .message "Authorization link expired"

def unfinished : AuthProblem :=
  .message "Complete Discord authorization in your browser first"

/-- The call goes on after `cleanupExpiredStates`. -/
def afterCleanup
    (now : Int) (provider : DiscordAuthCoreProvider Client Report) :
    AfterCleanup Client Report → AuthResult Client Report
  | .createPendingState client =>
      provider.continues (.scan client provider.pendingStates.keys)
  | .consumePendingState state client =>
      provider.continues (.look state client)
  | .complete client report =>
      provider.continues (.discard client report provider.pendingStates.keys)
  | .consume client => provider.continues (.consume client now)
  | .nothing => provider.returns .cleaned

section Operations

variable [DecidableEq Client]

def expirePending (now : Int) (state : String)
    (provider : DiscordAuthCoreProvider Client Report) :
    DiscordAuthCoreProvider Client Report :=
  { provider with
    pendingStates := provider.pendingStates.removeIf fun entry =>
      entry.1 = state ∧ now - entry.2.createdAt > PENDING_STATE_TTL_MS }

def expireClient (now : Int) (client : Client)
    (provider : DiscordAuthCoreProvider Client Report) :
    DiscordAuthCoreProvider Client Report :=
  { provider with
    completedAuth := provider.completedAuth.removeIf fun entry =>
      entry.1 = client ∧ now - entry.2.createdAt > COMPLETED_AUTH_TTL_MS }

def expireState (now : Int) (state : String)
    (provider : DiscordAuthCoreProvider Client Report) :
    DiscordAuthCoreProvider Client Report :=
  { provider with
    completedAuthByState := provider.completedAuthByState.removeIf fun entry =>
      entry.1 = state ∧ now - entry.2.createdAt > COMPLETED_AUTH_TTL_MS }

/-- The entry of the client that the pass removes, if it does. -/
def expiredClient (now : Int) (client : Client)
    (provider : DiscordAuthCoreProvider Client Report) :
    List (ClientOperation Client) :=
  match provider.completedAuth.get client with
  | some completed =>
      if now - completed.createdAt > COMPLETED_AUTH_TTL_MS then
        [.expired client]
      else []
  | none => []

/-- A pass visits a key.  A key that was stored after the pass began may be
visited or not. -/
def visit (key : VisitedKey Client)
    (provider : DiscordAuthCoreProvider Client Report) :
    AuthCall Client Report → Option (AuthResult Client Report)
  | .clean now (.pendingStates remaining) next =>
      match key with
      | .state state =>
          some ((provider.expirePending now state).continues
            (.clean now (.pendingStates (remaining.filter (· ≠ state))) next))
      | .client _ => none
  | .clean now (.completedAuth remaining) next =>
      match key with
      | .state _ => none
      | .client client =>
          some
            { provider.expireClient now client |>.continues
                (.clean now
                  (.completedAuth (remaining.filter (· ≠ client))) next) with
              operations := provider.expiredClient now client }
  | .clean now (.completedAuthByState remaining) next =>
      match key with
      | .state state =>
          some ((provider.expireState now state).continues
            (.clean now
              (.completedAuthByState (remaining.filter (· ≠ state))) next))
      | .client _ => none
  | .scan client remaining =>
      match key with
      | .state state =>
          if (provider.pendingStates.get state).map
              PendingAuthState.client = some client then
            some (provider.returns (.pendingState state))
          else
            some (provider.continues
              (.scan client (remaining.filter (· ≠ state))))
      | .client _ => none
  | .discard client report remaining =>
      match key with
      | .state state =>
          some ({ provider with
            pendingStates := provider.pendingStates.removeIf fun entry =>
              entry.1 = state ∧ entry.2.client = client }.continues
                (.discard client report (remaining.filter (· ≠ state))))
      | .client _ => none
  | _ => none

/-- A call does its next operation, if that is not a visit; `now` is what it
reads from the clock and `token` the random token it draws. -/
def advance (now : Int) (token : String)
    (provider : DiscordAuthCoreProvider Client Report) :
    AuthCall Client Report → Option (AuthResult Client Report)
  | .readClock next =>
      some (provider.continues
        (.clean now (.pendingStates provider.pendingStates.keys) next))
  | .clean started (.pendingStates []) next =>
      some (provider.continues
        (.clean started (.completedAuth provider.completedAuth.keys) next))
  | .clean started (.completedAuth []) next =>
      some (provider.continues
        (.clean started
          (.completedAuthByState provider.completedAuthByState.keys) next))
  | .clean started (.completedAuthByState []) next =>
      some (provider.afterCleanup started next)
  | .scan client [] =>
      some ({ provider with allocated := provider.allocated + 1 }.continues
        (.register token ⟨provider.allocated, client, now⟩))
  | .register state pending =>
      some ({ provider with
        pendingStates := provider.pendingStates.put state pending }.returns
          (.pendingState state))
  | .look state client =>
      match provider.pendingStates.get state with
      | none => some (provider.returns (.consumed false))
      | some pending =>
          if pending.client = client then
            some (provider.continues (.withdraw state pending))
          else
            some (provider.returns (.consumed false))
  | .withdraw state pending =>
      some ({ provider with
        pendingStates := provider.pendingStates.removeIf fun entry =>
          entry.1 = state ∧ entry.2.identity = pending.identity }.returns
            (.consumed (decide ((provider.pendingStates.get state).map
              PendingAuthState.identity = some pending.identity))))
  | .detach state report =>
      match provider.pendingStates.get state with
      | none => some (provider.returns (.failed expiredState))
      | some pending =>
          some ({ provider with
            pendingStates := provider.pendingStates.remove state }.continues
              (.construct pending.client report (some state)))
  | .discard client report [] =>
      some (provider.continues (.construct client report none))
  | .construct client report state =>
      some ({ provider with allocated := provider.allocated + 1 }.continues
        (.store client ⟨provider.allocated, report, now⟩ state))
  | .store client completed state =>
      some
        { provider := { provider with
            completedAuth := provider.completedAuth.put client completed }
          rest := state.map fun state => .index state completed
          answers := if state.isNone then [.stored] else []
          operations := [.stored client completed.identity] }
  | .index state completed =>
      some ({ provider with
        completedAuthByState :=
          provider.completedAuthByState.put state completed }.returns .stored)
  | .consume client _ =>
      some
        { provider := { provider with
            completedAuth := provider.completedAuth.remove client }
          rest := none
          answers := match provider.completedAuth.get client with
            | none => [.failed unfinished]
            | some completed => [.delivered ⟨completed, now, none⟩]
          operations := [.asked client] }
  | .take state =>
      match provider.completedAuthByState.get state with
      | none => some (provider.returns (.failed unfinished))
      | some completed =>
          some
            { provider := { provider with
                completedAuthByState :=
                  provider.completedAuthByState.remove state }
              rest := some (.drop completed)
              answers := [.delivered ⟨completed, now, some state⟩]
              operations := [] }
  | .drop completed =>
      some
        { provider := { provider with
            completedAuth := provider.completedAuth.removeIf fun entry =>
              entry.2.identity = completed.identity }
          rest := none
          answers := []
          operations := [.dropped completed.identity] }
  | _ => none

end Operations

end DiscordAuthCoreProvider

inductive AuthPassword where
  | code (uri : Option String)
  | plain (password : String)
  | other
  deriving DecidableEq, Repr

/-- What comes from the module's configuration, the Discord API and the user
storage in one call: whether `ensureInitialized` returns, the report for a code
and the report for a stored user. -/
structure Discord (Report : Type) where
  initialized : Bool
  authorizeByCode : String → Bool → Except AuthProblem Report
  reportForUsername : String → Bool → Option Report

/-- What an authorization leads to: a call that asks for a completion, or a
report that is made for it. -/
inductive Authorized (Client Report : Type) where
  | asks (call : AuthCall Client Report)
  | made (report : Report)
  deriving DecidableEq, Repr

/-- `Character.isWhitespace`. -/
def isWhitespace (character : Char) : Bool :=
  let code := character.toNat
  (9 ≤ code && code ≤ 13) || (28 ≤ code && code ≤ 32) || code == 0x1680 ||
    (0x2000 ≤ code && code ≤ 0x200a && code != 0x2007) ||
      code == 0x2028 || code == 0x2029 || code == 0x205f || code == 0x3000

def isBlank (text : String) : Bool :=
  text.toList.all isWhitespace

/-- The text after `state:`. -/
def statePart (uri : String) : Option String :=
  if "state:".toList <+: uri.toList then
    some (String.ofList (uri.toList.drop "state:".toList.length))
  else
    none

namespace DiscordAuthCoreProvider

/-- `authorize` for the connection of a launcher, if there is one. -/
def authorize
    (discord : Discord Report) (login : String) (client : Option Client)
    (password : AuthPassword) (minecraftAccess : Bool) :
    Except AuthProblem (Authorized Client Report) :=
  if !discord.initialized then
    .error (.message "DiscordAuthSystem module is not initialized")
  else
    match password with
    | .code none => consumed client
    | .code (some uri) =>
        if isBlank uri then consumed client
        else
          match statePart uri with
          | some state =>
              .ok (.asks (consumeBrowserAuthorizationState state))
          | none => (discord.authorizeByCode uri minecraftAccess).map .made
    | .plain password =>
        if password = "sudo" then
          match discord.reportForUsername login minecraftAccess with
          | some report => .ok (.made report)
          | none => .error .userNotFound
        else
          .error .userNotFound
    | .other => .error .userNotFound
where
  /-- The branch without a code. -/
  consumed (client : Option Client) :
      Except AuthProblem (Authorized Client Report) :=
    match client with
    | none =>
        .error (.message ("Discord browser authorization requires a " ++
          "launcher connection"))
    | some client => .ok (.asks (consumeBrowserAuthorization client))

end DiscordAuthCoreProvider

end GravitPanel.Launcher
