import GravitPanel.Core.Execution
import GravitPanel.Core.History
import GravitPanel.PanelAuth.Sessions
import GravitPanel.Portal.SingleUse

/-!
# Requests that the panel admits

The guard lets a request through for a session only if somebody who was on the
allowlist opened it, and nobody has logged out of it since.  Every session is
opened by a login of its own, and every login begins with a state that was
issued and not taken before.
-/

namespace GravitPanel.PanelAuth

open GravitPanel.Execution GravitPanel.History Program
open Portal (isoText textLE textLE_of_spent)
open IsoDate (tenThousand)

/-- The service and the codes of the logins that wait for Discord. -/
structure PanelRun where
  service : PanelAuthService
  waiting : List String
  deriving DecidableEq, Repr

inductive PanelEvent where
  | login (readings : Readings) (state : String)
  | callback (now : Nat) (callback : Callback)
  | answered (index : Nat) (discord : Discord) (readings : Readings)
      (session : String)
  | requested (now : Nat) (request : PanelRequest)
  | shown (now : Nat) (cookie : Option String)
  | loggedOut (cookie : Option String)
  | restarted (configuration : PanelAuthConfiguration)

/-- What happens to states and sessions; they are named by their hashes, and a
lifetime by the time it begins. -/
inductive PanelRecord where
  | issued (stateHash : String) (begins : Nat)
  | taken (stateHash : String) (now : Nat)
  | opened (sessionHash : String) (user : PanelUser) (begins : Nat)
      (allowed : List String)
  | recognized (sessionHash : String) (user : PanelUser) (now : Nat)
  | revoked (sessionHash : String)
  deriving DecidableEq, Repr

section Runs

variable (environment : PanelEnvironment)

def tokenHash (cookie : Option String) : String :=
  environment.hash (cookie.getD "")

def loginStep (run : PanelRun) (readings : Readings) (state : String) :
    PanelRun × List PanelRecord :=
  match loginRoute environment readings state run.service with
  | (.ok (some _), service) =>
      ({ run with service },
        [.issued (environment.hash state) readings.lifetime])
  | (_, service) => ({ run with service }, [])

/-- A callback whose state is taken waits for Discord with its code. -/
def callbackStep (run : PanelRun) (now : Nat) (callback : Callback) :
    PanelRun × List PanelRecord :=
  match callbackRoute environment now callback run.service with
  | (.ok (some (code, state)), service) =>
      (⟨service, run.waiting ++ [code]⟩,
        [.taken (environment.hash state) now])
  | (_, service) => ({ run with service }, [])

def answeredStep (run : PanelRun) (index : Nat) (code : String)
    (discord : Discord) (readings : Readings) (session : String) :
    PanelRun × List PanelRecord :=
  match completeLogin environment discord readings code session
      run.service with
  | (.ok user, service) =>
      (⟨service, run.waiting.eraseIdx index⟩,
        [.opened (environment.hash session) user readings.lifetime
          run.service.configuration.allowedDiscordUserIds])
  | (.error _, service) => (⟨service, run.waiting.eraseIdx index⟩, [])

def requestedStep (run : PanelRun) (now : Nat) (request : PanelRequest) :
    PanelRun × List PanelRecord :=
  match guard environment now request run.service with
  | (.ok (.authenticated stored), service) =>
      ({ run with service },
        [.recognized (tokenHash environment request.cookie) stored.user now])
  | (_, service) => ({ run with service }, [])

/-- `/session`, which shows the user of a session. -/
def shownStep (run : PanelRun) (now : Nat) (cookie : Option String) :
    PanelRun × List PanelRecord :=
  match session environment now cookie run.service with
  | (.ok (some stored), service) =>
      ({ run with service },
        [.recognized (tokenHash environment cookie) stored.user now])
  | (_, service) => ({ run with service }, [])

def loggedOutStep (run : PanelRun) (cookie : Option String) :
    PanelRun × List PanelRecord :=
  ({ run with service := (revokeSession environment cookie run.service).2 },
    if truthy cookie then [.revoked (tokenHash environment cookie)] else [])

/-- A restart keeps the tables, its configuration may be another one, and the
logins that waited are lost. -/
def panelStep (run : PanelRun) :
    PanelEvent → Option (PanelRun × List PanelRecord)
  | .login readings state => some (loginStep environment run readings state)
  | .callback now callback => some (callbackStep environment run now callback)
  | .answered index discord readings session =>
      run.waiting[index]?.map fun code =>
        answeredStep environment run index code discord readings session
  | .requested now request =>
      some (requestedStep environment run now request)
  | .shown now cookie => some (shownStep environment run now cookie)
  | .loggedOut cookie => some (loggedOutStep environment run cookie)
  | .restarted configuration =>
      some (⟨{ run.service with configuration }, []⟩, [])

end Runs

def OpenSession
    (history : List PanelRecord) (sessionHash : String) (user : PanelUser)
    (begins : Nat) : Prop :=
  ∃ allowed,
    Standing (· ≠ .revoked sessionHash)
      (.opened sessionHash user begins allowed) history ∧
      user.discordId ∈ allowed

def IssuedState
    (history : List PanelRecord) (stateHash : String) (begins : Nat) : Prop :=
  Standing (fun later => ∀ now, later ≠ .taken stateHash now)
    (.issued stateHash begins) history

def PanelRecord.isTaken : PanelRecord → Bool
  | .taken _ _ => true
  | _ => false

def PanelRecord.isOpened : PanelRecord → Bool
  | .opened _ _ _ _ => true
  | _ => false

/-- What is promised about a record behind what happened before it. -/
def Justified (before : List PanelRecord) : PanelRecord → Prop
  | .recognized sessionHash user now =>
      ∃ begins, OpenSession before sessionHash user begins ∧
        (now < tenThousand → now < begins + sessionLifetimeMs)
  | .taken stateHash now =>
      ∃ begins, IssuedState before stateHash begins ∧
        (now < tenThousand → now < begins + stateLifetimeMs)
  | .opened _ _ _ _ =>
      before.countP PanelRecord.isOpened < before.countP PanelRecord.isTaken
  | _ => True

def Sound (history : List PanelRecord) : Prop :=
  ∀ before record after, history = before ++ record :: after →
    Justified before record

theorem sound_nil : Sound [] := by
  intro before record after split
  cases before <;> cases split

theorem Sound.concat {history : List PanelRecord} {record : PanelRecord}
    (sound : Sound history) (justified : Justified history record) :
    Sound (history ++ [record]) := by
  intro before other after split
  rcases append_split split with ⟨rest, earlier⟩ | ⟨earlier, rfl, last⟩
  · exact sound before other rest earlier
  · cases earlier with
    | nil =>
        cases last
        rwa [List.append_nil]
    | cons head tail =>
        have short := congrArg List.length last
        simp only [List.length_append, List.length_cons,
          List.length_nil] at short
        omega

/-- Every row of the tables goes back to the history. -/
structure Tables (history : List PanelRecord) (service : PanelAuthService) :
    Prop where
  sessions : ∀ row ∈ service.sessions, ∃ begins,
    isoText (begins + sessionLifetimeMs) = .ok row.expiresAt ∧
      OpenSession history row.sessionHash row.user begins
  states : ∀ row ∈ service.states, ∃ begins,
    isoText (begins + stateLifetimeMs) = .ok row.2 ∧
      IssuedState history row.1 begins

section Tables

variable {history : List PanelRecord} {service next : PanelAuthService}

theorem Tables.subset (tables : Tables history service)
    (sessions : ∀ row ∈ next.sessions, row ∈ service.sessions)
    (states : ∀ row ∈ next.states, row ∈ service.states) :
    Tables history next where
  sessions row member := tables.sessions row (sessions row member)
  states row member := tables.states row (states row member)

variable {begins : Nat}

theorem OpenSession.concat {record : PanelRecord} {sessionHash : String}
    {user : PanelUser}
    (opened : OpenSession history sessionHash user begins)
    (kept : record ≠ .revoked sessionHash) :
    OpenSession (history ++ [record]) sessionHash user begins := by
  obtain ⟨allowed, standing, listed⟩ := opened
  exact ⟨allowed, standing_concat.mpr (.inr ⟨standing, kept⟩), listed⟩

theorem IssuedState.concat {record : PanelRecord} {stateHash : String}
    (issued : IssuedState history stateHash begins)
    (kept : ∀ now, record ≠ .taken stateHash now) :
    IssuedState (history ++ [record]) stateHash begins :=
  standing_concat.mpr (.inr ⟨issued, kept⟩)

theorem Tables.concat {record : PanelRecord} (tables : Tables history service)
    (sessions : ∀ row ∈ service.sessions, record ≠ .revoked row.sessionHash)
    (states : ∀ row ∈ service.states, ∀ now, record ≠ .taken row.1 now) :
    Tables (history ++ [record]) service where
  sessions row member := by
    obtain ⟨begins, expires, opened⟩ := tables.sessions row member
    exact ⟨begins, expires, opened.concat (sessions row member)⟩
  states row member := by
    obtain ⟨begins, expires, issued⟩ := tables.states row member
    exact ⟨begins, expires, issued.concat (states row member)⟩

theorem Tables.insertSession {row : SessionRow}
    {allowed : List String} (tables : Tables history service)
    (expires : isoText (begins + sessionLifetimeMs) = .ok row.expiresAt)
    (listed : row.user.discordId ∈ allowed) :
    Tables
      (history ++ [.opened row.sessionHash row.user begins allowed])
      { service with sessions := service.sessions ++ [row] } where
  sessions other member := by
    rcases List.mem_append.mp member with earlier | new
    · obtain ⟨start, valid, opened⟩ := tables.sessions other earlier
      exact ⟨start, valid, opened.concat fun same => by cases same⟩
    · rw [List.mem_singleton.mp new]
      exact ⟨begins, expires, allowed, standing_concat.mpr (.inl rfl), listed⟩
  states other member := by
    obtain ⟨start, valid, issued⟩ := tables.states other member
    exact ⟨start, valid, issued.concat fun now same => by cases same⟩

theorem Tables.insertState {stateHash expiresAt : String}
    (tables : Tables history service)
    (expires : isoText (begins + stateLifetimeMs) = .ok expiresAt) :
    Tables (history ++ [.issued stateHash begins])
      { service with states := service.states ++ [(stateHash, expiresAt)] }
    where
  sessions other member := by
    obtain ⟨start, valid, opened⟩ := tables.sessions other member
    exact ⟨start, valid, opened.concat fun same => by cases same⟩
  states other member := by
    rcases List.mem_append.mp member with earlier | new
    · obtain ⟨start, valid, issued⟩ := tables.states other earlier
      exact ⟨start, valid, issued.concat fun now same => by cases same⟩
    · rw [List.mem_singleton.mp new]
      exact ⟨begins, expires, standing_concat.mpr (.inl rfl)⟩

variable {environment : PanelEnvironment}

/-- The tables of a service whose configuration is known. -/
structure At (configuration : PanelAuthConfiguration)
    (history : List PanelRecord) (service : PanelAuthService) : Prop where
  configuration : service.configuration = configuration
  tables : Tables history service

/-- No row has expired at a time. -/
def Unexpired (now : Nat) (service : PanelAuthService) : Prop :=
  ∃ time, isoText now = .ok time ∧
    (∀ row ∈ service.sessions, textLE row.expiresAt time = false) ∧
      ∀ row ∈ service.states, textLE row.2 time = false

theorem begins_of_unexpired {now begins lifetime : Nat}
    {time expiresAt : String} (valid : isoText now = .ok time)
    (expires : isoText (begins + lifetime) = .ok expiresAt)
    (kept : textLE expiresAt time = false) (early : now < tenThousand) :
    now < begins + lifetime := by
  by_contra spent
  have deleted := textLE_of_spent valid expires early
    (.inl (Nat.le_of_not_lt spent))
  rw [kept] at deleted
  cases deleted

variable {configuration : PanelAuthConfiguration}

theorem triple_cleanupExpired (now : Nat) :
    Triple (At configuration history) (cleanupExpired now)
      (fun _ service => At configuration history service ∧
        Unexpired now service)
      (fun _ => At configuration history) := by
  refine Triple.lift_bind (fun _ _ _ holds => holds) ?_
  intro time valid service holds
  refine ⟨⟨holds.configuration, ?_⟩, time, valid, ?_, ?_⟩
  · exact holds.tables.subset
      (fun row member => (List.mem_filter.mp member).1)
      (fun row member => (List.mem_filter.mp member).1)
  · intro row member
    have kept := (List.mem_filter.mp member).2
    rwa [Bool.not_eq_true'] at kept
  · intro row member
    have kept := (List.mem_filter.mp member).2
    rwa [Bool.not_eq_true'] at kept

theorem keeps_cleanupExpired (now : Nat) :
    Keeps (At configuration history) (cleanupExpired now) :=
  (triple_cleanupExpired now).weaken (fun _ holds => holds)
    (fun _ _ both => both.1) (fun _ _ holds => holds)

theorem keeps_requireConfigured :
    Keeps (At configuration history) (requireConfigured environment) := by
  intro service holds
  unfold requireConfigured
  by_cases configured : service.configuration.configured environment = true
  · rw [if_pos configured]
    exact holds
  · rw [if_neg configured]
    exact holds

theorem triple_insertState {stateHash expiresAt : String}
    (expires : isoText (begins + stateLifetimeMs) = .ok expiresAt) :
    Triple (At configuration history) (insertState stateHash expiresAt)
      (fun _ => At configuration (history ++ [.issued stateHash begins]))
      (fun _ => At configuration history) := by
  intro service holds
  unfold insertState
  by_cases taken : stateHash ∈ service.states.map Prod.fst
  · rw [if_pos taken]
    exact holds
  · rw [if_neg taken]
    exact ⟨holds.configuration, holds.tables.insertState expires⟩

theorem triple_createState (readings : Readings) (state : String) :
    Triple (At configuration history)
      (createState environment readings state)
      (fun _ => At configuration
        (history ++ [.issued (environment.hash state) readings.lifetime]))
      (fun _ => At configuration history) := by
  refine Triple.bind keeps_requireConfigured fun _ => ?_
  refine Triple.bind (keeps_cleanupExpired readings.cleanup) fun _ => ?_
  refine Triple.lift_bind ?_ ?_
  · exact fun _ _ _ holds => holds
  intro expiresAt expires
  refine Triple.bind (triple_insertState expires) fun _ => ?_
  exact fun service holds => holds

variable (environment) in
theorem triple_loginRoute (readings : Readings) (state : String) :
    Triple (At configuration history) (loginRoute environment readings state)
      (fun issued => At configuration (history ++
        if issued.isSome then
          [.issued (environment.hash state) readings.lifetime]
        else []))
      (fun _ => At configuration history) := by
  have stays : Triple (At configuration history)
      (pure none : Program PanelAuthService String (Option String))
      (fun issued => At configuration (history ++
        if issued.isSome then
          [.issued (environment.hash state) readings.lifetime]
        else []))
      (fun _ => At configuration history) := by
    intro service holds
    change At configuration (history ++ []) service
    rwa [List.append_nil]
  refine Triple.bind keeps_get fun service => ?_
  by_cases enabled : service.configuration.enabled = true
  · rw [enabled, Bool.not_true, if_neg Bool.false_ne_true]
    by_cases configured : service.configuration.configured environment = true
    · rw [configured, Bool.not_true, if_neg Bool.false_ne_true]
      refine Triple.bind (triple_createState readings state) fun _ => ?_
      exact fun service holds => holds
    · rw [Bool.not_eq_true] at configured
      rw [configured, Bool.not_false, if_pos rfl]
      exact stays
  · rw [Bool.not_eq_true] at enabled
    rw [enabled, Bool.not_false, if_pos rfl]
    exact stays

theorem triple_deleteState (now : Nat) (stateHash : String) :
    Triple
      (fun service => At configuration history service ∧
        Unexpired now service)
      (deleteState stateHash)
      (fun deleted service =>
        if deleted then
          Justified history (.taken stateHash now) ∧
            At configuration (history ++ [.taken stateHash now]) service
        else At configuration history service)
      (fun _ => At configuration history) := by
  intro service both
  obtain ⟨holds, time, valid, -, unexpired⟩ := both
  have rest : Tables history { service with
      states := service.states.filter fun row => row.1 ≠ stateHash } :=
    holds.tables.subset (fun row member => member)
      (fun row member => (List.mem_filter.mp member).1)
  change if decide (service.states.countP (·.1 = stateHash) = 1) = true
    then _ else _
  by_cases once : service.states.countP (·.1 = stateHash) = 1
  · rw [decide_eq_true once, if_pos rfl]
    have positive : 0 < service.states.countP (·.1 = stateHash) := by omega
    obtain ⟨row, member, same⟩ := List.countP_pos_iff.mp positive
    obtain ⟨begins, expires, issued⟩ := holds.tables.states row member
    rw [of_decide_eq_true same] at issued
    refine ⟨⟨begins, issued, ?_⟩, holds.configuration, ?_⟩
    · exact begins_of_unexpired valid expires (unexpired row member)
    · refine rest.concat (fun row member equal => by cases equal) ?_
      intro other kept time equal
      have differs := (List.mem_filter.mp kept).2
      cases equal
      simp at differs
  · rw [decide_eq_false once, if_neg Bool.false_ne_true]
    exact ⟨holds.configuration, rest⟩

/-- What a callback leaves: it takes one issued state, or nothing. -/
def AfterCallback
    (environment : PanelEnvironment) (configuration : PanelAuthConfiguration)
    (history : List PanelRecord) (now : Nat) :
    Option (String × String) → PanelAuthService → Prop
  | some (_, state), service =>
      Justified history (.taken (environment.hash state) now) ∧
        At configuration
          (history ++ [.taken (environment.hash state) now]) service
  | none, service => At configuration history service

variable (environment) in
theorem triple_callbackRoute (now : Nat) (callback : Callback) :
    Triple (At configuration history)
      (callbackRoute environment now callback)
      (AfterCallback environment configuration history now)
      (fun _ => At configuration history) := by
  unfold callbackRoute
  rcases callback.matching with _ | ⟨code, state⟩
  · exact fun service holds => holds
  · refine Triple.bind (Triple.bind (triple_cleanupExpired now)
      fun _ => triple_deleteState now (environment.hash state)) ?_
    intro consumed service holds
    cases consumed with
    | false => exact holds
    | true => exact holds

/-! ## Sessions -/

theorem triple_insertSession {row : SessionRow}
    (expires : isoText (begins + sessionLifetimeMs) = .ok row.expiresAt)
    (listed : row.user.discordId ∈ configuration.allowedDiscordUserIds) :
    Triple (At configuration history) (insertSession row)
      (fun _ => At configuration (history ++ [.opened row.sessionHash row.user
        begins configuration.allowedDiscordUserIds]))
      (fun _ => At configuration history) := by
  intro service holds
  unfold insertSession
  by_cases taken : row.sessionHash ∈
      service.sessions.map SessionRow.sessionHash
  · rw [if_pos taken]
    exact holds
  · rw [if_neg taken]
    exact ⟨holds.configuration, holds.tables.insertSession expires listed⟩

theorem triple_requireAllowed (user : PanelUser) :
    Triple (At configuration history) (requireAllowed user)
      (fun _ service => At configuration history service ∧
        user.discordId ∈ configuration.allowedDiscordUserIds)
      (fun _ => At configuration history) := by
  intro service holds
  unfold requireAllowed
  by_cases listed :
      user.discordId ∈ service.configuration.allowedDiscordUserIds
  · rw [if_pos listed]
    rw [holds.configuration] at listed
    exact ⟨holds, listed⟩
  · rw [if_neg listed]
    exact holds

variable (environment) in
theorem triple_completeLogin (discord : Discord) (readings : Readings)
    (code session : String) :
    Triple (At configuration history)
      (completeLogin environment discord readings code session)
      (fun user => At configuration
        (history ++ [.opened (environment.hash session) user
          readings.lifetime configuration.allowedDiscordUserIds]))
      (fun _ => At configuration history) := by
  refine Triple.bind keeps_requireConfigured fun _ => ?_
  refine Triple.lift_bind ?_ ?_
  · exact fun _ _ _ holds => holds
  intro user _
  refine Triple.bind (triple_requireAllowed user) fun _ => ?_
  intro before both
  have listed := both.2
  refine Triple.bind (keeps_cleanupExpired readings.cleanup) ?_ before both.1
  intro _
  refine Triple.lift_bind ?_ ?_
  · exact fun _ _ _ holds => holds
  intro expiresAt expires
  refine Triple.lift_bind ?_ ?_
  · exact fun _ _ _ holds => holds
  intro createdAt _
  refine Triple.bind (triple_insertSession expires listed) fun _ => ?_
  exact fun service holds => holds

variable (environment) in
theorem triple_session (now : Nat) (cookie : Option String) :
    Triple (At configuration history) (session environment now cookie)
      (fun stored service => At configuration history service ∧
        ∀ found, stored = some found →
          Justified history
            (.recognized (tokenHash environment cookie) found.user now))
      (fun _ => At configuration history) := by
  unfold session
  cases present : cookie.filter (· != "") with
  | none =>
      intro service holds
      exact ⟨holds, fun found absent => by cases absent⟩
  | some token =>
      have given : cookie = some token :=
        (Option.filter_eq_some_iff.mp present).1
      refine Triple.bind (triple_cleanupExpired now) fun _ => ?_
      intro service both
      obtain ⟨holds, time, valid, unexpired, -⟩ := both
      refine ⟨holds, ?_⟩
      intro found stored
      obtain ⟨row, located, rfl⟩ := Option.map_eq_some_iff.mp stored
      have member := List.mem_of_find?_eq_some located
      have found := List.find?_some located
      have same := of_decide_eq_true found
      obtain ⟨begins, expires, opened⟩ := holds.tables.sessions row member
      rw [same] at opened
      rw [given]
      exact ⟨begins, opened,
        begins_of_unexpired valid expires (unexpired row member)⟩

variable (environment) in
theorem triple_guard (now : Nat) (request : PanelRequest) :
    Triple (At configuration history) (guard environment now request)
      (fun verdict service => At configuration history service ∧
        ∀ found, verdict = .authenticated found →
          Justified history (.recognized
            (tokenHash environment request.cookie) found.user now))
      (fun _ => At configuration history) := by
  have unguarded : Triple (At configuration history)
      (pure .unguarded : Program PanelAuthService String Verdict)
      (fun verdict service => At configuration history service ∧
        ∀ found, verdict = .authenticated found →
          Justified history (.recognized
            (tokenHash environment request.cookie) found.user now))
      (fun _ => At configuration history) := by
    intro service holds
    exact ⟨holds, fun found absent => by cases absent⟩
  refine Triple.bind keeps_get fun service => ?_
  by_cases enabled : (!service.configuration.enabled) = true
  · rw [if_pos enabled]
    exact unguarded
  rw [if_neg enabled]
  by_cases open_ : publicPath request.path = true
  · rw [if_pos open_]
    exact unguarded
  rw [if_neg open_]
  by_cases player : playerDownload request = true
  · rw [if_pos player]
    exact unguarded
  rw [if_neg player]
  refine Triple.bind (triple_session environment now request.cookie) ?_
  intro stored reached both
  cases stored with
  | none => exact ⟨both.1, fun found absent => by cases absent⟩
  | some stored =>
      refine ⟨both.1, ?_⟩
      intro found same
      cases same
      exact both.2 stored rfl

end Tables

/-- The invariant of a run: a login that waits for Discord has taken a state,
and it has not opened its session yet. -/
structure Kept (run : PanelRun) (history : List PanelRecord) : Prop where
  sound : Sound history
  tables : Tables history run.service
  logins : run.waiting.length + history.countP PanelRecord.isOpened ≤
    history.countP PanelRecord.isTaken

section Steps

variable {environment : PanelEnvironment}
variable {run : PanelRun} {history : List PanelRecord}

theorem Kept.at (kept : Kept run history) :
    At run.service.configuration history run.service :=
  ⟨rfl, kept.tables⟩

theorem Kept.quiet {service : PanelAuthService} (kept : Kept run history)
    (tables : Tables history service) :
    Kept { run with service } (history ++ []) := by
  rw [List.append_nil]
  exact ⟨kept.sound, tables, kept.logins⟩

theorem Kept.record {service : PanelAuthService} {record : PanelRecord}
    (kept : Kept run history) (justified : Justified history record)
    (tables : Tables (history ++ [record]) service)
    (taken : record.isTaken = false) (opened : record.isOpened = false) :
    Kept { run with service } (history ++ [record]) := by
  refine ⟨kept.sound.concat justified, tables, ?_⟩
  have logins := kept.logins
  simpa [List.countP_append, List.countP_singleton, taken, opened] using logins

theorem kept_login (kept : Kept run history) (readings : Readings)
    (state : String) :
    Kept (loginStep environment run readings state).1
      (history ++ (loginStep environment run readings state).2) := by
  have reached := triple_loginRoute environment readings
    state run.service kept.at
  unfold loginStep
  generalize loginRoute environment readings state run.service = result
    at reached ⊢
  obtain ⟨outcome, service⟩ := result
  cases outcome with
  | error problem => exact kept.quiet reached.tables
  | ok issued =>
      cases issued with
      | none =>
          have tables : Tables (history ++ []) service := reached.tables
          rw [List.append_nil] at tables
          exact kept.quiet tables
      | some expiresAt => exact kept.record trivial reached.tables rfl rfl

theorem kept_callback (kept : Kept run history) (now : Nat)
    (callback : Callback) :
    Kept (callbackStep environment run now callback).1
      (history ++ (callbackStep environment run now callback).2) := by
  have reached := triple_callbackRoute environment now
    callback run.service kept.at
  unfold callbackStep
  generalize callbackRoute environment now callback run.service = result
    at reached ⊢
  obtain ⟨outcome, service⟩ := result
  cases outcome with
  | error problem => exact kept.quiet reached.tables
  | ok taken =>
      cases taken with
      | none => exact kept.quiet reached.tables
      | some pair =>
          obtain ⟨code, state⟩ := pair
          obtain ⟨justified, holds⟩ := reached
          refine ⟨kept.sound.concat justified, holds.tables, ?_⟩
          have logins := kept.logins
          simp only [List.length_append, List.countP_append,
            List.countP_singleton, PanelRecord.isTaken, PanelRecord.isOpened,
            List.length_singleton, if_true, Bool.false_eq_true, if_false]
          omega

theorem kept_answered (kept : Kept run history) {index : Nat} {code : String}
    (waits : run.waiting[index]? = some code) (discord : Discord)
    (readings : Readings) (session : String) :
    Kept
      (answeredStep environment run index code discord readings session).1
      (history ++ (answeredStep environment run index code discord readings
        session).2) := by
  have reached := triple_completeLogin environment discord
    readings code session run.service kept.at
  obtain ⟨inside, -⟩ := List.getElem?_eq_some_iff.mp waits
  have shorter := List.length_eraseIdx_of_lt inside
  have logins := kept.logins
  unfold answeredStep
  generalize completeLogin environment discord readings code session
    run.service = result at reached ⊢
  obtain ⟨outcome, service⟩ := result
  cases outcome with
  | error problem =>
      rw [List.append_nil]
      refine ⟨kept.sound, reached.tables, ?_⟩
      change (run.waiting.eraseIdx index).length + _ ≤ _
      omega
  | ok user =>
      refine ⟨kept.sound.concat ?_, reached.tables, ?_⟩
      · change List.countP _ _ < List.countP _ _
        omega
      · change (run.waiting.eraseIdx index).length + _ ≤ _
        simp only [List.countP_append, List.countP_singleton,
          PanelRecord.isTaken, PanelRecord.isOpened, if_true,
          Bool.false_eq_true, if_false]
        omega

theorem Tables.recognized {service : PanelAuthService} {hash : String}
    {user : PanelUser} {now : Nat} (tables : Tables history service) :
    Tables (history ++ [.recognized hash user now]) service :=
  tables.concat (fun row member same => by cases same)
    fun row member time same => by cases same

theorem kept_requested (kept : Kept run history) (now : Nat)
    (request : PanelRequest) :
    Kept (requestedStep environment run now request).1
      (history ++ (requestedStep environment run now request).2) := by
  have reached := triple_guard environment now request
    run.service kept.at
  unfold requestedStep
  generalize guard environment now request run.service = result at reached ⊢
  obtain ⟨outcome, service⟩ := result
  cases outcome with
  | error problem => exact kept.quiet reached.tables
  | ok verdict =>
      cases verdict with
      | unguarded => exact kept.quiet reached.1.tables
      | unauthorized message => exact kept.quiet reached.1.tables
      | authenticated stored =>
          exact kept.record (reached.2 stored rfl) reached.1.tables.recognized
            rfl rfl

theorem kept_shown (kept : Kept run history) (now : Nat)
    (cookie : Option String) :
    Kept (shownStep environment run now cookie).1
      (history ++ (shownStep environment run now cookie).2) := by
  have reached := triple_session environment now cookie
    run.service kept.at
  unfold shownStep
  generalize session environment now cookie run.service = result at reached ⊢
  obtain ⟨outcome, service⟩ := result
  cases outcome with
  | error problem => exact kept.quiet reached.tables
  | ok stored =>
      cases stored with
      | none => exact kept.quiet reached.1.tables
      | some stored =>
          exact kept.record (reached.2 stored rfl) reached.1.tables.recognized
            rfl rfl

/-- Only the rows of a session that is revoked are deleted, so that no row is
left whose session the record takes back. -/
theorem kept_loggedOut (kept : Kept run history) (cookie : Option String) :
    Kept (loggedOutStep environment run cookie).1
      (history ++ (loggedOutStep environment run cookie).2) := by
  unfold loggedOutStep revokeSession truthy
  cases cookie with
  | none => exact kept.quiet kept.tables
  | some token =>
      by_cases empty : token = ""
      · subst empty
        exact kept.quiet kept.tables
      · have given : (token != "") = true := bne_iff_ne.mpr empty
        simp only [Option.filter, Option.any, given, if_true]
        refine kept.record trivial ?_ rfl rfl
        have rest : Tables history { run.service with
            sessions := run.service.sessions.filter fun row =>
              row.sessionHash ≠ environment.hash token } :=
          kept.tables.subset (fun row member => (List.mem_filter.mp member).1)
            (fun row member => member)
        refine rest.concat ?_ fun row member time same => by cases same
        intro row member same
        have differs := of_decide_eq_true (List.mem_filter.mp member).2
        injection same with equal
        exact differs equal.symm

theorem Kept.of_result {result : PanelRun × List PanelRecord}
    {next : PanelRun} {records : List PanelRecord}
    (kept : Kept result.1 (history ++ result.2))
    (same : some result = some (next, records)) :
    Kept next (history ++ records) := by
  cases same
  exact kept

theorem kept_step {event : PanelEvent} {next : PanelRun}
    {records : List PanelRecord} (kept : Kept run history)
    (step : panelStep environment run event = some (next, records)) :
    Kept next (history ++ records) := by
  cases event with
  | login readings state =>
      exact (kept_login kept readings state).of_result step
  | callback now callback =>
      exact (kept_callback kept now callback).of_result step
  | answered index discord readings session =>
      obtain ⟨code, waits, same⟩ := Option.map_eq_some_iff.mp step
      exact (kept_answered kept waits discord readings session).of_result
        (congrArg some same)
  | requested now request =>
      exact (kept_requested kept now request).of_result step
  | shown now cookie => exact (kept_shown kept now cookie).of_result step
  | loggedOut cookie => exact (kept_loggedOut kept cookie).of_result step
  | restarted configuration =>
      cases step
      rw [List.append_nil]
      refine ⟨kept.sound, ⟨kept.tables.sessions, kept.tables.states⟩, ?_⟩
      have logins := kept.logins
      change 0 + _ ≤ _
      omega

end Steps

/-- In every run from empty tables a request is recognized only by a session
that a user of the allowlist opened less than seven days before, which nobody
has revoked; a state is taken once, within ten minutes; and a session belongs to
a state of its own. -/
theorem requests_admitted {environment : PanelEnvironment}
    {configuration : PanelAuthConfiguration} {events : List PanelEvent}
    {final : PanelRun} {history : List PanelRecord}
    (run : execute (panelStep environment) ⟨⟨configuration, [], []⟩, []⟩
      events = some (final, history)) :
    Sound history := by
  have start : Kept ⟨⟨configuration, [], []⟩, []⟩ [] := by
    refine ⟨sound_nil, ⟨?_, ?_⟩, Nat.le_refl 0⟩
    · exact fun row absent => by cases absent
    · exact fun row absent => by cases absent
  have kept := execute_induction (motive := Kept)
    (fun state past event next now holds step => kept_step holds step) start run
  exact kept.sound

/-- One panel; its address is the only one that is parsed. -/
def examplePanel : PanelEnvironment where
  parseUrl
    | "https://panel.test/" =>
        some ⟨"https:", "https://panel.test", "/", "", ""⟩
    | _ => none
  hash token := token

def exampleConfiguration : PanelAuthConfiguration :=
  ⟨"discord", some "https://panel.test/", none, some "client", some "secret",
    ["42"]⟩

def exampleDiscord : Discord where
  token _ := .ok ⟨true, .ok (some "token")⟩
  user _ := .ok ⟨true, .ok ⟨some "42", some "admin", none, none⟩⟩

def exampleRequest : PanelRequest := ⟨"/api/jobs", some "session", false⟩

def exampleEvents : List PanelEvent :=
  [.login ⟨1700000000000, 1700000000000, 1700000000000⟩ "state",
    .callback 1700000001000 ⟨some "code", some "state", some "state"⟩,
    .callback 1700000002000 ⟨some "code", some "state", some "state"⟩,
    .answered 0 exampleDiscord ⟨1700000003000, 1700000003000, 1700000003000⟩
      "session",
    .requested 1700000004000 exampleRequest, .loggedOut (some "session"),
    .requested 1700000005000 exampleRequest]

/-- The second callback finds no state, and the second request no session. -/
theorem requests_admitted_after_login :
    ∃ final history,
      execute (panelStep examplePanel) ⟨⟨exampleConfiguration, [], []⟩, []⟩
          exampleEvents = some (final, history) ∧
        history = [.issued "state" 1700000000000,
          .taken "state" 1700000001000,
          .opened "session" ⟨"42", "admin", none, none⟩ 1700000003000 ["42"],
          .recognized "session" ⟨"42", "admin", none, none⟩ 1700000004000,
          .revoked "session"] ∧ Sound history := by
  have completes : (execute (panelStep examplePanel)
      ⟨⟨exampleConfiguration, [], []⟩, []⟩ exampleEvents).map Prod.snd =
        some [.issued "state" 1700000000000,
          .taken "state" 1700000001000,
          .opened "session" ⟨"42", "admin", none, none⟩ 1700000003000 ["42"],
          .recognized "session" ⟨"42", "admin", none, none⟩ 1700000004000,
          .revoked "session"] := by
    decide +kernel
  obtain ⟨⟨final, history⟩, ran, same⟩ := Option.map_eq_some_iff.mp completes
  exact ⟨final, history, ran, same, requests_admitted ran⟩

end GravitPanel.PanelAuth
