import Mathlib.Logic.Function.Basic
import GravitPanel.Core.JavaScript
import GravitPanel.Core.Program

/-!
# The server list of a profile

`getProfile` and `replaceProfileServers` of `client-build.service.ts`.  A
profile file holds JSON; of its fields only those are kept that a binding reads
or replaces.
-/

namespace GravitPanel.Servers

open Program

inductive MinecraftLoader where
  | vanilla
  | fabric
  | quilt
  | forge
  | neoforge
  deriving DecidableEq, Repr

structure ProfileServer where
  name : String
  serverAddress : String
  serverPort : Int
  isDefault : Bool
  protocol : Int
  socketPing : Bool
  deriving DecidableEq, Repr

/-- A server as a profile file has it.  A field of another type is absent, and
so is a number that is no safe integer; an item that is no object has no
fields. -/
structure LaunchProfileServer where
  name : Option String
  serverAddress : Option String
  serverPort : Option Int
  isDefault : Option Bool
  protocol : Option Int
  socketPing : Option Bool
  deriving DecidableEq, Repr

/-- A profile file as JSON.  The identity, version and loader are those that
`profileDescriptor` reads; a `servers` field that is no array is empty. -/
structure LaunchProfileConfig where
  uuid : Option String
  minecraftVersion : Option String
  loader : Option MinecraftLoader
  servers : List LaunchProfileServer
  deriving DecidableEq, Repr

/-- What is found under the path of a profile. -/
inductive ProfileText where
  | missing
  | invalidJson
  | invalidStructure
  | config (profile : LaunchProfileConfig)
  deriving DecidableEq, Repr

structure ClientProfile where
  name : String
  uuid : Option String
  minecraftVersion : Option String
  loader : Option MinecraftLoader
  servers : List ProfileServer
  deriving DecidableEq, Repr

def parseProfileServer (item : LaunchProfileServer) :
    Option ProfileServer :=
  match item.name, item.serverAddress, item.serverPort with
  | some name, some serverAddress, some serverPort =>
      if JavaScript.trim name = "" ∨ JavaScript.trim serverAddress = "" ∨
          serverPort < 1 ∨ 65535 < serverPort then
        none
      else
        some
          { name, serverAddress, serverPort
            isDefault := item.isDefault = some true
            protocol := item.protocol.getD (-1)
            socketPing := item.socketPing ≠ some false }
  | _, _, _ => none

def parseProfileServers (value : List LaunchProfileServer) :
    List ProfileServer :=
  value.filterMap parseProfileServer

/-- `JSON.stringify` of a server. -/
def ProfileServer.json (server : ProfileServer) : LaunchProfileServer where
  name := some server.name
  serverAddress := some server.serverAddress
  serverPort := some server.serverPort
  isDefault := some server.isDefault
  protocol := some server.protocol
  socketPing := some server.socketPing

/-- A server that survives being written and read again. -/
structure ProfileServer.Valid (server : ProfileServer) : Prop where
  named : JavaScript.trim server.name ≠ ""
  addressed : JavaScript.trim server.serverAddress ≠ ""
  positive : 1 ≤ server.serverPort
  bounded : server.serverPort ≤ 65535

variable {server : ProfileServer} {profile : ClientProfile} {name : String}

theorem parseProfileServer_json
    (valid : server.Valid) : parseProfileServer server.json = some server := by
  obtain ⟨named, addressed, positive, bounded⟩ := valid
  obtain ⟨name, serverAddress, serverPort, isDefault, protocol, socketPing⟩ :=
    server
  have portInRange : ¬ (serverPort < 1) ∧ ¬ (65535 < serverPort) :=
    ⟨Int.not_lt.mpr positive, Int.not_lt.mpr bounded⟩
  simp only [parseProfileServer, ProfileServer.json]
  rw [if_neg]
  · cases isDefault <;> cases socketPing <;> rfl
  · simp only [named, addressed, portInRange.1, portInRange.2, or_self,
      not_false_eq_true]

theorem parseProfileServer_valid
    {item : LaunchProfileServer}
    (parsed : parseProfileServer item = some server) : server.Valid := by
  unfold parseProfileServer at parsed
  split at parsed
  · split at parsed
    · cases parsed
    · rename_i name serverAddress serverPort _ _ _ inRange
      cases parsed
      simp only [not_or, Int.not_lt] at inRange
      exact ⟨inRange.1, inRange.2.1, inRange.2.2.1, inRange.2.2.2⟩
  · cases parsed

theorem parseProfileServers_json {servers : List ProfileServer}
    (valid : ∀ server ∈ servers, server.Valid) :
    parseProfileServers (servers.map ProfileServer.json) = servers := by
  unfold parseProfileServers
  induction servers with
  | nil => rfl
  | cons server rest ih =>
      have first := parseProfileServer_json
        (valid server List.mem_cons_self)
      have others := ih fun other member =>
        valid other (List.mem_cons_of_mem server member)
      rw [List.map_cons, List.filterMap_cons_some first, others]

theorem parseProfileServers_valid
    {value : List LaunchProfileServer}
    (member : server ∈ parseProfileServers value) : server.Valid := by
  obtain ⟨item, _, parsed⟩ := List.mem_filterMap.mp member
  exact parseProfileServer_valid parsed

def profileDescriptor (name : String) (profile : LaunchProfileConfig) :
    ClientProfile where
  name := name
  uuid := profile.uuid
  minecraftVersion := profile.minecraftVersion
  loader := profile.loader
  servers := parseProfileServers profile.servers

def isAlphanumeric (character : Char) : Bool :=
  character.isAlpha || character.isDigit

/-- `/^[a-zA-Z0-9][a-zA-Z0-9._-]{0,63}$/`. -/
def identifierPattern (value : String) : Bool :=
  match value.toList with
  | [] => false
  | first :: rest =>
      isAlphanumeric first && rest.length ≤ 63 &&
        rest.all fun character =>
          isAlphanumeric character || character ∈ ['.', '_', '-']

def validateProfile (name : String) : Except String Unit :=
  if identifierPattern name then .ok ()
  else .error "Profile name contains unsupported characters"

def readProfileConfig (files : String → ProfileText) (name : String) :
    Except String LaunchProfileConfig :=
  match files name with
  | .missing => .error ("Profile " ++ name ++ " does not exist")
  | .invalidJson => .error ("Profile " ++ name ++ " contains invalid JSON")
  | .invalidStructure =>
      .error ("Profile " ++ name ++ " has an invalid structure")
  | .config profile => .ok profile

def getProfile (files : String → ProfileText) (name : String) :
    Except String ClientProfile := do
  validateProfile name
  let profile ← readProfileConfig files name
  return profileDescriptor name profile

/-- A call of the job's context; the lines that the LaunchServer answers are
logged one by one. -/
inductive Callback where
  | progress (value : Nat)
  | log (message : String)
  | line (index : Nat) (message : String)
  deriving DecidableEq, Repr

/-- The ids in the tables that a row of `server_bindings` refers to. -/
structure ReferencedIds where
  installations : List String
  packVersions : List String

/-- What a call meets outside: the errors of the volume, the answer of the
LaunchServer, the other tables when the row is saved, the callbacks that find
the job cancelled, the clock, a new id and the path of the snapshot. -/
structure BindingEnvironment where
  copy : Option String
  write : Option String
  updatesCache : Option String
  sync : Except String (List String)
  referenced : ReferencedIds
  cancelled : Callback → Bool
  clock : Nat
  uuid : String
  backupPath : String

namespace BindingEnvironment

def cancellation : String := "Job cancelled by user"

/-- The first callback of a list that finds the job cancelled. -/
def report (environment : BindingEnvironment) (callbacks : List Callback) :
    Except String Unit :=
  if callbacks.any environment.cancelled then .error cancellation
  else .ok ()

def attempt (failure : Option String) : Except String Unit :=
  match failure with
  | none => .ok ()
  | some error => .error error

/-- `reloadProfilesAndUpdates`, which changes neither profiles nor rows. -/
def reload (environment : BindingEnvironment) (progress : Nat) :
    Except String Unit := do
  environment.report [.progress progress]
  attempt environment.updatesCache
  environment.report [.log "Invalidated LaunchServer updates cache"]
  let lines ← environment.sync
  environment.report (lines.mapIdx .line)
  environment.report [.log "LaunchServer profiles and updates reloaded"]

end BindingEnvironment

/-- The profile files of an installation and the table `server_bindings`. -/
structure PanelState (Row : Type) where
  files : String → ProfileText
  rows : List Row

namespace PanelState

variable {Row : Type}

/-- `writeFileAtomic` of a profile. -/
def writeProfile (name : String) (text : ProfileText)
    (state : PanelState Row) : PanelState Row :=
  { state with files := Function.update state.files name text }

@[simp]
theorem writeProfile_files_self (name : String) (text : ProfileText)
    (state : PanelState Row) :
    (state.writeProfile name text).files name = text :=
  Function.update_self _ _ _

theorem writeProfile_files_of_ne {name other : String}
    (different : other ≠ name) (text : ProfileText)
    (state : PanelState Row) :
    (state.writeProfile name text).files other = state.files other :=
  Function.update_of_ne different _ _

theorem writeProfile_restore (name : String) (text : ProfileText)
    (state : PanelState Row) :
    (state.writeProfile name text).writeProfile name (state.files name) =
      state := by
  unfold writeProfile
  simp only [Function.update_idem, Function.update_eq_self]

end PanelState

variable {Row : Type}

/-- Write the old text back and throw the error of the reload.  This second
write does not fail. -/
def rollBackProfile
    (environment : BindingEnvironment) (name : String) (raw : ProfileText)
    (error : String) : Program (PanelState Row) String PUnit := do
  update (PanelState.writeProfile name raw)
  handle (lift (environment.reload 80)) fun _ => pure ⟨⟩
  throw error

theorem rollBackProfile_eq
    (environment : BindingEnvironment) (name error : String)
    (text : ProfileText) (state : PanelState Row) :
    rollBackProfile environment name (state.files name) error
        (state.writeProfile name text) = (.error error, state) := by
  unfold rollBackProfile
  rw [bind_of_ok (update_apply _ _), PanelState.writeProfile_restore]
  cases reloaded : environment.reload 80 with
  | ok _ => rfl
  | error problem => rfl

/-- Replace the servers of a profile and reload it; if the reload fails, the
old text is written back. -/
def replaceProfileServers
    (environment : BindingEnvironment) (name : String)
    (servers : List ProfileServer) :
    Program (PanelState Row) String ClientProfile := do
  lift (validateProfile name)
  let state ← get
  let current ← lift (readProfileConfig state.files name)
  lift (BindingEnvironment.attempt environment.copy)
  lift (environment.report [.progress 25])
  let next := { current with servers := servers.map ProfileServer.json }
  lift (BindingEnvironment.attempt environment.write)
  update (PanelState.writeProfile name (.config next))
  handle (lift (environment.reload 65))
    (rollBackProfile environment name (state.files name))
  pure (profileDescriptor name next)

/-- What has to succeed for the servers to be replaced. -/
def BindingEnvironment.rewrites (environment : BindingEnvironment) :
    Except String Unit := do
  attempt environment.copy
  environment.report [.progress 25]
  attempt environment.write
  environment.reload 65

def PanelState.replaceServers
    (name : String) (servers : List ProfileServer)
    (state : PanelState Row) : PanelState Row :=
  match readProfileConfig state.files name with
  | .error _ => state
  | .ok config =>
      state.writeProfile name
        (.config { config with servers := servers.map ProfileServer.json })

@[simp]
theorem PanelState.replaceServers_rows
    (name : String) (servers : List ProfileServer)
    (state : PanelState Row) :
    (state.replaceServers name servers).rows = state.rows := by
  unfold replaceServers
  split <;> rfl

/-- The servers of a profile; a file without a profile has none. -/
def PanelState.servers (state : PanelState Row) (name : String) :
    List ProfileServer :=
  match state.files name with
  | .config profile => parseProfileServers profile.servers
  | _ => []

variable {state : PanelState Row}

theorem PanelState.servers_valid
    (member : server ∈ state.servers name) : server.Valid := by
  unfold servers at member
  split at member
  · exact parseProfileServers_valid member
  · cases member

theorem readProfileConfig_ok
    {files : String → ProfileText}
    {config : LaunchProfileConfig}
    (found : readProfileConfig files name = .ok config) :
    files name = .config config := by
  unfold readProfileConfig at found
  split at found
  · cases found
  · cases found
  · cases found
  · rename_i profile text
    cases found
    exact text

theorem getProfile_ok
    {files : String → ProfileText}
    (found : getProfile files name = .ok profile) :
    validateProfile name = .ok () ∧
      ∃ config, readProfileConfig files name = .ok config ∧
        profile = profileDescriptor name config := by
  obtain ⟨_, named, rest⟩ := outcome_bind_eq_ok.mp found
  obtain ⟨config, read, result⟩ := outcome_bind_eq_ok.mp rest
  cases result
  exact ⟨named, config, read, rfl⟩

theorem PanelState.servers_eq
    (found : getProfile state.files name = .ok profile) :
    state.servers name = profile.servers := by
  obtain ⟨_, config, read, rfl⟩ := getProfile_ok found
  unfold servers
  rw [readProfileConfig_ok read]
  rfl

theorem PanelState.servers_replaceServers
    {servers : List ProfileServer}
    (found : getProfile state.files name = .ok profile)
    (valid : ∀ server ∈ servers, server.Valid) :
    (state.replaceServers name servers).servers name = servers := by
  obtain ⟨_, config, read, _⟩ := getProfile_ok found
  unfold replaceServers
  rw [read]
  dsimp only
  unfold PanelState.servers
  rw [writeProfile_files_self]
  exact parseProfileServers_json valid

theorem PanelState.servers_replaceServers_of_ne
    {name other : String} (different : other ≠ name)
    (servers : List ProfileServer) (state : PanelState Row) :
    (state.replaceServers name servers).servers other =
      state.servers other := by
  unfold replaceServers
  split
  · rfl
  · unfold PanelState.servers
    rw [writeProfile_files_of_ne different]

theorem replaceProfileServers_eq
    {environment : BindingEnvironment} {name : String}
    {servers : List ProfileServer} {state : PanelState Row}
    {profile : ClientProfile}
    (found : getProfile state.files name = .ok profile) :
    match environment.rewrites with
    | .error error =>
        replaceProfileServers environment name servers state =
          (.error error, state)
    | .ok () => ∃ replaced,
        replaceProfileServers environment name servers state =
          (.ok replaced, state.replaceServers name servers) := by
  obtain ⟨named, config, read, _⟩ := getProfile_ok found
  unfold replaceProfileServers BindingEnvironment.rewrites
    PanelState.replaceServers
  simp only [lift_bind, named, bind_of_ok (get_apply state), read]
  cases BindingEnvironment.attempt environment.copy with
  | error error => rfl
  | ok _ =>
      cases environment.report [.progress 25] with
      | error error => rfl
      | ok _ =>
          cases BindingEnvironment.attempt environment.write with
          | error error => rfl
          | ok _ =>
              dsimp only
              rw [bind_of_ok (update_apply _ _)]
              cases reloaded : environment.reload 65 with
              | ok _ => exact ⟨_, rfl⟩
              | error error =>
                  rw [bind_of_error ((handle_of_error (lift_apply _ _) _).trans
                    (rollBackProfile_eq environment name error _ state))]
                  rfl

end GravitPanel.Servers
