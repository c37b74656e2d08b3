import GravitPanel.Servers.ProfileServers

/-!
# Server bindings

`server-bindings.store.ts` with its table in `db/schema.ts`, and
`server-binding.service.ts`, which changes a profile's server list and the row
of a binding one after the other.
-/

namespace GravitPanel.Servers

open Program

inductive ServerBindingDeploymentState where
  | pending
  | ready
  | requiresUpdate
  | installed
  | failed
  deriving DecidableEq, Repr

/-- A row of `server_bindings`, and what `toBinding` reads from it. -/
structure ServerBinding where
  id : String
  installationId : String
  profileName : String
  name : String
  serverAddress : String
  serverPort : Int
  isDefault : Bool
  authId : String
  packVersionId : Option String
  xms : String
  xmx : String
  jvmArgs : List String
  gameArgs : List String
  eulaAcceptedAt : Option String
  appliedPackVersionId : Option String
  updaterInstalledAt : Option String
  updaterLastSeenAt : Option String
  updaterError : Option String
  deploymentState : ServerBindingDeploymentState
  updatedAt : Nat
  deriving DecidableEq, Repr

structure ServerBindingInput where
  installationId : String
  profileName : String
  name : String
  serverAddress : String
  serverPort : Int
  isDefault : Bool
  authId : String
  packVersionId : Option String
  xms : String
  xmx : String
  jvmArgs : List String
  gameArgs : List String
  deriving DecidableEq, Repr

abbrev BindingState := PanelState ServerBinding

namespace ServerBindingsStore

def get (rows : List ServerBinding) (id : String) : Option ServerBinding :=
  rows.find? fun row => row.id = id

/-- `SET is_default = 0 WHERE installation_id = ? AND profile_name = ? AND
id <> ?`. -/
def clearDefault
    (input : ServerBindingInput) (id : String) (now : Nat)
    (row : ServerBinding) : ServerBinding :=
  if row.installationId = input.installationId ∧
      row.profileName = input.profileName ∧ row.id ≠ id then
    { row with isDefault := false, updatedAt := now }
  else
    row

def clearDefaults
    (rows : List ServerBinding) (input : ServerBindingInput) (id : String)
    (now : Nat) : List ServerBinding :=
  if input.isDefault then rows.map (clearDefault input id now) else rows

def insertedRow
    (input : ServerBindingInput) (id : String)
    (state : Option ServerBindingDeploymentState) (now : Nat) :
    ServerBinding where
  id := id
  installationId := input.installationId
  profileName := input.profileName
  name := input.name
  serverAddress := input.serverAddress
  serverPort := input.serverPort
  isDefault := input.isDefault
  authId := input.authId
  packVersionId := input.packVersionId
  xms := input.xms
  xmx := input.xmx
  jvmArgs := input.jvmArgs
  gameArgs := input.gameArgs
  eulaAcceptedAt := none
  appliedPackVersionId := none
  updaterInstalledAt := none
  updaterLastSeenAt := none
  updaterError := none
  deploymentState := state.getD .pending
  updatedAt := now

/-- `ON CONFLICT(id) DO UPDATE`. -/
def updatedRow
    (input : ServerBindingInput) (id : String)
    (state : Option ServerBindingDeploymentState) (now : Nat)
    (row : ServerBinding) : ServerBinding :=
  if row.id = id then
    { row with
      name := input.name
      serverAddress := input.serverAddress
      serverPort := input.serverPort
      isDefault := input.isDefault
      authId := input.authId
      packVersionId := input.packVersionId
      xms := input.xms
      xmx := input.xmx
      jvmArgs := input.jvmArgs
      gameArgs := input.gameArgs
      deploymentState := state.getD .requiresUpdate
      updatedAt := now }
  else
    row

/-- Another row than that of the id has the name already. -/
def nameTaken
    (rows : List ServerBinding) (installationId profileName name id : String) :
    Bool :=
  rows.any fun row =>
    row.installationId = installationId ∧ row.profileName = profileName ∧
      row.name = name ∧ row.id ≠ id

def uniqueViolation : String :=
  "UNIQUE constraint failed: server_bindings.installation_id, " ++
    "server_bindings.profile_name, server_bindings.server_name"

def violatesUnique
    (rows : List ServerBinding) (input : ServerBindingInput) (id : String) :
    Bool :=
  match get rows id with
  | none =>
      nameTaken rows input.installationId input.profileName input.name id
  | some current =>
      nameTaken rows current.installationId current.profileName input.name id

def foreignKeyViolation : String := "FOREIGN KEY constraint failed"

/-- The row that is saved refers to a row that is not there: to that of its
pack version or, when it is inserted, to that of its installation. -/
def violatesForeignKey
    (referenced : ReferencedIds) (rows : List ServerBinding)
    (input : ServerBindingInput) (id : String) : Bool :=
  (get rows id).isNone &&
      decide (input.installationId ∉ referenced.installations) ||
    input.packVersionId.any fun version =>
      decide (version ∉ referenced.packVersions)

/-- The constraint that the row violates; the unique index is checked before
the foreign keys. -/
def violation
    (referenced : ReferencedIds) (rows : List ServerBinding)
    (input : ServerBindingInput) (id : String) : Option String :=
  if violatesUnique rows input id then some uniqueViolation
  else if violatesForeignKey referenced rows input id then
    some foreignKeyViolation
  else none

/-- The rows after the transaction of `save`. -/
def savedRows
    (rows : List ServerBinding) (input : ServerBindingInput) (id : String)
    (state : Option ServerBindingDeploymentState) (now : Nat) :
    List ServerBinding :=
  let cleared := clearDefaults rows input id now
  match get rows id with
  | none => cleared ++ [insertedRow input id state now]
  | some _ => cleared.map (updatedRow input id state now)

/-- A transaction that violates a constraint changes nothing. -/
def save
    (referenced : ReferencedIds) (input : ServerBindingInput) (id : String)
    (state : Option ServerBindingDeploymentState) (now : Nat) :
    Program BindingState String ServerBinding :=
  fun panel =>
    match violation referenced panel.rows input id with
    | some error => (.error error, panel)
    | none =>
        let rows := savedRows panel.rows input id state now
        match get rows id with
        | none =>
            (.error "Failed to persist server binding", { panel with rows })
        | some saved => (.ok saved, { panel with rows })

def delete (id : String) (panel : BindingState) : BindingState :=
  { panel with rows := panel.rows.filter fun row => row.id ≠ id }

end ServerBindingsStore

namespace ServerBindingService

open ServerBindingsStore

/-- `/^[a-zA-Z0-9][a-zA-Z0-9 ._-]{0,63}$/`. -/
def namePattern (value : String) : Bool :=
  match value.toList with
  | [] => false
  | first :: rest =>
      isAlphanumeric first && rest.length ≤ 63 &&
        rest.all fun character =>
          isAlphanumeric character || character ∈ [' ', '.', '_', '-']

def hostname (characters : List Char) : Bool :=
  characters.head?.any isAlphanumeric &&
    characters.getLast?.any isAlphanumeric &&
      characters.all fun character =>
        isAlphanumeric character || character ∈ ['.', '-']

def isHexOrColon (character : Char) : Bool :=
  character.isDigit || character == ':' ||
    character.toLower ∈ ['a', 'b', 'c', 'd', 'e', 'f']

def bracketed (characters : List Char) : Bool :=
  match characters with
  | '[' :: rest =>
      rest.getLast? = some ']' && !rest.dropLast.isEmpty &&
        rest.dropLast.all isHexOrColon
  | _ => false

def addressPattern (value : String) : Bool :=
  1 ≤ value.toList.length && value.toList.length ≤ 253 &&
    (hostname value.toList || bracketed value.toList)

/-- `/^[1-9][0-9]{0,5}[MG]$/i`. -/
def memoryPattern (value : String) : Bool :=
  match value.toList with
  | first :: rest =>
      first.isDigit && first != '0' && rest.length ≤ 6 &&
        rest.dropLast.all Char.isDigit &&
          rest.getLast?.any fun unit => unit.toUpper ∈ ['M', 'G']
  | [] => false

/-- `Number.parseInt(value, 10)`, and 1024 times that for gibibytes. -/
def memoryMiB (value : String) : Nat :=
  let amount := (value.toList.takeWhile Char.isDigit).foldl
    (fun total digit => 10 * total + (digit.toNat - 48)) 0
  if value.toList.getLast?.map Char.toUpper = some 'G' then
    amount * 1024
  else
    amount

/-- `/^[^\u0000\r\n]{1,256}$/`. -/
def safeArgument (value : String) : Bool :=
  value ≠ "" && JavaScript.length value ≤ 256 &&
    value.toList.all fun character =>
      character ∉ [Char.ofNat 0, '\r', '\n']

def check (holds : Bool) (error : String) : Except String Unit :=
  if holds then .ok () else .error error

def validate (input : ServerBindingInput) : Except String Unit := do
  check (namePattern (JavaScript.trim input.name)) "Server name is invalid"
  check (addressPattern (JavaScript.trim input.serverAddress))
    "Server address must be a hostname or IP address without a scheme"
  check (1 ≤ input.serverPort && input.serverPort ≤ 65535)
    "Server port must be between 1 and 65535"
  check (identifierPattern input.authId) "Auth provider id is invalid"
  check (memoryPattern input.xms && memoryPattern input.xmx)
    "Xms and Xmx must use values such as 1G or 2048M"
  check (memoryMiB input.xms ≤ memoryMiB input.xmx)
    "Xms cannot be greater than Xmx"
  check ((input.jvmArgs ++ input.gameArgs).all safeArgument)
    "JVM or game argument is unsafe"

/-- The profile can be bound. -/
def bindable (profile : ClientProfile) : Except String Unit := do
  check
    (profile.uuid.getD "" ≠ "" && profile.minecraftVersion.getD "" ≠ "" &&
      profile.loader.isSome)
    ("Profile must have UUID, Minecraft version, and loader " ++
      "before binding")
  check (profile.loader ≠ some .quilt)
    "Quilt server bootstrap is not supported yet"

/-- The binding that is updated; without an id a new one is created. -/
def currentBinding
    (rows : List ServerBinding) (installationId : String)
    (bindingId : Option String) : Except String (Option ServerBinding) :=
  match bindingId with
  | none => .ok none
  | some id =>
      if id = "" then
        .ok none
      else
        match get rows id with
        | none => .error "Managed server binding not found"
        | some current =>
            if current.installationId ≠ installationId then
              .error "Managed server binding not found"
            else
              .ok (some current)

/-- A renamed binding meets another server of its new name. -/
def conflicts
    (servers : List ProfileServer) (current : Option ServerBinding)
    (input : ServerBindingInput) : Bool :=
  match current with
  | none => false
  | some current =>
      servers.any fun server =>
        server.name = input.name ∧ server.name ≠ current.name

def nextServer
    (servers : List ProfileServer) (input : ServerBindingInput) :
    ProfileServer where
  name := input.name
  serverAddress := input.serverAddress
  serverPort := input.serverPort
  isDefault := input.isDefault || servers.length = 0
  protocol := -1
  socketPing := true

def profileServer
    (servers : List ProfileServer) (current : Option ServerBinding) :
    Option ProfileServer :=
  current.bind fun current =>
    servers.find? fun server => server.name = current.name

def profileChanged
    (servers : List ProfileServer) (current : Option ServerBinding)
    (next : ProfileServer) : Bool :=
  match profileServer servers current with
  | none => true
  | some server =>
      server.name ≠ next.name || server.serverAddress ≠ next.serverAddress ||
        server.serverPort ≠ next.serverPort ||
          server.isDefault ≠ next.isDefault

def bootstrapChanged
    (current : Option ServerBinding) (input : ServerBindingInput) : Bool :=
  match current with
  | none => true
  | some current =>
      current.name ≠ input.name ||
        current.serverAddress ≠ input.serverAddress ||
        current.serverPort ≠ input.serverPort ||
        current.authId ≠ input.authId || current.xms ≠ input.xms ||
        current.xmx ≠ input.xmx || current.jvmArgs ≠ input.jvmArgs ||
        current.gameArgs ≠ input.gameArgs

def bindingChanged
    (current : Option ServerBinding) (input : ServerBindingInput)
    (next : ProfileServer) : Bool :=
  match current with
  | none => true
  | some binding =>
      bootstrapChanged current input || binding.isDefault ≠ next.isDefault ||
        binding.packVersionId ≠ input.packVersionId

def packChanged
    (current : Option ServerBinding) (input : ServerBindingInput) : Bool :=
  current.map ServerBinding.packVersionId ≠ some input.packVersionId

/-- The other servers without those of the old and the new name; a default
server that is saved is the only one. -/
def others
    (servers : List ProfileServer) (current : Option ServerBinding)
    (input : ServerBindingInput) (next : ProfileServer) :
    List ProfileServer :=
  (servers.filter fun server =>
    some server.name ≠ current.map ServerBinding.name ∧
      server.name ≠ input.name).map fun server =>
        if next.isDefault then { server with isDefault := false } else server

/-- Make the first server the default one. -/
def promoteFirst : List ProfileServer → List ProfileServer
  | [] => []
  | first :: rest => { first with isDefault := true } :: rest

def remaining
    (servers : List ProfileServer) (current : Option ServerBinding)
    (input : ServerBindingInput) (next : ProfileServer) :
    List ProfileServer :=
  let kept := others servers current input next
  if !next.isDefault && !kept.any ProfileServer.isDefault then
    promoteFirst kept
  else
    kept

structure ApplyResult where
  binding : ServerBinding
  profile : ClientProfile
  backupPath : Option String
  deploymentChanged : Bool
  deriving DecidableEq, Repr

structure RemoveResult where
  bindingId : String
  profile : ClientProfile
  backupPath : String
  tokenRevoked : Bool
  deriving DecidableEq, Repr

/-- What `apply` reads and checks before it changes anything. -/
def prepare
    (state : BindingState) (installationId : String)
    (input : ServerBindingInput) (bindingId : Option String) :
    Except String (ClientProfile × Option ServerBinding) := do
  validate input
  let profile ← getProfile state.files input.profileName
  bindable profile
  let current ← currentBinding state.rows installationId bindingId
  check (!conflicts profile.servers current input)
    ("Server " ++ input.name ++ " already exists in this profile")
  return (profile, current)

/-- Replace the profile's servers if the call changes them. -/
def applyProfile
    (environment : BindingEnvironment) (input : ServerBindingInput)
    (profile : ClientProfile) (current : Option ServerBinding) :
    Program BindingState String (ClientProfile × Option String) :=
  let next := nextServer profile.servers input
  if profileChanged profile.servers current next then do
    let replaced ← replaceProfileServers environment input.profileName
      (remaining profile.servers current input next ++ [next])
    pure (replaced, some environment.backupPath)
  else
    pure (profile, none)

/-- The state that a binding is saved with: it is kept where the agent's part
of the binding does not change. -/
def savedState
    (current : Option ServerBinding) (input : ServerBindingInput) :
    Option ServerBindingDeploymentState :=
  if bootstrapChanged current input || packChanged current input then
    none
  else
    current.map ServerBinding.deploymentState

/-- The changes of `apply`. -/
def commit
    (environment : BindingEnvironment) (input : ServerBindingInput)
    (profile : ClientProfile) (current : Option ServerBinding) :
    Program BindingState String ApplyResult := do
  lift (environment.report [.progress 10])
  let (replaced, backupPath) ←
    applyProfile environment input profile current
  let saved ← save environment.referenced
    { input with isDefault := (nextServer profile.servers input).isDefault }
    ((current.map ServerBinding.id).getD environment.uuid)
    (savedState current input) environment.clock
  lift (environment.report [.progress 95])
  pure
    { binding := saved
      profile := replaced
      backupPath
      deploymentChanged := bootstrapChanged current input }

/-- The call finds profile and binding as they are wanted. -/
def unchanged
    (profile : ClientProfile) (current : Option ServerBinding)
    (input : ServerBindingInput) : Option ServerBinding :=
  let next := nextServer profile.servers input
  if profileChanged profile.servers current next ||
      bindingChanged current input next then
    none
  else
    current

/-- Create the binding of a server, or update the binding of the id. -/
def apply
    (environment : BindingEnvironment) (installationId : String)
    (input : ServerBindingInput) (bindingId : Option String) :
    Program BindingState String ApplyResult :=
  fun state =>
    match prepare state installationId input bindingId with
    | .error error => (.error error, state)
    | .ok (profile, current) =>
        match unchanged profile current input with
        | some binding =>
            match environment.report [.progress 95] with
            | .error error => (.error error, state)
            | .ok () => (.ok ⟨binding, profile, none, false⟩, state)
        | none => commit environment input profile current state

def withoutServer
    (servers : List ProfileServer) (binding : ServerBinding) :
    List ProfileServer :=
  let next := servers.filter fun server => server.name ≠ binding.name
  if binding.isDefault then promoteFirst next else next

def removable
    (rows : List ServerBinding) (installationId bindingId : String) :
    Except String ServerBinding :=
  match get rows bindingId with
  | none => .error "Managed server binding not found"
  | some binding =>
      if binding.installationId ≠ installationId then
        .error "Managed server binding not found"
      else
        .ok binding

def remove
    (environment : BindingEnvironment) (installationId bindingId : String) :
    Program BindingState String RemoveResult := do
  let state ← Program.get
  let binding ← lift (removable state.rows installationId bindingId)
  let profile ← lift (getProfile state.files binding.profileName)
  let replaced ← replaceProfileServers environment binding.profileName
    (withoutServer profile.servers binding)
  update (delete binding.id)
  lift (environment.report [.progress 95])
  pure
    { bindingId
      profile := replaced
      backupPath := environment.backupPath
      tokenRevoked := false }

/-! ## Calls -/

inductive BindingCall where
  | apply (environment : BindingEnvironment) (input : ServerBindingInput)
      (bindingId : Option String)
  | remove (environment : BindingEnvironment) (bindingId : String)

def BindingCall.environment : BindingCall → BindingEnvironment
  | .apply environment _ _ => environment
  | .remove environment _ => environment

inductive BindingResult where
  | applied (result : ApplyResult)
  | removed (result : RemoveResult)

/-- What has to succeed before the row is saved. -/
def reaches (environment : BindingEnvironment) (changes : Bool) :
    Except String Unit := do
  environment.report [.progress 10]
  if changes then environment.rewrites else .ok ()

/-- The state between the two changes of `apply`. -/
def rewritten
    (input : ServerBindingInput) (profile : ClientProfile)
    (current : Option ServerBinding) (state : BindingState) : BindingState :=
  let next := nextServer profile.servers input
  if profileChanged profile.servers current next then
    state.replaceServers input.profileName
      (remaining profile.servers current input next ++ [next])
  else
    state

theorem rewritten_rows
    (input : ServerBindingInput) (profile : ClientProfile)
    (current : Option ServerBinding) (state : BindingState) :
    (rewritten input profile current state).rows = state.rows := by
  unfold rewritten
  dsimp only
  split
  · exact PanelState.replaceServers_rows _ _ _
  · rfl

def savedInput
    (input : ServerBindingInput) (servers : List ProfileServer) :
    ServerBindingInput :=
  { input with isDefault := (nextServer servers input).isDefault }

def savedId
    (environment : BindingEnvironment) (current : Option ServerBinding) :
    String :=
  (current.map ServerBinding.id).getD environment.uuid

theorem get_map
    {rows : List ServerBinding} {change : ServerBinding → ServerBinding}
    (sameId : ∀ row, (change row).id = row.id) (id : String) :
    ServerBindingsStore.get (rows.map change) id =
      (ServerBindingsStore.get rows id).map change := by
  unfold ServerBindingsStore.get
  rw [List.find?_map]
  congr 2
  funext row
  simp only [Function.comp, sameId]

theorem get_clearDefaults
    (rows : List ServerBinding) (input : ServerBindingInput) (id : String)
    (now : Nat) :
    ServerBindingsStore.get (clearDefaults rows input id now) id =
      ServerBindingsStore.get rows id := by
  unfold clearDefaults
  split
  · rw [get_map]
    · cases found : ServerBindingsStore.get rows id with
      | none => rfl
      | some row =>
          have sameId : row.id = id := by
            unfold ServerBindingsStore.get at found
            have selected := List.find?_some found
            rwa [decide_eq_true_eq] at selected
          rw [Option.map_some, clearDefault, if_neg]
          exact fun both => both.2.2 sameId
    · intro row
      unfold clearDefault
      split <;> rfl
  · rfl

theorem updatedRow_id
    (input : ServerBindingInput) (id : String)
    (deployment : Option ServerBindingDeploymentState) (now : Nat)
    (row : ServerBinding) :
    (updatedRow input id deployment now row).id = row.id := by
  unfold updatedRow
  split <;> rfl

theorem get_savedRows
    (rows : List ServerBinding) (input : ServerBindingInput) (id : String)
    (deployment : Option ServerBindingDeploymentState) (now : Nat) :
    ServerBindingsStore.get (savedRows rows input id deployment now) id =
      some (match ServerBindingsStore.get rows id with
        | none => insertedRow input id deployment now
        | some current => updatedRow input id deployment now current) := by
  have cleared := get_clearDefaults rows input id now
  unfold savedRows
  cases found : ServerBindingsStore.get rows id with
  | none =>
      rw [found] at cleared
      dsimp only
      unfold ServerBindingsStore.get at cleared ⊢
      rw [List.find?_append, cleared, Option.none_or, List.find?_singleton]
      exact if_pos (decide_eq_true rfl)
  | some current =>
      dsimp only
      rw [get_map (updatedRow_id input id deployment now), cleared, found]
      rfl

theorem unique_of_accepted
    {referenced : ReferencedIds} {rows : List ServerBinding}
    {input : ServerBindingInput} {id : String}
    (accepted : violation referenced rows input id = none) :
    violatesUnique rows input id = false := by
  unfold violation at accepted
  split at accepted
  · cases accepted
  · rename_i unique
    exact Bool.not_eq_true _ ▸ unique

theorem save_eq
    (referenced : ReferencedIds) (input : ServerBindingInput) (id : String)
    (deployment : Option ServerBindingDeploymentState) (now : Nat)
    (state : BindingState) :
    match violation referenced state.rows input id with
    | some error =>
        save referenced input id deployment now state = (.error error, state)
    | none =>
        ∃ saved, save referenced input id deployment now state =
          (.ok saved,
            { state with
              rows := savedRows state.rows input id deployment now }) := by
  have found := get_savedRows state.rows input id deployment now
  unfold save
  cases violation referenced state.rows input id with
  | some error => rfl
  | none =>
      dsimp only
      rw [found]
      exact ⟨_, rfl⟩

theorem applyProfile_eq
    {environment : BindingEnvironment} {input : ServerBindingInput}
    {profile : ClientProfile} {current : Option ServerBinding}
    {state : BindingState}
    (found : getProfile state.files input.profileName = .ok profile) :
    match (if profileChanged profile.servers current
        (nextServer profile.servers input) then environment.rewrites
      else .ok ()) with
    | .error error =>
        applyProfile environment input profile current state =
          (.error error, state)
    | .ok () => ∃ result,
        applyProfile environment input profile current state =
          (.ok result, rewritten input profile current state) := by
  unfold applyProfile rewritten
  dsimp only
  by_cases changed : profileChanged profile.servers current
      (nextServer profile.servers input)
  · have replaced := @replaceProfileServers_eq ServerBinding environment
      input.profileName
      (remaining profile.servers current input
          (nextServer profile.servers input) ++
        [nextServer profile.servers input]) state profile found
    rw [if_pos changed, if_pos changed, if_pos changed]
    cases written : environment.rewrites with
    | error error =>
        rw [written] at replaced
        exact bind_of_error replaced _
    | ok _ =>
        rw [written] at replaced
        obtain ⟨servers, replaced⟩ := replaced
        exact ⟨_, bind_of_ok replaced _⟩
  · rw [if_neg changed, if_neg changed, if_neg changed]
    exact ⟨_, rfl⟩

/-- Nothing changed, or the profile was rewritten and the row violates a
constraint, or both were changed and the last callback decides. -/
theorem commit_eq
    {environment : BindingEnvironment} {input : ServerBindingInput}
    {profile : ClientProfile} {current : Option ServerBinding}
    {state : BindingState}
    (found : getProfile state.files input.profileName = .ok profile) :
    match reaches environment (profileChanged profile.servers current
        (nextServer profile.servers input)) with
    | .error error =>
        commit environment input profile current state =
          (.error error, state)
    | .ok () =>
        match violation environment.referenced state.rows
            (savedInput input profile.servers)
            (savedId environment current) with
        | some error =>
            commit environment input profile current state =
              (.error error, rewritten input profile current state)
        | none =>
            ∃ result, commit environment input profile current state =
              (match environment.report [.progress 95] with
                | .error error => .error error
                | .ok () => .ok result,
              { rewritten input profile current state with
                rows := savedRows state.rows
                  (savedInput input profile.servers)
                  (savedId environment current) (savedState current input)
                  environment.clock }) := by
  have profileStep :=
    @applyProfile_eq environment input profile current state found
  have saveStep := save_eq environment.referenced
    (savedInput input profile.servers) (savedId environment current) (savedState current input)
    environment.clock (rewritten input profile current state)
  rw [rewritten_rows] at saveStep
  unfold commit reaches
  rw [lift_bind]
  cases environment.report [.progress 10] with
  | error error => rfl
  | ok _ =>
      change match (if profileChanged profile.servers current
          (nextServer profile.servers input) then environment.rewrites
        else .ok ()) with
        | .error error => _
        | .ok () => _
      cases written : (if profileChanged profile.servers current
          (nextServer profile.servers input) then environment.rewrites
        else .ok ()) with
      | error error =>
          rw [written] at profileStep
          exact bind_of_error profileStep _
      | ok _ =>
          rw [written] at profileStep
          obtain ⟨⟨replaced, backupPath⟩, profileStep⟩ := profileStep
          dsimp only
          rw [bind_of_ok profileStep]
          cases refused : violation environment.referenced state.rows
              (savedInput input profile.servers)
              (savedId environment current) with
          | some error =>
              rw [refused] at saveStep
              exact bind_of_error saveStep _
          | none =>
              rw [refused] at saveStep
              obtain ⟨saved, saveStep⟩ := saveStep
              refine ⟨⟨saved, replaced, backupPath,
                bootstrapChanged current input⟩, ?_⟩
              dsimp only
              refine (bind_of_ok saveStep _).trans ?_
              rw [lift_bind]
              cases environment.report [.progress 95] <;> rfl

theorem prepare_ok
    {state : BindingState} {installationId : String}
    {input : ServerBindingInput} {bindingId : Option String}
    {profile : ClientProfile} {current : Option ServerBinding}
    (prepared : prepare state installationId input bindingId =
      .ok (profile, current)) :
    validate input = .ok () ∧
      getProfile state.files input.profileName = .ok profile ∧
        currentBinding state.rows installationId bindingId = .ok current ∧
          conflicts profile.servers current input = false := by
  obtain ⟨_, valid, rest⟩ := outcome_bind_eq_ok.mp prepared
  obtain ⟨found, read, rest⟩ := outcome_bind_eq_ok.mp rest
  obtain ⟨_, _, rest⟩ := outcome_bind_eq_ok.mp rest
  obtain ⟨binding, bound, rest⟩ := outcome_bind_eq_ok.mp rest
  obtain ⟨_, free, result⟩ := outcome_bind_eq_ok.mp rest
  cases result
  refine ⟨valid, read, bound, ?_⟩
  unfold check at free
  split at free
  · rename_i holds
    rwa [Bool.not_eq_true'] at holds
  · cases free

/-- A successful `apply` found everything as it was wanted, or changed both
the profile and the rows. -/
theorem apply_ok
    {environment : BindingEnvironment} {installationId : String}
    {input : ServerBindingInput} {bindingId : Option String}
    {state final : BindingState} {result : ApplyResult}
    (applied : apply environment installationId input bindingId state =
      (.ok result, final)) :
    ∃ profile current,
      prepare state installationId input bindingId =
          .ok (profile, current) ∧
        ((unchanged profile current input).isSome ∧ final = state ∨
          unchanged profile current input = none ∧
            violatesUnique state.rows (savedInput input profile.servers)
                (savedId environment current) = false ∧
              final =
                { rewritten input profile current state with
                  rows := savedRows state.rows
                    (savedInput input profile.servers)
                    (savedId environment current) (savedState current input)
                    environment.clock }) := by
  unfold apply at applied
  cases prepared : prepare state installationId input bindingId with
  | error error =>
      rw [prepared] at applied
      cases applied
  | ok pair =>
      obtain ⟨profile, current⟩ := pair
      refine ⟨profile, current, rfl, ?_⟩
      rw [prepared] at applied
      dsimp only at applied
      cases wanted : unchanged profile current input with
      | some binding =>
          rw [wanted] at applied
          refine .inl ⟨rfl, ?_⟩
          dsimp only at applied
          split at applied
          · cases applied
          · cases applied
            rfl
      | none =>
          rw [wanted] at applied
          refine .inr ⟨rfl, ?_⟩
          dsimp only at applied
          have committed := @commit_eq environment input profile current state
            (prepare_ok prepared).2.1
          split at committed
          · rw [applied] at committed
            cases committed
          · split at committed
            · rw [applied] at committed
              cases committed
            · rename_i accepted
              obtain ⟨made, committed⟩ := committed
              rw [applied] at committed
              exact ⟨unique_of_accepted accepted,
                congrArg Prod.snd committed⟩

theorem remove_eq
    {environment : BindingEnvironment} {installationId bindingId : String}
    {state : BindingState} {binding : ServerBinding}
    {profile : ClientProfile}
    (removes : removable state.rows installationId bindingId = .ok binding)
    (found : getProfile state.files binding.profileName = .ok profile) :
    match environment.rewrites with
    | .error error =>
        remove environment installationId bindingId state =
          (.error error, state)
    | .ok () => ∃ result,
        remove environment installationId bindingId state =
          (match environment.report [.progress 95] with
            | .error error => .error error
            | .ok () => .ok result,
          delete binding.id (state.replaceServers binding.profileName
            (withoutServer profile.servers binding))) := by
  have replaced := @replaceProfileServers_eq ServerBinding environment
    binding.profileName (withoutServer profile.servers binding) state profile
    found
  unfold remove
  rw [bind_of_ok (get_apply state), lift_bind, removes]
  dsimp only
  rw [lift_bind, found]
  dsimp only
  cases written : environment.rewrites with
  | error error =>
      rw [written] at replaced
      exact bind_of_error replaced _
  | ok _ =>
      rw [written] at replaced
      obtain ⟨servers, replaced⟩ := replaced
      refine ⟨⟨bindingId, servers, environment.backupPath, false⟩, ?_⟩
      rw [bind_of_ok replaced, bind_of_ok (update_apply _ _), lift_bind]
      cases environment.report [.progress 95] <;> rfl

theorem remove_refused
    {environment : BindingEnvironment} {installationId bindingId : String}
    {state : BindingState}
    (refused : ∀ binding profile,
      removable state.rows installationId bindingId = .ok binding →
        getProfile state.files binding.profileName ≠ .ok profile) :
    ∃ error, remove environment installationId bindingId state =
      (.error error, state) := by
  unfold remove
  rw [bind_of_ok (get_apply state), lift_bind]
  cases removes : removable state.rows installationId bindingId with
  | error error => exact ⟨error, rfl⟩
  | ok binding =>
      dsimp only
      rw [lift_bind]
      cases found : getProfile state.files binding.profileName with
      | error error => exact ⟨error, rfl⟩
      | ok profile => exact absurd found (refused binding profile removes)

theorem remove_ok
    {environment : BindingEnvironment} {installationId bindingId : String}
    {state final : BindingState} {result : RemoveResult}
    (removed : remove environment installationId bindingId state =
      (.ok result, final)) :
    ∃ binding profile,
      removable state.rows installationId bindingId = .ok binding ∧
        getProfile state.files binding.profileName = .ok profile ∧
          final = delete binding.id
            (state.replaceServers binding.profileName
              (withoutServer profile.servers binding)) := by
  by_cases found : ∃ binding profile,
      removable state.rows installationId bindingId = .ok binding ∧
        getProfile state.files binding.profileName = .ok profile
  · obtain ⟨binding, profile, removes, read⟩ := found
    refine ⟨binding, profile, removes, read, ?_⟩
    have shape := @remove_eq environment installationId bindingId state
      binding profile removes read
    split at shape
    · rw [removed] at shape
      cases shape
    · obtain ⟨made, shape⟩ := shape
      rw [removed] at shape
      exact congrArg Prod.snd shape
  · obtain ⟨error, shape⟩ := @remove_refused environment installationId
      bindingId state fun binding profile removes read =>
        found ⟨binding, profile, removes, read⟩
    rw [removed] at shape
    cases shape

end ServerBindingService

end GravitPanel.Servers
