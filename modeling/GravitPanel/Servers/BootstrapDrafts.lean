import GravitPanel.Clients.BuildClient
import GravitPanel.PanelAuth.Sessions
import GravitPanel.Servers.BindingService

/-!
# Bootstrap drafts

`server-bootstrap.store.ts` with its table of `db/schema.ts`, and
`server-bootstrap.service.ts`.  An `async` function is cut where it waits; the
columns that are always null are left out.  A script is what goes into its
template.
-/

namespace GravitPanel.Servers

open Program
open Clients (resolveClientCompatibility)
open PanelAuth (truthy withoutSlashes)

inductive ServerBootstrapStatus where
  | preparing
  | ready
  | issued
  | claimed
  | installed
  | failed
  deriving DecidableEq, Repr

namespace ServerBootstrapStatus

/-- `status IN ('issued', 'claimed')`. -/
def live : ServerBootstrapStatus → Bool
  | .issued => true
  | .claimed => true
  | _ => false

/-- `status IN ('ready', 'issued', 'claimed')`. -/
def revocable : ServerBootstrapStatus → Bool
  | .ready => true
  | status => status.live

/-- `status IN ('preparing', 'ready', 'issued', 'claimed')`. -/
def pending : ServerBootstrapStatus → Bool
  | .preparing => true
  | status => status.revocable

end ServerBootstrapStatus

def MinecraftLoader.text : MinecraftLoader → String
  | .vanilla => "VANILLA"
  | .fabric => "FABRIC"
  | .quilt => "QUILT"
  | .forge => "FORGE"
  | .neoforge => "NEOFORGE"

structure BootstrapConfig where
  eulaAcceptedAt : String
  profileUuid : String
  minecraftVersion : String
  loader : MinecraftLoader
  loaderVersion : Option String
  authlibArtifact : String
  coreFile : String
  coreInstall : String
  launchServerAddress : String
  binding : ServerBinding
  deriving DecidableEq, Repr

/-- `config_json`: the consent to the EULA, or all of it after the
preparation. -/
inductive DraftConfig where
  | accepted (eulaAcceptedAt : String)
  | prepared (config : BootstrapConfig)
  deriving DecidableEq, Repr

def DraftConfig.eulaAcceptedAt : DraftConfig → String
  | .accepted eulaAcceptedAt => eulaAcceptedAt
  | .prepared config => config.eulaAcceptedAt

structure BootstrapArtifact where
  path : String
  digest : String
  deriving DecidableEq, Repr

inductive ArtifactKind where
  | bundle
  | jreX64
  | jreAarch64
  deriving DecidableEq, Repr

structure BootstrapArtifacts where
  bundle : BootstrapArtifact
  jreX64 : BootstrapArtifact
  jreAarch64 : BootstrapArtifact
  deriving DecidableEq, Repr

def BootstrapArtifacts.of (artifacts : BootstrapArtifacts) :
    ArtifactKind → BootstrapArtifact
  | .bundle => artifacts.bundle
  | .jreX64 => artifacts.jreX64
  | .jreAarch64 => artifacts.jreAarch64

/-- A row of `server_bootstrap_drafts`; times are in milliseconds. -/
structure DraftRow where
  id : String
  bindingId : String
  installationId : String
  profileName : String
  serverName : String
  status : ServerBootstrapStatus
  error : Option String
  config : DraftConfig
  artifacts : Option BootstrapArtifacts
  claimHash : Option String
  createdAt : Nat
  preparedAt : Option Nat
  issuedAt : Option Nat
  claimedAt : Option Nat
  installedAt : Option Nat
  deriving DecidableEq, Repr

namespace ServerBootstrapStore

def row (rows : List DraftRow) (id : String) : Option DraftRow :=
  rows.find? fun row => row.id = id

/-- `UPDATE … WHERE id = ?`. -/
def updateRow (id : String) (change : DraftRow → DraftRow)
    (rows : List DraftRow) : List DraftRow :=
  rows.map fun row => if row.id = id then change row else row

def createdRow (binding : ServerBinding) (id eulaAcceptedAt : String)
    (now : Nat) : DraftRow where
  id := id
  bindingId := binding.id
  installationId := binding.installationId
  profileName := binding.profileName
  serverName := binding.name
  status := .preparing
  error := none
  config := .accepted eulaAcceptedAt
  artifacts := none
  claimHash := none
  createdAt := now
  preparedAt := none
  issuedAt := none
  claimedAt := none
  installedAt := none

/-- The row loses its claim and fails. -/
def withdrawnRow (reason : String) (row : DraftRow) : DraftRow :=
  { row with
    status := .failed
    error := some (JavaScript.slice 2000 reason)
    claimHash := none }

def invalidateBinding (bindingId reason : String) (rows : List DraftRow) :
    List DraftRow :=
  rows.map fun row =>
    if row.bindingId = bindingId ∧ row.status.pending then
      withdrawnRow reason row
    else
      row

def readyRow (config : BootstrapConfig) (artifacts : BootstrapArtifacts)
    (now : Nat) (row : DraftRow) : DraftRow :=
  { row with
    status := .ready
    error := none
    config := .prepared config
    artifacts := some artifacts
    preparedAt := some now }

def failedRow (error : String) (row : DraftRow) : DraftRow :=
  { row with
    status := .failed
    error := some (JavaScript.slice 2000 error) }

def issuedRow (claimHash : String) (now : Nat) (row : DraftRow) : DraftRow :=
  { row with
    status := .issued
    claimHash := some claimHash
    issuedAt := some now }

/-- `claim_hash` is unique. -/
def issue (id claimHash : String) (now : Nat) (rows : List DraftRow) :
    Except String (List DraftRow) :=
  match row rows id with
  | none => .error "Bootstrap draft is not ready for issuance"
  | some draft =>
      if draft.status ≠ .ready then
        .error "Bootstrap draft is not ready for issuance"
      else if rows.any fun other =>
          other.id ≠ id && other.claimHash = some claimHash then
        .error ("UNIQUE constraint failed: " ++
          "server_bootstrap_drafts.claim_hash")
      else
        .ok (updateRow id (issuedRow claimHash now) rows)

/-- `claim_hash = ? AND status IN ('issued', 'claimed')`. -/
def artifactByClaim (rows : List DraftRow) (claimHash : String) :
    Option DraftRow :=
  rows.find? fun row => row.claimHash = some claimHash && row.status.live

def claimedRow (now : Nat) (row : DraftRow) : DraftRow :=
  if row.status.live then
    { row with status := .claimed, claimedAt := some now }
  else
    row

def beginClaim (rows : List DraftRow) (claimHash : String) (now : Nat) :
    Option (DraftRow × List DraftRow) :=
  match artifactByClaim rows claimHash with
  | none => none
  | some found =>
      let claimed := updateRow found.id (claimedRow now) rows
      (row claimed found.id).map fun draft => (draft, claimed)

/-- What the host says at the end of a script. -/
structure BootstrapReport where
  installed : Bool
  error : Option String
  updaterToken : Option String
  deriving DecidableEq, Repr

def reportedRow (report : BootstrapReport) (now : Nat) (row : DraftRow) :
    DraftRow :=
  { row with
    status := if report.installed then .installed else .failed
    error := report.error.map (JavaScript.slice 2000)
    installedAt := if report.installed then some now else none
    claimHash := none }

def reportClaim (rows : List DraftRow) (claimHash : String)
    (report : BootstrapReport) (now : Nat) :
    Option (DraftRow × List DraftRow) :=
  match artifactByClaim rows claimHash with
  | none => none
  | some found =>
      some (reportedRow report now found,
        updateRow found.id (reportedRow report now) rows)

def revoke (id : String) (rows : List DraftRow) : List DraftRow :=
  updateRow id (fun row =>
    if row.status.revocable then
      withdrawnRow "Bootstrap command revoked" row
    else
      row) rows

/-- `ON DELETE CASCADE` of a binding. -/
def withoutBinding (bindingId : String) (rows : List DraftRow) :
    List DraftRow :=
  rows.filter fun row => row.bindingId ≠ bindingId

end ServerBootstrapStore

/-- The tables of drafts and bindings; `updaterTokens` holds for the id of a
binding its `updater_token_hash`. -/
structure BootstrapState where
  drafts : List DraftRow
  bindings : List ServerBinding
  updaterTokens : List (String × String)
  deriving DecidableEq, Repr

namespace ServerBindingsStore

/-- `UPDATE … WHERE id = ?`. -/
def updateBinding (id : String) (change : ServerBinding → ServerBinding)
    (rows : List ServerBinding) : List ServerBinding :=
  rows.map fun row => if row.id = id then change row else row

def setState (id : String) (state : ServerBindingDeploymentState) (now : Nat)
    (rows : List ServerBinding) : List ServerBinding :=
  updateBinding id (fun row =>
    { row with deploymentState := state, updatedAt := now }) rows

/-- The first consent stays. -/
def acceptEula (id accepted : String) (now : Nat) (rows : List ServerBinding) :
    List ServerBinding :=
  updateBinding id (fun row =>
    { row with
      eulaAcceptedAt := row.eulaAcceptedAt.or (some accepted)
      updatedAt := now }) rows

def touchUpdater (id seen : String) (now : Nat) (rows : List ServerBinding) :
    List ServerBinding :=
  updateBinding id (fun row =>
    { row with updaterLastSeenAt := some seen, updatedAt := now }) rows

def saveUpdaterToken (id tokenHash seen : String) (now : Nat)
    (state : BootstrapState) : BootstrapState :=
  if id ∈ state.bindings.map ServerBinding.id then
    { state with
      bindings := updateBinding id (fun row =>
        { row with
          updaterInstalledAt := some seen
          updaterLastSeenAt := some seen
          updaterError := none
          updatedAt := now }) state.bindings
      updaterTokens :=
        (state.updaterTokens.filter fun pair => pair.1 ≠ id) ++
          [(id, tokenHash)] }
  else
    state

def getByUpdaterTokenHash (state : BootstrapState) (tokenHash : String) :
    Option ServerBinding :=
  state.bindings.find? fun row => (row.id, tokenHash) ∈ state.updaterTokens

end ServerBindingsStore

/-- The answer of `getProfile`, as far as a draft depends on it. -/
structure DraftProfile where
  uuid : Option String
  minecraftVersion : Option String
  loader : Option MinecraftLoader
  loaderVersion : Option String
  deriving DecidableEq, Repr

/-- The configuration of the panel, protocol and host name of a URL, and the
SHA-256 of a token; `launchServerAddress` comes from
`launchServerWebSocketAddress`. -/
structure BootstrapEnvironment where
  publicUrl : Option String
  launchServerAddress : Except String String
  parseUrl : String → Option (String × String)
  hash : String → String

/-- What `renderScript` puts into its template. -/
structure BootstrapScript where
  publicUrl : String
  config : BootstrapConfig
  serverToken : String
  claim : String
  artifacts : BootstrapArtifacts
  deriving DecidableEq, Repr

namespace ServerBootstrapService

open ServerBindingsStore (get setState saveUpdaterToken getByUpdaterTokenHash
  touchUpdater)
open ServerBootstrapStore

def requirePublicUrl (environment : BootstrapEnvironment) :
    Except String String :=
  match environment.publicUrl.filter (· != "") with
  | none => .error "PANEL_PUBLIC_URL is required for server bootstrap"
  | some publicUrl =>
      match environment.parseUrl publicUrl with
      | none => .error "Invalid URL"
      | some (protocol, hostname) =>
          if protocol ≠ "https:" ∧ ¬ (protocol = "http:" ∧
              hostname ∈ ["localhost", "127.0.0.1"]) then
            .error "PANEL_PUBLIC_URL must use HTTPS"
          else
            .ok (withoutSlashes publicUrl)

def requireBinding (rows : List ServerBinding)
    (installationId bindingId : String) : Except String ServerBinding :=
  match get rows bindingId with
  | none => .error "Managed server binding not found"
  | some binding =>
      if binding.installationId ≠ installationId ∨ binding.id = "" then
        .error "Managed server binding not found"
      else
        .ok binding

def createDraft (installationId bindingId id : String) (now : Nat) :
    Program BootstrapState String DraftRow :=
  fun state =>
    match requireBinding state.bindings installationId bindingId with
    | .error problem => (.error problem, state)
    | .ok binding =>
        match binding.eulaAcceptedAt.filter (· != "") with
        | none =>
            (.error ("Minecraft EULA must be accepted before preparing " ++
              "the first installation"), state)
        | some eulaAcceptedAt =>
            let created := createdRow binding id eulaAcceptedAt now
            (.ok created, { state with drafts := state.drafts ++ [created] })

def acceptEula (installationId bindingId accepted : String) (now : Nat) :
    Program BootstrapState String PUnit :=
  fun state =>
    match requireBinding state.bindings installationId bindingId with
    | .error problem => (.error problem, state)
    | .ok _ =>
        (.ok ⟨⟩, { state with
          bindings := ServerBindingsStore.acceptEula bindingId accepted now
            state.bindings })

/-! ### Preparation -/

def availableDraft (rows : List DraftRow) (installationId draftId : String) :
    Except String DraftRow :=
  match row rows draftId with
  | none => .error "Bootstrap draft is not available for preparation"
  | some draft =>
      if draft.installationId ≠ installationId ∨ draft.status ≠ .preparing then
        .error "Bootstrap draft is not available for preparation"
      else
        .ok draft

/-- The configuration of a draft, from the profile and the binding. -/
def bootstrapConfig (environment : BootstrapEnvironment)
    (profile : DraftProfile) (draft : DraftRow) (binding : ServerBinding) :
    Except String BootstrapConfig :=
  match profile.uuid.filter (· != ""),
    profile.minecraftVersion.filter (· != ""), profile.loader with
  | some profileUuid, some minecraftVersion, some loader =>
      if loader = .quilt then
        .error "Quilt bootstrap is not supported"
      else if loader ≠ .vanilla ∧ truthy profile.loaderVersion = false then
        .error "Exact loader version cannot be derived from the profile"
      else if binding.authId = "" ∨ binding.xms = "" ∨ binding.xmx = "" then
        .error "Server binding bootstrap settings are incomplete"
      else
        match environment.launchServerAddress with
        | .error problem => .error problem
        | .ok launchServerAddress =>
            .ok {
              eulaAcceptedAt := draft.config.eulaAcceptedAt
              profileUuid := profileUuid
              minecraftVersion := minecraftVersion
              loader := loader
              loaderVersion := profile.loaderVersion
              authlibArtifact := resolveClientCompatibility minecraftVersion
              coreFile :=
                if loader = .vanilla then "server.jar"
                else "core-installer.jar"
              coreInstall := loader.text.toLower
              launchServerAddress := launchServerAddress
              binding := binding }
  | _, _, _ => .error "Profile compatibility metadata is incomplete"

/-- The bundle and the runtimes are there. -/
def markReady (draft : DraftRow) (config : BootstrapConfig)
    (artifacts : BootstrapArtifacts) (now : Nat) (state : BootstrapState) :
    BootstrapState :=
  { state with
    drafts := updateRow draft.id (readyRow config artifacts now) state.drafts
    bindings := setState draft.bindingId .ready now state.bindings }

/-- The handler of `prepare`. -/
def markFailed (draft : DraftRow) (problem : String) (now : Nat)
    (state : BootstrapState) : BootstrapState :=
  { state with
    drafts := updateRow draft.id (failedRow problem) state.drafts
    bindings := setState draft.bindingId .failed now state.bindings }

/-! ### Issuance -/

/-- Something that the script depends on is not what it was at the
preparation. -/
def changedSince (config : DraftConfig) (profile : DraftProfile)
    (binding : ServerBinding) : Bool :=
  match config with
  | .accepted _ => true
  | .prepared config =>
      profile.uuid ≠ some config.profileUuid ||
        profile.minecraftVersion ≠ some config.minecraftVersion ||
        profile.loader ≠ some config.loader ||
        profile.loaderVersion ≠ config.loaderVersion ||
        binding.name ≠ config.binding.name ||
        binding.serverAddress ≠ config.binding.serverAddress ||
        binding.serverPort ≠ config.binding.serverPort ||
        binding.authId ≠ config.binding.authId ||
        binding.xms ≠ config.binding.xms ||
        binding.xmx ≠ config.binding.xmx ||
        binding.jvmArgs ≠ config.binding.jvmArgs ||
        binding.gameArgs ≠ config.binding.gameArgs

def changedMessage : String :=
  "Profile or server binding changed; prepare a new bootstrap bundle"

/-- Whether something changed, after the profile is read. -/
def draftChanged (rows : List ServerBinding) (installationId : String)
    (draft : DraftRow) (answer : Except String DraftProfile) :
    Except String Bool := do
  let profile ← answer
  let binding ← requireBinding rows installationId draft.bindingId
  pure (changedSince draft.config profile binding)

/-- Where something changed, all drafts of the binding are invalidated. -/
def assertDraftCurrent (installationId : String) (draft : DraftRow)
    (answer : Except String DraftProfile) :
    Program BootstrapState String PUnit :=
  fun state =>
    match draftChanged state.bindings installationId draft answer with
    | .error problem => (.error problem, state)
    | .ok true =>
        (.error changedMessage, { state with
          drafts := invalidateBinding draft.bindingId changedMessage
            state.drafts })
    | .ok false => (.ok ⟨⟩, state)

/-- The draft that `issue` reads before it waits for the profile. -/
def issuedDraft (environment : BootstrapEnvironment)
    (state : BootstrapState) (installationId draftId : String) :
    Except String DraftRow :=
  match requirePublicUrl environment, row state.drafts draftId with
  | .error problem, _ => .error problem
  | .ok _, none => .error "Bootstrap draft not found"
  | .ok _, some draft =>
      if draft.installationId ≠ installationId then
        .error "Bootstrap draft not found"
      else
        .ok draft

/-- The rest of `issue`. -/
def issue (environment : BootstrapEnvironment) (installationId : String)
    (draft : DraftRow) (answer : Except String DraftProfile) (claim : String)
    (now : Nat) : Program BootstrapState String PUnit := do
  assertDraftCurrent installationId draft answer
  let state ← Program.get
  let drafts ← lift (ServerBootstrapStore.issue draft.id
    (environment.hash claim) now state.drafts)
  update fun state => { state with drafts }

/-! ### The host -/

/-- `start` until it waits for the profile. -/
def start (environment : BootstrapEnvironment) (claim : String) (now : Nat)
    (state : BootstrapState) : Option (DraftRow × BootstrapState) :=
  (beginClaim state.drafts (environment.hash claim) now).map
    fun claimed => (claimed.1, { state with drafts := claimed.2 })

/-- The rest of `start` after the token of the server is created. -/
def renderScript (environment : BootstrapEnvironment) (state : BootstrapState)
    (draft : DraftRow) (serverToken claim : String) :
    Except String BootstrapScript :=
  match requirePublicUrl environment, row state.drafts draft.id with
  | .error problem, _ => .error problem
  | .ok _, none => .error "null is not an object"
  | .ok publicUrl, some internal =>
      match draft.config, internal.artifacts with
      | .prepared config, some artifacts =>
          .ok ⟨publicUrl, config, serverToken, claim, artifacts⟩
      | _, _ => .error "undefined is not an object"

def artifact (environment : BootstrapEnvironment) (state : BootstrapState)
    (claim : String) (kind : ArtifactKind) :
    Option (DraftRow × BootstrapArtifact) :=
  match artifactByClaim state.drafts (environment.hash claim) with
  | none => none
  | some draft =>
      match draft.artifacts with
      | none => none
      | some artifacts =>
          if (artifacts.of kind).path ≠ "" ∧ (artifacts.of kind).digest ≠ ""
          then some (draft, artifacts.of kind)
          else none

def reportedToken (environment : BootstrapEnvironment)
    (report : BootstrapReport) : Option String :=
  if report.installed then
    (report.updaterToken.filter (· != "")).map environment.hash
  else
    none

def report (environment : BootstrapEnvironment) (claim : String)
    (message : BootstrapReport) (seen : String) (now : Nat)
    (state : BootstrapState) : Option (DraftRow × BootstrapState) :=
  match reportClaim state.drafts (environment.hash claim) message now with
  | none => none
  | some (draft, drafts) =>
      let reached : BootstrapState :=
        { state with
          drafts
          bindings := setState draft.bindingId
            (if message.installed then .installed else .failed) now
              state.bindings }
      match reportedToken environment message with
      | none => some (draft, reached)
      | some tokenHash =>
          some (draft,
            saveUpdaterToken draft.bindingId tokenHash seen now reached)

def revoke (installationId draftId : String) :
    Program BootstrapState String PUnit :=
  fun state =>
    match row state.drafts draftId with
    | none => (.error "Bootstrap draft not found", state)
    | some draft =>
        if draft.installationId ≠ installationId then
          (.error "Bootstrap draft not found", state)
        else
          (.ok ⟨⟩, { state with
            drafts := ServerBootstrapStore.revoke draftId state.drafts })

/-- The binding of an agent that says hello with a token. -/
def updaterBinding (environment : BootstrapEnvironment)
    (token seen : String) (now : Nat) (state : BootstrapState) :
    Option (ServerBinding × BootstrapState) :=
  if token = "" then
    none
  else
    match getByUpdaterTokenHash state (environment.hash token) with
    | none => none
    | some binding =>
        if binding.id = "" then
          none
        else
          some (binding, { state with
            bindings := touchUpdater binding.id seen now state.bindings })

end ServerBootstrapService

end GravitPanel.Servers
