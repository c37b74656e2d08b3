import GravitPanel.Core.Program
import GravitPanel.Portal.Tickets

/-!
# Logins of the panel

`PanelAuthService` of `panel-auth.service.ts` with its tables of `db/schema.ts`,
and the routes and the guard of `panel-auth.routes.ts`.  A time is in
milliseconds, and each use of the clock has a reading of its own.  A cookie is
the value that `parseCookie` finds in the header.
-/

namespace GravitPanel.PanelAuth

open Program
open Portal (isWord isoText textLE)

structure PanelAuthConfiguration where
  mode : String
  publicUrl : Option String
  redirectUri : Option String
  discordClientId : Option String
  discordClientSecret : Option String
  allowedDiscordUserIds : List String
  deriving DecidableEq, Repr

/-- The parts of a `URL` that the service reads. -/
structure Url where
  protocol : String
  origin : String
  pathname : String
  search : String
  hash : String
  deriving DecidableEq, Repr

/-- What comes from `URL` and `node:crypto`: the parts of a valid URL and the
SHA-256 of a token. -/
structure PanelEnvironment where
  parseUrl : String → Option Url
  hash : String → String

/-- A string that is there and is not empty. -/
def truthy (value : Option String) : Bool :=
  value.any fun text => text != ""

/-- `path.replace(/\/+$/, '')`. -/
def withoutSlashes (path : String) : String :=
  String.ofList (path.toList.reverse.dropWhile (· == '/')).reverse

def callbackPath : String := "/api/panel-auth/callback"

namespace PanelAuthConfiguration

def enabled (configuration : PanelAuthConfiguration) : Bool :=
  configuration.mode == "discord"

def inferPublicUrlFromRedirect
    (environment : PanelEnvironment)
    (configuration : PanelAuthConfiguration) : Option String :=
  match configuration.redirectUri.filter (· != "") with
  | none => none
  | some redirectUri =>
      match environment.parseUrl redirectUri with
      | none => none
      | some url =>
          if callbackPath.toList.isSuffixOf url.pathname.toList then
            some (url.origin ++ withoutSlashes (String.ofList
              (url.pathname.toList.take
                (url.pathname.toList.length - callbackPath.toList.length))))
          else
            some url.origin

/-- The address of the panel: a valid one over HTTP without query and
fragment. -/
def panelUrl
    (environment : PanelEnvironment)
    (configuration : PanelAuthConfiguration) : Option String :=
  match (configuration.publicUrl.or
      (configuration.inferPublicUrlFromRedirect environment)).filter
        (· != "") with
  | none => none
  | some configuredUrl =>
      match environment.parseUrl configuredUrl with
      | none => none
      | some url =>
          if url.protocol ≠ "http:" ∧ url.protocol ≠ "https:" then none
          else if url.search ≠ "" ∨ url.hash ≠ "" then none
          else
            some (url.origin ++
              if url.pathname = "/" then "" else withoutSlashes url.pathname)

def redirectTarget
    (environment : PanelEnvironment)
    (configuration : PanelAuthConfiguration) : Option String :=
  (configuration.panelUrl environment).map (· ++ callbackPath)

def configured
    (environment : PanelEnvironment)
    (configuration : PanelAuthConfiguration) : Bool :=
  configuration.enabled &&
    truthy (configuration.redirectTarget environment) &&
      truthy configuration.discordClientId &&
        truthy configuration.discordClientSecret &&
          0 < configuration.allowedDiscordUserIds.length

end PanelAuthConfiguration

structure PanelUser where
  discordId : String
  username : String
  globalName : Option String
  avatarHash : Option String
  deriving DecidableEq, Repr

/-- A row of `panel_sessions`. -/
structure SessionRow where
  sessionHash : String
  user : PanelUser
  expiresAt : String
  createdAt : String
  deriving DecidableEq, Repr

structure StoredSession where
  user : PanelUser
  expiresAt : String
  deriving DecidableEq, Repr

/-- The service with its two tables; `states` holds hashes of states with their
`expires_at`. -/
structure PanelAuthService where
  configuration : PanelAuthConfiguration
  states : List (String × String)
  sessions : List SessionRow
  deriving DecidableEq, Repr

def stateLifetimeMs : Nat := 10 * 60 * 1000

def sessionLifetimeMs : Nat := 7 * 24 * 60 * 60 * 1000

/-- The readings of the clock by `cleanupExpired`, for the expiry and for
`created_at`. -/
structure Readings where
  cleanup : Nat
  lifetime : Nat
  created : Nat
  deriving DecidableEq, Repr

/-- A response of the token endpoint with the `access_token` of its body. -/
structure DiscordTokenResponse where
  ok : Bool
  body : Except String (Option String)

structure DiscordUser where
  id : Option String
  username : Option String
  globalName : Option String
  avatar : Option String
  deriving DecidableEq, Repr

structure DiscordUserResponse where
  ok : Bool
  body : Except String DiscordUser

/-- The answers of Discord to a code and to an access token. -/
structure Discord where
  token : String → Except String DiscordTokenResponse
  user : String → Except String DiscordUserResponse

section Service

variable (environment : PanelEnvironment)

def requireConfigured : Program PanelAuthService String PUnit :=
  fun service =>
    if service.configuration.configured environment then
      (.ok ⟨⟩, service)
    else
      (.error "Discord panel authentication is not configured.", service)

def withoutExpired (time : String) (service : PanelAuthService) :
    PanelAuthService :=
  { service with
    states := service.states.filter fun row => !textLE row.2 time
    sessions := service.sessions.filter fun row =>
      !textLE row.expiresAt time }

def cleanupExpired (now : Nat) : Program PanelAuthService String PUnit := do
  let time ← lift (isoText now)
  update (withoutExpired time)

def insertState (stateHash expiresAt : String) :
    Program PanelAuthService String PUnit :=
  fun service =>
    if stateHash ∈ service.states.map Prod.fst then
      (.error "UNIQUE constraint failed: panel_oauth_states.state_hash",
        service)
    else
      (.ok ⟨⟩,
        { service with states := service.states ++ [(stateHash, expiresAt)] })

def createState (readings : Readings) (state : String) :
    Program PanelAuthService String String := do
  requireConfigured environment
  cleanupExpired readings.cleanup
  let expiresAt ← lift (isoText (readings.lifetime + stateLifetimeMs))
  insertState (environment.hash state) expiresAt
  pure expiresAt

def deleteState (stateHash : String) : Program PanelAuthService String Bool :=
  fun service =>
    (.ok (service.states.countP (·.1 = stateHash) = 1),
      { service with
        states := service.states.filter fun row => row.1 ≠ stateHash })

def consumeState (now : Nat) (state : String) :
    Program PanelAuthService String Bool := do
  cleanupExpired now
  deleteState (environment.hash state)

def discordUser (discord : Discord) (code : String) :
    Except String PanelUser := do
  let tokenResponse ← discord.token code
  if !tokenResponse.ok then
    throw "Discord rejected the authorization code."
  let token ← tokenResponse.body
  if !truthy token then
    throw "Discord returned no access token."
  let userResponse ← discord.user (token.getD "")
  if !userResponse.ok then
    throw "Discord user lookup failed."
  let user ← userResponse.body
  if !truthy user.id || !truthy user.username then
    throw "Discord returned an invalid user."
  pure ⟨user.id.getD "", user.username.getD "", user.globalName, user.avatar⟩

def insertSession (row : SessionRow) :
    Program PanelAuthService String PUnit :=
  fun service =>
    if row.sessionHash ∈ service.sessions.map SessionRow.sessionHash then
      (.error "UNIQUE constraint failed: panel_sessions.session_hash", service)
    else
      (.ok ⟨⟩, { service with sessions := service.sessions ++ [row] })

def requireAllowed (user : PanelUser) :
    Program PanelAuthService String PUnit :=
  fun service =>
    if user.discordId ∈ service.configuration.allowedDiscordUserIds then
      (.ok ⟨⟩, service)
    else
      (.error "This Discord account is not allowed to access the panel.",
        service)

/-- The rest of a login after the answers of Discord, without another wait. -/
def completeLogin
    (discord : Discord) (readings : Readings) (code session : String) :
    Program PanelAuthService String PanelUser := do
  requireConfigured environment
  let user ← lift (discordUser discord code)
  requireAllowed user
  cleanupExpired readings.cleanup
  let expiresAt ← lift (isoText (readings.lifetime + sessionLifetimeMs))
  let createdAt ← lift (isoText readings.created)
  insertSession ⟨environment.hash session, user, expiresAt, createdAt⟩
  pure user

def session (now : Nat) (cookie : Option String) :
    Program PanelAuthService String (Option StoredSession) :=
  match cookie.filter (· != "") with
  | none => pure none
  | some token => do
      cleanupExpired now
      let service ← get
      pure ((service.sessions.find? fun row =>
        row.sessionHash = environment.hash token).map fun row =>
          ⟨row.user, row.expiresAt⟩)

def revokeSession (cookie : Option String) :
    Program PanelAuthService String PUnit :=
  match cookie.filter (· != "") with
  | none => pure ⟨⟩
  | some token =>
      update fun service =>
        { service with
          sessions := service.sessions.filter fun row =>
            row.sessionHash ≠ environment.hash token }

/-- The state that `/login` creates, or none where it only redirects. -/
def loginRoute (readings : Readings) (state : String) :
    Program PanelAuthService String (Option String) := do
  let service ← get
  if !service.configuration.enabled then
    pure none
  else if !service.configuration.configured environment then
    pure none
  else do
    let expiresAt ← createState environment readings state
    pure (some expiresAt)

/-- What `/callback` reads from its query and from the cookie of the state. -/
structure Callback where
  code : Option String
  state : Option String
  stateFromCookie : Option String
  deriving DecidableEq, Repr

/-- The code and the state of a callback that brings the state of its cookie. -/
def Callback.matching (callback : Callback) : Option (String × String) :=
  match callback.code, callback.state with
  | some code, some state =>
      if code ≠ "" ∧ state ≠ "" ∧ callback.stateFromCookie = some state then
        some (code, state)
      else
        none
  | _, _ => none

/-- The code that `/callback` goes on with, after the state is consumed. -/
def callbackRoute (now : Nat) (callback : Callback) :
    Program PanelAuthService String (Option (String × String)) :=
  match callback.matching with
  | none => pure none
  | some (code, state) => do
      let consumed ← consumeState environment now state
      pure (if consumed then some (code, state) else none)

/-- A request with its path and the cookie of its session; `player` tells
whether it has a session of the public portal. -/
structure PanelRequest where
  path : String
  cookie : Option String
  player : Bool
  deriving DecidableEq, Repr

def afterPrefix (start path : String) : Option (List Char) :=
  if start.toList.isPrefixOf path.toList then
    some (path.toList.drop start.toList.length)
  else
    none

def isTokenCharacter (character : Char) : Bool :=
  isWord character || character == '-'

/-- `/^\/api\/server-bootstrap\/[A-Za-z0-9_-]{32,128}(?:\/start|…)?$/`. -/
def bootstrapPath (path : String) : Bool :=
  (afterPrefix "/api/server-bootstrap/" path).any fun rest =>
    32 ≤ (rest.takeWhile isTokenCharacter).length &&
      (rest.takeWhile isTokenCharacter).length ≤ 128 &&
        ["", "/start", "/report", "/artifacts/bundle", "/artifacts/jre-x64",
          "/artifacts/jre-aarch64"].contains
          (String.ofList (rest.dropWhile isTokenCharacter))

def isUuidCharacter (character : Char) : Bool :=
  character.isDigit || character ∈ ['a', 'b', 'c', 'd', 'e', 'f', '-']

/-- `/^\/api\/server-agent\/(?:connect|…|archive\/[0-9a-f-]{36})$/`. -/
def serverAgentPath (path : String) : Bool :=
  ["/api/server-agent/connect", "/api/server-agent/update",
    "/api/server-agent/report"].contains path ||
    (afterPrefix "/api/server-agent/archive/" path).any fun rest =>
      rest.length = 36 && rest.all isUuidCharacter

def publicPaths : List String :=
  ["/api/health", "/api/docker/launchserver",
    "/api/clients/launcher/artifacts"]

def publicPath (path : String) : Bool :=
  publicPaths.contains path ||
    path.startsWith "/api/panel-auth/" ||
    (path.startsWith "/api/public/" &&
      !path.startsWith "/api/public/settings") ||
    bootstrapPath path || serverAgentPath path

def playerDownload (request : PanelRequest) : Bool :=
  ["/api/clients/launcher/artifacts/jar",
    "/api/clients/launcher/artifacts/windows-x64"].contains request.path &&
    request.player

/-- The ends of the guard: an early return, a session, or a response 401. -/
inductive Verdict where
  | unguarded
  | authenticated (session : StoredSession)
  | unauthorized (message : String)
  deriving DecidableEq, Repr

def guard (now : Nat) (request : PanelRequest) :
    Program PanelAuthService String Verdict := do
  let service ← get
  if !service.configuration.enabled then
    pure .unguarded
  else if publicPath request.path then
    pure .unguarded
  else if playerDownload request then
    pure .unguarded
  else do
    let stored ← session environment now request.cookie
    match stored with
    | some stored => pure (.authenticated stored)
    | none => pure (.unauthorized "Discord authentication is required.")

end Service

end GravitPanel.PanelAuth
