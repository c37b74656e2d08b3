import GravitPanel.Core.JavaScript
import GravitPanel.Core.Program
import GravitPanel.LauncherDockered.PublicUrls

/-!
# Applying an auth provider

`applyProvider` of `auth-provider.service.ts` on `LaunchServer.json`: the next
provider is built from the request and the existing one, the flag of the
others is cleared for a new default, and the LaunchServer is restarted.
-/

namespace GravitPanel.Auth

open Program Json LauncherDockered

inductive AuthCoreRecipeId where
  | memory
  | sql
  | http
  | merge
  | file
  | mojang
  | microsoft
  | discord
  deriving DecidableEq, Repr

/-- `coreType` of `authRecipes`. -/
def AuthCoreRecipeId.coreType : AuthCoreRecipeId → String
  | .memory => "memory"
  | .sql => "sql"
  | .http => "http"
  | .merge => "merge"
  | .file => "fileauthsystem"
  | .mojang => "mojang"
  | .microsoft => "microsoft"
  | .discord => "discordauthsystem"

inductive AuthSqlDriverPreset where
  | postgresql
  | mariadb
  | mysql
  deriving DecidableEq, Repr

def AuthSqlDriverPreset.driverClass : AuthSqlDriverPreset → String
  | .postgresql => "org.postgresql.Driver"
  | .mariadb => "org.mariadb.jdbc.Driver"
  | .mysql => "com.mysql.cj.jdbc.Driver"

def AuthSqlDriverPreset.jdbcPrefix : AuthSqlDriverPreset → String
  | .postgresql => "jdbc:postgresql://"
  | .mariadb => "jdbc:mariadb://"
  | .mysql => "jdbc:mysql://"

inductive AuthPasswordVerifierType where
  | bcrypt
  | digest
  | doubleDigest
  | phpass
  deriving DecidableEq, Repr

structure AuthPasswordVerifierConfig where
  type : AuthPasswordVerifierType
  algo : Option String
  cost : Option Rat
  toHexMode : Option Bool
  deriving DecidableEq, Repr

structure AuthSqlHolderConfig where
  driverPreset : AuthSqlDriverPreset
  jdbcUrl : String
  username : String
  password : Option String
  hikariMaxLifetime : Option Rat
  initializeAtStart : Option Bool
  deriving DecidableEq, Repr

structure AuthSqlCoreConfig where
  holder : AuthSqlHolderConfig
  expireSeconds : Option Rat
  table : Option String
  uuidColumn : Option String
  usernameColumn : Option String
  accessTokenColumn : Option String
  passwordColumn : Option String
  serverIDColumn : Option String
  hardwareIdColumn : Option String
  tableHWID : Option String
  tableHWIDLog : Option String
  passwordVerifier : AuthPasswordVerifierConfig
  deriving DecidableEq, Repr

structure AuthHttpCoreConfig where
  userByUsername : String
  userByUuid : String
  userByToken : String
  refreshAccessToken : String
  authorize : String
  checkServer : String
  joinServer : String
  bearerToken : Option String
  deriving DecidableEq, Repr

structure AuthDiscordCoreInput where
  clientId : String
  clientSecret : Option String
  redirectUrl : String
  discordAuthorizeUrl : String
  discordTokenUrl : String
  discordApiEndpoint : String
  requiredGuildIds : List String
  useGlobalNickname : Bool
  usernameRegex : String
  usernameFormat : String
  autoRegister : Bool
  deriving DecidableEq, Repr

inductive TextureProviderType where
  | void
  | request
  deriving DecidableEq, Repr

structure AuthTextureProviderConfig where
  type : TextureProviderType
  skinURL : Option String
  cloakURL : Option String
  deriving DecidableEq, Repr

structure AuthProviderApplyInput where
  authId : String
  recipeId : AuthCoreRecipeId
  displayName : String
  isDefault : Bool
  visible : Bool
  textureProvider : Option AuthTextureProviderConfig
  sql : Option AuthSqlCoreConfig
  http : Option AuthHttpCoreConfig
  discord : Option AuthDiscordCoreInput
  merge : Option (List String)
  deriving DecidableEq, Repr

/-- The variables of the environment that a provider is built with. -/
structure AuthEnvironment where
  launchServerPublicUrl : String
  panelPublicUrl : Option String
  portalHmacSecret : Option String
  deriving DecidableEq, Repr

/-- A restart of the LaunchServer: how it rewrites the public URLs, and its
outcomes before and after that. -/
structure Lifecycle where
  prepare : Except String PUnit
  rewrite : UrlRewriter
  restart : Except String PUnit

/-- What a call meets: the outcomes of module installs, of the build of the
Discord module, of backups and writes, the command of FileAuthSystem, and the
lifecycle if there is one. -/
structure AuthHost where
  environment : AuthEnvironment
  install : String → Except String PUnit
  discordArtifact : Except String Bool
  buildDiscord : Except String PUnit
  writeModuleConfig : Except String PUnit
  backup : Except String PUnit
  write : Except String PUnit
  fileAuthCommand : String → JsonFields → Except String JsonFields
  lifecycle : Option Lifecycle

/-- `LaunchServer.json` and the configuration of the Discord module. -/
structure AuthState where
  config : JsonFields
  discordConfig : Option Json

structure AuthProviderApplyResult where
  authId : String
  coreType : String
  restarted : Bool
  deriving DecidableEq, Repr

def reject (condition : Bool) (problem : String) : Except String PUnit :=
  if condition then .error problem else .ok ⟨⟩

/-- `value?.[key]` of an object. -/
def member (key : String) (value : Json) : Option Json :=
  value.fields?.bind (getField key)

def truthy : Json → Bool
  | .null => false
  | .bool value => value
  | .number value => value ≠ 0
  | .string value => value ≠ ""
  | .array _ => true
  | .object _ => true

/-- A text that is there and not empty. -/
def present (value : Option String) : Option String :=
  value.filter (· ≠ "")

def inheritedNames : List String :=
  ["constructor", "hasOwnProperty", "isPrototypeOf", "propertyIsEnumerable",
    "toLocaleString", "toString", "valueOf", "__proto__", "__defineGetter__",
    "__defineSetter__", "__lookupGetter__", "__lookupSetter__"]

/-- `Boolean(fields[key])`. -/
def hasTruthy (key : String) (fields : JsonFields) : Bool :=
  match getField key fields with
  | some value => truthy value
  | none => inheritedNames.contains key

/-- `value.replace(/\/$/, '')`. -/
def withoutLastSlash (value : String) : String :=
  if value.toList.getLast? = some '/' then
    String.ofList value.toList.dropLast
  else value

def AuthTextureProviderConfig.toJson (config : AuthTextureProviderConfig) :
    JsonFields :=
  [("type", .string (match config.type with
    | .void => "void"
    | .request => "request"))] ++
    (config.skinURL.map fun url => ("skinURL", Json.string url)).toList ++
      (config.cloakURL.map fun url => ("cloakURL", Json.string url)).toList

def truthyField (key : String) (config : Json) : JsonFields :=
  match member key config with
  | some value => if truthy value then [(key, value)] else []
  | none => []

def isVoid (config : Json) : Bool :=
  match member "type" config with
  | some (.string type) => type = "void"
  | _ => false

def buildTextureProvider (config : Json) : JsonFields :=
  if isVoid config then
    [("type", .string "void")]
  else
    [("type", .string "request")] ++ truthyField "skinURL" config ++
      truthyField "cloakURL" config

def voidTexture : Json := .object [("type", .string "void")]

/-- The pages of the panel with skins and cloaks. -/
def panelTexture (url : String) : Json :=
  .object [("type", .string "request"),
    ("skinURL", .string (withoutLastSlash url ++
      "/api/public/skins/%username%.png")),
    ("cloakURL", .string (withoutLastSlash url ++
      "/api/public/cloaks/%username%.png"))]

/-- The request's texture provider for Discord, which is the panel. -/
def asksPanelTexture (input : AuthProviderApplyInput) : Bool :=
  input.recipeId = .discord &&
    (input.textureProvider.map AuthTextureProviderConfig.type) =
      some .request

/-- `value ?? fallback` for a value of `JSON.parse`. -/
def orElse (value : Option Json) (fallback : Json) : Json :=
  match value with
  | some .null => fallback
  | some value => value
  | none => fallback

def chosenTexture
    (environment : AuthEnvironment) (input : AuthProviderApplyInput)
    (existing : Json) : Json :=
  if asksPanelTexture input then
    match present environment.panelPublicUrl with
    | some url => panelTexture url
    | none => voidTexture
  else
    match input.textureProvider with
    | some config => .object config.toJson
    | none => orElse (member "textureProvider" existing) voidTexture

def stringMember (key : String) (value : Json) : Option String :=
  (member key value).bind string?

/-- The given secret, or else the existing one; neither is empty. -/
def secretOf (given existing : Option String) : Option String :=
  (present given).or (present existing)

def buildHttpCore (http : Option AuthHttpCoreConfig) (existing : Json) :
    Except String JsonFields :=
  match http with
  | none => .error "HTTP auth requires endpoint configuration"
  | some http =>
      match secretOf http.bearerToken (stringMember "bearerToken" existing) with
      | none => .error "HTTP auth requires a bearer token"
      | some bearerToken => .ok
          [("type", .string "http"),
            ("userByUsername", .string http.userByUsername),
            ("userByUuid", .string http.userByUuid),
            ("userByToken", .string http.userByToken),
            ("refreshAccessToken", .string http.refreshAccessToken),
            ("authorize", .string http.authorize),
            ("checkServer", .string http.checkServer),
            ("joinServer", .string http.joinServer),
            ("bearerToken", .string bearerToken)]

def buildPasswordVerifier (config : AuthPasswordVerifierConfig) :
    JsonFields :=
  match config.type with
  | .bcrypt =>
      [("type", .string "bcrypt"), ("cost", .number (config.cost.getD 10))]
  | .digest =>
      [("type", .string "digest"),
        ("algo", .string (config.algo.getD "SHA256"))]
  | .doubleDigest =>
      [("type", .string "doubleDigest"),
        ("algo", .string (config.algo.getD "SHA256")),
        ("toHexMode", .bool (config.toHexMode.getD true))]
  | .phpass => [("type", .string "phpass")]

def existingPassword (existing : Json) : Option String :=
  (member "holder" existing).bind (stringMember "password")

def sqlCore (sql : AuthSqlCoreConfig) (password : String) : JsonFields :=
  [("type", .string "sql"),
    ("holder", .object
      [("driverClass", .string sql.holder.driverPreset.driverClass),
        ("jdbcUrl", .string sql.holder.jdbcUrl),
        ("username", .string sql.holder.username),
        ("password", .string password),
        ("hikariMaxLifetime",
          .number (sql.holder.hikariMaxLifetime.getD 1800000)),
        ("initializeAtStart",
          .bool (sql.holder.initializeAtStart.getD false))]),
    ("expireSeconds", .number (sql.expireSeconds.getD 3600)),
    ("uuidColumn", .string (sql.uuidColumn.getD "uuid")),
    ("usernameColumn", .string (sql.usernameColumn.getD "username")),
    ("accessTokenColumn", .string (sql.accessTokenColumn.getD "accesstoken")),
    ("passwordColumn", .string (sql.passwordColumn.getD "password")),
    ("serverIDColumn", .string (sql.serverIDColumn.getD "serverid")),
    ("hardwareIdColumn", .string (sql.hardwareIdColumn.getD "hwidId")),
    ("tableHWID", .string (sql.tableHWID.getD "hwids")),
    ("tableHWIDLog", .string (sql.tableHWIDLog.getD "hwidLog")),
    ("table", .string (sql.table.getD "users")),
    ("passwordVerifier",
      .object (buildPasswordVerifier sql.passwordVerifier))]

def buildSqlCore (sql : Option AuthSqlCoreConfig) (existing : Json) :
    Except String JsonFields :=
  match sql with
  | none => .error "SQL auth requires database configuration"
  | some sql =>
      let start := sql.holder.driverPreset.jdbcPrefix
      if start.toList.isPrefixOf sql.holder.jdbcUrl.toList then
        match secretOf sql.holder.password (existingPassword existing) with
        | none => .error "SQL auth requires a database password"
        | some password => .ok (sqlCore sql password)
      else
        .error ("JDBC URL must start with " ++ start)

def plainCore (recipeId : AuthCoreRecipeId) : JsonFields :=
  [("type", .string recipeId.coreType)]

def buildCore (input : AuthProviderApplyInput) (existing : Json) :
    Except String JsonFields :=
  match input.recipeId with
  | .memory => .ok (plainCore .memory)
  | .mojang => .ok (plainCore .mojang)
  | .microsoft => .ok (plainCore .microsoft)
  | .merge => .ok (plainCore .merge ++
      [("list", .array ((input.merge.getD []).map Json.string))])
  | .http => buildHttpCore input.http existing
  | .sql => buildSqlCore input.sql existing
  | .discord => .ok (plainCore .discord)
  | .file => .error "Recipe \"file\" cannot be applied through JSON write"

def buildProviderPair
    (environment : AuthEnvironment) (input : AuthProviderApplyInput)
    (existing : Json) : Except String JsonFields := do
  let core ← buildCore input ((member "core" existing).getD .null)
  .ok [("isDefault", .bool input.isDefault),
    ("displayName", .string input.displayName),
    ("visible", .bool input.visible),
    ("textureProvider", .object
      (buildTextureProvider (chosenTexture environment input existing))),
    ("core", .object core)]

def authOf (config : JsonFields) : Option JsonFields :=
  (getField "auth" config).bind fields?

/-- The map of the providers, which every configuration has. -/
def readAuth : Program AuthState String JsonFields := do
  let state ← get
  match authOf state.config with
  | none =>
      throw "LaunchServer configuration does not contain an auth provider map"
  | some auth => pure auth

/-- `{ ...pair, isDefault: false }`. -/
def clearDefault (pair : Json) : Json :=
  .object (setField "isDefault" (.bool false) (pair.fields?.getD []))

/-- The providers for a request, before its own is set. -/
def clearedAuth (input : AuthProviderApplyInput) (auth : JsonFields) :
    JsonFields :=
  if input.isDefault then
    auth.map fun entry =>
      if entry.1 = input.authId then entry else (entry.1, clearDefault entry.2)
  else auth

def nextConfig
    (input : AuthProviderApplyInput) (pair auth config : JsonFields) :
    JsonFields :=
  setField "auth"
    (.object (setField input.authId (.object pair) (clearedAuth input auth)))
    config

def checkMerge (input : AuthProviderApplyInput) (auth : JsonFields) :
    Except String PUnit :=
  if input.recipeId = .merge then do
    let list := input.merge.getD []
    reject (list.length < 2) "Merge auth requires at least two provider ids"
    match list.find? fun id => !hasTruthy id auth with
    | some id =>
        .error ("Merge list references missing provider \"" ++ id ++ "\"")
    | none => .ok ⟨⟩
  else .ok ⟨⟩

def setConfig (config : JsonFields) (state : AuthState) : AuthState :=
  { state with config := config }

def restartLaunchServer (lifecycle : Option Lifecycle) :
    Program AuthState String PUnit :=
  match lifecycle with
  | none => pure ⟨⟩
  | some lifecycle => do
      lift lifecycle.prepare
      update fun state =>
        setConfig (synchronizePublicUrls lifecycle.rewrite state.config) state
      lift lifecycle.restart

def ensureDiscordModule (host : AuthHost) :
    Program AuthState String PUnit := do
  let current ← lift host.discordArtifact
  if current then pure ⟨⟩
  else do
    lift host.buildDiscord
    restartLaunchServer host.lifecycle

/-- `value || fallback` for texts. -/
def orDefault (value fallback : String) : String :=
  if value = "" then fallback else value

def discordModuleConfig
    (environment : AuthEnvironment) (config : AuthDiscordCoreInput)
    (clientSecret : String) : JsonFields :=
  [("clientId", .string config.clientId),
    ("clientSecret", .string clientSecret),
    ("redirectUrl", .string config.redirectUrl),
    ("discordAuthorizeUrl", .string (orDefault config.discordAuthorizeUrl
      "https://discord.com/oauth2/authorize")),
    ("discordTokenUrl", .string (orDefault config.discordTokenUrl
      "https://discord.com/api/oauth2/token")),
    ("discordApiEndpoint", .string (orDefault config.discordApiEndpoint
      "https://discord.com/api/v10")),
    ("requiredGuildIds", .array (config.requiredGuildIds.map Json.string)),
    ("useGlobalNickname", .bool config.useGlobalNickname),
    ("usernameRegex", .string (orDefault config.usernameRegex
      "^[a-zA-Z0-9_]\x7b3,16\x7d$")),
    ("usernameFormat", .string (orDefault config.usernameFormat
      "\x7bdiscord\x7d")),
    ("autoRegister", .bool config.autoRegister),
    ("portalRedirectUrl", .string (withoutLastSlash
      environment.launchServerPublicUrl ++ "/webapi/auth/discord/portal")),
    ("portalCallbackUrl", .string (withoutLastSlash
      (environment.panelPublicUrl.getD "") ++ "/api/public/auth/callback")),
    ("portalHmacSecret", .string (environment.portalHmacSecret.getD ""))]

def invalidDiscordConfig : String :=
  "Discord auth requires clientId, clientSecret, and redirectUrl"

def setDiscordConfig (config : JsonFields) (state : AuthState) : AuthState :=
  { state with discordConfig := some (.object config) }

/-- The secret of a request, or else of the module's configuration. -/
def discordSecret
    (config : AuthDiscordCoreInput) (existing : Option Json) :
    Except String String :=
  match secretOf config.clientSecret
      (existing.bind (stringMember "clientSecret")) with
  | none => .error invalidDiscordConfig
  | some clientSecret =>
      if config.clientId = "" ∨ config.redirectUrl = "" then
        .error invalidDiscordConfig
      else .ok clientSecret

def writeDiscordModuleConfig
    (host : AuthHost) (config : AuthDiscordCoreInput) :
    Program AuthState String PUnit := do
  let state ← get
  let clientSecret ← lift (discordSecret config state.discordConfig)
  lift host.writeModuleConfig
  update (setDiscordConfig
    (discordModuleConfig host.environment config clientSecret))

def applyDiscordModuleConfig
    (host : AuthHost) (config : Option AuthDiscordCoreInput) :
    Program AuthState String PUnit :=
  match config with
  | none => throw "Discord auth requires module configuration"
  | some config => writeDiscordModuleConfig host config

def usesPhpass (input : AuthProviderApplyInput) : Bool :=
  (input.sql.map fun sql => sql.passwordVerifier.type) = some .phpass

def prepareModules (host : AuthHost) (input : AuthProviderApplyInput) :
    Program AuthState String PUnit :=
  match input.recipeId with
  | .mojang | .microsoft => lift (host.install "MojangSupport_module")
  | .sql =>
      if usesPhpass input then lift (host.install "AdditionalHash_module")
      else pure ⟨⟩
  | .discord => do
      ensureDiscordModule host
      applyDiscordModuleConfig host input.discord
      lift (host.install "DiscordAuthSystem_module")
  | _ => pure ⟨⟩

def hasCoreType (type : String) (pair : Json) : Bool :=
  ((member "core" pair).bind (stringMember "type")) = some type

/-- The provider in the map has a core of this type. -/
def configuredAs (type id : String) (auth : JsonFields) : Bool :=
  ((getField id auth).map (hasCoreType type)).getD false

def findConfiguredFileProvider (auth : JsonFields) (authId : String) :
    Option String :=
  if configuredAs "fileauthsystem" authId auth then some authId
  else if configuredAs "fileauthsystem" "fileauthsystem" auth then
    some "fileauthsystem"
  else none

def invalidAuthId : String :=
  "Auth provider id contains unsupported characters"

/-- `/^[a-zA-Z0-9][a-zA-Z0-9_-]{0,63}$/`. -/
def authIdPattern (authId : String) : Bool :=
  JavaScript.isToken ['_', '-'] 63 authId

def runFileAuthCommand (host : AuthHost) (authId : String) :
    Program AuthState String PUnit := do
  lift host.backup
  let state ← get
  let config ← lift (host.fileAuthCommand authId state.config)
  update (setConfig config)

/-- The id under which the file provider is configured. -/
def installFileAuth (host : AuthHost) (authId : String) :
    Program AuthState String String := do
  lift (reject (!authIdPattern authId) invalidAuthId)
  let before ← readAuth
  lift (reject (!hasTruthy authId before)
    ("Auth provider \"" ++ authId ++ "\" does not exist"))
  lift (host.install "FileAuthSystem_module")
  let loaded ← readAuth
  match findConfiguredFileProvider loaded authId with
  | some existingId => pure existingId
  | none => do
      runFileAuthCommand host authId
      let after ← readAuth
      match findConfiguredFileProvider after authId with
      | some configuredId => pure configuredId
      | none => throw ("FileAuthSystem command completed without a " ++
          "persisted fileauthsystem provider")

def existingPair (authId : String) (auth : JsonFields) : Json :=
  orElse (getField authId auth) (.object [])

def writeProvider (host : AuthHost) (input : AuthProviderApplyInput) :
    Program AuthState String PUnit := do
  let auth ← readAuth
  lift (checkMerge input auth)
  lift host.backup
  let pair ← lift (buildProviderPair host.environment input
    (existingPair input.authId auth))
  lift host.write
  update fun state =>
    setConfig (nextConfig input pair auth state.config) state
  restartLaunchServer host.lifecycle

def verifyProvider (input : AuthProviderApplyInput) :
    Program AuthState String PUnit := do
  let after ← readAuth
  lift (reject (!configuredAs input.recipeId.coreType input.authId after)
    ("Auth provider apply completed without persisting core type \"" ++
      input.recipeId.coreType ++ "\""))

def applyProvider (host : AuthHost) (input : AuthProviderApplyInput) :
    Program AuthState String AuthProviderApplyResult := do
  lift (reject (!authIdPattern input.authId) invalidAuthId)
  if input.recipeId = .file then do
    let configuredId ← installFileAuth host input.authId
    pure ⟨configuredId, AuthCoreRecipeId.file.coreType, false⟩
  else do
    prepareModules host input
    writeProvider host input
    verifyProvider input
    pure ⟨input.authId, input.recipeId.coreType, host.lifecycle.isSome⟩

end GravitPanel.Auth
