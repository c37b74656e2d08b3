import Mathlib.Data.List.Infix
import GravitPanel.Auth.ApplyProvider

/-!
# The detail of a provider

`providerDetail` of `auth-provider.service.ts`: what the panel shows of a
provider, without its secrets, and the request that submits what is shown.
-/

namespace GravitPanel.Auth

open Program Json

def number? : Json → Option Rat
  | .number value => some value
  | _ => none

def bool? : Json → Option Bool
  | .bool value => some value
  | _ => none

def numberMember (key : String) (value : Json) : Option Rat :=
  (member key value).bind number?

def boolMember (key : String) (value : Json) : Option Bool :=
  (member key value).bind bool?

/-- A text, which is empty where the value is none. -/
def textMember (key : String) (value : Json) : String :=
  (stringMember key value).getD ""

/-- The texts of an array. -/
def listMember (key : String) (value : Json) : List String :=
  (((member key value).bind items?).getD []).filterMap string?

structure AuthSqlHolderDetail where
  driverPreset : AuthSqlDriverPreset
  jdbcUrl : String
  username : String
  passwordConfigured : Bool
  hikariMaxLifetime : Option Rat
  initializeAtStart : Option Bool
  deriving DecidableEq, Repr

structure AuthSqlDetail where
  holder : AuthSqlHolderDetail
  expireSeconds : Option Rat
  table : Option String
  uuidColumn : Option String
  usernameColumn : Option String
  accessTokenColumn : Option String
  passwordColumn : Option String
  serverIDColumn : Option String
  hardwareIdColumn : Option String
  tableHWID : Option String
  tableHWIDLog : Option String
  passwordVerifier : AuthPasswordVerifierConfig
  deriving DecidableEq, Repr

structure AuthHttpDetail where
  userByUsername : String
  userByUuid : String
  userByToken : String
  refreshAccessToken : String
  authorize : String
  checkServer : String
  joinServer : String
  bearerConfigured : Bool
  deriving DecidableEq, Repr

structure AuthDiscordProviderDetail where
  clientId : String
  redirectUrl : String
  discordAuthorizeUrl : String
  discordTokenUrl : String
  discordApiEndpoint : String
  requiredGuildIds : List String
  useGlobalNickname : Bool
  usernameRegex : String
  usernameFormat : String
  autoRegister : Bool
  clientSecretConfigured : Bool
  deriving DecidableEq, Repr

structure AuthProviderDetail where
  id : String
  displayName : Json
  coreType : String
  isDefault : Bool
  visible : Bool
  textureProvider : Option AuthTextureProviderConfig
  sql : Option AuthSqlDetail
  http : Option AuthHttpDetail
  discord : Option AuthDiscordProviderDetail
  merge : Option (List String)

/-- `driverClass.includes(part)`. -/
def includes (text part : String) : Bool :=
  decide (part.toList <:+: text.toList)

def detectDriverPreset (driverClass : String) : AuthSqlDriverPreset :=
  if includes driverClass "postgresql" then .postgresql
  else if includes driverClass "mariadb" then .mariadb
  else .mysql

def verifierType (verifier : Json) : AuthPasswordVerifierType :=
  match stringMember "type" verifier with
  | some "digest" => .digest
  | some "doubleDigest" => .doubleDigest
  | some "phpass" => .phpass
  | _ => .bcrypt

/-- Is there a text that is not empty? -/
def configured (secret : Option String) : Bool :=
  (present secret).isSome

def sqlDetail (core : Json) : AuthSqlDetail :=
  let holder := (member "holder" core).getD .null
  let verifier := (member "passwordVerifier" core).getD .null
  { holder :=
      { driverPreset := detectDriverPreset (textMember "driverClass" holder)
        jdbcUrl := textMember "jdbcUrl" holder
        username := textMember "username" holder
        passwordConfigured := configured (stringMember "password" holder)
        hikariMaxLifetime := numberMember "hikariMaxLifetime" holder
        initializeAtStart := boolMember "initializeAtStart" holder }
    expireSeconds := numberMember "expireSeconds" core
    table := stringMember "table" core
    uuidColumn := stringMember "uuidColumn" core
    usernameColumn := stringMember "usernameColumn" core
    accessTokenColumn := stringMember "accessTokenColumn" core
    passwordColumn := stringMember "passwordColumn" core
    serverIDColumn := stringMember "serverIDColumn" core
    hardwareIdColumn := stringMember "hardwareIdColumn" core
    tableHWID := stringMember "tableHWID" core
    tableHWIDLog := stringMember "tableHWIDLog" core
    passwordVerifier :=
      { type := verifierType verifier
        algo := stringMember "algo" verifier
        cost := numberMember "cost" verifier
        toHexMode := boolMember "toHexMode" verifier } }

def httpDetail (core : Json) : AuthHttpDetail where
  userByUsername := textMember "userByUsername" core
  userByUuid := textMember "userByUuid" core
  userByToken := textMember "userByToken" core
  refreshAccessToken := textMember "refreshAccessToken" core
  authorize := textMember "authorize" core
  checkServer := textMember "checkServer" core
  joinServer := textMember "joinServer" core
  bearerConfigured := configured (stringMember "bearerToken" core)

/-- The detail of the module's configuration, or of none; both
`readDiscordModuleConfig` and `sanitizeProvider` have these defaults. -/
def discordDetail (config : Option Json) : AuthDiscordProviderDetail :=
  let value := config.getD .null
  { clientId := textMember "clientId" value
    redirectUrl := textMember "redirectUrl" value
    discordAuthorizeUrl := (stringMember "discordAuthorizeUrl" value).getD
      "https://discord.com/oauth2/authorize"
    discordTokenUrl := (stringMember "discordTokenUrl" value).getD
      "https://discord.com/api/oauth2/token"
    discordApiEndpoint := (stringMember "discordApiEndpoint" value).getD
      "https://discord.com/api/v10"
    requiredGuildIds := listMember "requiredGuildIds" value
    useGlobalNickname := (boolMember "useGlobalNickname" value).getD true
    usernameRegex := (stringMember "usernameRegex" value).getD
      "^[a-zA-Z0-9_]\x7b3,16\x7d$"
    usernameFormat := (stringMember "usernameFormat" value).getD
      "\x7bdiscord\x7d"
    autoRegister := (boolMember "autoRegister" value).getD true
    clientSecretConfigured :=
      configured (stringMember "clientSecret" value) }

def textureDetail (texture : Json) : AuthTextureProviderConfig where
  type := if stringMember "type" texture = some "request" then .request
    else .void
  skinURL := stringMember "skinURL" texture
  cloakURL := stringMember "cloakURL" texture

def coreTypeOf (core : Json) : String :=
  (stringMember "type" core).getD "unknown"

def sanitizeProvider
    (discordConfig : Option Json) (id : String) (pair : Json) :
    AuthProviderDetail :=
  let core := orElse (member "core" pair) (.object [])
  let coreType := coreTypeOf core
  { id
    displayName := orElse (member "displayName" pair) (.string id)
    coreType
    isDefault := boolMember "isDefault" pair = some true
    visible := boolMember "visible" pair ≠ some false
    textureProvider :=
      ((member "textureProvider" pair).filter truthy).map textureDetail
    sql := if coreType = "sql" then some (sqlDetail core) else none
    http := if coreType = "http" then some (httpDetail core) else none
    discord := if coreType = "discordauthsystem" then
      some (discordDetail discordConfig) else none
    merge := if coreType = "merge" then some (listMember "list" core)
      else none }

def providerDetail (authId : String) :
    Program AuthState String AuthProviderDetail := do
  lift (reject (!authIdPattern authId) invalidAuthId)
  let auth ← readAuth
  lift (reject (!hasTruthy authId auth)
    ("Auth provider \"" ++ authId ++ "\" does not exist"))
  let state ← get
  pure (sanitizeProvider state.discordConfig authId
    ((getField authId auth).getD .null))

/-- The recipe with this `coreType`, in the order of `authRecipes`. -/
def recipeOf (coreType : String) : Option AuthCoreRecipeId :=
  [.memory, .sql, .http, .file, .mojang, .microsoft, .merge, .discord].find?
    (·.coreType = coreType)

def AuthSqlDetail.toInput (detail : AuthSqlDetail) : AuthSqlCoreConfig where
  holder :=
    { driverPreset := detail.holder.driverPreset
      jdbcUrl := detail.holder.jdbcUrl
      username := detail.holder.username
      password := some ""
      hikariMaxLifetime := detail.holder.hikariMaxLifetime
      initializeAtStart := detail.holder.initializeAtStart }
  expireSeconds := detail.expireSeconds
  table := detail.table
  uuidColumn := detail.uuidColumn
  usernameColumn := detail.usernameColumn
  accessTokenColumn := detail.accessTokenColumn
  passwordColumn := detail.passwordColumn
  serverIDColumn := detail.serverIDColumn
  hardwareIdColumn := detail.hardwareIdColumn
  tableHWID := detail.tableHWID
  tableHWIDLog := detail.tableHWIDLog
  passwordVerifier := detail.passwordVerifier

def AuthHttpDetail.toInput (detail : AuthHttpDetail) :
    AuthHttpCoreConfig where
  userByUsername := detail.userByUsername
  userByUuid := detail.userByUuid
  userByToken := detail.userByToken
  refreshAccessToken := detail.refreshAccessToken
  authorize := detail.authorize
  checkServer := detail.checkServer
  joinServer := detail.joinServer
  bearerToken := some ""

def AuthDiscordProviderDetail.toInput (detail : AuthDiscordProviderDetail) :
    AuthDiscordCoreInput where
  clientId := detail.clientId
  clientSecret := some ""
  redirectUrl := detail.redirectUrl
  discordAuthorizeUrl := detail.discordAuthorizeUrl
  discordTokenUrl := detail.discordTokenUrl
  discordApiEndpoint := detail.discordApiEndpoint
  requiredGuildIds := detail.requiredGuildIds
  useGlobalNickname := detail.useGlobalNickname
  usernameRegex := detail.usernameRegex
  usernameFormat := detail.usernameFormat
  autoRegister := detail.autoRegister

/-- The request with what the detail shows and empty secrets. A name that is
no text is submitted as the id. -/
def AuthProviderDetail.toInput
    (detail : AuthProviderDetail) (recipeId : AuthCoreRecipeId) :
    AuthProviderApplyInput where
  authId := detail.id
  recipeId := recipeId
  displayName := (string? detail.displayName).getD detail.id
  isDefault := detail.isDefault
  visible := detail.visible
  textureProvider := detail.textureProvider
  sql := detail.sql.map AuthSqlDetail.toInput
  http := detail.http.map AuthHttpDetail.toInput
  discord := detail.discord.map AuthDiscordProviderDetail.toInput
  merge := detail.merge

end GravitPanel.Auth
