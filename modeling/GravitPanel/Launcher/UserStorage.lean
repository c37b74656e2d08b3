import GravitPanel.Core.Execution
import GravitPanel.Core.Utf8
import GravitPanel.Launcher.Nicknames
import Mathlib.Data.List.Perm.Subperm

/-!
# The user storage

`JsonUserStorage.java` with the objects that its three maps refer to and with
the database file, and the logins of `authenticateDiscord` as the sequences of
their calls of the storage.  A synchronized method is one step.
-/

namespace GravitPanel.Launcher

open GravitPanel.Execution

abbrev UUID := BitVec 128

/-- What comes from the Java library and the launcher's core.  Lower-casing
leaves a decimal number at the end of a text as it is, and neither makes nor
replaces white space. -/
structure UserLibrary (ClientPermissions : Type) extends TextLibrary where
  DEFAULT : ClientPermissions
  nameUUIDFromBytes : List UInt8 → UUID
  toLowerCase : String → String
  toLowerCase_number : ∀ text (number : Nat),
    toLowerCase (text ++ toString number) =
      toLowerCase text ++ toString number
  toLowerCase_blank : ∀ text, isBlank (toLowerCase text) = isBlank text

variable {ClientPermissions : Type}

structure DiscordUser (ClientPermissions : Type) where
  uuid : UUID
  discordId : String
  username : String
  accessToken : Option String
  refreshToken : Option String
  expireIn : Int
  discordAccessToken : Option String
  discordRefreshToken : Option String
  discordExpireIn : Int
  minecraftAccessToken : String
  permissions : ClientPermissions
  banned : Bool
  deriving DecidableEq, Repr

structure StoredUser (ClientPermissions : Type) where
  uuid : UUID
  discordId : String
  username : String
  permissions : ClientPermissions
  accessToken : Option String
  refreshToken : Option String
  expireIn : Int
  discordAccessToken : Option String
  discordRefreshToken : Option String
  discordExpireIn : Int
  minecraftAccessToken : Option String
  banned : Bool
  deriving DecidableEq, Repr

/-- The random texts that are drawn for one user. -/
structure RandomTokens where
  accessToken : String
  refreshToken : String
  minecraftAccessToken : String
  deriving DecidableEq, Repr

/-- The constructor of `DiscordUser`. -/
def DiscordUser.new
    (uuid : UUID) (discordId username : String)
    (permissions : ClientPermissions) (minecraftAccessToken : String) :
    DiscordUser ClientPermissions where
  uuid := uuid
  discordId := discordId
  username := username
  accessToken := none
  refreshToken := none
  expireIn := 0
  discordAccessToken := none
  discordRefreshToken := none
  discordExpireIn := 0
  minecraftAccessToken := minecraftAccessToken
  permissions := permissions
  banned := false

def DiscordUser.updateOAuth
    (discordAccessToken discordRefreshToken : String) (expireIn : Int)
    (random : RandomTokens) (user : DiscordUser ClientPermissions) :
    DiscordUser ClientPermissions :=
  { user with
    discordAccessToken := some discordAccessToken
    discordRefreshToken := some discordRefreshToken
    discordExpireIn := expireIn
    accessToken := some random.accessToken
    refreshToken := some random.refreshToken
    expireIn := expireIn }

/-- The object that `load` constructs.  A user without a Discord token was
stored by version 1.0.5 or before, or was not updated since its creation. -/
def StoredUser.toUser
    (random : RandomTokens) (stored : StoredUser ClientPermissions) :
    DiscordUser ClientPermissions :=
  let user :=
    DiscordUser.new stored.uuid stored.discordId stored.username
      stored.permissions
      (stored.minecraftAccessToken.getD random.minecraftAccessToken)
  let withTokens :=
    match stored.discordAccessToken with
    | none =>
        { user with
          discordAccessToken := stored.accessToken
          discordRefreshToken := stored.refreshToken
          discordExpireIn := stored.expireIn
          accessToken := some random.accessToken
          refreshToken := some random.refreshToken }
    | some discordAccessToken =>
        { user with
          accessToken := stored.accessToken
          refreshToken := stored.refreshToken
          discordAccessToken := some discordAccessToken
          discordRefreshToken := stored.discordRefreshToken
          discordExpireIn := stored.discordExpireIn }
  { withTokens with expireIn := stored.expireIn, banned := stored.banned }

def DiscordUser.toStored (user : DiscordUser ClientPermissions) :
    StoredUser ClientPermissions where
  uuid := user.uuid
  discordId := user.discordId
  username := user.username
  permissions := user.permissions
  accessToken := user.accessToken
  refreshToken := user.refreshToken
  expireIn := user.expireIn
  discordAccessToken := user.discordAccessToken
  discordRefreshToken := user.discordRefreshToken
  discordExpireIn := user.discordExpireIn
  minecraftAccessToken := some user.minecraftAccessToken
  banned := user.banned

theorem toString_injective {first second : Nat}
    (same : toString first = toString second) : first = second := by
  have digits : Nat.toDigits 10 first = Nat.toDigits 10 second := by
    have characters := congrArg String.toList same
    simpa [Nat.toString_eq_ofList_toDigits] using characters
  have numbers := congrArg (Nat.ofDigitChars 10 · 0) digits
  simpa using numbers

section Suffixes

variable (library : UserLibrary ClientPermissions)

/-- The loop of `createUser` for at most so many suffixes. -/
def suffixedUsername
    (byUsername : Dictionary String Nat) (base : String) :
    Nat → Nat → Option String
  | 0, _ => none
  | attempts + 1, suffix =>
      let username := base ++ toString suffix
      if (byUsername.get (library.toLowerCase username)).isSome then
        suffixedUsername byUsername base attempts (suffix + 1)
      else
        some username

variable {library} {byUsername : Dictionary String Nat} {base : String}

theorem taken_of_suffixedUsername_eq_none
    {attempts suffix : Nat}
    (failed :
      suffixedUsername library byUsername base attempts suffix = none) :
    ∀ number, suffix ≤ number → number < suffix + attempts →
      library.toLowerCase base ++ toString number ∈
        byUsername.entries.map Prod.fst := by
  induction attempts generalizing suffix with
  | zero =>
      intro number low high
      omega
  | succ attempts ih =>
      simp only [suffixedUsername] at failed
      split at failed
      next taken =>
        intro number low high
        by_cases first : number = suffix
        · obtain ⟨user, stored⟩ := Option.isSome_iff_exists.mp taken
          rw [library.toLowerCase_number, ← first] at stored
          exact List.mem_map.mpr
            ⟨_, Dictionary.get_eq_some.mp stored, rfl⟩
        · exact ih failed number (by omega) (by omega)
      · cases failed

theorem suffixedUsername_isSome
    (library : UserLibrary ClientPermissions)
    (byUsername : Dictionary String Nat) (base : String) :
    (suffixedUsername library byUsername base
      (byUsername.entries.length + 1) 1).isSome := by
  by_contra absent
  have failed := Option.not_isSome_iff_eq_none.mp absent
  have taken := taken_of_suffixedUsername_eq_none failed
  let names := (List.range' 1 (byUsername.entries.length + 1)).map
    fun number => library.toLowerCase base ++ toString number
  have distinct : names.Nodup := by
    refine List.Nodup.map ?_ List.nodup_range'
    intro first second same
    have texts : toString first = toString second := by
      simpa using same
    exact toString_injective texts
  have subset : names ⊆ byUsername.entries.map Prod.fst := by
    intro name member
    obtain ⟨number, inRange, rfl⟩ := List.mem_map.mp member
    rw [List.mem_range'_1] at inRange
    exact taken number inRange.1 (by omega)
  have shorter := (List.subperm_of_subset distinct subset).length_le
  simp only [names, List.length_map, List.length_range'] at shorter
  omega

end Suffixes

/-- The name that `createUser` gives to a new user. -/
def freeUsername
    (library : UserLibrary ClientPermissions)
    (byUsername : Dictionary String Nat) (username : String) : String :=
  if (byUsername.get (library.toLowerCase username)).isSome then
    (suffixedUsername library byUsername username
      (byUsername.entries.length + 1) 1).get
        (suffixedUsername_isSome library byUsername username)
  else
    username

section FreeNames

variable {library : UserLibrary ClientPermissions}
variable {byUsername : Dictionary String Nat}

theorem suffixedUsername_eq_some
    {base name : String} {attempts suffix : Nat}
    (found : suffixedUsername library byUsername base attempts suffix =
      some name) :
    (∃ number : Nat, name = base ++ toString number) ∧
      byUsername.get (library.toLowerCase name) = none := by
  induction attempts generalizing suffix with
  | zero => cases found
  | succ attempts ih =>
      simp only [suffixedUsername] at found
      split at found
      · exact ih found
      next free =>
        cases found
        exact ⟨⟨suffix, rfl⟩, Option.not_isSome_iff_eq_none.mp free⟩

theorem freeUsername_spec
    (library : UserLibrary ClientPermissions)
    (byUsername : Dictionary String Nat) (username : String) :
    (freeUsername library byUsername username = username ∨
        (∃ number : Nat, freeUsername library byUsername username =
          username ++ toString number) ∧
        byUsername.get (library.toLowerCase username) ≠ none) ∧
      byUsername.get
        (library.toLowerCase (freeUsername library byUsername username)) =
          none := by
  unfold freeUsername
  split
  next taken =>
    have found := Option.some_get
      (suffixedUsername_isSome library byUsername username)
    obtain ⟨numbered, free⟩ := suffixedUsername_eq_some found.symm
    exact ⟨.inr ⟨numbered, Option.isSome_iff_ne_none.mp taken⟩, free⟩
  next free =>
    exact ⟨.inl rfl, Option.not_isSome_iff_eq_none.mp free⟩

end FreeNames

/-- The storage with the user objects that were constructed, to which the maps
refer by number, and with the users in the database file, if it exists. -/
structure JsonUserStorage (ClientPermissions : Type) where
  objects : List (DiscordUser ClientPermissions)
  byDiscordId : Dictionary String Nat
  byUsername : Dictionary String Nat
  byUuid : Dictionary UUID Nat
  database : Option (Dictionary String (StoredUser ClientPermissions))

namespace JsonUserStorage

/-- The storage before `load`, with a database file or none. -/
def cleared
    (database : Option (Dictionary String (StoredUser ClientPermissions))) :
    JsonUserStorage ClientPermissions :=
  ⟨[], .empty, .empty, .empty, database⟩

/-- `index` for a user object that has just been constructed. -/
def index
    (library : UserLibrary ClientPermissions)
    (user : DiscordUser ClientPermissions)
    (storage : JsonUserStorage ClientPermissions) :
    JsonUserStorage ClientPermissions :=
  let reference := storage.objects.length
  { storage with
    objects := storage.objects ++ [user]
    byDiscordId := storage.byDiscordId.put user.discordId reference
    byUsername :=
      storage.byUsername.put (library.toLowerCase user.username) reference
    byUuid := storage.byUuid.put user.uuid reference }

/-- The users that `load` reads, in the order of the file, with the random
tokens that it draws for each. -/
def load
    (library : UserLibrary ClientPermissions)
    (users : List (StoredUser ClientPermissions × RandomTokens))
    (storage : JsonUserStorage ClientPermissions) :
    JsonUserStorage ClientPermissions :=
  users.foldl
    (fun storage read => storage.index library (read.1.toUser read.2))
    storage

/-- The objects in `byDiscordId`. -/
def usersByDiscordId (storage : JsonUserStorage ClientPermissions) :
    List (DiscordUser ClientPermissions) :=
  storage.byDiscordId.entries.filterMap fun entry =>
    storage.objects[entry.2]?

/-- The users as `save` writes them. -/
def storedUsers (storage : JsonUserStorage ClientPermissions) :
    Dictionary String (StoredUser ClientPermissions) :=
  storage.usersByDiscordId.foldl
    (fun stored user => stored.put user.discordId user.toStored) .empty

/-- `save`, whose exception is caught if the file is not `written`. -/
def save
    (written : Bool) (storage : JsonUserStorage ClientPermissions) :
    JsonUserStorage ClientPermissions :=
  if written then
    { storage with database := some storage.storedUsers }
  else
    storage

def findByDiscordId
    (discordId : String) (storage : JsonUserStorage ClientPermissions) :
    Option Nat :=
  storage.byDiscordId.get discordId

def findByUsername
    (library : UserLibrary ClientPermissions) (username : Option String)
    (storage : JsonUserStorage ClientPermissions) : Option Nat :=
  match username with
  | none => none
  | some name =>
      if isBlank name then none
      else storage.byUsername.get (library.toLowerCase name)

def findByUuid
    (uuid : Option UUID) (storage : JsonUserStorage ClientPermissions) :
    Option Nat :=
  match uuid with
  | none => none
  | some uuid => storage.byUuid.get uuid

/-- The identifier of the player that belongs to a Discord account. -/
def playerUuid
    (library : UserLibrary ClientPermissions) (discordId : String) : UUID :=
  library.nameUUIDFromBytes
    (Utf8.encode ("discord:".toList ++ discordId.toList))

/-- The user object that `createUser` constructs. -/
def newUser
    (library : UserLibrary ClientPermissions) (discordId username : String)
    (permissions : ClientPermissions) (minecraftAccessToken : String)
    (storage : JsonUserStorage ClientPermissions) :
    DiscordUser ClientPermissions :=
  DiscordUser.new (playerUuid library discordId) discordId
    (freeUsername library storage.byUsername username) permissions
    minecraftAccessToken

def createUser
    (library : UserLibrary ClientPermissions) (discordId username : String)
    (permissions : ClientPermissions) (minecraftAccessToken : String)
    (written : Bool) (storage : JsonUserStorage ClientPermissions) :
    Nat × JsonUserStorage ClientPermissions :=
  (storage.objects.length,
    (storage.index library
      (storage.newUser library discordId username permissions
        minecraftAccessToken)).save written)

/-- The storage after a call of `updateOAuth` of a user object. -/
def updateOAuth
    (user : Nat) (discordAccessToken discordRefreshToken : String)
    (expireIn : Int) (random : RandomTokens)
    (storage : JsonUserStorage ClientPermissions) :
    JsonUserStorage ClientPermissions :=
  { storage with
    objects := storage.objects.modify user
      (·.updateOAuth discordAccessToken discordRefreshToken expireIn
        random) }

end JsonUserStorage

inductive StorageCall where
  | findByDiscordId
  | createUser
  | updateOAuth (user : Nat)
  | save (user : Nat)
  deriving DecidableEq, Repr

/-- A login in `authenticateDiscord` once the answers of Discord are checked. -/
structure Authentication where
  tokens : TokenResponse
  userInfo : DiscordUserInfo
  formattedUsername : String
  next : StorageCall
  deriving DecidableEq, Repr

/-- The provider with the storage and the logins in progress. -/
structure LoginServer (ClientPermissions : Type) where
  config : DiscordAuthSystemConfig
  storage : JsonUserStorage ClientPermissions
  portalAvatarHashes : Dictionary String String
  logins : Dictionary Nat Authentication

/-- The server before its first start. -/
def LoginServer.new (config : DiscordAuthSystemConfig) :
    LoginServer ClientPermissions :=
  ⟨config, .cleared none, .empty, .empty⟩

/-- What happens to the server: a login starts and gets its answers from
Discord, a login makes its next call of the storage, or the process restarts
and loads the database. -/
inductive LoginEvent (ClientPermissions : Type) where
  | authenticateDiscord (login : Nat) (answer : DiscordAnswer)
  | call (login : Nat) (random : RandomTokens) (written : Bool)
  | restart
      (config : DiscordAuthSystemConfig)
      (users : List (StoredUser ClientPermissions × RandomTokens))
      (opened : Bool)

/-- A login that has ended, with its exception or its user object. -/
structure LoginResult where
  login : Nat
  outcome : Except AuthProblem Nat

namespace LoginServer

variable (library : UserLibrary ClientPermissions)
variable (server : LoginServer ClientPermissions)

/-- The login goes on with another call. -/
def proceed
    (login : Nat) (authentication : Authentication) (next : StorageCall) :
    LoginServer ClientPermissions :=
  { server with
    logins := server.logins.put login { authentication with next := next } }

def finish (login : Nat) : LoginServer ClientPermissions :=
  { server with logins := server.logins.remove login }

/-- The part of `authenticateDiscord` before its first call of the storage. -/
def authenticateDiscord (login : Nat) (answer : DiscordAnswer) :
    LoginServer ClientPermissions × List LoginResult :=
  match identify library.toTextLibrary server.config answer with
  | .error problem => (server, [⟨login, .error problem⟩])
  | .ok (userInfo, formattedUsername) =>
      ({ server with
        logins := server.logins.put login
          ⟨answer.tokens, userInfo, formattedUsername, .findByDiscordId⟩ },
        [])

/-- The avatars after `updateOAuth` of a user object. -/
def rememberAvatar (user : Nat) (avatar : String) :
    Dictionary String String :=
  match server.storage.objects[user]? with
  | none => server.portalAvatarHashes
  | some object =>
      if isBlank avatar then server.portalAvatarHashes
      else server.portalAvatarHashes.put object.discordId avatar

/-- The next call of the storage in a login. -/
def call
    (login : Nat) (authentication : Authentication) (random : RandomTokens)
    (written : Bool) : LoginServer ClientPermissions × List LoginResult :=
  match authentication.next with
  | .findByDiscordId =>
      match server.storage.findByDiscordId authentication.userInfo.id with
      | some user =>
          (server.proceed login authentication (.updateOAuth user), [])
      | none =>
          if server.config.autoRegister then
            (server.proceed login authentication .createUser, [])
          else
            (server.finish login, [⟨login, .error .userNotFound⟩])
  | .createUser =>
      let (user, storage) :=
        server.storage.createUser library authentication.userInfo.id
          authentication.formattedUsername library.DEFAULT
          random.minecraftAccessToken written
      ({ server with storage := storage }.proceed login authentication
        (.updateOAuth user), [])
  | .updateOAuth user =>
      let tokens := authentication.tokens
      let expireIn := if tokens.expiresIn > 0 then tokens.expiresIn else 0
      ({ server with
        storage := server.storage.updateOAuth user tokens.accessToken
          tokens.refreshToken expireIn random
        portalAvatarHashes :=
          server.rememberAvatar user authentication.userInfo.avatar }.proceed
            login authentication (.save user), [])
  | .save user =>
      ({ server with storage := server.storage.save written }.finish login,
        [⟨login, .ok user⟩])

/-- The users in the database, or none if the file cannot be opened. -/
def readableUsers (opened : Bool) : List (StoredUser ClientPermissions) :=
  match server.storage.database with
  | none => []
  | some stored => if opened then stored.entries.map Prod.snd else []

/-- The server once the process has started again. -/
def restart
    (config : DiscordAuthSystemConfig)
    (users : List (StoredUser ClientPermissions × RandomTokens)) :
    LoginServer ClientPermissions where
  config := config
  storage :=
    (JsonUserStorage.cleared server.storage.database).load library users
  portalAvatarHashes := .empty
  logins := .empty

end LoginServer

/-- One step of the server.  The file may list its users in any order. -/
def loginStep
    [DecidableEq ClientPermissions]
    (library : UserLibrary ClientPermissions)
    (server : LoginServer ClientPermissions) :
    LoginEvent ClientPermissions →
      Option (LoginServer ClientPermissions × List LoginResult)
  | .authenticateDiscord login answer =>
      if (server.logins.get login).isSome then none
      else some (server.authenticateDiscord library login answer)
  | .call login random written =>
      (server.logins.get login).map fun authentication =>
        server.call library login authentication random written
  | .restart config users opened =>
      if (users.map Prod.fst).Perm (server.readableUsers opened) then
        some (server.restart library config users, [])
      else
        none

end GravitPanel.Launcher
