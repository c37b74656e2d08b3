import GravitPanel.Launcher.UserIndexes
import GravitPanel.Portal.Tickets

/-!
# Names of registered players

A new user gets the formatted name, or that name and the first number with
which it is free.  The configured pattern is checked before the number is
added.
-/

namespace GravitPanel.Launcher

open GravitPanel.Execution Portal

variable {ClientPermissions : Type}

def defaultRegex : String :=
  ({} : DiscordAuthSystemConfig).usernameRegex

/-- What `Pattern.matches` makes of the default pattern. -/
def MatchesDefault (library : TextLibrary) : Prop :=
  ∀ text : List Char,
    library.matchesPattern defaultRegex text = true ↔
      3 ≤ text.length ∧ text.length ≤ 16 ∧ text.all isWord = true

/-- A ticket with the name passes the check of the panel if its other fields
do. -/
def PassesTicketCheck (name : String) : Prop :=
  ∀ (ticket : PortalTicket) (now : Nat),
    ticket.username = name → uuidPattern ticket.uuid = true →
      discordIdPattern ticket.discordId = true →
        noncePattern ticket.nonce = true →
          (ticket.exp.any fun exp =>
            isSafeInteger exp && (now : Int) < exp * 1000) = true →
              wellFormed ticket now = true

structure Registered (library : TextLibrary) (name : String) : Prop where
  regex : library.matchesPattern defaultRegex name.toList = true
  ticket : PassesTicketCheck name

/-- The users have names of the configured form, no two of them the same up to
the case of letters. -/
structure NamesSound
    (library : UserLibrary ClientPermissions)
    (storage : JsonUserStorage ClientPermissions) : Prop where
  registered : ∀ object ∈ storage.objects,
    Registered library.toTextLibrary object.username
  unique : ∀ (user : Nat) (object : DiscordUser ClientPermissions)
      (other : Nat) (also : DiscordUser ClientPermissions),
    storage.objects[user]? = some object →
      storage.objects[other]? = some also →
        library.toLowerCase object.username =
          library.toLowerCase also.username → user = other

/-- The name is free, or it is free with a number behind it and then has at
most 16 characters. -/
def FitsInStorage
    (library : UserLibrary ClientPermissions)
    (storage : JsonUserStorage ClientPermissions) (name : String) : Prop :=
  storage.byUsername.get (library.toLowerCase name) = none ∨
    ∃ number : Nat, 1 ≤ number ∧
      storage.byUsername.get
          (library.toLowerCase (name ++ toString number)) = none ∧
        (name ++ toString number).toList.length ≤ 16

def CreatesFittingName
    (library : UserLibrary ClientPermissions)
    (server : LoginServer ClientPermissions)
    (event : LoginEvent ClientPermissions) : Prop :=
  match event with
  | .call login _ _ =>
      ∀ authentication, server.logins.get login = some authentication →
        authentication.next = .createUser →
          FitsInStorage library server.storage
            authentication.formattedUsername
  | _ => True

/-- One step of a server that is only started with the default pattern. -/
def defaultLoginStep
    [DecidableEq ClientPermissions]
    (library : UserLibrary ClientPermissions)
    (server : LoginServer ClientPermissions)
    (event : LoginEvent ClientPermissions) :
    Option (LoginServer ClientPermissions × List LoginResult) :=
  match event with
  | .restart config users opened =>
      if config.usernameRegex = defaultRegex then
        loginStep library server (.restart config users opened)
      else none
  | other => loginStep library server other

theorem toList_toString (number : Nat) :
    (toString number).toList = Nat.toDigits 10 number := by
  rw [Nat.toString_eq_ofList_toDigits, String.toList_ofList]

theorem length_toString_mono {first second : Nat} (order : first ≤ second) :
    (toString first).toList.length ≤ (toString second).toList.length := by
  rw [toList_toString, toList_toString]
  have positive : 0 < (Nat.toDigits 10 second).length :=
    Nat.length_toDigits_pos
  have below : second < 10 ^ (Nat.toDigits 10 second).length :=
    (Nat.length_toDigits_le_iff (by decide) positive).mp (Nat.le_refl _)
  exact (Nat.length_toDigits_le_iff (by decide) positive).mpr
    (Nat.lt_of_le_of_lt order below)

theorem isWord_of_isDigit {character : Char} (digit : character.isDigit) :
    isWord character = true := by
  rw [isWord, Char.isAlphanum, digit, Bool.or_true, Bool.true_or]

theorem all_isWord_toString (number : Nat) :
    (toString number).toList.all isWord = true := by
  rw [toList_toString, List.all_eq_true]
  intro character member
  exact isWord_of_isDigit
    (Nat.isDigit_of_mem_toDigits (by decide) (by decide) member)

theorem registered_of_regex {library : TextLibrary}
    (pattern : MatchesDefault library) {name : String}
    (regex : library.matchesPattern defaultRegex name.toList = true) :
    Registered library name where
  regex := regex
  ticket := by
    obtain ⟨long, short, words⟩ := (pattern name.toList).mp regex
    intro ticket now same uuid discordId nonce exp
    have username : usernamePattern ticket.username = true := by
      rw [usernamePattern, same, words, Bool.and_true, Bool.and_eq_true,
        decide_eq_true_eq, decide_eq_true_eq]
      exact ⟨Nat.le_of_succ_le long, short⟩
    rw [wellFormed, uuid, discordId, username, nonce, exp]
    rfl

section FreeNames

variable {library : UserLibrary ClientPermissions}

theorem suffixedUsername_first
    {byUsername : Dictionary String Nat} {base name : String}
    {attempts suffix number : Nat}
    (found :
      suffixedUsername library byUsername base attempts suffix = some name)
    (low : suffix ≤ number)
    (free :
      byUsername.get (library.toLowerCase (base ++ toString number)) =
        none) :
    ∃ first ≤ number, name = base ++ toString first := by
  induction attempts generalizing suffix with
  | zero => cases found
  | succ attempts ih =>
      rw [suffixedUsername] at found
      by_cases taken :
          (byUsername.get
            (library.toLowerCase (base ++ toString suffix))).isSome = true
      · simp only [if_pos taken] at found
        have different : suffix ≠ number := by
          rintro rfl
          rw [free] at taken
          cases taken
        exact ih found (by omega)
      · simp only [if_neg taken, Option.some.injEq] at found
        exact ⟨suffix, low, found.symm⟩

theorem suffixedUsername_from
    {byUsername : Dictionary String Nat} {base name : String}
    {attempts suffix : Nat}
    (found :
      suffixedUsername library byUsername base attempts suffix = some name) :
    ∃ number ≥ suffix, name = base ++ toString number := by
  induction attempts generalizing suffix with
  | zero => cases found
  | succ attempts ih =>
      rw [suffixedUsername] at found
      by_cases taken :
          (byUsername.get
            (library.toLowerCase (base ++ toString suffix))).isSome = true
      · simp only [if_pos taken] at found
        obtain ⟨number, later, same⟩ := ih found
        exact ⟨number, Nat.le_of_succ_le later, same⟩
      · simp only [if_neg taken, Option.some.injEq] at found
        exact ⟨suffix, Nat.le_refl _, found.symm⟩

theorem freeUsername_regex_iff (pattern : MatchesDefault library.toTextLibrary)
    {storage : JsonUserStorage ClientPermissions} {name : String}
    (regex : library.matchesPattern defaultRegex name.toList = true) :
    library.matchesPattern defaultRegex
        (freeUsername library storage.byUsername name).toList = true ↔
      FitsInStorage library storage name := by
  have free := (freeUsername_spec library storage.byUsername name).2
  rw [freeUsername] at free ⊢
  by_cases taken :
      (storage.byUsername.get (library.toLowerCase name)).isSome = true
  · rw [if_pos taken] at free ⊢
    obtain ⟨result, picked⟩ : ∃ result,
        suffixedUsername library storage.byUsername name
          (storage.byUsername.entries.length + 1) 1 = some result :=
      Option.isSome_iff_exists.mp (suffixedUsername_isSome library _ name)
    simp only [picked, Option.get_some] at free ⊢
    obtain ⟨long, _, words⟩ := (pattern name.toList).mp regex
    rw [pattern]
    constructor
    · intro matching
      obtain ⟨number, positive, same⟩ := suffixedUsername_from picked
      rw [same] at free matching
      exact Or.inr ⟨number, positive, free, matching.2.1⟩
    · intro fits
      rcases fits with absent | ⟨number, positive, empty, short⟩
      · rw [absent] at taken
        cases taken
      · obtain ⟨first, before, same⟩ :=
          suffixedUsername_first picked positive empty
        have digits := length_toString_mono before
        rw [String.toList_append, List.length_append] at short
        rw [same, String.toList_append, List.length_append, List.all_append,
          words, all_isWord_toString]
        exact ⟨by omega, by omega, rfl⟩
  · rw [if_neg taken]
    have absent := Option.not_isSome_iff_eq_none.mp taken
    exact iff_of_true regex (Or.inl absent)

/-- The condition on a step, computed from the name that it would store. -/
def createsRegistered
    (library : UserLibrary ClientPermissions)
    (server : LoginServer ClientPermissions)
    (event : LoginEvent ClientPermissions) : Bool :=
  match event with
  | .call login _ _ =>
      (server.logins.get login).all fun authentication =>
        authentication.next != .createUser ||
          (library.matchesPattern defaultRegex
              authentication.formattedUsername.toList &&
            library.matchesPattern defaultRegex
              (freeUsername library server.storage.byUsername
                authentication.formattedUsername).toList)
  | _ => true

theorem createsFittingName_of_createsRegistered
    (pattern : MatchesDefault library.toTextLibrary)
    {server : LoginServer ClientPermissions}
    {event : LoginEvent ClientPermissions}
    (creates : createsRegistered library server event = true) :
    CreatesFittingName library server event := by
  cases event with
  | authenticateDiscord login answer => trivial
  | restart config users opened => trivial
  | call login random written =>
      intro authentication found next
      simp only [createsRegistered, found, Option.all_some, next,
        bne_self_eq_false, Bool.false_or, Bool.and_eq_true] at creates
      exact (freeUsername_regex_iff pattern creates.1).mp creates.2

end FreeNames

/-- Each user object is found by its name and has a registered one. -/
structure NamesIndexed
    (library : UserLibrary ClientPermissions)
    (storage : JsonUserStorage ClientPermissions) : Prop where
  registered : ∀ object ∈ storage.objects,
    Registered library.toTextLibrary object.username
  known : ∀ (user : Nat) (object : DiscordUser ClientPermissions),
    storage.objects[user]? = some object →
      (library.toLowerCase object.username, user) ∈ storage.byUsername

/-- The users of a file have registered names that differ. -/
structure NamesLoadable
    (library : UserLibrary ClientPermissions)
    (users : List (StoredUser ClientPermissions)) : Prop where
  registered : ∀ user ∈ users,
    Registered library.toTextLibrary user.username
  distinct : users.Pairwise fun first second =>
    library.toLowerCase first.username ≠ library.toLowerCase second.username

/-- What holds of the server, its database and its logins. -/
structure NamesKept
    (library : UserLibrary ClientPermissions)
    (server : LoginServer ClientPermissions) : Prop where
  config : server.config.usernameRegex = defaultRegex
  storage : NamesIndexed library server.storage
  database : ∀ stored, server.storage.database = some stored →
    NamesLoadable library (stored.entries.map Prod.snd)
  logins : ∀ login authentication,
    server.logins.get login = some authentication →
      library.matchesPattern defaultRegex
        authentication.formattedUsername.toList = true

section Storage

variable {library : UserLibrary ClientPermissions}
variable {storage : JsonUserStorage ClientPermissions}

theorem NamesIndexed.sound (indexed : NamesIndexed library storage) :
    NamesSound library storage where
  registered := indexed.registered
  unique := by
    intro user object other also first second same
    have one := indexed.known user object first
    rw [same] at one
    exact Dictionary.value_unique one (indexed.known other also second)

theorem namesIndexed_cleared
    (database : Option (Dictionary String (StoredUser ClientPermissions))) :
    NamesIndexed library (JsonUserStorage.cleared database) where
  registered := by
    intro object member
    cases member
  known := by
    intro user object found
    cases found

theorem NamesIndexed.index {added : DiscordUser ClientPermissions}
    (indexed : NamesIndexed library storage)
    (registered : Registered library.toTextLibrary added.username)
    (free :
      storage.byUsername.get (library.toLowerCase added.username) = none) :
    NamesIndexed library (storage.index library added) where
  registered := by
    intro object member
    rcases List.mem_append.mp member with old | new
    · exact indexed.registered object old
    · rw [List.mem_singleton.mp new]
      exact registered
  known := by
    intro user object found
    rcases Nat.lt_or_ge user storage.objects.length with older | newer
    · have before := indexed.known user object
        ((List.getElem?_append_left older).symm.trans found)
      exact Dictionary.mem_put.mpr
        (Or.inr ⟨before, Dictionary.get_eq_none.mp free _ before⟩)
    · have last := (List.getElem?_append_right newer).symm.trans found
      obtain ⟨bound, same⟩ := List.getElem?_eq_some_iff.mp last
      have single : user - storage.objects.length = 0 :=
        Nat.lt_one_iff.mp bound
      have number : user = storage.objects.length := by omega
      subst number
      rw [← same]
      exact Dictionary.mem_put.mpr (Or.inl (by simp))

theorem NamesIndexed.load
    {users : List (StoredUser ClientPermissions × RandomTokens)}
    (indexed : NamesIndexed library storage)
    (loadable : NamesLoadable library (users.map Prod.fst))
    (free : ∀ read ∈ users,
      storage.byUsername.get (library.toLowerCase read.1.username) = none) :
    NamesIndexed library (storage.load library users) := by
  induction users generalizing storage with
  | nil => exact indexed
  | cons read rest ih =>
      obtain ⟨fromFirst, later⟩ := List.pairwise_cons.mp loadable.distinct
      have name : (read.1.toUser read.2).username = read.1.username :=
        toUser_username read.2 read.1
      have added : NamesIndexed library
          (storage.index library (read.1.toUser read.2)) := by
        apply indexed.index
        · rw [name]
          exact loadable.registered read.1 List.mem_cons_self
        · rw [name]
          exact free read List.mem_cons_self
      refine ih added ⟨?_, later⟩ ?_
      · intro user member
        exact loadable.registered user (List.mem_cons_of_mem _ member)
      · intro next member
        apply Dictionary.get_eq_none.mpr
        intro entry present
        rcases Dictionary.mem_put.mp present with rfl | ⟨before, _⟩
        · rw [name]
          exact fromFirst next.1 (List.mem_map_of_mem member)
        · exact Dictionary.get_eq_none.mp
            (free next (List.mem_cons_of_mem _ member)) entry before

theorem NamesIndexed.updateOAuth
    (indexed : NamesIndexed library storage) (updated : Nat)
    (discordAccessToken discordRefreshToken : String) (expireIn : Int)
    (random : RandomTokens) :
    NamesIndexed library
      (storage.updateOAuth updated discordAccessToken discordRefreshToken
        expireIn random) := by
  have origin : ∀ (user : Nat) (object : DiscordUser ClientPermissions),
      (storage.updateOAuth updated discordAccessToken discordRefreshToken
          expireIn random).objects[user]? = some object →
        ∃ before, storage.objects[user]? = some before ∧
          object.username = before.username := by
    intro user object found
    simp only [JsonUserStorage.updateOAuth, List.getElem?_modify,
      Option.map_eq_map, Option.map_eq_some_iff] at found
    obtain ⟨before, place, same⟩ := found
    refine ⟨before, place, ?_⟩
    rw [← same]
    by_cases hit : updated = user
    · rw [if_pos hit]
      rfl
    · rw [if_neg hit]
  constructor
  · intro object member
    obtain ⟨user, found⟩ := List.mem_iff_getElem?.mp member
    obtain ⟨before, place, same⟩ := origin user object found
    rw [same]
    exact indexed.registered before (List.mem_of_getElem? place)
  · intro user object found
    obtain ⟨before, place, same⟩ := origin user object found
    rw [same]
    exact indexed.known user before place

theorem NamesIndexed.save
    (indexed : NamesIndexed library storage) (written : Bool) :
    NamesIndexed library (storage.save written) where
  registered := by
    rw [save_objects]
    exact indexed.registered
  known := by
    rw [save_objects, save_byUsername]
    exact indexed.known

theorem NamesIndexed.loadable (indexed : NamesIndexed library storage) :
    NamesLoadable library (storage.storedUsers.entries.map Prod.snd) := by
  have origin : ∀ entry ∈ storage.storedUsers,
      ∃ (user : Nat) (object : DiscordUser ClientPermissions),
        storage.objects[user]? = some object ∧
          entry = (object.discordId, object.toStored) := by
    intro entry member
    rcases mem_written member with absent | ⟨object, present, same⟩
    · exact absurd absent Dictionary.not_mem_empty
    · obtain ⟨reference, _, place⟩ := List.mem_filterMap.mp present
      exact ⟨reference.2, object, place, same⟩
  constructor
  · intro stored member
    obtain ⟨entry, present, rfl⟩ := List.mem_map.mp member
    obtain ⟨user, object, place, rfl⟩ := origin entry present
    exact indexed.registered object (List.mem_of_getElem? place)
  · rw [List.pairwise_map]
    refine List.Pairwise.imp_of_mem ?_
      (List.pairwise_map.mp (Dictionary.distinct storage.storedUsers))
    intro first second one other different same
    obtain ⟨user, object, place, rfl⟩ := origin first one
    obtain ⟨number, also, placeAlso, rfl⟩ := origin second other
    have users : user = number :=
      indexed.sound.unique user object number also place placeAlso same
    subst users
    cases place.symm.trans placeAlso
    exact different rfl

theorem NamesLoadable.perm
    {users reordered : List (StoredUser ClientPermissions)}
    (loadable : NamesLoadable library users) (same : reordered.Perm users) :
    NamesLoadable library reordered where
  registered := by
    intro user member
    exact loadable.registered user (same.mem_iff.mp member)
  distinct :=
    (same.pairwise_iff fun different => different.symm).mpr loadable.distinct

theorem fitsInStorage_of_sound
    (pattern : MatchesDefault library.toTextLibrary)
    {discordId name minecraftAccessToken : String}
    {permissions : ClientPermissions} {written : Bool}
    (regex : library.matchesPattern defaultRegex name.toList = true)
    (sound :
      NamesSound library
        (storage.createUser library discordId name permissions
          minecraftAccessToken written).2) :
    FitsInStorage library storage name := by
  apply (freeUsername_regex_iff pattern regex).mp
  have present :
      storage.newUser library discordId name permissions
          minecraftAccessToken ∈
        (storage.createUser library discordId name permissions
          minecraftAccessToken written).2.objects := by
    rw [JsonUserStorage.createUser, save_objects]
    exact List.mem_append_right _ List.mem_cons_self
  exact (sound.registered _ present).regex

theorem NamesIndexed.createUser
    (pattern : MatchesDefault library.toTextLibrary)
    (indexed : NamesIndexed library storage)
    {discordId name minecraftAccessToken : String}
    {permissions : ClientPermissions}
    (regex : library.matchesPattern defaultRegex name.toList = true)
    (fits : FitsInStorage library storage name) :
    NamesIndexed library
      (storage.index library
        (storage.newUser library discordId name permissions
          minecraftAccessToken)) := by
  apply indexed.index
  · exact registered_of_regex pattern
      ((freeUsername_regex_iff pattern regex).mpr fits)
  · exact (freeUsername_spec library storage.byUsername name).2

end Storage

section Runs

variable {library : UserLibrary ClientPermissions}
variable {server next : LoginServer ClientPermissions}

theorem namesKept_new {config : DiscordAuthSystemConfig}
    (default : config.usernameRegex = defaultRegex) :
    NamesKept library (.new config) where
  config := default
  storage := namesIndexed_cleared none
  database := by
    intro stored absent
    cases absent
  logins := by
    intro login authentication absent
    cases absent

theorem NamesKept.save (kept : NamesKept library server) (written : Bool) :
    NamesKept library
      { server with storage := server.storage.save written } where
  config := kept.config
  storage := kept.storage.save written
  database := by
    intro stored found
    cases written with
    | false => exact kept.database stored found
    | true =>
        cases found
        exact kept.storage.loadable
  logins := kept.logins

theorem NamesKept.replace (kept : NamesKept library server)
    {storage : JsonUserStorage ClientPermissions}
    (indexed : NamesIndexed library storage)
    (database : storage.database = server.storage.database)
    (hashes : Dictionary String String) :
    NamesKept library
      { server with storage := storage, portalAvatarHashes := hashes } where
  config := kept.config
  storage := indexed
  database := by
    rw [database]
    exact kept.database
  logins := kept.logins

theorem NamesKept.proceed (kept : NamesKept library server)
    {login : Nat} (authentication : Authentication)
    (regex :
      library.matchesPattern defaultRegex
        authentication.formattedUsername.toList = true)
    (call : StorageCall) :
    NamesKept library (server.proceed login authentication call) where
  config := kept.config
  storage := kept.storage
  database := kept.database
  logins := by
    intro other also found
    rcases Dictionary.mem_put.mp (Dictionary.get_eq_some.mp found) with
      same | ⟨before, _⟩
    · cases same
      exact regex
    · exact kept.logins other also (Dictionary.get_eq_some.mpr before)

theorem NamesKept.finish (kept : NamesKept library server) (login : Nat) :
    NamesKept library (server.finish login) where
  config := kept.config
  storage := kept.storage
  database := kept.database
  logins := by
    intro other also found
    have before := Dictionary.mem_remove.mp (Dictionary.get_eq_some.mp found)
    exact kept.logins other also (Dictionary.get_eq_some.mpr before.1)

theorem NamesKept.authenticateDiscord (kept : NamesKept library server)
    (login : Nat) (answer : DiscordAnswer) :
    NamesKept library
      (server.authenticateDiscord library login answer).1 := by
  rw [LoginServer.authenticateDiscord]
  cases identified : identify library.toTextLibrary server.config answer with
  | error problem => exact kept
  | ok found =>
      obtain ⟨_, _, regex⟩ := identify_eq_ok identified
      rw [kept.config] at regex
      exact kept.proceed
        ⟨answer.tokens, found.1, found.2, .findByDiscordId⟩ regex
        .findByDiscordId

theorem NamesKept.call
    (pattern : MatchesDefault library.toTextLibrary)
    (kept : NamesKept library server) {login : Nat}
    {authentication : Authentication} {random : RandomTokens} {written : Bool}
    (found : server.logins.get login = some authentication)
    (fits :
      authentication.next = .createUser →
        FitsInStorage library server.storage
          authentication.formattedUsername) :
    NamesKept library
      (server.call library login authentication random written).1 := by
  have regex := kept.logins login authentication found
  rw [LoginServer.call]
  cases waits : authentication.next with
  | findByDiscordId =>
      dsimp only
      cases server.storage.findByDiscordId authentication.userInfo.id with
      | some user => exact kept.proceed authentication regex (.updateOAuth user)
      | none =>
          dsimp only
          by_cases register : server.config.autoRegister = true
          · rw [if_pos register]
            exact kept.proceed authentication regex .createUser
          · rw [if_neg register]
            exact kept.finish login
  | createUser =>
      have indexed : NamesIndexed library
          (server.storage.index library
            (server.storage.newUser library authentication.userInfo.id
              authentication.formattedUsername library.DEFAULT
              random.minecraftAccessToken)) :=
        kept.storage.createUser pattern regex (fits waits)
      have created :=
        (kept.replace indexed rfl server.portalAvatarHashes).save written
      exact created.proceed authentication regex
        (.updateOAuth server.storage.objects.length)
  | updateOAuth user =>
      have indexed :=
        kept.storage.updateOAuth user authentication.tokens.accessToken
          authentication.tokens.refreshToken
          (if authentication.tokens.expiresIn > 0 then
            authentication.tokens.expiresIn else 0) random
      have updated :=
        kept.replace indexed rfl
          (server.rememberAvatar user authentication.userInfo.avatar)
      exact updated.proceed authentication regex (.save user)
  | save user => exact (kept.save written).finish login

theorem NamesKept.restart
    (kept : NamesKept library server) {config : DiscordAuthSystemConfig}
    (default : config.usernameRegex = defaultRegex)
    {users : List (StoredUser ClientPermissions × RandomTokens)}
    {opened : Bool}
    (read : (users.map Prod.fst).Perm (server.readableUsers opened)) :
    NamesKept library (server.restart library config users) := by
  have loadable : NamesLoadable library (server.readableUsers opened) := by
    rw [LoginServer.readableUsers]
    cases stored : server.storage.database with
    | none => exact ⟨fun _ absent => absurd absent List.not_mem_nil, .nil⟩
    | some database =>
        dsimp only
        by_cases readable : opened = true
        · rw [if_pos readable]
          exact kept.database database stored
        · rw [if_neg readable]
          exact ⟨fun _ absent => absurd absent List.not_mem_nil, .nil⟩
  refine ⟨default, ?_, ?_, ?_⟩
  · exact (namesIndexed_cleared server.storage.database).load
      (loadable.perm read) fun _ _ => rfl
  · rw [LoginServer.restart, load_database]
    exact kept.database
  · intro login authentication absent
    cases absent

variable [DecidableEq ClientPermissions]

theorem NamesKept.step
    (pattern : MatchesDefault library.toTextLibrary)
    (kept : NamesKept library server)
    {event : LoginEvent ClientPermissions} {results : List LoginResult}
    (stepped : defaultLoginStep library server event = some (next, results))
    (fits : CreatesFittingName library server event) :
    NamesKept library next := by
  cases event with
  | authenticateDiscord login answer =>
      have started :
          loginStep library server (.authenticateDiscord login answer) =
            some (next, results) := stepped
      rw [loginStep] at started
      by_cases known : (server.logins.get login).isSome = true
      · rw [if_pos known] at started
        cases started
      · rw [if_neg known, Option.some.injEq] at started
        have answered := kept.authenticateDiscord login answer
        rw [started] at answered
        exact answered
  | call login random written =>
      obtain ⟨authentication, found, result⟩ :=
        Option.map_eq_some_iff.mp stepped
      have called : NamesKept library
          (server.call library login authentication random written).1 :=
        kept.call pattern found (fits authentication found)
      rw [result] at called
      exact called
  | restart config users opened =>
      rw [defaultLoginStep] at stepped
      by_cases default : config.usernameRegex = defaultRegex
      · rw [if_pos default, loginStep] at stepped
        by_cases read :
            (users.map Prod.fst).Perm (server.readableUsers opened)
        · rw [if_pos read] at stepped
          cases stepped
          exact kept.restart default read
        · rw [if_neg read] at stepped
          cases stepped
      · rw [if_neg default] at stepped
        cases stepped

theorem createsFittingName_of_sound
    (pattern : MatchesDefault library.toTextLibrary)
    (kept : NamesKept library server)
    {event : LoginEvent ClientPermissions} {results : List LoginResult}
    (stepped : defaultLoginStep library server event = some (next, results))
    (sound : NamesSound library next.storage) :
    CreatesFittingName library server event := by
  cases event with
  | authenticateDiscord login answer => trivial
  | call login random written =>
      intro authentication found creates
      obtain ⟨other, stored, result⟩ := Option.map_eq_some_iff.mp stepped
      have same : other = authentication :=
        Option.some.inj (stored.symm.trans found)
      subst same
      simp only [LoginServer.call, creates] at result
      cases result
      exact fitsInStorage_of_sound pattern
        (kept.logins login other found) sound
  | restart config users opened => trivial

/-- The names are in order in every state that a run passes through exactly if
each user of the run is created with a name that fits. -/
theorem registered_names_sound_iff
    (pattern : MatchesDefault library.toTextLibrary)
    {config : DiscordAuthSystemConfig}
    (default : config.usernameRegex = defaultRegex)
    {events : List (LoginEvent ClientPermissions)}
    {results : List LoginResult}
    (run : execute (defaultLoginStep library) (.new config) events =
      some (server, results)) :
    (∀ passed rest reached made, events = passed ++ rest →
        execute (defaultLoginStep library) (.new config) passed =
            some (reached, made) →
          NamesSound library reached.storage) ↔
      Meets (defaultLoginStep library) (CreatesFittingName library)
        (.new config) events := by
  have property : ∀ reached : LoginServer ClientPermissions,
      NamesKept library reached → NamesSound library reached.storage :=
    fun _ kept => kept.storage.sound
  refine passes_iff_meets property ?_ ?_ (namesKept_new default) run
  · intro state event next now kept stepped fits
    exact kept.step pattern stepped fits
  · intro state event next now kept stepped sound
    exact createsFittingName_of_sound pattern kept stepped sound

end Runs

theorem asciiLibrary_matches :
    MatchesDefault asciiLibrary.toTextLibrary := by
  intro text
  simp [asciiLibrary, defaultRegex, isWord, and_assoc]

def sameNames (name : String) : List (LoginEvent Unit) :=
  [.authenticateDiscord 0 (answerFor "80351110224678912" name),
    .call 0 someTokens true, .call 0 someTokens true,
    .call 0 someTokens true, .call 0 someTokens true,
    .authenticateDiscord 1 (answerFor "53908232506183680" name),
    .call 1 someTokens true, .call 1 someTokens true]

theorem sameNames_sound :
    ∃ server results,
      execute (defaultLoginStep asciiLibrary) (.new {})
          (sameNames "Nelly") = some (server, results) ∧
        server.storage.objects.map (·.username) = ["Nelly", "Nelly1"] ∧
          NamesSound asciiLibrary server.storage := by
  have ran :
      (execute (defaultLoginStep asciiLibrary) (.new {})
          (sameNames "Nelly")).map
        (fun result => result.1.storage.objects.map (·.username)) =
          some ["Nelly", "Nelly1"] := by
    decide +kernel
  obtain ⟨⟨server, results⟩, run, names⟩ := Option.map_eq_some_iff.mp ran
  have registered :
      Meets (defaultLoginStep asciiLibrary)
        (fun server event => createsRegistered asciiLibrary server event = true)
        (.new {}) (sameNames "Nelly") := by
    decide +kernel
  have fits := registered.mono fun server event =>
    createsFittingName_of_createsRegistered asciiLibrary_matches
  have sound :=
    (registered_names_sound_iff asciiLibrary_matches rfl run).mpr fits _ []
      server results (List.append_nil _).symm run
  exact ⟨server, results, run, names, sound⟩

/-- The name of the second account has 17 characters. -/
theorem long_name_registered :
    ∃ server results,
      execute (defaultLoginStep asciiLibrary) (.new {})
          (sameNames "Nelly_the_Second") = some (server, results) ∧
        ¬ NamesSound asciiLibrary server.storage := by
  have ran :
      (execute (defaultLoginStep asciiLibrary) (.new {})
          (sameNames "Nelly_the_Second")).map
        (fun result => result.1.storage.objects.map (·.username)) =
          some ["Nelly_the_Second", "Nelly_the_Second1"] := by
    decide +kernel
  obtain ⟨⟨server, results⟩, run, names⟩ := Option.map_eq_some_iff.mp ran
  refine ⟨server, results, run, fun sound => ?_⟩
  have last : "Nelly_the_Second1" ∈
      server.storage.objects.map (·.username) := by
    simp only at names
    rw [names]
    exact List.mem_cons_of_mem _ List.mem_cons_self
  obtain ⟨object, member, name⟩ := List.mem_map.mp last
  have regex := (sound.registered object member).regex
  rw [name] at regex
  revert regex
  decide +kernel

end GravitPanel.Launcher
