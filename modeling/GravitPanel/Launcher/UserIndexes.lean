import GravitPanel.Launcher.UserStorage

/-!
# The indexes of the user storage

A login looks its account up and creates it in two calls.  If the account was
created in between, the older user object stays in one index and is replaced
in the others; otherwise the three indexes refer to the same users, also after
they are loaded from the file that was written from one of them.
-/

namespace GravitPanel.Launcher

open GravitPanel.Execution

variable {ClientPermissions : Type}

/-- The user objects that a map refers to. -/
def references {Key : Type} (users : Dictionary Key Nat) : List Nat :=
  users.entries.map Prod.snd

structure JsonUserStorage.Has
    (storage : JsonUserStorage ClientPermissions) (user : Nat)
    (object : DiscordUser ClientPermissions) : Prop where
  referred : user ∈ references storage.byDiscordId ∨
    user ∈ references storage.byUsername ∨ user ∈ references storage.byUuid
  constructed : storage.objects[user]? = some object

/-- The maps contain the same users, no two of one Discord account or of one
name, and each is found by its name and by both of its identifiers. -/
structure Coherent
    (library : UserLibrary ClientPermissions)
    (storage : JsonUserStorage ClientPermissions) : Prop where
  sameByUsername : ∀ user, user ∈ references storage.byDiscordId ↔
    user ∈ references storage.byUsername
  sameByUuid : ∀ user, user ∈ references storage.byDiscordId ↔
    user ∈ references storage.byUuid
  oneOfAccount : ∀ user object other also,
    storage.Has user object → storage.Has other also →
      object.discordId = also.discordId → user = other
  oneOfName : ∀ user object other also,
    storage.Has user object → storage.Has other also →
      library.toLowerCase object.username =
        library.toLowerCase also.username → user = other
  byUsername : ∀ user object, storage.Has user object →
    storage.findByUsername library (some object.username) = some user
  byUuid : ∀ user object, storage.Has user object →
    storage.findByUuid (some object.uuid) = some user
  byDiscordId : ∀ user object, storage.Has user object →
    storage.findByDiscordId object.discordId = some user

/-- No user has the Discord identifier or the player identifier made from it,
and the name is not blank. -/
structure NewAccount
    (library : UserLibrary ClientPermissions)
    (storage : JsonUserStorage ClientPermissions)
    (discordId username : String) : Prop where
  account : storage.findByDiscordId discordId = none
  player : storage.findByUuid
    (some (JsonUserStorage.playerUuid library discordId)) = none
  named : isBlank username = false

instance
    (library : UserLibrary ClientPermissions)
    (storage : JsonUserStorage ClientPermissions)
    (discordId username : String) :
    Decidable (NewAccount library storage discordId username) :=
  decidable_of_iff
    (storage.findByDiscordId discordId = none ∧
      storage.findByUuid
          (some (JsonUserStorage.playerUuid library discordId)) = none ∧
        isBlank username = false)
    ⟨fun ⟨account, player, named⟩ => ⟨account, player, named⟩,
      fun new => ⟨new.account, new.player, new.named⟩⟩

def CreatesNewAccount
    (library : UserLibrary ClientPermissions)
    (server : LoginServer ClientPermissions) :
    LoginEvent ClientPermissions → Prop
  | .call login _ _ =>
      ∀ authentication ∈ server.logins.get login,
        authentication.next = .createUser →
          NewAccount library server.storage authentication.userInfo.id
            authentication.formattedUsername
  | _ => True

instance
    (library : UserLibrary ClientPermissions)
    (server : LoginServer ClientPermissions) :
    ∀ event, Decidable (CreatesNewAccount library server event)
  | .call .. => by unfold CreatesNewAccount; infer_instance
  | .authenticateDiscord .. => .isTrue trivial
  | .restart .. => .isTrue trivial

/-- Each map refers to the object under the key that the object has for it. -/
structure Listed
    (library : UserLibrary ClientPermissions)
    (storage : JsonUserStorage ClientPermissions) (user : Nat)
    (object : DiscordUser ClientPermissions) : Prop where
  constructed : storage.objects[user]? = some object
  discordId : (object.discordId, user) ∈ storage.byDiscordId
  username :
    (library.toLowerCase object.username, user) ∈ storage.byUsername
  uuid : (object.uuid, user) ∈ storage.byUuid
  named : isBlank object.username = false

/-- Every entry of every map is one of a listed object. -/
structure Indexed
    (library : UserLibrary ClientPermissions)
    (storage : JsonUserStorage ClientPermissions) : Prop where
  byDiscordId : ∀ entry ∈ storage.byDiscordId, ∃ object,
    Listed library storage entry.2 object ∧ entry.1 = object.discordId
  byUsername : ∀ entry ∈ storage.byUsername, ∃ object,
    Listed library storage entry.2 object ∧
      entry.1 = library.toLowerCase object.username
  byUuid : ∀ entry ∈ storage.byUuid, ∃ object,
    Listed library storage entry.2 object ∧ entry.1 = object.uuid

/-- A user whose keys no map has. -/
structure Absent
    (library : UserLibrary ClientPermissions)
    (storage : JsonUserStorage ClientPermissions)
    (user : DiscordUser ClientPermissions) : Prop where
  discordId : ∀ entry ∈ storage.byDiscordId, entry.1 ≠ user.discordId
  username : ∀ entry ∈ storage.byUsername,
    entry.1 ≠ library.toLowerCase user.username
  uuid : ∀ entry ∈ storage.byUuid, entry.1 ≠ user.uuid
  named : isBlank user.username = false

/-- Stored users that have no key in common. -/
structure KeysApart
    (library : UserLibrary ClientPermissions)
    (first second : StoredUser ClientPermissions) : Prop where
  discordId : first.discordId ≠ second.discordId
  username : library.toLowerCase first.username ≠
    library.toLowerCase second.username
  uuid : first.uuid ≠ second.uuid

section Storage

variable {library : UserLibrary ClientPermissions}
variable {storage : JsonUserStorage ClientPermissions}
variable {object : DiscordUser ClientPermissions} {user : Nat}

theorem mem_references {Key : Type} {users : Dictionary Key Nat} :
    user ∈ references users ↔ ∃ key, (key, user) ∈ users := by
  unfold references
  rw [List.mem_map]
  constructor
  · rintro ⟨⟨key, _⟩, member, rfl⟩
    exact ⟨key, member⟩
  · rintro ⟨key, member⟩
    exact ⟨(key, user), member, rfl⟩

theorem Indexed.listed
    (indexed : Indexed library storage)
    (has : storage.Has user object) : Listed library storage user object := by
  have found : ∃ object, Listed library storage user object := by
    rcases has.referred with byDiscordId | byUsername | byUuid
    · obtain ⟨key, member⟩ := mem_references.mp byDiscordId
      obtain ⟨object, listed, _⟩ := indexed.byDiscordId _ member
      exact ⟨object, listed⟩
    · obtain ⟨key, member⟩ := mem_references.mp byUsername
      obtain ⟨object, listed, _⟩ := indexed.byUsername _ member
      exact ⟨object, listed⟩
    · obtain ⟨key, member⟩ := mem_references.mp byUuid
      obtain ⟨object, listed, _⟩ := indexed.byUuid _ member
      exact ⟨object, listed⟩
  obtain ⟨other, listed⟩ := found
  have same : some other = some object :=
    listed.constructed.symm.trans has.constructed
  cases same
  exact listed

theorem Listed.unique
    {object also : DiscordUser ClientPermissions}
    (listed : Listed library storage user object)
    (listedAlso : Listed library storage user also) : object = also :=
  Option.some.inj (listed.constructed.symm.trans listedAlso.constructed)

theorem Listed.referred
    (listed : Listed library storage user object) :
    user ∈ references storage.byDiscordId ∧
      user ∈ references storage.byUsername ∧
        user ∈ references storage.byUuid :=
  ⟨mem_references.mpr ⟨_, listed.discordId⟩,
    mem_references.mpr ⟨_, listed.username⟩,
    mem_references.mpr ⟨_, listed.uuid⟩⟩

theorem Indexed.coherent (indexed : Indexed library storage) :
    Coherent library storage where
  sameByUsername user := by
    constructor
    · intro member
      obtain ⟨key, entry⟩ := mem_references.mp member
      obtain ⟨_, listed, _⟩ := indexed.byDiscordId _ entry
      exact listed.referred.2.1
    · intro member
      obtain ⟨key, entry⟩ := mem_references.mp member
      obtain ⟨_, listed, _⟩ := indexed.byUsername _ entry
      exact listed.referred.1
  sameByUuid user := by
    constructor
    · intro member
      obtain ⟨key, entry⟩ := mem_references.mp member
      obtain ⟨_, listed, _⟩ := indexed.byDiscordId _ entry
      exact listed.referred.2.2
    · intro member
      obtain ⟨key, entry⟩ := mem_references.mp member
      obtain ⟨_, listed, _⟩ := indexed.byUuid _ entry
      exact listed.referred.1
  oneOfAccount user object other also has hasAlso same := by
    have first := (indexed.listed has).discordId
    have second := (indexed.listed hasAlso).discordId
    rw [same] at first
    exact Dictionary.value_unique first second
  oneOfName user object other also has hasAlso same := by
    have first := (indexed.listed has).username
    have second := (indexed.listed hasAlso).username
    rw [same] at first
    exact Dictionary.value_unique first second
  byUsername user object has := by
    have listed := indexed.listed has
    simp only [JsonUserStorage.findByUsername, listed.named]
    exact Dictionary.get_eq_some.mpr listed.username
  byUuid user object has :=
    Dictionary.get_eq_some.mpr (indexed.listed has).uuid
  byDiscordId user object has :=
    Dictionary.get_eq_some.mpr (indexed.listed has).discordId

theorem Listed.index
    {object added : DiscordUser ClientPermissions}
    (listed : Listed library storage user object)
    (absent : Absent library storage added) :
    Listed library (storage.index library added) user object where
  constructed := by
    obtain ⟨bound, _⟩ := List.getElem?_eq_some_iff.mp listed.constructed
    have kept := listed.constructed
    rw [← List.getElem?_append_left bound] at kept
    exact kept
  discordId := Dictionary.mem_put.mpr
    (.inr ⟨listed.discordId, absent.discordId _ listed.discordId⟩)
  username := Dictionary.mem_put.mpr
    (.inr ⟨listed.username, absent.username _ listed.username⟩)
  uuid := Dictionary.mem_put.mpr
    (.inr ⟨listed.uuid, absent.uuid _ listed.uuid⟩)
  named := listed.named

theorem listed_index_self
    {added : DiscordUser ClientPermissions}
    (named : isBlank added.username = false) :
    Listed library (storage.index library added) storage.objects.length
      added where
  constructed := by simp [JsonUserStorage.index]
  discordId := Dictionary.mem_put.mpr (.inl rfl)
  username := Dictionary.mem_put.mpr (.inl rfl)
  uuid := Dictionary.mem_put.mpr (.inl rfl)
  named := named

theorem Indexed.index
    {added : DiscordUser ClientPermissions}
    (indexed : Indexed library storage)
    (absent : Absent library storage added) :
    Indexed library (storage.index library added) where
  byDiscordId entry member := by
    rcases Dictionary.mem_put.mp member with rfl | ⟨before, _⟩
    · exact ⟨added, listed_index_self absent.named, rfl⟩
    · obtain ⟨object, listed, key⟩ := indexed.byDiscordId entry before
      exact ⟨object, listed.index absent, key⟩
  byUsername entry member := by
    rcases Dictionary.mem_put.mp member with rfl | ⟨before, _⟩
    · exact ⟨added, listed_index_self absent.named, rfl⟩
    · obtain ⟨object, listed, key⟩ := indexed.byUsername entry before
      exact ⟨object, listed.index absent, key⟩
  byUuid entry member := by
    rcases Dictionary.mem_put.mp member with rfl | ⟨before, _⟩
    · exact ⟨added, listed_index_self absent.named, rfl⟩
    · obtain ⟨object, listed, key⟩ := indexed.byUuid entry before
      exact ⟨object, listed.index absent, key⟩

section Fields

variable (random : RandomTokens) (stored : StoredUser ClientPermissions)

@[simp]
theorem toUser_discordId :
    (stored.toUser random).discordId = stored.discordId := by
  simp only [StoredUser.toUser]
  split <;> rfl

@[simp]
theorem toUser_username :
    (stored.toUser random).username = stored.username := by
  simp only [StoredUser.toUser]
  split <;> rfl

@[simp]
theorem toUser_uuid : (stored.toUser random).uuid = stored.uuid := by
  simp only [StoredUser.toUser]
  split <;> rfl

end Fields

theorem KeysApart.symm {first second : StoredUser ClientPermissions}
    (apart : KeysApart library first second) : KeysApart library second first :=
  ⟨apart.discordId.symm, apart.username.symm, apart.uuid.symm⟩

theorem Absent.index
    {first second : StoredUser ClientPermissions} {random other : RandomTokens}
    (absent : Absent library storage (second.toUser other))
    (apart : KeysApart library first second) :
    Absent library (storage.index library (first.toUser random))
      (second.toUser other) where
  discordId entry member := by
    rcases Dictionary.mem_put.mp member with rfl | ⟨before, _⟩
    · simpa using apart.discordId
    · exact absent.discordId entry before
  username entry member := by
    rcases Dictionary.mem_put.mp member with rfl | ⟨before, _⟩
    · simpa using apart.username
    · exact absent.username entry before
  uuid entry member := by
    rcases Dictionary.mem_put.mp member with rfl | ⟨before, _⟩
    · simpa using apart.uuid
    · exact absent.uuid entry before
  named := absent.named

theorem Indexed.load
    {users : List (StoredUser ClientPermissions × RandomTokens)}
    (indexed : Indexed library storage)
    (absent : ∀ read ∈ users,
      Absent library storage (read.1.toUser read.2))
    (apart : (users.map Prod.fst).Pairwise (KeysApart library)) :
    Indexed library (storage.load library users) := by
  induction users generalizing storage with
  | nil => exact indexed
  | cons read rest ih =>
      obtain ⟨fromFirst, later⟩ := List.pairwise_cons.mp apart
      have added := indexed.index (absent read List.mem_cons_self)
      refine ih added (fun next member => ?_) later
      have different := fromFirst next.1 (List.mem_map_of_mem member)
      exact (absent next (List.mem_cons_of_mem read member)).index different

/-- The users of a file can be loaded: no two have a key in common, and none
has a blank name. -/
structure Loadable
    (library : UserLibrary ClientPermissions)
    (users : List (StoredUser ClientPermissions)) : Prop where
  apart : users.Pairwise (KeysApart library)
  named : ∀ user ∈ users, isBlank user.username = false

theorem loadable_nil : Loadable library [] :=
  ⟨List.Pairwise.nil, fun _ absent => absurd absent List.not_mem_nil⟩

theorem Loadable.perm
    {users reordered : List (StoredUser ClientPermissions)}
    (loadable : Loadable library users) (same : reordered.Perm users) :
    Loadable library reordered where
  apart := (same.pairwise_iff fun apart => apart.symm).mpr loadable.apart
  named user member := loadable.named user (same.mem_iff.mp member)

theorem indexed_cleared
    {database : Option (Dictionary String (StoredUser ClientPermissions))} :
    Indexed library (JsonUserStorage.cleared database) :=
  ⟨fun _ absent => absurd absent Dictionary.not_mem_empty,
    fun _ absent => absurd absent Dictionary.not_mem_empty,
    fun _ absent => absurd absent Dictionary.not_mem_empty⟩

theorem load_database
    (users : List (StoredUser ClientPermissions × RandomTokens))
    (storage : JsonUserStorage ClientPermissions) :
    (storage.load library users).database = storage.database := by
  induction users generalizing storage with
  | nil => rfl
  | cons read rest ih =>
      exact ih
        (storage.index library (read.1.toUser read.2))

theorem indexed_load
    {database : Option (Dictionary String (StoredUser ClientPermissions))}
    {users : List (StoredUser ClientPermissions × RandomTokens)}
    (loadable : Loadable library (users.map Prod.fst)) :
    Indexed library
      ((JsonUserStorage.cleared database).load library users) := by
  refine indexed_cleared.load (fun read member => ?_) loadable.apart
  have named := loadable.named read.1 (List.mem_map_of_mem member)
  exact
    ⟨fun _ absent => absurd absent Dictionary.not_mem_empty,
      fun _ absent => absurd absent Dictionary.not_mem_empty,
      fun _ absent => absurd absent Dictionary.not_mem_empty,
      by simpa using named⟩

theorem mem_written
    {users : List (DiscordUser ClientPermissions)}
    {start : Dictionary String (StoredUser ClientPermissions)}
    {entry : String × StoredUser ClientPermissions}
    (member : entry ∈ users.foldl
      (fun stored user => stored.put user.discordId user.toStored) start) :
    entry ∈ start ∨
      ∃ user ∈ users, entry = (user.discordId, user.toStored) := by
  induction users generalizing start with
  | nil => exact .inl member
  | cons user rest ih =>
      rcases ih member with before | ⟨other, later, same⟩
      · rcases Dictionary.mem_put.mp before with rfl | ⟨kept, _⟩
        · exact .inr ⟨user, List.mem_cons_self, rfl⟩
        · exact .inl kept
      · exact .inr ⟨other, List.mem_cons_of_mem user later, same⟩

theorem Indexed.listed_of_mem
    (indexed : Indexed library storage)
    (member : object ∈ storage.usersByDiscordId) :
    ∃ user, Listed library storage user object := by
  obtain ⟨entry, stored, constructed⟩ := List.mem_filterMap.mp member
  have referred : entry.2 ∈ references storage.byDiscordId :=
    mem_references.mpr ⟨entry.1, stored⟩
  exact ⟨entry.2, indexed.listed ⟨.inl referred, constructed⟩⟩

theorem Listed.apart
    {user other : Nat} {object also : DiscordUser ClientPermissions}
    (listed : Listed library storage user object)
    (listedAlso : Listed library storage other also)
    (different : object.discordId ≠ also.discordId) :
    KeysApart library object.toStored also.toStored := by
  have same_of_same : user = other → object.discordId = also.discordId := by
    rintro rfl
    rw [listed.unique listedAlso]
  refine ⟨different, fun names => ?_, fun uuids => ?_⟩
  · have first := listed.username
    simp only [DiscordUser.toStored] at names
    rw [names] at first
    exact different (same_of_same
      (Dictionary.value_unique first listedAlso.username))
  · have first := listed.uuid
    simp only [DiscordUser.toStored] at uuids
    rw [uuids] at first
    exact different (same_of_same
      (Dictionary.value_unique first listedAlso.uuid))

theorem Indexed.loadable (indexed : Indexed library storage) :
    Loadable library (storage.storedUsers.entries.map Prod.snd) := by
  have listed : ∀ entry ∈ storage.storedUsers,
      ∃ user object, Listed library storage user object ∧
        entry = (object.discordId, object.toStored) := by
    intro entry member
    rcases mem_written member with absent | ⟨object, present, rfl⟩
    · exact absurd absent Dictionary.not_mem_empty
    · obtain ⟨user, listed⟩ := indexed.listed_of_mem present
      exact ⟨user, object, listed, rfl⟩
  constructor
  · rw [List.pairwise_map]
    refine List.Pairwise.imp_of_mem ?_
      (List.pairwise_map.mp (Dictionary.distinct _))
    intro first second one other different
    obtain ⟨user, object, listedFirst, rfl⟩ := listed first one
    obtain ⟨also, objectAlso, listedSecond, rfl⟩ := listed second other
    exact listedFirst.apart listedSecond different
  · intro stored member
    obtain ⟨entry, present, rfl⟩ := List.mem_map.mp member
    obtain ⟨user, object, listedObject, rfl⟩ := listed entry present
    exact listedObject.named

theorem Listed.updateOAuth
    {user updated : Nat}
    {discordAccessToken discordRefreshToken : String} {expireIn : Int}
    {random : RandomTokens}
    (listed : Listed library storage user object) :
    ∃ after,
      Listed library
          (storage.updateOAuth updated discordAccessToken discordRefreshToken
            expireIn random) user after ∧
        after.discordId = object.discordId ∧
          after.username = object.username ∧ after.uuid = object.uuid := by
  by_cases same : updated = user
  · refine ⟨object.updateOAuth discordAccessToken discordRefreshToken
      expireIn random, ⟨?_, listed.discordId, listed.username, listed.uuid,
        listed.named⟩, rfl, rfl, rfl⟩
    simp [JsonUserStorage.updateOAuth, same, listed.constructed]
  · refine ⟨object, ⟨?_, listed.discordId, listed.username, listed.uuid,
      listed.named⟩, rfl, rfl, rfl⟩
    simp [JsonUserStorage.updateOAuth, same, listed.constructed]

theorem Indexed.updateOAuth
    (indexed : Indexed library storage) (updated : Nat)
    (discordAccessToken discordRefreshToken : String) (expireIn : Int)
    (random : RandomTokens) :
    Indexed library
      (storage.updateOAuth updated discordAccessToken discordRefreshToken
        expireIn random) where
  byDiscordId entry member := by
    obtain ⟨object, listed, key⟩ := indexed.byDiscordId entry member
    obtain ⟨after, listedAfter, discordId, _⟩ := listed.updateOAuth
    exact ⟨after, listedAfter, key.trans discordId.symm⟩
  byUsername entry member := by
    obtain ⟨object, listed, key⟩ := indexed.byUsername entry member
    obtain ⟨after, listedAfter, _, username, _⟩ := listed.updateOAuth
    rw [← username] at key
    exact ⟨after, listedAfter, key⟩
  byUuid entry member := by
    obtain ⟨object, listed, key⟩ := indexed.byUuid entry member
    obtain ⟨after, listedAfter, _, _, uuid⟩ := listed.updateOAuth
    exact ⟨after, listedAfter, key.trans uuid.symm⟩

/-! ## Saved storages -/

section Saved

variable (storage : JsonUserStorage ClientPermissions) (written : Bool)

@[simp]
theorem save_objects : (storage.save written).objects = storage.objects := by
  cases written <;> rfl

@[simp]
theorem save_byDiscordId :
    (storage.save written).byDiscordId = storage.byDiscordId := by
  cases written <;> rfl

@[simp]
theorem save_byUsername :
    (storage.save written).byUsername = storage.byUsername := by
  cases written <;> rfl

@[simp]
theorem save_byUuid :
    (storage.save written).byUuid = storage.byUuid := by
  cases written <;> rfl

end Saved

theorem Listed.save
    (listed : Listed library storage user object) (written : Bool) :
    Listed library (storage.save written) user object := by
  constructor
  · simpa using listed.constructed
  · simpa using listed.discordId
  · simpa using listed.username
  · simpa using listed.uuid
  · exact listed.named

theorem Indexed.save
    (indexed : Indexed library storage) (written : Bool) :
    Indexed library (storage.save written) := by
  constructor
  · intro entry member
    rw [save_byDiscordId] at member
    obtain ⟨object, listed, key⟩ := indexed.byDiscordId entry member
    exact ⟨object, listed.save written, key⟩
  · intro entry member
    rw [save_byUsername] at member
    obtain ⟨object, listed, key⟩ := indexed.byUsername entry member
    exact ⟨object, listed.save written, key⟩
  · intro entry member
    rw [save_byUuid] at member
    obtain ⟨object, listed, key⟩ := indexed.byUuid entry member
    exact ⟨object, listed.save written, key⟩

section Created

variable {discordId username minecraftAccessToken : String}
variable {permissions : ClientPermissions} {written : Bool}

theorem isBlank_append (first second : String) :
    isBlank (first ++ second) = (isBlank first && isBlank second) := by
  simp [isBlank, String.toList_append]

theorem freeUsername_named
    (byUsername : Dictionary String Nat) (named : isBlank username = false) :
    isBlank (freeUsername library byUsername username) = false := by
  rcases (freeUsername_spec library byUsername username).1 with
    same | ⟨⟨number, numbered⟩, _⟩
  · rw [same]
    exact named
  · rw [numbered, isBlank_append, named]
    rfl

theorem NewAccount.absent
    (new : NewAccount library storage discordId username) :
    Absent library storage
      (storage.newUser library discordId username permissions
        minecraftAccessToken) where
  discordId := Dictionary.get_eq_none.mp new.account
  username := Dictionary.get_eq_none.mp
    (freeUsername_spec library storage.byUsername username).2
  uuid := Dictionary.get_eq_none.mp new.player
  named := freeUsername_named storage.byUsername new.named

/-- An object of the storage whose name keeps its entry is in the same maps
after another one is added, if they stay coherent. -/
theorem Listed.of_coherent_index
    {user : Nat} {object added : DiscordUser ClientPermissions}
    (listed : Listed library storage user object)
    (free : storage.byUsername.get (library.toLowerCase added.username) =
      none)
    (coherent : Coherent library
      ((storage.index library added).save written)) :
    user ∈ references
        (storage.byDiscordId.put added.discordId storage.objects.length) ∧
      user ∈ references
        (storage.byUuid.put added.uuid storage.objects.length) := by
  have kept : user ∈ references
      ((storage.index library added).save written).byUsername := by
    rw [save_byUsername]
    exact mem_references.mpr
      ⟨_, Dictionary.mem_put.mpr
        (.inr ⟨listed.username,
          Dictionary.get_eq_none.mp free _ listed.username⟩)⟩
  have byDiscordId := (coherent.sameByUsername user).mpr kept
  have byUuid := (coherent.sameByUuid user).mp byDiscordId
  rw [save_byDiscordId] at byDiscordId
  rw [save_byUuid] at byUuid
  exact ⟨byDiscordId, byUuid⟩

theorem isBlank_of_coherent_index
    {added : DiscordUser ClientPermissions}
    (coherent : Coherent library
      ((storage.index library added).save written)) :
    isBlank added.username = false := by
  have has : ((storage.index library added).save written).Has
      storage.objects.length added := by
    constructor
    · rw [save_byDiscordId]
      exact .inl (mem_references.mpr
        ⟨_, Dictionary.mem_put.mpr (.inl rfl)⟩)
    · rw [save_objects]
      simp [JsonUserStorage.index]
  have found := coherent.byUsername _ _ has
  cases blank : isBlank added.username with
  | false => rfl
  | true =>
      simp [JsonUserStorage.findByUsername, blank] at found

theorem Listed.ne_length
    {user : Nat} {object : DiscordUser ClientPermissions}
    (listed : Listed library storage user object) :
    user ≠ storage.objects.length := by
  obtain ⟨bound, _⟩ := List.getElem?_eq_some_iff.mp listed.constructed
  exact Nat.ne_of_lt bound

theorem not_mem_references_put {Key : Type} [DecidableEq Key]
    {users : Dictionary Key Nat} {key : Key} {user added : Nat}
    (single : ∀ other, (other, user) ∈ users → other = key)
    (older : user ≠ added) : user ∉ references (users.put key added) := by
  intro found
  obtain ⟨other, entry⟩ := mem_references.mp found
  rcases Dictionary.mem_put.mp entry with new | ⟨before, different⟩
  · exact older (Prod.mk.inj new).2
  · exact different (single other before)

theorem newAccount_of_coherent
    (indexed : Indexed library storage)
    (coherent : Coherent library
      (storage.createUser library discordId username permissions
        minecraftAccessToken written).2) :
    NewAccount library storage discordId username := by
  have free := (freeUsername_spec library storage.byUsername username).2
  constructor
  · refine Dictionary.get_eq_none.mpr ?_
    rintro ⟨key, user⟩ member rfl
    obtain ⟨object, listed, same⟩ := indexed.byDiscordId _ member
    obtain ⟨found, _⟩ := listed.of_coherent_index free coherent
    refine not_mem_references_put (fun other before => ?_)
      listed.ne_length found
    obtain ⟨also, listedAlso, key⟩ := indexed.byDiscordId _ before
    rw [← listed.unique listedAlso] at key
    exact key.trans same.symm
  · refine Dictionary.get_eq_none.mpr ?_
    rintro ⟨key, user⟩ member rfl
    obtain ⟨object, listed, same⟩ := indexed.byUuid _ member
    obtain ⟨_, found⟩ := listed.of_coherent_index free coherent
    refine not_mem_references_put (fun other before => ?_)
      listed.ne_length found
    obtain ⟨also, listedAlso, key⟩ := indexed.byUuid _ before
    rw [← listed.unique listedAlso] at key
    exact key.trans same.symm
  · have freeNamed := isBlank_of_coherent_index coherent
    cases blank : isBlank username with
    | false => rfl
    | true =>
        rcases (freeUsername_spec library storage.byUsername username).1 with
          same | ⟨_, taken⟩
        · have isFree : isBlank
              (freeUsername library storage.byUsername username) = false :=
            freeNamed
          rw [same, blank] at isFree
          cases isFree
        · -- the name is that of a user, which is not blank
          obtain ⟨user, stored⟩ := Option.ne_none_iff_exists'.mp taken
          obtain ⟨object, listed, lower⟩ :=
            indexed.byUsername _ (Dictionary.get_eq_some.mp stored)
          have same := congrArg isBlank lower
          rw [library.toLowerCase_blank, library.toLowerCase_blank, blank,
            listed.named] at same
          cases same

end Created

end Storage

/-- The maps are indexed, and the database can be loaded. -/
structure Recoverable
    (library : UserLibrary ClientPermissions)
    (storage : JsonUserStorage ClientPermissions) : Prop where
  indexed : Indexed library storage
  database : ∀ stored ∈ storage.database,
    Loadable library (stored.entries.map Prod.snd)

section Runs

variable {library : UserLibrary ClientPermissions}
variable {storage : JsonUserStorage ClientPermissions}

theorem recoverable_cleared :
    Recoverable library (@JsonUserStorage.cleared ClientPermissions none) where
  indexed := indexed_cleared
  database _ absent := by cases absent

theorem Recoverable.save
    (recoverable : Recoverable library storage) (written : Bool) :
    Recoverable library (storage.save written) where
  indexed := recoverable.indexed.save written
  database := by
    cases written with
    | false => exact recoverable.database
    | true =>
        intro stored member
        cases member
        exact recoverable.indexed.loadable

theorem Recoverable.createUser
    {discordId username minecraftAccessToken : String}
    {permissions : ClientPermissions} {written : Bool}
    (recoverable : Recoverable library storage)
    (new : NewAccount library storage discordId username) :
    Recoverable library
      (storage.createUser library discordId username permissions
        minecraftAccessToken written).2 := by
  have added : Recoverable library
      (storage.index library
        (storage.newUser library discordId username permissions
          minecraftAccessToken)) :=
    ⟨recoverable.indexed.index new.absent, recoverable.database⟩
  exact added.save written

theorem Recoverable.updateOAuth
    (recoverable : Recoverable library storage) (user : Nat)
    (discordAccessToken discordRefreshToken : String) (expireIn : Int)
    (random : RandomTokens) :
    Recoverable library
      (storage.updateOAuth user discordAccessToken discordRefreshToken
        expireIn random) where
  indexed := recoverable.indexed.updateOAuth user discordAccessToken
    discordRefreshToken expireIn random
  database := recoverable.database

variable {server next : LoginServer ClientPermissions}

/-- A call of a login that is not about to create a user, or that creates one
for a new account, leaves a recoverable storage. -/
theorem Recoverable.call
    {login : Nat} {authentication : Authentication} {random : RandomTokens}
    {written : Bool}
    (recoverable : Recoverable library server.storage)
    (new : authentication.next = .createUser →
      NewAccount library server.storage authentication.userInfo.id
        authentication.formattedUsername) :
    Recoverable library
      (server.call library login authentication random
        written).1.storage := by
  unfold LoginServer.call
  split
  · split
    · exact recoverable
    · split
      · exact recoverable
      · exact recoverable
  next creates => exact recoverable.createUser (new creates)
  next user _ => exact recoverable.updateOAuth user _ _ _ random
  · exact recoverable.save written

theorem Recoverable.restart
    {config : DiscordAuthSystemConfig}
    {users : List (StoredUser ClientPermissions × RandomTokens)}
    {opened : Bool}
    (recoverable : Recoverable library server.storage)
    (read : (users.map Prod.fst).Perm (server.readableUsers opened)) :
    Recoverable library (server.restart library config users).storage := by
  have loadable : Loadable library (server.readableUsers opened) := by
    unfold LoginServer.readableUsers
    split
    · exact loadable_nil
    next stored database =>
      split
      · exact recoverable.database stored database
      · exact loadable_nil
  constructor
  · exact indexed_load (loadable.perm read)
  · intro stored member
    rw [LoginServer.restart, load_database] at member
    exact recoverable.database stored member

variable [DecidableEq ClientPermissions]

/-- A step that creates users only for new accounts leaves a recoverable
storage. -/
theorem Recoverable.step
    {event : LoginEvent ClientPermissions} {results : List LoginResult}
    (recoverable : Recoverable library server.storage)
    (stepped : loginStep library server event = some (next, results))
    (creates : CreatesNewAccount library server event) :
    Recoverable library next.storage := by
  cases event with
  | authenticateDiscord login answer =>
      simp only [loginStep] at stepped
      split at stepped
      · cases stepped
      · unfold LoginServer.authenticateDiscord at stepped
        split at stepped
        · cases stepped
          exact recoverable
        · cases stepped
          exact recoverable
  | call login random written =>
      obtain ⟨authentication, found, result⟩ :=
        Option.map_eq_some_iff.mp stepped
      have kept : Recoverable library
          (server.call library login authentication random
            written).1.storage :=
        recoverable.call (creates authentication found)
      rw [result] at kept
      exact kept
  | restart config users opened =>
      simp only [loginStep] at stepped
      split at stepped
      next read =>
        cases stepped
        exact recoverable.restart read
      · cases stepped

theorem createsNewAccount_of_coherent
    {event : LoginEvent ClientPermissions} {results : List LoginResult}
    (recoverable : Recoverable library server.storage)
    (stepped : loginStep library server event = some (next, results))
    (coherent : Coherent library next.storage) :
    CreatesNewAccount library server event := by
  cases event with
  | authenticateDiscord login answer => trivial
  | call login random written =>
      intro authentication found creates
      obtain ⟨other, stored, result⟩ := Option.map_eq_some_iff.mp stepped
      have same : other = authentication :=
        Option.some.inj (stored.symm.trans found)
      subst same
      simp only [LoginServer.call, creates] at result
      cases result
      exact newAccount_of_coherent recoverable.indexed coherent
  | restart config users opened => trivial

/-- The three maps are coherent in every state that a run passes through
exactly if each user of the run is created for a new account. -/
theorem user_indexes_coherent_iff
    {config : DiscordAuthSystemConfig}
    {events : List (LoginEvent ClientPermissions)}
    {results : List LoginResult}
    (run : execute (loginStep library) (.new config) events =
      some (server, results)) :
    (∀ passed rest reached made, events = passed ++ rest →
        execute (loginStep library) (.new config) passed =
            some (reached, made) →
          Coherent library reached.storage) ↔
      Meets (loginStep library) (CreatesNewAccount library) (.new config)
        events := by
  have property : ∀ reached : LoginServer ClientPermissions,
      Recoverable library reached.storage →
        Coherent library reached.storage :=
    fun _ recoverable => recoverable.indexed.coherent
  refine passes_iff_meets property ?_ ?_ recoverable_cleared run
  · exact fun _ _ _ _ recoverable stepped creates =>
      recoverable.step stepped creates
  · exact fun _ _ _ _ recoverable stepped coherent =>
      createsNewAccount_of_coherent recoverable stepped coherent

end Runs

def asciiLowerCase (text : String) : String :=
  String.ofList (text.toList.map Char.toLower)

theorem isWhitespace_between
    {character : Char} (low : 65 ≤ character.toNat)
    (high : character.toNat ≤ 122) : isWhitespace character = false := by
  simp only [isWhitespace, Bool.or_eq_false_iff, Bool.and_eq_false_iff,
    decide_eq_false_iff_not, beq_eq_false_iff_ne]
  omega

theorem toLower_isWhitespace (character : Char) :
    isWhitespace character.toLower = isWhitespace character := by
  unfold Char.toLower
  split
  next upper =>
    have low : 65 ≤ character.val.toNat := upper.1
    have high : character.val.toNat ≤ 90 := upper.2
    have shifted : (character.val + ('a'.val - 'A'.val)).toNat =
        character.val.toNat + 32 := by
      have sum : (character.val + ('a'.val - 'A'.val)).toNat =
          (character.val.toNat + 32) % 2 ^ 32 := UInt32.toNat_add _ _
      omega
    rw [isWhitespace_between (show 65 ≤ character.toNat from low)
      (by have : character.toNat = character.val.toNat := rfl; omega)]
    apply isWhitespace_between
    · show 65 ≤ (character.val + ('a'.val - 'A'.val)).toNat
      omega
    · show (character.val + ('a'.val - 'A'.val)).toNat ≤ 122
      omega
  · rfl

theorem toLower_digit {character : Char} (digit : character.isDigit) :
    character.toLower = character := by
  unfold Char.toLower
  have small : ¬ (character.val ≥ 'A'.val ∧ character.val ≤ 'Z'.val) := by
    rintro ⟨low, _⟩
    have low : 65 ≤ character.val.toNat := low
    have high : character.val.toNat ≤ 57 := by
      simpa [Char.isDigit, UInt32.le_iff_toNat_le] using
        (Bool.and_eq_true_iff.mp digit).2
    omega
  rw [dif_neg small]

theorem asciiLowerCase_number (text : String) (number : Nat) :
    asciiLowerCase (text ++ toString number) =
      asciiLowerCase text ++ toString number := by
  have digits : (toString number).toList.map Char.toLower =
      (toString number).toList := by
    rw [Nat.toString_eq_ofList_toDigits, String.toList_ofList]
    have same : ∀ character ∈ Nat.toDigits 10 number,
        character.toLower = character := fun character member =>
      toLower_digit
        (Nat.isDigit_of_mem_toDigits (by decide) (by decide) member)
    rw [List.map_congr_left same, List.map_id']
  rw [asciiLowerCase, String.toList_append, List.map_append, digits,
    String.ofList_append, String.ofList_toList]
  rfl

theorem asciiLowerCase_blank (text : String) :
    isBlank (asciiLowerCase text) = isBlank text := by
  unfold isBlank asciiLowerCase
  rw [String.toList_ofList, List.all_map]
  refine congrArg (text.toList.all ·) (funext fun character => ?_)
  exact toLower_isWhitespace character

/-- The Java library on texts of ASCII characters, for the configured pattern
and two Discord accounts. -/
def asciiLibrary : UserLibrary Unit where
  nfd := id
  matchesPattern pattern text :=
    pattern = "^[a-zA-Z0-9_]\x7b3,16\x7d$" && 3 ≤ text.length &&
      text.length ≤ 16 && text.all fun character =>
        character.isAlphanum || character = '_'
  DEFAULT := ()
  nameUUIDFromBytes bytes :=
    if bytes = Utf8.encode "discord:80351110224678912".toList then
      0x5f6b7044655b30ef86727ce4b673aed0
    else if bytes = Utf8.encode "discord:53908232506183680".toList then
      0x4f75547ac7273e17bc7f413eeb53136c
    else
      0
  toLowerCase := asciiLowerCase
  toLowerCase_number := asciiLowerCase_number
  toLowerCase_blank := asciiLowerCase_blank

/-- The answers of Discord to a login of an account. -/
def answerFor (id name : String) : DiscordAnswer where
  tokens := ⟨"discord-access", "discord-refresh", 604800⟩
  userInfo := ⟨id, name, "", "0", ""⟩
  guildMembers := []
  guildMember _ := none

def someTokens : RandomTokens :=
  ⟨"access", "refresh", "minecraft"⟩

/-- Two logins of one account that both look it up before either creates
it. -/
def overlappingLogins : List (LoginEvent Unit) :=
  [.authenticateDiscord 0 (answerFor "80351110224678912" "Nelly"),
    .authenticateDiscord 1 (answerFor "80351110224678912" "Nelly"),
    .call 0 someTokens true, .call 1 someTokens true,
    .call 0 someTokens true, .call 1 someTokens true]

/-- Two logins of one account leave two users in `byUsername` and one in the
other maps. -/
theorem overlapping_logins_incoherent :
    ∃ server results,
      execute (loginStep asciiLibrary) (.new {}) overlappingLogins =
          some (server, results) ∧
        ¬ Coherent asciiLibrary server.storage := by
  have ran : (execute (loginStep asciiLibrary) (.new {})
      overlappingLogins).isSome := by decide +kernel
  obtain ⟨⟨server, results⟩, run⟩ := Option.isSome_iff_exists.mp ran
  have maps : ((execute (loginStep asciiLibrary) (.new {})
      overlappingLogins).map fun result =>
        (result.1.storage.byDiscordId.entries,
          result.1.storage.byUsername.entries)) =
        some ([("80351110224678912", 1)],
          [("nelly", 0), ("nelly1", 1)]) := by decide +kernel
  rw [run, Option.map_some, Option.some.injEq, Prod.mk.injEq] at maps
  refine ⟨server, results, run, fun coherent => ?_⟩
  have same := coherent.sameByUsername 0
  unfold references at same
  rw [maps.1, maps.2] at same
  exact absurd same (by decide)

/-- Two accounts of one name, with a restart after the first is created and
before its tokens are stored. -/
def separateLogins : List (LoginEvent Unit) :=
  [.authenticateDiscord 0 (answerFor "80351110224678912" "Nelly"),
    .call 0 someTokens true, .call 0 someTokens true,
    .restart {}
      [(⟨0x5f6b7044655b30ef86727ce4b673aed0, "80351110224678912", "Nelly",
        (), none, none, 0, none, none, 0, some "minecraft", false⟩,
          someTokens)] true,
    .authenticateDiscord 1 (answerFor "53908232506183680" "nelly"),
    .authenticateDiscord 2 (answerFor "80351110224678912" "Nelly"),
    .call 1 someTokens true, .call 2 someTokens true,
    .call 1 someTokens true, .call 2 someTokens true,
    .call 1 someTokens true, .call 2 someTokens true,
    .call 1 someTokens true]

/-- The users of the two accounts are found after the restart. -/
theorem separate_logins_coherent :
    ∃ server results,
      execute (loginStep asciiLibrary) (.new {}) separateLogins =
          some (server, results) ∧
        Coherent asciiLibrary server.storage ∧
          server.storage.findByUsername asciiLibrary (some "NELLY1") =
            some 1 := by
  have ran : (execute (loginStep asciiLibrary) (.new {})
      separateLogins).isSome := by decide +kernel
  obtain ⟨⟨server, results⟩, run⟩ := Option.isSome_iff_exists.mp ran
  have meets : Meets (loginStep asciiLibrary)
      (CreatesNewAccount asciiLibrary) (.new {}) separateLogins := by
    decide +kernel
  have found : ((execute (loginStep asciiLibrary) (.new {})
      separateLogins).map fun result =>
        result.1.storage.findByUsername asciiLibrary (some "NELLY1")) =
          some (some 1) := by decide +kernel
  rw [run, Option.map_some, Option.some.injEq] at found
  have coherent := (user_indexes_coherent_iff run).mpr meets separateLogins []
    server results (List.append_nil _).symm run
  exact ⟨server, results, run, coherent, found⟩

end GravitPanel.Launcher
