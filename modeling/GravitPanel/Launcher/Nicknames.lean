import GravitPanel.Core.Words
import GravitPanel.Launcher.DiscordAuth

/-!
# Names of Discord accounts

`NicknameFormatter.java` and the checks that `authenticateDiscord` makes on
the answers of Discord before it reads the user storage.
-/

namespace GravitPanel.Launcher

open Words

/-- What comes from the Java library: `Normalizer.normalize` with the form NFD,
and `Pattern.matches`. -/
structure TextLibrary where
  nfd : List Char → List Char
  matchesPattern : String → List Char → Bool

structure DiscordAuthSystemConfig where
  requiredGuildIds : List String := []
  useGlobalNickname : Bool := true
  usernameRegex : String := "^[a-zA-Z0-9_]{3,16}$"
  usernameFormat : String := "\x7bdiscord\x7d"
  autoRegister : Bool := true
  deriving DecidableEq, Repr

def TRANSLIT : List (Char × String) :=
  [('а', "a"), ('б', "b"), ('в', "v"), ('г', "g"), ('д', "d"), ('е', "e"),
    ('ё', "yo"), ('ж', "zh"), ('з', "z"), ('и', "i"), ('й', "y"),
    ('к', "k"), ('л', "l"), ('м', "m"), ('н', "n"), ('о', "o"), ('п', "p"),
    ('р', "r"), ('с', "s"), ('т', "t"), ('у', "u"), ('ф', "f"),
    ('х', "kh"), ('ц', "ts"), ('ч', "ch"), ('ш', "sh"), ('щ', "sch"),
    ('ъ', ""), ('ы', "y"), ('ь', ""), ('э', "e"), ('ю', "yu"), ('я', "ya"),
    ('А', "A"), ('Б', "B"), ('В', "V"), ('Г', "G"), ('Д', "D"), ('Е', "E"),
    ('Ё', "Yo"), ('Ж', "Zh"), ('З', "Z"), ('И', "I"), ('Й', "Y"),
    ('К', "K"), ('Л', "L"), ('М', "M"), ('Н', "N"), ('О', "O"), ('П', "P"),
    ('Р', "R"), ('С', "S"), ('Т', "T"), ('У', "U"), ('Ф', "F"),
    ('Х', "Kh"), ('Ц', "Ts"), ('Ч', "Ch"), ('Ш', "Sh"), ('Щ', "Sch"),
    ('Э', "E"), ('Ю', "Yu"), ('Я', "Ya")]

def translit (character : Char) : List Char :=
  match TRANSLIT.lookup character with
  | some latin => latin.toList
  | none => [character]

/-- `\p{InCombiningDiacriticalMarks}`. -/
def isDiacriticalMark (character : Char) : Bool :=
  0x300 ≤ character.toNat && character.toNat ≤ 0x36F

/-- `[\s\p{Punct}&&[^_]]`. -/
def WHITESPACE (character : Char) : Bool :=
  let code := character.toNat
  ((9 ≤ code && code ≤ 13) || (32 ≤ code && code ≤ 47) ||
    (58 ≤ code && code ≤ 64) || (91 ≤ code && code ≤ 96) ||
      (123 ≤ code && code ≤ 126)) && character != '_'

/-- `[^a-zA-Z0-9_]`. -/
def NON_ALPHANUMERIC_UNDERSCORE (character : Char) : Bool :=
  !(character.isAlphanum || character = '_')

/-- `String.replace` with a target that is not empty; `skip` counts the
characters of a target that was found and are left to read. -/
def replaceFrom (target replacement : List Char) :
    Nat → List Char → List Char
  | _, [] => []
  | skip + 1, _ :: rest => replaceFrom target replacement skip rest
  | 0, character :: rest =>
      if target <+: character :: rest then
        replacement ++ replaceFrom target replacement (target.length - 1) rest
      else
        character :: replaceFrom target replacement 0 rest

def replace (target : String) (replacement text : List Char) : List Char :=
  replaceFrom target.toList replacement 0 text

/-- The name before it is put into the configured format. -/
def formatted (library : TextLibrary) (input : String) : List Char :=
  let normalized := (library.nfd input.toList).filter fun character =>
    !isDiacriticalMark character
  let separated := (normalized.flatMap translit).map fun character =>
    if WHITESPACE character then '_' else character
  let kept := separated.filter fun character =>
    !NON_ALPHANUMERIC_UNDERSCORE character
  -- after `_+` became `_`, at most one underscore is left at either end
  strip '_' (collapse (fun character => character != '_') '_' false kept)

/-- `NicknameFormatter.format`. -/
def format
    (library : TextLibrary) (input : String)
    (config : DiscordAuthSystemConfig) : Option String :=
  if isBlank input then
    none
  else
    let name := formatted library input
    let text :=
      replace "\x7busername\x7d" name
        (replace "\x7bdiscord\x7d" name config.usernameFormat.toList)
    if text.isEmpty || !library.matchesPattern config.usernameRegex text then
      none
    else
      some (String.ofList text)

structure TokenResponse where
  accessToken : String
  refreshToken : String
  expiresIn : Int
  deriving DecidableEq, Repr

structure DiscordUserInfo where
  id : String
  username : String
  globalName : String
  discriminator : String
  avatar : String
  deriving DecidableEq, Repr

def DiscordUserInfo.displayName (userInfo : DiscordUserInfo) : String :=
  if userInfo.globalName ≠ "" then
    userInfo.globalName
  else if userInfo.discriminator ≠ "" ∧ userInfo.discriminator ≠ "0" then
    userInfo.username ++ "#" ++ userInfo.discriminator
  else
    userInfo.username

def DiscordUserInfo.withUsername
    (userInfo : DiscordUserInfo) (username : String) : DiscordUserInfo :=
  { userInfo with username := username }

structure GuildMember where
  id : Option String
  nick : Option String
  deriving DecidableEq, Repr

structure GuildResult where
  allowed : Bool
  nickname : Option String
  deriving DecidableEq, Repr

/-- What Discord returns in the course of one login: the tokens for the code,
the account, its guilds and its membership in one guild. -/
structure DiscordAnswer where
  tokens : TokenResponse
  userInfo : DiscordUserInfo
  guildMembers : List GuildMember
  guildMember : String → Option GuildMember

/-- A text that is present and not empty. -/
def nonempty : Option String → Option String
  | some text => if text = "" then none else some text
  | none => none

def checkGuilds
    (config : DiscordAuthSystemConfig) (answer : DiscordAnswer) :
    GuildResult :=
  if config.requiredGuildIds = [] then
    ⟨true, none⟩
  else
    match config.requiredGuildIds.find? fun requiredId =>
        answer.guildMembers.any fun member => member.id = some requiredId with
    | none => ⟨false, none⟩
    | some requiredId =>
        if config.useGlobalNickname then
          ⟨true, none⟩
        else
          ⟨true, nonempty ((answer.guildMember requiredId).bind (·.nick))⟩

/-- The account with the name that it has in the required guild. -/
def guildUserInfo
    (config : DiscordAuthSystemConfig) (answer : DiscordAnswer) :
    Except AuthProblem DiscordUserInfo :=
  if config.requiredGuildIds = [] then
    .ok answer.userInfo
  else
    let guildResult := checkGuilds config answer
    if !guildResult.allowed then
      .error (.message "User is not a member of required Discord guilds")
    else if config.useGlobalNickname then
      .ok answer.userInfo
    else
      match nonempty guildResult.nickname with
      | some nickname => .ok (answer.userInfo.withUsername nickname)
      | none => .ok answer.userInfo

/-- The part of `authenticateDiscord` before the user storage is read: the
account and its formatted name. -/
def identify
    (library : TextLibrary) (config : DiscordAuthSystemConfig)
    (answer : DiscordAnswer) :
    Except AuthProblem (DiscordUserInfo × String) :=
  if answer.userInfo.id = "" then
    .error .userNotFound
  else
    match guildUserInfo config answer with
    | .error problem => .error problem
    | .ok userInfo =>
        match nonempty (format library userInfo.displayName config) with
        | none =>
            .error (.message "Username does not match configured format")
        | some formattedUsername => .ok (userInfo, formattedUsername)

theorem nonempty_eq_some {text : Option String} {found : String} :
    nonempty text = some found ↔ text = some found ∧ found ≠ "" := by
  cases text with
  | none => simp [nonempty]
  | some stored =>
      by_cases empty : stored = ""
      · simp [nonempty, empty]
      · simp only [nonempty, if_neg empty, Option.some.injEq]
        constructor
        · rintro rfl
          exact ⟨rfl, empty⟩
        · exact fun found => found.1

theorem format_eq_some
    {library : TextLibrary} {input name : String}
    {config : DiscordAuthSystemConfig}
    (accepted : format library input config = some name) :
    name ≠ "" ∧
      library.matchesPattern config.usernameRegex name.toList = true := by
  unfold format at accepted
  split at accepted
  · cases accepted
  · dsimp only at accepted
    split at accepted
    · cases accepted
    next matching =>
      cases accepted
      rw [Bool.or_eq_true, not_or, Bool.not_eq_true, Bool.not_eq_true',
        Bool.not_eq_false] at matching
      refine ⟨?_, by rw [String.toList_ofList]; exact matching.2⟩
      intro empty
      have characters := congrArg String.toList empty
      rw [String.toList_ofList] at characters
      rw [characters] at matching
      exact absurd matching.1 (by decide)

/-- A login that reaches the user storage has an identifier, and a name that
the configured pattern matches. -/
theorem identify_eq_ok
    {library : TextLibrary} {config : DiscordAuthSystemConfig}
    {answer : DiscordAnswer} {userInfo : DiscordUserInfo} {name : String}
    (identified : identify library config answer = .ok (userInfo, name)) :
    answer.userInfo.id ≠ "" ∧ name ≠ "" ∧
      library.matchesPattern config.usernameRegex name.toList = true := by
  unfold identify at identified
  split at identified
  · cases identified
  next named =>
    split at identified
    · cases identified
    · split at identified
      · cases identified
      next accepted =>
        cases identified
        have formattedName := (nonempty_eq_some.mp accepted).1
        exact ⟨named, format_eq_some formattedName⟩

end GravitPanel.Launcher
