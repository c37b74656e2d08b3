import GravitPanel.Core.Words
import GravitPanel.Servers.BindingService

/-!
# Unit names of bindings

`serverServiceSlug` of `server-bootstrap.service.ts` and the names of the
systemd units that a bootstrap script installs, and of the legacy units that it
stops and deletes.
-/

namespace GravitPanel.Servers

open Words

/-- What comes from the Unicode tables: `toLocaleLowerCase('ru-RU')`,
`toLowerCase` and `normalize('NFKD')`. -/
structure UnicodeText where
  toLocaleLowerCase : List Char → List Char
  toLowerCase : String → String
  nfkd : List Char → List Char

def cyrillicTransliteration : List (Char × String) :=
  [('а', "a"), ('б', "b"), ('в', "v"), ('г', "g"), ('д', "d"), ('е', "e"),
    ('ё', "yo"), ('ж', "zh"), ('з', "z"), ('и', "i"), ('й', "y"),
    ('к', "k"), ('л', "l"), ('м', "m"), ('н', "n"), ('о', "o"), ('п', "p"),
    ('р', "r"), ('с', "s"), ('т', "t"), ('у', "u"), ('ф', "f"),
    ('х', "kh"), ('ц', "ts"), ('ч', "ch"), ('ш', "sh"), ('щ', "shch"),
    ('ъ', ""), ('ы', "i"), ('ь', ""), ('э', "e"), ('ю', "yu"), ('я', "ya")]

def transliterate (character : Char) : List Char :=
  match cyrillicTransliteration.lookup character with
  | some latin => latin.toList
  | none => [character]

/-- `/[\u0300-\u036f]/`. -/
def isMark (character : Char) : Bool :=
  0x300 ≤ character.val.toNat && character.val.toNat ≤ 0x36F

/-- `/[a-z0-9]/`. -/
def isSlugCharacter (character : Char) : Bool :=
  character.isLower || character.isDigit

def slugCharacters (text : UnicodeText) (name : String) : List Char :=
  (text.nfkd ((text.toLocaleLowerCase name.toList).flatMap
    transliterate)).filter fun character => !isMark character

def serverServiceSlug
    (text : UnicodeText) (name bindingId : String) : String :=
  let slug := stripEnd '-' (JavaScript.sliceChars 64
    (strip '-' (collapse isSlugCharacter '-' false
      (slugCharacters text name))))
  if slug = [] then
    "server-" ++ text.toLowerCase (JavaScript.slice 8 bindingId)
  else
    String.ofList slug

def serviceName (text : UnicodeText) (binding : ServerBinding) : String :=
  "gravit-" ++ serverServiceSlug text binding.name binding.id

def legacyServiceNames (binding : ServerBinding) : List String :=
  ["gravit-" ++ JavaScript.slice 8 binding.id,
    "gravit-server-" ++ binding.id]

/-- The file that the script installs for a service. -/
def unitName (service : String) : String :=
  service ++ ".service"

/-- The units of different bindings are different, and no unit is the agent's
or one that another binding's script deletes. -/
structure UnitsIdentify
    (text : UnicodeText) (bindings : List ServerBinding) : Prop where
  distinct : ∀ first ∈ bindings, ∀ second ∈ bindings,
    first.id ≠ second.id →
      unitName (serviceName text first) ≠ unitName (serviceName text second)
  agent : ∀ binding ∈ bindings,
    unitName (serviceName text binding) ≠ "gravit-agent.service"
  legacy : ∀ first ∈ bindings, ∀ second ∈ bindings,
    first.id ≠ second.id → ∀ service ∈ legacyServiceNames second,
      unitName (serviceName text first) ≠ unitName service

def nameWords (name : String) : List (List Char) :=
  words isSlugCharacter (name.toList.map Char.toLower)

/-- The names differ in more than case and separators, and none spells the
agent or the identifier of another binding. -/
structure NamesApart (bindings : List ServerBinding) : Prop where
  words : ∀ first ∈ bindings, ∀ second ∈ bindings, first.id ≠ second.id →
    nameWords first.name ≠ nameWords second.name
  agent : ∀ binding ∈ bindings,
    nameWords binding.name ≠ ["agent".toList]
  shortId : ∀ first ∈ bindings, ∀ second ∈ bindings, first.id ≠ second.id →
    joinWords '-' (nameWords first.name) ≠
      (JavaScript.slice 8 second.id).toList
  longId : ∀ first ∈ bindings, ∀ second ∈ bindings, first.id ≠ second.id →
    joinWords '-' (nameWords first.name) ≠
      "server-".toList ++ second.id.toList

/-- The name passed the checks of `ServerBindingService`. -/
def AcceptedName (name : String) : Prop :=
  ∃ input : ServerBindingInput, input.name = name ∧
    ServerBindingService.validate input = .ok ()

/-- Characters of accepted names: ASCII, and the white space around them. -/
def NameCharacter (character : Char) : Prop :=
  character.val.toNat < 128 ∨ JavaScript.isWhiteSpace character

/-- What is documented of these functions on accepted names: ASCII letters
get their lower case and white space stays; normalization keeps ASCII and keeps
white space or makes it a space. -/
structure DocumentedText (text : UnicodeText) : Prop where
  lower : ∀ characters, (∀ character ∈ characters,
    NameCharacter character) →
      text.toLocaleLowerCase characters = characters.map Char.toLower
  nfkd : ∃ form : Char → Char,
    (∀ character, character.val.toNat < 128 →
      form character = character) ∧
    (∀ character, JavaScript.isWhiteSpace character →
      form character = character ∨ form character = ' ') ∧
    ∀ characters, (∀ character ∈ characters, NameCharacter character) →
      text.nfkd characters = characters.map form

variable {character : Char} {name : String}

theorem slug_iff :
    isSlugCharacter character = true ↔
      (97 ≤ character.val.toNat ∧ character.val.toNat ≤ 122) ∨
        (48 ≤ character.val.toNat ∧ character.val.toNat ≤ 57) := by
  delta isSlugCharacter Char.isLower Char.isDigit
  simp only [Bool.or_eq_true, Bool.and_eq_true, decide_eq_true_eq]
  rfl

theorem not_slug_of_whiteSpace
    (white : JavaScript.isWhiteSpace character) :
    isSlugCharacter character = false := by
  rw [Bool.eq_false_iff, Ne, slug_iff]
  rcases JavaScript.code_of_whiteSpace white with
    control | space | space | high <;> omega

theorem code_of_mem_transliteration :
    ∀ entry ∈ cyrillicTransliteration,
      0x430 ≤ entry.1.val.toNat ∧ entry.1.val.toNat ≤ 0x451 := by
  decide

theorem transliterate_of_nameCharacter
    (named : NameCharacter character) :
    transliterate character = [character] := by
  have absent : cyrillicTransliteration.lookup character = none := by
    rw [List.lookup_eq_none_iff]
    intro entry member
    obtain ⟨low, high⟩ := code_of_mem_transliteration entry member
    rw [bne_iff_ne]
    rintro rfl
    rcases named with ascii | white
    · omega
    · rcases JavaScript.code_of_whiteSpace white with
        control | space | space | far <;> omega
  rw [transliterate, absent]

theorem not_mark_of_nameCharacter
    (named : NameCharacter character) :
    isMark character = false := by
  unfold isMark
  rw [Bool.and_eq_false_iff, decide_eq_false_iff_not,
    decide_eq_false_iff_not]
  rcases named with ascii | white
  · omega
  · rcases JavaScript.code_of_whiteSpace white with
      control | space | space | far <;> omega

theorem toLower_of_not_upper
    (other : character.val.toNat < 65 ∨ 90 < character.val.toNat) :
    character.toLower = character := by
  unfold Char.toLower
  have small : ¬ (character.val ≥ 'A'.val ∧ character.val ≤ 'Z'.val) := by
    rintro ⟨low, high⟩
    have low : 65 ≤ character.val.toNat := low
    have high : character.val.toNat ≤ 90 := high
    omega
  rw [dif_neg small]

theorem toLower_ascii
    (ascii : character.val.toNat < 128) :
    character.toLower.val.toNat < 128 := by
  unfold Char.toLower
  split
  next upper =>
    have high : character.val.toNat ≤ 90 := upper.2
    have code : (character.val + ('a'.val - 'A'.val)).toNat =
        (character.val.toNat + 32) % 2 ^ 32 := UInt32.toNat_add _ _
    rw [code]
    omega
  · exact ascii

theorem toLower_of_whiteSpace
    (white : JavaScript.isWhiteSpace character) :
    character.toLower = character := by
  apply toLower_of_not_upper
  rcases JavaScript.code_of_whiteSpace white with
    control | space | space | high <;> omega

theorem toLower_nameCharacter
    (named : NameCharacter character) :
    NameCharacter character.toLower := by
  rcases named with ascii | white
  · exact .inl (toLower_ascii ascii)
  · rw [toLower_of_whiteSpace white]
    exact .inr white

theorem code_of_alphanumeric
    (word : isAlphanumeric character) :
    (48 ≤ character.val.toNat ∧ character.val.toNat ≤ 57) ∨
      (65 ≤ character.val.toNat ∧ character.val.toNat ≤ 90) ∨
        (97 ≤ character.val.toNat ∧ character.val.toNat ≤ 122) := by
  delta isAlphanumeric Char.isAlpha Char.isUpper Char.isLower Char.isDigit
    at word
  simp only [Bool.or_eq_true, Bool.and_eq_true, decide_eq_true_eq] at word
  rcases word with (upper | lower) | digit
  · exact .inr (.inl upper)
  · exact .inr (.inr lower)
  · exact .inl digit

theorem slug_of_alphanumeric
    (word : isAlphanumeric character) :
    isSlugCharacter character.toLower := by
  rw [slug_iff]
  rcases code_of_alphanumeric word with digit | upper | lower
  · rw [toLower_of_not_upper (.inl (by omega))]
    exact .inr digit
  · have code : character.toLower.val.toNat = character.val.toNat + 32 := by
      unfold Char.toLower
      split
      · have sum : (character.val + ('a'.val - 'A'.val)).toNat =
            (character.val.toNat + 32) % 2 ^ 32 := UInt32.toNat_add _ _
        rw [sum]
        omega
      next other => exact absurd upper other
    rw [code]
    exact .inl (by omega)
  · rw [toLower_of_not_upper (.inr (by omega))]
    exact .inl lower

theorem ascii_of_alphanumeric
    (word : isAlphanumeric character) :
    character.val.toNat < 128 := by
  rcases code_of_alphanumeric word with digit | upper | lower <;> omega

theorem slugCharacters_of_named
    {text : UnicodeText} (documented : DocumentedText text)
    (named : ∀ character ∈ name.toList, NameCharacter character) :
    ∃ form : Char → Char,
      slugCharacters text name =
        (name.toList.map Char.toLower).map form ∧
      ∀ character, NameCharacter character →
        form character = character ∨
          isSlugCharacter character = false ∧
            isSlugCharacter (form character) = false := by
  obtain ⟨form, ascii, white, normalized⟩ := documented.nfkd
  have lowered : ∀ character ∈ name.toList.map Char.toLower,
      NameCharacter character := by
    intro character member
    obtain ⟨original, present, same⟩ := List.mem_map.mp member
    rw [← same]
    exact toLower_nameCharacter (named original present)
  have formed : ∀ character, NameCharacter character →
      NameCharacter (form character) := by
    intro character shape
    rcases shape with low | space
    · rw [ascii character low]
      exact .inl low
    · rcases white character space with same | blank
      · rw [same]
        exact .inr space
      · rw [blank]
        exact .inl (by decide)
  have spelled : (name.toList.map Char.toLower).flatMap transliterate =
      name.toList.map Char.toLower := by
    have each : ∀ character ∈ name.toList.map Char.toLower,
        transliterate character = [character] :=
      fun character member =>
        transliterate_of_nameCharacter (lowered character member)
    rw [List.flatMap_congr each, List.flatMap_singleton']
  refine ⟨form, ?_, ?_⟩
  · rw [slugCharacters, documented.lower _ named, spelled,
      normalized _ lowered]
    refine List.filter_eq_self.mpr fun character member => ?_
    obtain ⟨original, present, same⟩ := List.mem_map.mp member
    rw [← same,
      not_mark_of_nameCharacter (formed original (lowered original present))]
    rfl
  · intro character shape
    rcases shape with low | space
    · exact .inl (ascii character low)
    · rcases white character space with same | blank
      · exact .inl same
      · rw [blank]
        exact .inr ⟨not_slug_of_whiteSpace space, by decide⟩

/-- What the check of names ensures: white space around a short word of
ASCII characters that begins with a letter or a digit. -/
theorem trimmed_of_accepted (accepted : AcceptedName name) :
    ∃ first rest, JavaScript.trimChars name.toList = first :: rest ∧
      isAlphanumeric first ∧ rest.length ≤ 63 ∧
        ∀ character ∈ first :: rest, character.val.toNat < 128 := by
  obtain ⟨input, rfl, valid⟩ := accepted
  have matched : ServerBindingService.namePattern
      (JavaScript.trim input.name) = true := by
    by_contra wrong
    rw [Bool.not_eq_true] at wrong
    rw [ServerBindingService.validate, ServerBindingService.check, wrong]
      at valid
    cases valid
  unfold ServerBindingService.namePattern JavaScript.trim at matched
  rw [String.toList_ofList] at matched
  cases shape : JavaScript.trimChars input.name.toList with
  | nil =>
      rw [shape] at matched
      cases matched
  | cons first rest =>
      rw [shape] at matched
      simp only [Bool.and_eq_true, decide_eq_true_eq, List.all_eq_true]
        at matched
      obtain ⟨⟨starts, short⟩, others⟩ := matched
      refine ⟨first, rest, rfl, starts, short, ?_⟩
      intro character member
      rcases List.mem_cons.mp member with rfl | later
      · exact ascii_of_alphanumeric starts
      · have allowed := others character later
        rw [Bool.or_eq_true, decide_eq_true_eq] at allowed
        rcases allowed with word | mark
        · exact ascii_of_alphanumeric word
        · simp only [List.mem_cons, List.not_mem_nil, or_false] at mark
          rcases mark with rfl | rfl | rfl | rfl <;> decide

theorem named_of_accepted
    (accepted : AcceptedName name) :
    ∀ character ∈ name.toList, NameCharacter character := by
  obtain ⟨first, rest, trimmed, -, -, ascii⟩ := trimmed_of_accepted accepted
  obtain ⟨before, after, shape, leading, trailing⟩ :=
    JavaScript.trimChars_between name.toList
  rw [trimmed] at shape
  intro character member
  rw [shape] at member
  rcases List.mem_append.mp member with start | last
  · rcases List.mem_append.mp start with outer | inner
    · exact .inr (leading character outer)
    · exact .inl (ascii character inner)
  · exact .inr (trailing character last)

theorem nameWords_of_accepted
    (accepted : AcceptedName name) :
    nameWords name ≠ [] ∧
      (joinWords '-' (nameWords name)).length ≤ 64 := by
  obtain ⟨first, rest, trimmed, starts, short, -⟩ :=
    trimmed_of_accepted accepted
  obtain ⟨before, after, shape, leading, trailing⟩ :=
    JavaScript.trimChars_between name.toList
  have outside : ∀ characters : List Char,
      (∀ character ∈ characters, JavaScript.isWhiteSpace character) →
        ∀ character ∈ characters.map Char.toLower,
          isSlugCharacter character = false := by
    intro characters white character member
    obtain ⟨original, present, same⟩ := List.mem_map.mp member
    rw [← same, toLower_of_whiteSpace (white original present)]
    exact not_slug_of_whiteSpace (white original present)
  have inner : nameWords name =
      words isSlugCharacter ((first :: rest).map Char.toLower) := by
    rw [nameWords, shape, trimmed, List.map_append, List.map_append,
      List.append_assoc, words_append_left (outside before leading), words,
      wordsFrom_append_right (outside after trailing), words]
  constructor
  · rw [inner, List.map_cons, words, wordsFrom,
      if_pos (slug_of_alphanumeric starts)]
    exact wordsFrom_ne_nil (List.cons_ne_nil _ _) _
  · have bound := @length_joinWords_wordsFrom_le Char isSlugCharacter '-' []
      ((first :: rest).map Char.toLower)
    rw [inner, words]
    simp only [List.length_nil, List.length_map, List.length_cons] at bound
    omega

theorem slug_of_mem_nameWords
    {word : List Char} (member : word ∈ nameWords name) :
    ∀ character ∈ word, isSlugCharacter character :=
  (word_of_mem_words member).2

theorem serverServiceSlug_of_accepted
    {text : UnicodeText} (documented : DocumentedText text)
    (accepted : AcceptedName name) (bindingId : String) :
    serverServiceSlug text name bindingId =
      String.ofList (joinWords '-' (nameWords name)) := by
  obtain ⟨spoken, short⟩ := nameWords_of_accepted accepted
  have named := named_of_accepted accepted
  obtain ⟨form, spelled, harmless⟩ :=
    slugCharacters_of_named documented named
  have stripped : strip '-' (collapse isSlugCharacter '-' false
      (slugCharacters text name)) = joinWords '-' (nameWords name) := by
    rw [strip_collapse (by decide), spelled, nameWords, words, words,
      wordsFrom_map]
    intro character member
    obtain ⟨original, present, same⟩ := List.mem_map.mp member
    rw [← same]
    exact harmless _ (toLower_nameCharacter (named original present))
  have single : ∀ character ∈ joinWords '-' (nameWords name),
      JavaScript.units character = 1 := by
    intro character member
    rcases mem_joinWords member with rfl | ⟨word, present, inside⟩
    · decide
    · have code := slug_iff.mp (slug_of_mem_nameWords present _ inside)
      have small : character.val ≤ 0xFFFF :=
        UInt32.le_iff_toNat_le.mpr
          (show character.val.toNat ≤ 0xFFFF by omega)
      rw [JavaScript.units, if_pos small]
  have fits : ((joinWords '-' (nameWords name)).map
      JavaScript.units).sum ≤ 64 := by
    rw [List.map_congr_left single, List.map_const', List.sum_replicate_nat,
      Nat.mul_one]
    exact short
  have ended : stripEnd '-' (joinWords '-' (nameWords name)) =
      joinWords '-' (nameWords name) := by
    rw [← stripped, strip, stripEnd_stripEnd]
  have visible : joinWords '-' (nameWords name) ≠ [] :=
    joinWords_ne_nil spoken fun word member => (word_of_mem_words member).1
  rw [serverServiceSlug, stripped, JavaScript.sliceChars_of_le fits, ended]
  exact if_neg visible

theorem unitName_eq_iff (first second : String) :
    unitName first = unitName second ↔ first = second :=
  String.append_left_inj _

theorem serviceName_eq_iff
    {text : UnicodeText} (documented : DocumentedText text)
    {binding : ServerBinding} (accepted : AcceptedName binding.name)
    (rest : String) :
    serviceName text binding = "gravit-" ++ rest ↔
      joinWords '-' (nameWords binding.name) = rest.toList := by
  rw [serviceName, String.append_right_inj,
    serverServiceSlug_of_accepted documented accepted]
  constructor
  · intro same
    rw [← same, String.toList_ofList]
  · intro same
    rw [same, String.ofList_toList]

theorem hyphen_free (name : String) :
    ∀ word ∈ nameWords name, '-' ∉ word := by
  intro word member present
  exact absurd (slug_of_mem_nameWords member _ present) (by decide)

section Accepted

variable {text : UnicodeText} (documented : DocumentedText text)
variable {first second : ServerBinding}
variable (firstAccepted : AcceptedName first.name)
include documented firstAccepted

theorem unit_eq_unit_iff (secondAccepted : AcceptedName second.name) :
    unitName (serviceName text first) =
        unitName (serviceName text second) ↔
      nameWords first.name = nameWords second.name := by
  rw [unitName_eq_iff, serviceName.eq_def text second,
    serviceName_eq_iff documented firstAccepted,
    serverServiceSlug_of_accepted documented secondAccepted,
    String.toList_ofList]
  constructor
  · exact joinWords_injective (nameWords_of_accepted firstAccepted).1
      (nameWords_of_accepted secondAccepted).1 (hyphen_free _)
      (hyphen_free _)
  · intro same
    rw [same]

theorem unit_eq_agent_iff :
    unitName (serviceName text first) = "gravit-agent.service" ↔
      nameWords first.name = ["agent".toList] := by
  have reserved : "gravit-agent.service" =
      unitName ("gravit-" ++ "agent") := by decide
  have alone : joinWords '-' ["agent".toList] = "agent".toList := by decide
  rw [reserved, unitName_eq_iff,
    serviceName_eq_iff documented firstAccepted]
  constructor
  · intro same
    exact joinWords_injective (nameWords_of_accepted firstAccepted).1
      (List.cons_ne_nil _ _) (hyphen_free _) (by decide)
      (same.trans alone.symm)
  · intro same
    rw [same]
    exact alone

theorem unit_eq_shortId_iff :
    unitName (serviceName text first) =
        unitName ("gravit-" ++ JavaScript.slice 8 second.id) ↔
      joinWords '-' (nameWords first.name) =
        (JavaScript.slice 8 second.id).toList := by
  rw [unitName_eq_iff, serviceName_eq_iff documented firstAccepted]

theorem unit_eq_longId_iff :
    unitName (serviceName text first) =
        unitName ("gravit-server-" ++ second.id) ↔
      joinWords '-' (nameWords first.name) =
        "server-".toList ++ second.id.toList := by
  have spelled : "gravit-server-" ++ second.id =
      "gravit-" ++ ("server-" ++ second.id) := by
    rw [← String.append_assoc]
    rfl
  rw [spelled, unitName_eq_iff,
    serviceName_eq_iff documented firstAccepted, String.toList_append]

end Accepted

/-- Among bindings with accepted names the units identify the bindings exactly
when the names are apart. -/
theorem unitsIdentify_iff
    {text : UnicodeText} (documented : DocumentedText text)
    {bindings : List ServerBinding}
    (accepted : ∀ binding ∈ bindings, AcceptedName binding.name) :
    UnitsIdentify text bindings ↔ NamesApart bindings := by
  constructor
  · intro identify
    refine ⟨?_, ?_, ?_, ?_⟩
    · intro first one second other different same
      exact identify.distinct first one second other different
        ((unit_eq_unit_iff documented (accepted first one)
          (accepted second other)).mpr same)
    · intro binding member same
      exact identify.agent binding member
        ((unit_eq_agent_iff documented (accepted binding member)).mpr same)
    · intro first one second other different same
      exact identify.legacy first one second other different _
        List.mem_cons_self
        ((unit_eq_shortId_iff documented (accepted first one)).mpr same)
    · intro first one second other different same
      exact identify.legacy first one second other different _
        (List.mem_cons_of_mem _ List.mem_cons_self)
        ((unit_eq_longId_iff documented (accepted first one)).mpr same)
  · intro apart
    refine ⟨?_, ?_, ?_⟩
    · intro first one second other different same
      exact apart.words first one second other different
        ((unit_eq_unit_iff documented (accepted first one)
          (accepted second other)).mp same)
    · intro binding member same
      exact apart.agent binding member
        ((unit_eq_agent_iff documented (accepted binding member)).mp same)
    · intro first one second other different service legacy same
      rcases List.mem_cons.mp legacy with rfl | later
      · exact apart.shortId first one second other different
          ((unit_eq_shortId_iff documented (accepted first one)).mp same)
      · rw [List.mem_singleton.mp later] at same
        exact apart.longId first one second other different
          ((unit_eq_longId_iff documented (accepted first one)).mp same)

def asciiText : UnicodeText where
  toLocaleLowerCase := List.map Char.toLower
  toLowerCase := String.map Char.toLower
  nfkd := id

theorem asciiText_documented : DocumentedText asciiText where
  lower := fun _ _ => rfl
  nfkd := ⟨id, fun _ _ => rfl, fun _ _ => .inl rfl,
    fun characters _ => (List.map_id characters).symm⟩

def namedServer (id profileName name : String) : ServerBinding where
  id := id
  installationId := "installation"
  profileName := profileName
  name := name
  serverAddress := "127.0.0.1"
  serverPort := 25565
  isDefault := true
  authId := "std"
  packVersionId := none
  xms := "1G"
  xmx := "2G"
  jvmArgs := []
  gameArgs := []
  eulaAcceptedAt := none
  appliedPackVersionId := none
  updaterInstalledAt := none
  updaterLastSeenAt := none
  updaterError := none
  deploymentState := .pending
  updatedAt := 0

def firstId : String := "12345678-1234-4234-8234-123456789abc"

def secondId : String := "87654321-4321-4321-8321-cba987654321"

def namedInput (name : String) : ServerBindingInput where
  installationId := "installation"
  profileName := "Survival"
  name := name
  serverAddress := "127.0.0.1"
  serverPort := 25565
  isDefault := true
  authId := "std"
  packVersionId := none
  xms := "1G"
  xmx := "2G"
  jvmArgs := []
  gameArgs := []

theorem acceptedName_main : AcceptedName "main" :=
  ⟨namedInput "main", rfl, by decide +kernel⟩

theorem acceptedName_lobby : AcceptedName "lobby" :=
  ⟨namedInput "lobby", rfl, by decide +kernel⟩

/-- Servers `main` and `lobby` have units of their own. -/
theorem unitsIdentify_iff_main_lobby :
    UnitsIdentify asciiText
        [namedServer firstId "Survival" "main",
          namedServer secondId "Survival" "lobby"] ↔
      NamesApart
        [namedServer firstId "Survival" "main",
          namedServer secondId "Survival" "lobby"] := by
  apply unitsIdentify_iff asciiText_documented
  intro binding member
  rcases List.mem_cons.mp member with rfl | later
  · exact acceptedName_main
  · rw [List.mem_singleton.mp later]
    exact acceptedName_lobby

/-- The servers `main` of two profiles share `gravit-main.service`. -/
theorem units_shared_by_profiles :
    ¬ ∀ (text : UnicodeText) (bindings : List ServerBinding),
      DocumentedText text →
        (∀ binding ∈ bindings, AcceptedName binding.name) →
          UnitsIdentify text bindings := by
  intro claimed
  let survival := namedServer firstId "Survival" "main"
  let creative := namedServer secondId "Creative" "main"
  have accepted : ∀ binding ∈ [survival, creative],
      AcceptedName binding.name := by
    intro binding member
    rcases List.mem_cons.mp member with rfl | later
    · exact acceptedName_main
    · rw [List.mem_singleton.mp later]
      exact acceptedName_main
  have identify := claimed asciiText [survival, creative]
    asciiText_documented accepted
  exact identify.distinct survival List.mem_cons_self creative
    (List.mem_cons_of_mem _ List.mem_cons_self) (by decide) (by decide +kernel)

end GravitPanel.Servers
