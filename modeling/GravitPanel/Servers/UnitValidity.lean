import GravitPanel.Agent.Units
import GravitPanel.Core.Utf8
import GravitPanel.Servers.UnitNames

/-!
# Generated units on the agent

Whatever a server is called, the unit of its bootstrap script is one that the
agent's configuration accepts.
-/

namespace GravitPanel.Servers

open Words Agent

/-- `/[0-9a-f]/i`. -/
def isHexDigit (character : Char) : Bool :=
  let code := character.val.toNat
  (48 ≤ code && code ≤ 57) || (65 ≤ code && code ≤ 70) ||
    (97 ≤ code && code ≤ 102)

/-- A UUID, in lower or upper case. -/
def IsUuid (id : String) : Prop :=
  ∃ first second third fourth fifth : List Char,
    id.toList = joinWords '-' [first, second, third, fourth, fifth] ∧
      [first, second, third, fourth, fifth].map List.length =
        [8, 4, 4, 4, 12] ∧
        ∀ group ∈ [first, second, third, fourth, fifth],
          ∀ character ∈ group, isHexDigit character

/-- What is documented of `toLowerCase` on ASCII. -/
def DocumentedLowerCase (text : UnicodeText) : Prop :=
  ∀ value : String, (∀ character ∈ value.toList,
    character.val.toNat < 128) →
      text.toLowerCase value =
        String.ofList (value.toList.map Char.toLower)

theorem alphanumeric_of_hexDigit
    {character : Char} (hex : isHexDigit character) :
    isAlphanumeric character := by
  have ranges : ((decide (65 ≤ character.val.toNat ∧
          character.val.toNat ≤ 90) ||
        (decide (97 ≤ character.val.toNat) &&
          decide (character.val.toNat ≤ 122))) ||
      (decide (48 ≤ character.val.toNat) &&
        decide (character.val.toNat ≤ 57))) = true := by
    simp only [isHexDigit, Bool.or_eq_true, Bool.and_eq_true,
      decide_eq_true_eq] at hex ⊢
    omega
  exact ranges

theorem slice_uuid {id : String} (uuid : IsUuid id) :
    ∃ group : List Char, JavaScript.slice 8 id = String.ofList group ∧
      group.length = 8 ∧ ∀ character ∈ group, isHexDigit character := by
  obtain ⟨first, second, third, fourth, fifth, shape, lengths, hex⟩ := uuid
  have eight : first.length = 8 := by
    injection lengths
  have digits := hex first List.mem_cons_self
  refine ⟨first, ?_, eight, digits⟩
  have single : ∀ character ∈ first, JavaScript.units character = 1 := by
    intro character member
    have ascii := ascii_of_alphanumeric
      (alphanumeric_of_hexDigit (digits character member))
    have small : character.val ≤ 0xFFFF :=
      UInt32.le_iff_toNat_le.mpr
        (show character.val.toNat ≤ 0xFFFF by omega)
    rw [JavaScript.units, if_pos small]
  have full : (first.map JavaScript.units).sum = 8 := by
    rw [List.map_congr_left single, List.map_const', List.sum_replicate_nat,
      eight]
  rw [JavaScript.slice, shape, joinWords_cons_cons,
    JavaScript.sliceChars_append _ (by omega), full,
    JavaScript.sliceChars_zero, List.append_nil]

theorem mem_unitLetters {character : Char}
    (slug : isSlugCharacter character = true) :
    character ∈ unitLetters := by
  have between (first last : Char)
      (low : first.toNat ≤ character.toNat)
      (high : character.toNat ≤ last.toNat) :
      character ∈ charactersBetween first last := by
    apply List.mem_map.mpr
    refine ⟨character.toNat, ?_, Char.ofNat_toNat character⟩
    rw [List.mem_range'_1]
    omega
  rw [unitLetters, List.mem_append]
  rcases slug_iff.mp slug with ⟨low, high⟩ | ⟨low, high⟩
  · exact .inl (between 'a' 'z' low high)
  · exact .inr (between '0' '9' low high)

theorem units_of_slug
    {character : Char} (slug : isSlugCharacter character = true) :
    JavaScript.units character = 1 := by
  have code := slug_iff.mp slug
  have small : character.val ≤ 0xFFFF :=
    UInt32.le_iff_toNat_le.mpr
      (show character.val.toNat ≤ 0xFFFF by omega)
  rw [JavaScript.units, if_pos small]

theorem sliceChars_of_units
    {limit : Nat} {characters : List Char}
    (single : ∀ character ∈ characters, JavaScript.units character = 1) :
    JavaScript.sliceChars limit characters = characters.take limit := by
  induction characters generalizing limit with
  | nil => simp [JavaScript.sliceChars]
  | cons character rest ih =>
      rw [List.forall_mem_cons] at single
      cases limit with
      | zero => exact JavaScript.sliceChars_zero _
      | succ limit =>
          rw [JavaScript.sliceChars, single.1, if_pos (by omega),
            ih single.2]
          rfl

theorem length_stripEnd_le
    {Symbol : Type} [DecidableEq Symbol] (separator : Symbol)
    (symbols : List Symbol) :
    (stripEnd separator symbols).length ≤ symbols.length := by
  have shorter := (List.dropWhile_sublist (· = separator)
    (l := symbols.reverse)).length_le
  rw [stripEnd, List.length_reverse]
  rw [List.length_reverse] at shorter
  exact shorter

theorem isUnitWord_of_slug
    {word : List Char}
    (spoken : word ≠ [] ∧ ∀ character ∈ word, isSlugCharacter character) :
    IsUnitWord word := by
  refine ⟨spoken.1, ?_⟩
  intro character member
  exact mem_unitLetters (spoken.2 character member)

theorem serverServiceSlug_words
    {text : UnicodeText} (lower : DocumentedLowerCase text)
    (name : String) {bindingId : String} (uuid : IsUuid bindingId) :
    ∃ parts : List (List Char), parts ≠ [] ∧
      (∀ part ∈ parts,
        part ≠ [] ∧ ∀ character ∈ part, isSlugCharacter character) ∧
        (serverServiceSlug text name bindingId).toList =
          joinWords '-' parts ∧
          (joinWords '-' parts).length ≤ 64 := by
  let spoken := words isSlugCharacter (slugCharacters text name)
  have spokenWords : ∀ part ∈ spoken,
      part ≠ [] ∧ ∀ character ∈ part, isSlugCharacter character := by
    intro part member
    exact word_of_mem_words member
  have single : ∀ character ∈ joinWords '-' spoken,
      JavaScript.units character = 1 := by
    intro character member
    rcases mem_joinWords member with rfl | ⟨part, present, inside⟩
    · decide
    · exact units_of_slug ((spokenWords part present).2 character inside)
  obtain ⟨kept, joined, keptWords⟩ :=
    @stripEnd_take_joinWords _ isSlugCharacter '-' _ (by decide) spoken
      spokenWords 64
  have slug : stripEnd '-' (JavaScript.sliceChars 64
      (strip '-' (collapse isSlugCharacter '-' false
        (slugCharacters text name)))) = joinWords '-' kept := by
    rw [strip_collapse (by decide), sliceChars_of_units single, joined]
  have short : (joinWords '-' kept).length ≤ 64 := by
    rw [← joined]
    exact (length_stripEnd_le _ _).trans (List.length_take_le 64 _)
  by_cases silent : kept = []
  · have empty : joinWords '-' kept = [] := by
      rw [silent]
      rfl
    obtain ⟨group, sliced, eight, hex⟩ := slice_uuid uuid
    have lowered : text.toLowerCase (JavaScript.slice 8 bindingId) =
        String.ofList (group.map Char.toLower) := by
      rw [sliced]
      have ascii := lower (String.ofList group)
      rw [String.toList_ofList] at ascii
      apply ascii
      intro character member
      exact ascii_of_alphanumeric
        (alphanumeric_of_hexDigit (hex character member))
    have slugEq : (serverServiceSlug text name bindingId).toList =
        joinWords '-' ["server".toList, group.map Char.toLower] := by
      rw [serverServiceSlug, slug, empty]
      simp only [if_true, lowered]
      have letters : ("server-" ++
          String.ofList (group.map Char.toLower)).toList =
            "server-".toList ++ group.map Char.toLower := by
        rw [String.toList_append]
        exact congrArg _ String.toList_ofList
      rw [letters, joinWords_cons_cons]
      simp [joinWords]
    refine ⟨["server".toList, group.map Char.toLower],
      List.cons_ne_nil _ _, ?_, slugEq, ?_⟩
    · rw [List.forall_mem_cons, List.forall_mem_singleton]
      refine ⟨⟨by decide, ?_⟩, ?_, ?_⟩
      · have letters : "server".toList.all isSlugCharacter = true := by
          decide
        exact List.all_eq_true.mp letters
      · intro none
        rw [List.map_eq_nil_iff] at none
        rw [none] at eight
        cases eight
      · intro character member
        obtain ⟨original, present, rfl⟩ := List.mem_map.mp member
        exact slug_of_alphanumeric
          (alphanumeric_of_hexDigit (hex original present))
    · rw [joinWords_cons_cons]
      simp [joinWords, eight]
  · have visible : joinWords '-' kept ≠ [] := by
      apply joinWords_ne_nil silent
      intro part member
      exact (keptWords part member).1
    refine ⟨kept, silent, keptWords, ?_, short⟩
    rw [serverServiceSlug, slug]
    simp only [if_neg visible, String.toList_ofList]

theorem utf8ByteSize_of_ascii
    {text : String}
    (ascii : ∀ character ∈ text.toList, character.val.toNat < 128) :
    text.utf8ByteSize = text.toList.length := by
  have single : ∀ character ∈ text.toList, character.utf8Size = 1 := by
    intro character member
    have one := congrArg List.length
      (Utf8.encodeChar_of_ascii (ascii character member))
    rw [String.length_utf8EncodeChar] at one
    exact one
  rw [← Utf8.length_encode_toList, Utf8.length_encode,
    List.map_congr_left single, List.map_const', List.sum_replicate_nat,
    Nat.mul_one]

/-- The unit of any server with a UUID is valid on the agent, and no
configuration is rejected for it. -/
theorem generated_unit_accepted
    (text : UnicodeText) (lower : DocumentedLowerCase text)
    (name bindingId : String) (uuid : IsUuid bindingId) :
    validUnitName
        (unitName ("gravit-" ++ serverServiceSlug text name bindingId)) =
          true ∧
      ∀ (bindings : List ConfiguredBinding) (index : Nat),
        validateBindings [] 0 bindings ≠
          some (index, .unitInvalid
            (unitName
              ("gravit-" ++ serverServiceSlug text name bindingId))) := by
  have valid : validUnitName
      (unitName ("gravit-" ++ serverServiceSlug text name bindingId)) =
        true := by
    obtain ⟨parts, some, spoken, slug, short⟩ :=
      serverServiceSlug_words lower name uuid
    have unit : (unitName
        ("gravit-" ++ serverServiceSlug text name bindingId)).toList =
          "gravit-".toList ++
            (joinWords '-' parts ++ ".service".toList) := by
      rw [unitName, String.toList_append, String.toList_append, slug,
        List.append_assoc]
    have ascii : ∀ character ∈ (unitName
        ("gravit-" ++ serverServiceSlug text name bindingId)).toList,
          character.val.toNat < 128 := by
      intro character member
      rw [unit, List.mem_append, List.mem_append] at member
      rcases member with opening | inSlug | closing
      · have letters : "gravit-".toList.all
            (fun letter => letter.val.toNat < 128) = true := by decide
        exact of_decide_eq_true (List.all_eq_true.mp letters _ opening)
      · rcases mem_joinWords inSlug with rfl | ⟨part, present, inside⟩
        · decide
        · have code := slug_iff.mp ((spoken part present).2 _ inside)
          omega
      · have letters : ".service".toList.all
            (fun letter => letter.val.toNat < 128) = true := by decide
        exact of_decide_eq_true (List.all_eq_true.mp letters _ closing)
    rw [validUnitName_iff, utf8ByteSize_of_ascii ascii, unit]
    refine ⟨?_, parts, some, ?_, rfl⟩
    · have opening : "gravit-".toList.length = 7 := by decide
      have closing : ".service".toList.length = 8 := by decide
      rw [List.length_append, List.length_append, opening, closing]
      omega
    · intro part member
      exact isUnitWord_of_slug (spoken part member)
  refine ⟨valid, ?_⟩
  intro bindings index rejected
  rw [validateBindings_unitInvalid rejected] at valid
  cases valid

theorem asciiText_lowerCase : DocumentedLowerCase asciiText := by
  intro value _
  apply String.toList_inj.mp
  rw [String.toList_ofList]
  exact String.toList_map

theorem isUuid_firstId : IsUuid firstId := by
  refine ⟨"12345678".toList, "1234".toList, "4234".toList, "8234".toList,
    "123456789abc".toList, by decide, by decide, ?_⟩
  have hex : (["12345678".toList, "1234".toList, "4234".toList,
      "8234".toList, "123456789abc".toList].all fun group =>
        group.all isHexDigit) = true := by decide
  intro group member character inside
  exact List.all_eq_true.mp (List.all_eq_true.mp hex group member) character
    inside

/-- A name without a letter or digit gives the unit of the identifier. -/
theorem unit_of_silent_name_accepted :
    validUnitName
        (unitName ("gravit-" ++ serverServiceSlug asciiText "!!!" firstId)) =
          true ∧
      ∀ (bindings : List ConfiguredBinding) (index : Nat),
        validateBindings [] 0 bindings ≠
          some (index, .unitInvalid
            (unitName
              ("gravit-" ++ serverServiceSlug asciiText "!!!" firstId))) :=
  generated_unit_accepted asciiText asciiText_lowerCase "!!!" firstId
    isUuid_firstId

end GravitPanel.Servers
