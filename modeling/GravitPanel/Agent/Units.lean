import GravitPanel.Core.Words
import Mathlib.Computability.RegularExpressions

/-!
# Units that the agent accepts

`validUnitName` and the checks of bindings in `agent/config.go`.
-/

namespace GravitPanel.Agent

open RegularExpression

def characters : List Char → RegularExpression Char
  | [] => 0
  | letter :: rest => .char letter + characters rest

def spelled : List Char → RegularExpression Char
  | [] => 1
  | letter :: rest => .char letter * spelled rest

def oneOrMore (pattern : RegularExpression Char) :
    RegularExpression Char :=
  pattern * pattern.star

def charactersBetween (first last : Char) : List Char :=
  (List.range' first.toNat (last.toNat + 1 - first.toNat)).map Char.ofNat

/-- `[a-z0-9]`. -/
def unitLetters : List Char :=
  charactersBetween 'a' 'z' ++ charactersBetween '0' '9'

/-- `^gravit-[a-z0-9]+(?:-[a-z0-9]+)*\.service$`. -/
def serverUnitPattern : RegularExpression Char :=
  spelled "gravit-".toList *
    (oneOrMore (characters unitLetters) *
      ((.char '-' * oneOrMore (characters unitLetters)).star *
        spelled ".service".toList))

def validUnitName (unit : String) : Bool :=
  unit.utf8ByteSize ≤
      "gravit-".utf8ByteSize + 64 + ".service".utf8ByteSize &&
    serverUnitPattern.rmatch unit.toList

theorem characters_rmatch_iff (letters text : List Char) :
    (characters letters).rmatch text = true ↔
      ∃ letter ∈ letters, text = [letter] := by
  induction letters with
  | nil =>
      rw [characters, zero_rmatch]
      simp
  | cons letter rest ih =>
      rw [characters, add_rmatch_iff, char_rmatch_iff, ih]
      simp

theorem spelled_rmatch_iff (letters text : List Char) :
    (spelled letters).rmatch text = true ↔ text = letters := by
  induction letters generalizing text with
  | nil =>
      rw [spelled, one_rmatch_iff]
  | cons letter rest ih =>
      rw [spelled, mul_rmatch_iff]
      constructor
      · rintro ⟨first, others, rfl, one, following⟩
        rw [(char_rmatch_iff letter first).mp one,
          (ih others).mp following]
        rfl
      · rintro rfl
        exact ⟨[letter], rest, rfl, (char_rmatch_iff letter _).mpr rfl,
          (ih rest).mpr rfl⟩

def IsUnitWord (word : List Char) : Prop :=
  word ≠ [] ∧ ∀ letter ∈ word, letter ∈ unitLetters

theorem star_characters_rmatch_iff (letters text : List Char) :
    (characters letters).star.rmatch text = true ↔
      ∀ letter ∈ text, letter ∈ letters := by
  rw [star_rmatch_iff]
  constructor
  · rintro ⟨pieces, rfl, single⟩ letter member
    obtain ⟨piece, present, inside⟩ := List.mem_flatten.mp member
    obtain ⟨matched, known, same⟩ :=
      (characters_rmatch_iff letters piece).mp (single piece present).2
    rw [same, List.mem_singleton] at inside
    rw [inside]
    exact known
  · intro known
    refine ⟨text.map ([·]), ?_, ?_⟩
    · rw [← List.flatMap_def]
      exact (List.flatMap_singleton' text).symm
    · intro piece present
      obtain ⟨letter, member, rfl⟩ := List.mem_map.mp present
      refine ⟨List.cons_ne_nil _ _, ?_⟩
      exact (characters_rmatch_iff letters _).mpr
        ⟨letter, known letter member, rfl⟩

theorem word_rmatch_iff (text : List Char) :
    (oneOrMore (characters unitLetters)).rmatch text = true ↔
      IsUnitWord text := by
  rw [oneOrMore, mul_rmatch_iff]
  constructor
  · rintro ⟨first, rest, rfl, one, others⟩
    obtain ⟨letter, known, rfl⟩ :=
      (characters_rmatch_iff unitLetters first).mp one
    refine ⟨List.cons_ne_nil _ _, ?_⟩
    rw [List.singleton_append, List.forall_mem_cons]
    exact ⟨known, (star_characters_rmatch_iff _ rest).mp others⟩
  · rintro ⟨named, known⟩
    cases text with
    | nil => exact absurd rfl named
    | cons letter rest =>
        rw [List.forall_mem_cons] at known
        refine ⟨[letter], rest, rfl, ?_, ?_⟩
        · exact (characters_rmatch_iff unitLetters _).mpr
            ⟨letter, known.1, rfl⟩
        · exact (star_characters_rmatch_iff _ rest).mpr known.2

theorem dashed_rmatch_iff (text : List Char) :
    (.char '-' * oneOrMore (characters unitLetters) :
        RegularExpression Char).rmatch text = true ↔
      ∃ word, IsUnitWord word ∧ text = '-' :: word := by
  rw [mul_rmatch_iff]
  constructor
  · rintro ⟨dash, word, rfl, one, matched⟩
    rw [(char_rmatch_iff '-' dash).mp one]
    exact ⟨word, (word_rmatch_iff word).mp matched, rfl⟩
  · rintro ⟨word, spoken, rfl⟩
    exact ⟨['-'], word, rfl, (char_rmatch_iff '-' _).mpr rfl,
      (word_rmatch_iff word).mpr spoken⟩

theorem star_dashed_rmatch_iff (text : List Char) :
    (.char '-' * oneOrMore (characters unitLetters) :
        RegularExpression Char).star.rmatch text = true ↔
      ∃ words : List (List Char), (∀ word ∈ words, IsUnitWord word) ∧
        text = (words.map ('-' :: ·)).flatten := by
  rw [star_rmatch_iff]
  constructor
  · rintro ⟨pieces, rfl, dashed⟩
    refine ⟨pieces.map List.tail, ?_, ?_⟩
    · intro word member
      obtain ⟨piece, present, rfl⟩ := List.mem_map.mp member
      obtain ⟨word, spoken, rfl⟩ :=
        (dashed_rmatch_iff piece).mp (dashed piece present).2
      exact spoken
    · have same : (pieces.map List.tail).map ('-' :: ·) = pieces := by
        rw [List.map_map]
        have unchanged : ∀ piece ∈ pieces,
            (('-' :: ·) ∘ List.tail) piece = id piece := by
          intro piece present
          obtain ⟨word, -, rfl⟩ :=
            (dashed_rmatch_iff piece).mp (dashed piece present).2
          rfl
        rw [List.map_congr_left unchanged, List.map_id]
      rw [same]
  · rintro ⟨words, spoken, rfl⟩
    refine ⟨words.map ('-' :: ·), rfl, ?_⟩
    intro piece present
    obtain ⟨word, member, rfl⟩ := List.mem_map.mp present
    refine ⟨List.cons_ne_nil _ _, ?_⟩
    exact (dashed_rmatch_iff _).mpr ⟨word, spoken word member, rfl⟩

/-- Valid names are `gravit-`, words joined by dashes, and `.service`, in at
most as many bytes as 64 characters leave. -/
theorem validUnitName_iff (unit : String) :
    validUnitName unit = true ↔
      unit.utf8ByteSize ≤ 79 ∧
        ∃ words : List (List Char), words ≠ [] ∧
          (∀ word ∈ words, IsUnitWord word) ∧
            unit.toList = "gravit-".toList ++
              (Words.joinWords '-' words ++ ".service".toList) := by
  rw [validUnitName, Bool.and_eq_true, decide_eq_true_eq]
  have bytes : "gravit-".utf8ByteSize + 64 + ".service".utf8ByteSize = 79 :=
    by decide
  rw [bytes]
  apply and_congr_right
  intro _
  rw [serverUnitPattern, mul_rmatch_iff]
  simp only [mul_rmatch_iff, spelled_rmatch_iff, word_rmatch_iff,
    star_dashed_rmatch_iff]
  constructor
  · rintro ⟨_, _, text, rfl, first, _, rfl, spoken, _, _, rfl,
      ⟨rest, others, rfl⟩, rfl⟩
    refine ⟨first :: rest, List.cons_ne_nil _ _, ?_, ?_⟩
    · rw [List.forall_mem_cons]
      exact ⟨spoken, others⟩
    · rw [text, Words.joinWords_cons, List.append_assoc]
  · rintro ⟨words, some, spoken, text⟩
    cases words with
    | nil => exact absurd rfl some
    | cons first rest =>
        rw [List.forall_mem_cons] at spoken
        rw [Words.joinWords_cons, List.append_assoc] at text
        exact ⟨_, _, text, rfl, first, _, rfl, spoken.1, _, _, rfl,
          ⟨rest, spoken.2, rfl⟩, rfl⟩

/-- `unicode.IsSpace`. -/
def isSpace (character : Char) : Bool :=
  let code := character.val.toNat
  (9 ≤ code && code ≤ 13) || code == 32 || code == 0x85 ||
    code == 0xA0 || code == 0x1680 || (0x2000 ≤ code && code ≤ 0x200A) ||
      code == 0x2028 || code == 0x2029 || code == 0x202F ||
        code == 0x205F || code == 0x3000

/-- `strings.TrimSpace` leaves nothing. -/
def trimsToNothing (text : String) : Bool :=
  text.toList.all isSpace

structure ConfiguredBinding where
  id : String
  token : String
  unit : String
  root : String
  rconAddress : String
  rconPassword : String
  rconTimeoutSeconds : Int
  deriving DecidableEq, Repr

inductive BindingFault where
  | idRequired
  | idDuplicated (id : String)
  | tokenRequired
  | unitInvalid (unit : String)
  | rootRelative
  | rconAddressRequired
  | rconPasswordRequired
  | rconTimeoutNegative
  deriving DecidableEq, Repr

/-- The text of the error about a binding; `quote` is `%q`. -/
def BindingFault.text
    (quote : String → String) (index : Nat) (fault : BindingFault) :
    String :=
  "bindings[" ++ toString index ++ "]" ++
    match fault with
    | .idRequired => ".id is required"
    | .idDuplicated id => ".id " ++ quote id ++ " is duplicated"
    | .tokenRequired => ".token is required"
    | .unitInvalid unit => ".unit " ++ quote unit ++ " is invalid"
    | .rootRelative => ".root must be absolute"
    | .rconAddressRequired => ".rcon.address is required"
    | .rconPasswordRequired => ".rcon.password is required"
    | .rconTimeoutNegative => ".rcon.timeoutSeconds cannot be negative"

/-- The checks of one binding after those before it. -/
def ConfiguredBinding.fault
    (binding : ConfiguredBinding) (ids : List String) :
    Option BindingFault :=
  if trimsToNothing binding.id then some .idRequired
  else if binding.id ∈ ids then some (.idDuplicated binding.id)
  else if trimsToNothing binding.token then some .tokenRequired
  else if !validUnitName binding.unit then
    some (.unitInvalid binding.unit)
  else if binding.root ≠ "" ∧ binding.root.toList.head? ≠ some '/' then
    some .rootRelative
  else if trimsToNothing binding.rconAddress then
    some .rconAddressRequired
  else if binding.rconPassword = "" then some .rconPasswordRequired
  else if binding.rconTimeoutSeconds < 0 then some .rconTimeoutNegative
  else none

def validateBindings (ids : List String) (index : Nat) :
    List ConfiguredBinding → Option (Nat × BindingFault)
  | [] => none
  | binding :: rest =>
      match binding.fault ids with
      | some fault => some (index, fault)
      | none => validateBindings (binding.id :: ids) (index + 1) rest

theorem fault_unitInvalid
    {binding : ConfiguredBinding} {ids : List String} {unit : String}
    (rejected : binding.fault ids = some (.unitInvalid unit)) :
    validUnitName unit = false := by
  unfold ConfiguredBinding.fault at rejected
  repeat' split at rejected
  all_goals cases rejected
  next _ _ _ invalid =>
    rw [Bool.not_eq_true'] at invalid
    exact invalid

theorem validateBindings_unitInvalid
    {ids : List String} {start index : Nat}
    {bindings : List ConfiguredBinding} {unit : String}
    (rejected : validateBindings ids start bindings =
      some (index, .unitInvalid unit)) :
    validUnitName unit = false := by
  induction bindings generalizing ids start with
  | nil => cases rejected
  | cons binding rest ih =>
      rw [validateBindings] at rejected
      split at rejected
      next fault found =>
        cases rejected
        exact fault_unitInvalid found
      · exact ih rejected

end GravitPanel.Agent
