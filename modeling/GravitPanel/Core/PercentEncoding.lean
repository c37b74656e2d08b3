import GravitPanel.Core.Utf8

/-!
# Percent escapes of JavaScript

`encodeURIComponent` and `decodeURIComponent` on strings of UTF-16 code units.
A string of which no half of a surrogate pair stands alone is the string of a
list of characters.
-/

namespace GravitPanel.PercentEncoding

def charUnits (character : Char) : List Nat :=
  if character.toNat < 0x10000 then
    [character.toNat]
  else
    [0xD800 + (character.toNat - 0x10000) / 0x400,
      0xDC00 + (character.toNat - 0x10000) % 0x400]

def utf16 (characters : List Char) : List Nat :=
  characters.flatMap charUnits

/-- The character that code units start with, unless it is the half of a
surrogate pair. -/
def codePointAt : List Nat → Option Char
  | [] => none
  | [unit] =>
      if unit < 0xD800 ∨ 0xE000 ≤ unit then some (Char.ofNat unit) else none
  | unit :: low :: _ =>
      if unit < 0xD800 ∨ 0xE000 ≤ unit then
        some (Char.ofNat unit)
      else if unit < 0xDC00 ∧ 0xDC00 ≤ low ∧ low < 0xE000 then
        some (Char.ofNat
          (0x10000 + (unit - 0xD800) * 0x400 + (low - 0xDC00)))
      else
        none

/-- The code unit of `%`. -/
def percent : Nat := 37

def hexDigit (value : Nat) : Nat :=
  if value < 10 then 48 + value else 55 + value

def hexValue (unit : Nat) : Option Nat :=
  if 48 ≤ unit ∧ unit ≤ 57 then some (unit - 48)
  else if 65 ≤ unit ∧ unit ≤ 70 then some (unit - 55)
  else if 97 ≤ unit ∧ unit ≤ 102 then some (unit - 87)
  else none

def escapeByte (byte : UInt8) : List Nat :=
  [percent, hexDigit (byte.toNat / 16), hexDigit (byte.toNat % 16)]

/-- The byte of two hexadecimal digits. -/
def hexByte (high low : Nat) : Option UInt8 :=
  match hexValue high, hexValue low with
  | some first, some second => some (UInt8.ofNat (first * 16 + second))
  | _, _ => none

def escapedByte : List Nat → Option (UInt8 × List Nat)
  | sign :: high :: low :: rest =>
      if sign = percent then
        (hexByte high low).map fun byte => (byte, rest)
      else
        none
  | _ => none

def escapedBytes : Nat → List Nat → List UInt8
  | 0, _ => []
  | limit + 1, units =>
      match escapedByte units with
      | some (byte, rest) => byte :: escapedBytes limit rest
      | none => []

/-- The letters, digits and marks that `encodeURIComponent` leaves. -/
def isUnreserved (unit : Nat) : Bool :=
  (65 ≤ unit && unit ≤ 90) || (97 ≤ unit && unit ≤ 122) ||
    (48 ≤ unit && unit ≤ 57) ||
      unit ∈ "-_.!~*'()".toList.map Char.toNat

/-- `encodeURIComponent`, which throws at the half of a surrogate pair; `skip`
counts the code units that belong to the character read last. -/
def encodeFrom : Nat → List Nat → Option (List Nat)
  | _, [] => some []
  | skip + 1, _ :: rest => encodeFrom skip rest
  | 0, unit :: rest =>
      if isUnreserved unit then
        (encodeFrom 0 rest).map (unit :: ·)
      else
        match codePointAt (unit :: rest) with
        | none => none
        | some character =>
            (encodeFrom ((charUnits character).length - 1) rest).map
              ((String.utf8EncodeChar character).flatMap escapeByte ++ ·)

def encodeURIComponent (text : List Nat) : Option (List Nat) :=
  encodeFrom 0 text

/-- `decodeURIComponent`, which throws where a percent sign does not begin the
escapes of the UTF-8 bytes of a character; `skip` counts the code units that
belong to the escapes read last. -/
def decodeFrom : Nat → List Nat → Option (List Nat)
  | _, [] => some []
  | skip + 1, _ :: rest => decodeFrom skip rest
  | 0, unit :: rest =>
      if unit ≠ percent then
        (decodeFrom 0 rest).map (unit :: ·)
      else
        match Utf8.decodeChar (escapedBytes 4 (unit :: rest)) with
        | none => none
        | some character =>
            (decodeFrom (3 * character.utf8Size - 1) rest).map
              (charUnits character ++ ·)

def decodeURIComponent (text : List Nat) : Option (List Nat) :=
  decodeFrom 0 text

/-- Escapes of the bytes, with digits of either case. -/
def Spells : List UInt8 → List Nat → Prop
  | [], units => units = []
  | byte :: others, units =>
      ∃ rest, escapedByte units = some (byte, rest) ∧ Spells others rest

/-- A text of code units and of escapes of characters, with what it stands
for. -/
inductive Escaped : List Nat → List Nat → Prop where
  | nil : Escaped [] []
  | plain {unit : Nat} {rest decoded : List Nat} :
      unit ≠ percent → Escaped rest decoded →
        Escaped (unit :: rest) (unit :: decoded)
  | character {character : Char} {escapes rest decoded : List Nat} :
      Spells (String.utf8EncodeChar character) escapes →
        Escaped rest decoded →
          Escaped (escapes ++ rest) (charUnits character ++ decoded)

theorem escapedByte_eq_some {units rest : List Nat} {byte : UInt8} :
    escapedByte units = some (byte, rest) ↔
      ∃ high low, units = percent :: high :: low :: rest ∧
        hexByte high low = some byte := by
  constructor
  · intro read
    cases units with
    | nil => cases read
    | cons sign others =>
        cases others with
        | nil => cases read
        | cons high others =>
            cases others with
            | nil => cases read
            | cons low others =>
                rw [escapedByte] at read
                by_cases escape : sign = percent
                · rw [if_pos escape, Option.map_eq_some_iff] at read
                  obtain ⟨found, value, same⟩ := read
                  cases same
                  exact ⟨high, low, by rw [escape], value⟩
                · rw [if_neg escape] at read
                  cases read
  · rintro ⟨high, low, rfl, value⟩
    rw [escapedByte, if_pos rfl, value]
    rfl

theorem escapedByte_append {units rest more : List Nat} {byte : UInt8}
    (read : escapedByte units = some (byte, rest)) :
    escapedByte (units ++ more) = some (byte, rest ++ more) := by
  obtain ⟨high, low, rfl, value⟩ := escapedByte_eq_some.mp read
  exact escapedByte_eq_some.mpr ⟨high, low, rfl, value⟩

variable {escapes : List Nat} {units : List Nat}

theorem length_spells {bytes : List UInt8}
    (spells : Spells bytes units) : units.length = 3 * bytes.length := by
  induction bytes generalizing units with
  | nil =>
      rw [show units = [] from spells]
      rfl
  | cons byte others ih =>
      obtain ⟨rest, read, later⟩ := spells
      obtain ⟨high, low, rfl, _⟩ := escapedByte_eq_some.mp read
      have tail := ih later
      simp only [List.length_cons, tail]
      omega

theorem spells_append {first second : List UInt8}
    (spells : Spells (first ++ second) units) :
    ∃ front rest, units = front ++ rest ∧ Spells first front ∧
      Spells second rest := by
  induction first generalizing units with
  | nil => exact ⟨[], units, rfl, rfl, spells⟩
  | cons byte others ih =>
      obtain ⟨rest, read, later⟩ := spells
      obtain ⟨high, low, rfl, value⟩ := escapedByte_eq_some.mp read
      obtain ⟨front, last, rfl, one, other⟩ := ih later
      refine ⟨percent :: high :: low :: front, last, rfl, ⟨front, ?_, one⟩,
        other⟩
      exact escapedByte_eq_some.mpr ⟨high, low, rfl, value⟩

theorem escapedBytes_spells (limit : Nat) (units : List Nat) :
    ∃ front rest, units = front ++ rest ∧
      Spells (escapedBytes limit units) front := by
  induction limit generalizing units with
  | zero => exact ⟨[], units, rfl, rfl⟩
  | succ limit ih =>
      rw [escapedBytes]
      cases read : escapedByte units with
      | none => exact ⟨[], units, rfl, rfl⟩
      | some found =>
          obtain ⟨high, low, shape, value⟩ := escapedByte_eq_some.mp read
          obtain ⟨front, rest, split, spells⟩ := ih found.2
          refine ⟨percent :: high :: low :: front, rest, ?_, front, ?_, spells⟩
          · rw [shape, split]
            rfl
          · exact escapedByte_eq_some.mpr ⟨high, low, rfl, value⟩

theorem escapedBytes_of_spells {bytes : List UInt8} {front : List Nat}
    (spells : Spells bytes front) {limit : Nat}
    (short : bytes.length ≤ limit) (rest : List Nat) :
    ∃ more, escapedBytes limit (front ++ rest) = bytes ++ more := by
  induction bytes generalizing front limit with
  | nil => exact ⟨_, rfl⟩
  | cons byte others ih =>
      obtain ⟨last, read, later⟩ := spells
      cases limit with
      | zero => cases short
      | succ limit =>
          obtain ⟨more, found⟩ :=
            ih later (Nat.le_of_succ_le_succ short)
          refine ⟨more, ?_⟩
          rw [escapedBytes, escapedByte_append read]
          exact congrArg (byte :: ·) found

theorem utf8EncodeChar_length_le (character : Char) :
    (String.utf8EncodeChar character).length ≤ 4 := by
  rw [String.length_utf8EncodeChar]
  exact character.utf8Size_le_four

variable {character : Char}

theorem decodeChar_escapedBytes_iff :
    Utf8.decodeChar (escapedBytes 4 units) = some character ↔
      ∃ front rest, units = front ++ rest ∧
        Spells (String.utf8EncodeChar character) front := by
  constructor
  · intro decoded
    obtain ⟨more, bytes⟩ := Utf8.decodeChar_eq_some decoded
    obtain ⟨front, rest, split, spells⟩ := escapedBytes_spells 4 units
    rw [bytes] at spells
    obtain ⟨escapes, others, shape, own, _⟩ := spells_append spells
    refine ⟨escapes, others ++ rest, ?_, own⟩
    rw [split, shape, List.append_assoc]
  · rintro ⟨front, rest, rfl, spells⟩
    obtain ⟨more, found⟩ :=
      escapedBytes_of_spells spells (utf8EncodeChar_length_le character) rest
    rw [found, Utf8.decodeChar_encoded]

theorem decodeFrom_eq_drop (skip : Nat) (units : List Nat) :
    decodeFrom skip units = decodeFrom 0 (units.drop skip) := by
  induction units generalizing skip with
  | nil => cases skip <;> rfl
  | cons unit rest ih =>
      cases skip with
      | zero => rfl
      | succ skip => exact ih skip

theorem length_spells_char
    (spells : Spells (String.utf8EncodeChar character) escapes) :
    escapes.length = 3 * character.utf8Size := by
  rw [length_spells spells, String.length_utf8EncodeChar]

theorem spells_char_cons
    (spells : Spells (String.utf8EncodeChar character) escapes) :
    ∃ others, escapes = percent :: others := by
  cases bytes : String.utf8EncodeChar character with
  | nil =>
      have size := String.length_utf8EncodeChar character
      rw [bytes] at size
      have positive := character.utf8Size_pos
      exact absurd size (Nat.ne_of_lt positive)
  | cons byte others =>
      rw [bytes] at spells
      obtain ⟨rest, read, _⟩ := spells
      obtain ⟨high, low, shape, _⟩ := escapedByte_eq_some.mp read
      exact ⟨high :: low :: rest, shape⟩

theorem decodeFrom_escapes
    (spells : Spells (String.utf8EncodeChar character) escapes)
    (rest : List Nat) :
    decodeFrom 0 (escapes ++ rest) =
      (decodeFrom 0 rest).map (charUnits character ++ ·) := by
  have size := length_spells_char spells
  obtain ⟨others, rfl⟩ := spells_char_cons spells
  have decoded :
      Utf8.decodeChar (escapedBytes 4 (percent :: (others ++ rest))) =
        some character :=
    decodeChar_escapedBytes_iff.mpr ⟨percent :: others, rest, rfl, spells⟩
  have count : 3 * character.utf8Size - 1 = others.length := by
    rw [← size]
    rfl
  rw [List.cons_append, decodeFrom, if_neg (not_not_intro rfl), decoded]
  simp only
  rw [decodeFrom_eq_drop, count, List.drop_left]

/-- What `decodeURIComponent` reads, and that it throws at every other
text. -/
theorem decodeURIComponent_eq_some_iff {text decoded : List Nat} :
    decodeURIComponent text = some decoded ↔ Escaped text decoded := by
  constructor
  · intro read
    rw [decodeURIComponent] at read
    induction size : text.length using Nat.strong_induction_on
      generalizing text decoded with
    | _ size ih =>
        subst size
        cases text with
        | nil =>
            cases read
            exact Escaped.nil
        | cons unit rest =>
            by_cases escape : unit = percent
            · rw [decodeFrom, if_neg (not_not_intro escape)] at read
              cases found :
                  Utf8.decodeChar (escapedBytes 4 (unit :: rest)) with
              | none =>
                  rw [found] at read
                  cases read
              | some character =>
                  obtain ⟨front, last, split, spells⟩ :=
                    decodeChar_escapedBytes_iff.mp found
                  have whole := decodeFrom_escapes spells last
                  rw [← split, decodeFrom, if_neg (not_not_intro escape),
                    read] at whole
                  obtain ⟨tail, later, same⟩ :=
                    Option.map_eq_some_iff.mp whole.symm
                  have shorter : last.length < (unit :: rest).length := by
                    rw [split, List.length_append, length_spells_char spells]
                    have positive := character.utf8Size_pos
                    omega
                  rw [split, ← same]
                  exact Escaped.character spells
                    (ih last.length shorter later rfl)
            · rw [decodeFrom, if_pos escape, Option.map_eq_some_iff] at read
              obtain ⟨tail, later, rfl⟩ := read
              exact Escaped.plain escape
                (ih rest.length (Nat.lt_succ_self _) later
                  rfl)
  · intro escaped
    rw [decodeURIComponent]
    induction escaped with
    | nil => rfl
    | plain different _ ih =>
        rw [decodeFrom, if_pos different, ih]
        rfl
    | character spells _ ih =>
        rw [decodeFrom_escapes spells, ih]
        rfl

theorem hexValue_hexDigit {value : Nat} (small : value < 16) :
    hexValue (hexDigit value) = some value := by
  rw [hexDigit, hexValue]
  by_cases decimal : value < 10
  · rw [if_pos decimal, if_pos (by omega)]
    exact congrArg some (by omega)
  · rw [if_neg decimal, if_neg (by omega), if_pos (by omega)]
    exact congrArg some (by omega)

theorem escapedByte_escapeByte (byte : UInt8) (rest : List Nat) :
    escapedByte (escapeByte byte ++ rest) = some (byte, rest) := by
  refine escapedByte_eq_some.mpr ⟨_, _, rfl, ?_⟩
  have bound := UInt8.toNat_lt byte
  rw [hexByte, hexValue_hexDigit (by omega), hexValue_hexDigit (by omega)]
  have whole : byte.toNat / 16 * 16 + byte.toNat % 16 = byte.toNat := by
    omega
  simp only [whole, UInt8.ofNat_toNat]

theorem spells_escapeByte (bytes : List UInt8) :
    Spells bytes (bytes.flatMap escapeByte) := by
  induction bytes with
  | nil => rfl
  | cons byte others ih =>
      exact ⟨others.flatMap escapeByte, escapedByte_escapeByte byte _,
        ih⟩

/-- What `encodeURIComponent` puts for a character. -/
def encodeChar (character : Char) : List Nat :=
  if isUnreserved character.toNat then [character.toNat]
  else (String.utf8EncodeChar character).flatMap escapeByte

theorem codePointAt_charUnits (character : Char) (rest : List Nat) :
    codePointAt (charUnits character ++ rest) = some character := by
  have valid : character.toNat < 0xD800 ∨
      0xDFFF < character.toNat ∧ character.toNat < 0x110000 :=
    character.valid
  rw [charUnits]
  by_cases small : character.toNat < 0x10000
  · rw [if_pos small, List.singleton_append]
    have single : character.toNat < 0xD800 ∨ 0xE000 ≤ character.toNat := by
      omega
    cases rest with
    | nil => rw [codePointAt, if_pos single, Char.ofNat_toNat]
    | cons low others => rw [codePointAt, if_pos single, Char.ofNat_toNat]
  · rw [if_neg small, List.cons_append, List.singleton_append, codePointAt,
      if_neg (by omega), if_pos (by omega)]
    have code : 0x10000 +
        (0xD800 + (character.toNat - 0x10000) / 0x400 - 0xD800) * 0x400 +
          (0xDC00 + (character.toNat - 0x10000) % 0x400 - 0xDC00) =
        character.toNat := by
      omega
    rw [code, Char.ofNat_toNat]

theorem isUnreserved_lt {unit : Nat} (kept : isUnreserved unit = true) :
    unit < 128 ∧ unit ≠ percent := by
  have marks : ∀ mark ∈ "-_.!~*'()".toList.map Char.toNat,
      mark < 128 ∧ mark ≠ percent := by
    decide
  rw [isUnreserved, Bool.or_eq_true] at kept
  rcases kept with letters | mark
  · simp only [Bool.or_eq_true, Bool.and_eq_true, decide_eq_true_eq] at letters
    rw [percent]
    omega
  · exact marks unit (of_decide_eq_true mark)

theorem encodeFrom_eq_drop (skip : Nat) (units : List Nat) :
    encodeFrom skip units = encodeFrom 0 (units.drop skip) := by
  induction units generalizing skip with
  | nil => cases skip <;> rfl
  | cons unit rest ih =>
      cases skip with
      | zero => rfl
      | succ skip => exact ih skip

theorem encodeFrom_charUnits (character : Char) (rest : List Nat) :
    encodeFrom 0 (charUnits character ++ rest) =
      (encodeFrom 0 rest).map (encodeChar character ++ ·) := by
  have read := codePointAt_charUnits character rest
  rw [encodeChar]
  by_cases kept : isUnreserved character.toNat = true
  · have small : character.toNat < 0x10000 := by
      have bound := (isUnreserved_lt kept).1
      omega
    rw [if_pos kept, charUnits, if_pos small, List.singleton_append,
      encodeFrom, if_pos kept]
    rfl
  · rw [if_neg kept]
    obtain ⟨unit, others, units, reserved⟩ :
        ∃ unit others, charUnits character = unit :: others ∧
          isUnreserved unit = false := by
      rw [charUnits]
      by_cases small : character.toNat < 0x10000
      · rw [if_pos small]
        exact ⟨_, _, rfl, Bool.eq_false_iff.mpr kept⟩
      · rw [if_neg small]
        refine ⟨_, _, rfl, Bool.eq_false_iff.mpr fun low => ?_⟩
        have bound := (isUnreserved_lt low).1
        omega
    rw [units, List.cons_append] at read ⊢
    rw [encodeFrom, reserved, if_neg Bool.false_ne_true, read]
    simp only [units, List.length_cons, Nat.add_sub_cancel]
    rw [encodeFrom_eq_drop, List.drop_left]

theorem encodeURIComponent_utf16 (characters : List Char) :
    encodeURIComponent (utf16 characters) =
      some (characters.flatMap encodeChar) := by
  rw [encodeURIComponent]
  induction characters with
  | nil => rfl
  | cons character rest ih =>
      rw [utf16, List.flatMap_cons, encodeFrom_charUnits]
      rw [utf16] at ih
      rw [ih]
      rfl

theorem escaped_encodeChars (characters : List Char) :
    Escaped (characters.flatMap encodeChar) (utf16 characters) := by
  induction characters with
  | nil => exact Escaped.nil
  | cons character rest ih =>
      rw [List.flatMap_cons, utf16, List.flatMap_cons, encodeChar]
      by_cases kept : isUnreserved character.toNat = true
      · obtain ⟨bound, different⟩ := isUnreserved_lt kept
        rw [if_pos kept, charUnits, if_pos (by omega)]
        exact Escaped.plain different ih
      · rw [if_neg kept]
        exact Escaped.character (spells_escapeByte _) ih

theorem mem_encodeChar {unit : Nat}
    (member : unit ∈ encodeChar character) :
    isUnreserved unit = true ∨ unit = percent := by
  have digit : ∀ value < 16, isUnreserved (hexDigit value) = true := by
    decide
  rw [encodeChar] at member
  by_cases kept : isUnreserved character.toNat = true
  · rw [if_pos kept, List.mem_singleton] at member
    rw [member]
    exact Or.inl kept
  · rw [if_neg kept, List.mem_flatMap] at member
    obtain ⟨byte, _, place⟩ := member
    have bound := UInt8.toNat_lt byte
    rw [escapeByte, List.mem_cons, List.mem_cons, List.mem_singleton] at place
    rcases place with same | same | same
    · exact Or.inr same
    · rw [same]
      exact Or.inl (digit _ (by omega))
    · rw [same]
      exact Or.inl (digit _ (by omega))

end GravitPanel.PercentEncoding
