import Mathlib.Data.List.Basic
import GravitPanel.Core.JavaScript

/-!
# Texts that are read from bytes

`decode` reads bytes as UTF-8 and puts U+FFFD for every byte that does not
start a well-formed character, as the JSON encoder of Go does for a string.
-/

namespace GravitPanel.Utf8

/-- The UTF-8 bytes of a text. -/
def encode (characters : List Char) : List UInt8 :=
  characters.flatMap String.utf8EncodeChar

/-- The character that the bytes start with, if they start with a well-formed
one. -/
def decodeChar (bytes : List UInt8) : Option Char :=
  bytes.toByteArray.utf8DecodeChar? 0

/-- Read the bytes; `skip` counts the bytes that belong to the character read
last. -/
def decodeFrom : Nat → List UInt8 → List Char
  | _, [] => []
  | skip + 1, _ :: rest => decodeFrom skip rest
  | 0, byte :: rest =>
      match decodeChar (byte :: rest) with
      | some character =>
          character :: decodeFrom (character.utf8Size - 1) rest
      | none => '\uFFFD' :: decodeFrom 0 rest

def decode (bytes : List UInt8) : List Char :=
  decodeFrom 0 bytes

/-- The bytes are the UTF-8 of some text. -/
def Valid (bytes : List UInt8) : Prop :=
  ∃ characters, bytes = encode characters

@[simp]
theorem encode_nil : encode [] = [] := rfl

@[simp]
theorem encode_cons (character : Char) (rest : List Char) :
    encode (character :: rest) =
      String.utf8EncodeChar character ++ encode rest := rfl

theorem toByteArray_injective
    {first second : List UInt8}
    (same : first.toByteArray = second.toByteArray) : first = second := by
  have lists := congrArg (fun array => array.data.toList) same
  simpa [List.toList_data_toByteArray] using lists

theorem decodeChar_encoded (character : Char) (rest : List UInt8) :
    decodeChar (String.utf8EncodeChar character ++ rest) =
      some character := by
  rw [decodeChar, List.toByteArray_append]
  exact ByteArray.utf8DecodeChar?_utf8EncodeChar_append

theorem decodeChar_eq_some
    {bytes : List UInt8} {character : Char}
    (decoded : decodeChar bytes = some character) :
    ∃ rest, bytes = String.utf8EncodeChar character ++ rest := by
  obtain ⟨suffix, split⟩ :=
    ByteArray.exists_of_utf8DecodeChar?_eq_some decoded
  refine ⟨suffix.data.toList, toByteArray_injective ?_⟩
  have suffixList : suffix.data.toList.toByteArray = suffix := by
    apply ByteArray.ext
    rw [List.data_toByteArray]
  rw [split, List.toByteArray_append, suffixList]

theorem units_le_utf8Size (character : Char) :
    JavaScript.units character ≤ character.utf8Size := by
  have positive := character.utf8Size_pos
  by_cases small : character.val ≤ 0xFFFF
  · rw [JavaScript.units, if_pos small]
    exact positive
  · have size : character.utf8Size = 4 := by
      unfold Char.utf8Size
      grind
    rw [JavaScript.units, if_neg small, size]
    decide

theorem continuation_of_mem_tail
    {character : Char} {byte : UInt8}
    (member : byte ∈ (String.utf8EncodeChar character).tail) :
    0x80 ≤ byte.toNat := by
  have reduced : ∀ number : Nat,
      0x80 ≤ (UInt8.ofNat (number % 0x40 + 0x80)).toNat := by
    intro number
    rw [UInt8.toNat_ofNat']
    omega
  unfold String.utf8EncodeChar at member
  grind

theorem encodeChar_of_ascii
    {character : Char} (small : character.val.toNat < 0x80) :
    String.utf8EncodeChar character =
      [UInt8.ofNat character.val.toNat] := by
  unfold String.utf8EncodeChar
  exact if_pos (Nat.le_of_lt_succ small)

theorem high_of_mem
    {character : Char} {byte : UInt8}
    (large : ¬ character.val.toNat < 0x80)
    (member : byte ∈ String.utf8EncodeChar character) :
    0x80 ≤ byte.toNat := by
  have reduced : ∀ number : Nat,
      0x80 ≤ (UInt8.ofNat (number % 0x40 + 0x80)).toNat ∧
        0x80 ≤ (UInt8.ofNat (number % 0x20 + 0xc0)).toNat ∧
        0x80 ≤ (UInt8.ofNat (number % 0x10 + 0xe0)).toNat ∧
        0x80 ≤ (UInt8.ofNat (number % 0x08 + 0xf0)).toNat := by
    intro number
    simp only [UInt8.toNat_ofNat']
    omega
  unfold String.utf8EncodeChar at member
  grind

theorem zero_mem_encode (characters : List Char) :
    0 ∈ encode characters ↔ '\x00' ∈ characters := by
  have single : ∀ character : Char,
      0 ∈ String.utf8EncodeChar character ↔ '\x00' = character := by
    intro character
    constructor
    · intro member
      by_cases small : character.val.toNat < 0x80
      · rw [encodeChar_of_ascii small, List.mem_singleton] at member
        have value := congrArg UInt8.toNat member
        rw [UInt8.toNat_ofNat'] at value
        apply Char.ext
        apply UInt32.toNat_inj.mp
        change 0 = character.val.toNat
        have zero : (0 : UInt8).toNat = 0 := rfl
        omega
      · exact absurd (high_of_mem small member) (by decide)
    · rintro rfl
      decide
  simp only [encode, List.mem_flatMap, single]
  constructor
  · rintro ⟨character, member, rfl⟩
    exact member
  · intro member
    exact ⟨_, member, rfl⟩

theorem length_encode (characters : List Char) :
    (encode characters).length =
      (characters.map Char.utf8Size).sum := by
  induction characters with
  | nil => rfl
  | cons character rest ih =>
      rw [encode_cons, List.length_append, String.length_utf8EncodeChar,
        ih, List.map_cons, List.sum_cons]

theorem length_encode_toList (text : String) :
    (encode text.toList).length = text.utf8ByteSize := by
  have bytes : text.toByteArray = (encode text.toList).toByteArray := by
    rw [← String.utf8Encode_toList]
    rfl
  rw [← String.size_toByteArray, bytes, List.size_toByteArray]

theorem decodeFrom_eq_drop (skip : Nat) (bytes : List UInt8) :
    decodeFrom skip bytes = decode (bytes.drop skip) := by
  induction bytes generalizing skip with
  | nil => cases skip <;> rfl
  | cons byte rest ih =>
      cases skip with
      | zero => rfl
      | succ skip =>
          rw [decodeFrom, ih, List.drop_succ_cons]

theorem decode_encoded (character : Char) (rest : List UInt8) :
    decode (String.utf8EncodeChar character ++ rest) =
      character :: decode rest := by
  have size := String.length_utf8EncodeChar character
  have positive := character.utf8Size_pos
  have decoded := decodeChar_encoded character rest
  rcases shape : String.utf8EncodeChar character with _ | ⟨byte, others⟩
  · exact absurd shape String.utf8EncodeChar_ne_nil
  · rw [shape, List.cons_append] at decoded
    rw [shape, List.length_cons] at size
    rw [List.cons_append, decode, decodeFrom, decoded]
    simp only
    rw [decodeFrom_eq_drop]
    have length : character.utf8Size - 1 = others.length := by omega
    rw [length, List.drop_left]

theorem decode_malformed
    {byte : UInt8} {rest : List UInt8}
    (malformed : decodeChar (byte :: rest) = none) :
    decode (byte :: rest) = '\uFFFD' :: decode rest := by
  rw [decode, decodeFrom, malformed]
  rfl

theorem decode_encode (characters : List Char) :
    decode (encode characters) = characters := by
  induction characters with
  | nil => rfl
  | cons character rest ih =>
      rw [encode_cons, decode_encoded, ih]

theorem encode_decode_eq_iff (bytes : List UInt8) :
    encode (decode bytes) = bytes ↔ Valid bytes := by
  constructor
  · intro same
    exact ⟨decode bytes, same.symm⟩
  · rintro ⟨characters, rfl⟩
    rw [decode_encode]

/-- Bytes are empty, or start with a character, or with a byte that starts
none. -/
theorem bytes_cases (bytes : List UInt8) :
    bytes = [] ∨
      (∃ character rest,
        bytes = String.utf8EncodeChar character ++ rest) ∨
      ∃ byte rest, bytes = byte :: rest ∧ decodeChar bytes = none := by
  cases bytes with
  | nil => exact .inl rfl
  | cons byte rest =>
      cases decoded : decodeChar (byte :: rest) with
      | none => exact .inr (.inr ⟨byte, rest, rfl, rfl⟩)
      | some character =>
          obtain ⟨others, split⟩ := decodeChar_eq_some decoded
          exact .inr (.inl ⟨character, others, split⟩)

theorem decode_induction
    {motive : List UInt8 → Prop}
    (empty : motive [])
    (encoded : ∀ character rest, motive rest →
      motive (String.utf8EncodeChar character ++ rest))
    (malformed : ∀ byte rest, decodeChar (byte :: rest) = none →
      motive rest → motive (byte :: rest))
    (bytes : List UInt8) : motive bytes := by
  induction length : bytes.length using Nat.strongRecOn
    generalizing bytes with
  | _ size ih =>
      rcases bytes_cases bytes with
        rfl | ⟨character, rest, rfl⟩ | ⟨byte, rest, rfl, none⟩
      · exact empty
      · apply encoded
        apply ih rest.length _ rest rfl
        rw [← length, List.length_append, String.length_utf8EncodeChar]
        have positive := character.utf8Size_pos
        omega
      · apply malformed _ _ none
        apply ih rest.length _ rest rfl
        rw [← length, List.length_cons]
        omega

theorem units_decode_le (bytes : List UInt8) :
    ((decode bytes).map JavaScript.units).sum ≤ bytes.length := by
  induction bytes using decode_induction with
  | empty => exact Nat.zero_le _
  | encoded character rest ih =>
      have first := units_le_utf8Size character
      rw [decode_encoded, List.map_cons, List.sum_cons, List.length_append,
        String.length_utf8EncodeChar]
      omega
  | malformed byte rest none ih =>
      have replacement : JavaScript.units '\uFFFD' = 1 := by decide
      rw [decode_malformed none, List.map_cons, List.sum_cons,
        List.length_cons, replacement]
      omega

theorem decodeChar_append_ascii
    {bytes suffix : List UInt8}
    (nonempty : bytes ≠ [])
    (ascii : ∀ byte ∈ suffix, byte.toNat < 0x80)
    (malformed : decodeChar bytes = none) :
    decodeChar (bytes ++ suffix) = none := by
  cases decoded : decodeChar (bytes ++ suffix) with
  | none => rfl
  | some character =>
      obtain ⟨rest, split⟩ := decodeChar_eq_some decoded
      rcases List.append_eq_append_iff.mp split with
        ⟨between, encoded, tail⟩ | ⟨between, whole, tail⟩
      · cases between with
        | nil =>
            rw [List.append_nil] at encoded
            have found := decodeChar_encoded character []
            rw [List.append_nil, encoded, malformed] at found
            cases found
        | cons byte others =>
            have low : byte.toNat < 0x80 := by
              apply ascii
              rw [tail]
              exact List.mem_append_left _ List.mem_cons_self
            have high : 0x80 ≤ byte.toNat := by
              apply @continuation_of_mem_tail character
              rw [encoded]
              cases bytes with
              | nil => exact absurd rfl nonempty
              | cons first between =>
                  rw [List.cons_append, List.tail_cons]
                  exact List.mem_append_right _ List.mem_cons_self
            omega
      · rw [whole, decodeChar_encoded] at malformed
        cases malformed

theorem decode_append_ascii
    (bytes suffix : List UInt8)
    (ascii : ∀ byte ∈ suffix, byte.toNat < 0x80) :
    decode (bytes ++ suffix) = decode bytes ++ decode suffix := by
  induction bytes using decode_induction with
  | empty => rfl
  | encoded character rest ih =>
      rw [List.append_assoc, decode_encoded, decode_encoded,
        ih, List.cons_append]
  | malformed byte rest none ih =>
      have still :=
        decodeChar_append_ascii (List.cons_ne_nil byte rest) ascii none
      rw [List.cons_append] at still ⊢
      rw [decode_malformed still, decode_malformed none,
        ih, List.cons_append]

end GravitPanel.Utf8
