import GravitPanel.Core.Utf8

/-!
# `TextDecoder` and `TextEncoder`

The decoder drops a byte order mark at the start and puts one U+FFFD for every
maximal part of a character that is not completed.
-/

namespace GravitPanel.TextDecoder

open Utf8

/-- U+FEFF in UTF-8. -/
def byteOrderMark : List UInt8 := [0xEF, 0xBB, 0xBF]

/-- The number of bytes that follow such a first byte. -/
def needed (first : UInt8) : Nat :=
  if 0xC2 ≤ first ∧ first ≤ 0xDF then 1
  else if 0xE0 ≤ first ∧ first ≤ 0xEF then 2
  else if 0xF0 ≤ first ∧ first ≤ 0xF4 then 3
  else 0

/-- May the byte be the second one after such a first byte? -/
def isSecond (first second : UInt8) : Bool :=
  (if first = 0xE0 then 0xA0 else if first = 0xF0 then 0x90 else 0x80)
      ≤ second &&
    second ≤
      (if first = 0xED then 0x9F else if first = 0xF4 then 0x8F else 0xBF)

def isContinuation (byte : UInt8) : Bool :=
  0x80 ≤ byte && byte ≤ 0xBF

/-- The number of bytes after the first that one replacement stands for, where
no character starts. -/
def replaced (first : UInt8) : List UInt8 → Nat
  | [] => 0
  | second :: rest =>
      if 2 ≤ needed first && isSecond first second then
        match rest with
        | [] => 1
        | third :: _ =>
            if 3 ≤ needed first && isContinuation third then 2 else 1
      else
        0

/-- Read the bytes; `skip` counts those that are read already. -/
def decodeFrom : Nat → List UInt8 → List Char
  | _, [] => []
  | skip + 1, _ :: rest => decodeFrom skip rest
  | 0, byte :: rest =>
      match decodeChar (byte :: rest) with
      | some character =>
          character :: decodeFrom (character.utf8Size - 1) rest
      | none => '\uFFFD' :: decodeFrom (replaced byte rest) rest

/-- `new TextDecoder().decode(bytes)`. -/
def decode (bytes : List UInt8) : List Char :=
  if byteOrderMark <+: bytes then
    decodeFrom 0 (bytes.drop byteOrderMark.length)
  else
    decodeFrom 0 bytes

/-- `new TextEncoder().encode(text)`. -/
def encode (characters : List Char) : List UInt8 :=
  Utf8.encode characters

theorem decodeFrom_eq_drop (skip : Nat) (bytes : List UInt8) :
    decodeFrom skip bytes = decodeFrom 0 (bytes.drop skip) := by
  induction bytes generalizing skip with
  | nil => cases skip <;> rfl
  | cons byte rest ih =>
      cases skip with
      | zero => rfl
      | succ skip =>
          rw [decodeFrom, ih, List.drop_succ_cons]

theorem decodeFrom_encoded (character : Char) (rest : List UInt8) :
    decodeFrom 0 (String.utf8EncodeChar character ++ rest) =
      character :: decodeFrom 0 rest := by
  have size := String.length_utf8EncodeChar character
  have decoded := decodeChar_encoded character rest
  cases shape : String.utf8EncodeChar character with
  | nil => exact absurd shape String.utf8EncodeChar_ne_nil
  | cons byte others =>
      rw [shape, List.cons_append] at decoded
      rw [shape, List.length_cons] at size
      have length : character.utf8Size - 1 = others.length := by omega
      rw [List.cons_append, decodeFrom, decoded]
      simp only
      rw [decodeFrom_eq_drop, length, List.drop_left]

theorem decodeFrom_encode (characters : List Char) :
    decodeFrom 0 (Utf8.encode characters) = characters := by
  induction characters with
  | nil => rfl
  | cons character rest ih =>
      rw [encode_cons, decodeFrom_encoded, ih]

theorem encode_decodeFrom_eq_iff (bytes : List UInt8) :
    Utf8.encode (decodeFrom 0 bytes) = bytes ↔ Valid bytes := by
  constructor
  · intro same
    exact ⟨_, same.symm⟩
  · rintro ⟨characters, rfl⟩
    rw [decodeFrom_encode]

theorem byteOrderMark_encoded :
    String.utf8EncodeChar '\uFEFF' = byteOrderMark := by
  decide

/-- Bytes are written back as they were read exactly when they are UTF-8
without a byte order mark. -/
theorem encode_decode_eq_iff (bytes : List UInt8) :
    encode (decode bytes) = bytes ↔
      Valid bytes ∧ ¬ byteOrderMark <+: bytes := by
  unfold encode decode
  by_cases marked : byteOrderMark <+: bytes
  · rw [if_pos marked]
    refine iff_of_false (fun same => ?_) (fun both => both.2 marked)
    obtain ⟨rest, rfl⟩ := marked
    rw [List.drop_left] at same
    have read : decodeFrom 0 (byteOrderMark ++ rest) =
        '\uFEFF' :: decodeFrom 0 rest := by
      rw [← byteOrderMark_encoded]
      exact decodeFrom_encoded _ _
    have written := (encode_decodeFrom_eq_iff _).mpr ⟨_, same.symm⟩
    rw [read, encode_cons, byteOrderMark_encoded, same] at written
    have lengths := congrArg List.length written
    rw [List.length_append] at lengths
    have positive : 0 < byteOrderMark.length := by decide
    omega
  · rw [if_neg marked, encode_decodeFrom_eq_iff]
    exact (and_iff_left marked).symm

theorem decode_encode {characters : List Char}
    (unmarked : characters.head? ≠ some '\uFEFF') :
    decode (encode characters) = characters := by
  have plain : ¬ byteOrderMark <+: encode characters := by
    rintro ⟨rest, split⟩
    have read := decodeFrom_encode characters
    rw [← encode, ← split, ← byteOrderMark_encoded,
      decodeFrom_encoded] at read
    exact unmarked (by rw [← read]; rfl)
  rw [decode, if_neg plain]
  exact decodeFrom_encode characters

end GravitPanel.TextDecoder
