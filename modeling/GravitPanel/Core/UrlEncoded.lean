import GravitPanel.Core.PercentEncoding
import GravitPanel.Core.TextDecoder

/-!
# `application/x-www-form-urlencoded`

The parser and the serializer behind `URLSearchParams`.  A query of a URL is
ASCII, so its code units are its bytes.  Every list of pairs is read back as it
was written.
-/

namespace GravitPanel.UrlEncoded

open PercentEncoding

def ampersand : Nat := 38

def equalsSign : Nat := 61

def plus : Nat := 43

/-- A name with its value. -/
abbrev Parameter : Type := List Char × List Char

/-- The letters, digits and marks that the serializer leaves. -/
def isKept (unit : Nat) : Bool :=
  (65 ≤ unit && unit ≤ 90) || (97 ≤ unit && unit ≤ 122) ||
    (48 ≤ unit && unit ≤ 57) || unit ∈ "*-._".toList.map Char.toNat

def encodeByte (byte : UInt8) : List Nat :=
  if byte = 0x20 then [plus]
  else if isKept byte.toNat then [byte.toNat]
  else escapeByte byte

def encodeText (text : List Char) : List Nat :=
  (Utf8.encode text).flatMap encodeByte

def encodeParameter (parameter : Parameter) : List Nat :=
  encodeText parameter.1 ++ equalsSign :: encodeText parameter.2

def serialize (parameters : List Parameter) : List Nat :=
  [ampersand].intercalate (parameters.map encodeParameter)

/-- Bytes with their escapes replaced; `skip` counts the digits of the escape
read last. -/
def percentDecode : Nat → List Nat → List UInt8
  | _, [] => []
  | skip + 1, _ :: rest => percentDecode skip rest
  | 0, unit :: rest =>
      match escapedByte (unit :: rest) with
      | some (byte, _) => byte :: percentDecode 2 rest
      | none => UInt8.ofNat unit :: percentDecode 0 rest

def plusToSpace (unit : Nat) : Nat :=
  if unit = plus then 0x20 else unit

/-- The text of a name or a value, without a search for a byte order mark. -/
def decodeText (units : List Nat) : List Char :=
  TextDecoder.decodeFrom 0 (percentDecode 0 (units.map plusToSpace))

def decodeParameter (units : List Nat) : Parameter :=
  (decodeText (units.takeWhile (· ≠ equalsSign)),
    decodeText ((units.dropWhile (· ≠ equalsSign)).drop 1))

def parse (query : List Nat) : List Parameter :=
  ((query.splitOn ampersand).filter (· ≠ [])).map decodeParameter

/-- The code units of a name or a value that was written. -/
def isWritten (unit : Nat) : Bool :=
  isKept unit || unit = plus || unit = percent

theorem isKept_bounds {unit : Nat} (kept : isKept unit = true) :
    unit < 128 ∧ unit ≠ plus ∧ unit ≠ percent := by
  have marks : ∀ mark ∈ "*-._".toList.map Char.toNat,
      mark < 128 ∧ mark ≠ plus ∧ mark ≠ percent := by
    decide
  rw [isKept, Bool.or_eq_true] at kept
  rcases kept with letters | mark
  · simp only [Bool.or_eq_true, Bool.and_eq_true, decide_eq_true_eq] at letters
    rw [plus, percent]
    omega
  · exact marks unit (of_decide_eq_true mark)

theorem isKept_hexDigit {value : Nat} (small : value < 16) :
    isKept (hexDigit value) = true := by
  have digits : ∀ value < 16, isKept (hexDigit value) = true := by
    decide
  exact digits value small

theorem mem_escapeByte {byte : UInt8} {unit : Nat}
    (member : unit ∈ escapeByte byte) :
    unit = percent ∨ isKept unit = true := by
  have bound := UInt8.toNat_lt byte
  rw [escapeByte, List.mem_cons, List.mem_cons, List.mem_singleton] at member
  rcases member with same | same | same
  · exact Or.inl same
  · rw [same]
    exact Or.inr (isKept_hexDigit (by omega))
  · rw [same]
    exact Or.inr (isKept_hexDigit (by omega))

theorem isWritten_of_mem_encodeText {text : List Char} {unit : Nat}
    (member : unit ∈ encodeText text) : isWritten unit = true := by
  rw [encodeText, List.mem_flatMap] at member
  obtain ⟨byte, _, place⟩ := member
  rw [isWritten]
  rw [encodeByte] at place
  by_cases space : byte = 0x20
  · rw [if_pos space, List.mem_singleton] at place
    simp [place]
  · rw [if_neg space] at place
    by_cases kept : isKept byte.toNat = true
    · rw [if_pos kept, List.mem_singleton] at place
      simp [place, kept]
    · rw [if_neg kept] at place
      rcases mem_escapeByte place with same | digit
      · simp [same]
      · simp [digit]

theorem not_written : isWritten ampersand = false ∧
    isWritten equalsSign = false := by
  decide

theorem equalsSign_not_mem_encodeText (text : List Char) :
    equalsSign ∉ encodeText text := by
  intro member
  have written := isWritten_of_mem_encodeText member
  rw [not_written.2] at written
  cases written

theorem ampersand_not_mem_encodeParameter (parameter : Parameter) :
    ampersand ∉ encodeParameter parameter := by
  have absent : ∀ text, ampersand ∉ encodeText text := by
    intro text member
    have written := isWritten_of_mem_encodeText member
    rw [not_written.1] at written
    cases written
  rw [encodeParameter, List.mem_append, List.mem_cons]
  rintro (name | same | value)
  · exact absent _ name
  · cases same
  · exact absent _ value

theorem mem_serialize {parameters : List Parameter} {unit : Nat}
    (member : unit ∈ serialize parameters) :
    isWritten unit = true ∨ unit = ampersand ∨ unit = equalsSign := by
  refine @JavaScript.forall_mem_intercalate _
    (fun unit => isWritten unit = true ∨ unit = ampersand ∨ unit = equalsSign)
    ampersand (Or.inr (Or.inl rfl)) (parameters.map encodeParameter) ?_ _
    member
  intro part place letter member
  obtain ⟨parameter, _, rfl⟩ := List.mem_map.mp place
  rw [encodeParameter, List.mem_append, List.mem_cons] at member
  rcases member with name | same | value
  · exact Or.inl (isWritten_of_mem_encodeText name)
  · exact Or.inr (Or.inr same)
  · exact Or.inl (isWritten_of_mem_encodeText value)

theorem percentDecode_eq_drop (skip : Nat) (units : List Nat) :
    percentDecode skip units = percentDecode 0 (units.drop skip) := by
  induction units generalizing skip with
  | nil => cases skip <;> rfl
  | cons unit rest ih =>
      cases skip with
      | zero => rfl
      | succ skip => exact ih skip

theorem percentDecode_escapeByte (byte : UInt8) (rest : List Nat) :
    percentDecode 0 (escapeByte byte ++ rest) =
      byte :: percentDecode 0 rest := by
  have read := escapedByte_escapeByte byte rest
  rw [escapeByte, List.cons_append, List.cons_append, List.singleton_append]
    at read ⊢
  rw [percentDecode, read]
  exact congrArg (byte :: ·) (percentDecode_eq_drop 2 _)

theorem percentDecode_plain {unit : Nat} (plain : unit ≠ percent)
    (rest : List Nat) :
    percentDecode 0 (unit :: rest) =
      UInt8.ofNat unit :: percentDecode 0 rest := by
  have unread : escapedByte (unit :: rest) = none := by
    refine Option.eq_none_iff_forall_ne_some.mpr fun found read => ?_
    obtain ⟨high, low, shape, _⟩ := escapedByte_eq_some.mp read
    exact plain (List.cons_eq_cons.mp shape).1
  rw [percentDecode, unread]

theorem map_plusToSpace_escapeByte (byte : UInt8) :
    (escapeByte byte).map plusToSpace = escapeByte byte := by
  have kept : ∀ unit ∈ escapeByte byte, plusToSpace unit = unit := by
    intro unit member
    refine if_neg fun same => ?_
    rcases mem_escapeByte member with sign | digit
    · rw [sign] at same
      cases same
    · exact (isKept_bounds digit).2.1 same
  rw [List.map_congr_left kept, List.map_id']

theorem percentDecode_encodeByte (byte : UInt8) (rest : List Nat) :
    percentDecode 0 ((encodeByte byte).map plusToSpace ++ rest) =
      byte :: percentDecode 0 rest := by
  rw [encodeByte]
  by_cases space : byte = 0x20
  · rw [if_pos space, space]
    exact percentDecode_plain (by decide) rest
  · rw [if_neg space]
    by_cases kept : isKept byte.toNat = true
    · obtain ⟨_, noPlus, noPercent⟩ := isKept_bounds kept
      rw [if_pos kept, List.map_singleton, plusToSpace, if_neg noPlus,
        List.singleton_append, percentDecode_plain noPercent,
        UInt8.ofNat_toNat]
    · rw [if_neg kept, map_plusToSpace_escapeByte, percentDecode_escapeByte]

theorem decodeText_encodeText (text : List Char) :
    decodeText (encodeText text) = text := by
  have bytes : ∀ bytes : List UInt8,
      percentDecode 0 ((bytes.flatMap encodeByte).map plusToSpace) =
        bytes := by
    intro bytes
    induction bytes with
    | nil => rfl
    | cons byte rest ih =>
        rw [List.flatMap_cons, List.map_append, percentDecode_encodeByte,
          ih]
  rw [decodeText, encodeText, bytes, TextDecoder.decodeFrom_encode]

theorem decodeParameter_encodeParameter (parameter : Parameter) :
    decodeParameter (encodeParameter parameter) = parameter := by
  have name : ∀ unit ∈ encodeText parameter.1,
      decide (unit ≠ equalsSign) = true := by
    intro unit member
    refine decide_eq_true fun same => ?_
    rw [same] at member
    exact equalsSign_not_mem_encodeText _ member
  rw [decodeParameter, encodeParameter, List.takeWhile_append_of_pos name,
    List.dropWhile_append_of_pos name, List.takeWhile_cons_of_neg (by simp),
    List.dropWhile_cons_of_neg (by simp), List.append_nil,
    List.drop_one, List.tail_cons, decodeText_encodeText,
    decodeText_encodeText]

theorem parse_serialize (parameters : List Parameter) :
    parse (serialize parameters) = parameters := by
  rw [parse, serialize]
  cases parameters with
  | nil => rfl
  | cons parameter rest =>
      rw [List.splitOn_intercalate, List.filter_eq_self.mpr, List.map_map]
      · refine List.map_id'' (fun written => ?_) _
        exact decodeParameter_encodeParameter written
      · intro part place
        obtain ⟨written, _, rfl⟩ := List.mem_map.mp place
        simp [encodeParameter]
      · intro part place
        obtain ⟨written, _, rfl⟩ := List.mem_map.mp place
        exact ampersand_not_mem_encodeParameter written
      · exact List.cons_ne_nil _ _

theorem serialize_eq_nil_iff {parameters : List Parameter} :
    serialize parameters = [] ↔ parameters = [] := by
  constructor
  · intro empty
    have read := parse_serialize parameters
    rw [empty] at read
    exact read.symm
  · rintro rfl
    rfl

end GravitPanel.UrlEncoded
