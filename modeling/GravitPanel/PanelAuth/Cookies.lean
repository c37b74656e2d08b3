import GravitPanel.Core.PercentEncoding

/-!
# Cookies

`parseCookie` and `serializeCookie` of `panel-auth.service.ts`, on strings of
UTF-16 code units.  A cookie that was written is read back whatever other
cookies stand before and after it.  The parser throws exactly if the first
cookie of the name has percent signs that are no escapes of characters.
-/

namespace GravitPanel.PanelAuth

open PercentEncoding

def literal (text : String) : List Nat :=
  utf16 text.toList

def semicolon : Nat := 59

def equalsSign : Nat := 61

/-- The error of `decodeURIComponent` and `encodeURIComponent`. -/
inductive UriError where
  | malformed
  deriving DecidableEq, Repr

def isWhiteSpace (unit : Nat) : Bool :=
  JavaScript.isWhiteSpace (Char.ofNat unit)

def trim (text : List Nat) : List Nat :=
  ((text.dropWhile isWhiteSpace).reverse.dropWhile isWhiteSpace).reverse

/-- `part.trim().startsWith(name + '=')`. -/
def hasName (name part : List Nat) : Bool :=
  (name ++ [equalsSign]).isPrefixOf (trim part)

/-- The text behind the name and the equals sign. -/
def cookieValue (name part : List Nat) : List Nat :=
  (trim part).drop (name.length + 1)

def parseCookie (header : Option (List Nat)) (name : List Nat) :
    Except UriError (Option (List Nat)) :=
  match header with
  | none => .ok none
  | some text =>
      if text = [] then
        .ok none
      else
        match (text.splitOn semicolon).find? (hasName name) with
        | none => .ok none
        | some entry =>
            match decodeURIComponent (cookieValue name entry) with
            | none => .error .malformed
            | some value => .ok (some value)

structure CookieOptions where
  maxAgeSeconds : Nat
  secure : Bool
  path : Option (List Nat)
  deriving DecidableEq, Repr

def serializeCookie (name value : List Nat) (options : CookieOptions) :
    Except UriError (List Nat) :=
  match encodeURIComponent value with
  | none => .error .malformed
  | some encoded =>
      .ok ((literal "; ").intercalate
        ([name ++ equalsSign :: encoded,
          literal "Path=" ++ options.path.getD (literal "/"),
          literal "HttpOnly",
          literal "SameSite=Lax",
          literal ("Max-Age=" ++ toString options.maxAgeSeconds)] ++
            if options.secure then [literal "Secure"] else []))

def cookiePair (cookie : List Nat) : List Nat :=
  cookie.takeWhile (· ≠ semicolon)

/-- The letters, digits and marks of a cookie's name. -/
def isTokenUnit (unit : Nat) : Bool :=
  (65 ≤ unit && unit ≤ 90) || (97 ≤ unit && unit ≤ 122) ||
    (48 ≤ unit && unit ≤ 57) || unit ∈ literal "!#$%&'*+-.^_`|~"

/-- A header with the pair of a cookie among others, of which none before it
has the name. -/
structure Contains (header : Option (List Nat)) (name pair : List Nat)
    (before after : List (List Nat)) (left right : List Nat) : Prop where
  text :
    header = some
      ([semicolon].intercalate (before ++ (left ++ pair ++ right) :: after))
  spaces : (left ++ right).all isWhiteSpace = true
  parts : ∀ part ∈ before ++ after, semicolon ∉ part
  others : ∀ part ∈ before, hasName name part = false

/-- What is asked of a header and a name: the parser does not throw, and a
well-formed value that was written comes back. -/
structure CodecHolds (header : Option (List Nat)) (name : List Nat) :
    Prop where
  total : parseCookie header name ≠ .error .malformed
  returns :
    ∀ (value : List Char) (options : CookieOptions),
      name.all isTokenUnit = true →
        ∃ cookie, serializeCookie name (utf16 value) options = .ok cookie ∧
          ∀ before after left right,
            Contains header name (cookiePair cookie) before after left right →
              parseCookie header name = .ok (some (utf16 value))

/-- The value of the first cookie of the name, if there is one, is made of code
units other than percent signs and of escapes of characters. -/
def NamedValueReadable (header : Option (List Nat)) (name : List Nat) : Prop :=
  ∀ text before part after,
    header = some text → text.splitOn semicolon = before ++ part :: after →
      (∀ other ∈ before, hasName name other = false) →
        hasName name part = true →
          ∃ decoded, Escaped (cookieValue name part) decoded

/-- The code units between an exclamation mark and a tilde. -/
def Visible (unit : Nat) : Prop :=
  33 ≤ unit ∧ unit ≤ 126

theorem isWhiteSpace_of_visible {unit : Nat} (visible : Visible unit) :
    isWhiteSpace unit = false := by
  have small : ∀ code < 127, 33 ≤ code → isWhiteSpace code = false := by
    decide
  exact small unit (Nat.lt_succ_of_le visible.2) visible.1

theorem visible_of_isTokenUnit {unit : Nat} (token : isTokenUnit unit = true) :
    Visible unit ∧ unit ≠ semicolon := by
  have marks : ∀ mark ∈ literal "!#$%&'*+-.^_`|~",
      (33 ≤ mark ∧ mark ≤ 126) ∧ mark ≠ semicolon := by
    decide
  rw [isTokenUnit, Bool.or_eq_true] at token
  rcases token with letters | mark
  · simp only [Bool.or_eq_true, Bool.and_eq_true, decide_eq_true_eq] at letters
    rw [Visible, semicolon]
    omega
  · exact marks unit (of_decide_eq_true mark)

theorem visible_of_isUnreserved {unit : Nat}
    (kept : isUnreserved unit = true) :
    Visible unit ∧ unit ≠ semicolon := by
  have marks : ∀ mark ∈ "-_.!~*'()".toList.map Char.toNat,
      (33 ≤ mark ∧ mark ≤ 126) ∧ mark ≠ semicolon := by
    decide
  rw [isUnreserved, Bool.or_eq_true] at kept
  rcases kept with letters | mark
  · simp only [Bool.or_eq_true, Bool.and_eq_true, decide_eq_true_eq] at letters
    rw [Visible, semicolon]
    omega
  · exact marks unit (of_decide_eq_true mark)

theorem visible_of_mem_encoded {characters : List Char} {unit : Nat}
    (member : unit ∈ characters.flatMap encodeChar) :
    Visible unit ∧ unit ≠ semicolon := by
  obtain ⟨character, _, place⟩ := List.mem_flatMap.mp member
  rcases mem_encodeChar place with kept | same
  · exact visible_of_isUnreserved kept
  · rw [same]
    exact ⟨⟨by decide, by decide⟩, by decide⟩

theorem visible_of_mem_pair {name : List Nat} {characters : List Char}
    {unit : Nat} (tokens : name.all isTokenUnit = true)
    (member :
      unit ∈ name ++ equalsSign :: characters.flatMap encodeChar) :
    Visible unit ∧ unit ≠ semicolon := by
  rcases List.mem_append.mp member with inName | inRest
  · exact visible_of_isTokenUnit (List.all_eq_true.mp tokens unit inName)
  · rcases List.mem_cons.mp inRest with same | inValue
    · rw [same]
      exact ⟨⟨by decide, by decide⟩, by decide⟩
    · exact visible_of_mem_encoded inValue

theorem dropWhile_of_head {units : List Nat}
    (first : ∀ unit ∈ units, isWhiteSpace unit = false) :
    units.dropWhile isWhiteSpace = units := by
  cases units with
  | nil => rfl
  | cons unit rest =>
      rw [List.dropWhile_cons, first unit List.mem_cons_self,
        if_neg Bool.false_ne_true]

theorem dropWhile_spaces {spaces : List Nat}
    (white : spaces.all isWhiteSpace = true) (rest : List Nat) :
    (spaces ++ rest).dropWhile isWhiteSpace = rest.dropWhile isWhiteSpace :=
  List.dropWhile_append_of_pos (List.all_eq_true.mp white)

theorem trim_between {left middle right : List Nat}
    (white : (left ++ right).all isWhiteSpace = true)
    (visible : ∀ unit ∈ middle, isWhiteSpace unit = false)
    (some_unit : middle ≠ []) :
    trim (left ++ middle ++ right) = middle := by
  rw [List.all_append, Bool.and_eq_true] at white
  have front : (middle ++ right).dropWhile isWhiteSpace = middle ++ right := by
    cases middle with
    | nil => exact absurd rfl some_unit
    | cons unit rest =>
        rw [List.cons_append, List.dropWhile_cons,
          visible unit List.mem_cons_self, if_neg Bool.false_ne_true]
  have back : right.reverse.all isWhiteSpace = true := by
    rw [List.all_reverse]
    exact white.2
  have shown : ∀ unit ∈ middle.reverse, isWhiteSpace unit = false :=
    fun unit member => visible unit (List.mem_reverse.mp member)
  rw [trim, List.append_assoc, dropWhile_spaces white.1, front,
    List.reverse_append, dropWhile_spaces back, dropWhile_of_head shown,
    List.reverse_reverse]

theorem parseCookie_first {text name part : List Nat}
    {before after : List (List Nat)}
    (split : text.splitOn semicolon = before ++ part :: after)
    (others : ∀ other ∈ before, hasName name other = false)
    (named : hasName name part = true) :
    parseCookie (some text) name =
      match decodeURIComponent (cookieValue name part) with
      | none => .error .malformed
      | some value => .ok (some value) := by
  have present : text ≠ [] := by
    rintro rfl
    have single : ([] : List Nat).splitOn semicolon = [[]] := rfl
    rw [single] at split
    cases before with
    | nil =>
        cases split
        cases name with
        | nil => cases named
        | cons unit rest => cases named
    | cons first rest =>
        have shorter := congrArg List.length split
        simp only [List.length_cons, List.length_append,
          List.length_nil] at shorter
        omega
  have none_before : before.find? (hasName name) = none := by
    refine List.find?_eq_none.mpr fun other member => ?_
    rw [others other member]
    exact Bool.false_ne_true
  have found : (text.splitOn semicolon).find? (hasName name) = some part := by
    rw [split, List.find?_append, none_before, Option.none_or,
      List.find?_cons_of_pos named]
  rw [parseCookie, if_neg present, found]

theorem parseCookie_ne_error_iff (header : Option (List Nat))
    (name : List Nat) :
    parseCookie header name ≠ .error .malformed ↔
      NamedValueReadable header name := by
  constructor
  · rintro total text before part after rfl split others named
    rw [parseCookie_first split others named] at total
    cases read : decodeURIComponent (cookieValue name part) with
    | none =>
        rw [read] at total
        exact absurd rfl total
    | some decoded => exact ⟨decoded, decodeURIComponent_eq_some_iff.mp read⟩
  · intro readable failed
    cases header with
    | none => cases failed
    | some text =>
        cases found : (text.splitOn semicolon).find? (hasName name) with
        | none =>
            rw [parseCookie, found] at failed
            by_cases empty : text = []
            · rw [if_pos empty] at failed
              cases failed
            · rw [if_neg empty] at failed
              cases failed
        | some part =>
            obtain ⟨named, before, after, split, others⟩ :=
              List.find?_eq_some_iff_append.mp found
            have apart : ∀ other ∈ before, hasName name other = false := by
              intro other member
              have negated := others other member
              rwa [Bool.not_eq_true'] at negated
            obtain ⟨decoded, escaped⟩ :=
              readable text before part after rfl split apart named
            rw [parseCookie_first split apart named,
              decodeURIComponent_eq_some_iff.mpr escaped] at failed
            cases failed

theorem intercalate_first (pair next : List Nat) (rest : List (List Nat)) :
    ∃ attributes,
      (literal "; ").intercalate (pair :: next :: rest) =
        pair ++ semicolon :: attributes := by
  have separator : literal "; " = [semicolon, 32] := by decide
  refine ⟨32 :: (literal "; ").intercalate (next :: rest), ?_⟩
  rw [List.intercalate_cons_cons, separator, List.append_assoc]
  rfl

theorem serializeCookie_utf16 (name : List Nat) (value : List Char)
    (options : CookieOptions) :
    ∃ attributes,
      serializeCookie name (utf16 value) options =
        .ok (name ++ equalsSign :: value.flatMap encodeChar ++
          semicolon :: attributes) := by
  rw [serializeCookie, encodeURIComponent_utf16]
  obtain ⟨attributes, shape⟩ :=
    intercalate_first (name ++ equalsSign :: value.flatMap encodeChar)
      (literal "Path=" ++ options.path.getD (literal "/"))
      ([literal "HttpOnly", literal "SameSite=Lax",
        literal ("Max-Age=" ++ toString options.maxAgeSeconds)] ++
          if options.secure then [literal "Secure"] else [])
  exact ⟨attributes, congrArg Except.ok shape⟩

theorem cookiePair_of_visible {pair attributes : List Nat}
    (visible : ∀ unit ∈ pair, Visible unit ∧ unit ≠ semicolon) :
    cookiePair (pair ++ semicolon :: attributes) = pair := by
  rw [cookiePair, List.takeWhile_append_of_pos]
  · simp
  · intro unit member
    exact decide_eq_true (visible unit member).2

/-- A value that was written comes back from every header that contains the
pair. -/
theorem parseCookie_of_contains {header : Option (List Nat)}
    {name : List Nat} {value : List Char} {before after : List (List Nat)}
    {left right : List Nat} (tokens : name.all isTokenUnit = true)
    (contains :
      Contains header name (name ++ equalsSign :: value.flatMap encodeChar)
        before after left right) :
    parseCookie header name = .ok (some (utf16 value)) := by
  have visible : ∀ unit ∈ name ++ equalsSign :: value.flatMap encodeChar,
      Visible unit ∧ unit ≠ semicolon :=
    fun unit member => visible_of_mem_pair tokens member
  have trimmed := trim_between contains.spaces
    (fun unit member => isWhiteSpace_of_visible (visible unit member).1)
    (List.append_ne_nil_of_right_ne_nil _ (List.cons_ne_nil _ _))
  have whole : name ++ equalsSign :: value.flatMap encodeChar =
      name ++ [equalsSign] ++ value.flatMap encodeChar := by
    rw [List.append_assoc]
    rfl
  have named : hasName name
      (left ++ (name ++ equalsSign :: value.flatMap encodeChar) ++ right) =
        true := by
    rw [hasName, trimmed, List.isPrefixOf_iff_prefix, whole]
    exact List.prefix_append _ _
  have stored : cookieValue name
      (left ++ (name ++ equalsSign :: value.flatMap encodeChar) ++ right) =
        value.flatMap encodeChar := by
    rw [cookieValue, trimmed, whole,
      show name.length + 1 = (name ++ [equalsSign]).length by simp,
      List.drop_left]
  have apart : ∀ part ∈
      before ++ (left ++ (name ++ equalsSign :: value.flatMap encodeChar) ++
        right) :: after, semicolon ∉ part := by
    intro part member
    rcases List.mem_append.mp member with early | late
    · exact contains.parts part (List.mem_append_left _ early)
    · rcases List.mem_cons.mp late with same | later
      · rw [same]
        intro inside
        have spaces := List.all_eq_true.mp contains.spaces
        have dark : isWhiteSpace semicolon = false := by decide
        rcases List.mem_append.mp inside with front | back
        · rcases List.mem_append.mp front with space | middle
          · rw [spaces _ (List.mem_append_left _ space)] at dark
            cases dark
          · exact (visible _ middle).2 rfl
        · rw [spaces _ (List.mem_append_right _ back)] at dark
          cases dark
      · exact contains.parts part (List.mem_append_right _ later)
  have split := List.splitOn_intercalate semicolon apart
    (List.append_ne_nil_of_right_ne_nil _ (List.cons_ne_nil _ _))
  rw [contains.text, parseCookie_first split contains.others named, stored,
    decodeURIComponent_eq_some_iff.mpr (escaped_encodeChars value)]

/-- The codec does what is asked of it exactly if the first cookie of the name
is readable. -/
theorem codecHolds_iff (header : Option (List Nat)) (name : List Nat) :
    CodecHolds header name ↔ NamedValueReadable header name := by
  constructor
  · intro codec
    exact (parseCookie_ne_error_iff header name).mp codec.total
  · intro readable
    refine ⟨(parseCookie_ne_error_iff header name).mpr readable, ?_⟩
    intro value options tokens
    obtain ⟨attributes, written⟩ := serializeCookie_utf16 name value options
    refine ⟨_, written, ?_⟩
    intro before after left right contains
    rw [cookiePair_of_visible fun unit member =>
      visible_of_mem_pair tokens member] at contains
    exact parseCookie_of_contains tokens contains

/-- A percent sign alone in the cookie of the name. -/
theorem malformed_cookie_throws :
    ¬ CodecHolds (some (literal "a=1; session=%; b=2")) (literal "session") := by
  intro codec
  apply codec.total
  decide +kernel

end GravitPanel.PanelAuth
