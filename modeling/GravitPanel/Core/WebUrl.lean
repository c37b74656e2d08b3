import GravitPanel.Core.UrlEncoded
import Mathlib.Data.List.DropRight

/-!
# URLs of the web

The basic URL parser of the URL standard for a text that is resolved against
an `http` or `https` URL, or one of another scheme with an authority, and
`URLSearchParams` behind such a URL.  Hosts, and texts that begin with a scheme,
are left to the platform.
-/

namespace GravitPanel.WebUrl

open PercentEncoding

/-- The code units of an ASCII text. -/
def ascii (text : String) : List Nat :=
  text.toList.map Char.toNat

/-- The characters of a string, with U+FFFD for the half of a surrogate pair
that stands alone; `skip` counts the code units that are read already. -/
def scalarsFrom : Nat → List Nat → List Char
  | _, [] => []
  | skip + 1, _ :: rest => scalarsFrom skip rest
  | 0, unit :: rest =>
      match codePointAt (unit :: rest) with
      | some character =>
          character :: scalarsFrom ((charUnits character).length - 1) rest
      | none => '\uFFFD' :: scalarsFrom 0 rest

def scalars (text : List Nat) : List Char :=
  scalarsFrom 0 text

/-- The schemes whose URLs have an authority, but for `file`. -/
inductive Scheme where
  | ftp | http | https | ws | wss
  deriving DecidableEq, Repr

def Scheme.name : Scheme → List Nat
  | .ftp => ascii "ftp"
  | .http => ascii "http"
  | .https => ascii "https"
  | .ws => ascii "ws"
  | .wss => ascii "wss"

def Scheme.defaultPort : Scheme → Nat
  | .ftp => 21
  | .http | .ws => 80
  | .https | .wss => 443

/-- A URL but for its credentials, which nothing reads. -/
structure Url where
  scheme : Scheme
  host : List Nat
  port : Option Nat
  path : List (List Nat)
  query : Option (List Nat)
  fragment : Option (List Nat)
  deriving DecidableEq, Repr

namespace Url

def origin (url : Url) : List Nat :=
  url.scheme.name ++ ascii "://" ++ url.host ++
    match url.port with
    | none => []
    | some port => ascii (":" ++ toString port)

def pathname (url : Url) : List Nat :=
  url.path.flatMap (47 :: ·)

def search (url : Url) : List Nat :=
  match url.query with
  | none | some [] => []
  | some query => 63 :: query

def hash (url : Url) : List Nat :=
  match url.fragment with
  | none | some [] => []
  | some fragment => 35 :: fragment

end Url

/-- What the platform does with a host, and with a text that begins with a
scheme. -/
structure Platform where
  parseHost : List Char → Option (List Nat)
  parseAbsolute : Url → List Char → Option Url

def isControl (character : Char) : Bool :=
  character.toNat < 0x20 || 0x7E < character.toNat

/-- The percent-encode set of a query, which has the apostrophe too. -/
def inQuerySet (character : Char) : Bool :=
  isControl character ||
    character ∈ [' ', '\x22', '#', '<', '>', '\x27']

def inPathSet (character : Char) : Bool :=
  isControl character ||
    character ∈
      [' ', '\x22', '#', '<', '>', '?', '^', '\x60', '\x7b', '\x7d']

def inFragmentSet (character : Char) : Bool :=
  isControl character || character ∈ [' ', '\x22', '<', '>', '\x60']

def percentEncode (inSet : Char → Bool) (character : Char) : List Nat :=
  if inSet character then
    (String.utf8EncodeChar character).flatMap escapeByte
  else
    [character.toNat]

def isControlOrSpace (character : Char) : Bool :=
  character.toNat ≤ 0x20

def isTabOrNewline (character : Char) : Bool :=
  character = '\t' || character = '\n' || character = '\r'

/-- The text without control characters and spaces at its ends, and without
tabs and newlines. -/
def clean (text : List Char) : List Char :=
  ((text.dropWhile isControlOrSpace).rdropWhile isControlOrSpace).filter
    (!isTabOrNewline ·)

def isSchemeCharacter (character : Char) : Bool :=
  character.isAlphanum || character = '+' || character = '-' ||
    character = '.'

/-- Does a letter with scheme characters and a colon begin the text? -/
def beginsWithScheme : List Char → Bool
  | [] => false
  | first :: rest =>
      first.isAlpha && (rest.dropWhile isSchemeCharacter).head? = some ':'

def isSlash (character : Char) : Bool :=
  character = '/' || character = '\\'

def isAuthorityEnd (character : Char) : Bool :=
  isSlash character || character = '?' || character = '#'

def readFragment (url : Url) (text : List Char) : Url :=
  { url with fragment := some (text.flatMap (percentEncode inFragmentSet)) }

def readQuery (url : Url) (text : List Char) : Url :=
  let queried :=
    { url with
      query := some
        ((text.takeWhile (· ≠ '#')).flatMap (percentEncode inQuerySet)) }
  match text.dropWhile (· ≠ '#') with
  | [] => queried
  | _ :: rest => readFragment queried rest

def lowerUnit (unit : Nat) : Nat :=
  if 65 ≤ unit ∧ unit ≤ 90 then unit + 32 else unit

instance instLawfulBEqListNat : LawfulBEq (List Nat) :=
  inferInstance

def isSingleDot (segment : List Nat) : Bool :=
  segment.map lowerUnit ∈ [ascii ".", ascii "%2e"]

def isDoubleDot (segment : List Nat) : Bool :=
  segment.map lowerUnit ∈
    [ascii "..", ascii ".%2e", ascii "%2e.", ascii "%2e%2e"]

def enterSegment (path : List (List Nat)) (segment : List Nat) :
    List (List Nat) :=
  if isDoubleDot segment then path.dropLast
  else if isSingleDot segment then path
  else path ++ [segment]

def closeSegment (path : List (List Nat)) (segment : List Nat) :
    List (List Nat) :=
  if isDoubleDot segment then path.dropLast ++ [[]]
  else if isSingleDot segment then path ++ [[]]
  else path ++ [segment]

def pathState (path : List (List Nat)) (buffer : List Nat) :
    List Char → List (List Nat) × List Char
  | [] => (closeSegment path buffer, [])
  | character :: rest =>
      if isSlash character then
        pathState (enterSegment path buffer) [] rest
      else if character = '?' ∨ character = '#' then
        (closeSegment path buffer, character :: rest)
      else
        pathState path (buffer ++ percentEncode inPathSet character) rest

def readPath (url : Url) (text : List Char) : Url :=
  let read := pathState url.path [] text
  let parsed := { url with path := read.1 }
  match read.2 with
  | [] => parsed
  | sign :: rest =>
      if sign = '?' then readQuery parsed rest else readFragment parsed rest

def readPathStart (url : Url) : List Char → Url
  | [] => readPath url []
  | first :: rest =>
      if isSlash first then readPath url rest else readPath url (first :: rest)

/-- The text up to the first colon that is not between brackets, and what
follows the colon. -/
def splitHost : Bool → List Char → List Char × Option (List Char)
  | _, [] => ([], none)
  | inside, character :: rest =>
      if character = ':' && !inside then
        ([], some rest)
      else
        let within :=
          if character = '[' then true
          else if character = ']' then false
          else inside
        let split := splitHost within rest
        (character :: split.1, split.2)

/-- The port of a scheme's URL; the inner `none` is the default port. -/
def readPort (scheme : Scheme) : Option (List Char) → Option (Option Nat)
  | none => some none
  | some digits =>
      if digits.all Char.isDigit = false then
        none
      else if digits = [] then
        some none
      else
        let port := digits.foldl
          (fun value digit => value * 10 + (digit.toNat - 48)) 0
        if 0xFFFF < port then none
        else if port = scheme.defaultPort then some none
        else some (some port)

/-- The text behind two slashes; credentials end at the last at sign. -/
def readAuthority (platform : Platform) (base : Url) (text : List Char) :
    Option Url := do
  let authority := text.takeWhile (!isAuthorityEnd ·)
  let split := splitHost false (authority.rtakeWhile (· ≠ '@'))
  if split.1 = [] then none
  let host ← platform.parseHost split.1
  let port ← readPort base.scheme split.2
  return readPathStart
    { base with host, port, path := [], query := none, fragment := none }
    (text.dropWhile (!isAuthorityEnd ·))

/-- The text behind the first slash. -/
def relativeSlash (platform : Platform) (base : Url) :
    List Char → Option Url
  | [] =>
      some (readPath
        { base with path := [], query := none, fragment := none } [])
  | first :: rest =>
      if isSlash first then
        readAuthority platform base (rest.dropWhile isSlash)
      else
        some (readPath
          { base with path := [], query := none, fragment := none }
          (first :: rest))

/-- A text that does not begin with a scheme. -/
def relative (platform : Platform) (base : Url) :
    List Char → Option Url
  | [] => some { base with fragment := none }
  | first :: rest =>
      if isSlash first then
        relativeSlash platform base rest
      else if first = '?' then
        some (readQuery { base with fragment := none } rest)
      else if first = '#' then
        some (readFragment base rest)
      else
        some (readPath
          { base with
            path := base.path.dropLast, query := none, fragment := none }
          (first :: rest))

/-- `new URL(text, base)`, where `none` is the `TypeError`. -/
def resolve (platform : Platform) (base : Url) (text : List Nat) :
    Option Url :=
  let input := clean (scalars text)
  if beginsWithScheme input then
    platform.parseAbsolute base input
  else
    relative platform base input

namespace Url

def searchParams (url : Url) : List UrlEncoded.Parameter :=
  UrlEncoded.parse (url.query.getD [])

/-- The update steps of `URLSearchParams`. -/
def withParameters (url : Url) (parameters : List UrlEncoded.Parameter) :
    Url :=
  let query := UrlEncoded.serialize parameters
  { url with query := if query = [] then none else some query }

/-- `url.searchParams.delete(name)`. -/
def deleteParameter (url : Url) (name : List Char) : Url :=
  url.withParameters (url.searchParams.filter (·.1 ≠ name))

/-- The first parameter of the name gets the value, and the others go. -/
def replaceFirst (name value : List Char) :
    List UrlEncoded.Parameter → List UrlEncoded.Parameter
  | [] => [(name, value)]
  | parameter :: rest =>
      if parameter.1 = name then
        (name, value) :: rest.filter (·.1 ≠ name)
      else
        parameter :: replaceFirst name value rest

/-- `url.searchParams.set(name, value)`. -/
def setParameter (url : Url) (name value : List Char) : Url :=
  url.withParameters (replaceFirst name value url.searchParams)

end Url

/-- The letters, digits and marks that a path keeps. -/
def isPathUnit (unit : Nat) : Bool :=
  (65 ≤ unit && unit ≤ 90) || (97 ≤ unit && unit ≤ 122) ||
    (48 ≤ unit && unit ≤ 57) || unit = 45 || unit = 95

def isPlainSegment (segment : List Nat) : Bool :=
  segment ≠ [] && segment.all isPathUnit

def isQueryUnit (unit : Nat) : Bool :=
  0x20 < unit && unit < 0x7F && unit ∉ [0x22, 0x23, 0x27, 0x3C, 0x3E]

variable {unit : Nat}

theorem toNat_ofNat (small : unit < 128) :
    (Char.ofNat unit).toNat = unit := by
  have table : ∀ unit < 128, (Char.ofNat unit).toNat = unit := by
    decide
  exact table unit small

theorem scalars_ascii {units : List Nat} (small : ∀ unit ∈ units, unit < 128) :
    scalars units = units.map Char.ofNat := by
  rw [scalars]
  induction units with
  | nil => rfl
  | cons unit rest ih =>
      obtain ⟨first, others⟩ := List.forall_mem_cons.mp small
      have point : codePointAt (unit :: rest) = some (Char.ofNat unit) := by
        have single : unit < 0xD800 ∨ 0xE000 ≤ unit := by omega
        cases rest with
        | nil => rw [codePointAt, if_pos single]
        | cons low more => rw [codePointAt, if_pos single]
      have one : (charUnits (Char.ofNat unit)).length = 1 := by
        rw [charUnits, toNat_ofNat first, if_pos (by omega)]
        rfl
      rw [scalarsFrom, point]
      simp only [one, List.map_cons]
      rw [ih others]

theorem lt_of_isPathUnit (plain : isPathUnit unit = true) :
    unit < 128 := by
  rw [isPathUnit] at plain
  simp only [Bool.or_eq_true, Bool.and_eq_true, decide_eq_true_eq] at plain
  omega

theorem isQueryUnit_bounds (plain : isQueryUnit unit = true) :
    0x20 < unit ∧ unit < 0x7F := by
  rw [isQueryUnit] at plain
  simp only [Bool.and_eq_true, decide_eq_true_eq] at plain
  exact plain.1

theorem path_of_isPathUnit (plain : isPathUnit unit = true) :
    isSlash (Char.ofNat unit) = false ∧
      ¬ (Char.ofNat unit = '?' ∨ Char.ofNat unit = '#') ∧
        percentEncode inPathSet (Char.ofNat unit) = [unit] ∧
          isQueryUnit unit = true := by
  have table : ∀ unit < 128, isPathUnit unit = true →
      isSlash (Char.ofNat unit) = false ∧
        ¬ (Char.ofNat unit = '?' ∨ Char.ofNat unit = '#') ∧
          inPathSet (Char.ofNat unit) = false ∧
            isQueryUnit unit = true := by
    decide
  obtain ⟨slash, ends, kept, query⟩ :=
    table unit (lt_of_isPathUnit plain) plain
  refine ⟨slash, ends, ?_, query⟩
  rw [percentEncode, kept, if_neg Bool.false_ne_true,
    toNat_ofNat (lt_of_isPathUnit plain)]

theorem query_of_isQueryUnit (plain : isQueryUnit unit = true) :
    Char.ofNat unit ≠ '#' ∧
      percentEncode inQuerySet (Char.ofNat unit) = [unit] := by
  have table : ∀ unit < 128, isQueryUnit unit = true →
      Char.ofNat unit ≠ '#' ∧ inQuerySet (Char.ofNat unit) = false := by
    decide
  have small : unit < 128 := by
    have bounds := isQueryUnit_bounds plain
    omega
  obtain ⟨noHash, kept⟩ := table unit small plain
  refine ⟨noHash, ?_⟩
  rw [percentEncode, kept, if_neg Bool.false_ne_true, toNat_ofNat small]

theorem clean_of_visible {text : List Char}
    (visible : ∀ character ∈ text, 0x20 < character.toNat) :
    clean text = text := by
  have kept : ∀ character ∈ text, isControlOrSpace character = false := by
    intro character member
    exact decide_eq_false (Nat.not_le_of_lt (visible character member))
  have inside : ∀ character ∈ text, (!isTabOrNewline character) = true := by
    intro character member
    have above := visible character member
    rw [Bool.not_eq_true', isTabOrNewline]
    simp only [Bool.or_eq_false_iff, decide_eq_false_iff_not]
    have excluded : ∀ other : Char, other.toNat ≤ 0x20 → character ≠ other := by
      intro other low same
      rw [same] at above
      exact Nat.not_lt_of_le low above
    exact ⟨⟨excluded _ (by decide), excluded _ (by decide)⟩,
      excluded _ (by decide)⟩
  have front : text.dropWhile isControlOrSpace = text := by
    refine List.dropWhile_eq_self_iff.mpr fun long => ?_
    rw [kept _ (List.getElem_mem long)]
    exact Bool.false_ne_true
  have back : text.rdropWhile isControlOrSpace = text := by
    refine List.rdropWhile_eq_self_iff.mpr fun nonempty => ?_
    rw [kept _ (List.getLast_mem nonempty)]
    exact Bool.false_ne_true
  rw [clean, front, back, List.filter_eq_self.mpr inside]

variable {segment : List Nat} {query : List Nat}

theorem pathState_segment
    (plain : segment.all isPathUnit = true) (path : List (List Nat))
    (buffer : List Nat) (rest : List Char) :
    pathState path buffer (segment.map Char.ofNat ++ rest) =
      pathState path (buffer ++ segment) rest := by
  induction segment generalizing buffer with
  | nil => rw [List.append_nil, List.map_nil, List.nil_append]
  | cons unit others ih =>
      rw [List.all_cons, Bool.and_eq_true] at plain
      obtain ⟨slash, ends, kept, _⟩ := path_of_isPathUnit plain.1
      rw [List.map_cons, List.cons_append, pathState, slash,
        if_neg Bool.false_ne_true, if_neg ends, kept,
        ih plain.2, List.append_assoc,
        List.singleton_append]

theorem plain_not_dots
    (plain : isPlainSegment segment = true) :
    isSingleDot segment = false ∧ isDoubleDot segment = false := by
  rw [isPlainSegment, Bool.and_eq_true, List.all_eq_true] at plain
  have dot : ∀ unit, lowerUnit unit = 46 → unit = 46 := by
    intro unit
    rw [lowerUnit]
    grind
  have sign : ∀ unit, lowerUnit unit = 37 → unit = 37 := by
    intro unit
    rw [lowerUnit]
    grind
  cases segment with
  | nil => cases plain.1
  | cons first others =>
      have letter := plain.2 first List.mem_cons_self
      have different : lowerUnit first ≠ 46 ∧ lowerUnit first ≠ 37 := by
        constructor
        · intro same
          rw [dot first same] at letter
          cases letter
        · intro same
          rw [sign first same] at letter
          cases letter
      have heads : ∀ form ∈
          [ascii ".", ascii "%2e", ascii "..", ascii ".%2e", ascii "%2e.",
            ascii "%2e%2e"],
          form.head? = some 46 ∨ form.head? = some 37 := by
        decide
      have absent : ∀ form, form.head? = some 46 ∨ form.head? = some 37 →
          (first :: others).map lowerUnit ≠ form := by
        rintro form heading rfl
        simp only [List.map_cons, List.head?_cons, Option.some.injEq]
          at heading
        exact heading.elim different.1 different.2
      constructor
      · refine decide_eq_false fun member => ?_
        exact absent _ (heads _ (by
          simp only [List.mem_cons] at member ⊢
          tauto)) rfl
      · refine decide_eq_false fun member => ?_
        exact absent _ (heads _ (by
          simp only [List.mem_cons] at member ⊢
          tauto)) rfl

def EndsPath (rest : List Char) : Prop :=
  rest = [] ∨ ∃ query, rest = '?' :: query

theorem pathState_segments {first : List Nat} {others : List (List Nat)}
    (plain : ∀ segment ∈ first :: others, isPlainSegment segment = true)
    (path : List (List Nat)) {rest : List Char} (ends : EndsPath rest) :
    pathState path []
        (first.map Char.ofNat ++
          ((others.flatMap (47 :: ·)).map Char.ofNat ++ rest)) =
      (path ++ first :: others, rest) := by
  induction others generalizing first path with
  | nil =>
      have own := plain first List.mem_cons_self
      obtain ⟨single, double⟩ := plain_not_dots own
      rw [isPlainSegment, Bool.and_eq_true] at own
      rw [pathState_segment own.2, List.nil_append]
      have closed : closeSegment path first = path ++ [first] := by
        rw [closeSegment, double, single]
        rfl
      rcases ends with empty | ⟨query, begins⟩
      · rw [empty]
        exact congrArg (·, []) closed
      · rw [begins]
        exact congrArg (·, '?' :: query) closed
  | cons second more ih =>
      obtain ⟨own, later⟩ := List.forall_mem_cons.mp plain
      obtain ⟨single, double⟩ := plain_not_dots own
      rw [isPlainSegment, Bool.and_eq_true] at own
      have entered : enterSegment path first = path ++ [first] := by
        rw [enterSegment, double, single]
        rfl
      rw [pathState_segment own.2, List.nil_append, List.flatMap_cons,
        List.cons_append, List.map_cons, List.cons_append, pathState,
        if_pos (by decide), entered, List.map_append, List.append_assoc,
        ih later, List.append_assoc, List.singleton_append]

theorem readQuery_plain
    (plain : query.all isQueryUnit = true) (url : Url) :
    readQuery url (query.map Char.ofNat) = { url with query := some query } := by
  rw [List.all_eq_true] at plain
  have noHash : ∀ character ∈ query.map Char.ofNat,
      decide (character ≠ '#') = true := by
    intro character member
    obtain ⟨unit, place, rfl⟩ := List.mem_map.mp member
    exact decide_eq_true (query_of_isQueryUnit (plain unit place)).1
  have kept : (query.map Char.ofNat).flatMap (percentEncode inQuerySet) =
      query := by
    rw [List.flatMap_map]
    have each := List.flatMap_congr fun unit place =>
      (query_of_isQueryUnit (plain unit place)).2
    rw [each, List.flatMap_singleton']
  rw [readQuery, List.takeWhile_eq_self_iff.mpr noHash,
    List.dropWhile_eq_nil_iff.mpr noHash, kept]

def queryOf (query : List Nat) : Option (List Nat) :=
  if query = [] then none else some query

/-- The text of a path with a query. -/
def target (segments : List (List Nat)) (query : List Nat) : List Nat :=
  segments.flatMap (47 :: ·) ++ if query = [] then [] else 63 :: query

/-- The characters of the query with its question mark. -/
def queryText (query : List Nat) : List Char :=
  (if query = [] then [] else 63 :: query).map Char.ofNat

theorem endsPath_queryText (query : List Nat) :
    EndsPath (queryText query) := by
  rw [queryText]
  by_cases empty : query = []
  · rw [if_pos empty]
    exact Or.inl rfl
  · rw [if_neg empty, List.map_cons]
    exact Or.inr ⟨query.map Char.ofNat, rfl⟩

theorem relativeSlash_plain
    (plain : isPlainSegment segment = true) (platform : Platform) (base : Url)
    (rest : List Char) :
    relativeSlash platform base (segment.map Char.ofNat ++ rest) =
      some (readPath
        { base with path := [], query := none, fragment := none }
        (segment.map Char.ofNat ++ rest)) := by
  rw [isPlainSegment, Bool.and_eq_true] at plain
  cases segment with
  | nil => cases plain.1
  | cons letter others =>
      have kept := List.all_eq_true.mp plain.2 letter List.mem_cons_self
      rw [List.map_cons, List.cons_append, relativeSlash,
        (path_of_isPathUnit kept).1, if_neg Bool.false_ne_true]

theorem mem_target {segments : List (List Nat)}
    (member : unit ∈ target segments query) :
    unit = 47 ∨ unit = 63 ∨
      ((∀ segment ∈ segments, isPlainSegment segment = true) →
        query.all isQueryUnit = true → isQueryUnit unit = true) := by
  rw [target, List.mem_append, List.mem_flatMap] at member
  rcases member with ⟨segment, place, inside⟩ | behind
  · rw [List.mem_cons] at inside
    refine inside.imp_right fun letter => Or.inr fun plain _ => ?_
    have own := plain segment place
    rw [isPlainSegment, Bool.and_eq_true, List.all_eq_true] at own
    exact (path_of_isPathUnit (own.2 unit letter)).2.2.2
  · by_cases empty : query = []
    · rw [if_pos empty] at behind
      cases behind
    · rw [if_neg empty, List.mem_cons] at behind
      refine Or.inr (behind.imp_right fun letter _ safe => ?_)
      exact List.all_eq_true.mp safe unit letter

/-- A path of plain segments with a query is resolved to itself on the origin
of the base. -/
theorem resolve_target (platform : Platform) (base : Url)
    {segments : List (List Nat)} (nonempty : segments ≠ [])
    (plain : ∀ segment ∈ segments, isPlainSegment segment = true)
    (safe : query.all isQueryUnit = true) :
    resolve platform base (target segments query) =
      some { base with
        path := segments, query := queryOf query, fragment := none } := by
  have units : ∀ unit ∈ target segments query,
      0x20 < unit ∧ unit < 0x7F := by
    intro unit member
    rcases mem_target member with slash | mark | kept
    · rw [slash]
      decide
    · rw [mark]
      decide
    · exact isQueryUnit_bounds (kept plain safe)
  have small : ∀ unit ∈ target segments query, unit < 128 := by
    intro unit member
    have bounds := units unit member
    omega
  have cleaned : clean (scalars (target segments query)) =
      (target segments query).map Char.ofNat := by
    rw [scalars_ascii small]
    refine clean_of_visible fun character member => ?_
    obtain ⟨unit, place, rfl⟩ := List.mem_map.mp member
    rw [toNat_ofNat (small unit place)]
    exact (units unit place).1
  obtain ⟨first, others, rfl⟩ := List.exists_cons_of_ne_nil nonempty
  have spelled : (target (first :: others) query).map Char.ofNat =
      '/' :: (first.map Char.ofNat ++
        ((others.flatMap (47 :: ·)).map Char.ofNat ++ queryText query)) := by
    rw [target, queryText, List.flatMap_cons, List.map_append,
      List.cons_append, List.map_cons, List.map_append, List.cons_append,
      List.append_assoc]
  rw [resolve, cleaned, spelled, if_neg (by simp [beginsWithScheme]),
    relative, if_pos (by decide),
    relativeSlash_plain (plain first List.mem_cons_self)]
  rw [readPath, pathState_segments plain [] (endsPath_queryText query)]
  simp only [List.nil_append]
  rw [queryText, queryOf]
  by_cases empty : query = []
  · rw [if_pos empty, if_pos empty, List.map_nil]
  · rw [if_neg empty, if_neg empty, List.map_cons]
    simp only
    rw [if_pos (by decide), readQuery_plain safe]

theorem serialize_safe (parameters : List UrlEncoded.Parameter) :
    (UrlEncoded.serialize parameters).all isQueryUnit = true := by
  have table : ∀ unit < 128, UrlEncoded.isWritten unit = true →
      isQueryUnit unit = true := by
    decide
  rw [List.all_eq_true]
  intro unit member
  rcases UrlEncoded.mem_serialize member with written | same | same
  · refine table unit ?_ written
    rw [UrlEncoded.isWritten, Bool.or_eq_true, Bool.or_eq_true] at written
    rcases written with (kept | same) | same
    · exact (UrlEncoded.isKept_bounds kept).1
    · rw [of_decide_eq_true same]
      decide
    · rw [of_decide_eq_true same]
      decide
  · rw [same]
    decide
  · rw [same]
    decide

theorem search_withParameters (url : Url)
    (parameters : List UrlEncoded.Parameter) :
    (url.withParameters parameters).pathname ++
        (url.withParameters parameters).search =
      target url.path (UrlEncoded.serialize parameters) := by
  rw [target, Url.withParameters, Url.search]
  by_cases empty : UrlEncoded.serialize parameters = []
  · simp only [if_pos empty]
    rfl
  · obtain ⟨unit, rest, shape⟩ := List.exists_cons_of_ne_nil empty
    simp only [shape, List.cons_ne_nil, if_false]
    rfl

theorem parse_queryOf (parameters : List UrlEncoded.Parameter) :
    UrlEncoded.parse
        ((queryOf (UrlEncoded.serialize parameters)).getD []) =
      parameters := by
  rw [queryOf]
  by_cases empty : UrlEncoded.serialize parameters = []
  · rw [if_pos empty, UrlEncoded.serialize_eq_nil_iff.mp empty]
    rfl
  · rw [if_neg empty, Option.getD_some, UrlEncoded.parse_serialize]

end GravitPanel.WebUrl
