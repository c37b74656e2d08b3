import GravitPanel.Core.TextEdits

/-!
# Java property files

The reader of `java.util.Properties.load`: natural lines, which end at `\n`,
`\r` or `\r\n`, logical lines, which an escaped line break continues, and the
key and the element of each.  Keys and elements are lists of UTF-16 code
units, since an escape may denote half of a surrogate pair.
-/

namespace GravitPanel.JavaProperties

open TextEdits

abbrev Units := List Nat

/-- A space, a tab or a form feed. -/
def isWhite (letter : Char) : Bool :=
  letter = ' ' || letter = '\t' || letter = '\x0c'

/-- `\r\n` is one line break, so it is split off first. -/
def naturalLines (text : Text) : List Text :=
  (splitLines text).flatMap (·.splitOn '\r')

def isComment (content : Text) : Bool :=
  content.head? = some '#' || content.head? = some '!'

/-- Whether the line break after a line is escaped: the backslashes at its
end are odd in number. -/
def breakEscaped (line : Text) : Bool :=
  line.foldl (fun preceding letter => letter = '\\' && !preceding) false

/-- One natural line after the text that an escaped line break left open: the
logical line that it finishes, if it does, and what it leaves open. -/
def readLine (pending line : Text) : List Text × Text :=
  let content := line.dropWhile isWhite
  if pending = [] ∧ (content = [] ∨ isComment content) then ([], [])
  else if breakEscaped content then ([], pending ++ content.dropLast)
  else ([pending ++ content], [])

def readLines (pending : Text) : List Text → List Text × Text
  | [] => ([], pending)
  | line :: rest =>
      let first := readLine pending line
      let others := readLines first.2 rest
      (first.1 ++ others.1, others.2)

/-- The end of the file ends an open line. -/
def closeLine (pending : Text) : List Text :=
  if pending = [] then [] else [pending]

def logicalLines (lines : List Text) : List Text :=
  (readLines [] lines).1 ++ closeLine (readLines [] lines).2

theorem readLines_append (pending : Text) (lines others : List Text) :
    readLines pending (lines ++ others) =
      ((readLines pending lines).1 ++
          (readLines (readLines pending lines).2 others).1,
        (readLines (readLines pending lines).2 others).2) := by
  induction lines generalizing pending with
  | nil => rfl
  | cons line rest ih =>
      rw [List.cons_append, readLines, readLines, ih,
        List.append_assoc]

def codeUnits (letter : Char) : Units :=
  let code := letter.toNat
  if code < 0x10000 then [code]
  else [0xD800 + (code - 0x10000) / 0x400, 0xDC00 + (code - 0x10000) % 0x400]

def encode (text : Text) : Units :=
  text.flatMap codeUnits

/-- The key of a logical line as it is written, and what follows it. -/
def splitKey (preceding : Bool) : Text → Text × Text
  | [] => ([], [])
  | letter :: rest =>
      if !preceding && (letter = '=' || letter = ':' || isWhite letter) then
        ([], letter :: rest)
      else
        let others := splitKey (letter = '\\' && !preceding) rest
        (letter :: others.1, others.2)

/-- The element after a key: white space and one separator are skipped. -/
def skipSeparator (text : Text) : Text :=
  match text.dropWhile isWhite with
  | [] => []
  | letter :: rest =>
      if letter = '=' ∨ letter = ':' then rest.dropWhile isWhite
      else letter :: rest

def hexDigit (letter : Char) : Option Nat :=
  if '0' ≤ letter ∧ letter ≤ '9' then some (letter.toNat - '0'.toNat)
  else if 'a' ≤ letter ∧ letter ≤ 'f' then
    some (letter.toNat - 'a'.toNat + 10)
  else if 'A' ≤ letter ∧ letter ≤ 'F' then
    some (letter.toNat - 'A'.toNat + 10)
  else none

/-- The number of four hexadecimal digits. -/
def hexUnit (digits : List Char) : Option Nat :=
  digits.foldlM
    (fun number letter => (hexDigit letter).map (16 * number + ·)) 0

/-- The letter that an escape other than `\u` denotes. -/
def escapedLetter (letter : Char) : Char :=
  if letter = 't' then '\t'
  else if letter = 'r' then '\r'
  else if letter = 'n' then '\n'
  else if letter = 'f' then '\x0c'
  else letter

/-- The text with its escapes resolved; a malformed `\u` is an error. -/
def unescape : Text → Option Units
  | [] => some []
  | letter :: rest =>
      if letter ≠ '\\' then (unescape rest).map (codeUnits letter ++ ·)
      else
        match rest with
        | [] => some []
        | escape :: rest =>
            if escape ≠ 'u' then
              (unescape rest).map (codeUnits (escapedLetter escape) ++ ·)
            else
              match rest with
              | first :: second :: third :: fourth :: rest =>
                  (hexUnit [first, second, third, fourth]).bind fun unit =>
                    (unescape rest).map (unit :: ·)
              | _ => none

/-- The assignment that a logical line makes. -/
def property (line : Text) : Option (Units × Units) :=
  let parts := splitKey false line
  (unescape parts.1).bind fun key =>
    (unescape (skipSeparator parts.2)).map fun element => (key, element)

/-- `load`: one malformed line fails the whole file. -/
def load (text : Text) : Option (List (Units × Units)) :=
  let lines := logicalLines (naturalLines text)
  if lines.all fun line => (property line).isSome then
    some (lines.filterMap property)
  else none

/-- The value of a key in the table: a later assignment replaces an earlier
one. -/
def lastValue (key : Units) (entries : List (Units × Units)) :
    Option Units :=
  entries.foldl
    (fun found entry => if entry.1 = key then some entry.2 else found) none

theorem lastValue_filterMap_eq_some_iff {Item : Type}
    (read : Item → Option (Units × Units)) (key value : Units)
    (items : List Item) :
    lastValue key (items.filterMap read) = some value ↔
      ∃ before last after,
        items = before ++ last :: after ∧ read last = some (key, value) ∧
          ∀ item ∈ after, ∀ other, read item ≠ some (key, other) := by
  induction items using List.reverseRecOn with
  | nil =>
      constructor
      · intro found
        cases found
      · rintro ⟨before, last, after, whole, _, _⟩
        exact absurd whole.symm (by simp)
  | append_singleton items last ih =>
      by_cases assigned : ∃ other, read last = some (key, other)
      · obtain ⟨other, reads⟩ := assigned
        have final :
            lastValue key ((items ++ [last]).filterMap read) =
              some other := by
          simp [lastValue, List.filterMap_append, reads]
        rw [final]
        constructor
        · intro same
          refine ⟨items, last, [], rfl, ?_, ?_⟩
          · rw [reads, Option.some.inj same]
          · intro item member
            cases member
        · rintro ⟨before, found, after, whole, gives, silent⟩
          rcases List.eq_nil_or_concat after with rfl | ⟨initial, final, rfl⟩
          · obtain ⟨_, same⟩ := List.append_inj' whole rfl
            rw [← (List.cons.inj same).1, reads] at gives
            rw [(Prod.mk.inj (Option.some.inj gives)).2]
          · rw [List.concat_eq_append, ← List.cons_append,
              ← List.append_assoc] at whole
            obtain ⟨_, same⟩ := List.append_inj' whole rfl
            refine absurd reads (silent last ?_ other)
            rw [(List.cons.inj same).1, List.concat_eq_append]
            exact List.mem_concat_self
      · have unchanged :
            lastValue key ((items ++ [last]).filterMap read) =
              lastValue key (items.filterMap read) := by
          rw [List.filterMap_append]
          rcases reads : read last with _ | ⟨other, element⟩
          · rw [List.filterMap_cons_none reads, List.filterMap_nil,
              List.append_nil]
          · rw [List.filterMap_cons_some reads, List.filterMap_nil, lastValue,
              List.foldl_append, List.foldl_cons, List.foldl_nil, if_neg]
            · rfl
            · rintro rfl
              exact assigned ⟨element, reads⟩
        rw [unchanged, ih]
        constructor
        · rintro ⟨before, found, after, whole, gives, silent⟩
          refine ⟨before, found, after ++ [last], ?_, gives, ?_⟩
          · rw [whole, List.append_assoc, List.cons_append]
          · intro item member other reads
            rcases List.mem_append.mp member with member | member
            · exact silent item member other reads
            · rw [List.mem_singleton.mp member] at reads
              exact assigned ⟨other, reads⟩
        · rintro ⟨before, found, after, whole, gives, silent⟩
          rcases List.eq_nil_or_concat after with rfl | ⟨initial, final, rfl⟩
          · obtain ⟨_, same⟩ := List.append_inj' whole rfl
            rw [← (List.cons.inj same).1] at gives
            exact absurd ⟨value, gives⟩ assigned
          · rw [List.concat_eq_append, ← List.cons_append,
              ← List.append_assoc] at whole
            obtain ⟨same, _⟩ := List.append_inj' whole rfl
            refine ⟨before, found, initial, same, gives, ?_⟩
            intro item member
            exact silent item (by
              rw [List.concat_eq_append]
              exact List.mem_append_left _ member)

/-- A key without white space, separators, escapes and marks of comments. -/
def PlainKey (key : Text) : Prop :=
  key ≠ [] ∧
    ∀ letter ∈ key,
      isWhite letter = false ∧
        letter ∉ ['=', ':', '\\', '#', '!', '\r', '\n']

/-- A value that starts with no white space and has no escapes. -/
def PlainValue (value : Text) : Prop :=
  (∀ letter ∈ value.head?, isWhite letter = false) ∧
    ∀ letter ∈ value, letter ∉ ['\\', '\r', '\n']

instance (key : Text) : Decidable (PlainKey key) :=
  decidable_of_iff
    (key ≠ [] ∧ (key.all fun letter => !isWhite letter &&
      decide (letter ∉ ['=', ':', '\\', '#', '!', '\r', '\n'])) = true)
    (by simp only [PlainKey, List.all_eq_true, Bool.and_eq_true,
      Bool.not_eq_true', decide_eq_true_eq])

instance (value : Text) : Decidable (PlainValue value) :=
  decidable_of_iff
    ((value.head?.all fun letter => !isWhite letter) = true ∧
      (value.all fun letter =>
        decide (letter ∉ ['\\', '\r', '\n'])) = true)
    (by simp only [PlainValue, Option.all_eq_true, List.all_eq_true,
      Bool.not_eq_true', decide_eq_true_eq, Option.mem_def])

theorem plainKey_ofList {text : String} {letters : Text}
    (same : text = String.ofList letters) (plain : PlainKey letters) :
    PlainKey text.toList := by
  rwa [same, String.toList_ofList]

theorem plainValue_ofList {text : String} {letters : Text}
    (same : text = String.ofList letters) (plain : PlainValue letters) :
    PlainValue text.toList := by
  rwa [same, String.toList_ofList]

theorem breakEscaped_of_no_backslash {line : Text}
    (plain : '\\' ∉ line) : breakEscaped line = false := by
  rw [breakEscaped]
  induction line with
  | nil => rfl
  | cons letter rest ih =>
      rw [List.mem_cons, not_or] at plain
      rw [List.foldl_cons, decide_eq_false (Ne.symm plain.1),
        Bool.false_and]
      exact ih plain.2

theorem unescape_cons_of_ne {letter : Char} (plain : letter ≠ '\\')
    (rest : Text) :
    unescape (letter :: rest) =
      (unescape rest).map (codeUnits letter ++ ·) := by
  rw [unescape.eq_def]
  exact if_pos plain

theorem unescape_of_no_backslash {text : Text} (plain : '\\' ∉ text) :
    unescape text = some (encode text) := by
  induction text with
  | nil => rfl
  | cons letter rest ih =>
      rw [List.mem_cons, not_or] at plain
      rw [unescape_cons_of_ne (Ne.symm plain.1),
        ih plain.2]
      rfl

theorem dropWhile_of_head {text : Text}
    (visible : ∀ letter ∈ text.head?, isWhite letter = false) :
    text.dropWhile isWhite = text := by
  cases text with
  | nil => rfl
  | cons letter rest =>
      rw [List.dropWhile_cons_of_neg]
      rw [visible letter rfl]
      exact Bool.false_ne_true

section Assignments

variable {key value : Text}

theorem PlainKey.no_backslash (plain : PlainKey key) : '\\' ∉ key := by
  intro inside
  exact (plain.2 '\\' inside).2 (by decide)

theorem PlainValue.no_backslash (plain : PlainValue value) :
    '\\' ∉ value := by
  intro inside
  exact plain.2 '\\' inside (by decide)

theorem splitKey_assignment (plain : PlainKey key) :
    splitKey false (key ++ '=' :: value) = (key, '=' :: value) := by
  have letters := plain.2
  clear plain
  induction key with
  | nil => rfl
  | cons letter rest ih =>
      obtain ⟨visible, allowed⟩ := letters letter List.mem_cons_self
      have noSeparator :
          ¬ (!false && (letter = '=' || letter = ':' || isWhite letter)) =
            true := by
        simp only [List.mem_cons, not_or] at allowed
        simp [visible, allowed]
      have noEscape : (decide (letter = '\\') && !false) = false := by
        simp only [List.mem_cons, not_or] at allowed
        simp [allowed]
      rw [List.cons_append, splitKey, if_neg noSeparator, noEscape,
        ih fun other member =>
          letters other (List.mem_cons_of_mem _ member)]

theorem property_assignment (plainKey : PlainKey key)
    (plainValue : PlainValue value) :
    property (key ++ '=' :: value) = some (encode key, encode value) := by
  have element : skipSeparator ('=' :: value) = value := by
    rw [skipSeparator, List.dropWhile_cons_of_neg (by decide)]
    exact dropWhile_of_head plainValue.1
  rw [property, splitKey_assignment plainKey, element,
    unescape_of_no_backslash plainKey.no_backslash,
    unescape_of_no_backslash plainValue.no_backslash]
  rfl

theorem readLine_assignment (plainKey : PlainKey key)
    (plainValue : PlainValue value) (pending : Text) :
    readLine pending (key ++ '=' :: value) =
      ([pending ++ (key ++ '=' :: value)], []) := by
  obtain ⟨filled, letters⟩ := plainKey
  rcases shape : key with _ | ⟨first, rest⟩
  · exact absurd shape filled
  · have inside : first ∈ key := by
      rw [shape]
      exact List.mem_cons_self
    obtain ⟨visible, allowed⟩ := letters first inside
    have content :
        (key ++ '=' :: value).dropWhile isWhite = key ++ '=' :: value := by
      refine dropWhile_of_head fun letter member => ?_
      rw [shape, List.cons_append, List.head?_cons, Option.mem_some] at member
      rw [← member, visible]
    have noComment :
        ¬ (pending = [] ∧ (key ++ '=' :: value = [] ∨
          isComment (key ++ '=' :: value) = true)) := by
      rintro ⟨_, empty | comment⟩
      · exact absurd empty (by simp)
      · simp only [List.mem_cons, not_or] at allowed
        rw [shape] at comment
        simp [isComment, allowed] at comment
    have noEscape : breakEscaped (key ++ '=' :: value) = false := by
      refine breakEscaped_of_no_backslash fun inside => ?_
      rcases List.mem_append.mp inside with inside | inside
      · exact (letters '\\' inside).2 (by decide)
      · rcases List.mem_cons.mp inside with same | inside
        · exact absurd same (by decide)
        · exact plainValue.no_backslash inside
    rw [← shape, readLine, content, if_neg noComment, noEscape]
    rfl

end Assignments

end GravitPanel.JavaProperties
