import Mathlib.Data.List.Basic

/-!
# Regular expressions that backtrack

A pattern yields every way in which it matches at the start of a text, the
preferred one first, so that what follows it may fall back on the others.
-/

namespace GravitPanel

/-- What a pattern captures at the start of a text, and what follows it. -/
abbrev Matcher (Value : Type) : Type := List Char → List (Value × List Char)

namespace Matcher

variable {Value Result : Type}

/-- Match nothing. -/
def done (value : Value) : Matcher Value := fun text => [(value, text)]

def andThen (pattern : Matcher Value) (next : Value → Matcher Result) :
    Matcher Result :=
  fun text => (pattern text).flatMap fun found => next found.1 found.2

/-- One character of a class. -/
def one (member : Char → Bool) : Matcher Char
  | [] => []
  | letter :: rest => if member letter then [(letter, rest)] else []

/-- As many characters of a class as there are, or fewer. -/
def many (member : Char → Bool) : Matcher (List Char)
  | [] => [([], [])]
  | letter :: rest =>
      if member letter then
        (many member rest).map (fun found => (letter :: found.1, found.2)) ++
          [([], letter :: rest)]
      else
        [([], letter :: rest)]

/-- At least one character of the first class, then as many as there are of
the second. -/
def run (start member : Char → Bool) : Matcher (List Char) :=
  andThen (one start) fun letter =>
    andThen (many member) fun rest => done (letter :: rest)

/-- A pattern, or nothing. -/
def optional (pattern : Matcher Value) : Matcher Unit := fun text =>
  (pattern text).map (fun found => ((), found.2)) ++ [((), text)]

def either (pattern other : Matcher Value) : Matcher Value := fun text =>
  pattern text ++ other text

/-- These characters, each up to a relation. -/
def literal (same : Char → Char → Bool) : List Char → Matcher Unit
  | [] => done ()
  | letter :: rest => andThen (one (same letter)) fun _ => literal same rest

/-- The preferred match at the start of a text. -/
def first (pattern : Matcher Value) (text : List Char) : Option Value :=
  (pattern text).head?.map Prod.fst

/-- The leftmost match in a text. -/
def search (pattern : Matcher Value) : List Char → Option Value
  | [] => first pattern []
  | letter :: rest =>
      match first pattern (letter :: rest) with
      | none => search pattern rest
      | found => found

/-- Every match of a pattern that cannot begin inside another match. -/
def matchAll (pattern : Matcher Value) (text : List Char) : List Value :=
  text.tails.filterMap (first pattern)

section Laws

variable {pattern : Matcher Value} {next : Value → Matcher Result}
variable {text rest : List Char} {value : Value}

theorem andThen_of_single (matched : pattern text = [(value, rest)]) :
    andThen pattern next text = next value rest := by
  rw [andThen, matched, List.flatMap_singleton]

theorem andThen_of_nil (unmatched : pattern text = []) :
    andThen pattern next text = [] := by
  rw [andThen, unmatched, List.flatMap_nil]

theorem first_of_cons {others : List (Value × List Char)}
    (matched : pattern text = (value, rest) :: others) :
    first pattern text = some value := by
  rw [first, matched]
  rfl

theorem first_of_nil (unmatched : pattern text = []) :
    first pattern text = none := by
  rw [first, unmatched]
  rfl

variable {member : Char → Bool} {letters : List Char}

theorem one_cons {letter : Char}
    (present : member letter = true) :
    one member (letter :: text) = [(letter, text)] := by
  rw [one, if_pos present]

theorem one_cons_of_not {letter : Char}
    (absent : member letter = false) : one member (letter :: text) = [] := by
  rw [one, if_neg (by rw [absent]; exact Bool.false_ne_true)]

/-- A class stops at the first character that is not in it. -/
def Stops (member : Char → Bool) (text : List Char) : Prop :=
  ∀ letter ∈ text.head?, member letter = false

theorem one_of_stops (stops : Stops member text) :
    one member text = [] := by
  cases text with
  | nil => rfl
  | cons letter rest => exact one_cons_of_not (stops letter rfl)

theorem many_of_stops (stops : Stops member text) :
    many member text = [([], text)] := by
  cases text with
  | nil => rfl
  | cons letter rest =>
      have absent := stops letter rfl
      rw [many, if_neg (by rw [absent]; exact Bool.false_ne_true)]

theorem many_append
    (members : ∀ letter ∈ letters, member letter = true)
    (stops : Stops member text) :
    ∃ others, many member (letters ++ text) = (letters, text) :: others := by
  induction letters with
  | nil => exact ⟨[], many_of_stops stops⟩
  | cons letter rest ih =>
      rw [List.forall_mem_cons] at members
      obtain ⟨others, matched⟩ := ih members.2
      rw [List.cons_append, many, if_pos members.1, matched]
      exact ⟨_, rfl⟩

theorem run_append {start member : Char → Bool} {letter : Char}
    (starts : start letter = true)
    (members : ∀ letter ∈ letters, member letter = true)
    (stops : Stops member text) :
    ∃ others, run start member (letter :: letters ++ text) =
      (letter :: letters, text) :: others := by
  obtain ⟨others, matched⟩ := many_append members stops
  rw [run, List.cons_append, andThen_of_single (one_cons starts), andThen,
    matched]
  exact ⟨_, rfl⟩

theorem run_of_stops {start member : Char → Bool}
    (stops : Stops start text) : run start member text = [] :=
  andThen_of_nil (one_of_stops stops)

theorem many_one {stop : Char}
    (members : ∀ letter ∈ letters, member letter = true)
    (outside : member stop = false) :
    andThen (many member) (fun _ => one (stop == ·))
        (letters ++ stop :: text) = [(stop, text)] := by
  induction letters with
  | nil =>
      have stops : Stops member (stop :: text) := by
        rintro letter ⟨⟩
        exact outside
      rw [List.nil_append, andThen_of_single (many_of_stops stops),
        one_cons (beq_self_eq_true stop)]
  | cons letter rest ih =>
      rw [List.forall_mem_cons] at members
      have apart : (stop == letter) = false := by
        rw [beq_eq_false_iff_ne]
        rintro rfl
        exact Bool.false_ne_true (outside.symm.trans members.1)
      have tail := ih members.2
      rw [andThen] at tail
      rw [List.cons_append, andThen, many, if_pos members.1,
        List.flatMap_append, List.flatMap_map, List.flatMap_singleton, tail,
        one_cons_of_not apart, List.append_nil]

theorem literal_append {same : Char → Char → Bool}
    (reflexive : ∀ letter, same letter letter = true) :
    literal same letters (letters ++ text) = [((), text)] := by
  induction letters with
  | nil => rfl
  | cons letter rest ih =>
      rw [List.cons_append, literal,
        andThen_of_single (one_cons (reflexive letter)), ih]

theorem search_of_cons {others : List (Value × List Char)}
    (matched : pattern text = (value, rest) :: others) :
    search pattern text = some value := by
  have found := first_of_cons matched
  cases text with
  | nil => exact found
  | cons letter tail => rw [search, found]

theorem search_of_nil
    (unmatched : ∀ tail, tail <:+ text → pattern tail = []) :
    search pattern text = none := by
  induction text with
  | nil => exact first_of_nil (unmatched [] List.suffix_rfl)
  | cons letter tail ih =>
      have here := first_of_nil (unmatched _ List.suffix_rfl)
      rw [search, here]
      exact ih fun shorter suffix =>
        unmatched shorter (suffix.trans (List.suffix_cons letter tail))

theorem search_append {front : List Char}
    (unmatched : ∀ tail, tail <:+ front → tail ≠ [] →
      pattern (tail ++ text) = []) :
    search pattern (front ++ text) = search pattern text := by
  induction front with
  | nil => rfl
  | cons letter tail ih =>
      have here := first_of_nil
        (unmatched _ List.suffix_rfl (List.cons_ne_nil _ _))
      rw [List.cons_append] at here
      rw [List.cons_append, search, here]
      exact ih fun shorter suffix =>
        unmatched shorter (suffix.trans (List.suffix_cons letter tail))

end Laws

end Matcher

end GravitPanel
