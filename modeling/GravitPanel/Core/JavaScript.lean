import Mathlib.Data.List.DropRight
import Mathlib.Data.List.TakeWhile
import Mathlib.Algebra.Order.Ring.Nat

/-!
# Strings as JavaScript counts them

`length` and `slice` count UTF-16 code units, and `trim` removes the white
space and line terminators of ECMAScript.
-/

namespace GravitPanel.JavaScript

/-- The number of UTF-16 code units of a character. -/
def units (character : Char) : Nat :=
  if character.val ≤ 0xFFFF then 1 else 2

/-- The `length` of a string. -/
def length (text : String) : Nat :=
  (text.toList.map units).sum

/-- The characters of `slice(0, limit)`.  The half of a surrogate pair that a
cut leaves becomes U+FFFD once the text is stored or sent as UTF-8. -/
def sliceChars (limit : Nat) : List Char → List Char
  | [] => []
  | character :: rest =>
      if units character ≤ limit then
        character :: sliceChars (limit - units character) rest
      else if limit = 0 then
        []
      else
        ['\uFFFD']

def slice (limit : Nat) (text : String) : String :=
  String.ofList (sliceChars limit text.toList)

variable {limit : Nat} {text : String}

theorem sliceChars_of_le
    {characters : List Char}
    (fits : (characters.map units).sum ≤ limit) :
    sliceChars limit characters = characters := by
  induction characters generalizing limit with
  | nil => rfl
  | cons character rest ih =>
      rw [List.map_cons, List.sum_cons] at fits
      have first : units character ≤ limit := by omega
      have others : (rest.map units).sum ≤ limit - units character := by
        omega
      rw [sliceChars, if_pos first, ih others]

theorem slice_of_le
    (fits : length text ≤ limit) : slice limit text = text := by
  rw [slice, sliceChars_of_le fits, String.ofList_toList]

theorem units_pos (character : Char) : 0 < units character := by
  unfold units
  split <;> decide

theorem sliceChars_zero (characters : List Char) :
    sliceChars 0 characters = [] := by
  cases characters with
  | nil => rfl
  | cons character rest =>
      have positive := units_pos character
      rw [sliceChars, if_neg (by omega), if_pos rfl]

theorem sliceChars_append
    {first : List Char} (second : List Char)
    (fits : (first.map units).sum ≤ limit) :
    sliceChars limit (first ++ second) =
      first ++ sliceChars (limit - (first.map units).sum) second := by
  induction first generalizing limit with
  | nil => rfl
  | cons character rest ih =>
      rw [List.map_cons, List.sum_cons] at fits
      have head : units character ≤ limit := by omega
      have tail : (rest.map units).sum ≤ limit - units character := by
        omega
      rw [List.cons_append, sliceChars, if_pos head,
        ih tail, List.map_cons, List.sum_cons,
        List.cons_append, Nat.sub_sub]

theorem units_sliceChars_le (limit : Nat) (characters : List Char) :
    ((sliceChars limit characters).map units).sum ≤ limit := by
  induction characters generalizing limit with
  | nil => exact Nat.zero_le limit
  | cons character rest ih =>
      by_cases fits : units character ≤ limit
      · have tail := ih (limit - units character)
        rw [sliceChars, if_pos fits, List.map_cons, List.sum_cons]
        omega
      · by_cases empty : limit = 0
        · rw [sliceChars, if_neg fits, if_pos empty]
          exact Nat.zero_le limit
        · have replacement : units '\uFFFD' = 1 := by decide
          rw [sliceChars, if_neg fits, if_neg empty, List.map_singleton,
            replacement, List.sum_singleton]
          omega

theorem slice_eq_self_iff (limit : Nat) (text : String) :
    slice limit text = text ↔ length text ≤ limit := by
  constructor
  · intro same
    have bound := units_sliceChars_le limit text.toList
    have characters := congrArg String.toList same
    rw [slice, String.toList_ofList] at characters
    rw [characters] at bound
    exact bound
  · exact slice_of_le

/-- The characters that `trim` removes at both ends. -/
def isWhiteSpace (character : Char) : Bool :=
  let code := character.val.toNat
  (9 ≤ code && code ≤ 13) || code == 32 || code == 0xA0 ||
    code == 0x1680 || (0x2000 ≤ code && code ≤ 0x200A) ||
      code == 0x2028 || code == 0x2029 || code == 0x202F ||
        code == 0x205F || code == 0x3000 || code == 0xFEFF

def trimChars (characters : List Char) : List Char :=
  ((characters.dropWhile isWhiteSpace).reverse.dropWhile
    isWhiteSpace).reverse

def trim (text : String) : String :=
  String.ofList (trimChars text.toList)

theorem trimChars_between (characters : List Char) :
    ∃ before after,
      characters = before ++ trimChars characters ++ after ∧
        (∀ character ∈ before, isWhiteSpace character) ∧
          ∀ character ∈ after, isWhiteSpace character := by
  have front : ∃ before, characters =
      before ++ characters.dropWhile isWhiteSpace ∧
        ∀ character ∈ before, isWhiteSpace character :=
    ⟨characters.takeWhile isWhiteSpace,
      List.takeWhile_append_dropWhile.symm,
      fun _ member => List.mem_takeWhile_imp member⟩
  obtain ⟨before, shape, white⟩ := front
  generalize middle : (characters.dropWhile isWhiteSpace).reverse =
    reversed at *
  have back : reversed = reversed.takeWhile isWhiteSpace ++
      reversed.dropWhile isWhiteSpace :=
    List.takeWhile_append_dropWhile.symm
  refine ⟨before, (reversed.takeWhile isWhiteSpace).reverse, ?_, white, ?_⟩
  · have kept : characters.dropWhile isWhiteSpace =
        trimChars characters ++ (reversed.takeWhile isWhiteSpace).reverse := by
      rw [trimChars, middle, ← List.reverse_append, ← back, ← middle,
        List.reverse_reverse]
    rw [List.append_assoc, ← kept]
    exact shape
  · intro character member
    exact List.mem_takeWhile_imp (List.mem_reverse.mp member)

theorem trimChars_eq_rdropWhile (characters : List Char) :
    trimChars characters =
      (characters.dropWhile isWhiteSpace).rdropWhile isWhiteSpace := rfl

theorem head_trimChars {characters rest : List Char} {first : Char}
    (shape : trimChars characters = first :: rest) :
    isWhiteSpace first = false := by
  have within : trimChars characters <+: characters.dropWhile isWhiteSpace :=
    List.rdropWhile_prefix _ _
  rw [shape] at within
  obtain ⟨others, whole⟩ := within
  have head := List.head?_dropWhile_not isWhiteSpace characters
  rw [← whole] at head
  simpa using head

theorem trimChars_append_white (characters : List Char) {after : List Char}
    (white : ∀ character ∈ after, isWhiteSpace character = true) :
    trimChars (characters ++ after) = trimChars characters := by
  rw [trimChars_eq_rdropWhile, trimChars_eq_rdropWhile]
  have ended : ∀ front : List Char,
      (front ++ after).rdropWhile isWhiteSpace =
        front.rdropWhile isWhiteSpace := by
    intro front
    rw [List.rdropWhile, List.reverse_append, List.dropWhile_append_of_pos]
    · rfl
    · intro character member
      exact white character (List.mem_reverse.mp member)
  by_cases blank : characters.dropWhile isWhiteSpace = []
  · have front := List.dropWhile_eq_nil_iff.mp blank
    rw [blank, List.dropWhile_eq_nil_iff.mpr]
    intro character member
    rcases List.mem_append.mp member with early | late
    · exact front character early
    · exact white character late
  · have longer : (characters ++ after).dropWhile isWhiteSpace =
        characters.dropWhile isWhiteSpace ++ after := by
      rw [List.dropWhile_append]
      simp [blank]
    rw [longer, ended]

theorem trimChars_of_ends {characters : List Char}
    (front : ∀ first ∈ characters.head?, isWhiteSpace first = false)
    (back : ∀ last ∈ characters.getLast?, isWhiteSpace last = false) :
    trimChars characters = characters := by
  obtain ⟨before, after, shape, whiteBefore, whiteAfter⟩ :=
    trimChars_between characters
  have noBefore : before = [] := by
    cases before with
    | nil => rfl
    | cons first rest =>
        have visible := front first (by rw [shape]; rfl)
        rw [whiteBefore first List.mem_cons_self] at visible
        cases visible
  have noAfter : after = [] := by
    by_contra filled
    have last := List.getLast?_append_of_ne_nil
      (before ++ trimChars characters) filled
    rw [← shape, List.getLast?_eq_some_getLast filled] at last
    have visible := back _ last
    rw [whiteAfter _ (List.getLast_mem filled)] at visible
    cases visible
  rw [noBefore, noAfter, List.append_nil, List.nil_append] at shape
  exact shape.symm

theorem code_of_whiteSpace
    {character : Char} (white : isWhiteSpace character) :
    (9 ≤ character.val.toNat ∧ character.val.toNat ≤ 13) ∨
      character.val.toNat = 32 ∨ character.val.toNat = 0xA0 ∨
        0x1680 ≤ character.val.toNat := by
  simp only [isWhiteSpace, Bool.or_eq_true, Bool.and_eq_true,
    decide_eq_true_eq, beq_iff_eq] at white
  omega

theorem trim_line
    (visible : ∀ character ∈ text.toList, isWhiteSpace character = false) :
    trim (text ++ "\n") = text := by
  have line : "\n".toList = ['\n'] := by decide
  have stays : ∀ characters : List Char,
      (∀ character ∈ characters, isWhiteSpace character = false) →
        characters.dropWhile isWhiteSpace = characters := by
    intro characters shown
    cases characters with
    | nil => rfl
    | cons first rest =>
        have head := shown first List.mem_cons_self
        rw [List.dropWhile_cons, head, if_neg Bool.false_ne_true]
  have reversed : ∀ character ∈ text.toList.reverse,
      isWhiteSpace character = false :=
    fun character member => visible character (List.mem_reverse.mp member)
  have trimmed : trimChars (text.toList ++ ['\n']) = text.toList := by
    have blank : isWhiteSpace '\n' = true := rfl
    unfold trimChars
    cases letters : text.toList with
    | nil => rfl
    | cons first rest =>
        rw [letters] at visible reversed
        have head := visible first List.mem_cons_self
        rw [List.cons_append, List.dropWhile_cons, head,
          if_neg Bool.false_ne_true, ← List.cons_append,
          List.reverse_append, List.reverse_singleton,
          List.singleton_append, List.dropWhile_cons, blank, if_pos rfl,
          stays _ reversed, List.reverse_reverse]
  rw [trim, String.toList_append, line, trimmed, String.ofList_toList]

theorem forall_mem_intercalate {α : Type} {holds : α → Prop} {separator : α}
    (between : holds separator) {parts : List (List α)}
    (each : ∀ part ∈ parts, ∀ letter ∈ part, holds letter) :
    ∀ letter ∈ [separator].intercalate parts, holds letter := by
  induction parts with
  | nil =>
      intro letter member
      cases member
  | cons part rest ih =>
      rw [List.forall_mem_cons] at each
      cases rest with
      | nil =>
          rw [List.intercalate_singleton]
          exact each.1
      | cons next others =>
          rw [List.intercalate_cons_cons]
          intro letter member
          simp only [List.mem_append, List.mem_singleton] at member
          rcases member with (first | rfl) | later
          · exact each.1 letter first
          · exact between
          · exact ih each.2 letter later

/-- A letter or digit, then letters, digits and some other characters, so many
at most: `/^[a-zA-Z0-9][a-zA-Z0-9…]{0,limit}$/`. -/
def isToken (others : List Char) (limit : Nat) (text : String) : Bool :=
  match text.toList with
  | [] => false
  | first :: rest =>
      first.isAlphanum &&
        rest.all (fun letter => letter.isAlphanum || others.contains letter) &&
        rest.length ≤ limit

theorem isToken_letters {others : List Char}
    (token : isToken others limit text = true) :
    text ≠ "" ∧ ∀ letter ∈ text.toList,
      letter.isAlphanum = true ∨ letter ∈ others := by
  unfold isToken at token
  cases letters : text.toList with
  | nil =>
      rw [letters] at token
      cases token
  | cons first rest =>
      rw [letters] at token
      simp only [Bool.and_eq_true, List.all_eq_true, Bool.or_eq_true,
        List.contains_iff_mem] at token
      obtain ⟨⟨start, later⟩, -⟩ := token
      constructor
      · rintro rfl
        cases letters
      · intro letter member
        rcases List.mem_cons.mp member with rfl | inside
        · exact .inl start
        · exact later letter inside

theorem code_of_isAlphanum {letter : Char}
    (word : letter.isAlphanum = true) :
    (48 ≤ letter.val.toNat ∧ letter.val.toNat ≤ 57) ∨
      (65 ≤ letter.val.toNat ∧ letter.val.toNat ≤ 90) ∨
        (97 ≤ letter.val.toNat ∧ letter.val.toNat ≤ 122) := by
  have ranges : ((decide (letter.val ≥ 'A'.val ∧ letter.val ≤ 'Z'.val) ||
        (decide (letter.val ≥ 'a'.val) && decide (letter.val ≤ 'z'.val))) ||
          (decide (letter.val ≥ '0'.val) &&
            decide (letter.val ≤ '9'.val))) = true := word
  simp only [Bool.or_eq_true, Bool.and_eq_true, decide_eq_true_eq] at ranges
  rcases ranges with (upper | lower) | digit
  · exact .inr (.inl upper)
  · exact .inr (.inr lower)
  · exact .inl digit

theorem visible_of_isToken {others : List Char}
    (token : isToken others limit text = true)
    (shown : ∀ letter ∈ others, isWhiteSpace letter = false) :
    ∀ letter ∈ text.toList, isWhiteSpace letter = false := by
  intro letter member
  rcases (isToken_letters token).2 letter member with word | other
  · rw [Bool.eq_false_iff]
    intro white
    have codes := code_of_isAlphanum word
    rcases code_of_whiteSpace white with control | space | space | high <;>
      omega
  · exact shown letter other

end GravitPanel.JavaScript
