import Mathlib.Data.List.DropRight
import Mathlib.Data.List.Infix
import Mathlib.Logic.Function.Iterate

/-!
# Edits of texts

A text is the list of its characters.  Its lines are those that
`split(/\r?\n/)` finds, and a replacement is of the first occurrence of a
pattern.
-/

namespace GravitPanel.TextEdits

abbrev Text := List Char

theorem toList_spelled {text : String} {letters : Text}
    (spelled : text = String.ofList letters) : text.toList = letters := by
  rw [spelled, String.toList_ofList]

theorem toList_append_spelled {first second : String} {left right : Text}
    (firstSpelled : first.toList = left)
    (secondSpelled : second = String.ofList right) :
    (first ++ second).toList = left ++ right := by
  rw [String.toList_append, firstSpelled, toList_spelled secondSpelled]

/-- A line without one carriage return at its end. -/
def chompReturn (line : Text) : Text :=
  if line.getLast? = some '\r' then line.dropLast else line

/-- The last line has no line break after it and keeps its characters. -/
def chompLines : List Text → List Text
  | [] => []
  | [last] => [last]
  | line :: next :: rest => chompReturn line :: chompLines (next :: rest)

theorem chompLines_cons_cons (line next : Text) (rest : List Text) :
    chompLines (line :: next :: rest) =
      chompReturn line :: chompLines (next :: rest) :=
  rfl

/-- `split(/\r?\n/)`. -/
def splitLines (text : Text) : List Text :=
  chompLines (text.splitOn '\n')

/-- `join('\n')`. -/
def joinLines (lines : List Text) : Text :=
  ['\n'].intercalate lines

theorem chompReturn_eq_self_iff (line : Text) :
    chompReturn line = line ↔ line.getLast? ≠ some '\r' := by
  rw [chompReturn]
  by_cases ends : line.getLast? = some '\r'
  · rw [if_pos ends]
    constructor
    · intro same
      have shorter : line.dropLast.length = line.length :=
        congrArg List.length same
      cases line with
      | nil => cases ends
      | cons head tail =>
          rw [List.length_dropLast, List.length_cons] at shorter
          omega
    · intro other
      exact absurd ends other
  · rw [if_neg ends]
    exact ⟨fun _ => ends, fun _ => rfl⟩

theorem chompReturn_append_return (line : Text) :
    chompReturn (line ++ ['\r']) = line := by
  simp [chompReturn]

theorem chompReturn_cases (line : Text) :
    line = chompReturn line ++ ['\r'] ∨
      chompReturn line = line ∧ line.getLast? ≠ some '\r' := by
  by_cases ends : line.getLast? = some '\r'
  · obtain ⟨initial, split⟩ := List.getLast?_eq_some_iff.mp ends
    rw [split, chompReturn_append_return]
    exact Or.inl rfl
  · exact Or.inr ⟨(chompReturn_eq_self_iff line).mpr ends, ends⟩

theorem length_chompReturn_le (line : Text) :
    (chompReturn line).length ≤ line.length := by
  rcases chompReturn_cases line with split | ⟨same, _⟩
  · have lengths := congrArg List.length split
    rw [List.length_append, List.length_singleton] at lengths
    omega
  · rw [same]

variable {lines : List Text} {wanted : Text → Bool} {line : Text}
variable {letter : Char}

theorem mem_of_mem_chompReturn
    (member : letter ∈ chompReturn line) : letter ∈ line := by
  rcases chompReturn_cases line with split | ⟨same, _⟩
  · rw [split]
    exact List.mem_append_left _ member
  · rwa [same] at member

/-! Chomping a line several times. -/

theorem mem_of_mem_iterate_chompReturn (times : Nat)
    (member : letter ∈ chompReturn^[times] line) :
    letter ∈ line := by
  induction times generalizing line with
  | zero => exact member
  | succ times ih =>
      exact mem_of_mem_chompReturn (ih member)

theorem getLast_iterate_chompReturn_iff (times : Nat) (line : Text) :
    (chompReturn^[times] line).getLast? = some '\r' ↔
      List.replicate (times + 1) '\r' <:+ line := by
  induction times generalizing line with
  | zero =>
      rw [Function.iterate_zero_apply, List.replicate_one,
        List.getLast?_eq_some_iff]
      constructor
      · rintro ⟨initial, rfl⟩
        exact List.suffix_append _ _
      · rintro ⟨initial, whole⟩
        exact ⟨initial, whole.symm⟩
  | succ times ih =>
      rw [Function.iterate_succ_apply, ih]
      rcases chompReturn_cases line with split | ⟨same, ends⟩
      · have longer :
            List.replicate (times + 1 + 1) '\r' =
              List.replicate (times + 1) '\r' ++ ['\r'] :=
          List.replicate_succ'
        rw [longer]
        constructor
        · rintro ⟨initial, whole⟩
          refine ⟨initial, ?_⟩
          rw [split, ← whole, List.append_assoc]
        · rintro ⟨initial, whole⟩
          refine ⟨initial, ?_⟩
          rw [split, ← List.append_assoc] at whole
          exact (List.append_inj' whole rfl).1
      · rw [same]
        have missing : ∀ count, ¬ List.replicate (count + 1) '\r' <:+ line := by
          rintro count ⟨initial, whole⟩
          refine ends ?_
          rw [← whole, List.replicate_succ', ← List.append_assoc]
          exact List.getLast?_concat
        constructor
        · intro within
          exact absurd within (missing times)
        · intro within
          exact absurd within (missing (times + 1))

/-- A line without the carriage returns at its end. -/
def trimReturns (line : Text) : Text :=
  line.rdropWhile (· = '\r')

theorem trimReturns_of_visible
    (visible : line.getLast? ≠ some '\r') : trimReturns line = line := by
  refine List.rdropWhile_eq_self_iff.mpr fun filled ends => visible ?_
  rw [List.getLast?_eq_some_getLast filled, of_decide_eq_true ends]

theorem trimReturns_chompReturn (line : Text) :
    trimReturns (chompReturn line) = trimReturns line := by
  rcases chompReturn_cases line with split | ⟨same, _⟩
  · have trimmed := congrArg trimReturns split
    rw [trimmed, trimReturns, trimReturns, List.rdropWhile_concat_pos]
    exact decide_eq_true rfl
  · rw [same]

theorem iterate_chompReturn_eq (times : Nat)
    (visible : (chompReturn^[times] line).getLast? ≠ some '\r') :
    chompReturn^[times] line = trimReturns line := by
  have trimmed :
      trimReturns (chompReturn^[times] line) = trimReturns line := by
    clear visible
    induction times generalizing line with
    | zero => rfl
    | succ times ih =>
        rw [Function.iterate_succ_apply, ih,
          trimReturns_chompReturn]
  rw [← trimmed, trimReturns_of_visible visible]

theorem prefix_chompReturn_iff {beginning : Text} (line : Text)
    (visible : beginning.getLast? ≠ some '\r') :
    beginning <+: chompReturn line ↔ beginning <+: line := by
  rcases chompReturn_cases line with split | ⟨same, _⟩
  · constructor
    · intro within
      rw [split]
      exact within.trans (List.prefix_append _ _)
    · intro within
      rw [split, List.prefix_concat_iff] at within
      rcases within with whole | within
      · rw [whole] at visible
        exact absurd List.getLast?_concat visible
      · exact within
  · rw [same]

theorem prefix_trimReturns_iff {beginning : Text} (line : Text)
    (visible : beginning.getLast? ≠ some '\r') :
    beginning <+: trimReturns line ↔ beginning <+: line := by
  induction line using List.reverseRecOn with
  | nil => exact Iff.rfl
  | append_singleton front last ih =>
      by_cases returns : last = '\r'
      · have shorter : trimReturns (front ++ [last]) = trimReturns front := by
          rw [trimReturns, List.rdropWhile_concat_pos, trimReturns]
          exact decide_eq_true returns
        rw [shorter, ih, List.prefix_concat_iff]
        refine ⟨Or.inr, fun within => within.resolve_left ?_⟩
        rintro rfl
        rw [List.getLast?_concat, returns] at visible
        exact visible rfl
      · rw [trimReturns, List.rdropWhile_concat_neg]
        rw [decide_eq_true_eq]
        exact returns

theorem trimReturns_append (line : Text) :
    ∃ returns,
      line = trimReturns line ++ returns ∧
        ∀ character ∈ returns, character = '\r' := by
  refine ⟨line.rtakeWhile (· = '\r'), ?_, ?_⟩
  · rw [trimReturns, List.rdropWhile_append_rtakeWhile]
  · intro character member
    have alike := List.mem_rtakeWhile_imp member
    exact of_decide_eq_true alike

theorem map_trimReturns_chompLines (lines : List Text) :
    (chompLines lines).map trimReturns = lines.map trimReturns := by
  induction lines with
  | nil => rfl
  | cons head tail ih =>
      cases tail with
      | nil => rfl
      | cons next rest =>
          rw [chompLines_cons_cons, List.map_cons, ih,
            trimReturns_chompReturn]
          rfl

theorem chompLines_ne_nil (filled : lines ≠ []) :
    chompLines lines ≠ [] := by
  cases lines with
  | nil => exact absurd rfl filled
  | cons line rest =>
      cases rest with
      | nil => exact List.cons_ne_nil _ _
      | cons next rest => exact List.cons_ne_nil _ _

theorem mem_chompLines
    (member : line ∈ chompLines lines) :
    ∃ whole ∈ lines, line = whole ∨ line = chompReturn whole := by
  induction lines with
  | nil => cases member
  | cons head tail ih =>
      cases tail with
      | nil => exact ⟨line, member, Or.inl rfl⟩
      | cons next rest =>
          rw [chompLines_cons_cons, List.mem_cons] at member
          rcases member with rfl | member
          · exact ⟨head, List.mem_cons_self, Or.inr rfl⟩
          · obtain ⟨whole, within, shape⟩ := ih member
            exact ⟨whole, List.mem_cons_of_mem _ within, shape⟩

/-- Chomping changes nothing when no line before the last ends in a carriage
return. -/
theorem chompLines_eq_self_iff (lines : List Text) :
    chompLines lines = lines ↔
      ∀ line ∈ lines.dropLast, line.getLast? ≠ some '\r' := by
  induction lines with
  | nil =>
      refine iff_of_true rfl ?_
      intro line member
      cases member
  | cons head tail ih =>
      cases tail with
      | nil =>
          refine iff_of_true rfl ?_
          intro line member
          cases member
      | cons next rest =>
          rw [chompLines_cons_cons, List.cons.injEq, ih,
            chompReturn_eq_self_iff, List.dropLast_cons_cons,
            List.forall_mem_cons]

theorem flatMap_chompLines {Item : Type} {parts : Text → List Item}
    (same : ∀ line, parts (chompReturn line) = parts line)
    (lines : List Text) :
    (chompLines lines).flatMap parts = lines.flatMap parts := by
  induction lines with
  | nil => rfl
  | cons head tail ih =>
      cases tail with
      | nil => rfl
      | cons next rest =>
          rw [chompLines_cons_cons, List.flatMap_cons, List.flatMap_cons, same,
            ih]

theorem length_flatMap_le {Item Part : Type}
    {few all : Item → List Part} {items : List Item}
    (shorter : ∀ item ∈ items, (few item).length ≤ (all item).length) :
    (items.flatMap few).length ≤ (items.flatMap all).length := by
  induction items with
  | nil => exact Nat.le_refl _
  | cons head tail ih =>
      rw [List.forall_mem_cons] at shorter
      rw [List.flatMap_cons, List.flatMap_cons, List.length_append,
        List.length_append]
      exact Nat.add_le_add shorter.1 (ih shorter.2)

/-- Lists of parts, some of which are left out, are the same when all that is
left out is empty. -/
theorem flatMap_eq_flatMap_iff {Item Part : Type}
    {few all : Item → List Part} {items : List Item}
    (within : ∀ item ∈ items, few item = all item ∨ few item = []) :
    items.flatMap few = items.flatMap all ↔
      ∀ item ∈ items, few item = all item := by
  have shorter :
      ∀ item ∈ items, (few item).length ≤ (all item).length := by
    intro item member
    rcases within item member with same | empty
    · exact Nat.le_of_eq (congrArg List.length same)
    · rw [empty]
      exact Nat.zero_le _
  constructor
  · intro whole
    clear within
    induction items with
    | nil =>
        intro item member
        cases member
    | cons head tail ih =>
        rw [List.forall_mem_cons] at shorter ⊢
        rw [List.flatMap_cons, List.flatMap_cons] at whole
        have rest := length_flatMap_le shorter.2
        have lengths := congrArg List.length whole
        rw [List.length_append, List.length_append] at lengths
        have split := List.append_inj whole
          (Nat.le_antisymm shorter.1 (by omega))
        exact ⟨split.1, ih shorter.2 split.2⟩
  · intro same
    exact List.flatMap_congr same

/-- Lines without a line feed in them. -/
def Unbroken (lines : List Text) : Prop :=
  ∀ line ∈ lines, '\n' ∉ line

theorem unbroken_splitOn (text : Text) : Unbroken (text.splitOn '\n') := by
  intro line member
  exact fun inside => by
    induction text generalizing line with
    | nil =>
        rw [List.splitOn_nil, List.mem_singleton] at member
        rw [member] at inside
        cases inside
    | cons head tail ih =>
        rw [List.splitOn_cons_eq_if_modifyHead] at member
        split at member
        next =>
          rcases List.mem_cons.mp member with rfl | member
          · cases inside
          · exact ih line member inside
        next different =>
          rcases parts : tail.splitOn '\n' with _ | ⟨first, rest⟩
          · rw [parts] at member
            cases member
          · rw [parts, List.modifyHead_cons] at member
            rcases List.mem_cons.mp member with rfl | member
            · rcases List.mem_cons.mp inside with same | inside
              · exact different (by rw [← same]; exact beq_self_eq_true _)
              · exact ih first
                  (by rw [parts]; exact List.mem_cons_self) inside
            · exact ih line
                (by rw [parts]; exact List.mem_cons_of_mem _ member) inside

theorem Unbroken.chompLines (unbroken : Unbroken lines) :
    Unbroken (chompLines lines) := by
  intro line member inside
  obtain ⟨whole, within, shape⟩ := mem_chompLines member
  rcases shape with rfl | rfl
  · exact unbroken line within inside
  · exact unbroken whole within (mem_of_mem_chompReturn inside)

theorem splitLines_joinLines (filled : lines ≠ [])
    (unbroken : Unbroken lines) :
    splitLines (joinLines lines) = chompLines lines := by
  rw [splitLines, joinLines, List.splitOn_intercalate '\n' unbroken filled]

theorem joinLines_splitOn (text : Text) :
    joinLines (text.splitOn '\n') = text :=
  List.intercalate_splitOn '\n'

theorem joinLines_injective {lines others : List Text}
    (filled : lines ≠ []) (unbroken : Unbroken lines)
    (othersFilled : others ≠ []) (othersUnbroken : Unbroken others)
    (same : joinLines lines = joinLines others) : lines = others := by
  have split := congrArg (List.splitOn '\n') same
  rwa [joinLines, joinLines, List.splitOn_intercalate '\n' unbroken filled,
    List.splitOn_intercalate '\n' othersUnbroken othersFilled] at split

theorem chompReturn_three_eq_self_iff (line : Text) :
    chompReturn (chompReturn (chompReturn line)) = line ↔
      chompReturn line = line := by
  constructor
  · intro same
    rcases chompReturn_cases line with split | ⟨fixed, _⟩
    · have lengths := congrArg List.length split
      have first := length_chompReturn_le (chompReturn line)
      have second :=
        length_chompReturn_le (chompReturn (chompReturn line))
      rw [same] at second
      rw [List.length_append, List.length_singleton] at lengths
      omega
    · exact fixed
  · intro fixed
    rw [fixed, fixed, fixed]

theorem chompLines_three_eq_self_iff (lines : List Text) :
    chompLines (chompLines (chompLines lines)) = lines ↔
      chompLines lines = lines := by
  induction lines with
  | nil => exact Iff.rfl
  | cons head tail ih =>
      cases tail with
      | nil => exact Iff.rfl
      | cons next rest =>
          have filled :
              ∀ {others : List Text}, others ≠ [] → ∀ line,
                chompLines (line :: others) =
                  chompReturn line :: chompLines others := by
            intro others filled line
            cases others with
            | nil => exact absurd rfl filled
            | cons _ _ => rfl
          have once := chompLines_ne_nil (List.cons_ne_nil next rest)
          rw [filled (List.cons_ne_nil _ _), filled once,
            filled (chompLines_ne_nil once), List.cons.injEq,
            List.cons.injEq, ih,
            chompReturn_three_eq_self_iff]

/-- Put a line in the place of the first one that is looked for. -/
def setFirst (wanted : Text → Bool) (line : Text) :
    List Text → Option (List Text)
  | [] => none
  | head :: tail =>
      if wanted head then some (line :: tail)
      else (setFirst wanted line tail).map (head :: ·)

theorem setFirst_cons (wanted : Text → Bool) (line head : Text)
    (tail : List Text) :
    setFirst wanted line (head :: tail) =
      if wanted head then some (line :: tail)
      else (setFirst wanted line tail).map (head :: ·) :=
  rfl

theorem setFirst_eq (wanted : Text → Bool) (line : Text)
    (lines : List Text) :
    setFirst wanted line lines =
      (lines.findIdx? wanted).map fun index => lines.set index line := by
  induction lines with
  | nil => rfl
  | cons head tail ih =>
      rw [setFirst_cons, List.findIdx?_cons, ih]
      by_cases found : wanted head = true
      · rw [if_pos found, if_pos found, Option.map_some, List.set_cons_zero]
      · rw [if_neg found, if_neg found, Option.map_map, Option.map_map]
        rfl

theorem setFirst_append (line : Text)
    {before : List Text} (others : ∀ other ∈ before, wanted other = false)
    {old : Text} (own : wanted old = true) (rest : List Text) :
    setFirst wanted line (before ++ old :: rest) =
      some (before ++ line :: rest) := by
  induction before with
  | nil => rw [List.nil_append, setFirst_cons, if_pos own, List.nil_append]
  | cons head tail ih =>
      rw [List.forall_mem_cons] at others
      rw [List.cons_append, setFirst_cons, others.1, if_neg Bool.false_ne_true,
        ih others.2]
      rfl

theorem setFirst_of_absent (line : Text)
    (others : ∀ other ∈ lines, wanted other = false) :
    setFirst wanted line lines = none := by
  rw [setFirst_eq, Option.map_eq_none_iff, List.findIdx?_eq_none_iff]
  exact others

theorem setFirst_of_find
    (found : lines.find? wanted = some line) :
    setFirst wanted line lines = some lines := by
  induction lines with
  | nil => cases found
  | cons head tail ih =>
      rw [List.find?_cons] at found
      rw [setFirst_cons]
      cases first : wanted head with
      | true =>
          rw [first] at found
          rw [if_pos rfl, Option.some.inj found]
      | false =>
          rw [first] at found
          rw [if_neg Bool.false_ne_true, ih found]
          rfl

theorem find_of_setFirst_none
    (missing : setFirst wanted line lines = none) :
    lines.find? wanted = none := by
  rw [setFirst_eq, Option.map_eq_none_iff, List.findIdx?_eq_none_iff] at missing
  rw [List.find?_eq_none]
  intro item member found
  rw [missing item member] at found
  cases found

theorem find_setFirst
    {lines next : List Text} (own : wanted line = true)
    (run : setFirst wanted line lines = some next) :
    next.find? wanted = some line := by
  induction lines generalizing next with
  | nil => cases run
  | cons head tail ih =>
      rw [setFirst_cons] at run
      by_cases found : wanted head = true
      · rw [if_pos found] at run
        rw [← Option.some.inj run, List.find?_cons_of_pos own]
      · rw [if_neg found] at run
        obtain ⟨rest, reached, rfl⟩ := Option.map_eq_some_iff.mp run
        rw [List.find?_cons_of_neg found]
        exact ih reached

theorem find_setFirst_of_apart {wanted other : Text → Bool}
    {lines next : List Text}
    (apart : ∀ item, wanted item = true → other item = false)
    (own : wanted line = true)
    (run : setFirst wanted line lines = some next) :
    next.find? other = lines.find? other := by
  induction lines generalizing next with
  | nil => cases run
  | cons head tail ih =>
      rw [setFirst_cons] at run
      by_cases found : wanted head = true
      · rw [if_pos found] at run
        rw [← Option.some.inj run, List.find?_cons, List.find?_cons,
          apart line own, apart head found]
      · rw [if_neg found] at run
        obtain ⟨rest, reached, rfl⟩ := Option.map_eq_some_iff.mp run
        rw [List.find?_cons, List.find?_cons, ih reached]

theorem find_chompLines
    (same : ∀ other, wanted (chompReturn other) = wanted other)
    (kept : chompReturn line = line)
    (found : lines.find? wanted = some line) :
    (chompLines lines).find? wanted = some line := by
  induction lines with
  | nil => cases found
  | cons head tail ih =>
      cases tail with
      | nil => exact found
      | cons next rest =>
          rw [List.find?_cons] at found
          rw [chompLines_cons_cons, List.find?_cons, same]
          cases first : wanted head with
          | true =>
              rw [first] at found
              rw [Option.some.inj found, kept]
          | false =>
              rw [first] at found
              exact ih found

/-- `replace` of a pattern that is not empty, by a text without `$`. -/
def replaceFirst (pattern replacement : Text) : Text → Text
  | [] => []
  | letter :: rest =>
      if pattern.isPrefixOf (letter :: rest) then
        replacement ++ (letter :: rest).drop pattern.length
      else
        letter :: replaceFirst pattern replacement rest

theorem replaceFirst_cases {pattern : Text} (filled : pattern ≠ [])
    (replacement text : Text) :
    ¬ pattern <:+: text ∧ replaceFirst pattern replacement text = text ∨
      ∃ before after,
        text = before ++ pattern ++ after ∧
          replaceFirst pattern replacement text =
            before ++ replacement ++ after := by
  induction text with
  | nil =>
      refine Or.inl ⟨fun within => ?_, rfl⟩
      exact filled (List.eq_nil_of_infix_nil within)
  | cons letter rest ih =>
      rw [replaceFirst]
      by_cases first : pattern.isPrefixOf (letter :: rest) = true
      · obtain ⟨after, whole⟩ := List.isPrefixOf_iff_prefix.mp first
        refine Or.inr ⟨[], after, whole.symm, ?_⟩
        rw [if_pos first, ← whole, List.drop_left, List.nil_append]
      · rw [if_neg first]
        rcases ih with
          ⟨missing, same⟩ | ⟨before, after, whole, result⟩
        · refine Or.inl ⟨fun within => ?_, by rw [same]⟩
          rcases List.infix_cons_iff.mp within with beginning | within
          · exact first (List.isPrefixOf_iff_prefix.mpr beginning)
          · exact missing within
        · refine Or.inr ⟨letter :: before, after, ?_, ?_⟩
          · rw [whole]
            rfl
          · rw [result]
            rfl

theorem replaceFirst_of_missing {pattern : Text} (filled : pattern ≠ [])
    (replacement : Text) {text : Text} (missing : ¬ pattern <:+: text) :
    replaceFirst pattern replacement text = text := by
  rcases replaceFirst_cases filled replacement text with
    ⟨_, same⟩ | ⟨before, after, whole, _⟩
  · exact same
  · exact absurd ⟨before, after, whole.symm⟩ missing

/-- A text with one occurrence of a pattern taken out, if it has any. -/
def TakenOut (pattern text rest : Text) : Prop :=
  ¬ pattern <:+: text ∧ rest = text ∨
    ∃ before after,
      text = before ++ pattern ++ after ∧ rest = before ++ after

theorem takenOut_replaceFirst {pattern : Text} (filled : pattern ≠ [])
    (text : Text) :
    TakenOut pattern text (replaceFirst pattern [] text) := by
  rcases replaceFirst_cases filled [] text with
    missing | ⟨before, after, whole, result⟩
  · exact Or.inl missing
  · rw [List.append_nil] at result
    exact Or.inr ⟨before, after, whole, result⟩

theorem infix_of_two_occurrences {tail : Text}
    (fresh : letter ∉ tail) {before after others rest : Text}
    (whole :
      before ++ letter :: tail ++ after = others ++ letter :: tail ++ rest)
    (earlier : before.length < others.length) :
    letter :: tail <:+: before ++ after ∧
      letter :: tail <:+: others ++ rest := by
  rw [List.append_assoc, List.append_assoc] at whole
  rcases List.append_eq_append_iff.mp whole with
    ⟨between, place, remains⟩ | ⟨between, place, remains⟩
  · rcases List.append_eq_append_iff.mp remains with
      ⟨gap, apart, later⟩ | ⟨overlap, within, later⟩
    · constructor
      · exact ⟨before ++ gap, rest, by rw [later]; simp⟩
      · exact ⟨before, gap ++ rest, by rw [place, apart]; simp⟩
    · cases between with
      | nil =>
          rw [place, List.append_nil] at earlier
          exact absurd earlier (Nat.lt_irrefl _)
      | cons head others =>
          rw [List.cons_append, List.cons.injEq] at within
          cases overlap with
          | nil =>
              rw [List.append_nil] at within
              rw [List.nil_append] at later
              constructor
              · exact ⟨before, rest, by rw [← later]; simp⟩
              · exact ⟨before, rest, by
                  rw [place, ← within.1, ← within.2]⟩
          | cons next overlap =>
              rw [List.cons_append, List.cons_append, List.cons.injEq] at later
              refine absurd ?_ fresh
              rw [within.2, later.1]
              exact List.mem_append_right _ List.mem_cons_self
  · have lengths := congrArg List.length place
    rw [List.length_append] at lengths
    omega

theorem TakenOut.unique {tail text rest other : Text}
    (fresh : letter ∉ tail) (clean : ¬ letter :: tail <:+: rest)
    (taken : TakenOut (letter :: tail) text rest)
    (again : TakenOut (letter :: tail) text other) : other = rest := by
  rcases taken with ⟨missing, rfl⟩ | ⟨before, after, whole, rfl⟩
  · rcases again with ⟨_, same⟩ | ⟨left, right, whole, _⟩
    · exact same
    · exact absurd ⟨left, right, whole.symm⟩ missing
  · rcases again with ⟨missing, _⟩ | ⟨left, right, other, rfl⟩
    · exact absurd ⟨before, after, whole.symm⟩ missing
    · rw [whole] at other
      rcases Nat.lt_trichotomy before.length left.length with
        earlier | same | later
      · exact absurd
          (infix_of_two_occurrences fresh other earlier).1 clean
      · rw [List.append_assoc, List.append_assoc] at other
        obtain ⟨rfl, remains⟩ := List.append_inj other same
        rw [List.append_cancel_left remains]
      · exact absurd
          (infix_of_two_occurrences fresh other.symm later).2 clean

theorem infix_append_cons_iff {pattern : Text}
    (missing : letter ∉ pattern) (before after : Text) :
    pattern <:+: before ++ letter :: after ↔
      pattern <:+: before ∨ pattern <:+: after := by
  constructor
  · rintro ⟨left, right, whole⟩
    rw [List.append_assoc] at whole
    rcases List.append_eq_append_iff.mp whole with
      ⟨inner, place, remains⟩ | ⟨inner, place, remains⟩
    · rcases List.append_eq_append_iff.mp remains with
        ⟨gap, ends, _⟩ | ⟨overlap, ends, later⟩
      · exact Or.inl ⟨left, gap, by rw [place, ends, List.append_assoc]⟩
      · cases overlap with
        | nil =>
            rw [List.append_nil] at ends
            exact Or.inl ⟨left, [], by rw [place, ends, List.append_nil]⟩
        | cons next overlap =>
            rw [List.cons_append, List.cons.injEq] at later
            refine absurd ?_ missing
            rw [ends, later.1]
            exact List.mem_append_right _ List.mem_cons_self
    · cases inner with
      | nil =>
          rw [List.nil_append] at remains
          cases pattern with
          | nil => exact Or.inl (List.nil_infix)
          | cons head tail =>
              rw [List.cons_append, List.cons.injEq] at remains
              exact absurd (remains.1 ▸ List.mem_cons_self) missing
      | cons head inner =>
          rw [List.cons_append, List.cons.injEq] at remains
          exact Or.inr ⟨inner, right, by
            rw [remains.2, List.append_assoc]⟩
  · rintro (within | within)
    · exact within.trans (List.prefix_append _ _).isInfix
    · exact within.trans
        ((List.suffix_cons letter after).trans
          (List.suffix_append _ _)).isInfix

end GravitPanel.TextEdits
