import GravitPanel.LauncherDockered.JvmOptions

/-!
# Merged options

The first assignment is edited and the last one counts, and quotes are taken
for characters of an option.  Both go well exactly if the last assignment has
the required options when it is not the first, and also when it is quoted.
-/

namespace GravitPanel.LauncherDockered

open JavaScript TextEdits Words

/-- What is asked of the environment file afterwards. -/
structure Merged (text : Text) : Prop where
  required :
    ∀ option ∈ requiredLaunchServerJvmOptions,
      option ∈ effectiveOptions (compatibleText text)
  kept :
    (effectiveOptions text).Sublist (effectiveOptions (compatibleText text))
  balanced : quotesBalanced (effectiveValue (compatibleText text)) = true
  others : otherLines (compatibleText text) = otherLines text
  again : compatibleText (compatibleText text) = compatibleText text

/-- Quotes around the value of the last assignment are balanced.  An assignment
in quotes has the required options as words of their own, and so has the last
one of several. -/
structure MergesWell (text : Text) : Prop where
  balanced : quotesBalanced (effectiveValue text) = true
  quoted :
    (assignedValues text).length = 1 →
      (effectiveValue text).head?.any isQuote = true →
        ∀ option ∈ requiredLaunchServerJvmOptions,
          option ∈ optionWords (effectiveValue text)
  last :
    1 < (assignedValues text).length →
      ∀ option ∈ requiredLaunchServerJvmOptions,
        option ∈ effectiveOptions text

def isFilled (line : Text) : Bool :=
  line.any fun character => !isWhiteSpace character

/-- The lines that are not blank, without carriage returns at their ends. -/
def filledLines (lines : List Text) : List Text :=
  (lines.map trimReturns).filter isFilled

def contentLines (text : Text) : List Text :=
  filledLines (text.splitOn '\n')

theorem isOptionsLine_trimReturns (line : Text) :
    isOptionsLine (trimReturns line) = isOptionsLine line := by
  have visible : javaOptsKey.getLast? ≠ some '\r' := by decide
  rw [Bool.eq_iff_iff, isOptionsLine, isOptionsLine,
    List.isPrefixOf_iff_prefix, List.isPrefixOf_iff_prefix]
  exact prefix_trimReturns_iff line visible

variable {options : List Text} {lines : List Text} {line : Text}

theorem isFilled_of_isOptionsLine
    (own : isOptionsLine line = true) : isFilled line = true := by
  obtain ⟨rest, whole⟩ := List.isPrefixOf_iff_prefix.mp own
  rw [isFilled, ← whole, List.any_append, Bool.or_eq_true]
  exact Or.inl (by decide)

theorem assignedValue_trimReturns
    (own : isOptionsLine line = true) :
    assignedValue (trimReturns line) = assignedValue line := by
  obtain ⟨returns, shape, alike⟩ := trimReturns_append line
  rw [← isOptionsLine_trimReturns] at own
  obtain ⟨rest, whole⟩ := List.isPrefixOf_iff_prefix.mp own
  have white : ∀ character ∈ returns, isWhiteSpace character = true := by
    intro character member
    rw [alike character member]
    rfl
  have long : javaOptsKey.length ≤ (trimReturns line).length := by
    rw [← whole, List.length_append]
    exact Nat.le_add_right _ _
  have value : assignedValue line =
      assignedValue (trimReturns line ++ returns) :=
    congrArg assignedValue shape
  rw [value, assignedValue, assignedValue,
    List.drop_append_of_le_length long, trimChars_append_white _ white]

theorem filledLines_append (first second : List Text) :
    filledLines (first ++ second) =
      filledLines first ++ filledLines second := by
  rw [filledLines, List.map_append, List.filter_append]
  rfl

theorem filledLines_cons_of_own
    (own : isOptionsLine line = true) (rest : List Text) :
    filledLines (line :: rest) = trimReturns line :: filledLines rest := by
  have filled : isFilled (trimReturns line) = true := by
    apply isFilled_of_isOptionsLine
    rw [isOptionsLine_trimReturns]
    exact own
  rw [filledLines, List.map_cons, List.filter_cons, if_pos filled]
  rfl

theorem isOptionsLine_of_mem_filledLines
    (others : ∀ line ∈ lines, isOptionsLine line = false) :
    ∀ line ∈ filledLines lines, isOptionsLine line = false := by
  intro line member
  obtain ⟨old, present, same⟩ :=
    List.mem_map.mp (List.mem_filter.mp member).1
  rw [← same, isOptionsLine_trimReturns]
  exact others old present

theorem assignedValues_eq (text : Text) :
    assignedValues text =
      ((contentLines text).filter isOptionsLine).map assignedValue := by
  rw [assignedValues, contentLines]
  generalize text.splitOn '\n' = lines
  induction lines with
  | nil => rfl
  | cons line rest ih =>
      by_cases own : isOptionsLine line = true
      · have trimmed : isOptionsLine (trimReturns line) = true := by
          rw [isOptionsLine_trimReturns]
          exact own
        rw [filledLines_cons_of_own own, List.filter_cons, if_pos own,
          List.filter_cons, if_pos trimmed, List.map_cons, List.map_cons,
          ih, assignedValue_trimReturns own]
      · have single : (filledLines [line]).filter isOptionsLine = [] := by
          refine List.filter_eq_nil_iff.mpr fun other member => ?_
          have apart := isOptionsLine_of_mem_filledLines
            (fun item inside => by
              rw [List.mem_singleton.mp inside]
              exact Bool.eq_false_iff.mpr own) other member
          rw [apart]
          exact Bool.false_ne_true
        have split : filledLines (line :: rest) =
            filledLines [line] ++ filledLines rest :=
          filledLines_append [line] rest
        rw [split, List.filter_append, single, List.nil_append,
          List.filter_cons, if_neg own, ih]

theorem filter_eraseP {Item : Type} {wanted kept : Item → Bool}
    (within : ∀ item, wanted item = true → kept item = true)
    (items : List Item) :
    (items.eraseP wanted).filter kept = (items.filter kept).eraseP wanted := by
  induction items with
  | nil => rfl
  | cons head tail ih =>
      by_cases own : wanted head = true
      · rw [List.eraseP_cons_of_pos own, List.filter_cons,
          if_pos (within head own), List.eraseP_cons_of_pos own]
      · rw [List.eraseP_cons_of_neg own, List.filter_cons, List.filter_cons,
          ih]
        by_cases stays : kept head = true
        · rw [if_pos stays, if_pos stays, List.eraseP_cons_of_neg own]
        · rw [if_neg stays, if_neg stays]

theorem otherLines_eq (text : Text) :
    otherLines text = (contentLines text).eraseP isOptionsLine :=
  filter_eraseP (fun _ own => isFilled_of_isOptionsLine own) _

theorem contentLines_eq (text : Text) :
    contentLines text = filledLines (splitLines text) := by
  rw [contentLines, filledLines, filledLines, splitLines,
    map_trimReturns_chompLines]

theorem contentLines_concat (text : Text) :
    contentLines (text ++ ['\n']) = contentLines text := by
  rw [contentLines, List.splitOn_append_cons_self, filledLines_append]
  exact List.append_nil _

theorem contentLines_withOneLineBreak (text : Text) :
    contentLines (withOneLineBreak text) = contentLines text := by
  rw [withOneLineBreak, contentLines_concat]
  induction text using List.reverseRecOn with
  | nil => rfl
  | append_singleton front last ih =>
      by_cases ends : last = '\n'
      · rw [List.rdropWhile_concat_pos, ih, ends,
          contentLines_concat]
        exact decide_eq_true ends
      · rw [List.rdropWhile_concat_neg]
        rw [decide_eq_true_eq]
        exact ends

theorem currentOptions_filledLines (lines : List Text) :
    currentOptions (filledLines lines) = currentOptions lines := by
  cases found : lines.find? isOptionsLine with
  | none =>
      have others : ∀ line ∈ lines, isOptionsLine line = false := by
        intro line member
        exact Bool.eq_false_iff.mpr (List.find?_eq_none.mp found line member)
      have missing : (filledLines lines).find? isOptionsLine = none := by
        refine List.find?_eq_none.mpr fun line member => ?_
        rw [isOptionsLine_of_mem_filledLines others line member]
        exact Bool.false_ne_true
      rw [currentOptions, currentOptions, found, missing]
  | some line =>
      obtain ⟨own, before, rest, split, others⟩ :=
        List.find?_eq_some_iff_append.mp found
      have apart : ∀ other ∈ before, isOptionsLine other = false := by
        intro other member
        have negated := others other member
        rwa [Bool.not_eq_true'] at negated
      have missing : (filledLines before).find? isOptionsLine = none := by
        refine List.find?_eq_none.mpr fun other member => ?_
        rw [isOptionsLine_of_mem_filledLines apart other member]
        exact Bool.false_ne_true
      have trimmed : isOptionsLine (trimReturns line) = true := by
        rw [isOptionsLine_trimReturns]
        exact own
      have first : (filledLines lines).find? isOptionsLine =
          some (trimReturns line) := by
        rw [split, filledLines_append, filledLines_cons_of_own own,
          List.find?_append, missing, Option.none_or,
          List.find?_cons_of_pos trimmed]
      rw [currentOptions, currentOptions, found, first]
      exact congrArg optionWords (assignedValue_trimReturns own)

/-- Options are words without white space. -/
def Spoken (options : List Text) : Prop :=
  ∀ option ∈ options,
    option ≠ [] ∧
      ∀ character ∈ option, (!isWhiteSpace character) = true

theorem spoken_optionWords (value : Text) : Spoken (optionWords value) :=
  fun _ member => word_of_mem_words member

theorem spoken_required : Spoken requiredLaunchServerJvmOptions := by
  have words : ∀ option ∈ requiredLaunchServerJvmOptions,
      option ≠ [] ∧
        option.all (fun character => !isWhiteSpace character) = true := by
    decide
  intro option member
  obtain ⟨nonempty, plain⟩ := words option member
  exact ⟨nonempty, List.all_eq_true.mp plain⟩

theorem spoken_currentOptions (lines : List Text) :
    Spoken (currentOptions lines) := by
  rw [currentOptions]
  cases lines.find? isOptionsLine with
  | none =>
      intro option absent
      cases absent
  | some line => exact spoken_optionWords _

theorem mem_missingOptions {option : Text} :
    option ∈ missingOptions lines ↔
      option ∈ requiredLaunchServerJvmOptions ∧
        option ∉ currentOptions lines := by
  simp [missingOptions]

theorem spoken_merged (lines : List Text) :
    Spoken (currentOptions lines ++ missingOptions lines) := by
  intro option member
  rcases List.mem_append.mp member with own | added
  · exact spoken_currentOptions lines option own
  · exact spoken_required option (mem_missingOptions.mp added).1

theorem isOptionsLine_optionsLine (options : List Text) :
    isOptionsLine (optionsLine options) = true :=
  List.isPrefixOf_iff_prefix.mpr (List.prefix_append _ _)

theorem not_mem_optionsLine (spoken : Spoken options)
    {character : Char} (white : isWhiteSpace character = true)
    (other : character ≠ ' ') (key : character ∉ javaOptsKey) :
    character ∉ optionsLine options := by
  intro member
  rcases List.mem_append.mp member with inside | value
  · exact key inside
  · rcases mem_joinWords value with blank | ⟨option, present, within⟩
    · exact other blank
    · have visible := (spoken option present).2 character within
      rw [white] at visible
      cases visible

theorem trimReturns_optionsLine
    (spoken : Spoken options) :
    trimReturns (optionsLine options) = optionsLine options := by
  apply trimReturns_of_visible
  intro last
  exact not_mem_optionsLine spoken (by decide) (by decide) (by decide)
    (List.mem_of_getLast? last)

theorem head?_joinWords {first : Text} (named : first ≠ [])
    (rest : List Text) :
    (joinWords ' ' (first :: rest)).head? = first.head? := by
  rw [joinWords_cons]
  cases first with
  | nil => exact absurd rfl named
  | cons character others => rfl

theorem assignedValue_optionsLine
    (spoken : Spoken options) :
    assignedValue (optionsLine options) = joinWords ' ' options := by
  rw [assignedValue, optionsLine, List.drop_left]
  apply trimChars_of_ends
  · intro first begins
    cases options with
    | nil => cases begins
    | cons option rest =>
        obtain ⟨named, visible⟩ := spoken option List.mem_cons_self
        rw [head?_joinWords named] at begins
        have white := visible first (List.mem_of_mem_head? begins)
        rwa [Bool.not_eq_true'] at white
  · intro last ends
    rcases List.eq_nil_or_concat options with empty | ⟨front, option, shape⟩
    · rw [empty] at ends
      cases ends
    · obtain ⟨named, visible⟩ := spoken option (by rw [shape]; simp)
      rw [shape, List.concat_eq_append, getLast?_joinWords front named] at ends
      have white := visible last (List.mem_of_getLast? ends)
      rwa [Bool.not_eq_true'] at white

theorem optionWords_joinWords
    (spoken : Spoken options) :
    optionWords (joinWords ' ' options) = options :=
  words_joinWords (by decide) spoken

theorem unbroken_insertAtEnd
    (whole : '\n' ∉ line) (unbroken : Unbroken lines) :
    Unbroken (insertAtEnd line lines) := by
  intro other member
  rw [insertAtEnd] at member
  by_cases ends : lines.getLast? = some []
  · rw [if_pos ends, List.mem_append, List.mem_cons,
      List.mem_singleton] at member
    rcases member with front | rfl | rfl
    · exact unbroken other (List.mem_of_mem_dropLast front)
    · exact whole
    · exact List.not_mem_nil
  · rw [if_neg ends, List.mem_append, List.mem_singleton] at member
    rcases member with front | rfl
    · exact unbroken other front
    · exact whole

theorem insertAtEnd_ne_nil (line : Text) (lines : List Text) :
    insertAtEnd line lines ≠ [] := by
  rw [insertAtEnd]
  by_cases ends : lines.getLast? = some []
  · rw [if_pos ends]
    exact List.append_ne_nil_of_right_ne_nil _ (List.cons_ne_nil _ _)
  · rw [if_neg ends]
    exact List.append_ne_nil_of_right_ne_nil _ (List.cons_ne_nil _ _)

theorem filledLines_insertAtEnd
    (own : isOptionsLine line = true) (trimmed : trimReturns line = line)
    (lines : List Text) :
    filledLines (insertAtEnd line lines) = filledLines lines ++ [line] := by
  have single : filledLines [line] = [line] := by
    rw [filledLines_cons_of_own own, trimmed]
    rfl
  rw [insertAtEnd]
  by_cases ends : lines.getLast? = some []
  · obtain ⟨front, shape⟩ := List.getLast?_eq_some_iff.mp ends
    have last : filledLines [[]] = [] := rfl
    rw [if_pos ends, shape, List.dropLast_concat, filledLines_append,
      filledLines_append, last, List.append_nil, filledLines_cons_of_own own,
      trimmed, last]
  · rw [if_neg ends, filledLines_append, single]

theorem contentLines_joined (unbroken : Unbroken lines)
    (filled : lines ≠ []) :
    contentLines (withOneLineBreak (joinLines lines)) = filledLines lines := by
  rw [contentLines_withOneLineBreak, contentLines, joinLines,
    List.splitOn_intercalate '\n' unbroken filled]

/-- Nothing is written, or the first assignment is replaced, or one is
added. -/
inductive Outcome (text : Text) : Prop where
  | unchanged :
      missingOptions (contentLines text) = [] →
        compatibleText text = text → Outcome text
  | replaced {before rest : List Text} {old : Text} :
      missingOptions (contentLines text) ≠ [] →
        contentLines text = before ++ old :: rest →
          (∀ other ∈ before, isOptionsLine other = false) →
            isOptionsLine old = true →
              contentLines (compatibleText text) =
                  before ++
                    optionsLine
                      (currentOptions (contentLines text) ++
                        missingOptions (contentLines text)) :: rest →
                Outcome text
  | added :
      (∀ line ∈ contentLines text, isOptionsLine line = false) →
        contentLines (compatibleText text) =
            contentLines text ++
              [optionsLine requiredLaunchServerJvmOptions] →
          Outcome text

theorem missingOptions_contentLines (text : Text) :
    missingOptions (contentLines text) = missingOptions (splitLines text) := by
  rw [missingOptions, missingOptions, contentLines_eq,
    currentOptions_filledLines]

theorem outcome (text : Text) : Outcome text := by
  have unbroken : Unbroken (splitLines text) :=
    (unbroken_splitOn text).chompLines
  have missing := missingOptions_contentLines text
  by_cases nothing : missingOptions (splitLines text) = []
  · refine Outcome.unchanged (missing.trans nothing) ?_
    rw [compatibleText, ensureLaunchServerJvmCompatibility]
    simp only [if_pos nothing, Option.getD_none]
  · cases found : (splitLines text).find? isOptionsLine with
    | none =>
        have others : ∀ line ∈ splitLines text, isOptionsLine line = false := by
          intro line member
          exact Bool.eq_false_iff.mpr
            (List.find?_eq_none.mp found line member)
        have edited : compatibleText text =
            withOneLineBreak (joinLines (insertAtEnd
              (optionsLine requiredLaunchServerJvmOptions)
              (splitLines text))) := by
          rw [compatibleText, ensureLaunchServerJvmCompatibility]
          simp only [if_neg nothing, setFirst_of_absent _ others,
            Option.getD_some]
        refine Outcome.added ?_ ?_
        · rw [contentLines_eq]
          exact isOptionsLine_of_mem_filledLines others
        · rw [edited, contentLines_joined
            (unbroken_insertAtEnd (not_mem_optionsLine spoken_required
              (by decide) (by decide) (by decide)) unbroken)
            (insertAtEnd_ne_nil _ _),
            filledLines_insertAtEnd (isOptionsLine_optionsLine _)
              (trimReturns_optionsLine spoken_required), contentLines_eq]
    | some line =>
        obtain ⟨own, before, rest, split, others⟩ :=
          List.find?_eq_some_iff_append.mp found
        have apart : ∀ other ∈ before, isOptionsLine other = false := by
          intro other member
          have negated := others other member
          rwa [Bool.not_eq_true'] at negated
        have spoken := spoken_merged (splitLines text)
        have edited : compatibleText text =
            withOneLineBreak (joinLines (before ++
              optionsLine (currentOptions (splitLines text) ++
                missingOptions (splitLines text)) :: rest)) := by
          have replaced := setFirst_append
            (optionsLine (currentOptions (splitLines text) ++
              missingOptions (splitLines text))) apart own rest
          rw [← split] at replaced
          rw [compatibleText, ensureLaunchServerJvmCompatibility]
          simp only [if_neg nothing, replaced, Option.getD_some]
        have whole : Unbroken (before ++
            optionsLine (currentOptions (splitLines text) ++
              missingOptions (splitLines text)) :: rest) := by
          intro other member
          rw [split] at unbroken
          rcases List.mem_append.mp member with front | back
          · exact unbroken other (List.mem_append_left _ front)
          · rcases List.mem_cons.mp back with rfl | later
            · exact not_mem_optionsLine spoken (by decide) (by decide)
                (by decide)
            · exact unbroken other (List.mem_append_right _
                (List.mem_cons_of_mem _ later))
        have trimmed : isOptionsLine (trimReturns line) = true := by
          rw [isOptionsLine_trimReturns]
          exact own
        have shape : contentLines text =
            filledLines before ++ trimReturns line :: filledLines rest := by
          rw [contentLines_eq, split, filledLines_append,
            filledLines_cons_of_own own]
        refine Outcome.replaced (missing ▸ nothing) shape
          (isOptionsLine_of_mem_filledLines apart) trimmed ?_
        have current : currentOptions (contentLines text) =
            currentOptions (splitLines text) := by
          rw [contentLines_eq, currentOptions_filledLines]
        rw [edited, contentLines_joined whole
          (List.append_ne_nil_of_right_ne_nil _ (List.cons_ne_nil _ _)),
          filledLines_append,
          filledLines_cons_of_own (isOptionsLine_optionsLine _),
          trimReturns_optionsLine spoken, missing, current]

/-! ## Quotes -/

theorem visible_of_isQuote {quote : Char} (own : isQuote quote = true) :
    (!isWhiteSpace quote) = true := by
  rw [isQuote, Bool.or_eq_true, decide_eq_true_eq, decide_eq_true_eq] at own
  rcases own with rfl | rfl
  · rfl
  · rfl

theorem unquoted_of_plain {value : Text}
    (plain : value.head?.any isQuote = false) : unquoted value = value := by
  cases value with
  | nil => rfl
  | cons first rest =>
      have other : ¬ isQuote first = true := by
        rw [Bool.not_eq_true]
        exact plain
      rw [unquoted, if_neg fun both => other both.1]

theorem quotesBalanced_of_plain {value : Text}
    (plain : value.head?.any isQuote = false) :
    quotesBalanced value = true ↔
      value.count '"' % 2 = 0 ∧ value.count '\'' % 2 = 0 := by
  cases value with
  | nil => exact iff_of_true rfl ⟨rfl, rfl⟩
  | cons first rest =>
      have other : ¬ isQuote first = true := by
        rw [Bool.not_eq_true]
        exact plain
      rw [quotesBalanced, if_neg other, Bool.and_eq_true, decide_eq_true_eq,
        decide_eq_true_eq]

theorem quoted_shape {value : Text}
    (balanced : quotesBalanced value = true)
    (quoted : value.head?.any isQuote = true) :
    ∃ quote inner, isQuote quote = true ∧
      value = quote :: (inner ++ [quote]) ∧ unquoted value = inner := by
  cases value with
  | nil => cases quoted
  | cons quote rest =>
      have own : isQuote quote = true := quoted
      rw [quotesBalanced, if_pos own, Bool.and_eq_true,
        decide_eq_true_eq] at balanced
      obtain ⟨inner, shape⟩ := List.getLast?_eq_some_iff.mp balanced.1
      refine ⟨quote, inner, own, by rw [shape], ?_⟩
      rw [unquoted, if_pos ⟨own, balanced.1⟩, shape, List.dropLast_concat]

theorem not_mem_required {option : Text}
    (member : option ∈ requiredLaunchServerJvmOptions) {quote : Char}
    (own : isQuote quote = true) : quote ∉ option := by
  have free : ∀ required ∈ requiredLaunchServerJvmOptions,
      required.all (fun character => !isQuote character) = true := by
    decide
  intro inside
  have plain := List.all_eq_true.mp (free option member) quote inside
  rw [own] at plain
  cases plain

theorem mem_optionWords_unquoted {value option : Text}
    (balanced : quotesBalanced value = true)
    (required : option ∈ requiredLaunchServerJvmOptions)
    (member : option ∈ optionWords value) :
    option ∈ optionWords (unquoted value) := by
  cases quoted : value.head?.any isQuote with
  | false =>
      rw [unquoted_of_plain quoted]
      exact member
  | true =>
      obtain ⟨quote, inner, own, shape, inside⟩ :=
        quoted_shape balanced quoted
      rw [inside]
      rw [shape] at member
      exact mem_words_between (not_mem_required required own)
        (visible_of_isQuote own) member

theorem count_optionWords (value : Text) {quote : Char}
    (own : isQuote quote = true) :
    (optionWords value).flatten.count quote = value.count quote := by
  have letters : (optionWords value).flatten =
      [] ++ value.filter fun character => !isWhiteSpace character :=
    flatten_wordsFrom [] value
  rw [letters, List.nil_append, List.count_filter]
  exact visible_of_isQuote own

section Merge

variable {value : Text} {added : List Text}

theorem count_merged (required : ∀ option ∈ added,
      option ∈ requiredLaunchServerJvmOptions)
    {quote : Char} (own : isQuote quote = true) :
    (joinWords ' ' (optionWords value ++ added)).count quote =
      value.count quote := by
  have spoken : Spoken (optionWords value ++ added) := by
    intro option member
    rcases List.mem_append.mp member with old | new
    · exact spoken_optionWords value option old
    · exact spoken_required option (required option new)
  have free : added.flatten.count quote = 0 := by
    rw [List.count_eq_zero]
    intro inside
    obtain ⟨option, member, within⟩ := List.mem_flatten.mp inside
    exact not_mem_required (required option member) own within
  have joined := count_optionWords (joinWords ' ' (optionWords value ++ added))
    own
  rw [optionWords_joinWords spoken, List.flatten_append, List.count_append,
    count_optionWords value own, free, Nat.add_zero] at joined
  exact joined.symm

theorem quoted_merged
    (trimmed : ∀ first ∈ value.head?, isWhiteSpace first = false)
    (required : ∀ option ∈ added,
      option ∈ requiredLaunchServerJvmOptions) :
    (joinWords ' ' (optionWords value ++ added)).head?.any isQuote =
      value.head?.any isQuote := by
  cases value with
  | nil =>
      have none : optionWords [] = [] := rfl
      rw [none, List.nil_append]
      cases added with
      | nil => rfl
      | cons option rest =>
          have member := required option List.mem_cons_self
          have named := (spoken_required option member).1
          rw [head?_joinWords named]
          cases option with
          | nil => exact absurd rfl named
          | cons first others =>
              cases quoted : isQuote first with
              | false => exact quoted
              | true =>
                  exact absurd List.mem_cons_self
                    (not_mem_required member quoted)
  | cons first rest =>
      have visible : (!isWhiteSpace first) = true := by
        rw [trimmed first rfl]
        rfl
      obtain ⟨word, others, shape⟩ : ∃ word others,
          optionWords (first :: rest) = ([first] ++ word) :: others := by
        rw [optionWords, Words.words, wordsFrom, if_pos visible]
        exact wordsFrom_begin (List.cons_ne_nil _ _) rest
      have named : [first] ++ word ≠ [] := List.cons_ne_nil _ _
      rw [shape, List.cons_append, head?_joinWords named]
      rfl

theorem unbalanced_of_added
    (required : ∀ option ∈ added, option ∈ requiredLaunchServerJvmOptions)
    (some_added : added ≠ [])
    (quoted :
      (joinWords ' ' (optionWords value ++ added)).head?.any isQuote =
        true) :
    quotesBalanced (joinWords ' ' (optionWords value ++ added)) = false := by
  rw [Bool.eq_false_iff]
  intro balanced
  obtain ⟨quote, inner, own, shape, _⟩ := quoted_shape balanced quoted
  rcases List.eq_nil_or_concat added with empty | ⟨front, last, split⟩
  · exact some_added empty
  · rw [List.concat_eq_append] at split
    have member := required last (by rw [split]; simp)
    have named := (spoken_required last member).1
    have ends : (joinWords ' ' (optionWords value ++ added)).getLast? =
        last.getLast? := by
      rw [split, ← List.append_assoc, getLast?_joinWords _ named]
    rw [shape, ← List.cons_append, List.getLast?_concat] at ends
    exact not_mem_required member own (List.mem_of_getLast? ends.symm)

end Merge

section Condition

variable {text : Text}

theorem trimmed_assignedValue (line : Text) :
    ∀ first ∈ (assignedValue line).head?, isWhiteSpace first = false := by
  intro first begins
  obtain ⟨rest, shape⟩ := List.head?_eq_some_iff.mp begins
  exact head_trimChars shape

theorem filter_of_others {lines : List Text}
    (others : ∀ line ∈ lines, isOptionsLine line = false) :
    lines.filter isOptionsLine = [] := by
  refine List.filter_eq_nil_iff.mpr fun line member => ?_
  rw [others line member]
  exact Bool.false_ne_true

variable {before rest : List Text}

theorem values_at_first {line : Text}
    (others : ∀ other ∈ before, isOptionsLine other = false)
    (own : isOptionsLine line = true) :
    ((before ++ line :: rest).filter isOptionsLine).map assignedValue =
      assignedValue line :: (rest.filter isOptionsLine).map assignedValue := by
  rw [List.filter_append, filter_of_others others, List.nil_append,
    List.filter_cons, if_pos own, List.map_cons]

theorem eraseP_at_first {line : Text}
    (others : ∀ other ∈ before, isOptionsLine other = false)
    (own : isOptionsLine line = true) :
    (before ++ line :: rest).eraseP isOptionsLine = before ++ rest := by
  rw [List.eraseP_append_right _ (fun other member => by
    rw [others other member]
    exact Bool.false_ne_true), List.eraseP_cons_of_pos own]

theorem currentOptions_at_first {line : Text}
    (others : ∀ other ∈ before, isOptionsLine other = false)
    (own : isOptionsLine line = true) :
    currentOptions (before ++ line :: rest) =
      optionWords (assignedValue line) := by
  have missing : before.find? isOptionsLine = none := by
    refine List.find?_eq_none.mpr fun other member => ?_
    rw [others other member]
    exact Bool.false_ne_true
  rw [currentOptions, List.find?_append, missing, Option.none_or,
    List.find?_cons_of_pos own]

theorem compatibleText_eq_self
    (present : ∀ option ∈ requiredLaunchServerJvmOptions,
      option ∈ currentOptions (contentLines text)) :
    compatibleText text = text := by
  have nothing : missingOptions (splitLines text) = [] := by
    rw [← missingOptions_contentLines, List.eq_nil_iff_forall_not_mem]
    intro option member
    obtain ⟨required, absent⟩ := mem_missingOptions.mp member
    exact absent (present option required)
  rw [compatibleText, ensureLaunchServerJvmCompatibility]
  simp only [if_pos nothing, Option.getD_none]

theorem mem_merged {lines : List Text} {option : Text}
    (required : option ∈ requiredLaunchServerJvmOptions) :
    option ∈ currentOptions lines ++ missingOptions lines := by
  by_cases present : option ∈ currentOptions lines
  · exact List.mem_append_left _ present
  · exact List.mem_append_right _ (mem_missingOptions.mpr ⟨required, present⟩)

theorem currentOptions_eq_head (text : Text) :
    currentOptions (contentLines text) =
      optionWords ((assignedValues text).headD []) := by
  rw [assignedValues_eq, currentOptions, ← List.head?_filter]
  cases (contentLines text).filter isOptionsLine with
  | nil => rfl
  | cons line rest => rfl

theorem effectiveValue_of_values {values : List Text}
    (assigned : assignedValues text = values) :
    effectiveValue text = values.getLastD [] := by
  rw [effectiveValue, assigned]

theorem merged_iff_of_unchanged
    (nothing : missingOptions (contentLines text) = [])
    (same : compatibleText text = text) :
    Merged text ↔ MergesWell text := by
  have present : ∀ option ∈ requiredLaunchServerJvmOptions,
      option ∈ currentOptions (contentLines text) := by
    intro option required
    by_contra absent
    have missing := mem_missingOptions.mpr ⟨required, absent⟩
    rw [nothing] at missing
    cases missing
  rw [currentOptions_eq_head] at present
  constructor
  · intro merged
    refine ⟨?_, ?_, ?_⟩
    · rw [← same]
      exact merged.balanced
    · intro single _
      obtain ⟨value, only⟩ := List.length_eq_one_iff.mp single
      rw [effectiveValue_of_values only]
      rw [only] at present
      exact present
    · intro _
      have required := merged.required
      rw [same] at required
      exact required
  · intro well
    refine ⟨?_, ?_, ?_, ?_, ?_⟩
    · rw [same]
      intro option required
      cases values : assignedValues text with
      | nil =>
          have none := present option required
          rw [values] at none
          cases none
      | cons value rest =>
          cases rest with
          | nil =>
              have own : effectiveValue text = value :=
                effectiveValue_of_values values
              have inside := present option required
              rw [values] at inside
              rw [effectiveOptions]
              refine mem_optionWords_unquoted well.balanced required ?_
              rw [own]
              exact inside
          | cons next others =>
              refine well.last ?_ option required
              rw [values]
              exact Nat.succ_lt_succ (Nat.succ_pos _)
    · rw [same]
    · rw [same]
      exact well.balanced
    · rw [same]
    · rw [same, same]

theorem merged_iff_of_single {value : Text}
    (trimmed : ∀ first ∈ value.head?, isWhiteSpace first = false)
    {added : List Text}
    (required : ∀ option ∈ added, option ∈ requiredLaunchServerJvmOptions)
    (some_added : added ≠ [])
    (complete : ∀ option ∈ requiredLaunchServerJvmOptions,
      option ∈ optionWords value ++ added)
    (fresh : ∀ option ∈ added, option ∉ optionWords value)
    (before : assignedValues text = [value])
    (after : assignedValues (compatibleText text) =
      [joinWords ' ' (optionWords value ++ added)])
    (others : otherLines (compatibleText text) = otherLines text)
    (again : compatibleText (compatibleText text) = compatibleText text) :
    Merged text ↔ MergesWell text := by
  have spoken : Spoken (optionWords value ++ added) := by
    intro option member
    rcases List.mem_append.mp member with old | new
    · exact spoken_optionWords value option old
    · exact spoken_required option (required option new)
  have first : effectiveValue text = value := effectiveValue_of_values before
  have next : effectiveValue (compatibleText text) =
      joinWords ' ' (optionWords value ++ added) :=
    effectiveValue_of_values after
  have heads := quoted_merged trimmed required
  have counts : ∀ quote : Char, isQuote quote = true →
      (joinWords ' ' (optionWords value ++ added)).count quote =
        value.count quote :=
    fun _ own => count_merged required own
  have double := counts '"' rfl
  have single := counts '\'' rfl
  constructor
  · intro merged
    have balanced := merged.balanced
    rw [next] at balanced
    cases quoted : value.head?.any isQuote with
    | true =>
        rw [unbalanced_of_added required some_added (heads.trans quoted)]
          at balanced
        cases balanced
    | false =>
        refine ⟨?_, ?_, ?_⟩
        · rw [quotesBalanced_of_plain (heads.trans quoted), double,
            single] at balanced
          rw [first]
          exact (quotesBalanced_of_plain quoted).mpr balanced
        · intro _ marks
          rw [first, quoted] at marks
          cases marks
        · intro several
          rw [before] at several
          cases several with
          | step impossible => cases impossible
  · intro well
    have plain : value.head?.any isQuote = false := by
      rw [Bool.eq_false_iff]
      intro quoted
      obtain ⟨option, member⟩ := List.exists_mem_of_ne_nil added some_added
      rw [← first] at quoted
      have present := well.quoted (by rw [before]; rfl) quoted option
        (required option member)
      rw [first] at present
      exact fresh option member present
    have joined : effectiveOptions (compatibleText text) =
        optionWords value ++ added := by
      rw [effectiveOptions, next, unquoted_of_plain (heads.trans plain),
        optionWords_joinWords spoken]
    refine ⟨?_, ?_, ?_, others, again⟩
    · intro option member
      rw [joined]
      exact complete option member
    · rw [joined, effectiveOptions, first, unquoted_of_plain plain]
      exact List.sublist_append_left _ _
    · have balanced := well.balanced
      rw [first, quotesBalanced_of_plain plain] at balanced
      rw [next, quotesBalanced_of_plain (heads.trans plain), double, single]
      exact balanced

theorem merged_iff_of_several {value next : Text} {others : List Text}
    {line : Text}
    (before : assignedValues text = value :: next :: others)
    (after : assignedValues (compatibleText text) = line :: next :: others)
    (same : otherLines (compatibleText text) = otherLines text)
    (again : compatibleText (compatibleText text) = compatibleText text) :
    Merged text ↔ MergesWell text := by
  have last : effectiveValue (compatibleText text) = effectiveValue text := by
    rw [effectiveValue_of_values before, effectiveValue_of_values after,
      List.getLastD_cons, List.getLastD_cons, List.getLastD_cons,
      List.getLastD_cons]
  have options :
      effectiveOptions (compatibleText text) = effectiveOptions text := by
    rw [effectiveOptions, last, effectiveOptions]
  constructor
  · intro merged
    refine ⟨?_, ?_, ?_⟩
    · rw [← last]
      exact merged.balanced
    · intro single
      rw [before] at single
      cases single
    · intro _
      have required := merged.required
      rw [options] at required
      exact required
  · intro well
    refine ⟨?_, ?_, ?_, same, again⟩
    · rw [options]
      refine well.last ?_
      rw [before]
      exact Nat.succ_lt_succ (Nat.succ_pos _)
    · rw [options]
    · rw [last]
      exact well.balanced

theorem merged_of_added
    (others : ∀ line ∈ contentLines text, isOptionsLine line = false)
    (after : contentLines (compatibleText text) =
      contentLines text ++ [optionsLine requiredLaunchServerJvmOptions]) :
    Merged text ∧ MergesWell text := by
  have own := isOptionsLine_optionsLine requiredLaunchServerJvmOptions
  have before : assignedValues text = [] := by
    rw [assignedValues_eq, filter_of_others others]
    rfl
  have added : assignedValues (compatibleText text) =
      [joinWords ' ' requiredLaunchServerJvmOptions] := by
    rw [assignedValues_eq, after, values_at_first others own,
      assignedValue_optionsLine spoken_required]
    rfl
  have first : effectiveValue text = [] := effectiveValue_of_values before
  have next : effectiveValue (compatibleText text) =
      joinWords ' ' requiredLaunchServerJvmOptions :=
    effectiveValue_of_values added
  have plain :
      (joinWords ' ' requiredLaunchServerJvmOptions).head?.any isQuote =
        false := by
    decide
  have options : effectiveOptions (compatibleText text) =
      requiredLaunchServerJvmOptions := by
    rw [effectiveOptions, next, unquoted_of_plain plain,
      optionWords_joinWords spoken_required]
  constructor
  · refine ⟨?_, ?_, ?_, ?_, ?_⟩
    · rw [options]
      exact fun _ member => member
    · rw [options, effectiveOptions, first]
      exact List.nil_sublist _
    · rw [next]
      decide
    · rw [otherLines_eq, otherLines_eq, after, eraseP_at_first others own,
        List.append_nil, List.eraseP_of_forall_not]
      intro line member
      rw [others line member]
      exact Bool.false_ne_true
    · apply compatibleText_eq_self
      rw [after, currentOptions_at_first others own,
        assignedValue_optionsLine spoken_required,
        optionWords_joinWords spoken_required]
      exact fun _ member => member
  · refine ⟨?_, ?_, ?_⟩
    · rw [first]
      rfl
    · intro single
      rw [before] at single
      cases single
    · intro several
      rw [before] at several
      cases several

end Condition

/-- The options are merged without damage exactly if the last assignment is
balanced, a quoted one lacks no required option, and neither does the last of
several. -/
theorem merged_iff (text : Text) : Merged text ↔ MergesWell text := by
  cases outcome text with
  | unchanged nothing same => exact merged_iff_of_unchanged nothing same
  | added others after =>
      have both := merged_of_added others after
      exact iff_of_true both.1 both.2
  | @replaced before rest old missing shape others own after =>
      have current : currentOptions (contentLines text) =
          optionWords (assignedValue old) := by
        rw [shape]
        exact currentOptions_at_first others own
      have spoken := spoken_merged (contentLines text)
      have written := isOptionsLine_optionsLine
        (currentOptions (contentLines text) ++
          missingOptions (contentLines text))
      have values : assignedValues text =
          assignedValue old ::
            (rest.filter isOptionsLine).map assignedValue := by
        rw [assignedValues_eq, shape, values_at_first others own]
      have valuesAfter : assignedValues (compatibleText text) =
          joinWords ' ' (currentOptions (contentLines text) ++
            missingOptions (contentLines text)) ::
              (rest.filter isOptionsLine).map assignedValue := by
        rw [assignedValues_eq, after, values_at_first others written,
          assignedValue_optionsLine spoken]
      have same : otherLines (compatibleText text) = otherLines text := by
        rw [otherLines_eq, otherLines_eq, after,
          eraseP_at_first others written, shape, eraseP_at_first others own]
      have again :
          compatibleText (compatibleText text) = compatibleText text := by
        apply compatibleText_eq_self
        rw [after, currentOptions_at_first others written,
          assignedValue_optionsLine spoken, optionWords_joinWords spoken]
        exact fun _ required => mem_merged required
      cases tail : (rest.filter isOptionsLine).map assignedValue with
      | cons next more =>
          rw [tail] at values valuesAfter
          exact merged_iff_of_several values valuesAfter same again
      | nil =>
          rw [tail] at values valuesAfter
          rw [current] at valuesAfter
          refine merged_iff_of_single (trimmed_assignedValue old) ?_ missing
            ?_ ?_ values valuesAfter same again
          · exact fun option member => (mem_missingOptions.mp member).1
          · intro option required
            rw [← current]
            exact mem_merged required
          · intro option member
            rw [← current]
            exact (mem_missingOptions.mp member).2

/-- Options in quotes are torn apart. -/
theorem quoted_options_damaged :
    ¬ Merged "JAVA_OPTS=\"-Xmx2G\"\n".toList := by
  intro merged
  have kept := merged.kept
  revert kept
  decide +kernel

end GravitPanel.LauncherDockered
