import Mathlib.Data.List.DropRight

/-!
# Words between separators

The words of a list are its longest runs of symbols that belong to words.
Replacing every other run by one separator and stripping separators at both
ends joins the words.
-/

namespace GravitPanel.Words

variable {Symbol : Type}
variable (inWord : Symbol → Bool) (separator : Symbol)

def wordsFrom : List Symbol → List Symbol → List (List Symbol)
  | current, [] => if current = [] then [] else [current]
  | current, symbol :: rest =>
      if inWord symbol then wordsFrom (current ++ [symbol]) rest
      else if current = [] then wordsFrom [] rest
      else current :: wordsFrom [] rest

def words (symbols : List Symbol) : List (List Symbol) :=
  wordsFrom inWord [] symbols

/-- Put one separator for every run of symbols outside words; `inRun` when
such a run has begun. -/
def collapse : Bool → List Symbol → List Symbol
  | _, [] => []
  | inRun, symbol :: rest =>
      if inWord symbol then symbol :: collapse false rest
      else if inRun then collapse true rest
      else separator :: collapse true rest

def stripEnd [DecidableEq Symbol] (symbols : List Symbol) : List Symbol :=
  (symbols.reverse.dropWhile (· = separator)).reverse

/-- Drop the separators at both ends. -/
def strip [DecidableEq Symbol] (symbols : List Symbol) : List Symbol :=
  stripEnd separator (symbols.dropWhile (· = separator))

def joinWords (parts : List (List Symbol)) : List Symbol :=
  [separator].intercalate parts

section Words

variable {inWord : Symbol → Bool} {separator : Symbol}

theorem word_of_mem_wordsFrom
    {current symbols word : List Symbol}
    (inside : ∀ symbol ∈ current, inWord symbol)
    (member : word ∈ wordsFrom inWord current symbols) :
    word ≠ [] ∧ ∀ symbol ∈ word, inWord symbol := by
  induction symbols generalizing current with
  | nil =>
      unfold wordsFrom at member
      split at member
      · exact absurd member List.not_mem_nil
      next named =>
        rw [List.mem_singleton.mp member]
        exact ⟨named, inside⟩
  | cons symbol rest ih =>
      unfold wordsFrom at member
      have fresh : ∀ symbol ∈ ([] : List Symbol), inWord symbol :=
        fun _ absent => absurd absent List.not_mem_nil
      split at member
      next belongs =>
        refine ih (fun other present => ?_) member
        rcases List.mem_append.mp present with earlier | latest
        · exact inside other earlier
        · rw [List.mem_singleton.mp latest]
          exact belongs
      · split at member
        · exact ih fresh member
        next named =>
          rcases List.mem_cons.mp member with rfl | later
          · exact ⟨named, inside⟩
          · exact ih fresh later

theorem word_of_mem_words
    {symbols word : List Symbol} (member : word ∈ words inWord symbols) :
    word ≠ [] ∧ ∀ symbol ∈ word, inWord symbol :=
  word_of_mem_wordsFrom (fun _ absent => absurd absent List.not_mem_nil)
    member

theorem wordsFrom_ne_nil
    {current : List Symbol} (named : current ≠ [])
    (symbols : List Symbol) : wordsFrom inWord current symbols ≠ [] := by
  induction symbols generalizing current with
  | nil =>
      rw [wordsFrom, if_neg named]
      exact List.cons_ne_nil _ _
  | cons symbol rest ih =>
      rw [wordsFrom]
      split
      · exact ih
          (List.append_ne_nil_of_left_ne_nil named _)
      · exact List.cons_ne_nil _ _

theorem words_append_left
    {outside symbols : List Symbol}
    (separates : ∀ symbol ∈ outside, inWord symbol = false) :
    words inWord (outside ++ symbols) = words inWord symbols := by
  induction outside with
  | nil => rfl
  | cons symbol rest ih =>
      have apart := separates symbol List.mem_cons_self
      rw [List.cons_append, words, wordsFrom, apart, if_neg (by decide),
        if_pos rfl]
      exact ih fun other present =>
        separates other (List.mem_cons_of_mem symbol present)

theorem wordsFrom_outside
    {current outside : List Symbol}
    (separates : ∀ symbol ∈ outside, inWord symbol = false) :
    wordsFrom inWord current outside =
      if current = [] then [] else [current] := by
  cases outside with
  | nil => rfl
  | cons symbol rest =>
      have apart := separates symbol List.mem_cons_self
      have later : words inWord rest = [] := by
        have none := @words_append_left Symbol inWord rest []
          fun other present =>
            separates other (List.mem_cons_of_mem symbol present)
        rw [List.append_nil] at none
        exact none
      rw [wordsFrom, apart, if_neg (by decide)]
      rw [words] at later
      rw [later]

theorem wordsFrom_append_right
    {current symbols outside : List Symbol}
    (separates : ∀ symbol ∈ outside, inWord symbol = false) :
    wordsFrom inWord current (symbols ++ outside) =
      wordsFrom inWord current symbols := by
  induction symbols generalizing current with
  | nil =>
      rw [List.nil_append, wordsFrom_outside separates]
      rfl
  | cons symbol rest ih =>
      rw [List.cons_append, wordsFrom, wordsFrom, ih,
        ih]

variable {current symbols : List Symbol} {parts : List (List Symbol)}
variable {symbol : Symbol}

theorem wordsFrom_map
    {change : Symbol → Symbol}
    (harmless : ∀ symbol ∈ symbols, change symbol = symbol ∨
      inWord symbol = false ∧ inWord (change symbol) = false) :
    wordsFrom inWord current (symbols.map change) =
      wordsFrom inWord current symbols := by
  induction symbols generalizing current with
  | nil => rfl
  | cons symbol rest ih =>
      have tail := fun other present =>
        harmless other (List.mem_cons_of_mem symbol present)
      rcases harmless symbol List.mem_cons_self with same | ⟨out, apart⟩
      · rw [List.map_cons, same, wordsFrom, wordsFrom,
          ih tail, ih tail]
      · simp only [List.map_cons, wordsFrom, out, apart,
          Bool.false_eq_true, if_false, ih tail]

theorem joinWords_cons_cons
    (first second : List Symbol) (rest : List (List Symbol)) :
    joinWords separator (first :: second :: rest) =
      first ++ separator :: joinWords separator (second :: rest) := by
  rw [joinWords, List.intercalate_cons_cons]
  simp [joinWords]

theorem joinWords_cons (first : List Symbol) (rest : List (List Symbol)) :
    joinWords separator (first :: rest) =
      first ++ (rest.map (separator :: ·)).flatten := by
  induction rest generalizing first with
  | nil => simp [joinWords]
  | cons second others ih =>
      rw [joinWords_cons_cons, ih, List.map_cons,
        List.flatten_cons, List.cons_append]

theorem joinWords_ne_nil
    (some : parts ≠ [])
    (named : ∀ part ∈ parts, part ≠ []) :
    joinWords separator parts ≠ [] := by
  cases parts with
  | nil => exact absurd rfl some
  | cons first rest =>
      have head := named first List.mem_cons_self
      cases rest with
      | nil => simpa [joinWords] using head
      | cons second rest =>
          rw [joinWords_cons_cons]
          exact List.append_ne_nil_of_left_ne_nil head _

theorem mem_joinWords
    (member : symbol ∈ joinWords separator parts) :
    symbol = separator ∨ ∃ part ∈ parts, symbol ∈ part := by
  induction parts with
  | nil => exact absurd member List.not_mem_nil
  | cons first rest ih =>
      cases rest with
      | nil =>
          have inFirst : symbol ∈ first := by simpa [joinWords] using member
          exact .inr ⟨first, List.mem_cons_self, inFirst⟩
      | cons second others =>
          rw [joinWords_cons_cons] at member
          rcases List.mem_append.mp member with inFirst | later
          · exact .inr ⟨first, List.mem_cons_self, inFirst⟩
          · rcases List.mem_cons.mp later with same | inRest
            · exact .inl same
            · rcases ih inRest with same | found
              · exact .inl same
              · obtain ⟨part, present, inside⟩ := found
                exact .inr ⟨part, List.mem_cons_of_mem first present, inside⟩

theorem joinWords_injective [DecidableEq Symbol]
    {first second : List (List Symbol)}
    (firstSome : first ≠ []) (secondSome : second ≠ [])
    (firstFree : ∀ part ∈ first, separator ∉ part)
    (secondFree : ∀ part ∈ second, separator ∉ part)
    (same : joinWords separator first = joinWords separator second) :
    first = second := by
  have one := List.splitOn_intercalate separator firstFree firstSome
  have other := List.splitOn_intercalate separator secondFree secondSome
  unfold joinWords at same
  rw [← one, ← other, same]

theorem wordsFrom_append_word
    {current word : List Symbol} (inside : ∀ symbol ∈ word, inWord symbol)
    (rest : List Symbol) :
    wordsFrom inWord current (word ++ rest) =
      wordsFrom inWord (current ++ word) rest := by
  induction word generalizing current with
  | nil => rw [List.nil_append, List.append_nil]
  | cons symbol others ih =>
      rw [List.forall_mem_cons] at inside
      rw [List.cons_append, wordsFrom, if_pos inside.1,
        ih inside.2, List.append_assoc]
      rfl

theorem words_joinWords
    (apart : inWord separator = false)
    (spoken : ∀ part ∈ parts,
      part ≠ [] ∧ ∀ symbol ∈ part, inWord symbol) :
    words inWord (joinWords separator parts) = parts := by
  induction parts with
  | nil => rfl
  | cons first rest ih =>
      rw [List.forall_mem_cons] at spoken
      obtain ⟨⟨named, inside⟩, others⟩ := spoken
      cases rest with
      | nil =>
          have alone : joinWords separator [first] = first ++ [] := by
            simp [joinWords]
          rw [alone, words, wordsFrom_append_word inside, List.nil_append,
            wordsFrom, if_neg named]
      | cons second more =>
          have later := ih others
          rw [words] at later
          rw [joinWords_cons_cons, words, wordsFrom_append_word inside,
            List.nil_append, wordsFrom, apart, if_neg Bool.false_ne_true,
            if_neg named, later]

theorem flatten_wordsFrom (current symbols : List Symbol) :
    (wordsFrom inWord current symbols).flatten =
      current ++ symbols.filter inWord := by
  induction symbols generalizing current with
  | nil =>
      rw [wordsFrom]
      by_cases empty : current = []
      · rw [if_pos empty, empty]
        rfl
      · rw [if_neg empty]
        rfl
  | cons symbol rest ih =>
      rw [wordsFrom, List.filter_cons]
      by_cases belongs : inWord symbol = true
      · rw [if_pos belongs, if_pos belongs, ih,
          List.append_assoc]
        rfl
      · rw [if_neg belongs, if_neg belongs]
        by_cases empty : current = []
        · rw [if_pos empty, empty, ih]
        · rw [if_neg empty, List.flatten_cons, ih]
          rfl

theorem mem_wordsFrom_of_begun {word : List Symbol}
    (free : symbol ∉ word)
    (begun : symbol ∈ current)
    (member : word ∈ wordsFrom inWord current symbols)
    (other : List Symbol) : word ∈ wordsFrom inWord other symbols := by
  have filled : current ≠ [] := List.ne_nil_of_mem begun
  have different : word ≠ current := by
    rintro rfl
    exact free begun
  induction symbols generalizing current other with
  | nil =>
      rw [wordsFrom, if_neg filled, List.mem_singleton] at member
      exact absurd member different
  | cons next rest ih =>
      rw [wordsFrom] at member ⊢
      by_cases belongs : inWord next = true
      · rw [if_pos belongs] at member ⊢
        have longer : symbol ∈ current ++ [next] :=
          List.mem_append_left _ begun
        refine ih longer member (other ++ [next])
          (List.ne_nil_of_mem longer) ?_
        rintro rfl
        exact free longer
      · rw [if_neg belongs, if_neg filled, List.mem_cons] at member
        rw [if_neg belongs]
        have later := member.resolve_left different
        by_cases empty : other = []
        · rw [if_pos empty]
          exact later
        · rw [if_neg empty]
          exact List.mem_cons_of_mem _ later

theorem mem_wordsFrom_of_ended {word : List Symbol}
    (free : symbol ∉ word) (belongs : inWord symbol = true)
    (member : word ∈ wordsFrom inWord current (symbols ++ [symbol])) :
    word ∈ wordsFrom inWord current symbols := by
  induction symbols generalizing current with
  | nil =>
      have ended : current ++ [symbol] ≠ [] :=
        List.append_ne_nil_of_right_ne_nil _ (List.cons_ne_nil _ _)
      rw [List.nil_append, wordsFrom, if_pos belongs, wordsFrom,
        if_neg ended, List.mem_singleton] at member
      rw [member] at free
      exact absurd (List.mem_append_right _ List.mem_cons_self) free
  | cons next rest ih =>
      rw [List.cons_append, wordsFrom] at member
      rw [wordsFrom]
      by_cases inside : inWord next = true
      · rw [if_pos inside] at member ⊢
        exact ih member
      · rw [if_neg inside] at member ⊢
        by_cases empty : current = []
        · rw [if_pos empty] at member ⊢
          exact ih member
        · rw [if_neg empty, List.mem_cons] at member ⊢
          exact member.imp_right ih

/-- A word without a symbol is still one when the symbol is taken from both
ends. -/
theorem mem_words_between {word symbols : List Symbol}
    (free : symbol ∉ word) (belongs : inWord symbol = true)
    (member : word ∈ words inWord (symbol :: (symbols ++ [symbol]))) :
    word ∈ words inWord symbols := by
  rw [words, wordsFrom, if_pos belongs, List.nil_append] at member
  have begun : symbol ∈ [symbol] := List.mem_cons_self
  exact mem_wordsFrom_of_ended free belongs
    (mem_wordsFrom_of_begun free begun member [])

theorem wordsFrom_begin {current : List Symbol} (begun : current ≠ [])
    (symbols : List Symbol) :
    ∃ word rest, wordsFrom inWord current symbols =
      (current ++ word) :: rest := by
  induction symbols generalizing current with
  | nil =>
      rw [wordsFrom, if_neg begun]
      exact ⟨[], [], by rw [List.append_nil]⟩
  | cons symbol rest ih =>
      rw [wordsFrom]
      by_cases belongs : inWord symbol = true
      · rw [if_pos belongs]
        have longer : current ++ [symbol] ≠ [] :=
          List.append_ne_nil_of_left_ne_nil begun _
        obtain ⟨word, others, shape⟩ := ih longer
        exact ⟨symbol :: word, others, by rw [shape, List.append_assoc]; rfl⟩
      · rw [if_neg belongs, if_neg begun]
        exact ⟨[], _, by rw [List.append_nil]⟩

theorem getLast?_joinWords
    (parts : List (List Symbol)) {last : List Symbol} (named : last ≠ []) :
    (joinWords separator (parts ++ [last])).getLast? = last.getLast? := by
  induction parts with
  | nil => simp [joinWords]
  | cons first rest ih =>
      obtain ⟨second, more, shape⟩ : ∃ second more,
          rest ++ [last] = second :: more :=
        List.exists_cons_of_ne_nil
          (List.append_ne_nil_of_right_ne_nil _ (List.cons_ne_nil _ _))
      have filled : joinWords separator (second :: more) ≠ [] := by
        intro empty
        rw [shape, empty] at ih
        have missing := List.getLast?_eq_none_iff.mp ih.symm
        exact named missing
      rw [List.cons_append, shape, joinWords_cons_cons, ← shape,
        List.getLast?_append_of_ne_nil _ (List.cons_ne_nil _ _),
        List.getLast?_cons_of_ne_nil (shape ▸ filled), ih]

theorem length_joinWords_wordsFrom_le (current symbols : List Symbol) :
    (joinWords separator (wordsFrom inWord current symbols)).length ≤
      current.length + symbols.length := by
  induction symbols generalizing current with
  | nil =>
      unfold wordsFrom
      split <;> simp [joinWords]
  | cons symbol rest ih =>
      have fresh := ih []
      have longer := ih (current ++ [symbol])
      rw [List.length_append, List.length_singleton] at longer
      rw [List.length_nil] at fresh
      rw [List.length_cons, wordsFrom]
      split
      · omega
      · split
        · omega
        · cases later : wordsFrom inWord [] rest with
          | nil => simp [joinWords]
          | cons second others =>
              rw [later] at fresh
              rw [joinWords_cons_cons, List.length_append,
                List.length_cons]
              omega

variable [DecidableEq Symbol]

theorem stripEnd_append (first second : List Symbol) :
    stripEnd separator (first ++ second) =
      if stripEnd separator second = [] then stripEnd separator first
      else first ++ stripEnd separator second := by
  unfold stripEnd
  rw [List.reverse_append, List.dropWhile_append]
  cases left : second.reverse.dropWhile (· = separator) with
  | nil => simp
  | cons symbol rest => simp

theorem stripEnd_stripEnd (symbols : List Symbol) :
    stripEnd separator (stripEnd separator symbols) =
      stripEnd separator symbols := by
  rw [stripEnd, stripEnd, List.reverse_reverse, List.dropWhile_idempotent]

theorem stripEnd_word
    (apart : inWord separator = false) {word : List Symbol}
    (inside : ∀ symbol ∈ word, inWord symbol) :
    stripEnd separator word = word := by
  have kept : word.reverse.dropWhile (· = separator) = word.reverse := by
    cases shape : word.reverse with
    | nil => rfl
    | cons symbol rest =>
        have member : symbol ∈ word := by
          rw [← List.mem_reverse, shape]
          exact List.mem_cons_self
        have different : symbol ≠ separator := by
          rintro rfl
          exact Bool.noConfusion (apart.symm.trans (inside symbol member))
        rw [List.dropWhile_cons_of_neg (by simpa using different)]
  rw [stripEnd, kept, List.reverse_reverse]

theorem dropWhile_collapse
    (apart : inWord separator = false) (inRun : Bool)
    (symbols : List Symbol) :
    (collapse inWord separator inRun symbols).dropWhile (· = separator) =
      collapse inWord separator true symbols := by
  induction symbols generalizing inRun with
  | nil => cases inRun <;> rfl
  | cons symbol rest ih =>
      by_cases belongs : inWord symbol = true
      · have different : symbol ≠ separator := by
          rintro rfl
          rw [apart] at belongs
          cases belongs
        rw [collapse, if_pos belongs, collapse, if_pos belongs,
          List.dropWhile_cons_of_neg (by simpa using different)]
      · have later := ih true
        rw [collapse, if_neg belongs, collapse, if_neg belongs, if_pos rfl]
        cases inRun with
        | true => exact later
        | false =>
            rw [if_neg (by decide), List.dropWhile_cons_of_pos (by simp)]
            exact later

theorem stripEnd_collapse
    (apart : inWord separator = false) (symbols : List Symbol) :
    (∀ word : List Symbol, word ≠ [] → (∀ symbol ∈ word, inWord symbol) →
      stripEnd separator (word ++ collapse inWord separator false symbols) =
        joinWords separator (wordsFrom inWord word symbols)) ∧
      stripEnd separator (collapse inWord separator true symbols) =
        joinWords separator (words inWord symbols) := by
  induction symbols with
  | nil =>
      constructor
      · intro word named inside
        rw [collapse, List.append_nil, stripEnd_word apart inside,
          wordsFrom, if_neg named]
        simp [joinWords]
      · rfl
  | cons symbol rest ih =>
      obtain ⟨fromWord, fromRun⟩ := ih
      by_cases belongs : inWord symbol = true
      · constructor
        · intro word named inside
          have longer : ∀ other ∈ word ++ [symbol], inWord other := by
            intro other present
            rcases List.mem_append.mp present with earlier | latest
            · exact inside other earlier
            · rw [List.mem_singleton.mp latest]
              exact belongs
          have some : word ++ [symbol] ≠ [] :=
            List.append_ne_nil_of_left_ne_nil named _
          rw [collapse, if_pos belongs, wordsFrom, if_pos belongs,
            ← fromWord _ some longer, List.append_assoc,
            List.singleton_append]
        · have single : ∀ other ∈ [symbol], inWord other := by
            intro other present
            rw [List.mem_singleton.mp present]
            exact belongs
          rw [collapse, if_pos belongs, words, wordsFrom, if_pos belongs]
          exact fromWord [symbol] (List.cons_ne_nil _ _) single
      · constructor
        · intro word named inside
          rw [collapse, if_neg belongs, if_neg (by decide), wordsFrom,
            if_neg belongs, if_neg named, stripEnd_append]
          have after : stripEnd separator
              (separator :: collapse inWord separator true rest) =
            if joinWords separator (words inWord rest) = [] then []
            else separator :: joinWords separator (words inWord rest) := by
            have split := @stripEnd_append _ separator _ [separator]
              (collapse inWord separator true rest)
            rw [fromRun, List.singleton_append] at split
            rw [split]
            have alone : stripEnd separator [separator] = [] := by
              simp [stripEnd]
            rw [alone]
            rfl
          rw [after, stripEnd_word apart inside]
          cases later : words inWord rest with
          | nil =>
              rw [words] at later
              rw [later]
              simp [joinWords]
          | cons second others =>
              have visible : joinWords separator (second :: others) ≠ [] := by
                apply joinWords_ne_nil (List.cons_ne_nil _ _)
                intro part member
                rw [← later] at member
                exact (word_of_mem_words member).1
              rw [words] at later
              rw [later, if_neg visible, if_neg (List.cons_ne_nil _ _),
                joinWords_cons_cons]
        · rw [collapse, if_neg belongs, if_pos rfl, fromRun, words, words,
            wordsFrom, if_neg belongs, if_pos rfl]

theorem strip_collapse
    (apart : inWord separator = false) (symbols : List Symbol) :
    strip separator (collapse inWord separator false symbols) =
      joinWords separator (words inWord symbols) := by
  rw [strip, dropWhile_collapse apart]
  exact (stripEnd_collapse apart symbols).2

/-- Cutting joined words and stripping the separator that this may leave at the
end joins words again. -/
theorem stripEnd_take_joinWords
    (apart : inWord separator = false) {parts : List (List Symbol)}
    (spoken : ∀ part ∈ parts,
      part ≠ [] ∧ ∀ symbol ∈ part, inWord symbol) (count : Nat) :
    ∃ kept : List (List Symbol),
      stripEnd separator ((joinWords separator parts).take count) =
          joinWords separator kept ∧
        ∀ part ∈ kept, part ≠ [] ∧ ∀ symbol ∈ part, inWord symbol := by
  induction parts generalizing count with
  | nil =>
      refine ⟨[], ?_, by simp⟩
      simp [joinWords, stripEnd]
  | cons first rest ih =>
      rw [List.forall_mem_cons] at spoken
      obtain ⟨⟨named, inside⟩, others⟩ := spoken
      have cut (length : Nat) :
          ∃ kept : List (List Symbol),
            stripEnd separator (first.take length) =
                joinWords separator kept ∧
              ∀ part ∈ kept,
                part ≠ [] ∧ ∀ symbol ∈ part, inWord symbol := by
        have within : ∀ symbol ∈ first.take length, inWord symbol := by
          intro symbol member
          exact inside symbol (List.mem_of_mem_take member)
        rw [stripEnd_word apart within]
        by_cases empty : first.take length = []
        · refine ⟨[], ?_, by simp⟩
          rw [empty]
          rfl
        · refine ⟨[first.take length], ?_, ?_⟩
          · simp [joinWords]
          · intro part member
            rw [List.mem_singleton.mp member]
            exact ⟨empty, within⟩
      cases rest with
      | nil =>
          have alone : joinWords separator [first] = first := by
            simp [joinWords]
          rw [alone]
          exact cut count
      | cons second parts =>
          rw [joinWords_cons_cons]
          by_cases short : count ≤ first.length
          · rw [List.take_append_of_le_length short]
            exact cut count
          · have longer : count = first.length +
                ((count - first.length - 1) + 1) := by
              omega
            rw [longer, List.take_length_add_append, List.take_succ_cons]
            obtain ⟨kept, joined, words⟩ :=
              ih others (count - first.length - 1)
            have stripped := @stripEnd_append _ separator _ [separator]
              ((joinWords separator (second :: parts)).take
                (count - first.length - 1))
            have alone : stripEnd separator [separator] = [] := by
              simp [stripEnd]
            rw [joined, alone, List.singleton_append,
              List.singleton_append] at stripped
            rw [stripEnd_append, stripped, stripEnd_word apart inside]
            cases kept with
            | nil =>
                refine ⟨[first], ?_, ?_⟩
                · simp [joinWords]
                · intro part member
                  rw [List.mem_singleton.mp member]
                  exact ⟨named, inside⟩
            | cons next later =>
                have visible :
                    joinWords separator (next :: later) ≠ [] := by
                  apply joinWords_ne_nil (List.cons_ne_nil _ _)
                  intro part member
                  exact (words part member).1
                refine ⟨first :: next :: later, ?_, ?_⟩
                · rw [if_neg visible, if_neg (List.cons_ne_nil _ _),
                    joinWords_cons_cons]
                · rw [List.forall_mem_cons]
                  exact ⟨⟨named, inside⟩, words⟩

end Words

end GravitPanel.Words
