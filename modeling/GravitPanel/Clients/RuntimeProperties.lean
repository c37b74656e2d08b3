import GravitPanel.Core.JavaProperties
import GravitPanel.Core.Program

/-!
# Property files of the launcher runtime

The fix sets three keys of a file in three passes.  Each pass splits the text
into lines, sets the first line of its key and joins the lines again.  The
layout of a file says which of its lines the passes keep and which they set.
-/

namespace GravitPanel.Clients.WebAuth

open TextEdits JavaProperties

def startsProperty (key line : Text) : Bool :=
  (key ++ ['=']).isPrefixOf line

def propertyLine (key value : Text) : Text :=
  key ++ '=' :: value

def replaceProperty (source key value : Text) : Except String Text :=
  let lines := splitLines source
  match lines.findIdx? (startsProperty key) with
  | none =>
      .error ("LauncherRuntime resource is missing property \"" ++
        String.ofList key ++ "\"")
  | some index => .ok (joinLines (lines.set index (propertyLine key value)))

def upsertProperty (source key value : Text) : Text :=
  let lines := splitLines source
  match lines.findIdx? (startsProperty key) with
  | none =>
      let insertionIndex :=
        if lines.getLast? = some [] then lines.length - 1 else lines.length
      joinLines (lines.take insertionIndex ++
        propertyLine key value :: lines.drop insertionIndex)
  | some index => joinLines (lines.set index (propertyLine key value))

/-- A key and the value that it is given. -/
structure Setting where
  key : Text
  value : Text

namespace Setting

def line (setting : Setting) : Text :=
  propertyLine setting.key setting.value

def starts (setting : Setting) (line : Text) : Bool :=
  startsProperty setting.key line

def Plain (setting : Setting) : Prop :=
  PlainKey setting.key ∧ PlainValue setting.value

instance (setting : Setting) : Decidable setting.Plain :=
  inferInstanceAs (Decidable (_ ∧ _))

end Setting

structure Settings where
  description : Setting
  rememberLogin : Setting
  copyLink : Setting

namespace Settings

def all (settings : Settings) : List Setting :=
  [settings.description, settings.rememberLogin, settings.copyLink]

/-- Plain settings of three keys. -/
def Plain (settings : Settings) : Prop :=
  (∀ setting ∈ settings.all, setting.Plain) ∧
    (settings.all.map Setting.key).Nodup

instance (settings : Settings) : Decidable settings.Plain :=
  inferInstanceAs (Decidable (_ ∧ _))

end Settings

def applySettings (settings : Settings) (current : Text) :
    Except String Text := do
  let described ← replaceProperty current
    settings.description.key settings.description.value
  let remembered ← replaceProperty described
    settings.rememberLogin.key settings.rememberLogin.value
  .ok (upsertProperty remembered
    settings.copyLink.key settings.copyLink.value)

/-- Neither a blank line nor one that a setting starts. -/
def isOther (settings : Settings) (line : Text) : Bool :=
  line.any (!isWhite ·) && settings.all.all (!·.starts line)

def otherLines (settings : Settings) (text : Text) : List Text :=
  (naturalLines text).filter (isOther settings)

/-- A reader of the file finds the value of every setting. -/
def HasValues (settings : Settings) (text : Text) : Prop :=
  ∃ entries,
    load text = some entries ∧
      ∀ setting ∈ settings.all,
        lastValue (encode setting.key) entries = some (encode setting.value)

structure Repaired (settings : Settings) (text fixed : Text) : Prop where
  again : applySettings settings fixed = .ok fixed
  values : HasValues settings fixed
  others : otherLines settings fixed = otherLines settings text

/-- A line between two line feeds that is kept, with or without a line feed
after it, or a line that is set, with the line it replaces. -/
inductive Mark
  | kept (line : Text) (ended : Bool)
  | own (setting : Setting) (replaced : Option Text)

namespace Mark

/-- The line after some passes, each of which takes a carriage return off. -/
def line (passes : Nat) : Mark → Text
  | kept line true => chompReturn^[passes] line
  | kept line false => line
  | own setting _ => setting.line

/-- The line without carriage returns before its line feed. -/
def trimmed : Mark → Text
  | kept line true => trimReturns line
  | kept line false => line
  | own setting _ => setting.line

def original : Mark → List Text
  | kept line _ => [line]
  | own _ replaced => replaced.toList

end Mark

def markLines : List Text → List Mark
  | [] => []
  | [last] => [.kept last false]
  | line :: next :: rest => .kept line true :: markLines (next :: rest)

def claimFirst (setting : Setting) : List Mark → Option (List Mark)
  | [] => none
  | .kept line ended :: rest =>
      if setting.starts line then some (.own setting (some line) :: rest)
      else (claimFirst setting rest).map (.kept line ended :: ·)
  | .own other replaced :: rest =>
      (claimFirst setting rest).map (.own other replaced :: ·)

/-- A line that is added stays before an empty last line. -/
def appendOwn (setting : Setting) (marks : List Mark) : List Mark :=
  match marks.getLast? with
  | some (.kept [] false) =>
      marks.dropLast ++ [.own setting none, .kept [] false]
  | _ => marks ++ [.own setting none]

def layout (settings : Settings) (text : Text) : Option (List Mark) :=
  (claimFirst settings.description (markLines (text.splitOn '\n'))).bind
    fun described =>
      (claimFirst settings.rememberLogin described).map fun remembered =>
        (claimFirst settings.copyLink remembered).getD
          (appendOwn settings.copyLink remembered)

/-- What is read of a file: a line that is set, or another logical line. -/
inductive Reading
  | own (setting : Setting)
  | text (content : Text)

namespace Reading

def content : Reading → Text
  | own setting => setting.line
  | text content => content

def assignment : Reading → Option (Units × Units)
  | own setting => some (encode setting.key, encode setting.value)
  | text content => property content

end Reading

/-- The logical lines of a file.  A line that is set is one of its own unless
an escaped line break is open before it. -/
def readings (pending : Text) : List Mark → List Reading
  | [] => (closeLine pending).map .text
  | .own setting _ :: rest =>
      (if pending = [] then .own setting
        else .text (pending ++ setting.line)) :: readings [] rest
  | .kept line ended :: rest =>
      let read :=
        readLines pending ((Mark.kept line ended).trimmed.splitOn '\r')
      read.1.map .text ++ readings read.2 rest

/-- Three passes leave no line that ends in a carriage return. -/
def EndsPlainly (marks : List Mark) : Prop :=
  ∀ line,
    (.kept line true ∈ marks → ¬ List.replicate 4 '\r' <:+ line) ∧
      (.kept line false ∈ marks.dropLast → line.getLast? ≠ some '\r')

/-- A line that is replaced holds no other line after a carriage return. -/
def ReplacesWhole (settings : Settings) (marks : List Mark) : Prop :=
  ∀ setting replaced, .own setting (some replaced) ∈ marks →
    ∀ line ∈ replaced.splitOn '\r', isOther settings line = false

/-- Every logical line is well formed, and the last one that assigns a key
gives the intended value. -/
def SetsLast (settings : Settings) (marks : List Mark) : Prop :=
  (∀ reading ∈ readings [] marks, reading.assignment.isSome) ∧
    ∀ setting ∈ settings.all,
      ∃ before last after,
        readings [] marks = before ++ last :: after ∧
          last.assignment =
            some (encode setting.key, encode setting.value) ∧
          ∀ reading ∈ after, ∀ value,
            reading.assignment ≠ some (encode setting.key, value)

def Repairable (settings : Settings) (text : Text) : Prop :=
  ∃ marks, layout settings text = some marks ∧ EndsPlainly marks ∧
    ReplacesWhole settings marks ∧ SetsLast settings marks

theorem takeWhile_of_startsProperty {key line : Text}
    (plain : PlainKey key) (starts : startsProperty key line = true) :
    line.takeWhile (· ≠ '=') = key := by
  obtain ⟨rest, rfl⟩ := List.isPrefixOf_iff_prefix.mp starts
  have letters : ∀ letter ∈ key, decide (letter ≠ '=') = true := by
    intro letter member
    refine decide_eq_true ?_
    rintro rfl
    exact (plain.2 '=' member).2 (by decide)
  rw [List.append_assoc, List.takeWhile_append_of_pos letters]
  exact List.append_nil key

namespace Setting

theorem starts_line (setting : Setting) :
    setting.starts setting.line = true := by
  refine List.isPrefixOf_iff_prefix.mpr ⟨setting.value, ?_⟩
  rw [List.append_assoc]
  rfl

theorem starts_chompReturn (setting : Setting) (line : Text) :
    setting.starts (chompReturn line) = setting.starts line := by
  have visible : (setting.key ++ ['=']).getLast? ≠ some '\r' := by
    rw [List.getLast?_concat]
    decide
  rw [Bool.eq_iff_iff, starts, starts, startsProperty, startsProperty,
    List.isPrefixOf_iff_prefix, List.isPrefixOf_iff_prefix]
  exact prefix_chompReturn_iff line visible

theorem starts_iterate_chompReturn (setting : Setting) (passes : Nat)
    (line : Text) :
    setting.starts (chompReturn^[passes] line) = setting.starts line := by
  induction passes generalizing line with
  | zero => rfl
  | succ passes ih =>
      rw [Function.iterate_succ_apply, ih,
        starts_chompReturn]

variable {setting : Setting}

theorem Plain.not_mem_line (plain : setting.Plain) {letter : Char}
    (breaks : letter = '\r' ∨ letter = '\n') : letter ∉ setting.line := by
  intro inside
  rcases List.mem_append.mp inside with inside | inside
  · refine (plain.1.2 letter inside).2 ?_
    rcases breaks with rfl | rfl <;> decide
  · rcases List.mem_cons.mp inside with rfl | inside
    · exact absurd breaks (by decide)
    · refine plain.2.2 letter inside ?_
      rcases breaks with rfl | rfl <;> decide

theorem Plain.visible (plain : setting.Plain) :
    setting.line.getLast? ≠ some '\r' := by
  intro ends
  exact plain.not_mem_line (Or.inl rfl) (List.mem_of_getLast? ends)

end Setting

theorem Settings.Plain.apart {settings : Settings} (plain : settings.Plain)
    {setting other : Setting} (member : setting ∈ settings.all)
    (otherMember : other ∈ settings.all)
    (different : setting.key ≠ other.key) {line : Text}
    (starts : setting.starts line = true) : other.starts line = false := by
  refine eq_false_of_ne_true fun both => different ?_
  rw [← takeWhile_of_startsProperty (plain.1 setting member).1 starts,
    ← takeWhile_of_startsProperty (plain.1 other otherMember).1 both]

def render (passes : Nat) (marks : List Mark) : List Text :=
  marks.map (Mark.line passes)

/-- A line feed follows every line but the last. -/
def Shaped : List Mark → Prop
  | [] => True
  | [last] => ∀ line, last ≠ .kept line true
  | mark :: next :: rest =>
      (∀ line, mark ≠ .kept line false) ∧ Shaped (next :: rest)

/-- A layout in which some settings have lines. -/
structure Laid (owned : List Setting) (marks : List Mark) : Prop where
  filled : marks ≠ []
  shaped : Shaped marks
  unbroken : ∀ line ended, .kept line ended ∈ marks → '\n' ∉ line
  owners : ∀ setting replaced, .own setting replaced ∈ marks → setting ∈ owned
  plain : ∀ setting ∈ owned, setting.Plain

theorem starts_line_kept (setting : Setting) (passes : Nat) (line : Text)
    (ended : Bool) :
    setting.starts ((Mark.kept line ended).line passes) =
      setting.starts line := by
  cases ended with
  | false => rfl
  | true => exact setting.starts_iterate_chompReturn passes line

theorem claimFirst_eq_some {setting : Setting} {marks next : List Mark}
    (claim : claimFirst setting marks = some next) :
    ∃ before line ended after,
      marks = before ++ .kept line ended :: after ∧
        next = before ++ .own setting (some line) :: after ∧
        setting.starts line = true := by
  induction marks generalizing next with
  | nil => cases claim
  | cons mark rest ih =>
      cases mark with
      | own other replaced =>
          obtain ⟨reached, run, rfl⟩ := Option.map_eq_some_iff.mp claim
          obtain ⟨before, line, ended, after, rfl, rfl, starts⟩ :=
            ih run
          exact ⟨.own other replaced :: before, line, ended, after,
            rfl, rfl, starts⟩
      | kept line ended =>
          rw [claimFirst] at claim
          by_cases starts : setting.starts line = true
          · rw [if_pos starts] at claim
            exact ⟨[], line, ended, rest, rfl, (Option.some.inj claim).symm,
              starts⟩
          · rw [if_neg starts] at claim
            obtain ⟨reached, run, rfl⟩ := Option.map_eq_some_iff.mp claim
            obtain ⟨before, first, last, after, rfl, rfl, starts⟩ :=
              ih run
            exact ⟨.kept line ended :: before, first, last, after,
              rfl, rfl, starts⟩

theorem shaped_replace {before after : List Mark} {mark : Mark}
    {setting : Setting} {replaced : Option Text}
    (shaped : Shaped (before ++ mark :: after)) :
    Shaped (before ++ .own setting replaced :: after) := by
  induction before with
  | nil =>
      cases after with
      | nil =>
          intro line same
          cases same
      | cons next rest =>
          refine ⟨fun line same => ?_, shaped.2⟩
          cases same
  | cons head tail ih =>
      cases tail with
      | nil => exact ⟨shaped.1, ih shaped.2⟩
      | cons next rest => exact ⟨shaped.1, ih shaped.2⟩

variable {owned : List Setting} {marks : List Mark}

theorem Laid.claimFirst {marks next : List Mark}
    {setting : Setting} (laid : Laid owned marks) (plain : setting.Plain)
    (claim : claimFirst setting marks = some next) :
    Laid (setting :: owned) next := by
  obtain ⟨before, line, ended, after, rfl, rfl, _⟩ :=
    claimFirst_eq_some claim
  refine ⟨by simp, shaped_replace laid.shaped, ?_, ?_, ?_⟩
  · intro other otherEnded member
    refine laid.unbroken other otherEnded ?_
    rcases List.mem_append.mp member with member | member
    · exact List.mem_append_left _ member
    · rcases List.mem_cons.mp member with same | member
      · cases same
      · exact List.mem_append_right _ (List.mem_cons_of_mem _ member)
  · intro other replaced member
    rcases List.mem_append.mp member with member | member
    · exact List.mem_cons_of_mem _
        (laid.owners other replaced (List.mem_append_left _ member))
    · rcases List.mem_cons.mp member with same | member
      · cases same
        exact List.mem_cons_self
      · exact List.mem_cons_of_mem _ (laid.owners other replaced
          (List.mem_append_right _ (List.mem_cons_of_mem _ member)))
  · intro other member
    rcases List.mem_cons.mp member with rfl | member
    · exact plain
    · exact laid.plain other member

theorem chompLines_render
    (laid : Laid owned marks) (passes : Nat) :
    chompLines (render passes marks) = render (passes + 1) marks := by
  have shaped := laid.shaped
  have visible :
      ∀ setting replaced, .own setting replaced ∈ marks →
        chompReturn setting.line = setting.line := by
    intro setting replaced member
    refine (chompReturn_eq_self_iff _).mpr (Setting.Plain.visible ?_)
    exact laid.plain setting (laid.owners setting replaced member)
  clear laid
  induction marks with
  | nil => rfl
  | cons mark rest ih =>
      cases rest with
      | nil =>
          cases mark with
          | own setting replaced => rfl
          | kept line ended =>
              cases ended with
              | false => rfl
              | true => exact absurd rfl (shaped line)
      | cons next rest =>
          have tail := ih shaped.2
            fun setting replaced member =>
              visible setting replaced (List.mem_cons_of_mem _ member)
          rw [render, List.map_cons] at tail ⊢
          rw [List.map_cons, chompLines, tail]
          refine congrArg (· :: _) ?_
          cases mark with
          | own setting replaced =>
              exact visible setting replaced List.mem_cons_self
          | kept line ended =>
              cases ended with
              | false => exact absurd rfl (shaped.1 line)
              | true => exact (Function.iterate_succ_apply' _ _ _).symm

theorem Laid.unbroken_render
    (laid : Laid owned marks) (passes : Nat) :
    Unbroken (render passes marks) := by
  intro line member inside
  obtain ⟨mark, within, rfl⟩ := List.mem_map.mp member
  cases mark with
  | own setting replaced =>
      have plain := laid.plain setting (laid.owners setting replaced within)
      exact plain.not_mem_line (Or.inr rfl) inside
  | kept line ended =>
      cases ended with
      | false => exact laid.unbroken line false within inside
      | true =>
          exact laid.unbroken line true within
            (mem_of_mem_iterate_chompReturn passes inside)

theorem Laid.splitLines_joinLines
    (laid : Laid owned marks) (passes : Nat) :
    splitLines (joinLines (render passes marks)) =
      render (passes + 1) marks := by
  have filled : render passes marks ≠ [] := by
    intro empty
    exact laid.filled (List.map_eq_nil_iff.mp empty)
  rw [TextEdits.splitLines_joinLines filled (laid.unbroken_render passes),
    chompLines_render laid]

theorem setFirst_render
    {setting : Setting} (laid : Laid owned marks)
    (apart : ∀ other ∈ owned, setting.starts other.line = false)
    (passes : Nat) :
    setFirst setting.starts setting.line (render passes marks) =
      (WebAuth.claimFirst setting marks).map (render passes) := by
  have owners := laid.owners
  clear laid
  induction marks with
  | nil => rfl
  | cons mark rest ih =>
      have tail := ih fun other replaced member =>
        owners other replaced (List.mem_cons_of_mem _ member)
      rw [render, List.map_cons, setFirst, ← render, tail]
      cases mark with
      | own other replaced =>
          have silent : ¬ setting.starts other.line = true := by
            rw [apart other (owners other replaced List.mem_cons_self)]
            exact Bool.false_ne_true
          rw [Mark.line, if_neg silent, WebAuth.claimFirst, Option.map_map,
            Option.map_map]
          rfl
      | kept line ended =>
          rw [starts_line_kept, WebAuth.claimFirst]
          by_cases starts : setting.starts line = true
          · rw [if_pos starts, if_pos starts]
            rfl
          · rw [if_neg starts, if_neg starts, Option.map_map, Option.map_map]
            rfl

theorem replaceProperty_eq_ok_iff (setting : Setting) (source next : Text) :
    replaceProperty source setting.key setting.value = .ok next ↔
      ∃ lines,
        setFirst setting.starts setting.line (splitLines source) =
            some lines ∧
          next = joinLines lines := by
  rw [setFirst_eq]
  cases place : (splitLines source).findIdx? setting.starts with
  | none =>
      have missing :
          (splitLines source).findIdx? (startsProperty setting.key) = none :=
        place
      rw [replaceProperty, missing]
      constructor
      · intro run
        cases run
      · rintro ⟨lines, found, _⟩
        cases found
  | some index =>
      have found :
          (splitLines source).findIdx? (startsProperty setting.key) =
            some index := place
      rw [replaceProperty, found]
      constructor
      · intro run
        exact ⟨_, rfl, (Except.ok.inj run).symm⟩
      · rintro ⟨lines, set, rfl⟩
        rw [← Option.some.inj set]
        rfl

theorem upsertProperty_of_found {setting : Setting} {source : Text}
    {lines : List Text}
    (found :
      setFirst setting.starts setting.line (splitLines source) =
        some lines) :
    upsertProperty source setting.key setting.value = joinLines lines := by
  rw [setFirst_eq] at found
  obtain ⟨index, place, rfl⟩ := Option.map_eq_some_iff.mp found
  change (splitLines source).findIdx? (startsProperty setting.key) =
    some index at place
  simp only [upsertProperty, place]
  rfl

theorem upsertProperty_of_missing {setting : Setting} {source : Text}
    (missing :
      setFirst setting.starts setting.line (splitLines source) = none) :
    upsertProperty source setting.key setting.value =
      joinLines
        ((splitLines source).take
            (if (splitLines source).getLast? = some [] then
              (splitLines source).length - 1
            else (splitLines source).length) ++
          setting.line ::
            (splitLines source).drop
              (if (splitLines source).getLast? = some [] then
                (splitLines source).length - 1
              else (splitLines source).length)) := by
  rw [setFirst_eq, Option.map_eq_none_iff] at missing
  change (splitLines source).findIdx? (startsProperty setting.key) =
    none at missing
  simp only [upsertProperty, missing]
  rfl

theorem shaped_last {initial : List Mark} {last : Mark}
    (shaped : Shaped (initial ++ [last])) (line : Text) :
    last ≠ .kept line true := by
  induction initial with
  | nil => exact shaped line
  | cons head tail ih =>
      cases tail with
      | nil => exact ih shaped.2
      | cons next rest => exact ih shaped.2

theorem appendOwn_cases (setting : Setting) (marks : List Mark) :
    ∃ before after,
      marks = before ++ after ∧
        appendOwn setting marks = before ++ .own setting none :: after ∧
        (after = [.kept [] false] ∨
          after = [] ∧ marks.getLast? ≠ some (.kept [] false)) := by
  by_cases blank : marks.getLast? = some (.kept [] false)
  · obtain ⟨initial, rfl⟩ := List.getLast?_eq_some_iff.mp blank
    refine ⟨initial, [.kept [] false], rfl, ?_, Or.inl rfl⟩
    rw [appendOwn, blank, List.dropLast_concat]
  · refine ⟨marks, [], (List.append_nil marks).symm, ?_, Or.inr ⟨rfl, blank⟩⟩
    rw [appendOwn]
    split
    next same => exact absurd same blank
    next => rfl

theorem Setting.line_ne_nil (setting : Setting) : setting.line ≠ [] := by
  simp [Setting.line, propertyLine]

theorem upsertProperty_render
    {setting : Setting} (laid : Laid owned marks)
    (apart : ∀ other ∈ owned, setting.starts other.line = false)
    (passes : Nat) :
    upsertProperty (joinLines (render passes marks))
        setting.key setting.value =
      joinLines (render (passes + 1)
        ((WebAuth.claimFirst setting marks).getD
          (appendOwn setting marks))) := by
  have lines := laid.splitLines_joinLines passes
  have pass := setFirst_render laid apart (passes + 1)
  cases claim : WebAuth.claimFirst setting marks with
  | some next =>
      rw [claim, ← lines] at pass
      exact upsertProperty_of_found pass
  | none =>
      rw [claim, ← lines] at pass
      rw [upsertProperty_of_missing pass, lines]
      obtain ⟨before, after, split, appended, shape⟩ :=
        appendOwn_cases setting marks
      have place :
          (if (render (passes + 1) marks).getLast? = some [] then
            (render (passes + 1) marks).length - 1
          else (render (passes + 1) marks).length) =
            (render (passes + 1) before).length := by
        rcases shape with rfl | ⟨rfl, visible⟩
        · rw [split, render, List.map_append]
          simp [render, Mark.line]
        · rw [List.append_nil] at split
          rw [split, if_neg]
          intro blank
          rw [render, List.getLast?_map, Option.map_eq_some_iff] at blank
          obtain ⟨last, final, empty⟩ := blank
          rw [← split] at final
          obtain ⟨initial, whole⟩ := List.getLast?_eq_some_iff.mp final
          cases last with
          | own other replaced => exact other.line_ne_nil empty
          | kept line ended =>
              cases ended with
              | true =>
                  exact shaped_last (whole ▸ laid.shaped) line rfl
              | false =>
                  refine visible ?_
                  rw [final]
                  exact congrArg (fun text => some (Mark.kept text false))
                    empty
      rw [place, Option.getD_none, appended, split, render, render, render,
        List.map_append, List.map_append, List.map_cons, List.take_left,
        List.drop_left]
      rfl

end GravitPanel.Clients.WebAuth
