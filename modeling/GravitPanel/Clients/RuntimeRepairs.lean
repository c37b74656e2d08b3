import GravitPanel.Clients.RuntimeProperties

/-!
# Repaired property files

A fix that succeeds finishes a layout of the file.  Of the layout it is then
decided whether the fix is stable, keeps the other lines and sets the values.
-/

namespace GravitPanel.Clients.WebAuth

open TextEdits JavaProperties

/-- A layout of the lines of a text in which every setting has its line. -/
structure Finished (settings : Settings) (text : Text)
    (marks : List Mark) : Prop where
  filled : marks ≠ []
  unbroken : Unbroken (render 3 marks)
  last : ∀ line, marks.getLast? ≠ some (.kept line true)
  owners :
    ∀ setting replaced, .own setting replaced ∈ marks →
      setting ∈ settings.all
  found :
    ∀ setting ∈ settings.all,
      (render 3 marks).find? setting.starts = some setting.line
  originals : marks.flatMap Mark.original = text.splitOn '\n'

theorem laid_markLines {lines : List Text} (filled : lines ≠ [])
    (unbroken : Unbroken lines) : Laid [] (markLines lines) := by
  induction lines with
  | nil => exact absurd rfl filled
  | cons line rest ih =>
      cases rest with
      | nil =>
          refine ⟨List.cons_ne_nil _ _, ?_, ?_, ?_, ?_⟩
          · intro other same
            cases same
          · intro other ended member
            cases List.mem_singleton.mp member
            exact unbroken line List.mem_cons_self
          · intro setting replaced member
            cases List.mem_singleton.mp member
          · intro setting member
            cases member
      | cons next rest =>
          have tail := ih (List.cons_ne_nil _ _)
            fun other member =>
              unbroken other (List.mem_cons_of_mem _ member)
          refine ⟨List.cons_ne_nil _ _, ?_, ?_, ?_, tail.plain⟩
          · cases rest with
            | nil =>
                refine ⟨fun other same => ?_, tail.shaped⟩
                cases same
            | cons third rest =>
                refine ⟨fun other same => ?_, tail.shaped⟩
                cases same
          · intro other ended member
            rcases List.mem_cons.mp member with same | member
            · cases same
              exact unbroken line List.mem_cons_self
            · exact tail.unbroken other ended member
          · intro setting replaced member
            rcases List.mem_cons.mp member with same | member
            · cases same
            · exact tail.owners setting replaced member

theorem render_markLines (lines : List Text) :
    render 0 (markLines lines) = lines := by
  induction lines with
  | nil => rfl
  | cons line rest ih =>
      cases rest with
      | nil => rfl
      | cons next rest => exact congrArg (line :: ·) ih

theorem originals_markLines (lines : List Text) :
    (markLines lines).flatMap Mark.original = lines := by
  induction lines with
  | nil => rfl
  | cons line rest ih =>
      cases rest with
      | nil => rfl
      | cons next rest => exact congrArg (line :: ·) ih

theorem originals_claimFirst {setting : Setting} {marks next : List Mark}
    (claim : claimFirst setting marks = some next) :
    next.flatMap Mark.original = marks.flatMap Mark.original := by
  obtain ⟨before, line, ended, after, rfl, rfl, _⟩ :=
    claimFirst_eq_some claim
  rw [List.flatMap_append, List.flatMap_append, List.flatMap_cons,
    List.flatMap_cons]
  rfl

theorem originals_appendOwn (setting : Setting) (marks : List Mark) :
    (appendOwn setting marks).flatMap Mark.original =
      marks.flatMap Mark.original := by
  obtain ⟨before, after, split, appended, _⟩ :=
    appendOwn_cases setting marks
  rw [appended, split, List.flatMap_append, List.flatMap_append,
    List.flatMap_cons]
  rfl

theorem Laid.last {owned : List Setting} {marks : List Mark}
    (laid : Laid owned marks) (line : Text) :
    marks.getLast? ≠ some (.kept line true) := by
  intro final
  obtain ⟨initial, rfl⟩ := List.getLast?_eq_some_iff.mp final
  exact shaped_last laid.shaped line rfl

theorem find_appendOwn (setting : Setting) (marks : List Mark) :
    (∀ other : Setting,
      (render 3 marks).find? other.starts = some other.line →
        (render 3 (appendOwn setting marks)).find? other.starts =
          some other.line) ∧
      ((render 3 marks).find? setting.starts = none →
        (render 3 (appendOwn setting marks)).find? setting.starts =
          some setting.line) := by
  obtain ⟨before, after, split, appended, shape⟩ :=
    appendOwn_cases setting marks
  have whole : render 3 marks = render 3 before ++ render 3 after := by
    rw [split, render, List.map_append]
    rfl
  have longer :
      render 3 (appendOwn setting marks) =
        render 3 before ++ setting.line :: render 3 after := by
    rw [appended, render, List.map_append]
    rfl
  rw [whole, longer]
  constructor
  · intro other found
    rw [List.find?_append] at found ⊢
    cases earlier : (render 3 before).find? other.starts with
    | some line =>
        rw [earlier] at found
        exact found
    | none =>
        rw [earlier, Option.none_or] at found
        have within := List.mem_of_find?_eq_some found
        rcases shape with rfl | ⟨rfl, _⟩
        · exact absurd (List.mem_singleton.mp within) other.line_ne_nil
        · cases within
  · intro missing
    rw [List.find?_append, Option.or_eq_none_iff] at missing
    rw [List.find?_append, missing.1, Option.none_or,
      List.find?_cons_of_pos setting.starts_line]

section Claims

variable {owned : List Setting} {marks next : List Mark} {setting : Setting}

theorem replaceProperty_render (laid : Laid owned marks)
    (apart : ∀ other ∈ owned, setting.starts other.line = false)
    (passes : Nat) {result : Text}
    (run :
      replaceProperty (joinLines (render passes marks))
        setting.key setting.value = .ok result) :
    ∃ claimed,
      WebAuth.claimFirst setting marks = some claimed ∧
        result = joinLines (render (passes + 1) claimed) := by
  obtain ⟨lines, set, rfl⟩ :=
    (replaceProperty_eq_ok_iff setting _ result).mp run
  rw [laid.splitLines_joinLines, setFirst_render laid apart] at set
  obtain ⟨claimed, claim, rfl⟩ := Option.map_eq_some_iff.mp set
  exact ⟨claimed, claim, rfl⟩

theorem found_claimFirst (laid : Laid owned marks)
    (apart : ∀ other ∈ owned, setting.starts other.line = false)
    (claim : claimFirst setting marks = some next) :
    (render 3 next).find? setting.starts = some setting.line := by
  have set := setFirst_render laid apart 3
  rw [claim] at set
  exact find_setFirst setting.starts_line set

theorem found_claimFirst_other (laid : Laid owned marks)
    (apart : ∀ other ∈ owned, setting.starts other.line = false)
    (claim : claimFirst setting marks = some next) {other : Setting}
    (differ : ∀ line, setting.starts line = true → other.starts line = false)
    (found : (render 3 marks).find? other.starts = some other.line) :
    (render 3 next).find? other.starts = some other.line := by
  have set := setFirst_render laid apart 3
  rw [claim] at set
  rw [find_setFirst_of_apart differ setting.starts_line set, found]

theorem Laid.finish (laid : Laid owned marks) (plain : setting.Plain)
    (apart : ∀ other ∈ owned, setting.starts other.line = false) :
    let finished :=
      (WebAuth.claimFirst setting marks).getD (appendOwn setting marks)
    finished ≠ [] ∧ Unbroken (render 3 finished) ∧
      (∀ line, finished.getLast? ≠ some (.kept line true)) ∧
      (∀ other replaced, .own other replaced ∈ finished →
        other ∈ setting :: owned) ∧
      (render 3 finished).find? setting.starts = some setting.line ∧
      finished.flatMap Mark.original = marks.flatMap Mark.original := by
  cases claim : WebAuth.claimFirst setting marks with
  | some next =>
      have reached := laid.claimFirst plain claim
      exact ⟨reached.filled, reached.unbroken_render 3, reached.last,
        reached.owners, found_claimFirst laid apart claim,
        originals_claimFirst claim⟩
  | none =>
      rw [Option.getD_none]
      obtain ⟨before, after, split, appended, shape⟩ :=
        appendOwn_cases setting marks
      have missing : (render 3 marks).find? setting.starts = none := by
        have set := setFirst_render laid apart 3
        rw [claim] at set
        exact find_of_setFirst_none set
      refine ⟨?_, ?_, ?_, ?_, (find_appendOwn setting marks).2 missing,
        originals_appendOwn setting marks⟩
      · rw [appended]
        simp
      · intro line member
        rw [appended, render, List.map_append, List.map_cons,
          List.mem_append, List.mem_cons] at member
        have whole := laid.unbroken_render 3
        rw [split, render, List.map_append] at whole
        rcases member with member | rfl | member
        · exact whole line (List.mem_append_left _ member)
        · exact plain.not_mem_line (Or.inr rfl)
        · exact whole line (List.mem_append_right _ member)
      · intro line
        rw [appended]
        rcases shape with rfl | ⟨rfl, _⟩
        · simp
        · simp
      · intro other replaced member
        have owners := laid.owners other replaced
        rw [split] at owners
        rw [appended, List.mem_append, List.mem_cons] at member
        rcases member with member | same | member
        · exact List.mem_cons_of_mem _
            (owners (List.mem_append_left _ member))
        · cases same
          exact List.mem_cons_self
        · exact List.mem_cons_of_mem _
            (owners (List.mem_append_right _ member))

end Claims

theorem Settings.Plain.keys {settings : Settings} (plain : settings.Plain) :
    settings.description.key ≠ settings.rememberLogin.key ∧
      settings.description.key ≠ settings.copyLink.key ∧
      settings.rememberLogin.key ≠ settings.copyLink.key := by
  have distinct := plain.2
  simp only [Settings.all, List.map_cons, List.map_nil, List.nodup_cons,
    List.mem_cons, List.not_mem_nil, or_false, not_or] at distinct
  exact ⟨distinct.1.1, distinct.1.2, distinct.2.1⟩

theorem applySettings_finishes {settings : Settings} {text fixed : Text}
    (plain : settings.Plain) (run : applySettings settings text = .ok fixed) :
    ∃ marks,
      layout settings text = some marks ∧ Finished settings text marks ∧
        fixed = joinLines (render 3 marks) := by
  have first : settings.description ∈ settings.all := by simp [Settings.all]
  have second : settings.rememberLogin ∈ settings.all := by
    simp [Settings.all]
  have third : settings.copyLink ∈ settings.all := by simp [Settings.all]
  obtain ⟨firstSecond, firstThird, secondThird⟩ := plain.keys
  obtain ⟨described, firstRun, run⟩ := Program.outcome_bind_eq_ok.mp run
  obtain ⟨remembered, secondRun, run⟩ := Program.outcome_bind_eq_ok.mp run
  -- the three passes, each over the layout that the one before it reached
  have start :=
    laid_markLines (List.splitOn_ne_nil '\n' text) (unbroken_splitOn text)
  have source :
      text = joinLines (render 0 (markLines (text.splitOn '\n'))) := by
    rw [render_markLines, joinLines_splitOn]
  rw [source] at firstRun
  have firstApart :
      ∀ other ∈ ([] : List Setting),
        settings.description.starts other.line = false := by
    intro other member
    cases member
  obtain ⟨once, firstClaim, rfl⟩ :=
    replaceProperty_render start firstApart 0 firstRun
  have laidOnce := start.claimFirst (plain.1 _ first) firstClaim
  have secondApart :
      ∀ other ∈ [settings.description],
        settings.rememberLogin.starts other.line = false := by
    intro other member
    rw [List.mem_singleton.mp member]
    exact plain.apart first second firstSecond settings.description.starts_line
  obtain ⟨twice, secondClaim, rfl⟩ :=
    replaceProperty_render laidOnce secondApart 1 secondRun
  have laidTwice := laidOnce.claimFirst (plain.1 _ second) secondClaim
  have thirdApart :
      ∀ other ∈ [settings.rememberLogin, settings.description],
        settings.copyLink.starts other.line = false := by
    intro other member
    rcases List.mem_cons.mp member with rfl | member
    · exact plain.apart second third secondThird
        settings.rememberLogin.starts_line
    · rw [List.mem_singleton.mp member]
      exact plain.apart first third firstThird
        settings.description.starts_line
  have last := Except.ok.inj run
  rw [upsertProperty_render laidTwice thirdApart] at last
  refine ⟨_, ?_, ?_, last.symm⟩
  · rw [layout, firstClaim, Option.bind_some, secondClaim, Option.map_some]
  · obtain ⟨filled, unbroken, ends, owners, found, originals⟩ :=
      laidTwice.finish (plain.1 _ third) thirdApart
    -- what the earlier passes set stays the first line of its key
    have secondFound := found_claimFirst laidOnce secondApart secondClaim
    have firstFound :=
      found_claimFirst_other laidOnce secondApart secondClaim
        (fun line => plain.apart second first (Ne.symm firstSecond))
        (found_claimFirst start firstApart firstClaim)
    have kept :
        ∀ other ∈ settings.all, settings.copyLink.key ≠ other.key →
          (render 3 twice).find? other.starts = some other.line →
          (render 3 ((WebAuth.claimFirst settings.copyLink twice).getD
            (appendOwn settings.copyLink twice))).find? other.starts =
              some other.line := by
      intro other member different present
      cases claim : WebAuth.claimFirst settings.copyLink twice with
      | some next =>
          exact found_claimFirst_other laidTwice thirdApart claim
            (fun line => plain.apart third member different) present
      | none =>
          exact (find_appendOwn settings.copyLink twice).1 other present
    refine ⟨filled, unbroken, ends, ?_, ?_, ?_⟩
    · intro other replaced member
      have owner := owners other replaced member
      simp only [List.mem_cons, List.not_mem_nil, or_false] at owner
      simp only [Settings.all, List.mem_cons, List.not_mem_nil, or_false]
      tauto
    · intro other member
      simp only [Settings.all, List.mem_cons, List.not_mem_nil, or_false]
        at member
      rcases member with rfl | rfl | rfl
      · exact kept _ first (Ne.symm firstThird) firstFound
      · exact kept _ second (Ne.symm secondThird) secondFound
      · exact found
    · rw [originals, originals_claimFirst secondClaim,
        originals_claimFirst firstClaim, originals_markLines]

theorem replaceProperty_of_found {setting : Setting} {lines : List Text}
    (plain : setting.Plain) (filled : lines ≠ []) (unbroken : Unbroken lines)
    (found : lines.find? setting.starts = some setting.line) :
    replaceProperty (joinLines lines) setting.key setting.value =
      .ok (joinLines (chompLines lines)) := by
  refine (replaceProperty_eq_ok_iff setting _ _).mpr
    ⟨chompLines lines, ?_, rfl⟩
  rw [splitLines_joinLines filled unbroken]
  exact setFirst_of_find (find_chompLines setting.starts_chompReturn
    ((chompReturn_eq_self_iff _).mpr plain.visible) found)

theorem upsertProperty_of_present {setting : Setting} {lines : List Text}
    (plain : setting.Plain) (filled : lines ≠ []) (unbroken : Unbroken lines)
    (found : lines.find? setting.starts = some setting.line) :
    upsertProperty (joinLines lines) setting.key setting.value =
      joinLines (chompLines lines) := by
  refine upsertProperty_of_found ?_
  rw [splitLines_joinLines filled unbroken]
  exact setFirst_of_find (find_chompLines setting.starts_chompReturn
    ((chompReturn_eq_self_iff _).mpr plain.visible) found)

section Finished

variable {settings : Settings} {text : Text} {marks : List Mark}

theorem Finished.render_ne_nil (finished : Finished settings text marks) :
    render 3 marks ≠ [] := by
  intro empty
  exact finished.filled (List.map_eq_nil_iff.mp empty)

theorem Finished.applySettings (plain : settings.Plain)
    (finished : Finished settings text marks) :
    applySettings settings (joinLines (render 3 marks)) =
      .ok (joinLines
        (chompLines (chompLines (chompLines (render 3 marks))))) := by
  have first : settings.description ∈ settings.all := by simp [Settings.all]
  have second : settings.rememberLogin ∈ settings.all := by
    simp [Settings.all]
  have third : settings.copyLink ∈ settings.all := by simp [Settings.all]
  have filled := finished.render_ne_nil
  have unbroken := finished.unbroken
  have step :
      ∀ setting ∈ settings.all, ∀ lines : List Text,
        lines.find? setting.starts = some setting.line →
          (chompLines lines).find? setting.starts = some setting.line := by
    intro setting member lines found
    exact find_chompLines setting.starts_chompReturn
      ((chompReturn_eq_self_iff _).mpr (plain.1 setting member).visible) found
  have run :
      WebAuth.applySettings settings (joinLines (render 3 marks)) =
        (replaceProperty (joinLines (render 3 marks))
          settings.description.key settings.description.value).bind
          fun described =>
            (replaceProperty described settings.rememberLogin.key
              settings.rememberLogin.value).bind fun remembered =>
              .ok (upsertProperty remembered settings.copyLink.key
                settings.copyLink.value) := rfl
  rw [run, replaceProperty_of_found (plain.1 _ first) filled unbroken
    (finished.found _ first)]
  change (replaceProperty (joinLines (chompLines (render 3 marks)))
    settings.rememberLogin.key settings.rememberLogin.value).bind _ = _
  rw [replaceProperty_of_found (plain.1 _ second) (chompLines_ne_nil filled)
    unbroken.chompLines (step _ second _ (finished.found _ second))]
  change Except.ok (upsertProperty
    (joinLines (chompLines (chompLines (render 3 marks))))
    settings.copyLink.key settings.copyLink.value) = _
  rw [upsertProperty_of_present (plain.1 _ third)
    (chompLines_ne_nil (chompLines_ne_nil filled))
    unbroken.chompLines.chompLines
    (step _ third _ (step _ third _ (finished.found _ third)))]

theorem Finished.again_iff_chomped (plain : settings.Plain)
    (finished : Finished settings text marks) :
    WebAuth.applySettings settings (joinLines (render 3 marks)) =
        .ok (joinLines (render 3 marks)) ↔
      chompLines (render 3 marks) = render 3 marks := by
  rw [finished.applySettings plain, ← chompLines_three_eq_self_iff]
  have filled := finished.render_ne_nil
  constructor
  · intro same
    exact joinLines_injective
      (chompLines_ne_nil (chompLines_ne_nil (chompLines_ne_nil filled)))
      finished.unbroken.chompLines.chompLines.chompLines filled
      finished.unbroken (Except.ok.inj same)
  · intro same
    rw [same]

theorem Finished.own_plain (plain : settings.Plain)
    (finished : Finished settings text marks) {setting : Setting}
    {replaced : Option Text} (member : .own setting replaced ∈ marks) :
    setting.Plain :=
  plain.1 setting (finished.owners setting replaced member)

theorem Finished.chomped_iff (plain : settings.Plain)
    (finished : Finished settings text marks) :
    chompLines (render 3 marks) = render 3 marks ↔ EndsPlainly marks := by
  rw [chompLines_eq_self_iff, render, ← List.map_dropLast]
  constructor
  · intro visible line
    constructor
    · intro member ends
      have inner : Mark.kept line true ∈ marks.dropLast := by
        rcases List.eq_nil_or_concat marks with rfl | ⟨initial, last, rfl⟩
        · cases member
        · rw [List.concat_eq_append] at member ⊢
          rw [List.dropLast_concat]
          rcases List.mem_append.mp member with member | member
          · exact member
          · refine absurd ?_ (finished.last line)
            rw [List.concat_eq_append, ← List.mem_singleton.mp member]
            exact List.getLast?_concat
      exact visible _ (List.mem_map_of_mem inner)
        ((getLast_iterate_chompReturn_iff 3 line).mpr ends)
    · intro member
      exact visible _ (List.mem_map_of_mem member)
  · rintro plainly line member
    obtain ⟨mark, within, rfl⟩ := List.mem_map.mp member
    cases mark with
    | own setting replaced =>
        exact (finished.own_plain plain
          (List.mem_of_mem_dropLast within)).visible
    | kept line ended =>
        cases ended with
        | false => exact (plainly line).2 within
        | true =>
            intro ends
            exact (plainly line).1 (List.mem_of_mem_dropLast within)
              ((getLast_iterate_chompReturn_iff 3 line).mp ends)

/-- The lines of a piece of text that no setting starts. -/
def otherParts (settings : Settings) (line : Text) : List Text :=
  (line.splitOn '\r').filter (isOther settings)

theorem otherParts_chompReturn (settings : Settings) (line : Text) :
    otherParts settings (chompReturn line) = otherParts settings line := by
  rcases chompReturn_cases line with split | ⟨same, _⟩
  · have parts := congrArg (otherParts settings) split
    rw [parts, otherParts, otherParts, List.splitOn_append_cons_self,
      List.splitOn_nil, List.filter_append]
    exact (List.append_nil _).symm
  · rw [same]

theorem otherParts_iterate (settings : Settings) (passes : Nat)
    (line : Text) :
    otherParts settings (chompReturn^[passes] line) =
      otherParts settings line := by
  induction passes generalizing line with
  | zero => rfl
  | succ passes ih =>
      rw [Function.iterate_succ_apply, ih,
        otherParts_chompReturn]

theorem otherLines_joinLines (settings : Settings) {lines : List Text}
    (filled : lines ≠ []) (unbroken : Unbroken lines) :
    otherLines settings (joinLines lines) =
      lines.flatMap (otherParts settings) := by
  rw [otherLines, naturalLines, splitLines_joinLines filled unbroken,
    List.filter_flatMap]
  exact flatMap_chompLines (otherParts_chompReturn settings) lines

theorem otherParts_own {setting : Setting} (plain : setting.Plain)
    (member : setting ∈ settings.all) :
    otherParts settings setting.line = [] := by
  rw [otherParts,
    List.splitOn_eq_singleton (plain.not_mem_line (Or.inl rfl)),
    List.filter_singleton]
  have started : isOther settings setting.line = false := by
    rw [isOther, Bool.and_eq_false_iff]
    refine Or.inr (List.all_eq_false.mpr ⟨setting, member, ?_⟩)
    rw [setting.starts_line]
    exact Bool.false_ne_true
  rw [started]
  rfl

theorem Finished.others_iff (plain : settings.Plain)
    (finished : Finished settings text marks) :
    otherLines settings (joinLines (render 3 marks)) =
        otherLines settings text ↔
      ReplacesWhole settings marks := by
  have before :
      otherLines settings text =
        marks.flatMap fun mark =>
          mark.original.flatMap (otherParts settings) := by
    rw [← joinLines_splitOn text,
      otherLines_joinLines settings (List.splitOn_ne_nil '\n' text)
        (unbroken_splitOn text), ← finished.originals,
      List.flatMap_assoc]
  have after :
      otherLines settings (joinLines (render 3 marks)) =
        marks.flatMap fun mark => otherParts settings (mark.line 3) := by
    rw [otherLines_joinLines settings finished.render_ne_nil
      finished.unbroken, render, List.flatMap_map]
  have keptParts :
      ∀ line ended,
        otherParts settings ((Mark.kept line ended).line 3) =
          (Mark.kept line ended).original.flatMap (otherParts settings) := by
    intro line ended
    rw [Mark.original, List.flatMap_singleton]
    cases ended with
    | false => rfl
    | true => exact otherParts_iterate settings 3 line
  have ownParts :
      ∀ setting replaced, .own setting replaced ∈ marks →
        otherParts settings ((Mark.own setting replaced).line 3) = [] := by
    intro setting replaced member
    exact otherParts_own (finished.own_plain plain member)
      (finished.owners setting replaced member)
  have within :
      ∀ mark ∈ marks,
        otherParts settings (mark.line 3) =
            mark.original.flatMap (otherParts settings) ∨
          otherParts settings (mark.line 3) = [] := by
    intro mark member
    cases mark with
    | kept line ended => exact Or.inl (keptParts line ended)
    | own setting replaced => exact Or.inr (ownParts setting replaced member)
  rw [before, after, flatMap_eq_flatMap_iff within]
  constructor
  · intro same setting replaced member line inside
    have empty := same _ member
    rw [ownParts setting (some replaced) member] at empty
    have parts : otherParts settings replaced = [] := by
      rw [empty]
      exact (List.flatMap_singleton _ _).symm
    exact eq_false_of_ne_true (List.filter_eq_nil_iff.mp parts line inside)
  · intro whole mark member
    cases mark with
    | kept line ended => exact keptParts line ended
    | own setting replaced =>
        rw [ownParts setting replaced member]
        cases replaced with
        | none => rfl
        | some replaced =>
            have parts : otherParts settings replaced = [] := by
              refine List.filter_eq_nil_iff.mpr fun line inside => ?_
              rw [whole setting replaced member line inside]
              exact Bool.false_ne_true
            rw [Mark.original, Option.toList_some, List.flatMap_singleton,
              parts]

theorem readLines_marks {marks : List Mark}
    (plain : ∀ setting replaced, .own setting replaced ∈ marks →
      setting.Plain) (pending : Text) :
    (readLines pending
          (marks.flatMap fun mark => mark.trimmed.splitOn '\r')).1 ++
        closeLine (readLines pending
          (marks.flatMap fun mark => mark.trimmed.splitOn '\r')).2 =
      (readings pending marks).map Reading.content := by
  induction marks generalizing pending with
  | nil =>
      rw [readings, List.map_map]
      exact (List.map_id _).symm
  | cons mark rest ih =>
      have tail := ih fun setting replaced member =>
        plain setting replaced (List.mem_cons_of_mem _ member)
      rw [List.flatMap_cons, readLines_append]
      cases mark with
      | kept line ended =>
          rw [readings, List.map_append, List.map_map, List.append_assoc,
            tail]
          exact congrArg (· ++ _) (List.map_id _).symm
      | own setting replaced =>
          have own := plain setting replaced List.mem_cons_self
          have alone :
              (Mark.own setting replaced).trimmed.splitOn '\r' =
                [setting.line] :=
            List.splitOn_eq_singleton (own.not_mem_line (Or.inl rfl))
          have read :
              readLines pending [setting.line] =
                ([pending ++ setting.line], []) := by
            rw [readLines, Setting.line, propertyLine,
              readLine_assignment own.1 own.2]
            rfl
          rw [alone, read, List.append_assoc, tail, readings, List.map_cons]
          by_cases fresh : pending = []
          · rw [if_pos fresh, fresh]
            rfl
          · rw [if_neg fresh]
            rfl

theorem own_of_mem_readings {marks : List Mark} {pending : Text}
    {setting : Setting} (member : .own setting ∈ readings pending marks) :
    ∃ replaced, .own setting replaced ∈ marks := by
  induction marks generalizing pending with
  | nil =>
      obtain ⟨line, _, same⟩ := List.mem_map.mp member
      cases same
  | cons mark rest ih =>
      cases mark with
      | kept line ended =>
          rw [readings, List.mem_append] at member
          rcases member with member | member
          · obtain ⟨content, _, same⟩ := List.mem_map.mp member
            cases same
          · obtain ⟨replaced, within⟩ := ih member
            exact ⟨replaced, List.mem_cons_of_mem _ within⟩
      | own other replaced =>
          rw [readings, List.mem_cons] at member
          rcases member with same | member
          · by_cases fresh : pending = []
            · rw [if_pos fresh] at same
              cases same
              exact ⟨replaced, List.mem_cons_self⟩
            · rw [if_neg fresh] at same
              cases same
          · obtain ⟨before, within⟩ := ih member
            exact ⟨before, List.mem_cons_of_mem _ within⟩

theorem EndsPlainly.trimmed (plainly : EndsPlainly marks) :
    render 3 marks = marks.map Mark.trimmed := by
  refine List.map_congr_left fun mark member => ?_
  cases mark with
  | own setting replaced => rfl
  | kept line ended =>
      cases ended with
      | false => rfl
      | true =>
          refine iterate_chompReturn_eq 3 fun ends => ?_
          exact (plainly line).1 member
            ((getLast_iterate_chompReturn_iff 3 line).mp ends)

theorem Finished.logicalLines (plain : settings.Plain)
    (finished : Finished settings text marks)
    (plainly : EndsPlainly marks) :
    logicalLines (naturalLines (joinLines (render 3 marks))) =
      (readings [] marks).map Reading.content := by
  rw [naturalLines,
    splitLines_joinLines finished.render_ne_nil finished.unbroken,
    (finished.chomped_iff plain).mpr plainly, plainly.trimmed,
    List.flatMap_map]
  exact readLines_marks (fun setting replaced member =>
    finished.own_plain plain member) []

theorem Finished.values_iff (plain : settings.Plain)
    (finished : Finished settings text marks)
    (plainly : EndsPlainly marks) :
    HasValues settings (joinLines (render 3 marks)) ↔
      SetsLast settings marks := by
  have assigned :
      ∀ reading ∈ readings [] marks,
        property reading.content = reading.assignment := by
    intro reading member
    cases reading with
    | text content => rfl
    | own setting =>
        obtain ⟨replaced, within⟩ := own_of_mem_readings member
        have own := finished.own_plain plain within
        exact property_assignment own.1 own.2
  have entries :
      ((readings [] marks).map Reading.content).filterMap property =
        (readings [] marks).filterMap Reading.assignment := by
    rw [List.filterMap_map]
    exact List.filterMap_congr assigned
  have loads :
      (((readings [] marks).map Reading.content).all fun line =>
          (property line).isSome) = true ↔
        ∀ reading ∈ readings [] marks, reading.assignment.isSome := by
    rw [List.all_map, List.all_eq_true]
    constructor
    · intro all reading member
      rw [← assigned reading member]
      exact all reading member
    · intro all reading member
      rw [Function.comp_apply, assigned reading member]
      exact all reading member
  rw [HasValues, load, finished.logicalLines plain plainly, entries]
  constructor
  · rintro ⟨found, run, values⟩
    by_cases all :
        (((readings [] marks).map Reading.content).all fun line =>
          (property line).isSome) = true
    · rw [if_pos all] at run
      refine ⟨loads.mp all, fun setting member => ?_⟩
      have value := values setting member
      rw [← Option.some.inj run] at value
      exact (lastValue_filterMap_eq_some_iff _ _ _ _).mp value
    · rw [if_neg all] at run
      cases run
  · rintro ⟨all, last⟩
    refine ⟨_, if_pos (loads.mpr all), fun setting member => ?_⟩
    exact (lastValue_filterMap_eq_some_iff _ _ _ _).mpr (last setting member)

end Finished

theorem repaired_iff {settings : Settings} {text fixed : Text}
    (plain : settings.Plain) (run : applySettings settings text = .ok fixed) :
    Repaired settings text fixed ↔ Repairable settings text := by
  obtain ⟨marks, laid, finished, rfl⟩ := applySettings_finishes plain run
  have again :=
    (finished.again_iff_chomped plain).trans (finished.chomped_iff plain)
  constructor
  · intro repaired
    have plainly := again.mp repaired.again
    exact ⟨marks, laid, plainly,
      (finished.others_iff plain).mp repaired.others,
      (finished.values_iff plain plainly).mp repaired.values⟩
  · rintro ⟨others, same, plainly, whole, last⟩
    rw [laid] at same
    cases same
    exact ⟨again.mpr plainly, (finished.values_iff plain plainly).mpr last,
      (finished.others_iff plain).mpr whole⟩

end GravitPanel.Clients.WebAuth
