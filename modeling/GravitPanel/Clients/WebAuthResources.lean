import GravitPanel.Clients.RuntimeRepairs
import GravitPanel.Clients.WebAuthFxml
import Mathlib.Data.List.Nodup

/-!
# The resource fix of web authorization

On every start the fix rewrites the window of web authorization and three
keys in the property files that exist.  The last section says exactly for
which files it does what it promises.
-/

namespace GravitPanel.Clients.WebAuth

open Program TextEdits JavaProperties

def webAuthFxmlPath : String := "runtime/overlay/webauth/webauth.fxml"

def webAuthDescriptionKey : String :=
  "runtime.overlay.webauth.webauth.description"

def webAuthCopyLinkKey : String :=
  "runtime.overlay.webauth.webauth.copyLink"

def rememberLoginKey : String := "runtime.scenes.login.savePassword"

def webAuthDescriptions : List (String × String) :=
  [("runtime/runtime_en.properties",
    "Complete authorization in your browser, then return here and confirm the login. If the browser did not open, copy the link manually."),
    ("runtime/runtime_ru.properties",
    "Завершите авторизацию в браузере, затем вернитесь сюда и подтвердите вход. Если браузер не открылся, скопируйте ссылку вручную."),
    ("runtime/runtime_pl.properties",
    "Dokończ autoryzację w przeglądarce, następnie wróć tutaj i potwierdź logowanie. Jeśli przeglądarka się nie otworzyła, skopiuj link ręcznie."),
    ("runtime/runtime_uk.properties",
    "Завершіть авторизацію у браузері, потім поверніться сюди та підтвердьте вхід. Якщо браузер не відкрився, скопіюйте посилання вручну."),
    ("runtime/runtime_be.properties",
    "Завяршыце аўтарызацыю ў браўзеры, затым вярніцеся сюды і пацвердзіце ўваход. Калі браўзер не адкрыўся, скапіруйце спасылку ўручную.")]

def webAuthCopyLinkLabels : List (String × String) :=
  [("runtime/runtime_en.properties", "COPY AUTHORIZATION LINK"),
    ("runtime/runtime_ru.properties", "СКОПИРОВАТЬ ССЫЛКУ"),
    ("runtime/runtime_pl.properties", "KOPIUJ LINK AUTORYZACYJNY"),
    ("runtime/runtime_uk.properties", "СКОПІЮВАТИ ПОСИЛАННЯ"),
    ("runtime/runtime_be.properties", "СКАПІЯВАЦЬ СПАСЫЛКУ")]

def rememberLoginLabels : List (String × String) :=
  [("runtime/runtime_en.properties", "REMEMBER LOGIN"),
    ("runtime/runtime_ru.properties", "ЗАПОМНИТЬ ВХОД"),
    ("runtime/runtime_pl.properties", "ZAPAMIĘTAJ LOGOWANIE"),
    ("runtime/runtime_uk.properties", "ЗАПАМ’ЯТАТИ ВХІД"),
    ("runtime/runtime_be.properties", "ЗАПОМНІЦЬ УВАХОД")]

/-- `labels[path]`, written into a text. -/
def labelOf (labels : List (String × String)) (path : String) : Text :=
  ((labels.lookup path).getD "undefined").toList

/-- What the fix sets in the file of a path and its description. -/
def fileSettings (file : String × String) : Settings where
  description := ⟨webAuthDescriptionKey.toList, file.2.toList⟩
  rememberLogin :=
    ⟨rememberLoginKey.toList, labelOf rememberLoginLabels file.1⟩
  copyLink :=
    ⟨webAuthCopyLinkKey.toList, labelOf webAuthCopyLinkLabels file.1⟩

/-- The texts of the volume by their paths. -/
abbrev RuntimeFiles := String → Option Text

theorem keys_plain :
    PlainKey webAuthDescriptionKey.toList ∧
      PlainKey rememberLoginKey.toList ∧
      PlainKey webAuthCopyLinkKey.toList := by
  refine ⟨?_, ?_, ?_⟩ <;> exact plainKey_ofList rfl (by decide)

set_option maxRecDepth 4000 in
theorem values_plain :
    ∀ entry ∈
        webAuthDescriptions ++ webAuthCopyLinkLabels ++ rememberLoginLabels,
      PlainValue entry.2.toList := by
  simp only [webAuthDescriptions, webAuthCopyLinkLabels,
    rememberLoginLabels, List.cons_append, List.nil_append,
    List.forall_mem_cons]
  refine ⟨?_, ?_, ?_, ?_, ?_, ?_, ?_, ?_, ?_, ?_, ?_, ?_, ?_, ?_, ?_, ?_⟩
  case refine_16 =>
    intro entry member
    cases member
  all_goals exact plainValue_ofList rfl (by decide)

theorem labelOf_plain {labels : List (String × String)}
    (plain : ∀ entry ∈ labels, PlainValue entry.2.toList) (path : String) :
    PlainValue (labelOf labels path) := by
  rw [labelOf]
  cases found : labels.lookup path with
  | none => exact plainValue_ofList rfl (by decide)
  | some label =>
      induction labels with
      | nil => cases found
      | cons entry rest ih =>
          rw [List.forall_mem_cons] at plain
          rw [List.lookup_cons] at found
          cases same : path == entry.1 with
          | true =>
              rw [same] at found
              rw [Option.getD_some, ← Option.some.inj found]
              exact plain.1
          | false =>
              rw [same] at found
              exact ih plain.2 found

theorem fileSettings_plain :
    ∀ file ∈ webAuthDescriptions, (fileSettings file).Plain := by
  intro file member
  obtain ⟨first, second, third⟩ := keys_plain
  have values := values_plain
  simp only [List.forall_mem_append] at values
  have distinct :
      [webAuthDescriptionKey, rememberLoginKey, webAuthCopyLinkKey].Nodup := by
    simp [webAuthDescriptionKey, rememberLoginKey, webAuthCopyLinkKey]
  refine ⟨?_, ?_⟩
  · intro setting inside
    simp only [Settings.all, List.mem_cons, List.not_mem_nil, or_false]
      at inside
    rcases inside with rfl | rfl | rfl
    · exact ⟨first, values.1.1 file member⟩
    · exact ⟨second, labelOf_plain values.2 file.1⟩
    · exact ⟨third, labelOf_plain values.1.2 file.1⟩
  · have letters :
        ([webAuthDescriptionKey, rememberLoginKey, webAuthCopyLinkKey].map
          String.toList).Nodup :=
      List.Nodup.map (fun left right same => String.toList_inj.mp same)
        distinct
    exact letters

/-! ## The program

`details` is what the container prints for a file that it cannot read. -/

section Fix

variable (details : String → String)

def readFile (path : String) : Program RuntimeFiles String Text :=
  fun files =>
    match files path with
    | some text => (.ok text, files)
    | none => (.error ("Unable to read volume file: " ++ details path), files)

def writeFileAtomic (path : String) (text : Text) :
    Program RuntimeFiles String Unit :=
  update fun files other => if other = path then some text else files other

/-- Write a text that differs from the current one and count it. -/
def writeChanged (path : String) (current next : Text) (updated : Nat) :
    Program RuntimeFiles String Nat :=
  if next = current then pure updated
  else do
    writeFileAtomic path next
    pure (updated + 1)

def fixPropertyFiles :
    List (String × String) → Nat → Program RuntimeFiles String Nat
  | [], updated => pure updated
  | file :: rest, updated => do
      let files ← get
      if (files file.1).isNone then fixPropertyFiles rest updated
      else
        let current ← readFile details file.1
        let next ← lift (applySettings (fileSettings file) current)
        let updated ← writeChanged file.1 current next updated
        fixPropertyFiles rest updated

def applyWebAuthResourceFix : Program RuntimeFiles String String := do
  let fxml ← readFile details webAuthFxmlPath
  let nextFxml ← lift (applyWebAuthFxmlFix fxml)
  let updated ← writeChanged webAuthFxmlPath fxml nextFxml 0
  let updated ← fixPropertyFiles details webAuthDescriptions updated
  pure (if updated = 0 then
      "LauncherRuntime external OAuth UI fix is current"
    else
      "Applied LauncherRuntime external OAuth UI fix to " ++
        toString updated ++ " resources")

structure FixHolds (before after : RuntimeFiles) : Prop where
  again :
    ∃ message, applyWebAuthResourceFix details after = (.ok message, after)
  button :
    ∃ text, after webAuthFxmlPath = some text ∧ HasCopyLinkButton text
  values :
    ∀ file ∈ webAuthDescriptions, ∀ text, after file.1 = some text →
      HasValues (fileSettings file) text
  others :
    ∀ file ∈ webAuthDescriptions, ∀ text fixed,
      before file.1 = some text → after file.1 = some fixed →
        otherLines (fileSettings file) fixed =
          otherLines (fileSettings file) text

end Fix

def FilesRepairable (files : RuntimeFiles) : Prop :=
  (∀ text, files webAuthFxmlPath = some text → FxmlRepairable text) ∧
    ∀ file ∈ webAuthDescriptions, ∀ text, files file.1 = some text →
      Repairable (fileSettings file) text

inductive FileFixed (before after : RuntimeFiles) (file : String × String) :
    Prop
  | absent (missing : before file.1 = none) (still : after file.1 = none)
  | fixed (text result : Text) (present : before file.1 = some text)
      (run : applySettings (fileSettings file) text = .ok result)
      (written : after file.1 = some result)

section Runs

variable {details : String → String}

theorem writeChanged_run (path : String) (current next : Text)
    (updated : Nat) {files : RuntimeFiles}
    (present : files path = some current) :
    ∃ total after,
      writeChanged path current next updated files = (.ok total, after) ∧
        after path = some next ∧
        ∀ other, other ≠ path → after other = files other := by
  rw [writeChanged]
  by_cases same : next = current
  · rw [if_pos same, same]
    exact ⟨updated, files, rfl, present, fun other different => rfl⟩
  · rw [if_neg same]
    exact ⟨updated + 1, _, rfl, if_pos rfl,
      fun other different => if_neg different⟩

theorem fixPropertyFiles_eq_ok {items : List (String × String)}
    (distinct : (items.map Prod.fst).Nodup)
    {before after : RuntimeFiles} {updated total : Nat}
    (run :
      fixPropertyFiles details items updated before = (.ok total, after)) :
    (∀ file ∈ items, FileFixed before after file) ∧
      ∀ other, other ∉ items.map Prod.fst → after other = before other := by
  induction items generalizing before updated with
  | nil =>
      cases run
      refine ⟨fun file member => ?_, fun other _ => rfl⟩
      cases member
  | cons file rest ih =>
      rw [List.map_cons, List.nodup_cons] at distinct
      rw [fixPropertyFiles, get_bind] at run
      cases content : before file.1 with
      | none =>
          rw [content, Option.isNone_none, if_pos rfl] at run
          obtain ⟨others, frame⟩ := ih distinct.2 run
          refine ⟨?_, ?_⟩
          · intro item member
            rcases List.mem_cons.mp member with rfl | member
            · exact .absent content (by rw [frame _ distinct.1, content])
            · exact others item member
          · intro other outside
            rw [List.map_cons, List.mem_cons, not_or] at outside
            exact frame other outside.2
      | some text =>
          rw [content, Option.isNone_some, if_neg Bool.false_ne_true] at run
          have read :
              readFile details file.1 before = (.ok text, before) := by
            rw [readFile, content]
          rw [bind_of_ok read] at run
          obtain ⟨result, fixes, run⟩ := lift_bind_eq_ok.mp run
          obtain ⟨count, reached, write, written, kept⟩ :=
            writeChanged_run file.1 text result updated content
          rw [bind_of_ok write] at run
          obtain ⟨others, frame⟩ := ih distinct.2 run
          refine ⟨?_, ?_⟩
          · intro item member
            rcases List.mem_cons.mp member with rfl | member
            · exact .fixed text result content fixes
                (by rw [frame _ distinct.1, written])
            · have different : item.1 ≠ file.1 := by
                intro same
                exact distinct.1 (same ▸ List.mem_map_of_mem member)
              cases others item member with
              | absent missing still =>
                  exact .absent (by rw [← kept _ different, missing]) still
              | fixed old new present runs final =>
                  exact .fixed old new
                    (by rw [← kept _ different, present]) runs final
          · intro other outside
            rw [List.map_cons, List.mem_cons, not_or] at outside
            rw [frame other outside.2, kept other outside.1]

theorem fixPropertyFiles_stable {items : List (String × String)}
    {files : RuntimeFiles}
    (stable : ∀ file ∈ items, ∀ text, files file.1 = some text →
      applySettings (fileSettings file) text = .ok text)
    (updated : Nat) :
    fixPropertyFiles details items updated files = (.ok updated, files) := by
  induction items with
  | nil => rfl
  | cons file rest ih =>
      have tail := ih fun other member =>
        stable other (List.mem_cons_of_mem _ member)
      rw [fixPropertyFiles, get_bind]
      cases content : files file.1 with
      | none => rw [Option.isNone_none, if_pos rfl, tail]
      | some text =>
          have read :
              readFile details file.1 files = (.ok text, files) := by
            rw [readFile, content]
          rw [Option.isNone_some, if_neg Bool.false_ne_true,
            bind_of_ok read, stable file List.mem_cons_self text content]
          change (writeChanged file.1 text text updated >>= _) files = _
          rw [writeChanged, if_pos rfl]
          exact tail

theorem distinct_paths :
    (webAuthDescriptions.map Prod.fst).Nodup ∧
      webAuthFxmlPath ∉ webAuthDescriptions.map Prod.fst := by
  simp [webAuthDescriptions, webAuthFxmlPath]

theorem applyWebAuthResourceFix_eq_ok {before after : RuntimeFiles}
    {message : String}
    (run :
      applyWebAuthResourceFix details before = (.ok message, after)) :
    ∃ fxml nextFxml,
      before webAuthFxmlPath = some fxml ∧
        applyWebAuthFxmlFix fxml = .ok nextFxml ∧
        after webAuthFxmlPath = some nextFxml ∧
        ∀ file ∈ webAuthDescriptions, FileFixed before after file := by
  obtain ⟨distinct, outside⟩ := distinct_paths
  rw [applyWebAuthResourceFix] at run
  cases content : before webAuthFxmlPath with
  | none =>
      have read :
          readFile details webAuthFxmlPath before =
            (.error ("Unable to read volume file: " ++
              details webAuthFxmlPath), before) := by
        rw [readFile, content]
      rw [bind_of_error read] at run
      cases run
  | some fxml =>
      have read :
          readFile details webAuthFxmlPath before = (.ok fxml, before) := by
        rw [readFile, content]
      rw [bind_of_ok read] at run
      obtain ⟨nextFxml, fixes, run⟩ := lift_bind_eq_ok.mp run
      obtain ⟨count, reached, write, written, kept⟩ :=
        writeChanged_run webAuthFxmlPath fxml nextFxml 0 content
      rw [bind_of_ok write] at run
      obtain ⟨total, final, loop, finish⟩ := bind_eq_ok.mp run
      cases finish
      obtain ⟨files, frame⟩ := fixPropertyFiles_eq_ok distinct loop
      refine ⟨fxml, nextFxml, rfl, fixes, ?_, ?_⟩
      · rw [frame _ outside, written]
      · intro file member
        have different : file.1 ≠ webAuthFxmlPath := by
          intro same
          exact outside (same ▸ List.mem_map_of_mem member)
        cases files file member with
        | absent missing still =>
            exact .absent (by rw [← kept _ different, missing]) still
        | fixed old new present runs result =>
            exact .fixed old new (by rw [← kept _ different, present])
              runs result

theorem applyWebAuthResourceFix_again_iff {files : RuntimeFiles}
    {fxml : Text} (present : files webAuthFxmlPath = some fxml) :
    (∃ message,
      applyWebAuthResourceFix details files = (.ok message, files)) ↔
      applyWebAuthFxmlFix fxml = .ok fxml ∧
        ∀ file ∈ webAuthDescriptions, ∀ text, files file.1 = some text →
          applySettings (fileSettings file) text = .ok text := by
  constructor
  · rintro ⟨message, run⟩
    obtain ⟨source, next, same, fixes, written, each⟩ :=
      applyWebAuthResourceFix_eq_ok run
    rw [present] at same written
    cases same
    cases written
    refine ⟨fixes, fun file member text content => ?_⟩
    cases each file member with
    | absent missing _ =>
        rw [content] at missing
        cases missing
    | fixed old new before runs result =>
        rw [content] at before result
        cases before
        cases result
        exact runs
  · rintro ⟨window, properties⟩
    have read :
        readFile details webAuthFxmlPath files = (.ok fxml, files) := by
      rw [readFile, present]
    refine ⟨"LauncherRuntime external OAuth UI fix is current", ?_⟩
    rw [applyWebAuthResourceFix, bind_of_ok read, window]
    change (writeChanged webAuthFxmlPath fxml fxml 0 >>= _) files = _
    rw [writeChanged, if_pos rfl]
    change (fixPropertyFiles details webAuthDescriptions 0 >>= _) files = _
    rw [bind_of_ok (fixPropertyFiles_stable properties 0)]
    rfl

end Runs

/-- The fix does what it promises exactly for repairable files. -/
theorem fixHolds_iff (details : String → String)
    (before after : RuntimeFiles) (message : String)
    (run :
      applyWebAuthResourceFix details before = (.ok message, after)) :
    FixHolds details before after ↔ FilesRepairable before := by
  obtain ⟨fxml, nextFxml, source, fixes, written, each⟩ :=
    applyWebAuthResourceFix_eq_ok run
  have plain := fileSettings_plain
  have window := fxmlRepaired_iff fixes
  constructor
  · intro holds
    obtain ⟨stable, properties⟩ :=
      (applyWebAuthResourceFix_again_iff written).mp holds.again
    obtain ⟨text, result, button⟩ := holds.button
    rw [written] at result
    cases result
    constructor
    · intro other same
      rw [source] at same
      cases same
      exact window.mp ⟨stable, button⟩
    · intro file member text content
      cases each file member with
      | absent missing _ =>
          rw [content] at missing
          cases missing
      | fixed old new present runs result =>
          rw [content] at present
          cases present
          exact (repaired_iff (plain file member) runs).mp
            ⟨properties file member new result,
              holds.values file member new result,
              holds.others file member text new content result⟩
  · rintro ⟨windows, properties⟩
    obtain ⟨stable, button⟩ := window.mpr (windows fxml source)
    have repaired :
        ∀ file ∈ webAuthDescriptions, ∀ text fixed,
          before file.1 = some text → after file.1 = some fixed →
            Repaired (fileSettings file) text fixed := by
      intro file member text fixed content final
      cases each file member with
      | absent missing _ =>
          rw [content] at missing
          cases missing
      | fixed old new present runs result =>
          rw [content] at present
          rw [final] at result
          cases present
          cases result
          exact (repaired_iff (plain file member) runs).mpr
            (properties file member text content)
    have origin :
        ∀ file ∈ webAuthDescriptions, ∀ fixed, after file.1 = some fixed →
          ∃ text, before file.1 = some text := by
      intro file member fixed final
      cases each file member with
      | absent _ still =>
          rw [final] at still
          cases still
      | fixed old _ present _ _ => exact ⟨old, present⟩
    refine ⟨?_, ⟨nextFxml, written, button⟩, ?_, ?_⟩
    · refine (applyWebAuthResourceFix_again_iff written).mpr
        ⟨stable, fun file member text final => ?_⟩
      obtain ⟨old, content⟩ := origin file member text final
      exact (repaired file member old text content final).again
    · intro file member text final
      obtain ⟨old, content⟩ := origin file member text final
      exact (repaired file member old text content final).values
    · intro file member text fixed content final
      exact (repaired file member text fixed content final).others

/-- A window like the one that is shipped, and an English file with a second
description. -/
def repeatedFiles : RuntimeFiles := fun path =>
  if path = webAuthFxmlPath then
    some ("<HBox><Label id=\"link\" styleClass=\"tooltip\" />".toList ++
      "<Button id=\"submit\" /></HBox>".toList)
  else if path = "runtime/runtime_en.properties" then
    some ("runtime.overlay.webauth.webauth.description=Copy\n".toList ++
      "runtime.scenes.login.savePassword=SAVE\n".toList ++
      "runtime.overlay.webauth.webauth.description=Custom\n".toList)
  else none

set_option maxRecDepth 4000 in
theorem english_description :
    ∃ file ∈ webAuthDescriptions,
      file.1 = "runtime/runtime_en.properties" ∧
        encode file.2.toList ≠ encode "Custom".toList :=
  ⟨_, List.mem_cons_self, rfl,
    (congrArg encode (toList_spelled rfl)).trans_ne (by decide +kernel)⟩

theorem repeatedFiles_spelled {window button described remembered custom : Text}
    (windowSpelled :
      "<HBox><Label id=\"link\" styleClass=\"tooltip\" />" =
        String.ofList window)
    (buttonSpelled :
      "<Button id=\"submit\" /></HBox>" = String.ofList button)
    (describedSpelled :
      "runtime.overlay.webauth.webauth.description=Copy\n" =
        String.ofList described)
    (rememberedSpelled :
      "runtime.scenes.login.savePassword=SAVE\n" = String.ofList remembered)
    (customSpelled :
      "runtime.overlay.webauth.webauth.description=Custom\n" =
        String.ofList custom) :
    repeatedFiles = fun path =>
      if path = webAuthFxmlPath then some (window ++ button)
      else if path = "runtime/runtime_en.properties" then
        some (described ++ remembered ++ custom)
      else none := by
  funext path
  rw [repeatedFiles, toList_spelled windowSpelled,
    toList_spelled buttonSpelled, toList_spelled describedSpelled,
    toList_spelled rememberedSpelled, toList_spelled customSpelled]

theorem fileSettings_spelled {path text : String}
    {described remembered copied description remember copy : Text}
    (describedSpelled : webAuthDescriptionKey = String.ofList described)
    (rememberedSpelled : rememberLoginKey = String.ofList remembered)
    (copiedSpelled : webAuthCopyLinkKey = String.ofList copied)
    (descriptionSpelled : text = String.ofList description)
    (rememberSpelled : (rememberLoginLabels.lookup path).getD "undefined" =
      String.ofList remember)
    (copySpelled : (webAuthCopyLinkLabels.lookup path).getD "undefined" =
      String.ofList copy) :
    fileSettings (path, text) =
      { description := ⟨described, description⟩
        rememberLogin := ⟨remembered, remember⟩
        copyLink := ⟨copied, copy⟩ } := by
  rw [fileSettings, labelOf, labelOf, toList_spelled describedSpelled,
    toList_spelled rememberedSpelled, toList_spelled copiedSpelled,
    toList_spelled descriptionSpelled, toList_spelled rememberSpelled,
    toList_spelled copySpelled]

theorem fixPropertyFiles_cons
    {details : String → String} {path text : String} {settings : Settings}
    (spelled : fileSettings (path, text) = settings)
    (rest : List (String × String)) :
    fixPropertyFiles details ((path, text) :: rest) =
      (fun updated => do
        let files ← Program.get
        if (files path).isNone then fixPropertyFiles details rest updated
        else
          let current ← readFile details path
          let next ← lift (applySettings settings current)
          let updated ← writeChanged path current next updated
          fixPropertyFiles details rest updated :
        Nat → Program RuntimeFiles String Nat) := by
  funext updated
  rw [fixPropertyFiles, spelled]

set_option maxRecDepth 4000 in
/-- The fix succeeds, and the second description is still the one that a
reader finds. -/
theorem repeatedFiles_run :
    (applyWebAuthResourceFix id repeatedFiles).1 =
        .ok "Applied LauncherRuntime external OAuth UI fix to 2 resources" ∧
      (((applyWebAuthResourceFix id repeatedFiles).2
          "runtime/runtime_en.properties").bind load).bind
          (lastValue (encode webAuthDescriptionKey.toList)) =
        some (encode "Custom".toList) := by
  have settings : fixPropertyFiles id webAuthDescriptions = _ :=
    fixPropertyFiles_cons
      (fileSettings_spelled rfl rfl rfl rfl rfl rfl) _
  have files : repeatedFiles = _ :=
    repeatedFiles_spelled rfl rfl rfl rfl rfl
  have key : webAuthDescriptionKey.toList = _ := toList_spelled rfl
  rw [applyWebAuthResourceFix, settings, files, key]
  decide +kernel

theorem run_of_message {details : String → String} {files : RuntimeFiles}
    {message : String}
    (ends : (applyWebAuthResourceFix details files).1 = .ok message) :
    applyWebAuthResourceFix details files =
      (.ok message, (applyWebAuthResourceFix details files).2) :=
  Prod.ext ends rfl

theorem fixHolds_repeated :
    FixHolds id repeatedFiles (applyWebAuthResourceFix id repeatedFiles).2 ↔
      FilesRepairable repeatedFiles :=
  fixHolds_iff id repeatedFiles _
    "Applied LauncherRuntime external OAuth UI fix to 2 resources"
    (run_of_message repeatedFiles_run.1)

/-- A key that is assigned again further down keeps its old value. -/
theorem repeated_description_survives :
    (applyWebAuthResourceFix id repeatedFiles).1 =
        .ok "Applied LauncherRuntime external OAuth UI fix to 2 resources" ∧
      ¬ FixHolds id repeatedFiles
        (applyWebAuthResourceFix id repeatedFiles).2 := by
  obtain ⟨succeeds, read⟩ := repeatedFiles_run
  refine ⟨succeeds, fun holds => ?_⟩
  obtain ⟨file, member, path, different⟩ := english_description
  rw [← path] at read
  cases content : (applyWebAuthResourceFix id repeatedFiles).2 file.1 with
  | none =>
      rw [content] at read
      cases read
  | some text =>
      obtain ⟨entries, loaded, values⟩ :=
        holds.values file member text content
      have value := values (fileSettings file).description
        List.mem_cons_self
      rw [content, Option.bind_some, loaded, Option.bind_some] at read
      exact different (Option.some.inj (value.symm.trans read))

end GravitPanel.Clients.WebAuth
