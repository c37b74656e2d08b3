import Mathlib.Data.List.Nodup
import GravitPanel.Mods.ModpackImport

/-!
# Identifiers of imported optional mods

An import names each optional mod after its pack and the digest of its path.
The name becomes a directory in the path of the mod's action, is read back from
there, and must pass the schema of the routes that update and remove the mod.
-/

namespace GravitPanel.Mods

open FileTree Program Clients Json

/-- The schema `^[A-Za-z0-9_-]+$` with at most 64 characters. -/
def isIdCharacter (character : Char) : Bool :=
  Servers.isAlphanumeric character || character = '_' || character = '-'

def projectIdSchema (value : String) : Bool :=
  value ≠ "" && JavaScript.length value ≤ 64 &&
    value.toList.all isIdCharacter

/-- Where a pack comes from: the project of the API, or the bytes of a local
archive. -/
inductive PackOrigin where
  | modrinth (id : String)
  | archive (bytes : List UInt8)
  deriving DecidableEq, Repr

/-- The identifier that `resolveModpack` and `resolveLocalModpack` give a
pack. -/
def packProjectId (sha256 : List UInt8 → String) : PackOrigin → String
  | .modrinth id => id
  | .archive bytes =>
      "local-" ++ String.ofList ((sha256 bytes).toList.take 40)

structure HexDigest (digits : Nat) (text : String) : Prop where
  length : text.toList.length = digits
  digit : ∀ character ∈ text.toList, isIdCharacter character

/-- What is documented of identifiers and digests: the API's project
identifiers are in base 62, and both digests are hexadecimal. -/
structure DocumentedIds
    (sha1 : String → String) (sha256 : List UInt8 → String)
    (origin : PackOrigin) : Prop where
  sha1 : ∀ text, HexDigest 40 (sha1 text)
  sha256 : ∀ bytes, HexDigest 64 (sha256 bytes)
  modrinth : ∀ id, origin = .modrinth id →
    ∀ character ∈ id.toList, Servers.isAlphanumeric character

/-- The entry of a mod is listed under an identifier that the routes accept,
and removing or updating this identifier changes that entry and no other. -/
def Manageable
    (toLowerCase : String → String) (next : List Json)
    (input : OptionalModInput) : Prop :=
  ∃ before entry after reported,
    next = before ++ entry :: after ∧
      describeOptional entry = some reported ∧
      reported.sourcePath = input.sourcePath ∧
      projectIdSchema reported.projectId = true ∧
      removeOptionalMod (some (.array next)) reported.projectId =
        .ok (before ++ after, entry.fields?.bind optionalFileAction) ∧
      ∀ files change result, change.projectId = reported.projectId →
        updateOptionalMod toLowerCase files (some (.array next)) change =
          .ok result →
        result = (before ++ updateValue change entry :: after, false)

theorem units_of_idCharacter
    {character : Char} (legal : isIdCharacter character) :
    JavaScript.units character = 1 := by
  unfold isIdCharacter Servers.isAlphanumeric at legal
  have small : character.val ≤ 0xFFFF := by
    simp only [Bool.or_eq_true, decide_eq_true_eq] at legal
    rcases legal with (letter | rfl) | rfl
    · delta Char.isAlpha Char.isUpper Char.isLower Char.isDigit at letter
      simp only [Bool.or_eq_true, Bool.and_eq_true, decide_eq_true_eq]
        at letter
      rcases letter with (upper | lower) | digit
      · exact UInt32.le_trans upper.2 (by decide)
      · exact UInt32.le_trans lower.2 (by decide)
      · exact UInt32.le_trans digit.2 (by decide)
    · decide
    · decide
  exact if_pos small

theorem length_of_idCharacters
    {text : String} (legal : ∀ character ∈ text.toList,
      isIdCharacter character) :
    JavaScript.length text = text.toList.length := by
  have counted : text.toList.map JavaScript.units =
      text.toList.map fun _ => 1 :=
    List.map_congr_left fun character member =>
      units_of_idCharacter (legal character member)
  rw [JavaScript.length, counted, List.map_const', List.sum_replicate_nat,
    Nat.mul_one]

/-- The optional mods of an import have different identifiers, and each is
made from a file of the pack. -/
def OptionalsOf
    (host : ImportHost) (pack : ResolvedModrinthPack)
    (state : ImportState) : Prop :=
  (state.optionals.map OptionalModInput.projectId).Nodup ∧
    ∀ optional ∈ state.optionals, ∃ file ∈ pack.files, ∃ selection,
      optional = optionalInput host pack file selection

section Collected

variable {host : ImportHost} {pack : ResolvedModrinthPack}

theorem mem_setOptional
    {optionals : List OptionalModInput} {input other : OptionalModInput}
    (member : other ∈ setOptional optionals input) :
    other = input ∨ other ∈ optionals := by
  unfold setOptional at member
  split at member
  · obtain ⟨earlier, present, shape⟩ := List.mem_map.mp member
    split at shape
    · exact .inl shape.symm
    · exact .inr (shape ▸ present)
  · rcases List.mem_append.mp member with earlier | latest
    · exact .inr earlier
    · exact .inl (List.mem_singleton.mp latest)

theorem setOptional_nodup
    {optionals : List OptionalModInput} {input : OptionalModInput}
    (distinct : (optionals.map OptionalModInput.projectId).Nodup) :
    ((setOptional optionals input).map
      OptionalModInput.projectId).Nodup := by
  unfold setOptional
  split
  · have same : ((optionals.map fun other =>
        if other.projectId = input.projectId then input else other).map
          OptionalModInput.projectId) =
        optionals.map OptionalModInput.projectId := by
      rw [List.map_map]
      apply List.map_congr_left
      intro other _
      simp only [Function.comp_apply]
      split
      next equal => exact equal.symm
      · rfl
    rw [same]
    exact distinct
  next absent =>
    rw [List.map_append, List.map_singleton, ← List.concat_eq_append]
    apply List.Nodup.concat _ distinct
    intro member
    obtain ⟨other, present, equal⟩ := List.mem_map.mp member
    exact absent (List.any_eq_true.mpr
      ⟨other, present, decide_eq_true equal⟩)

theorem requestFilesystem_collects (request : LiveRequest) :
    Keeps (OptionalsOf host pack) (requestFilesystem host request) :=
  keeps_get.bind fun _ =>
    Keeps.bind (keeps_update fun _ holds => holds) fun _ => keeps_lift _

theorem writeToServers_collects
    (bindings : List String) (path : String) (bytes : List UInt8) :
    Keeps (OptionalsOf host pack)
      (writeToServers host bindings path bytes) := by
  refine keeps_forEach fun bindingId _ => ?_
  refine Keeps.lift_bind fun _ => ?_
  refine Keeps.bind (keeps_forEach fun directory _ => ?_) fun _ => ?_
  · exact Keeps.handle (requestFilesystem_collects _) fun _ =>
      requestFilesystem_collects _
  · exact requestFilesystem_collects _

theorem writeVolumeFile_collects (path : String) (bytes : List UInt8) :
    Keeps (OptionalsOf host pack) (writeVolumeFile host path bytes) :=
  Keeps.lift_bind fun _ => keeps_update fun _ holds => holds

theorem applyToClient_collects
    {file : PackFile} (selection : PackSelection) (bytes : List UInt8)
    (member : file ∈ pack.files) :
    Keeps (OptionalsOf host pack)
      (applyToClient host pack file selection bytes) := by
  unfold applyToClient
  cases selection.clientMode with
  | required => exact writeVolumeFile_collects _ _
  | optional =>
      refine (writeVolumeFile_collects _ _).bind fun _ => ?_
      refine keeps_update fun state holds => ?_
      refine ⟨setOptional_nodup holds.1, fun optional present => ?_⟩
      rcases mem_setOptional present with rfl | earlier
      · exact ⟨file, member, selection, rfl⟩
      · exact holds.2 optional earlier
  | none => exact keeps_pure _

theorem applyFile_collects
    {file : PackFile} (input : ModpackImportInput)
    (bindings : List String) (member : file ∈ pack.files) :
    Keeps (OptionalsOf host pack)
      (applyFile host input pack bindings file) := by
  unfold applyFile
  cases selectionOf input file.path with
  | none => exact keeps_throw _
  | some selection =>
      refine Keeps.lift_bind fun _ => ?_
      unfold installSelected
      split
      · exact keeps_pure _
      · refine Keeps.lift_bind fun bytes => ?_
        refine (applyToClient_collects selection bytes member).bind
          fun _ => ?_
        split
        · exact writeToServers_collects _ _ _
        · exact keeps_pure _

theorem applyOverride_collects
    (bindings : List String) (override : PackOverride) :
    Keeps (OptionalsOf host pack) (applyOverride host bindings override) := by
  unfold applyOverride
  refine Keeps.bind ?_ fun _ => ?_
  · split
    · exact writeVolumeFile_collects _ _
    · exact keeps_pure _
  · split
    · exact writeToServers_collects _ _ _
    · exact keeps_pure _

theorem import_collects
    (host : ImportHost) (input : ModpackImportInput)
    (pack : ResolvedModrinthPack) :
    OptionalsOf host pack
      (applyResolvedModpack host input pack ImportState.empty).2 := by
  have keeps : Keeps (OptionalsOf host pack)
      (applyResolvedModpack host input pack) := by
    refine Keeps.lift_bind fun _ => ?_
    refine Keeps.bind (keeps_forEach fun file member =>
      applyFile_collects input _ member) fun _ => ?_
    exact keeps_forEach fun override _ => applyOverride_collects _ override
  exact keeps.reached
    ⟨List.nodup_nil, fun optional member => absurd member List.not_mem_nil⟩

end Collected

theorem basename_plain {path : String} (safe : safePackPath path) :
    basename path ≠ "" ∧ basename path ≠ "." ∧ basename path ≠ ".." ∧
      '/' ∉ (basename path).toList := by
  have plain := named_of_safe safe
  have kept : (pathSteps path).filter (· ≠ "") = pathSteps path := by
    rw [List.filter_eq_self]
    intro part member
    exact decide_eq_true (plain part member).1
  have some : pathSteps path ≠ [] := by
    simp [pathSteps, List.splitOn_ne_nil]
  have last : (pathSteps path).getLast? =
      .some ((pathSteps path).getLast some) :=
    List.getLast?_eq_some_getLast some
  have member := List.getLast_mem some
  rw [basename, kept, last, Option.getD_some]
  exact ⟨(plain _ member).1, (plain _ member).2.1, (plain _ member).2.2,
    slashFree_pathSteps path _ member⟩

theorem optionalSourcePath_steps
    {projectId path : String} (named : projectId ≠ "")
    (legal : ∀ character ∈ projectId.toList, isIdCharacter character)
    (safe : safePackPath path) :
    pathSteps (optionalSourcePath projectId path) =
        [".gravit-panel-optional", "mods", projectId, basename path] ∧
      optionalSourcePath projectId path =
        joinSteps [".gravit-panel-optional", "mods", projectId,
          basename path] := by
  have base := basename_plain safe
  have dots : projectId ≠ "." ∧ projectId ≠ ".." := by
    constructor <;> rintro rfl <;>
      exact absurd (legal '.' (by decide)) (by decide)
  have noSlash : '/' ∉ projectId.toList := fun slash =>
    absurd (legal '/' slash) (by decide)
  have plain : Plain [".gravit-panel-optional", "mods", projectId,
      basename path] := by
    intro name member
    simp only [List.mem_cons, List.not_mem_nil, or_false] at member
    rcases member with rfl | rfl | rfl | rfl
    · decide
    · decide
    · exact ⟨named, dots⟩
    · exact ⟨base.1, base.2.1, base.2.2.1⟩
  have slashFree : SlashFree [".gravit-panel-optional", "mods", projectId,
      basename path] := by
    intro name member
    simp only [List.mem_cons, List.not_mem_nil, or_false] at member
    rcases member with rfl | rfl | rfl | rfl
    · decide
    · decide
    · exact noSlash
    · exact base.2.2.2
  have joined := posixJoin_of_plain (List.cons_ne_nil _ _) slashFree plain
  refine ⟨?_, joined⟩
  rw [optionalSourcePath, joined,
    pathSteps_joinSteps (List.cons_ne_nil _ _) slashFree]

/-- A collected mod is read back from its entry. -/
structure Readable (input : OptionalModInput) (path : String) : Prop where
  named : input.projectId ≠ ""
  legal : ∀ character ∈ input.projectId.toList, isIdCharacter character
  safe : safePackPath path
  source : input.sourcePath = optionalSourcePath input.projectId path
  destination : input.destinationPath = some path

section Entries

variable {input : OptionalModInput} {path : String}

theorem optionalFileAction_item
    (readable : Readable input path) (title : String) :
    optionalFileAction (optionalItem input title) =
      some ⟨input.sourcePath, basename path, path⟩ := by
  obtain ⟨-, text⟩ := optionalSourcePath_steps readable.named
    readable.legal readable.safe
  have inside : optionalDirectory.toList.isPrefixOf
      input.sourcePath.toList = true := by
    rw [readable.source, text, List.isPrefixOf_iff_prefix,
      joinSteps, String.toList_intercalate]
    simp only [List.map_cons]
    exact ⟨_, rfl⟩
  have pair : fileOfPair (input.sourcePath, .string path) =
      some ⟨input.sourcePath, basename path, path⟩ :=
    if_pos inside
  simp [optionalFileAction, optionalItem, getField, items?, fields?,
    fileOfAction, readable.destination, pair]

theorem optionalProjectId_item
    (readable : Readable input path) (title : String) :
    optionalProjectId (optionalItem input title) =
      some input.projectId := by
  obtain ⟨steps, -⟩ := optionalSourcePath_steps readable.named
    readable.legal readable.safe
  rw [optionalProjectId, optionalFileAction_item readable,
    Option.bind_some, readable.source, steps]
  exact if_neg readable.named

theorem described_item
    (readable : Readable input path) (title : String) :
    ∃ reported,
      describeOptional (.object (optionalItem input title)) =
        some reported ∧ reported.sourcePath = input.sourcePath ∧
          reported.projectId = input.projectId := by
  unfold describeOptional
  rw [fields?, Option.bind_some, optionalProjectId_item readable,
    Option.bind_some, optionalFileAction_item readable, Option.map_some]
  exact ⟨_, rfl, rfl, rfl⟩

theorem reported_projectId
    {value : Json} {reported : OptionalMod}
    (readable : Readable input path)
    (described : describeOptional value = some reported)
    (source : reported.sourcePath = input.sourcePath) :
    reported.projectId = input.projectId := by
  obtain ⟨steps, -⟩ := optionalSourcePath_steps readable.named
    readable.legal readable.safe
  obtain ⟨item, -, inner⟩ := Option.bind_eq_some_iff.mp described
  obtain ⟨projectId, identified, mapped⟩ := Option.bind_eq_some_iff.mp inner
  obtain ⟨file, action, rfl⟩ := Option.map_eq_some_iff.mp mapped
  obtain ⟨other, found, after⟩ := Option.bind_eq_some_iff.mp identified
  rw [action] at found
  cases found
  have parts : partAfterMods (pathSteps input.sourcePath) =
      some projectId := by
    rw [← source]
    exact after
  rw [readable.source, steps] at parts
  have here : partAfterMods [".gravit-panel-optional", "mods",
      input.projectId, basename path] = some input.projectId :=
    if_neg readable.named
  rw [here] at parts
  exact (Option.some.inj parts).symm

end Entries

theorem optionalItems_append
    (toLowerCase : String → String) (used : List String)
    (first second : List OptionalModInput) :
    ∃ later, optionalItems toLowerCase used (first ++ second) =
      optionalItems toLowerCase used first ++
        optionalItems toLowerCase later second := by
  induction first generalizing used with
  | nil => exact ⟨used, rfl⟩
  | cons input rest ih =>
      obtain ⟨later, same⟩ := ih
        (toLowerCase (freeTitle toLowerCase used input) :: used)
      exact ⟨later, by rw [List.cons_append, optionalItems, same,
        optionalItems, List.cons_append]⟩

theorem mem_optionalItems
    {toLowerCase : String → String} {used : List String}
    {inputs : List OptionalModInput} {item : JsonFields}
    (member : item ∈ optionalItems toLowerCase used inputs) :
    ∃ input ∈ inputs, ∃ title, item = optionalItem input title := by
  induction inputs generalizing used with
  | nil => exact absurd member List.not_mem_nil
  | cons input rest ih =>
      rcases List.mem_cons.mp member with rfl | later
      · exact ⟨input, List.mem_cons_self, _, rfl⟩
      · obtain ⟨other, present, title, shape⟩ := ih later
        exact ⟨other, List.mem_cons_of_mem _ present, title, shape⟩

/-- One value of a list, and only that one, has an identifier. -/
structure Addressed
    (projectId : String) (before : List Json) (value : Json)
    (after : List Json) : Prop where
  here : hasProjectId projectId value = true
  earlier : ∀ other ∈ before, hasProjectId projectId other = false
  later : ∀ other ∈ after, hasProjectId projectId other = false

section Addressing

variable {projectId : String} {before after : List Json} {value : Json}

theorem Addressed.removed
    (addressed : Addressed projectId before value after) :
    removeOptionalMod (some (.array (before ++ value :: after)))
        projectId =
      .ok (before ++ after, value.fields?.bind optionalFileAction) := by
  have found : (before ++ value :: after).find? (hasProjectId projectId) =
      some value := by
    have none : before.find? (hasProjectId projectId) = none := by
      rw [List.find?_eq_none]
      intro other member
      rw [addressed.earlier other member]
      decide
    rw [List.find?_append, none, Option.none_or,
      List.find?_cons_of_pos addressed.here]
  have kept : ∀ values : List Json,
      (∀ other ∈ values, hasProjectId projectId other = false) →
        values.filter (fun other => !hasProjectId projectId other) =
          values := by
    intro values all
    rw [List.filter_eq_self]
    intro other member
    rw [all other member]
    rfl
  unfold removeOptionalMod
  simp only [optionalValues, Option.bind_some, items?, Option.getD_some,
    found]
  rw [List.filter_append, List.filter_cons_of_neg
    (by rw [addressed.here]; decide), kept before addressed.earlier,
    kept after addressed.later]

theorem updateValue_of_other
    {change : OptionalModUpdate} {other : Json}
    (different : hasProjectId change.projectId other = false) :
    updateValue change other = other := by
  unfold updateValue
  split
  · rfl
  next item fields =>
    have unlike : optionalProjectId item ≠ some change.projectId := by
      unfold hasProjectId at different
      rw [fields, Option.bind_some] at different
      exact of_decide_eq_false different
    rw [if_neg unlike]

theorem Addressed.updated
    {toLowerCase : String → String} {files : ModFiles}
    {change : OptionalModUpdate} {result : List Json × Bool}
    (addressed : Addressed projectId before value after)
    (same : change.projectId = projectId)
    (done : updateOptionalMod toLowerCase files
      (some (.array (before ++ value :: after))) change = .ok result) :
    result = (before ++ updateValue change value :: after, false) := by
  subst same
  have found : (before ++ value :: after).any
      (hasProjectId change.projectId) = true :=
    List.any_eq_true.mpr ⟨value, List.mem_append_right _
      List.mem_cons_self, addressed.here⟩
  have kept : ∀ values : List Json,
      (∀ other ∈ values, hasProjectId change.projectId other = false) →
        values.map (updateValue change) = values := by
    intro values all
    rw [List.map_congr_left fun other member =>
      updateValue_of_other (all other member), List.map_id']
  unfold updateOptionalMod at done
  split at done
  · cases done
  · have values : optionalValues
        (some (.array (before ++ value :: after))) =
          before ++ value :: after := rfl
    dsimp only at done
    rw [values] at done
    by_cases taken : (before ++ value :: after).any
        (nameTaken toLowerCase change) = true
    · rw [if_pos taken] at done
      cases done
    · rw [if_neg taken, if_pos found] at done
      cases done
      rw [List.map_append, List.map_cons, kept before addressed.earlier,
        kept after addressed.later]

end Addressing

/-! ## Imported mods -/

theorem hasProjectId_object (projectId : String) (item : JsonFields) :
    hasProjectId projectId (.object item) = true ↔
      optionalProjectId item = some projectId := by
  unfold hasProjectId
  rw [fields?, Option.bind_some, decide_eq_true_eq]

theorem addressed_of_upsert
    (toLowerCase : String → String) (updateOptional : Option Json)
    {inputs : List OptionalModInput} {input : OptionalModInput}
    (distinct : (inputs.map OptionalModInput.projectId).Nodup)
    (readable : ∀ other ∈ inputs, ∃ path, Readable other path)
    (member : input ∈ inputs) :
    ∃ before title after,
      upsertOptionalMods toLowerCase updateOptional inputs [] =
        before ++ .object (optionalItem input title) :: after ∧
      Addressed input.projectId before
        (.object (optionalItem input title)) after := by
  obtain ⟨first, second, rfl⟩ := List.append_of_mem member
  unfold upsertOptionalMods
  simp only
  generalize keptShape : keptItems updateOptional
    ((first ++ input :: second).map OptionalModInput.projectId ++ []) = kept
  obtain ⟨later, split⟩ := optionalItems_append toLowerCase
    ((kept.filterMap itemName).map toLowerCase) first (input :: second)
  rw [split, optionalItems]
  generalize earlierShape : optionalItems toLowerCase
    ((kept.filterMap itemName).map toLowerCase) first = earlierItems
  generalize laterShape : optionalItems toLowerCase
    (toLowerCase (freeTitle toLowerCase later input) :: later) second =
      laterItems
  refine ⟨(kept ++ earlierItems).map .object,
    freeTitle toLowerCase later input, laterItems.map .object, ?_, ?_, ?_,
    ?_⟩
  · rw [← List.append_assoc, List.map_append, List.map_cons]
  · obtain ⟨path, shape⟩ := readable input member
    rw [hasProjectId_object]
    exact optionalProjectId_item shape _
  all_goals
    rw [List.map_append, List.map_cons, List.nodup_append,
      List.nodup_cons] at distinct
  · intro other inside
    obtain ⟨item, present, rfl⟩ := List.mem_map.mp inside
    rw [← Bool.not_eq_true, hasProjectId_object]
    rcases List.mem_append.mp present with old | new
    · intro same
      rw [← keptShape] at old
      have passed := (List.mem_filter.mp old).2
      simp only [same] at passed
      exact absurd (of_decide_eq_true passed) (by simp)
    · rw [← earlierShape] at new
      obtain ⟨earlier, among, title, rfl⟩ := mem_optionalItems new
      obtain ⟨path, shape⟩ := readable earlier
        (List.mem_append_left _ among)
      rw [optionalProjectId_item shape]
      intro same
      exact distinct.2.2 _ (List.mem_map_of_mem among) _
        List.mem_cons_self (Option.some.inj same)
  · intro other inside
    obtain ⟨item, present, rfl⟩ := List.mem_map.mp inside
    rw [← Bool.not_eq_true, hasProjectId_object]
    rw [← laterShape] at present
    obtain ⟨after, among, title, rfl⟩ := mem_optionalItems present
    obtain ⟨path, shape⟩ := readable after
      (List.mem_append_right _ (List.mem_cons_of_mem _ among))
    rw [optionalProjectId_item shape]
    intro same
    exact distinct.2.1.1 (List.mem_map.mpr
      ⟨after, among, Option.some.inj same⟩)

theorem packProjectId_legal
    {sha1 : String → String} {sha256 : List UInt8 → String}
    {origin : PackOrigin} (documented : DocumentedIds sha1 sha256 origin) :
    ∀ character ∈ (packProjectId sha256 origin).toList,
      isIdCharacter character := by
  cases origin with
  | modrinth id =>
      intro character member
      have letter := documented.modrinth id rfl character member
      unfold isIdCharacter
      rw [letter]
      rfl
  | archive bytes =>
      have word : ∀ character ∈ "local-".toList,
          isIdCharacter character :=
        List.all_eq_true.mp (by decide)
      intro character member
      simp only [packProjectId, String.toList_append, String.toList_ofList]
        at member
      rcases List.mem_append.mp member with letter | digit
      · exact word character letter
      · exact (documented.sha256 bytes).digit character
          (List.mem_of_mem_take digit)

theorem optionalProjectIdOf_characters
    (host : ImportHost) (packId path : String) :
    (optionalProjectIdOf host packId path).toList =
      "mrpack-".toList ++ packId.toList ++ "-".toList ++
        (host.sha1 path).toList.take 12 := by
  simp only [optionalProjectIdOf, String.toList_append,
    String.toList_ofList]

theorem optionalProjectIdOf_length
    {host : ImportHost} (packId : String) {path : String}
    (digest : HexDigest 40 (host.sha1 path)) :
    (optionalProjectIdOf host packId path).toList.length =
      packId.toList.length + 20 := by
  have word : "mrpack-".toList.length = 7 := rfl
  have dash : "-".toList.length = 1 := rfl
  rw [optionalProjectIdOf_characters, List.length_append,
    List.length_append, List.length_append, List.length_take,
    digest.length, word, dash]
  omega

theorem optionalProjectIdOf_legal
    {host : ImportHost} {packId path : String}
    (digest : HexDigest 40 (host.sha1 path))
    (legal : ∀ character ∈ packId.toList, isIdCharacter character) :
    ∀ character ∈ (optionalProjectIdOf host packId path).toList,
      isIdCharacter character := by
  have word : ∀ character ∈ "mrpack-".toList, isIdCharacter character :=
    List.all_eq_true.mp (by decide)
  have dash : ∀ character ∈ "-".toList, isIdCharacter character :=
    List.all_eq_true.mp (by decide)
  intro character member
  rw [optionalProjectIdOf_characters] at member
  rcases List.mem_append.mp member with start | digit
  · rcases List.mem_append.mp start with name | last
    · rcases List.mem_append.mp name with letter | inside
      · exact word character letter
      · exact legal character inside
    · exact dash character last
  · exact digest.digit character (List.mem_of_mem_take digit)

theorem collected_readable
    {host : ImportHost} {pack : ResolvedModrinthPack} {file : PackFile}
    (digest : HexDigest 40 (host.sha1 file.path))
    (legal : ∀ character ∈ pack.inspection.projectId.toList,
      isIdCharacter character)
    (safe : safePackPath file.path) (selection : PackSelection) :
    Readable (optionalInput host pack file selection) file.path where
  named := by
    intro empty
    have length := optionalProjectIdOf_length pack.inspection.projectId
      digest
    rw [show optionalProjectIdOf host pack.inspection.projectId file.path =
      "" from empty, String.toList_empty, List.length_nil] at length
    omega
  legal := optionalProjectIdOf_legal digest legal
  safe := safe
  source := by simp only [optionalInput]
  destination := rfl

/-- An imported optional mod is manageable exactly when the identifier of its
pack has at most 44 characters. -/
theorem imported_optional_manageable_iff
    (toLowerCase : String → String) (host : ImportHost)
    (input : ModpackImportInput) (archive : PackArchive)
    (parsed : ParsedModrinthPack) (pack : ResolvedModrinthPack)
    (sha256 : List UInt8 → String) (origin : PackOrigin)
    (updateOptional : Option Json) (state : ImportState)
    (optional : OptionalModInput)
    (documented : DocumentedIds host.sha1 sha256 origin)
    (accepted : readModpackArchive archive true = .ok parsed)
    (files : pack.files = parsed.files)
    (identity : pack.inspection.projectId = packProjectId sha256 origin)
    (imported : applyResolvedModpack host input pack ImportState.empty =
      (.ok ⟨⟩, state))
    (member : optional ∈ state.optionals) :
    Manageable toLowerCase
        (upsertOptionalMods toLowerCase updateOptional state.optionals [])
        optional ↔
      (packProjectId sha256 origin).toList.length ≤ 44 := by
  have collected := import_collects host input pack
  rw [imported] at collected
  have safe := (readModpackArchive_safe accepted).files
  rw [← files] at safe
  have legal : ∀ character ∈ pack.inspection.projectId.toList,
      isIdCharacter character := by
    rw [identity]
    exact packProjectId_legal documented
  have readable : ∀ other ∈ state.optionals,
      ∃ path, Readable other path := by
    intro other present
    obtain ⟨file, inside, selection, rfl⟩ := collected.2 other present
    exact ⟨file.path, collected_readable (documented.sha1 file.path) legal
      (safe file inside) selection⟩
  have length : optional.projectId.toList.length =
      (packProjectId sha256 origin).toList.length + 20 := by
    obtain ⟨file, inside, selection, rfl⟩ := collected.2 optional member
    rw [← identity]
    exact optionalProjectIdOf_length _ (documented.sha1 file.path)
  obtain ⟨path, shape⟩ := readable optional member
  have schema : projectIdSchema optional.projectId = true ↔
      (packProjectId sha256 origin).toList.length ≤ 44 := by
    have all : optional.projectId.toList.all isIdCharacter = true :=
      List.all_eq_true.mpr shape.legal
    unfold projectIdSchema
    rw [all, Bool.and_true, Bool.and_eq_true, decide_eq_true_eq,
      decide_eq_true_eq, length_of_idCharacters shape.legal, length]
    constructor
    · intro holds
      omega
    · intro short
      exact ⟨shape.named, by omega⟩
  rw [← schema]
  constructor
  · rintro ⟨before, entry, after, reported, -, described, source, accepts,
      -⟩
    rw [← reported_projectId shape described source]
    exact accepts
  · intro accepts
    obtain ⟨before, title, after, next, addressed⟩ :=
      addressed_of_upsert toLowerCase updateOptional collected.1 readable
        member
    obtain ⟨reported, entry, source, same⟩ := described_item shape title
    refine ⟨before, _, after, reported, next, entry, source, ?_, ?_, ?_⟩
    · rw [same]
      exact accepts
    · rw [next, same]
      exact addressed.removed
    · intro files change result identified done
      rw [next] at done
      exact addressed.updated (identified.trans same) done

def sampleFile : PackFile :=
  ⟨"mods/sodium.jar", some "aa", some "bb", none, none, some [], some 3⟩

def sampleIndex : ModrinthPackIndex where
  formatVersion := some 1
  game := some "minecraft"
  name := some "Pack"
  versionId := some "1"
  summary := none
  files := some [sampleFile]
  dependencies := some [("minecraft", "1.21.1")]

def sampleArchive : PackArchive where
  listing := .ok "modrinth.index.json\n"
  sizes := .ok [("modrinth.index.json", 120)]
  read := fun _ => .ok [123, 125]
  parse := fun _ => .ok sampleIndex

def sampleParsed : ParsedModrinthPack :=
  ⟨sampleIndex, [sampleFile], [("minecraft", "1.21.1")], []⟩

def hexText (digits : Nat) : String :=
  String.ofList (List.replicate digits 'a')

theorem hexText_digest (digits : Nat) :
    HexDigest digits (hexText digits) where
  length := by
    rw [hexText, String.toList_ofList, List.length_replicate]
  digit := by
    intro character member
    rw [hexText, String.toList_ofList] at member
    rw [List.eq_of_mem_replicate member]
    decide

def sampleHost : ImportHost where
  profile := some ⟨some "1.21.1", some "FABRIC", some "0.16.9"⟩
  build := .ok ⟨⟩
  belongs := fun _ => true
  download := fun _ => .ok [1, 2, 3]
  writeVolume := fun _ => .ok ⟨⟩
  answer := fun _ => .ok ⟨⟩
  sha1 := fun _ => hexText 40

def sampleSelection : PackSelection :=
  ⟨"mods/sodium.jar", .optional, true, false, "Sodium", ""⟩

def sampleInput : ModpackImportInput where
  profile := "Main"
  projectId := "AANobbMI"
  minecraftVersion := "1.21.1"
  loader := "FABRIC"
  loaderVersion := "0.16.9"
  serverBindingIds := []
  files := [sampleSelection]

def samplePack (projectId : String) : ResolvedModrinthPack where
  inspection := ⟨projectId, "1.21.1", "FABRIC", "0.16.9", []⟩
  files := [sampleFile]
  overrides := []

theorem documented_sample
    {origin : PackOrigin}
    (modrinth : ∀ id, origin = .modrinth id →
      ∀ character ∈ id.toList, Servers.isAlphanumeric character) :
    DocumentedIds sampleHost.sha1 (fun _ => hexText 64) origin where
  sha1 := fun _ => hexText_digest 40
  sha256 := fun _ => hexText_digest 64
  modrinth := modrinth

/-- The state after the import of the sample pack under an identifier. -/
def sampleState (projectId : String) : ImportState :=
  (applyResolvedModpack sampleHost sampleInput (samplePack projectId)
    ImportState.empty).2

theorem imported_optional_manageable_sodium :
    Manageable id
        (upsertOptionalMods id none
          (sampleState "AANobbMI").optionals [])
        (optionalInput sampleHost (samplePack "AANobbMI") sampleFile
          sampleSelection) ↔
      (packProjectId (fun _ => hexText 64)
        (.modrinth "AANobbMI")).toList.length ≤ 44 := by
  have documented : DocumentedIds sampleHost.sha1 (fun _ => hexText 64)
      (.modrinth "AANobbMI") := by
    apply documented_sample
    rintro id ⟨⟩
    exact List.all_eq_true.mp (by decide)
  exact imported_optional_manageable_iff id sampleHost sampleInput
    sampleArchive sampleParsed (samplePack "AANobbMI") (fun _ => hexText 64)
    (.modrinth "AANobbMI") none (sampleState "AANobbMI") _ documented
    (by decide +kernel) rfl rfl (Prod.ext (by decide +kernel) rfl)
    (by decide +kernel)

/-- The identifier that the sample pack has as a local archive. -/
def localId : String :=
  packProjectId (fun _ => hexText 64) (.archive [80, 75])

/-- A mod from a local archive is imported under an identifier that the routes
refuse. -/
theorem local_optional_unmanageable :
    readModpackArchive sampleArchive true = .ok sampleParsed ∧
      (samplePack localId).inspection.projectId = localId ∧
      (applyResolvedModpack sampleHost sampleInput (samplePack localId)
        ImportState.empty).1 = .ok ⟨⟩ ∧
      optionalInput sampleHost (samplePack localId) sampleFile
          sampleSelection ∈ (sampleState localId).optionals ∧
      ¬ Manageable id
        (upsertOptionalMods id none (sampleState localId).optionals [])
        (optionalInput sampleHost (samplePack localId) sampleFile
          sampleSelection) := by
  refine ⟨by decide +kernel, rfl, by decide +kernel, by decide +kernel, ?_⟩
  rintro ⟨before, entry, after, reported, -, described, source, accepts, -⟩
  have legal : ∀ character ∈ localId.toList, isIdCharacter character :=
    List.all_eq_true.mp (by decide +kernel)
  have readable := @collected_readable sampleHost (samplePack localId)
    sampleFile (hexText_digest 40) legal (by decide +kernel) sampleSelection
  rw [reported_projectId readable described source] at accepts
  have refused : projectIdSchema
      (optionalInput sampleHost (samplePack localId) sampleFile
        sampleSelection).projectId = false := by
    decide +kernel
  rw [refused] at accepts
  cases accepts

end GravitPanel.Mods
