import GravitPanel.Clients.OptionalNames

/-!
# The list of optional mods

The profile keeps its optional mods as entries whose identity is the path of a
file.  Writing, updating and removing them is followed on what the profile then
lists.
-/

namespace GravitPanel.Clients

open FileTree Json

def withOptional (profile : JsonFields) (updateOptional : List Json) :
    JsonFields :=
  setField "updateOptional" (.array updateOptional) profile

/-- The profile that `upsertOptionalMods` writes. -/
def upsertProfile
    (toLowerCase : String → String) (profile : JsonFields)
    (inputs : List OptionalModInput) (removeProjectIds : List String) :
    JsonFields :=
  withOptional profile (upsertOptionalMods toLowerCase
    (getField "updateOptional" profile) inputs removeProjectIds)

/-- The profile that `updateOptionalMod` writes, and whether it converts an
installed mod. -/
def updateProfile
    (toLowerCase : String → String) (files : ModFiles)
    (profile : JsonFields) (input : OptionalModUpdate) :
    Except String (JsonFields × Bool) :=
  (updateOptionalMod toLowerCase files (getField "updateOptional" profile)
    input).map fun next => (withOptional profile next.1, next.2)

/-- The profile that `removeOptionalMod` writes, and the file that it
removes. -/
def removeProfile (profile : JsonFields) (projectId : String) :
    Except String (JsonFields × Option OptionalFile) :=
  (removeOptionalMod (getField "updateOptional" profile) projectId).map
    fun next => (withOptional profile next.1, next.2)

def listProfile (profile : JsonFields) : List OptionalMod :=
  listOptionalMods (getField "updateOptional" profile)

/-- The entries that are not listed. -/
def unmanaged (profile : JsonFields) : List Json :=
  (optionalValues (getField "updateOptional" profile)).filter fun value =>
    (describeOptional value).isNone

def otherFields (profile : JsonFields) : JsonFields :=
  profile.filter fun field => field.1 ≠ "updateOptional"

/-- What no operation on optional mods changes. -/
def SameApart (profile next : JsonFields) : Prop :=
  unmanaged next = unmanaged profile ∧
    otherFields next = otherFields profile

def ObjectEntries (profile : JsonFields) : Prop :=
  ∀ value ∈ optionalValues (getField "updateOptional" profile),
    ∃ fields, value = .object fields

theorem otherFields_withOptional
    (profile : JsonFields) (updateOptional : List Json) :
    otherFields (withOptional profile updateOptional) =
      otherFields profile := by
  unfold otherFields withOptional
  induction profile with
  | nil => rfl
  | cons field rest ih =>
      rw [setField]
      by_cases same : field.1 = "updateOptional"
      · rw [if_pos same, List.filter_cons_of_neg (by simp),
          List.filter_cons_of_neg (by simp [same])]
      · rw [if_neg same, List.filter_cons_of_pos (by simp [same]),
          List.filter_cons_of_pos (by simp [same]), ih]

theorem values_withOptional
    (profile : JsonFields) (updateOptional : List Json) :
    optionalValues (getField "updateOptional"
      (withOptional profile updateOptional)) = updateOptional := by
  rw [withOptional, getField_setField_self]
  rfl

theorem listProfile_withOptional
    (profile : JsonFields) (updateOptional : List Json) :
    listProfile (withOptional profile updateOptional) =
      updateOptional.filterMap describeOptional := by
  rw [listProfile, listOptionalMods, values_withOptional]

theorem unmanaged_withOptional
    (profile : JsonFields) (updateOptional : List Json) :
    unmanaged (withOptional profile updateOptional) =
      updateOptional.filter fun value =>
        (describeOptional value).isNone := by
  rw [unmanaged, values_withOptional]

theorem projectId_describeOptional (value : Json) :
    (describeOptional value).map OptionalMod.projectId =
      value.fields?.bind optionalProjectId := by
  unfold describeOptional
  cases value.fields? with
  | none => rfl
  | some item =>
      rw [Option.bind_some, Option.bind_some]
      cases identified : optionalProjectId item with
      | none => rfl
      | some projectId =>
          obtain ⟨file, action, -⟩ :=
            Option.bind_eq_some_iff.mp identified
          rw [Option.bind_some, action]
          rfl

theorem hasProjectId_eq (projectId : String) (value : Json) :
    hasProjectId projectId value =
      decide ((describeOptional value).map OptionalMod.projectId =
        some projectId) := by
  rw [projectId_describeOptional]
  rfl

theorem filterMap_kept
    (values : List Json) (keep : Json → Bool)
    (keepMod : OptionalMod → Bool)
    (agrees : ∀ value ∈ values, ∀ mod, describeOptional value = some mod →
      keep value = keepMod mod) :
    (values.filter keep).filterMap describeOptional =
      (values.filterMap describeOptional).filter keepMod := by
  induction values with
  | nil => rfl
  | cons value rest ih =>
      have later := ih fun other member =>
        agrees other (List.mem_cons_of_mem value member)
      cases described : describeOptional value with
      | none =>
          rw [List.filterMap_cons_none described, ← later]
          cases kept : keep value with
          | true =>
              rw [List.filter_cons_of_pos kept,
                List.filterMap_cons_none described]
          | false => rw [List.filter_cons_of_neg (by simp [kept])]
      | some mod =>
          have same := agrees value List.mem_cons_self mod described
          rw [List.filterMap_cons_some described, List.filter_cons,
            List.filter_cons, same]
          cases keepMod mod with
          | true =>
              rw [if_pos rfl, if_pos rfl,
                List.filterMap_cons_some described, later]
          | false =>
              rw [if_neg (by decide), if_neg (by decide), later]

theorem filter_unlisted
    (values : List Json) (keep : Json → Bool)
    (kept : ∀ value ∈ values, describeOptional value = none →
      keep value = true) :
    (values.filter keep).filter
        (fun value => (describeOptional value).isNone) =
      values.filter fun value => (describeOptional value).isNone := by
  rw [List.filter_filter]
  apply List.filter_congr
  intro value member
  cases described : describeOptional value with
  | none => rw [kept value member described]; rfl
  | some mod => rfl

theorem removeProfile_spec
    {profile next : JsonFields} {projectId : String}
    {file : Option OptionalFile}
    (done : removeProfile profile projectId = .ok (next, file)) :
    listProfile next =
        (listProfile profile).filter (fun mod =>
          mod.projectId ≠ projectId) ∧
      SameApart profile next := by
  have written : next = withOptional profile
      ((optionalValues (getField "updateOptional" profile)).filter
        fun value => !hasProjectId projectId value) := by
    unfold removeProfile removeOptionalMod at done
    dsimp only at done
    split at done
    · cases done
    · cases done
      rfl
  rw [written, SameApart, listProfile_withOptional,
    unmanaged_withOptional, otherFields_withOptional]
  refine ⟨?_, ?_, rfl⟩
  · apply filterMap_kept
    intro value _ mod described
    rw [hasProjectId_eq, described, Option.map_some]
    simp
  · apply filter_unlisted
    intro value _ described
    rw [hasProjectId_eq, described]
    rfl

def OptionalMod.updated (input : OptionalModUpdate) (mod : OptionalMod) :
    OptionalMod :=
  { mod with
    name := JavaScript.trim input.title
    description := JavaScript.trim input.description
    category := JavaScript.trim input.category
    enabledByDefault := input.enabledByDefault }

theorem optionalFileAction_updatedItem
    (input : OptionalModUpdate) (item : JsonFields) :
    optionalFileAction (updatedItem input item) =
      optionalFileAction item := by
  have actions : getField "actions" (updatedItem input item) =
      getField "actions" item := by
    unfold updatedItem
    rw [getField_setField_of_ne (by decide),
      getField_setField_of_ne (by decide),
      getField_setField_of_ne (by decide),
      getField_setField_of_ne (by decide)]
  rw [optionalFileAction, optionalFileAction, actions]

theorem describeOptional_updatedItem
    (input : OptionalModUpdate) (item : JsonFields) :
    describeOptional (.object (updatedItem input item)) =
      (describeOptional (.object item)).map (OptionalMod.updated input) := by
  have name : itemName (updatedItem input item) =
      some (JavaScript.trim input.title) := by
    unfold itemName updatedItem
    rw [getField_setField_of_ne (by decide),
      getField_setField_of_ne (by decide),
      getField_setField_of_ne (by decide), getField_setField_self]
    rfl
  have description : getField "info" (updatedItem input item) =
      some (.string (JavaScript.trim input.description)) := by
    unfold updatedItem
    rw [getField_setField_of_ne (by decide),
      getField_setField_of_ne (by decide), getField_setField_self]
  have category : getField "category" (updatedItem input item) =
      some (.string (JavaScript.trim input.category)) := by
    unfold updatedItem
    rw [getField_setField_of_ne (by decide), getField_setField_self]
  have mark : getField "mark" (updatedItem input item) =
      some (.bool input.enabledByDefault) :=
    getField_setField_self _ _ _
  unfold describeOptional
  rw [fields?, fields?, Option.bind_some, Option.bind_some,
    optionalProjectId, optionalFileAction_updatedItem, ← optionalProjectId,
    name, description, category, mark]
  cases optionalProjectId item with
  | none => rfl
  | some projectId =>
      cases optionalFileAction item with
      | none => rfl
      | some file =>
          simp only [Option.bind_some, Option.map_some,
            OptionalMod.updated]
          cases input.enabledByDefault <;> rfl

theorem describeOptional_updateValue
    (input : OptionalModUpdate) (value : Json) :
    describeOptional (updateValue input value) =
      (describeOptional value).map fun mod =>
        if mod.projectId = input.projectId then mod.updated input
        else mod := by
  have identified := projectId_describeOptional value
  cases value with
  | object item =>
      rw [fields?, Option.bind_some] at identified
      rw [updateValue, fields?]
      dsimp only
      by_cases same : optionalProjectId item = some input.projectId
      · rw [if_pos same, describeOptional_updatedItem]
        cases described : describeOptional (.object item) with
        | none => rfl
        | some mod =>
            rw [described, Option.map_some, same] at identified
            rw [Option.map_some, Option.map_some,
              if_pos (Option.some.inj identified)]
      · rw [if_neg same]
        cases described : describeOptional (.object item) with
        | none => rfl
        | some mod =>
            rw [described, Option.map_some] at identified
            rw [Option.map_some, if_neg]
            intro equal
            rw [equal] at identified
            exact same identified.symm
  | _ => rfl

theorem updateValue_of_unlisted
    {input : OptionalModUpdate} {value : Json}
    (unlisted : describeOptional value = none) :
    updateValue input value = value := by
  have identified := projectId_describeOptional value
  rw [unlisted, Option.map_none] at identified
  unfold updateValue
  cases fields : value.fields? with
  | none => rfl
  | some item =>
      rw [fields, Option.bind_some] at identified
      dsimp only
      rw [← identified, if_neg]
      intro impossible
      cases impossible

theorem filter_updateValue
    (input : OptionalModUpdate) (values : List Json) :
    (values.map (updateValue input)).filter
        (fun value => (describeOptional value).isNone) =
      values.filter fun value => (describeOptional value).isNone := by
  induction values with
  | nil => rfl
  | cons value rest ih =>
      rw [List.map_cons, List.filter_cons, List.filter_cons,
        ih, describeOptional_updateValue,
        Option.isNone_map]
      cases described : describeOptional value with
      | none => rw [updateValue_of_unlisted described]
      | some mod => rfl

theorem updateProfile_spec
    {toLowerCase : String → String} {files : ModFiles}
    {profile next : JsonFields} {input : OptionalModUpdate}
    {converted : Bool}
    (existing : ∃ mod ∈ listProfile profile,
      mod.projectId = input.projectId)
    (done : updateProfile toLowerCase files profile input =
      .ok (next, converted)) :
    listProfile next =
        (listProfile profile).map (fun mod =>
          if mod.projectId = input.projectId then mod.updated input
          else mod) ∧
      SameApart profile next := by
  obtain ⟨mod, listed, same⟩ := existing
  obtain ⟨value, member, described⟩ := List.mem_filterMap.mp listed
  have found : (optionalValues (getField "updateOptional" profile)).any
      (hasProjectId input.projectId) = true := by
    apply List.any_eq_true.mpr
    refine ⟨value, member, ?_⟩
    rw [hasProjectId_eq, described, Option.map_some, same]
    exact decide_eq_true rfl
  have written : next = withOptional profile
      ((optionalValues (getField "updateOptional" profile)).map
        (updateValue input)) := by
    unfold updateProfile updateOptionalMod at done
    dsimp only at done
    split at done
    · cases done
    · split at done
      · cases done
      · cases done
        rfl
  rw [written, SameApart, listProfile_withOptional,
    unmanaged_withOptional, otherFields_withOptional]
  refine ⟨?_, ?_, rfl⟩
  · rw [List.filterMap_map, listProfile, listOptionalMods,
      List.map_filterMap]
    apply List.filterMap_congr
    intro other _
    exact describeOptional_updateValue input other
  · exact filter_updateValue input _

/-- Where an input says that its file is installed. -/
def OptionalModInput.destination (input : OptionalModInput) : String :=
  input.destinationPath.getD ("mods/" ++ input.filename)

def OptionalModInput.listed (input : OptionalModInput) (name : String) :
    OptionalMod where
  projectId := input.projectId
  name := name
  description := input.description.getD ""
  category := input.category.getD "Mods"
  enabledByDefault := input.enabledByDefault.getD false
  filename := basename input.destination
  sourcePath := input.sourcePath
  destinationPath := input.destination

/-- The source path is that of a file in the directory of the identifier. -/
structure OptionalSource (input : OptionalModInput) : Prop where
  named : input.projectId ≠ ""
  slashFree : '/' ∉ input.projectId.toList
  source : ∃ filename, input.sourcePath =
    ".gravit-panel-optional/mods/" ++ input.projectId ++ "/" ++ filename

/-- The mod is the input, under its title or its suffixed title. -/
structure Lists (input : OptionalModInput) (mod : OptionalMod) : Prop where
  listed : mod = input.listed mod.name
  name : mod.name = requestedTitle input ∨ mod.name = suffixedTitle input

theorem OptionalSource.steps
    {input : OptionalModInput} (source : OptionalSource input) :
    ∃ rest, pathSteps input.sourcePath =
      ".gravit-panel-optional" :: "mods" :: input.projectId :: rest := by
  obtain ⟨filename, path⟩ := source.source
  let steps := [".gravit-panel-optional", "mods", input.projectId] ++
    pathSteps filename
  have named : pathSteps filename ≠ [] := by
    rw [pathSteps, ne_eq, List.map_eq_nil_iff]
    exact List.splitOn_ne_nil _ _
  have directory : ".gravit-panel-optional/mods/" ++ input.projectId =
      joinSteps [".gravit-panel-optional", "mods", input.projectId] := by
    rw [joinSteps, String.intercalate_cons_of_ne_nil (by simp),
      String.intercalate_cons_of_ne_nil (by simp),
      String.intercalate_singleton, ← String.append_assoc,
      ← String.append_assoc]
    congr 1
  have text : input.sourcePath = joinSteps steps := by
    rw [path, joinSteps, String.intercalate_append_of_ne_nil
      (List.cons_ne_nil _ _) named, ← joinSteps, ← joinSteps,
      joinSteps_pathSteps, directory]
  have slashFree : SlashFree steps := by
    intro step member
    rcases List.mem_append.mp member with first | last
    · simp only [List.mem_cons, List.not_mem_nil, or_false] at first
      rcases first with rfl | rfl | rfl
      · decide
      · decide
      · exact source.slashFree
    · exact slashFree_pathSteps filename step last
  have some : steps ≠ [] := List.cons_ne_nil _ _
  exact ⟨pathSteps filename, text ▸ pathSteps_joinSteps some slashFree⟩

theorem describeOptional_item
    {input : OptionalModInput} (source : OptionalSource input)
    (title : String) :
    describeOptional (.object (optionalItem input title)) =
      some (input.listed title) := by
  obtain ⟨rest, steps⟩ := source.steps
  have inside : optionalDirectory.toList.isPrefixOf
      input.sourcePath.toList = true := by
    obtain ⟨filename, path⟩ := source.source
    rw [List.isPrefixOf_iff_prefix, path, String.append_assoc,
      String.append_assoc, String.toList_append]
    exact (show optionalDirectory.toList <+:
      ".gravit-panel-optional/mods/".toList by decide).trans
        (List.prefix_append _ _)
  have pair : fileOfPair (input.sourcePath, .string input.destination) =
      some ⟨input.sourcePath, basename input.destination,
        input.destination⟩ := if_pos inside
  have action : optionalFileAction (optionalItem input title) =
      some ⟨input.sourcePath, basename input.destination,
        input.destination⟩ := by
    unfold OptionalModInput.destination at pair ⊢
    simp [optionalFileAction, optionalItem, getField, items?, fields?,
      fileOfAction, pair]
  have identified : optionalProjectId (optionalItem input title) =
      some input.projectId := by
    rw [optionalProjectId, action, Option.bind_some, steps]
    exact if_neg source.named
  have mark : getField "mark" (optionalItem input title) =
      some (.bool (input.enabledByDefault.getD false)) := rfl
  unfold describeOptional
  rw [fields?, Option.bind_some, identified, action, Option.bind_some,
    Option.map_some, mark, OptionalModInput.listed]
  cases input.enabledByDefault.getD false <;> rfl

theorem freeTitle_cases
    (toLowerCase : String → String) (used : List String)
    (input : OptionalModInput) :
    freeTitle toLowerCase used input = requestedTitle input ∨
      freeTitle toLowerCase used input = suffixedTitle input := by
  by_cases taken : toLowerCase (requestedTitle input) ∈ used
  · exact Or.inr (freeTitle_of_taken taken)
  · exact Or.inl (freeTitle_of_free taken)

variable {inputs : List OptionalModInput}

theorem listed_optionalItems
    (toLowerCase : String → String) (used : List String)
    (sources : ∀ input ∈ inputs, OptionalSource input) :
    List.Forall₂ Lists inputs
        (((optionalItems toLowerCase used inputs).map
          Json.object).filterMap describeOptional) ∧
      ((optionalItems toLowerCase used inputs).map Json.object).filter
        (fun value => (describeOptional value).isNone) = [] := by
  induction inputs generalizing used with
  | nil => exact ⟨List.Forall₂.nil, rfl⟩
  | cons input rest ih =>
      have described := describeOptional_item
        (sources input List.mem_cons_self)
        (freeTitle toLowerCase used input)
      have later := ih
        (toLowerCase (freeTitle toLowerCase used input) :: used)
        fun other member => sources other (List.mem_cons_of_mem _ member)
      rw [optionalItems, List.map_cons,
        List.filterMap_cons_some described]
      refine ⟨List.Forall₂.cons ⟨rfl, ?_⟩ later.1, ?_⟩
      · exact freeTitle_cases toLowerCase used input
      · rw [List.filter_cons_of_neg (by rw [described]; simp), later.2]

/-- The entries that an upsert keeps. -/
def staysOptional (projectIds : List String) (value : Json) : Bool :=
  match value.fields?.bind optionalProjectId with
  | none => true
  | some projectId => projectId ∉ projectIds

theorem keptItems_eq
    (updateOptional : Option Json) (projectIds : List String) :
    (keptItems updateOptional projectIds).map Json.object =
      ((optionalValues updateOptional).filter fun value =>
        value.fields?.isSome).filter (staysOptional projectIds) := by
  unfold keptItems
  induction optionalValues updateOptional with
  | nil => rfl
  | cons value rest ih =>
      cases value with
      | object fields =>
          have first : fields? (.object fields) = some fields := rfl
          rw [List.filterMap_cons_some first, List.filter_cons,
            List.filter_cons_of_pos (by rw [first]; rfl), List.filter_cons,
            ← ih]
          cases identified : optionalProjectId fields with
          | none =>
              have stays : staysOptional projectIds (.object fields) =
                  true := by
                rw [staysOptional, fields?, Option.bind_some, identified]
              rw [if_pos stays, if_pos rfl, List.map_cons]
          | some projectId =>
              have stays : staysOptional projectIds (.object fields) =
                  decide (projectId ∉ projectIds) := by
                rw [staysOptional, fields?, Option.bind_some, identified]
              rw [stays]
              by_cases member : projectId ∈ projectIds
              · simp [member]
              · simp [member]
      | null => exact ih
      | bool flag => exact ih
      | number digits => exact ih
      | string text => exact ih
      | array items => exact ih

theorem listed_objects (values : List Json) :
    (values.filter fun value => value.fields?.isSome).filterMap
        describeOptional = values.filterMap describeOptional := by
  rw [List.filterMap_filter]
  apply List.filterMap_congr
  intro value _
  unfold describeOptional
  cases value.fields? with
  | none => rfl
  | some fields => rfl

theorem staysOptional_eq
    (projectIds : List String) (value : Json) :
    staysOptional projectIds value =
      match describeOptional value with
      | none => true
      | some mod => decide (mod.projectId ∉ projectIds) := by
  rw [staysOptional, ← projectId_describeOptional]
  cases describeOptional value <;> rfl

theorem upsertProfile_listed
    (toLowerCase : String → String) (profile : JsonFields)
    (removeProjectIds : List String)
    (sources : ∀ input ∈ inputs, OptionalSource input) :
    ∃ mods,
      listProfile
          (upsertProfile toLowerCase profile inputs removeProjectIds) =
        (listProfile profile).filter (fun mod => mod.projectId ∉
          inputs.map OptionalModInput.projectId ++ removeProjectIds) ++
            mods ∧
        List.Forall₂ Lists inputs mods := by
  let projectIds :=
    inputs.map OptionalModInput.projectId ++ removeProjectIds
  let used := ((keptItems (getField "updateOptional" profile)
    projectIds).filterMap itemName).map toLowerCase
  refine ⟨_, ?_, (listed_optionalItems toLowerCase used sources).1⟩
  rw [upsertProfile, listProfile_withOptional, upsertOptionalMods,
    List.map_append, List.filterMap_append, keptItems_eq]
  congr 1
  rw [listProfile, listOptionalMods,
    ← listed_objects (optionalValues (getField "updateOptional" profile))]
  apply filterMap_kept
  intro value _ mod described
  rw [staysOptional_eq, described]

theorem upsertProfile_spec
    (toLowerCase : String → String) {profile : JsonFields}
    (removeProjectIds : List String)
    (objects : ObjectEntries profile)
    (sources : ∀ input ∈ inputs, OptionalSource input) :
    (∃ mods,
      listProfile
          (upsertProfile toLowerCase profile inputs removeProjectIds) =
        (listProfile profile).filter (fun mod => mod.projectId ∉
          inputs.map OptionalModInput.projectId ++ removeProjectIds) ++
            mods ∧
        List.Forall₂ Lists inputs mods) ∧
      SameApart profile
        (upsertProfile toLowerCase profile inputs removeProjectIds) := by
  refine ⟨upsertProfile_listed toLowerCase profile removeProjectIds sources,
    ?_, otherFields_withOptional _ _⟩
  let projectIds :=
    inputs.map OptionalModInput.projectId ++ removeProjectIds
  let used := ((keptItems (getField "updateOptional" profile)
    projectIds).filterMap itemName).map toLowerCase
  have all : ((optionalValues (getField "updateOptional" profile)).filter
      fun value => value.fields?.isSome) =
        optionalValues (getField "updateOptional" profile) := by
    rw [List.filter_eq_self]
    intro value member
    obtain ⟨fields, rfl⟩ := objects value member
    rfl
  rw [upsertProfile, unmanaged_withOptional, upsertOptionalMods,
    List.map_append, List.filter_append, keptItems_eq, all,
    (listed_optionalItems toLowerCase used sources).2, List.append_nil]
  apply filter_unlisted
  intro value _ described
  rw [staysOptional_eq, described]

/-- Inputs with identifiers of their own are listed after the mods that they do
not replace; removing an identifier removes what is listed under it; updating
one changes the texts and the flag listed under it; and nothing else changes. -/
theorem optionalMods_listed
    {profile : JsonFields} (objects : ObjectEntries profile)
    (toLowerCase : String → String) :
    (∀ inputs removeProjectIds,
      (inputs.map OptionalModInput.projectId).Nodup →
      (∀ input ∈ inputs, OptionalSource input) →
      (∃ mods,
        listProfile
            (upsertProfile toLowerCase profile inputs removeProjectIds) =
          (listProfile profile).filter (fun mod => mod.projectId ∉
            inputs.map OptionalModInput.projectId ++ removeProjectIds) ++
              mods ∧
          List.Forall₂ Lists inputs mods) ∧
        SameApart profile
          (upsertProfile toLowerCase profile inputs removeProjectIds)) ∧
    (∀ projectId next file,
      removeProfile profile projectId = .ok (next, file) →
        listProfile next =
            (listProfile profile).filter (fun mod =>
              mod.projectId ≠ projectId) ∧
          SameApart profile next) ∧
    ∀ files input next converted,
      (∃ mod ∈ listProfile profile, mod.projectId = input.projectId) →
      updateProfile toLowerCase files profile input =
          .ok (next, converted) →
        listProfile next =
            (listProfile profile).map (fun mod =>
              if mod.projectId = input.projectId then mod.updated input
              else mod) ∧
          SameApart profile next := by
  refine ⟨?_, ?_, ?_⟩
  · intro inputs removeProjectIds _ sources
    exact upsertProfile_spec toLowerCase removeProjectIds objects sources
  · intro projectId next file done
    exact removeProfile_spec done
  · intro files input next converted existing done
    exact updateProfile_spec existing done

/-- A profile with an entry that the panel does not manage. -/
def foreignProfile : JsonFields :=
  [("title", .string "Main"),
    ("updateOptional", .array [.object [("name", .string "Shaders")]])]

def sodiumInput : OptionalModInput where
  projectId := "AANobbMI"
  title := "Sodium"
  filename := "sodium.jar"
  sourcePath := ".gravit-panel-optional/mods/AANobbMI/sodium.jar"
  destinationPath := none
  enabledByDefault := some true
  description := none
  category := none

/-- The profile with Sodium, which is then removed, renamed, and joined by a
second mod. -/
def sodiumProfile : JsonFields :=
  upsertProfile asciiLowerCase foreignProfile [sodiumInput] []

def irisInput : OptionalModInput :=
  { sodiumInput with
    projectId := "YL57xq9U"
    title := "Iris"
    filename := "iris.jar"
    sourcePath := ".gravit-panel-optional/mods/YL57xq9U/iris.jar" }

def sodiumUpdate : OptionalModUpdate where
  projectId := "AANobbMI"
  filename := "sodium.jar"
  title := "Renderer"
  description := ""
  category := "Graphics"
  enabledByDefault := false

theorem sodium_listed :
    (∃ mods,
      listProfile
          (upsertProfile asciiLowerCase sodiumProfile [irisInput] []) =
        (listProfile sodiumProfile).filter (fun mod => mod.projectId ∉
          [irisInput].map OptionalModInput.projectId ++ []) ++ mods ∧
        List.Forall₂ Lists [irisInput] mods) ∧
    (∃ next file, removeProfile sodiumProfile "AANobbMI" =
        .ok (next, file) ∧
      listProfile next = (listProfile sodiumProfile).filter (fun mod =>
        mod.projectId ≠ "AANobbMI")) ∧
    ∃ next converted,
      updateProfile asciiLowerCase ⟨false, false⟩ sodiumProfile
          sodiumUpdate = .ok (next, converted) ∧
        listProfile next = (listProfile sodiumProfile).map (fun mod =>
          if mod.projectId = "AANobbMI" then mod.updated sodiumUpdate
          else mod) := by
  have objects : ObjectEntries sodiumProfile := by
    intro value member
    rcases List.mem_cons.mp member with rfl | last
    · exact ⟨_, rfl⟩
    · exact ⟨_, List.mem_singleton.mp last⟩
  refine ⟨?_, ?_, ?_⟩
  · apply And.left
    apply (optionalMods_listed objects asciiLowerCase).1
    · decide
    · intro input member
      rw [List.mem_singleton.mp member]
      exact ⟨by decide, by decide, "iris.jar", rfl⟩
  · have accepted : (removeProfile sodiumProfile "AANobbMI").isOk := by
      decide +kernel
    cases done : removeProfile sodiumProfile "AANobbMI" with
    | error problem =>
        rw [done] at accepted
        cases accepted
    | ok result =>
        obtain ⟨listed, -⟩ := (optionalMods_listed objects
          asciiLowerCase).2.1 "AANobbMI" result.1 result.2 done
        exact ⟨result.1, result.2, rfl, listed⟩
  · have accepted : (updateProfile asciiLowerCase ⟨false, false⟩
        sodiumProfile sodiumUpdate).isOk := by
      decide +kernel
    have existing : ∃ mod ∈ listProfile sodiumProfile,
        mod.projectId = sodiumUpdate.projectId := by
      decide +kernel
    cases done : updateProfile asciiLowerCase ⟨false, false⟩ sodiumProfile
        sodiumUpdate with
    | error problem =>
        rw [done] at accepted
        cases accepted
    | ok result =>
        obtain ⟨listed, -⟩ := (optionalMods_listed objects
          asciiLowerCase).2.2 _ sodiumUpdate result.1 result.2 existing
          done
        exact ⟨result.1, result.2, rfl, listed⟩

/-- An input without an identifier is written, but not listed. -/
theorem unnamed_unlisted :
    '/' ∉ "".toList ∧
      ¬ ∃ mods,
        listProfile (upsertProfile asciiLowerCase foreignProfile
            [{ sodiumInput with
                projectId := ""
                sourcePath := ".gravit-panel-optional/mods//sodium.jar" }]
            []) =
          (listProfile foreignProfile).filter (fun mod =>
            mod.projectId ∉ [""]) ++ mods ∧
          List.Forall₂ Lists
            [{ sodiumInput with
                projectId := ""
                sourcePath := ".gravit-panel-optional/mods//sodium.jar" }]
            mods := by
  refine ⟨by decide, ?_⟩
  rintro ⟨mods, listed, lists⟩
  cases lists with
  | cons first rest =>
      have lengths := congrArg List.length listed
      rw [List.length_append, List.length_cons] at lengths
      have none : (listProfile (upsertProfile asciiLowerCase foreignProfile
          [{ sodiumInput with
              projectId := ""
              sourcePath := ".gravit-panel-optional/mods//sodium.jar" }]
          [])).length = 0 := by
        decide +kernel
      omega

end GravitPanel.Clients
