import GravitPanel.Clients.OptionalProfiles

/-!
# Making an installed mod optional

`updateOptionalMod` moves an installed mod to the optional ones and appends an
entry of its own making.  It is compared with the entry that
`upsertOptionalMods` appends for the same data.
-/

namespace GravitPanel.Clients

open FileTree Json

/-- The data of a conversion, as an installation would give them. -/
def OptionalModUpdate.input (change : OptionalModUpdate) :
    OptionalModInput where
  projectId := change.projectId
  title := change.title
  filename := change.filename
  sourcePath := posixJoin [".gravit-panel-optional", "mods",
    change.projectId, change.filename]
  destinationPath := none
  enabledByDefault := some change.enabledByDefault
  description := some (JavaScript.trim change.description)
  category := some (JavaScript.trim change.category)

def conversionFiles (change : OptionalModUpdate) : Json :=
  .object [(posixJoin [".gravit-panel-optional", "mods", change.projectId,
    change.filename], .string ("mods/" ++ change.filename))]

/-- A conversion: the checks that passed, and the entry that was appended. -/
structure Converts
    (toLowerCase : String → String) (updateOptional : Option Json)
    (change : OptionalModUpdate) (next : List Json) : Prop where
  named : JavaScript.trim change.title ≠ ""
  free : ∀ value ∈ optionalValues updateOptional,
    nameTaken toLowerCase change value = false
  unlisted : ∀ value ∈ optionalValues updateOptional,
    hasProjectId change.projectId value = false
  next : next = (optionalValues updateOptional).map (updateValue change) ++
    [.object (convertedItem change)]

section Conversion

variable {toLowerCase : String → String} {files : ModFiles}
variable {updateOptional : Option Json} {change : OptionalModUpdate}
variable {next : List Json}

theorem converts_of_updateOptionalMod
    (done : updateOptionalMod toLowerCase files updateOptional change =
      .ok (next, true)) :
    Converts toLowerCase updateOptional change next := by
  unfold updateOptionalMod at done
  cases checked : checkUpdate change with
  | error problem =>
      rw [checked] at done
      cases done
  | ok value =>
      rw [checked] at done
      dsimp only at done
      have named : JavaScript.trim change.title ≠ "" := by
        intro empty
        unfold checkUpdate at checked
        rw [if_pos (Or.inl empty)] at checked
        cases checked
      by_cases taken : (optionalValues updateOptional).any
          (nameTaken toLowerCase change) = true
      · rw [if_pos taken] at done
        cases done
      · by_cases found : (optionalValues updateOptional).any
            (hasProjectId change.projectId) = true
        · rw [if_neg taken, if_pos found] at done
          cases done
        · rw [if_neg taken, if_neg found] at done
          refine ⟨named, ?_, ?_, ?_⟩
          · intro value member
            by_contra used
            exact taken (List.any_eq_true.mpr
              ⟨value, member, eq_true_of_ne_false used⟩)
          · intro value member
            by_contra used
            exact found (List.any_eq_true.mpr
              ⟨value, member, eq_true_of_ne_false used⟩)
          · split at done
            · cases done
            · split at done
              · cases done
              · split at done
                · cases done
                · cases done
                  rfl

theorem Converts.last
    (converts : Converts toLowerCase updateOptional change next) :
    next.getLast? = some (.object (convertedItem change)) := by
  rw [converts.next, List.getLast?_concat]

theorem upsert_last
    (input : OptionalModInput) (removeProjectIds : List String) :
    (upsertOptionalMods toLowerCase updateOptional [input]
        removeProjectIds).getLast? =
      some (.object (optionalItem input (freeTitle toLowerCase
        (keptNames toLowerCase updateOptional
          ([input].map OptionalModInput.projectId ++ removeProjectIds))
        input))) := by
  rw [upsertOptionalMods, optionalItems, optionalItems, List.map_append]
  exact List.getLast?_concat

theorem convertedItem_ne
    (change : OptionalModUpdate) (input : OptionalModInput)
    (title : String) : convertedItem change ≠ optionalItem input title := by
  intro same
  have actions := congrArg (getField "actions") same
  simp [convertedItem, optionalItem, getField] at actions

/-- The entry that a conversion appends is never the one that an upsert
appends, whatever it is given. -/
theorem conversion_never_agrees
    (done : updateOptionalMod toLowerCase files updateOptional change =
      .ok (next, true))
    (input : OptionalModInput) (removeProjectIds : List String) :
    next.getLast? ≠ (upsertOptionalMods toLowerCase updateOptional [input]
      removeProjectIds).getLast? := by
  rw [(converts_of_updateOptionalMod done).last, upsert_last]
  intro same
  exact convertedItem_ne change input _
    (Json.object.inj (Option.some.inj same))

/-- For the same data the two entries differ in the type of their action
only. -/
theorem conversion_differs_in_type
    (done : updateOptionalMod toLowerCase files updateOptional change =
      .ok (next, true)) :
    next.getLast? = some (.object (convertedItem change)) ∧
      getField "actions" (convertedItem change) =
        some (.array [.object [("files", conversionFiles change)]]) ∧
      (upsertOptionalMods toLowerCase updateOptional [change.input]
          []).getLast? =
        some (.object (setField "actions"
          (.array [.object [("type", .string "file"),
            ("files", conversionFiles change)]])
          (convertedItem change))) := by
  have converts := converts_of_updateOptionalMod done
  refine ⟨converts.last, rfl, ?_⟩
  have requested : requestedTitle change.input =
      JavaScript.trim change.title := if_neg converts.named
  have free : toLowerCase (requestedTitle change.input) ∉
      keptNames toLowerCase updateOptional
        ([change.input].map OptionalModInput.projectId ++ []) := by
    intro member
    obtain ⟨name, named, same⟩ := List.mem_map.mp member
    obtain ⟨item, kept, itemNamed⟩ := List.mem_filterMap.mp named
    obtain ⟨value, present, fields⟩ :=
      List.mem_filterMap.mp (List.mem_filter.mp kept).1
    have unlisted := converts.unlisted value present
    have unused := converts.free value present
    unfold hasProjectId at unlisted
    unfold nameTaken at unused
    rw [fields, Option.bind_some] at unlisted
    rw [fields] at unused
    have different := of_decide_eq_false unlisted
    dsimp only at unused
    rw [itemNamed, decide_eq_true different, Bool.true_and] at unused
    rw [requested] at same
    exact of_decide_eq_false unused same
  rw [upsert_last, freeTitle_of_free free, requested]
  dsimp only [OptionalModUpdate.input]
  rfl

end Conversion

def irisConversion : OptionalModUpdate where
  projectId := "iris"
  filename := "iris.jar"
  title := "Iris"
  description := "Shaders"
  category := "Graphics"
  enabledByDefault := false

theorem iris_converted :
    updateOptionalMod asciiLowerCase ⟨true, false⟩ none irisConversion =
      .ok ([.object (convertedItem irisConversion)], true) := rfl

theorem iris_never_agrees :
    [Json.object (convertedItem irisConversion)].getLast? ≠
      (upsertOptionalMods asciiLowerCase none [irisConversion.input]
        []).getLast? :=
  conversion_never_agrees iris_converted irisConversion.input []

/-- Both accept the mod, and their entries differ. -/
theorem iris_entries_differ :
    updateOptionalMod asciiLowerCase ⟨true, false⟩ none irisConversion =
        .ok ([.object (convertedItem irisConversion)], true) ∧
      upsertOptionalMods asciiLowerCase none [irisConversion.input] [] =
        [.object (optionalItem irisConversion.input "Iris")] ∧
      convertedItem irisConversion ≠
        optionalItem irisConversion.input "Iris" :=
  ⟨iris_converted, rfl, convertedItem_ne _ _ _⟩

end GravitPanel.Clients
