import Mathlib.Data.List.Nodup
import Mathlib.Data.List.Perm.Basic
import GravitPanel.Clients.OptionalMods

/-!
# Names of optional mods

`upsertOptionalMods` gives a title that is in use a suffix, and does not look
whether the title with the suffix is in use too.
-/

namespace GravitPanel.Clients

open Json

def requestedTitle (input : OptionalModInput) : String :=
  if JavaScript.trim input.title = "" then input.projectId
  else JavaScript.trim input.title

def suffixedTitle (input : OptionalModInput) : String :=
  requestedTitle input ++ " (" ++ JavaScript.slice 8 input.projectId ++ ")"

section Names

variable (toLowerCase : String → String)

/-- The names of the entries, as they are compared. -/
def optionalNames (updateOptional : Option Json) : List String :=
  ((optionalValues updateOptional).filterMap fun value =>
    value.fields?.bind itemName).map toLowerCase

def keptNames
    (updateOptional : Option Json) (projectIds : List String) :
    List String :=
  ((keptItems updateOptional projectIds).filterMap itemName).map toLowerCase

/-- A title is taken by an old name, by the title of an earlier input, or by
the suffixed title of an earlier input whose own title was taken. -/
inductive Taken (old : List String) :
    List OptionalModInput → String → Prop
  | old {earlier : List OptionalModInput} {title : String} :
      toLowerCase title ∈ old → Taken old earlier title
  | requested {before after : List OptionalModInput}
      {other : OptionalModInput} {title : String} :
      toLowerCase title = toLowerCase (requestedTitle other) →
        Taken old (before ++ other :: after) title
  | suffixed {before after : List OptionalModInput}
      {other : OptionalModInput} {title : String} :
      Taken old before (requestedTitle other) →
      toLowerCase title = toLowerCase (suffixedTitle other) →
        Taken old (before ++ other :: after) title

def SuffixesFree
    (old : List String) (inputs : List OptionalModInput) : Prop :=
  ∀ before input after, inputs = before ++ input :: after →
    Taken toLowerCase old before (requestedTitle input) →
      ¬ Taken toLowerCase old before (suffixedTitle input)

/-- The names in use after these inputs. -/
def usedNames (old : List String) (inputs : List OptionalModInput) :
    List String :=
  inputs.foldl
    (fun used input =>
      toLowerCase (freeTitle toLowerCase used input) :: used)
    old

theorem usedNames_concat
    (old : List String) (inputs : List OptionalModInput)
    (input : OptionalModInput) :
    usedNames toLowerCase old (inputs ++ [input]) =
      toLowerCase (freeTitle toLowerCase
        (usedNames toLowerCase old inputs) input) ::
          usedNames toLowerCase old inputs := by
  rw [usedNames, List.foldl_append]
  rfl

theorem usedNames_perm
    (old : List String) (inputs : List OptionalModInput) :
    (usedNames toLowerCase old inputs).Perm
      (old ++ ((optionalItems toLowerCase old inputs).filterMap
        itemName).map toLowerCase) := by
  induction inputs generalizing old with
  | nil =>
      rw [optionalItems, List.filterMap_nil, List.map_nil, List.append_nil]
      exact List.Perm.refl old
  | cons input rest ih =>
      have later := ih
        (toLowerCase (freeTitle toLowerCase old input) :: old)
      have name : itemName (optionalItem input
          (freeTitle toLowerCase old input)) =
            some (freeTitle toLowerCase old input) := rfl
      rw [optionalItems, List.filterMap_cons_some name, List.map_cons]
      exact later.trans List.perm_middle.symm

variable {toLowerCase}
variable {input : OptionalModInput} {old : List String}

theorem freeTitle_of_taken
    {used : List String}
    (taken : toLowerCase (requestedTitle input) ∈ used) :
    freeTitle toLowerCase used input = suffixedTitle input :=
  if_pos taken

theorem freeTitle_of_free
    {used : List String}
    (free : toLowerCase (requestedTitle input) ∉ used) :
    freeTitle toLowerCase used input = requestedTitle input :=
  if_neg free

theorem Taken.concat
    {earlier : List OptionalModInput}
    {title : String} (input : OptionalModInput)
    (taken : Taken toLowerCase old earlier title) :
    Taken toLowerCase old (earlier ++ [input]) title := by
  cases taken with
  | old member => exact Taken.old member
  | requested same =>
      rw [List.append_assoc, List.cons_append]
      exact Taken.requested same
  | suffixed repeated same =>
      rw [List.append_assoc, List.cons_append]
      exact Taken.suffixed repeated same

theorem taken_concat_iff
    {earlier : List OptionalModInput}
    {title : String} :
    Taken toLowerCase old (earlier ++ [input]) title ↔
      Taken toLowerCase old earlier title ∨
        toLowerCase title = toLowerCase (requestedTitle input) ∨
          Taken toLowerCase old earlier (requestedTitle input) ∧
            toLowerCase title = toLowerCase (suffixedTitle input) := by
  constructor
  · intro taken
    generalize whole : earlier ++ [input] = inputs at taken
    cases taken with
    | old member => exact Or.inl (Taken.old member)
    | @requested before after other _ same =>
        rcases List.eq_nil_or_concat' after with rfl | ⟨rest, last, rfl⟩
        · obtain ⟨rfl, shape⟩ := List.append_inj' whole rfl
          cases shape
          exact Or.inr (Or.inl same)
        · rw [← List.cons_append, ← List.append_assoc] at whole
          obtain ⟨rfl, -⟩ := List.append_inj' whole rfl
          exact Or.inl (Taken.requested same)
    | @suffixed before after other _ repeated same =>
        rcases List.eq_nil_or_concat' after with rfl | ⟨rest, last, rfl⟩
        · obtain ⟨rfl, shape⟩ := List.append_inj' whole rfl
          cases shape
          exact Or.inr (Or.inr ⟨repeated, same⟩)
        · rw [← List.cons_append, ← List.append_assoc] at whole
          obtain ⟨rfl, -⟩ := List.append_inj' whole rfl
          exact Or.inl (Taken.suffixed repeated same)
  · rintro (taken | same | ⟨repeated, same⟩)
    · exact taken.concat input
    · exact Taken.requested same
    · exact Taken.suffixed repeated same

theorem mem_usedNames_iff
    (old : List String) (inputs : List OptionalModInput) (title : String) :
    toLowerCase title ∈ usedNames toLowerCase old inputs ↔
      Taken toLowerCase old inputs title := by
  induction inputs using List.reverseRecOn generalizing title with
  | nil =>
      constructor
      · exact Taken.old
      · intro taken
        generalize whole : ([] : List OptionalModInput) = inputs at taken
        cases taken with
        | old member =>
            subst whole
            exact member
        | requested same => exact absurd whole.symm (by simp)
        | suffixed repeated same => exact absurd whole.symm (by simp)
  | append_singleton earlier input ih =>
      rw [usedNames_concat, List.mem_cons, taken_concat_iff,
        ← ih, ← ih]
      by_cases repeated : toLowerCase (requestedTitle input) ∈
          usedNames toLowerCase old earlier
      · rw [freeTitle_of_taken repeated]
        constructor
        · rintro (same | member)
          · exact Or.inr (Or.inr ⟨repeated, same⟩)
          · exact Or.inl member
        · rintro (member | same | ⟨-, same⟩)
          · exact Or.inr member
          · rw [same]
            exact Or.inr repeated
          · exact Or.inl same
      · rw [freeTitle_of_free repeated]
        constructor
        · rintro (same | member)
          · exact Or.inr (Or.inl same)
          · exact Or.inl member
        · rintro (member | same | ⟨impossible, -⟩)
          · exact Or.inr member
          · exact Or.inl same
          · exact absurd impossible repeated

theorem freeTitle_new_iff
    (old : List String) (earlier : List OptionalModInput)
    (input : OptionalModInput) :
    toLowerCase (freeTitle toLowerCase
        (usedNames toLowerCase old earlier) input) ∉
          usedNames toLowerCase old earlier ↔
      (Taken toLowerCase old earlier (requestedTitle input) →
        ¬ Taken toLowerCase old earlier (suffixedTitle input)) := by
  rw [← mem_usedNames_iff, ← mem_usedNames_iff]
  by_cases repeated : toLowerCase (requestedTitle input) ∈
      usedNames toLowerCase old earlier
  · rw [freeTitle_of_taken repeated]
    constructor
    · intro new _
      exact new
    · intro free
      exact free repeated
  · rw [freeTitle_of_free repeated]
    constructor
    · intro _ impossible
      exact absurd impossible repeated
    · intro _
      exact repeated

theorem usedNames_nodup_iff
    (distinct : old.Nodup)
    (inputs : List OptionalModInput) :
    (usedNames toLowerCase old inputs).Nodup ↔
      SuffixesFree toLowerCase old inputs := by
  induction inputs using List.reverseRecOn with
  | nil =>
      constructor
      · intro _ before input after impossible
        exact absurd impossible (by simp)
      · intro _
        exact distinct
  | append_singleton earlier input ih =>
      rw [usedNames_concat, List.nodup_cons, freeTitle_new_iff,
        ih]
      constructor
      · rintro ⟨last, others⟩ before other after whole
        rcases List.eq_nil_or_concat' after with rfl | ⟨rest, final, rfl⟩
        · obtain ⟨rfl, shape⟩ := List.append_inj' whole rfl
          cases shape
          exact last
        · rw [← List.cons_append, ← List.append_assoc] at whole
          obtain ⟨rfl, -⟩ := List.append_inj' whole rfl
          exact others before other rest rfl
      · intro free
        refine ⟨free earlier input [] rfl, ?_⟩
        intro before other after whole
        apply free before other (after ++ [input])
        rw [whole, List.append_assoc, List.cons_append]

variable (toLowerCase)

theorem optionalNames_upsert
    (updateOptional : Option Json) (inputs : List OptionalModInput)
    (removeProjectIds : List String) :
    (optionalNames toLowerCase (some (.array (upsertOptionalMods
        toLowerCase updateOptional inputs removeProjectIds)))).Perm
      (usedNames toLowerCase
        (keptNames toLowerCase updateOptional
          (inputs.map OptionalModInput.projectId ++ removeProjectIds))
        inputs) := by
  have names (items : List JsonFields) :
      (items.map Json.object).filterMap
          (fun value => value.fields?.bind itemName) =
        items.filterMap itemName := by
    rw [List.filterMap_map]
    rfl
  have values (next : List Json) :
      optionalValues (some (.array next)) = next := rfl
  rw [optionalNames, values, upsertOptionalMods, names,
    List.filterMap_append, List.map_append]
  exact (usedNames_perm toLowerCase _ inputs).symm

theorem keptNames_sublist
    (updateOptional : Option Json) (projectIds : List String) :
    (keptNames toLowerCase updateOptional projectIds).Sublist
      (optionalNames toLowerCase updateOptional) := by
  apply List.Sublist.map
  rw [← List.filterMap_filterMap]
  exact List.Sublist.filterMap itemName List.filter_sublist

/-- The names are distinct after an upsert exactly when every taken title is
free with its suffix. -/
theorem upsertedNames_nodup_iff
    (updateOptional : Option Json) (inputs : List OptionalModInput)
    (removeProjectIds : List String)
    (distinct : (optionalNames toLowerCase updateOptional).Nodup) :
    (optionalNames toLowerCase (some (.array (upsertOptionalMods
        toLowerCase updateOptional inputs removeProjectIds)))).Nodup ↔
      SuffixesFree toLowerCase
        (keptNames toLowerCase updateOptional
          (inputs.map OptionalModInput.projectId ++ removeProjectIds))
        inputs := by
  rw [(optionalNames_upsert toLowerCase updateOptional inputs
    removeProjectIds).nodup_iff]
  apply usedNames_nodup_iff
  exact distinct.sublist (keptNames_sublist toLowerCase _ _)

end Names

/-- A mod of the pack `AANobbMI`, with this digest of its path. -/
def packMod (title digest : String) : OptionalModInput where
  projectId := "mrpack-AANobbMI-" ++ digest
  title := title
  filename := digest ++ ".jar"
  sourcePath := ".gravit-panel-optional/mods/mrpack-AANobbMI-" ++ digest ++
    "/" ++ digest ++ ".jar"
  destinationPath := none
  enabledByDefault := none
  description := none
  category := none

def asciiLowerCase (text : String) : String :=
  String.ofList (text.toList.map Char.toLower)

/-- Two mods of a pack with one title: the second gets the suffix. -/
theorem two_titles_apart :
    SuffixesFree asciiLowerCase
      (keptNames asciiLowerCase none
        ["mrpack-AANobbMI-0a", "mrpack-AANobbMI-1b"])
      [packMod "Textures" "0a", packMod "Textures" "1b"] :=
  (upsertedNames_nodup_iff asciiLowerCase none
    [packMod "Textures" "0a", packMod "Textures" "1b"] []
    (by decide)).mp (by decide +kernel)

/-- The third gets the same suffix again. -/
theorem three_titles_collide :
    (optionalNames asciiLowerCase none).Nodup ∧
      ¬ (optionalNames asciiLowerCase (some (.array
        (upsertOptionalMods asciiLowerCase none
          [packMod "Textures" "0a", packMod "Textures" "1b",
            packMod "Textures" "2c"] [])))).Nodup := by
  refine ⟨by decide, ?_⟩
  decide +kernel

end GravitPanel.Clients
