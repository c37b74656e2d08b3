import Mathlib.Data.List.Perm.Subperm
import GravitPanel.Mods.OptionalIds

/-!
# Selections of a modpack

The selections that an import accepts, beside the paths of the pack's manifest.
-/

namespace GravitPanel.Mods

def selectedPaths (input : ModpackImportInput) : List String :=
  input.files.map PackSelection.path

def manifestPaths (pack : ResolvedModrinthPack) : List String :=
  pack.files.map PackFile.path

/-- The selected paths are those of the manifest, each of them once. -/
structure SelectionsFit
    (input : ModpackImportInput) (pack : ResolvedModrinthPack) : Prop where
  once : (selectedPaths input).Nodup
  same : ∀ path, path ∈ selectedPaths input ↔ path ∈ manifestPaths pack

section Accepted

variable {host : ImportHost} {input : ModpackImportInput}
  {pack : ResolvedModrinthPack}

theorem selectionsMatch_of_checkImport
    (accepted : checkImport host input pack = .ok ⟨⟩) :
    selectionsMatch input pack = true := by
  obtain ⟨_, _, afterProfile⟩ := checked_of_ok accepted
  obtain ⟨_, _, afterVersion⟩ := checked_of_ok afterProfile
  obtain ⟨_, _, afterLoader⟩ := checked_of_ok afterVersion
  obtain ⟨_, matching, -⟩ := checked_of_ok afterLoader
  have passed := reject_eq_ok matching
  rw [Bool.not_eq_false'] at passed
  exact passed

theorem selectionsMatch_iff :
    selectionsMatch input pack = true ↔
      (selectedPaths input).Nodup ∧
        (manifestPaths pack).length = (selectedPaths input).length ∧
          manifestPaths pack ⊆ selectedPaths input := by
  have contained : (pack.files.all fun file =>
      (input.files.map PackSelection.path).contains file.path) = true ↔
        manifestPaths pack ⊆ selectedPaths input := by
    rw [List.all_eq_true]
    constructor
    · intro every path member
      obtain ⟨file, inside, rfl⟩ := List.mem_map.mp member
      exact List.contains_iff_mem.mp (every file inside)
    · intro subset file member
      exact List.contains_iff_mem.mpr
        (subset (List.mem_map.mpr ⟨file, member, rfl⟩))
  rw [selectionsMatch, Bool.and_eq_true, Bool.and_eq_true, contained,
    decide_eq_true_eq, decide_eq_true_eq, selectedPaths, manifestPaths,
    List.length_map, List.length_map, and_assoc]

/-- With different paths in the manifest a decision is made for each file and
for nothing else. -/
theorem selectedPaths_perm
    (accepted : checkImport host input pack = .ok ⟨⟩)
    (distinct : (manifestPaths pack).Nodup) :
    (manifestPaths pack).Perm (selectedPaths input) := by
  obtain ⟨-, length, subset⟩ :=
    selectionsMatch_iff.mp (selectionsMatch_of_checkImport accepted)
  have within : (manifestPaths pack).Subperm (selectedPaths input) :=
    distinct.subperm subset
  exact within.perm_of_length_le length.ge

/-- The selections of an accepted import fit exactly if no path occurs twice in
the manifest. -/
theorem selectionsFit_iff
    (host : ImportHost) (input : ModpackImportInput)
    (pack : ResolvedModrinthPack)
    (accepted : checkImport host input pack = .ok ⟨⟩) :
    SelectionsFit input pack ↔ (manifestPaths pack).Nodup := by
  obtain ⟨once, length, subset⟩ :=
    selectionsMatch_iff.mp (selectionsMatch_of_checkImport accepted)
  constructor
  · intro fit
    have within : (selectedPaths input).Subperm (manifestPaths pack) :=
      once.subperm fun path member => (fit.same path).mp member
    have all : (selectedPaths input).Perm (manifestPaths pack) :=
      within.perm_of_length_le length.le
    exact all.nodup_iff.mp once
  · intro distinct
    have all := selectedPaths_perm accepted distinct
    exact ⟨once, fun path => all.mem_iff.symm⟩

end Accepted

/-- The second selection names another file. -/
def strangeInput : ModpackImportInput :=
  { sampleInput with
    files := [sampleSelection,
      { sampleSelection with path := "mods/lithium.jar" }] }

def pairPack : ResolvedModrinthPack :=
  { samplePack "AANobbMI" with
    files := [{ sampleFile with path := "mods/lithium.jar" }, sampleFile] }

theorem sample_selectionsFit :
    SelectionsFit strangeInput pairPack ↔ (manifestPaths pairPack).Nodup :=
  selectionsFit_iff sampleHost strangeInput pairPack (by decide +kernel)

def repeatedIndex : ModrinthPackIndex :=
  { sampleIndex with files := some [sampleFile, sampleFile] }

def repeatedArchive : PackArchive :=
  { sampleArchive with parse := fun _ => .ok repeatedIndex }

def repeatedPack : ResolvedModrinthPack :=
  { samplePack "AANobbMI" with files := [sampleFile, sampleFile] }

/-- The import with a selection of a file that the pack does not have
succeeds. -/
theorem strange_selection_accepted :
    (∃ parsed, readModpackArchive repeatedArchive true = .ok parsed ∧
        parsed.files = repeatedPack.files) ∧
      (applyResolvedModpack sampleHost strangeInput repeatedPack
        ImportState.empty).1 = .ok ⟨⟩ ∧
      ¬ SelectionsFit strangeInput repeatedPack := by
  have runs : readModpackArchive repeatedArchive true =
        .ok ⟨repeatedIndex, [sampleFile, sampleFile],
          [("minecraft", "1.21.1")], []⟩ ∧
      (applyResolvedModpack sampleHost strangeInput repeatedPack
        ImportState.empty).1 = .ok ⟨⟩ ∧
      "mods/lithium.jar" ∈ selectedPaths strangeInput ∧
        "mods/lithium.jar" ∉ manifestPaths repeatedPack := by
    decide +kernel
  obtain ⟨read, done, selected, absent⟩ := runs
  refine ⟨⟨_, read, rfl⟩, done, fun fit => ?_⟩
  exact absent ((fit.same _).mp selected)

end GravitPanel.Mods
