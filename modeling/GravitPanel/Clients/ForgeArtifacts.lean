import GravitPanel.Clients.LoaderVersions

/-!
# Forge versions and their artifacts

The listing takes the Minecraft version off both ends of an entry of the Maven
metadata, and the resolution puts it back: in front always, and behind for the
Minecraft versions up to 1.10.
-/

namespace GravitPanel.Clients

open Matcher

/-- The entries for a Minecraft version, in the order of the metadata. -/
def forgeEntries (minecraftVersion metadata : String) : List (List Char) :=
  (matchAll versionElement metadata.toList).filter fun version =>
    (minecraftVersion.toList ++ ['-']).isPrefixOf version

/-- The entry that a listed loader version is taken from: the first one with
that version. -/
def listedFrom (minecraftVersion metadata loaderVersion : String) :
    Option (List Char) :=
  (forgeEntries minecraftVersion metadata).find? fun entry =>
    forgeVersion minecraftVersion entry = loaderVersion

/-- The Minecraft version stands behind the loader version, too. -/
def hasSuffix (minecraftVersion : String) (entry : List Char) : Bool :=
  (legacySuffix minecraftVersion).isSuffixOf
    (entry.drop (minecraftVersion.length + 1))

/-- The address of the installer of an artifact version. -/
def forgeUrl (artifactVersion : String) : String :=
  "https://maven.minecraftforge.net/net/minecraftforge/forge/" ++
    artifactVersion ++ "/forge-" ++ artifactVersion ++ "-installer.jar"

section Entry

variable {minecraftVersion : String} {entry : List Char}

theorem dash_prefix (begins : minecraftVersion.toList ++ ['-'] <+: entry) :
    minecraftVersion.toList ++
      '-' :: entry.drop (minecraftVersion.length + 1) = entry := by
  obtain ⟨rest, rfl⟩ := begins
  have length : (minecraftVersion.toList ++ ['-']).length =
      minecraftVersion.length + 1 := by
    rw [List.length_append, List.length_singleton, String.length_toList]
  rw [← length, List.drop_left, List.append_assoc, List.singleton_append]

theorem forgeVersion_suffix :
    (forgeVersion minecraftVersion entry).toList ++
        (if hasSuffix minecraftVersion entry then
          legacySuffix minecraftVersion else []) =
      entry.drop (minecraftVersion.length + 1) := by
  unfold forgeVersion hasSuffix
  dsimp only
  rw [String.toList_ofList]
  by_cases suffixed : (legacySuffix minecraftVersion).isSuffixOf
      (entry.drop (minecraftVersion.length + 1)) = true
  · rw [if_pos suffixed, if_pos suffixed]
    obtain ⟨front, same⟩ := List.isSuffixOf_iff_suffix.mp suffixed
    rw [← same, List.length_append, Nat.add_sub_cancel, List.take_left]
  · rw [if_neg suffixed, if_neg suffixed, List.append_nil]

/-- What is put back gives the entry exactly if the suffix is put back where
there was one. -/
theorem forgeArtifactVersion_forgeVersion
    (begins : minecraftVersion.toList ++ ['-'] <+: entry) :
    (forgeArtifactVersion minecraftVersion
        (forgeVersion minecraftVersion entry)).toList = entry ↔
      hasSuffix minecraftVersion entry = isLegacy minecraftVersion := by
  have whole := dash_prefix begins
  have rest : forgeRest minecraftVersion
      (forgeVersion minecraftVersion entry) =
        (forgeVersion minecraftVersion entry).toList ++
          (if isLegacy minecraftVersion then
            legacySuffix minecraftVersion else []) := by
    unfold forgeRest legacySuffix
    split
    · rfl
    · rw [List.append_nil]
  have nonempty : legacySuffix minecraftVersion ≠ [] := List.cons_ne_nil _ _
  rw [forgeArtifactVersion_toList, rest]
  constructor
  · intro same
    have tails := List.append_cancel_left (same.trans whole.symm)
    rw [← forgeVersion_suffix] at tails
    injection tails with _ tails
    have ends := List.append_cancel_left tails
    cases suffixed : hasSuffix minecraftVersion entry <;>
      cases legacy : isLegacy minecraftVersion
    · rfl
    · rw [suffixed, legacy] at ends
      exact absurd ends nonempty
    · rw [suffixed, legacy] at ends
      exact absurd ends.symm nonempty
    · rfl
  · intro same
    rw [← same, forgeVersion_suffix]
    exact whole

end Entry

section Listed

variable {repositories : LoaderRepositories}
variable {minecraftVersion loaderVersion : String}

theorem mem_wellFormed {listed : List String} :
    loaderVersion ∈ wellFormed listed ↔
      loaderVersion ∈ listed ∧ loaderVersionPattern loaderVersion = true := by
  constructor
  · intro member
    refine ⟨?_, loaderVersionPattern_of_wellFormed member⟩
    obtain ⟨entry, present, rfl⟩ := List.mem_map.mp member
    have kept := (List.mem_filter.mp present).1
    rw [List.mem_zipIdx_iff_getElem?] at kept
    exact List.mem_of_getElem? kept
  · rintro ⟨member, pattern⟩
    refine List.mem_map.mpr
      ⟨(loaderVersion, listed.idxOf loaderVersion), ?_, rfl⟩
    refine List.mem_filter.mpr ⟨?_, ?_⟩
    · rw [List.mem_zipIdx_iff_getElem?]
      exact List.getElem?_idxOf member
    · rw [Bool.and_eq_true]
      exact ⟨pattern, beq_self_eq_true _⟩

theorem listedFrom_eq_some {metadata : String} {entry : List Char}
    (found : listedFrom minecraftVersion metadata loaderVersion =
      some entry) :
    entry ∈ forgeEntries minecraftVersion metadata ∧
      forgeVersion minecraftVersion entry = loaderVersion := by
  unfold listedFrom at found
  have same := List.find?_some found
  exact ⟨List.mem_of_find?_eq_some found, of_decide_eq_true same⟩

/-- The metadata of the repository, which is empty if there is no answer. -/
def metadataOf (repositories : LoaderRepositories) : String :=
  match repositories.forgeMetadata with
  | .ok metadata => metadata
  | .error _ => ""

theorem mem_forgeListed {metadata : String} :
    loaderVersion ∈ forgeListed minecraftVersion metadata ↔
      loaderVersionPattern loaderVersion = true ∧
        (listedFrom minecraftVersion metadata loaderVersion).isSome := by
  rw [forgeListed, mem_wellFormed, List.mem_map, listedFrom,
    List.find?_isSome, and_comm]
  constructor
  · rintro ⟨pattern, entry, member, same⟩
    exact ⟨pattern, entry, member, decide_eq_true same⟩
  · rintro ⟨pattern, entry, member, same⟩
    exact ⟨pattern, entry, member, of_decide_eq_true same⟩

theorem forgeListed_empty : forgeListed minecraftVersion "" = [] := rfl

/-- A version is offered exactly if it is well formed and taken from an
entry. -/
theorem offered_forge_iff :
    Offered repositories .forge minecraftVersion loaderVersion ↔
      versionPattern minecraftVersion = true ∧
        loaderVersionPattern loaderVersion = true ∧
          (listedFrom minecraftVersion (metadataOf repositories)
            loaderVersion).isSome := by
  rw [← mem_forgeListed, metadataOf]
  constructor
  · intro offered
    refine ⟨(offered_facts offered).1, ?_⟩
    obtain ⟨listed, answered, member⟩ := offered
    obtain ⟨_, -, rest⟩ := Program.outcome_bind_eq_ok.mp answered
    obtain ⟨metadata, found, listing⟩ := Program.outcome_bind_eq_ok.mp rest
    cases listing
    rw [found]
    exact mem_descending.mp member
  · rintro ⟨valid, member⟩
    cases answered : repositories.forgeMetadata with
    | error problem =>
        rw [answered, forgeListed_empty] at member
        exact absurd member List.not_mem_nil
    | ok metadata =>
        rw [answered] at member
        exact offered_forge valid answered member

theorem resolveForge_of_offered
    (offered : Offered repositories .forge minecraftVersion loaderVersion) :
    resolveForge repositories minecraftVersion (some loaderVersion) =
      .ok (forgeInstaller minecraftVersion loaderVersion) :=
  resolve_of_offered offered

theorem forgeArtifactVersion_injective {other : String}
    (same : forgeArtifactVersion minecraftVersion loaderVersion =
      forgeArtifactVersion minecraftVersion other) :
    loaderVersion = other := by
  have letters := congrArg String.toList same
  rw [forgeArtifactVersion_toList, forgeArtifactVersion_toList] at letters
  injection List.append_cancel_left letters with _ rest
  unfold forgeRest at rest
  apply String.toList_inj.mp
  cases legacy : isLegacy minecraftVersion with
  | false =>
      rw [legacy] at rest
      exact rest
  | true =>
      rw [legacy, if_pos rfl, if_pos rfl] at rest
      exact List.append_cancel_right rest

end Listed

/-- Every offered version resolves to the artifact of the entry that it is
taken from, and no two of them to one artifact. -/
structure ResolvesBack (repositories : LoaderRepositories)
    (minecraftVersion : String) : Prop where
  entry : ∀ loaderVersion,
    Offered repositories .forge minecraftVersion loaderVersion →
      ∃ installer entry,
        resolveForge repositories minecraftVersion (some loaderVersion) =
            .ok installer ∧
          listedFrom minecraftVersion (metadataOf repositories)
              loaderVersion = some entry ∧
            installer.artifactVersion = String.ofList entry ∧
              installer.url = forgeUrl (String.ofList entry)
  distinct : ∀ loaderVersion other installer otherInstaller,
    Offered repositories .forge minecraftVersion loaderVersion →
      Offered repositories .forge minecraftVersion other →
        resolveForge repositories minecraftVersion (some loaderVersion) =
            .ok installer →
          resolveForge repositories minecraftVersion (some other) =
              .ok otherInstaller →
            installer.artifactVersion = otherInstaller.artifactVersion →
              loaderVersion = other

/-- Of the entries with one well-formed loader version, the first has the
Minecraft version behind it exactly if that is at most 1.10. -/
def SuffixesFit (repositories : LoaderRepositories)
    (minecraftVersion : String) : Prop :=
  versionPattern minecraftVersion = true →
    ∀ entry ∈ forgeEntries minecraftVersion (metadataOf repositories),
      loaderVersionPattern (forgeVersion minecraftVersion entry) = true →
        listedFrom minecraftVersion (metadataOf repositories)
            (forgeVersion minecraftVersion entry) = some entry →
          hasSuffix minecraftVersion entry = isLegacy minecraftVersion

theorem begins_of_mem_forgeEntries {minecraftVersion metadata : String}
    {entry : List Char}
    (member : entry ∈ forgeEntries minecraftVersion metadata) :
    minecraftVersion.toList ++ ['-'] <+: entry :=
  List.isPrefixOf_iff_prefix.mp (List.mem_filter.mp member).2

/-- The listed versions resolve back exactly if the suffixes fit. -/
theorem resolvesBack_iff
    (repositories : LoaderRepositories) (minecraftVersion : String) :
    ResolvesBack repositories minecraftVersion ↔
      SuffixesFit repositories minecraftVersion := by
  constructor
  · intro back valid entry member pattern listed
    have offered : Offered repositories .forge minecraftVersion
        (forgeVersion minecraftVersion entry) :=
      offered_forge_iff.mpr ⟨valid, pattern, by rw [listed]; rfl⟩
    obtain ⟨installer, found, resolves, from_, artifact, -⟩ :=
      back.entry _ offered
    cases listed.symm.trans from_
    cases (resolveForge_of_offered offered).symm.trans resolves
    have letters := congrArg String.toList artifact
    rw [String.toList_ofList] at letters
    exact (forgeArtifactVersion_forgeVersion
      (begins_of_mem_forgeEntries member)).mp letters
  · intro fits
    constructor
    · intro loaderVersion offered
      obtain ⟨valid, pattern, listed⟩ := offered_forge_iff.mp offered
      obtain ⟨entry, found⟩ := Option.isSome_iff_exists.mp listed
      obtain ⟨member, same⟩ := listedFrom_eq_some found
      subst same
      have artifact : forgeArtifactVersion minecraftVersion
          (forgeVersion minecraftVersion entry) = String.ofList entry := by
        apply String.toList_inj.mp
        rw [String.toList_ofList]
        exact (forgeArtifactVersion_forgeVersion
          (begins_of_mem_forgeEntries member)).mpr
            (fits valid entry member pattern found)
      refine ⟨_, entry, resolveForge_of_offered offered, found, artifact, ?_⟩
      rw [← artifact]
      rfl
    · intro loaderVersion other installer otherInstaller offered otherOffered
        resolves otherResolves same
      cases (resolveForge_of_offered offered).symm.trans resolves
      cases (resolveForge_of_offered otherOffered).symm.trans otherResolves
      exact forgeArtifactVersion_injective same

/-- A repository whose only version for `1.6.4` has no suffix. -/
def plainRepositories : LoaderRepositories :=
  { sampleRepositories with
    forgeMetadata := .ok
      "<versions><version>1.6.4-9.11.1.1345</version></versions>" }

/-- The artifact of the resolved version is not in the metadata. -/
theorem plain_entry_lost :
    ¬ ResolvesBack plainRepositories "1.6.4" := by
  intro back
  have offered : Offered plainRepositories .forge "1.6.4" "9.11.1.1345" :=
    offered_forge (by decide +kernel) rfl (by decide +kernel)
  obtain ⟨installer, entry, resolves, listed, artifact, -⟩ :=
    back.entry _ offered
  cases (resolveForge_of_offered offered).symm.trans resolves
  have found : listedFrom "1.6.4" (metadataOf plainRepositories)
      "9.11.1.1345" = some "1.6.4-9.11.1.1345".toList := by
    decide +kernel
  cases listed.symm.trans found
  revert artifact
  decide +kernel

end GravitPanel.Clients
