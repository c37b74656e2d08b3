import GravitPanel.Clients.LoaderVersions

/-!
# NeoForge versions of two Minecraft versions

A NeoForge version counts as one for a Minecraft version if it goes on after
the parts of that version, without the leading `1` of the old numbers.  The
parts of one Minecraft version may begin those of another.
-/

namespace GravitPanel.Clients

open Json

/-- A Minecraft version without its leading `1.`. -/
def releaseText (minecraftVersion : String) : List Char :=
  if ['1', '.'].isPrefixOf minecraftVersion.toList then
    minecraftVersion.toList.drop 2
  else
    minecraftVersion.toList

def releaseParts (minecraftVersion : String) : List String :=
  dotParts (String.ofList (releaseText minecraftVersion))

/-- A loader version has the parts of a release and more parts behind them. -/
def Targets (minecraftVersion loaderVersion : String) : Prop :=
  ∃ part rest, dotParts loaderVersion =
    releaseParts minecraftVersion ++ part :: rest

theorem neoForgePrefix_eq (minecraftVersion : String) :
    neoForgePrefix minecraftVersion =
      releaseText minecraftVersion ++ ['.'] := by
  unfold neoForgePrefix releaseText
  rfl

theorem dotParts_dot (before after : List Char) :
    dotParts (String.ofList (before ++ '.' :: after)) =
      dotParts (String.ofList before) ++ dotParts (String.ofList after) := by
  unfold dotParts
  rw [String.toList_ofList, String.toList_ofList, String.toList_ofList,
    List.splitOn_append_cons_self, List.map_append]

theorem dotParts_ne_nil (version : String) : dotParts version ≠ [] := by
  unfold dotParts
  rw [Ne, List.map_eq_nil_iff]
  exact List.splitOn_ne_nil _ _

theorem intercalate_dotParts (version : String) :
    ".".intercalate (dotParts version) = version := by
  have same : String.toList ∘ String.ofList = id := by
    funext characters
    exact String.toList_ofList
  unfold dotParts
  apply String.toList_inj.mp
  rw [String.toList_intercalate, List.map_map, same, List.map_id]
  exact List.intercalate_splitOn '.'

/-- The prefix that the service looks for stands for the parts of the
release. -/
theorem prefix_iff_targets (minecraftVersion loaderVersion : String) :
    neoForgePrefix minecraftVersion <+: loaderVersion.toList ↔
      Targets minecraftVersion loaderVersion := by
  rw [neoForgePrefix_eq]
  constructor
  · rintro ⟨after, shape⟩
    rw [List.append_assoc, List.singleton_append] at shape
    obtain ⟨part, rest, parts⟩ :=
      List.exists_cons_of_ne_nil (dotParts_ne_nil (String.ofList after))
    refine ⟨part, rest, ?_⟩
    have text : loaderVersion = String.ofList
        (releaseText minecraftVersion ++ '.' :: after) := by
      rw [shape, String.ofList_toList]
    rw [text, dotParts_dot, parts, releaseParts]
  · rintro ⟨part, rest, parts⟩
    have text : loaderVersion =
        String.ofList (releaseText minecraftVersion) ++ "." ++
          ".".intercalate (part :: rest) := by
      rw [← intercalate_dotParts loaderVersion, parts, releaseParts,
        String.intercalate_append_of_ne_nil (dotParts_ne_nil _)
          (List.cons_ne_nil _ _), intercalate_dotParts]
    rw [text, String.toList_append, String.toList_append,
      String.toList_ofList]
    exact List.prefix_append _ _

/-- The well-formed versions that the repository lists. -/
def listedNeoForge (repositories : LoaderRepositories) : List String :=
  match repositories.neoForgeVersions >>= demandVersions with
  | .ok entries => (entries.filterMap Json.string?).filter loaderVersionPattern
  | .error _ => []

section Releases

variable {repositories : LoaderRepositories}
variable {minecraftVersion loaderVersion : String}

theorem mem_neoForgeListed {entries : List Json} :
    loaderVersion ∈ neoForgeListed minecraftVersion entries ↔
      loaderVersion ∈ (entries.filterMap Json.string?).filter
          loaderVersionPattern ∧
        Targets minecraftVersion loaderVersion := by
  rw [neoForgeListed, List.mem_filter, List.mem_filter, Bool.and_eq_true,
    List.isPrefixOf_iff_prefix, prefix_iff_targets]
  constructor
  · rintro ⟨listed, targets, pattern⟩
    exact ⟨⟨listed, pattern⟩, targets⟩
  · rintro ⟨⟨listed, pattern⟩, targets⟩
    exact ⟨listed, targets, pattern⟩

theorem offered_neoForge_iff
    (valid : versionPattern minecraftVersion = true) :
    Offered repositories .neoforge minecraftVersion loaderVersion ↔
      loaderVersion ∈ listedNeoForge repositories ∧
        Targets minecraftVersion loaderVersion := by
  constructor
  · rintro ⟨offered, answered, member⟩
    obtain ⟨_, -, rest⟩ := Program.outcome_bind_eq_ok.mp answered
    obtain ⟨metadata, found, listing⟩ := Program.outcome_bind_eq_ok.mp rest
    obtain ⟨entries, array, done⟩ := Program.outcome_bind_eq_ok.mp listing
    cases done
    have both : (repositories.neoForgeVersions >>= demandVersions) =
        .ok entries := Program.outcome_bind_eq_ok.mpr ⟨_, found, array⟩
    rw [listedNeoForge, both]
    exact mem_neoForgeListed.mp (mem_descending.mp member)
  · rintro ⟨listed, targets⟩
    unfold listedNeoForge at listed
    cases both : repositories.neoForgeVersions >>= demandVersions with
    | error problem =>
        rw [both] at listed
        exact absurd listed List.not_mem_nil
    | ok entries =>
        rw [both] at listed
        obtain ⟨metadata, found, array⟩ :=
          Program.outcome_bind_eq_ok.mp both
        refine ⟨descending repositories.upTo
          (neoForgeListed minecraftVersion entries), ?_, ?_⟩
        · refine Program.outcome_bind_eq_ok.mpr
            ⟨(), demand_ok.mpr valid, ?_⟩
          refine Program.outcome_bind_eq_ok.mpr ⟨metadata, found, ?_⟩
          exact Program.outcome_bind_eq_ok.mpr ⟨entries, array, rfl⟩
        · exact mem_descending.mpr (mem_neoForgeListed.mpr ⟨listed, targets⟩)

theorem offered_of_resolveNeoForge {installer : ResolvedInstaller}
    (resolves : resolveNeoForge repositories minecraftVersion
      (some loaderVersion) = .ok installer) :
    Offered repositories .neoforge minecraftVersion loaderVersion := by
  obtain ⟨offered, answered, rest⟩ := Program.outcome_bind_eq_ok.mp resolves
  obtain ⟨version, first, done⟩ := Program.outcome_bind_eq_ok.mp rest
  obtain ⟨_, available, -⟩ := Program.outcome_bind_eq_ok.mp done
  have chosen : version = loaderVersion := by
    by_cases empty : loaderVersion = ""
    · have refused := first.symm.trans (if_pos empty)
      cases refused
    · have taken := first.symm.trans (if_neg empty)
      exact Except.ok.inj taken
  rw [demand_ok, decide_eq_true_eq, chosen] at available
  exact ⟨offered, answered, available⟩

end Releases

/-- No NeoForge version is for both Minecraft versions. -/
structure SeparateReleases (repositories : LoaderRepositories)
    (first second : String) : Prop where
  offered : ∀ loaderVersion,
    ¬ (Offered repositories .neoforge first loaderVersion ∧
      Offered repositories .neoforge second loaderVersion)
  resolved : ∀ loaderVersion installer other,
    ¬ (resolveNeoForge repositories first (some loaderVersion) =
        .ok installer ∧
      resolveNeoForge repositories second (some loaderVersion) = .ok other)

/-- The parts of the longer version begin with those of the shorter one, and a
listed version targets the longer one. -/
def Overlap (repositories : LoaderRepositories)
    (shorter longer : String) : Prop :=
  releaseParts shorter <+: releaseParts longer ∧
    ∃ loaderVersion ∈ listedNeoForge repositories,
      Targets longer loaderVersion

theorem Targets.of_prefix {shorter longer loaderVersion : String}
    (targets : Targets longer loaderVersion)
    (begins : releaseParts shorter <+: releaseParts longer) :
    Targets shorter loaderVersion := by
  obtain ⟨part, rest, parts⟩ := targets
  obtain ⟨others, same⟩ := begins
  rw [← same, List.append_assoc] at parts
  cases others with
  | nil => exact ⟨part, rest, parts⟩
  | cons next others => exact ⟨next, others ++ part :: rest, parts⟩

theorem Targets.nested {first second loaderVersion : String}
    (targets : Targets first loaderVersion)
    (others : Targets second loaderVersion) :
    releaseParts first <+: releaseParts second ∨
      releaseParts second <+: releaseParts first := by
  obtain ⟨part, rest, parts⟩ := targets
  obtain ⟨other, more, same⟩ := others
  have begins : releaseParts first <+: dotParts loaderVersion := by
    rw [parts]
    exact List.prefix_append _ _
  have otherBegins : releaseParts second <+: dotParts loaderVersion := by
    rw [same]
    exact List.prefix_append _ _
  exact List.prefix_or_prefix_of_prefix begins otherBegins

/-- Two Minecraft versions have no NeoForge version in common exactly if
neither overlaps the other. -/
theorem separateReleases_iff
    (repositories : LoaderRepositories) (first second : String)
    (valid : versionPattern first = true)
    (otherValid : versionPattern second = true) :
    SeparateReleases repositories first second ↔
      ¬ Overlap repositories first second ∧
        ¬ Overlap repositories second first := by
  constructor
  · intro separate
    constructor
    · rintro ⟨begins, loaderVersion, listed, targets⟩
      refine separate.offered loaderVersion ⟨?_, ?_⟩
      · exact (offered_neoForge_iff valid).mpr
          ⟨listed, targets.of_prefix begins⟩
      · exact (offered_neoForge_iff otherValid).mpr ⟨listed, targets⟩
    · rintro ⟨begins, loaderVersion, listed, targets⟩
      refine separate.offered loaderVersion ⟨?_, ?_⟩
      · exact (offered_neoForge_iff valid).mpr ⟨listed, targets⟩
      · exact (offered_neoForge_iff otherValid).mpr
          ⟨listed, targets.of_prefix begins⟩
  · rintro ⟨apart, otherApart⟩
    have disjoint : ∀ loaderVersion,
        ¬ (Offered repositories .neoforge first loaderVersion ∧
          Offered repositories .neoforge second loaderVersion) := by
      rintro loaderVersion ⟨offered, otherOffered⟩
      obtain ⟨listed, targets⟩ := (offered_neoForge_iff valid).mp offered
      obtain ⟨-, others⟩ := (offered_neoForge_iff otherValid).mp otherOffered
      rcases targets.nested others with begins | begins
      · exact apart ⟨begins, loaderVersion, listed, others⟩
      · exact otherApart ⟨begins, loaderVersion, listed, targets⟩
    refine ⟨disjoint, ?_⟩
    rintro loaderVersion installer other ⟨resolves, otherResolves⟩
    exact disjoint loaderVersion
      ⟨offered_of_resolveNeoForge resolves,
        offered_of_resolveNeoForge otherResolves⟩

/-- Two patch releases are apart. -/
theorem separateReleases_patches :
    SeparateReleases sampleRepositories "1.21.1" "1.21.2" := by
  refine (separateReleases_iff sampleRepositories "1.21.1" "1.21.2"
    (by decide +kernel) (by decide +kernel)).mpr ⟨?_, ?_⟩
  · rintro ⟨begins, -⟩
    exact absurd begins (by decide +kernel)
  · rintro ⟨begins, -⟩
    exact absurd begins (by decide +kernel)

/-- A NeoForge version of `1.21.1` is offered for `1.21` too. -/
theorem first_release_shared :
    ¬ SeparateReleases sampleRepositories "1.21" "1.21.1" := by
  intro separate
  refine separate.offered "21.1.244" ⟨?_, ?_⟩
  · exact offered_neoForge (by decide +kernel) rfl (by decide +kernel)
  · exact offered_neoForge (by decide +kernel) rfl (by decide +kernel)

end GravitPanel.Clients
