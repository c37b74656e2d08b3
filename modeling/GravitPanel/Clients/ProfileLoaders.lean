import GravitPanel.Clients.LoaderInstallers

/-!
# The loader of a profile and its version

`inferProfileLoader` looks for names of loaders, `inferProfileLoaderVersion`
for their artifacts in an order of its own.  The version is one of the loader
exactly if the artifact that is found first fits those names.
-/

namespace GravitPanel.Clients

open Json Matcher
open Servers (MinecraftLoader)

/-- The main class, the arguments and the class path in lower case.  The
signals have no letter that only `toLowerCase` of all of Unicode makes. -/
def signals (profile : JsonFields) : List Char :=
  (['\n'].intercalate
    ((((getField "mainClass" profile).bind Json.string?).getD "" ::
      (stringItems "clientArgs" profile ++
        stringItems "classPath" profile)).map String.toList)).map Char.toLower

def includes (text : List Char) (signal : String) : Bool :=
  decide (signal.toList <:+: text)

def loaderSignals : List (MinecraftLoader × List String) :=
  [(.quilt, ["org.quiltmc.loader", "quilt-loader", "quilt_loader"]),
    (.neoforge,
      ["--fml.neoforgeversion", "/net/neoforged/", "net.neoforged."]),
    (.fabric, ["net.fabricmc.loader", "/net/fabricmc/fabric-loader/"]),
    (.forge, ["--fml.forgeversion", "/net/minecraftforge/forge/",
      "net.minecraftforge."])]

def inferProfileLoader (profile : JsonFields) : MinecraftLoader :=
  match loaderSignals.find? fun entry =>
      entry.2.any (includes (signals profile)) with
  | some entry => entry.1
  | none => .vanilla

def loaderArtifacts : List (MinecraftLoader × Matcher (List Char)) :=
  [(.fabric, fabricPattern), (.neoforge, neoForgePattern),
    (.forge, forgePattern),
    (.neoforge, argumentPattern "--fml.neoForgeVersion"),
    (.forge, argumentPattern "--fml.forgeVersion")]

example :
    loaderPatterns = loaderArtifacts.map Prod.snd := rfl

def quiltPattern : Matcher (List Char) :=
  andThen (mavenDirectory ["quilt-loader"]) fun _ => versionRun

/-- The artifacts of a loader; the game alone has none. -/
def artifactsOf : MinecraftLoader → List (Matcher (List Char))
  | .quilt => [quiltPattern]
  | loader =>
      (loaderArtifacts.filter fun entry => entry.1 = loader).map Prod.snd

/-- Somewhere in the class path or the arguments stands an artifact of the
loader with this version. -/
def VersionOf (loader : MinecraftLoader) (profile : JsonFields)
    (version : List Char) : Prop :=
  ∃ pattern ∈ artifactsOf loader, ∃ tail, tail <:+ profileText profile ∧
    first pattern tail = some version

instance (loader : MinecraftLoader) (profile : JsonFields)
    (version : List Char) : Decidable (VersionOf loader profile version) :=
  decidable_of_iff
    ((artifactsOf loader).any fun pattern =>
      (profileText profile).tails.any fun tail =>
        first pattern tail == some version) (by
    simp only [List.any_eq_true, List.mem_tails, beq_iff_eq, VersionOf])

/-- The version that is found, if any, is one of the loader that is found. -/
def ConsistentLoader (profile : JsonFields) : Prop :=
  ∀ version, inferProfileLoaderVersion profile = some version →
    VersionOf (inferProfileLoader profile) profile version.toList

def signalled (loader : MinecraftLoader) (profile : JsonFields) : Bool :=
  loaderSignals.any fun entry =>
    entry.1 == loader && entry.2.any (includes (signals profile))

/-- The signals in the text point to a loader: those of Quilt whatever else is
there, and no signal at all to the game alone. -/
def PointsTo (profile : JsonFields) : MinecraftLoader → Prop
  | .quilt => signalled .quilt profile
  | .neoforge => signalled .neoforge profile ∧ ¬ signalled .quilt profile
  | .fabric =>
      signalled .fabric profile ∧ ¬ signalled .quilt profile ∧
        ¬ signalled .neoforge profile
  | .forge =>
      signalled .forge profile ∧ ¬ signalled .quilt profile ∧
        ¬ signalled .neoforge profile ∧ ¬ signalled .fabric profile
  | .vanilla =>
      ¬ signalled .quilt profile ∧ ¬ signalled .neoforge profile ∧
        ¬ signalled .fabric profile ∧ ¬ signalled .forge profile

/-- The version in the leftmost artifact of a kind. -/
def artifact (pattern : Matcher (List Char)) (profile : JsonFields) :
    Option (List Char) :=
  search pattern (profileText profile)

/-- The signals point to the loader of an artifact, or to another one that has
an artifact of the same version. -/
def FitsSignals (loader : MinecraftLoader) (profile : JsonFields)
    (version : List Char) : Prop :=
  PointsTo profile loader ∨
    ∃ other, other ≠ loader ∧ PointsTo profile other ∧
      VersionOf other profile version

/-- The artifact that stands for all fits the signals: one of Fabric if there
is any, then a directory of NeoForge or Forge, then an argument. -/
structure OwnArtifactFirst (profile : JsonFields) : Prop where
  fabric : ∀ version, artifact fabricPattern profile = some version →
    FitsSignals .fabric profile version
  neoForge : artifact fabricPattern profile = none →
    ∀ version, artifact neoForgePattern profile = some version →
      FitsSignals .neoforge profile version
  forge : artifact fabricPattern profile = none →
    artifact neoForgePattern profile = none →
      ∀ version, artifact forgePattern profile = some version →
        FitsSignals .forge profile version
  neoForgeArgument : artifact fabricPattern profile = none →
    artifact neoForgePattern profile = none →
      artifact forgePattern profile = none →
        ∀ version,
          artifact (argumentPattern "--fml.neoForgeVersion") profile =
              some version →
            FitsSignals .neoforge profile version
  forgeArgument : artifact fabricPattern profile = none →
    artifact neoForgePattern profile = none →
      artifact forgePattern profile = none →
        artifact (argumentPattern "--fml.neoForgeVersion") profile = none →
          ∀ version,
            artifact (argumentPattern "--fml.forgeVersion") profile =
                some version →
              FitsSignals .forge profile version

theorem search_eq_some {Value : Type} {pattern : Matcher Value}
    {text : List Char} {value : Value}
    (found : search pattern text = some value) :
    ∃ tail, tail <:+ text ∧ first pattern tail = some value := by
  induction text with
  | nil => exact ⟨[], List.suffix_rfl, found⟩
  | cons letter rest ih =>
      rw [search] at found
      cases here : first pattern (letter :: rest) with
      | some other =>
          rw [here] at found
          exact ⟨letter :: rest, List.suffix_rfl, here.trans found⟩
      | none =>
          rw [here] at found
          obtain ⟨tail, suffix, matched⟩ := ih found
          exact ⟨tail, suffix.trans (List.suffix_cons letter rest), matched⟩

theorem mem_artifactsOf {loader : MinecraftLoader}
    {pattern : Matcher (List Char)}
    (member : (loader, pattern) ∈ loaderArtifacts) :
    pattern ∈ artifactsOf loader := by
  have listed : pattern ∈ (loaderArtifacts.filter fun entry =>
      entry.1 = loader).map Prod.snd :=
    List.mem_map.mpr ⟨(loader, pattern),
      List.mem_filter.mpr ⟨member, decide_eq_true rfl⟩, rfl⟩
  have named : ∀ entry ∈ loaderArtifacts, entry.1 ≠ .quilt := by
    simp [loaderArtifacts]
  cases loader with
  | quilt => exact absurd rfl (named _ member)
  | vanilla => exact listed
  | fabric => exact listed
  | forge => exact listed
  | neoforge => exact listed

theorem inferProfileLoader_eq (profile : JsonFields)
    (loader : MinecraftLoader) :
    inferProfileLoader profile = loader ↔ PointsTo profile loader := by
  unfold PointsTo signalled inferProfileLoader loaderSignals
  simp only [List.any_cons, List.any_nil, List.find?_cons, List.find?_nil,
    Bool.or_false]
  -- whether the signals of each loader are there
  generalize (includes (signals profile) "org.quiltmc.loader" || _) = quilt
  generalize (includes (signals profile) "--fml.neoforgeversion" || _) =
    neoForge
  generalize (includes (signals profile) "net.fabricmc.loader" || _) = fabric
  generalize (includes (signals profile) "--fml.forgeversion" || _) = forge
  cases quilt <;> cases neoForge <;> cases fabric <;> cases forge <;>
    cases loader <;> decide

/-- An artifact of a loader fits the signals exactly if its version is one of
the loader of the profile. -/
theorem fitsSignals_iff {loader : MinecraftLoader}
    {pattern : Matcher (List Char)} {profile : JsonFields}
    {version : List Char}
    (member : (loader, pattern) ∈ loaderArtifacts)
    (found : artifact pattern profile = some version) :
    FitsSignals loader profile version ↔
      VersionOf (inferProfileLoader profile) profile version := by
  constructor
  · rintro (own | ⟨other, -, points, shared⟩)
    · rw [(inferProfileLoader_eq profile loader).mpr own]
      exact ⟨pattern, mem_artifactsOf member, search_eq_some found⟩
    · rw [(inferProfileLoader_eq profile other).mpr points]
      exact shared
  · intro shared
    have points := (inferProfileLoader_eq profile _).mp rfl
    by_cases own : inferProfileLoader profile = loader
    · rw [own] at points
      exact .inl points
    · exact .inr ⟨_, own, points, shared⟩

/-- The version is the one of the first kind of artifact that is there. -/
def leading (profile : JsonFields) : Option (List Char) :=
  (artifact fabricPattern profile).or
    ((artifact neoForgePattern profile).or
      ((artifact forgePattern profile).or
        ((artifact (argumentPattern "--fml.neoForgeVersion") profile).or
          (artifact (argumentPattern "--fml.forgeVersion") profile))))

theorem inferProfileLoaderVersion_eq (profile : JsonFields) :
    inferProfileLoaderVersion profile =
      (leading profile).map String.ofList := by
  unfold inferProfileLoaderVersion loaderPatterns leading artifact
  simp only [List.findSome?_cons, List.findSome?_nil]
  cases search fabricPattern (profileText profile) with
  | some version => rfl
  | none =>
      cases search neoForgePattern (profileText profile) with
      | some version => rfl
      | none =>
          cases search forgePattern (profileText profile) with
          | some version => rfl
          | none =>
              cases search (argumentPattern "--fml.neoForgeVersion")
                  (profileText profile) with
              | some version => rfl
              | none =>
                  cases search (argumentPattern "--fml.forgeVersion")
                    (profileText profile) <;> rfl

theorem consistentLoader_eq (profile : JsonFields) :
    ConsistentLoader profile ↔ ∀ version, leading profile = some version →
      VersionOf (inferProfileLoader profile) profile version := by
  unfold ConsistentLoader
  rw [inferProfileLoaderVersion_eq]
  constructor
  · intro consistent version led
    have own := consistent (String.ofList version) (by rw [led]; rfl)
    rwa [String.toList_ofList] at own
  · intro consistent version named
    obtain ⟨captured, led, rfl⟩ := Option.map_eq_some_iff.mp named
    rw [String.toList_ofList]
    exact consistent captured led

def connectorProfile : JsonFields :=
  [("classPath", .array
    [.string "libraries/net/neoforged/neoforge/21.1.5/universal.jar",
      .string "libraries/net/fabricmc/fabric-loader/0.16.14/loader.jar"])]

def backslashProfile : JsonFields :=
  [("classPath", .array
    [.string "libraries\\net\\fabricmc\\fabric-loader\\0.16.14\\x.jar"])]

end GravitPanel.Clients
