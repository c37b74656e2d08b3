import GravitPanel.Clients.BuildRuns

/-!
# Metadata of a rebuilt profile

Which fields of a profile a build that ends normally leaves as they were: those
that are carried over, and those that the builder wrote as they were.
-/

namespace GravitPanel.Clients

open Program Volume Json

variable {Content : Type}
variable {field : String × (Json → Bool)}

theorem getField_carryField_of_ne
    {key : String}
    (different : key ≠ field.1) (previous generated : JsonFields) :
    getField key (carryField previous generated field) =
      getField key generated := by
  unfold carryField
  split
  · exact getField_setField_of_ne different _ _
  · rfl

theorem getField_carryField_self
    (field : String × (Json → Bool)) (previous generated : JsonFields) :
    getField field.1 (carryField previous generated field) =
      ((getField field.1 previous).filter field.2).or
        (getField field.1 generated) := by
  unfold carryField
  split
  next value carried =>
    rw [carried, getField_setField_self, Option.some_or]
  next carried =>
    rw [carried, Option.none_or]

theorem getField_foldl_of_notMem
    {key : String} {fields : List (String × (Json → Bool))}
    (absent : key ∉ fields.map Prod.fst) (previous generated : JsonFields) :
    getField key (fields.foldl (carryField previous) generated) =
      getField key generated := by
  induction fields generalizing generated with
  | nil => rfl
  | cons field rest ih =>
      rw [List.map_cons, List.mem_cons, not_or] at absent
      rw [List.foldl_cons, ih absent.2,
        getField_carryField_of_ne absent.1]

theorem getField_foldl_of_mem
    {fields : List (String × (Json → Bool))}
    (distinct : (fields.map Prod.fst).Nodup) (member : field ∈ fields)
    (previous generated : JsonFields) :
    getField field.1 (fields.foldl (carryField previous) generated) =
      ((getField field.1 previous).filter field.2).or
        (getField field.1 generated) := by
  induction fields generalizing generated with
  | nil => exact absurd member List.not_mem_nil
  | cons first rest ih =>
      rw [List.map_cons, List.nodup_cons] at distinct
      rw [List.foldl_cons]
      rcases List.mem_cons.mp member with rfl | later
      · rw [getField_foldl_of_notMem distinct.1,
          getField_carryField_self]
      · have different : field.1 ≠ first.1 := by
          intro same
          apply distinct.1
          rw [← same]
          exact List.mem_map_of_mem later
        rw [ih distinct.2 later,
          getField_carryField_of_ne different]

theorem carriedFields_distinct : (carriedFields.map Prod.fst).Nodup := by
  decide

theorem getField_mergeMetadata_of_mem
    (member : field ∈ carriedFields)
    (previous generated : JsonFields) :
    getField field.1 (mergeMetadata previous generated) =
      ((getField field.1 previous).filter field.2).or
        (getField field.1 generated) :=
  getField_foldl_of_mem carriedFields_distinct member previous generated

theorem getField_mergeMetadata_of_notMem
    {key : String} (absent : key ∉ carriedFields.map Prod.fst)
    (previous generated : JsonFields) :
    getField key (mergeMetadata previous generated) =
      getField key generated :=
  getField_foldl_of_notMem absent previous generated

theorem mergeMetadata_of_not_preserves
    {previous : JsonFields} (nothing : preservesMetadata previous = false)
    (generated : JsonFields) :
    mergeMetadata previous generated = generated := by
  unfold preservesMetadata at nothing
  unfold mergeMetadata
  generalize carriedFields = fields at nothing
  induction fields generalizing generated with
  | nil => rfl
  | cons field rest ih =>
      rw [List.any_cons, Bool.or_eq_false_iff] at nothing
      have none : (getField field.1 previous).filter field.2 = none := by
        cases found : getField field.1 previous with
        | none => rfl
        | some value =>
            rw [found] at nothing
            have fails : field.2 value = false := nothing.1
            simp [fails]
      rw [List.foldl_cons, carryField, none]
      exact ih generated nothing.2

section Publishing

variable {environment : BuildEnvironment Content} {input : ClientBuildInput}
variable {start final : Volume Content}

def fieldsInMemory (inMemory : Option Json) : JsonFields :=
  (inMemory.map profileFields).getD []

/-- The volume once the merged profile is written. -/
def afterMerge (environment : BuildEnvironment Content)
    (input : ClientBuildInput) (previous generated : JsonFields)
    (volume : Volume Content) : Volume Content :=
  if preservesMetadata previous then
    volume.setFile (profilePath input.name) (some (environment.stringify
      (.object (mergeMetadata previous generated))))
  else
    volume

theorem publishMetadata_ok
    {inMemory : Option Json} {generated : JsonFields} {value : Unit} :
    publishMetadata environment input inMemory generated start =
        (.ok value, final) ↔
      (preservesMetadata (fieldsInMemory inMemory) →
        environment.faults .metadataWrite = none ∧
          environment.faults .metadataPreserved = none) ∧
        afterMerge environment input (fieldsInMemory inMemory) generated
          start = final := by
  by_cases preserves : preservesMetadata (fieldsInMemory inMemory) = true
  · have run : publishMetadata environment input inMemory generated =
        (writeProfile environment input .metadataWrite
          (mergeMetadata (fieldsInMemory inMemory) generated) >>= fun _ =>
            pass environment.faults .metadataPreserved) := if_pos preserves
    rw [run, writeProfile, writeFileAtomic_bind_eq_ok, pass_eq_ok,
      ← and_assoc, afterMerge, if_pos preserves]
    exact and_congr_left' ⟨fun clear _ => clear, fun clear => clear preserves⟩
  · have run : publishMetadata environment input inMemory generated =
        pure ⟨⟩ := if_neg preserves
    rw [run, afterMerge, if_neg preserves]
    constructor
    · intro ended
      cases ended
      exact ⟨fun some => absurd some preserves, rfl⟩
    · rintro ⟨-, rfl⟩
      rfl

theorem keeps_concludeBuild
    {name : String} {holds : Option Content → Prop}
    (documented : DocumentedBuild environment name)
    (generated : JsonFields) :
    Keeps (OfFile (profilePath name) holds)
      (concludeBuild environment input generated) := by
  unfold concludeBuild
  refine (keeps_reload documented _).bind fun _ => ?_
  exact (keeps_pass _).bind fun _ => keeps_pure _

variable {keys : List String} {expected : JsonFields}

theorem hasFields_afterMerge
    (documented : DocumentedBuild environment input.name)
    {previous generated : JsonFields}
    (before : HasFields environment keys expected
        (start.file (profilePath input.name)) ↔
      ∀ key ∈ keys, getField key generated = getField key expected) :
    HasFields environment keys expected
        ((afterMerge environment input previous generated start).file
          (profilePath input.name)) ↔
      ∀ key ∈ keys, getField key (mergeMetadata previous generated) =
        getField key expected := by
  by_cases preserves : preservesMetadata previous = true
  · rw [afterMerge, if_pos preserves, file_setFile_self]
    exact hasFields_object (documented.parsed _)
  · have nothing := Bool.not_eq_true _ ▸ preserves
    rw [afterMerge, if_neg preserves, before,
      mergeMetadata_of_not_preserves nothing]

theorem hasFields_verified
    (documented : DocumentedBuild environment input.name)
    {built generated : JsonFields}
    (verified : BuildVerified environment input start built)
    (run : verifyBuild environment input start = (.ok generated, final))
    (untouched : "classPath" ∉ keys) :
    (∀ key ∈ keys, getField key generated = getField key built) ∧
      (HasFields environment keys expected
          (final.file (profilePath input.name)) ↔
        ∀ key ∈ keys, getField key generated = getField key expected) := by
  obtain ⟨other, alsoVerified, same⟩ := verifyBuild_ok.mp ⟨final, run⟩
  have equal := object_unique verified.done.profile
    alsoVerified.done.profile
  subst equal
  have agree : ∀ key ∈ keys,
      getField key generated = getField key built := by
    intro key member
    rw [← same]
    exact getField_removeInstallerLibraries
      (fun classPath => untouched (classPath ▸ member)) _ _
  have reached := @verifyBuild_reached _ environment input start keys
    expected documented untouched
  rw [run, hasFields_object verified.done.profile] at reached
  refine ⟨agree, reached.trans ?_⟩
  exact forall₂_congr fun key member => by rw [agree key member]

end Publishing

/-- The keys that other operations of the panel write, and that no rebuild
carries over. -/
def uncarriedKeys : List String :=
  ["updateOptional", "recommendJavaVersion", "minJavaVersion",
    "maxJavaVersion"]

/-- The fields of a profile that the panel manages. -/
def managedKeys : List String :=
  carriedFields.map Prod.fst ++ uncarriedKeys

/-- A previous value is carried over, or the builder wrote it itself. -/
def CarriedOver (environment : BuildEnvironment Content)
    (previous built : JsonFields) (field : String × (Json → Bool)) : Prop :=
  (environment.faults .previousRead = none ∧
      (getField field.1 previous).any field.2) ∨
    getField field.1 built = getField field.1 previous

/-- Each carried field is carried over, and of the others the builder wrote the
previous values. -/
structure MetadataKept (environment : BuildEnvironment Content)
    (previous built : JsonFields) : Prop where
  carried : ∀ field ∈ carriedFields,
    CarriedOver environment previous built field
  others : ∀ key ∈ uncarriedKeys,
    getField key built = getField key previous

theorem merged_eq_iff
    {environment : BuildEnvironment Content}
    {previous built generated : JsonFields}
    (member : field ∈ carriedFields)
    (same : getField field.1 generated = getField field.1 built) :
    getField field.1 (mergeMetadata
        (fieldsInMemory (captured environment previous)) generated) =
          getField field.1 previous ↔
      CarriedOver environment previous built field := by
  rw [getField_mergeMetadata_of_mem member, same, CarriedOver, captured]
  by_cases read : environment.faults .previousRead = none
  · have fields : fieldsInMemory (some (.object previous)) = previous := rfl
    rw [if_pos read, fields]
    cases found : getField field.1 previous with
    | none => simp [read]
    | some value =>
        cases passes : field.2 value with
        | true => simp [passes, read]
        | false => simp [passes]
  · have fields : fieldsInMemory none = [] := rfl
    have nothing : getField field.1 [] = none := rfl
    rw [if_neg read, fields, nothing]
    simp [read]

/-- All fields that the panel manages are the same as before. -/
def SameMetadata (environment : BuildEnvironment Content) (name : String)
    (previous : JsonFields) (volume : Volume Content) : Prop :=
  HasFields environment managedKeys previous
    (volume.file (profilePath name))

theorem managed_untouched : "classPath" ∉ managedKeys := by
  decide

theorem carried_of_key {key : String}
    (member : key ∈ carriedFields.map Prod.fst) :
    ∃ field ∈ carriedFields, field.1 = key :=
  List.mem_map.mp member

theorem uncarried_notMem :
    ∀ key ∈ uncarriedKeys, key ∉ carriedFields.map Prod.fst := by
  decide

theorem merged_managed_iff
    {environment : BuildEnvironment Content}
    {previous built generated : JsonFields}
    (agree : ∀ key ∈ managedKeys,
      getField key generated = getField key built) :
    (∀ key ∈ managedKeys, getField key (mergeMetadata
        (fieldsInMemory (captured environment previous)) generated) =
          getField key previous) ↔
      MetadataKept environment previous built := by
  have uncarried : ∀ key ∈ uncarriedKeys, getField key (mergeMetadata
      (fieldsInMemory (captured environment previous)) generated) =
        getField key built := by
    intro key member
    rw [getField_mergeMetadata_of_notMem (uncarried_notMem key member),
      agree key (List.mem_append_right _ member)]
  have carried : ∀ field ∈ carriedFields,
      getField field.1 generated = getField field.1 built :=
    fun field member =>
      agree field.1 (List.mem_append_left _ (List.mem_map_of_mem member))
  constructor
  · intro same
    refine ⟨fun field member => ?_, fun key member => ?_⟩
    · have managed : field.1 ∈ managedKeys :=
        List.mem_append_left _ (List.mem_map_of_mem member)
      exact (merged_eq_iff member (carried field member)).mp
        (same field.1 managed)
    · rw [← uncarried key member]
      exact same key (List.mem_append_right _ member)
  · intro kept key member
    rcases List.mem_append.mp member with listed | other
    · obtain ⟨field, present, rfl⟩ := carried_of_key listed
      exact (merged_eq_iff present (carried field present)).mpr
        (kept.carried field present)
    · rw [uncarried key other]
      exact kept.others key other

/-- A build that ends normally leaves the managed metadata as it was exactly
when each carried field is carried over and the builder wrote the others as
they were. -/
theorem rebuilt_metadata_iff
    {environment : BuildEnvironment Content} {input : ClientBuildInput}
    {volume final : Volume Content} {previous built : JsonFields}
    {result : ClientBuildResult}
    (documented : DocumentedBuild environment input.name)
    (existing : (volume.file (profilePath input.name)).bind
      environment.parse = some (.object previous))
    (written : environment.builder.profile.bind environment.parse =
      some (.object built))
    (ended : buildClient environment input volume = (.ok result, final)) :
    SameMetadata environment input.name previous final ↔
      MetadataKept environment previous built := by
  obtain ⟨inMemory, begun, started, finished⟩ := bind_eq_ok.mp ended
  obtain ⟨-, rfl⟩ := prepareBuild_ok documented existing started
  obtain ⟨generated, reached, ran, finished⟩ := bind_eq_ok.mp finished
  obtain ⟨other, verified, -⟩ := verifyBuild_ok.mp ⟨reached, ran⟩
  have same := object_unique written verified.done.profile
  subst same
  obtain ⟨agree, before⟩ :=
    @hasFields_verified _ environment input begun reached managedKeys
      previous documented built generated verified ran managed_untouched
  obtain ⟨_, merged, published, finished⟩ := bind_eq_ok.mp finished
  obtain ⟨-, rfl⟩ := publishMetadata_ok.mp published
  have kept := (@keeps_concludeBuild _ environment input input.name
    (fun content => HasFields environment managedKeys previous content ↔
      MetadataKept environment previous built) documented
        generated).reached
    ((hasFields_afterMerge documented before).trans
      (merged_managed_iff agree))
  rw [finished] at kept
  exact kept

def sampleBuild : ClientBuildInput where
  name := "main"
  minecraftVersion := "1.21.4"
  loader := .fabric
  loaderVersion := none
  mods := []

/-- A profile whose Java version the panel has set. -/
def sampleProfile : JsonFields :=
  [("uuid", .string "65f6ac32-f8d2-4c63-8ebb-733e50d613d5"),
    ("title", .string "Survival"), ("info", .string "Our server"),
    ("sortIndex", .number 3), ("servers", .array []),
    ("recommendJavaVersion", .number 21), ("minJavaVersion", .number 17),
    ("maxJavaVersion", .number 999)]

/-- What the builder writes for a recommended Java version. -/
def sampleBuilt (recommended : Rat) : JsonFields :=
  [("uuid", .string "0b7b1a0e-7d33-4b8e-9a55-1f4c2b6a7d10"),
    ("title", .string "main"), ("info", .string ""),
    ("sortIndex", .number 0), ("servers", .array []),
    ("recommendJavaVersion", .number recommended),
    ("minJavaVersion", .number 17), ("maxJavaVersion", .number 999),
    ("assetDir", .string "assets"), ("assetIndex", .string "17")]

/-- Nothing fails, and files are kept as the values that they hold. -/
def sampleEnvironment (recommended : Rat) : BuildEnvironment Json where
  parse := some
  stringify := id
  decode := fun content => content.string?.getD ""
  encode := .string
  inferProfileLoaderVersion := fun _ => none
  faults := fun _ => none
  sync := fun _ => ⟨.ok ["Synced"], id⟩
  configure := ⟨.ok [], id⟩
  download := .error "no installer is needed"
  builder := ⟨.ok ["Completed"], some (.object (sampleBuilt recommended)),
    some [], id⟩
  assets := ⟨[], .ok (.object [])⟩

def sampleVolume : Volume Json where
  file := fun path =>
    if path = "profiles/main.json" then some (.object sampleProfile)
    else if path =
        "config/MirrorHelper/workspace/authlib/LauncherAuthlib6.jar" then
      some (.string "")
    else none
  directory := fun _ => none

theorem sampleEnvironment_documented (recommended : Rat) :
    DocumentedBuild (sampleEnvironment recommended) sampleBuild.name where
  parsed := fun _ => rfl
  synced := fun _ _ => rfl
  configured := fun _ => rfl

theorem sampleBuild_ok (recommended : Rat) :
    (buildClient (sampleEnvironment recommended) sampleBuild
      sampleVolume).1 = .ok (buildResult (sampleEnvironment recommended)
        sampleBuild (sampleBuilt recommended)) := by
  rfl

/-- A builder that writes the Java versions as they were keeps the metadata. -/
theorem rebuilt_metadata_sample :
    SameMetadata (sampleEnvironment 21) "main" sampleProfile
        (buildClient (sampleEnvironment 21) sampleBuild sampleVolume).2 ↔
      MetadataKept (sampleEnvironment 21) sampleProfile (sampleBuilt 21) :=
  rebuilt_metadata_iff (sampleEnvironment_documented 21) rfl rfl
    (Prod.ext (sampleBuild_ok 21) rfl)

/-- The Java version that the panel had set is lost. -/
theorem rebuilt_java_version_lost :
    ¬ ∀ (environment : BuildEnvironment Json) (input : ClientBuildInput)
      (volume final : Volume Json) (previous : JsonFields)
      (result : ClientBuildResult),
      DocumentedBuild environment input.name →
        (volume.file (profilePath input.name)).bind environment.parse =
          some (.object previous) →
        buildClient environment input volume = (.ok result, final) →
          SameMetadata environment input.name previous final := by
  intro claimed
  obtain ⟨fields, shape, agree⟩ :=
    claimed (sampleEnvironment 17) sampleBuild sampleVolume
      (buildClient (sampleEnvironment 17) sampleBuild sampleVolume).2
      sampleProfile _ (sampleEnvironment_documented 17) rfl
      (Prod.ext (sampleBuild_ok 17) rfl)
  have written :
      ((buildClient (sampleEnvironment 17) sampleBuild sampleVolume).2.file
        (profilePath sampleBuild.name)) = some (.object
          (mergeMetadata sampleProfile (sampleBuilt 17))) := by
    rfl
  have version := agree "recommendJavaVersion" (by decide)
  rw [written] at shape
  cases shape
  have number : Json.number 17 = Json.number 21 :=
    Option.some.inj version
  exact absurd (Json.number.inj number) (by decide)

end GravitPanel.Clients
