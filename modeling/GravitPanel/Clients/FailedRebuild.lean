import GravitPanel.Clients.RebuiltMetadata

/-!
# A rebuild that fails

From the start of the external builder on, the previous metadata is in memory
only.  A build that throws then leaves the metadata in the profile file exactly
when the builder wrote it there or the merged profile was published.
-/

namespace GravitPanel.Clients

open Program Volume Json

variable {Content : Type}

/-- The fields that a rebuild carries over. -/
def identityKeys : List String :=
  carriedFields.map Prod.fst

/-- A reload with this progress does not fail. -/
structure ReloadPassed
    (environment : BuildEnvironment Content) (progress : Nat) : Prop where
  started : environment.faults (.reload progress .started) = none
  updatesCache : environment.faults (.reload progress .updatesCache) = none
  invalidated : environment.faults (.reload progress .invalidated) = none
  answered : ∃ lines, (environment.sync progress).answer = .ok lines ∧
    ∀ index < lines.length,
      environment.faults (.reload progress (.line index)) = none
  reloaded : environment.faults (.reload progress .reloaded) = none

/-- The reload of the published profile and the last progress succeed. -/
structure BuildConcluded (environment : BuildEnvironment Content) :
    Prop extends ReloadPassed environment 90 where
  verified : environment.faults .verified = none

def WritesMetadata (environment : BuildEnvironment Content)
    (previous : JsonFields) : Prop :=
  preservesMetadata (fieldsInMemory (captured environment previous)) = true

/-- The builder wrote the previous metadata itself, or the merged profile is
written and then has it or nothing fails any more. -/
def SurvivesFailure (environment : BuildEnvironment Content)
    (input : ClientBuildInput) (start : Volume Content)
    (previous : JsonFields) : Prop :=
  HasFields environment identityKeys previous environment.builder.profile ∨
    ∃ built, BuildVerified environment input start built ∧
      (WritesMetadata environment previous →
        environment.faults .metadataWrite = none) ∧
      ((∀ field ∈ carriedFields,
          CarriedOver environment previous built field) ∨
        (WritesMetadata environment previous →
          environment.faults .metadataPreserved = none) ∧
        BuildConcluded environment)

section Failure

variable {environment : BuildEnvironment Content} {input : ClientBuildInput}
variable {start final : Volume Content} {previous : JsonFields}

theorem reload_ok {progress : Nat} :
    (∃ reached, reloadProfilesAndUpdates environment progress start =
        (.ok (), reached)) ↔ ReloadPassed environment progress := by
  constructor
  · rintro ⟨reached, run⟩
    rw [reloadProfilesAndUpdates, pass_bind_eq_ok] at run
    obtain ⟨started, run⟩ := run
    rw [removeFile, update_bind_eq_ok] at run
    obtain ⟨updatesCache, run⟩ := run
    obtain ⟨invalidated, run⟩ := pass_bind_eq_ok.mp run
    obtain ⟨lines, _, command, run⟩ := bind_eq_ok.mp run
    obtain ⟨_, _, -, answer⟩ := bind_eq_ok.mp command
    rw [lift_apply, Prod.mk.injEq] at answer
    obtain ⟨logged, run⟩ := logLines_bind_eq_ok.mp run
    exact ⟨started, updatesCache, invalidated, ⟨lines, answer.1, logged⟩,
      (pass_eq_ok.mp run).1⟩
  · rintro ⟨started, updatesCache, invalidated, ⟨lines, answer, logged⟩,
      reloaded⟩
    let cleared := start.setFile ".updates-cache" none
    let synced := (environment.sync progress).change cleared
    have command : runCommand (environment.sync progress) cleared =
        (.ok lines, synced) := by
      refine bind_eq_ok.mpr ⟨⟨⟩, synced, rfl, ?_⟩
      rw [lift_apply, answer]
    refine ⟨synced, ?_⟩
    rw [reloadProfilesAndUpdates]
    refine pass_bind_eq_ok.mpr ⟨started, ?_⟩
    rw [removeFile]
    refine update_bind_eq_ok.mpr ⟨updatesCache, ?_⟩
    refine pass_bind_eq_ok.mpr ⟨invalidated, ?_⟩
    refine bind_eq_ok.mpr ⟨lines, synced, command, ?_⟩
    refine logLines_bind_eq_ok.mpr ⟨logged, ?_⟩
    exact pass_eq_ok.mpr ⟨reloaded, rfl⟩

theorem concludeBuild_ok {generated : JsonFields} :
    (∃ result reached, concludeBuild environment input generated start =
        (.ok result, reached)) ↔ BuildConcluded environment := by
  constructor
  · rintro ⟨result, reached, run⟩
    rw [concludeBuild] at run
    obtain ⟨_, synced, reload, run⟩ := bind_eq_ok.mp run
    have passed := reload_ok.mp ⟨synced, reload⟩
    exact ⟨passed, (pass_bind_eq_ok.mp run).1⟩
  · rintro ⟨passed, verified⟩
    obtain ⟨synced, reload⟩ := (@reload_ok _ environment start 90).mpr passed
    refine ⟨buildResult environment input generated, synced, ?_⟩
    rw [concludeBuild]
    refine bind_eq_ok.mpr ⟨⟨⟩, synced, reload, ?_⟩
    exact pass_bind_eq_ok.mpr ⟨verified, rfl⟩

theorem publishMetadata_written
    {inMemory : Option Json} {generated : JsonFields}
    (written : preservesMetadata (fieldsInMemory inMemory) →
      environment.faults .metadataWrite = none) :
    (publishMetadata environment input inMemory generated start).2 =
      afterMerge environment input (fieldsInMemory inMemory) generated
        start := by
  by_cases preserves : preservesMetadata (fieldsInMemory inMemory) = true
  · have run : publishMetadata environment input inMemory generated =
        (writeProfile environment input .metadataWrite
          (mergeMetadata (fieldsInMemory inMemory) generated) >>= fun _ =>
            pass environment.faults .metadataPreserved) := if_pos preserves
    have write : writeProfile environment input .metadataWrite
        (mergeMetadata (fieldsInMemory inMemory) generated) start =
          (.ok ⟨⟩, start.setFile (profilePath input.name)
            (some (environment.stringify (.object
              (mergeMetadata (fieldsInMemory inMemory) generated))))) := by
      rw [writeProfile, writeFileAtomic]
      exact pass_bind_eq_ok.mpr ⟨written preserves, rfl⟩
    rw [run, bind_of_ok write, afterMerge, if_pos preserves]
    rfl
  · have run : publishMetadata environment input inMemory generated =
        pure ⟨⟩ := if_neg preserves
    rw [run, afterMerge, if_neg preserves]
    rfl

/-- The previous metadata is in the profile file. -/
def CarriesIdentity (environment : BuildEnvironment Content) (name : String)
    (previous : JsonFields) (volume : Volume Content) : Prop :=
  HasFields environment identityKeys previous
    (volume.file (profilePath name))

theorem identity_untouched : "classPath" ∉ identityKeys := by
  decide

theorem merged_identity_iff
    {built generated : JsonFields}
    (agree : ∀ key ∈ identityKeys,
      getField key generated = getField key built) :
    (∀ key ∈ identityKeys, getField key (mergeMetadata
        (fieldsInMemory (captured environment previous)) generated) =
          getField key previous) ↔
      ∀ field ∈ carriedFields,
        CarriedOver environment previous built field := by
  unfold identityKeys at agree ⊢
  rw [List.forall_mem_map] at agree ⊢
  exact forall₂_congr fun field member =>
    merged_eq_iff member (agree field member)

/-- Where the checks pass and the merged profile is written, the file has the
merged fields, however the build ends. -/
theorem finishBuild_written
    (documented : DocumentedBuild environment input.name)
    {built generated : JsonFields}
    (verified : BuildVerified environment input start built)
    (ran : verifyBuild environment input start = (.ok generated, final))
    (written : WritesMetadata environment previous →
      environment.faults .metadataWrite = none) :
    CarriesIdentity environment input.name previous
        (finishBuild environment input (captured environment previous)
          start).2 ↔
      ∀ field ∈ carriedFields,
        CarriedOver environment previous built field := by
  obtain ⟨agree, before⟩ :=
    @hasFields_verified _ environment input start final identityKeys
      previous documented built generated verified ran identity_untouched
  have merged := (hasFields_afterMerge documented before).trans
    (@merged_identity_iff _ environment previous built generated agree)
  have published := @publishMetadata_written _ environment input final
    (captured environment previous) generated written
  have concluded := @keeps_concludeBuild _ environment input input.name
    (fun content => HasFields environment identityKeys previous content ↔
      ∀ field ∈ carriedFields,
        CarriedOver environment previous built field) documented generated
  rw [finishBuild, bind_of_ok ran, bind_apply]
  rcases run : publishMetadata environment input
    (captured environment previous) generated final with
    ⟨problem | value, reached⟩
  · rw [run] at published
    cases published
    exact merged
  · rw [run] at published
    cases published
    exact concluded.reached merged

theorem finishBuild_ends
    {generated : JsonFields}
    (ran : verifyBuild environment input start = (.ok generated, final))
    (written : WritesMetadata environment previous →
      environment.faults .metadataWrite = none) :
    (∃ result reached, finishBuild environment input
        (captured environment previous) start = (.ok result, reached)) ↔
      (WritesMetadata environment previous →
          environment.faults .metadataPreserved = none) ∧
        BuildConcluded environment := by
  rw [finishBuild, bind_of_ok ran]
  constructor
  · rintro ⟨result, reached, run⟩
    obtain ⟨_, merged, published, run⟩ := bind_eq_ok.mp run
    obtain ⟨passed, -⟩ := publishMetadata_ok.mp published
    exact ⟨fun writes => (passed writes).2,
      concludeBuild_ok.mp ⟨result, reached, run⟩⟩
  · rintro ⟨preserved, concluded⟩
    let merged := afterMerge environment input
      (fieldsInMemory (captured environment previous)) generated final
    obtain ⟨result, reached, run⟩ :=
      (@concludeBuild_ok _ environment input merged generated).mpr concluded
    refine ⟨result, reached, bind_eq_ok.mpr ⟨⟨⟩, merged, ?_, run⟩⟩
    exact publishMetadata_ok.mpr
      ⟨fun writes => ⟨written writes, preserved writes⟩, rfl⟩

theorem finishBuild_unwritten
    {generated : JsonFields}
    (ran : verifyBuild environment input start = (.ok generated, final))
    (writes : WritesMetadata environment previous) {problem : String}
    (fault : environment.faults .metadataWrite = some problem) :
    finishBuild environment input (captured environment previous) start =
      (.error problem, final) := by
  have run : publishMetadata environment input
      (captured environment previous) generated =
      (writeProfile environment input .metadataWrite
        (mergeMetadata (fieldsInMemory (captured environment previous))
          generated) >>= fun _ =>
          pass environment.faults .metadataPreserved) := if_pos writes
  have fails : publishMetadata environment input
      (captured environment previous) generated final =
        (.error problem, final) := by
    rw [run, writeProfile, writeFileAtomic, bind_bind]
    exact bind_of_error (pass_of_fault fault final) _
  rw [finishBuild, bind_of_ok ran]
  exact bind_of_error fails _

theorem builderCarries_iff
    {built : JsonFields}
    (verified : BuildVerified environment input start built) :
    HasFields environment identityKeys previous
        environment.builder.profile ↔
      ∀ field ∈ carriedFields,
        getField field.1 built = getField field.1 previous := by
  rw [hasFields_object verified.done.profile, identityKeys,
    List.forall_mem_map]

/-- From the start of the builder on, a build that throws leaves the previous
metadata in the file exactly when it survives. -/
theorem finishBuild_survives_iff
    (documented : DocumentedBuild environment input.name) :
    (∀ problem, (finishBuild environment input
        (captured environment previous) start).1 = .error problem →
      CarriesIdentity environment input.name previous
        (finishBuild environment input (captured environment previous)
          start).2) ↔
      SurvivesFailure environment input start previous := by
  have checked := @verifyBuild_reached _ environment input start
    identityKeys previous documented identity_untouched
  rcases ran : verifyBuild environment input start with
    ⟨problem | generated, reached⟩
  · -- the checks fail, so the file is as the builder wrote it
    have run : finishBuild environment input
        (captured environment previous) start = (.error problem, reached) :=
      bind_of_error ran _
    have unverified : ¬ ∃ built,
        BuildVerified environment input start built := by
      rintro ⟨built, verified⟩
      obtain ⟨_, ended⟩ := verifyBuild_ok.mpr ⟨built, verified, rfl⟩
      rw [ran] at ended
      cases ended
    rw [ran] at checked
    rw [run]
    constructor
    · exact fun kept => .inl (checked.mp (kept problem rfl))
    · rintro (builder | ⟨built, verified, -⟩) _ _
      · exact checked.mpr builder
      · exact absurd ⟨built, verified⟩ unverified
  · obtain ⟨built, verified, -⟩ := verifyBuild_ok.mp ⟨reached, ran⟩
    rw [ran] at checked
    by_cases written : WritesMetadata environment previous →
        environment.faults .metadataWrite = none
    · have file := @finishBuild_written _ environment input start reached
        previous documented built generated verified ran written
      have ends := @finishBuild_ends _ environment input start reached
        previous generated ran written
      constructor
      · intro kept
        refine .inr ⟨built, verified, written, ?_⟩
        by_cases passed : (WritesMetadata environment previous →
            environment.faults .metadataPreserved = none) ∧
              BuildConcluded environment
        · exact .inr passed
        · rcases run : finishBuild environment input
            (captured environment previous) start with
            ⟨problem | result, last⟩
          · refine .inl (file.mp (kept problem ?_))
            rw [run]
          · exact absurd (ends.mp ⟨result, last, run⟩) passed
      · rintro (builder | ⟨other, alsoVerified, -, carried | passed⟩)
          problem failed
        · have wrote := (builderCarries_iff verified).mp builder
          exact file.mpr fun field member => .inr (wrote field member)
        · have same := object_unique verified.done.profile
            alsoVerified.done.profile
          subst same
          exact file.mpr carried
        · obtain ⟨result, last, run⟩ := ends.mpr passed
          rw [run] at failed
          cases failed
    · obtain ⟨writes, unwritten⟩ := Classical.not_imp.mp written
      obtain ⟨problem, fault⟩ := Option.ne_none_iff_exists'.mp unwritten
      have run := finishBuild_unwritten ran writes fault
      rw [run]
      constructor
      · exact fun kept => .inl (checked.mp (kept problem rfl))
      · rintro (builder | ⟨_, -, wrote, -⟩) _ _
        · exact checked.mpr builder
        · exact absurd (wrote writes) unwritten

end Failure

/-- A build that throws after the builder has started leaves the previous
metadata in the profile file exactly when the metadata survives a failure. -/
theorem failed_rebuild_iff
    {environment : BuildEnvironment Content} {input : ClientBuildInput}
    {volume reached : Volume Content} {previous : JsonFields}
    {inMemory : Option Json}
    (documented : DocumentedBuild environment input.name)
    (existing : (volume.file (profilePath input.name)).bind
      environment.parse = some (.object previous))
    (started : prepareBuild environment input volume =
      (.ok inMemory, reached)) :
    (∀ problem,
      (buildClient environment input volume).1 = .error problem →
        CarriesIdentity environment input.name previous
          (buildClient environment input volume).2) ↔
      SurvivesFailure environment input reached previous := by
  obtain ⟨-, rfl⟩ := prepareBuild_ok documented existing started
  have run : buildClient environment input volume =
      finishBuild environment input (captured environment previous)
        reached := bind_of_ok started _
  rw [run]
  exact finishBuild_survives_iff documented

/-- A build whose asset index cannot be downloaded. -/
def failingEnvironment : BuildEnvironment Json :=
  { sampleEnvironment 17 with
    assets := ⟨[], .error "Minecraft asset index does not contain objects"⟩ }

theorem failingEnvironment_documented :
    DocumentedBuild failingEnvironment sampleBuild.name where
  parsed := fun _ => rfl
  synced := fun _ _ => rfl
  configured := fun _ => rfl

theorem failingBuild_started :
    prepareBuild failingEnvironment sampleBuild sampleVolume =
      (.ok (captured failingEnvironment sampleProfile),
        (prepareBuild failingEnvironment sampleBuild sampleVolume).2) :=
  Prod.ext rfl rfl

theorem failed_rebuild_sample :
    (∀ problem,
      (buildClient failingEnvironment sampleBuild sampleVolume).1 =
          .error problem →
        CarriesIdentity failingEnvironment "main" sampleProfile
          (buildClient failingEnvironment sampleBuild sampleVolume).2) ↔
      SurvivesFailure failingEnvironment sampleBuild
        (prepareBuild failingEnvironment sampleBuild sampleVolume).2
          sampleProfile :=
  failed_rebuild_iff failingEnvironment_documented rfl
    failingBuild_started

/-- The download of the assets fails after the builder has replaced the
profile, and its title is lost. -/
theorem failed_rebuild_loses_title :
    ¬ ∀ (environment : BuildEnvironment Json) (input : ClientBuildInput)
      (volume reached : Volume Json) (previous : JsonFields)
      (inMemory : Option Json),
      DocumentedBuild environment input.name →
        (volume.file (profilePath input.name)).bind environment.parse =
          some (.object previous) →
        prepareBuild environment input volume = (.ok inMemory, reached) →
        ∀ problem,
          (buildClient environment input volume).1 = .error problem →
            CarriesIdentity environment input.name previous
              (buildClient environment input volume).2 := by
  intro claimed
  have failed : (buildClient failingEnvironment sampleBuild
      sampleVolume).1 =
        .error "Minecraft asset index does not contain objects" := by
    rfl
  obtain ⟨fields, shape, agree⟩ :=
    claimed failingEnvironment sampleBuild sampleVolume _ sampleProfile _
      failingEnvironment_documented rfl failingBuild_started _ failed
  have written : (buildClient failingEnvironment sampleBuild
      sampleVolume).2.file (profilePath sampleBuild.name) =
        some (.object (sampleBuilt 17)) := by
    rfl
  have title := agree "title" (by decide)
  rw [written] at shape
  cases shape
  have text : Json.string "main" = Json.string "Survival" :=
    Option.some.inj title
  exact absurd (Json.string.inj text) (by decide)

end GravitPanel.Clients
