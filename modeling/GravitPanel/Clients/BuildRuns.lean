import GravitPanel.Clients.BuildClient

/-!
# Runs of a build

What the parts of `buildClient` do to the profile file, and when the build that
the external builder began passes all checks.
-/

namespace GravitPanel.Clients

open Program Volume Json
open Servers (MinecraftLoader)

variable {Content : Type}

/-- What is documented of the commands of the LaunchServer and of JSON: what is
written as JSON is read back, and the commands other than the builder leave the
profile alone. -/
structure DocumentedBuild
    (environment : BuildEnvironment Content) (name : String) : Prop where
  parsed : ∀ profile,
    environment.parse (environment.stringify profile) = some profile
  synced : ∀ progress volume,
    ((environment.sync progress).change volume).file (profilePath name) =
      volume.file (profilePath name)
  configured : ∀ volume,
    (environment.configure.change volume).file (profilePath name) =
      volume.file (profilePath name)

theorem profilePath_ne
    {name other : String} (start : other.toList.head? ≠ some 'p') :
    profilePath name ≠ other := by
  rintro rfl
  apply start
  simp [profilePath, String.toList_append]

theorem head_workspace (rest : String) :
    (workspacePath ++ rest).toList.head? ≠ some 'p' := by
  simp [workspacePath, String.toList_append]

theorem head_updates (rest : String) :
    ("updates/" ++ rest).toList.head? ≠ some 'p' := by
  simp [String.toList_append]

theorem profilePath_ne_installer
    (name suffix : String) (input : ClientBuildInput) :
    profilePath name ≠ installerPath input suffix := by
  apply profilePath_ne
  simp only [installerPath, String.append_assoc]
  exact head_workspace _

theorem profilePath_ne_marker (name : String) (input : ClientBuildInput) :
    profilePath name ≠ versionMarkerPath input := by
  apply profilePath_ne
  simp only [versionMarkerPath, String.append_assoc]
  exact head_workspace _

theorem profilePath_ne_index (name assetDir assetIndex : String) :
    profilePath name ≠ indexPath assetDir assetIndex := by
  apply profilePath_ne
  simp only [indexPath, String.append_assoc]
  exact head_updates _

theorem profilePath_ne_object (name assetDir hash : String) :
    profilePath name ≠ objectPath assetDir hash := by
  apply profilePath_ne
  simp only [objectPath, assetRoot, String.append_assoc]
  exact head_updates _

section Preparation

variable {environment : BuildEnvironment Content} {input : ClientBuildInput}
variable {name : String} {holds : Option Content → Prop}
variable {invariant : Volume Content → Prop}

theorem keeps_runCommand
    {command : ControlCommand Content}
    (kept : ∀ volume, invariant volume → invariant (command.change volume)) :
    Keeps invariant (runCommand command) :=
  (keeps_update kept).bind fun _ => keeps_lift _

theorem keeps_reload (documented : DocumentedBuild environment name)
    (progress : Nat) :
    Keeps (OfFile (profilePath name) holds)
      (reloadProfilesAndUpdates environment progress) := by
  have synced : ∀ volume, OfFile (profilePath name) holds volume →
      OfFile (profilePath name) holds
        ((environment.sync progress).change volume) := by
    intro volume before
    rw [OfFile, documented.synced]
    exact before
  have cache : profilePath name ≠ ".updates-cache" :=
    profilePath_ne (by decide)
  unfold reloadProfilesAndUpdates
  refine (keeps_pass _).bind fun _ => ?_
  refine (keeps_removeFile cache _).bind fun _ => ?_
  refine (keeps_pass _).bind fun _ => ?_
  refine (keeps_runCommand synced).bind fun _ => ?_
  exact (keeps_passAll _).bind fun _ => keeps_pass _

theorem keeps_previousProfile :
    Keeps invariant (previousProfile environment input) := by
  unfold previousProfile
  refine (keeps_existsFile _ _).bind fun present => ?_
  cases present with
  | false => exact keeps_pure _
  | true =>
      refine Keeps.handle ?_ ?_
      · unfold readPrevious
        exact (keeps_readFile _ _).bind fun _ => keeps_lift _
      · exact fun _ => (keeps_pass _).bind fun _ => keeps_pure _

theorem keeps_preparePreviousAssets
    (documented : DocumentedBuild environment name) (previous : Option Json) :
    Keeps (OfFile (profilePath name) holds)
      (preparePreviousAssets environment previous) := by
  unfold preparePreviousAssets
  split
  · exact keeps_pure _
  · refine (keeps_existsFile _ _).bind fun present => ?_
    cases present with
    | false => exact keeps_pure _
    | true => exact (keeps_pass _).bind fun _ => keeps_reload documented _

theorem keeps_cachedVersion :
    Keeps invariant (cachedVersion environment input) := by
  unfold cachedVersion
  split
  · exact keeps_pure _
  · refine (keeps_existsFile _ _).bind fun present => ?_
    cases present with
    | false => exact keeps_pure _
    | true => exact (keeps_readFile _ _).bind fun _ => keeps_pure _

theorem keeps_downloadInstaller :
    Keeps (OfFile (profilePath name) holds)
      (downloadInstaller environment input) := by
  have store : Keeps (OfFile (profilePath name) holds)
      (storeInstaller environment input) := by
    unfold storeInstaller
    refine Keeps.lift_bind fun artifact => ?_
    refine Keeps.lift_bind fun _ => ?_
    have apart : profilePath name ≠
        workspacePath ++ "/installers/" ++ artifact.filename := by
      apply profilePath_ne
      rw [String.append_assoc]
      exact head_workspace _
    refine (keeps_writeFileAtomic apart _ _).bind fun _ => ?_
    refine (keeps_writeFileAtomic
      (profilePath_ne_marker name input) _ _).bind fun _ => ?_
    exact (keeps_pass _).bind fun _ => keeps_pass _
  unfold downloadInstaller
  refine (keeps_pass _).bind fun _ => ?_
  refine Keeps.handle store fun _ => ?_
  refine Keeps.bind (keeps_update fun volume before => ?_) fun _ =>
    keeps_throw _
  exact ofFile_setFile (profilePath_ne_installer name _ input) _
    (ofFile_setFile (profilePath_ne_installer name _ input) _ before)

theorem keeps_ensureLoaderInstaller :
    Keeps (OfFile (profilePath name) holds)
      (ensureLoaderInstaller environment input) := by
  have replace : Keeps (OfFile (profilePath name) holds)
      (replaceCached environment input) := by
    unfold replaceCached
    refine (keeps_pass _).bind fun _ => ?_
    refine (keeps_removeFile
      (profilePath_ne_installer name _ input) _).bind fun _ => ?_
    refine (keeps_removeFile
      (profilePath_ne_installer name _ input) _).bind fun _ => ?_
    exact keeps_removeDirectory _ _
  unfold ensureLoaderInstaller
  split
  · refine (keeps_existsFile _ _).bind fun _ => ?_
    refine (keeps_existsFile _ _).bind fun _ => ?_
    refine (keeps_existsDirectory _ _).bind fun _ => ?_
    refine keeps_cachedVersion.bind fun _ => ?_
    split
    · split
      · exact keeps_pass _
      · exact replace.bind fun _ => keeps_downloadInstaller
    · exact keeps_downloadInstaller
  · exact keeps_pure _

/-- The profile that the build has in memory when the builder starts. -/
def captured (environment : BuildEnvironment Content)
    (previous : JsonFields) : Option Json :=
  if environment.faults .previousRead = none then some (.object previous)
  else none

theorem previousProfile_ok
    {previous : JsonFields} {volume reached : Volume Content}
    (existing : (volume.file (profilePath input.name)).bind
      environment.parse = some (.object previous))
    {inMemory : Option Json}
    (run : previousProfile environment input volume =
      (.ok inMemory, reached)) :
    inMemory = captured environment previous := by
  obtain ⟨bytes, found, parsed⟩ := Option.bind_eq_some_iff.mp existing
  rw [previousProfile, existsFile_bind_eq_ok, found] at run
  have read := run.2
  rw [Option.isSome_some, if_pos rfl] at read
  cases fault : environment.faults .previousRead with
  | none =>
      have parses : readPrevious environment input volume =
          (.ok (some (.object previous)), volume) := by
        rw [readPrevious, readFile_bind_eq_ok]
        refine ⟨fault, bytes, found, ?_⟩
        rw [lift_apply, parsed]
      rw [handle_of_ok parses] at read
      rw [captured, if_pos fault]
      cases read
      rfl
  | some problem =>
      have fails : readPrevious environment input volume =
          (.error problem, volume) := by
        rw [readPrevious, readFile, bind_bind]
        exact bind_of_error (pass_of_fault fault volume) _
      rw [handle_of_error fails, pass_bind_eq_ok] at read
      have absent : environment.faults .previousRead ≠ none := by
        rw [fault]
        exact Option.some_ne_none problem
      rw [captured, if_neg absent]
      cases read.2
      rfl

theorem keeps_prepareBuild
    (documented : DocumentedBuild environment name) :
    Keeps (OfFile (profilePath name) holds)
      (prepareBuild environment input) := by
  have configured : ∀ volume, OfFile (profilePath name) holds volume →
      OfFile (profilePath name) holds
        (environment.configure.change volume) := by
    intro volume before
    rw [OfFile, documented.configured]
    exact before
  unfold prepareBuild
  refine Keeps.lift_bind fun _ => ?_
  refine (keeps_existsFile _ _).bind fun _ => ?_
  refine Keeps.lift_bind fun _ => ?_
  refine (keeps_pass _).bind fun _ => ?_
  refine keeps_previousProfile.bind fun previous => ?_
  refine (keeps_preparePreviousAssets documented _).bind fun _ => ?_
  refine (keeps_pass _).bind fun _ => ?_
  refine (keeps_runCommand configured).bind fun _ => ?_
  refine (keeps_passAll _).bind fun _ => ?_
  refine keeps_ensureLoaderInstaller.bind fun _ => ?_
  exact (keeps_pass _).bind fun _ => keeps_pure _

theorem prepareBuild_ok
    (documented : DocumentedBuild environment input.name)
    {previous : JsonFields} {volume reached : Volume Content}
    (existing : (volume.file (profilePath input.name)).bind
      environment.parse = some (.object previous))
    {inMemory : Option Json}
    (started : prepareBuild environment input volume =
      (.ok inMemory, reached)) :
    reached.file (profilePath input.name) =
        volume.file (profilePath input.name) ∧
      inMemory = captured environment previous := by
  constructor
  · have frame := @keeps_prepareBuild _ environment input input.name
      (· = volume.file (profilePath input.name)) documented
    have kept := @Keeps.reached _ _ _ _ _ volume frame rfl
    rw [started] at kept
    exact kept
  · rw [prepareBuild, lift_bind_eq_ok] at started
    obtain ⟨authlib, -, started⟩ := started
    rw [existsFile_bind_eq_ok, lift_bind_eq_ok] at started
    obtain ⟨-, _, -, started⟩ := started
    rw [pass_bind_eq_ok, bind_eq_ok] at started
    obtain ⟨-, captured, _, run, started⟩ := started
    have same := previousProfile_ok existing run
    obtain ⟨_, _, -, started⟩ := bind_eq_ok.mp started
    obtain ⟨-, started⟩ := pass_bind_eq_ok.mp started
    obtain ⟨_, _, -, started⟩ := bind_eq_ok.mp started
    obtain ⟨-, started⟩ := passAll_bind_eq_ok.mp started
    obtain ⟨_, _, -, started⟩ := bind_eq_ok.mp started
    obtain ⟨-, started⟩ := pass_bind_eq_ok.mp started
    cases started
    exact same

end Preparation

section Verification

variable {environment : BuildEnvironment Content} {input : ClientBuildInput}
variable {start final : Volume Content}

theorem demand_eq_ok {condition : Bool} {problem : String} {value : Unit} :
    demand condition problem = .ok value ↔ condition = true := by
  cases condition <;> simp [demand]

theorem logLines_bind_eq_ok
    {Result : Type} {result : Result} {point : Nat → BuildPoint}
    {lines : List String}
    {next : Unit → Program (Volume Content) String Result} :
    (logLines environment point lines >>= next) start =
        (.ok result, final) ↔
      (∀ index < lines.length, environment.faults (point index) = none) ∧
        next () start = (.ok result, final) :=
  passEach_bind_eq_ok

structure AssetsDownloaded (environment : BuildEnvironment Content) : Prop where
  directory : environment.faults .assetDirectory = none
  started : environment.faults .assetsStarted = none
  index : ∃ index, environment.assets.index = .ok index
  ready : environment.faults .assetsReady = none

/-- The index of these assets is there or can be downloaded. -/
structure AssetsVerified
    (environment : BuildEnvironment Content) (present : Bool) : Prop where
  inspected : environment.faults .indexExists = none
  produced : present ∨ AssetsDownloaded environment
  found : environment.faults .indexPresent = none
  verified : environment.faults .indexVerified = none

theorem assetSegment_pattern
    {key value : String} {profile : JsonFields}
    (segment : assetSegment key profile = some value) :
    assetPathSegmentPattern value := by
  rw [assetSegment, Option.filter_eq_some_iff] at segment
  exact segment.2

variable {assets : String × String}

theorem profileAssets_pattern
    {profile : JsonFields}
    (found : profileAssets profile = some assets) :
    assetPathSegmentPattern assets.1 ∧ assetPathSegmentPattern assets.2 := by
  rw [profileAssets] at found
  split at found
  next assetDir assetIndex directory index =>
    cases found
    exact ⟨assetSegment_pattern directory, assetSegment_pattern index⟩
  · cases found

theorem syncAssets_ok
    {present : Bool}
    (directory : assetPathSegmentPattern assets.1)
    (name : assetPathSegmentPattern assets.2) :
    (∃ reached, syncAssets environment present assets start =
        (.ok (), reached)) ↔
      present ∨ AssetsDownloaded environment := by
  cases present with
  | true => exact ⟨fun _ => .inl rfl, fun _ => ⟨start, rfl⟩⟩
  | false =>
      have refused : ¬ false = true := Bool.false_ne_true
      rw [syncAssets, if_neg refused]
      constructor
      · rintro ⟨reached, run⟩
        rw [pass_bind_eq_ok, ensureAssets, lift_bind_eq_ok] at run
        obtain ⟨prepared, _, -, run⟩ := run
        rw [pass_bind_eq_ok] at run
        obtain ⟨begun, run⟩ := run
        obtain ⟨_, _, -, run⟩ := bind_eq_ok.mp run
        obtain ⟨bytes, downloaded, run⟩ := lift_bind_eq_ok.mp run
        obtain ⟨_, _, -, run⟩ := bind_eq_ok.mp run
        exact .inr ⟨prepared, begun, ⟨bytes, downloaded⟩,
          (pass_eq_ok.mp run).1⟩
      · rintro (absurdity | downloaded)
        · cases absurdity
        obtain ⟨prepared, begun, ⟨bytes, index⟩, ready⟩ := downloaded
        have safe : (assetPathSegmentPattern assets.1 &&
            assetPathSegmentPattern assets.2) = true := by
          rw [directory, name]
          rfl
        refine ⟨(writeObjects assets.1 environment.assets.objects
          start).setFile (indexPath assets.1 assets.2) (some bytes),
          pass_bind_eq_ok.mpr ⟨prepared, ?_⟩⟩
        refine lift_bind_eq_ok.mpr ⟨(), demand_eq_ok.mpr safe, ?_⟩
        refine pass_bind_eq_ok.mpr ⟨begun, ?_⟩
        refine bind_eq_ok.mpr ⟨⟨⟩, _, rfl, ?_⟩
        refine lift_bind_eq_ok.mpr ⟨bytes, index, ?_⟩
        exact bind_eq_ok.mpr ⟨⟨⟩, _, rfl, pass_eq_ok.mpr ⟨ready, rfl⟩⟩

theorem index_of_syncAssets
    {present : Bool}
    (there : present =
      (start.file (indexPath assets.1 assets.2)).isSome)
    (run : syncAssets environment present assets start = (.ok (), final)) :
    (final.file (indexPath assets.1 assets.2)).isSome := by
  cases present with
  | true =>
      cases run
      exact there.symm
  | false =>
      rw [syncAssets, if_neg Bool.false_ne_true, pass_bind_eq_ok,
        ensureAssets, lift_bind_eq_ok] at run
      obtain ⟨-, _, -, run⟩ := run
      obtain ⟨-, run⟩ := pass_bind_eq_ok.mp run
      obtain ⟨_, _, -, run⟩ := bind_eq_ok.mp run
      obtain ⟨bytes, -, run⟩ := lift_bind_eq_ok.mp run
      obtain ⟨_, reached, written, run⟩ := bind_eq_ok.mp run
      obtain ⟨-, same⟩ := pass_eq_ok.mp run
      cases written
      rw [← same, file_setFile_self, Option.isSome_some]

theorem requireAssets_ok {profile : JsonFields} :
    (∃ reached, requireAssets environment profile start =
        (.ok (), reached)) ↔
      ∃ assets, profileAssets profile = some assets ∧
        AssetsVerified environment
          (start.file (indexPath assets.1 assets.2)).isSome := by
  cases found : profileAssets profile with
  | none =>
      constructor
      · rintro ⟨reached, run⟩
        rw [requireAssets, found] at run
        cases run
      · rintro ⟨assets, absurdity, _⟩
        cases absurdity
  | some assets =>
      obtain ⟨directory, name⟩ := profileAssets_pattern found
      constructor
      · rintro ⟨reached, run⟩
        rw [requireAssets, found] at run
        obtain ⟨inspected, run⟩ := existsFile_bind_eq_ok.mp run
        obtain ⟨_, synced, sync, run⟩ := bind_eq_ok.mp run
        obtain ⟨located, run⟩ := existsFile_bind_eq_ok.mp run
        obtain ⟨_, -, run⟩ := lift_bind_eq_ok.mp run
        have produced := (syncAssets_ok directory name).mp ⟨synced, sync⟩
        exact ⟨assets, rfl, inspected, produced, located,
          (pass_eq_ok.mp run).1⟩
      · rintro ⟨other, same, inspected, produced, located, verified⟩
        cases same
        obtain ⟨synced, sync⟩ := (syncAssets_ok directory name).mpr produced
        have indexed := index_of_syncAssets rfl sync
        rw [requireAssets, found]
        refine ⟨synced, existsFile_bind_eq_ok.mpr ⟨inspected, ?_⟩⟩
        refine bind_eq_ok.mpr ⟨⟨⟩, synced, sync, ?_⟩
        refine existsFile_bind_eq_ok.mpr ⟨located, ?_⟩
        refine lift_bind_eq_ok.mpr ⟨(), demand_eq_ok.mpr indexed, ?_⟩
        exact pass_eq_ok.mpr ⟨verified, rfl⟩

/-- The builder answered and left a profile and updates that can be read. -/
structure BuilderDone
    (environment : BuildEnvironment Content) (built : JsonFields) :
    Prop where
  answered : ∃ lines, environment.builder.answer = .ok lines ∧
    ∀ index < lines.length, environment.faults (.builderLine index) = none
  profileExists : environment.faults .profileExists = none
  updatesExists : environment.faults .updatesExists = none
  builtExists : environment.faults .builtExists = none
  builtRead : environment.faults .builtRead = none
  updates : environment.builder.updates.isSome
  profile : environment.builder.profile.bind environment.parse =
    some (.object built)

theorem file_change (builder : ClientBuilder Content) (name : String)
    (volume : Volume Content) :
    (builder.change name volume).file (profilePath name) =
      builder.profile :=
  file_setFile_self _ _ _

theorem runBuilder_ok {built : JsonFields} :
    runBuilder environment input start = (.ok built, final) ↔
      BuilderDone environment built ∧
        environment.builder.change input.name start = final := by
  have file := file_change environment.builder input.name start
  have directory : (environment.builder.change input.name start).directory
      (updatesPath input.name) = environment.builder.updates :=
    directory_setDirectory_self _ _ _
  constructor
  · intro run
    rw [runBuilder] at run
    obtain ⟨_, _, changed, run⟩ := bind_eq_ok.mp run
    cases changed
    rw [readBuilt] at run
    obtain ⟨lines, answer, run⟩ := lift_bind_eq_ok.mp run
    obtain ⟨logged, run⟩ := logLines_bind_eq_ok.mp run
    obtain ⟨profileExists, run⟩ := existsFile_bind_eq_ok.mp run
    obtain ⟨updatesExists, run⟩ := existsDirectory_bind_eq_ok.mp run
    obtain ⟨_, both, run⟩ := lift_bind_eq_ok.mp run
    rw [demand_eq_ok, Bool.and_eq_true, directory] at both
    rw [readProfileConfig] at run
    obtain ⟨builtExists, run⟩ := existsFile_bind_eq_ok.mp run
    obtain ⟨_, -, run⟩ := lift_bind_eq_ok.mp run
    obtain ⟨builtRead, bytes, found, run⟩ := readFile_bind_eq_ok.mp run
    rw [file] at found
    rw [lift_apply, Prod.mk.injEq] at run
    have parsed : environment.parse bytes = some (.object built) := by
      have outcome := run.1
      split at outcome
      · cases outcome
      next fields shape =>
        cases outcome
        exact shape
      · cases outcome
    refine ⟨⟨⟨lines, answer, logged⟩, profileExists, updatesExists,
      builtExists, builtRead, both.2, ?_⟩, run.2⟩
    rw [found]
    exact parsed
  · rintro ⟨done, rfl⟩
    obtain ⟨lines, answer, logged⟩ := done.answered
    obtain ⟨bytes, found, parsed⟩ :=
      Option.bind_eq_some_iff.mp done.profile
    have present : ((environment.builder.change input.name start).file
        (profilePath input.name)).isSome = true := by
      rw [file, found]
      rfl
    have both : (((environment.builder.change input.name start).file
        (profilePath input.name)).isSome &&
      ((environment.builder.change input.name start).directory
        (updatesPath input.name)).isSome) = true := by
      rw [present, directory, done.updates]
      rfl
    rw [runBuilder]
    refine bind_eq_ok.mpr ⟨⟨⟩, _, rfl, ?_⟩
    refine lift_bind_eq_ok.mpr ⟨lines, answer, ?_⟩
    refine logLines_bind_eq_ok.mpr ⟨logged, ?_⟩
    refine existsFile_bind_eq_ok.mpr ⟨done.profileExists, ?_⟩
    refine existsDirectory_bind_eq_ok.mpr ⟨done.updatesExists, ?_⟩
    refine lift_bind_eq_ok.mpr ⟨(), demand_eq_ok.mpr both, ?_⟩
    refine existsFile_bind_eq_ok.mpr ⟨done.builtExists, ?_⟩
    refine lift_bind_eq_ok.mpr ⟨(), demand_eq_ok.mpr present, ?_⟩
    refine readFile_bind_eq_ok.mpr ⟨done.builtRead, bytes, ?_, ?_⟩
    · rw [file, found]
    · rw [lift_apply, parsed]

/-- The volume once a profile without installer libraries is written. -/
def afterRemoval (environment : BuildEnvironment Content)
    (input : ClientBuildInput) (removal : JsonFields × Nat)
    (volume : Volume Content) : Volume Content :=
  if removal.2 = 0 then volume
  else volume.setFile (profilePath input.name)
    (some (environment.stringify (.object removal.1)))

theorem publishRemoval_ok {removal : JsonFields × Nat} {value : Unit} :
    publishRemoval environment input removal start = (.ok value, final) ↔
      (removal.2 ≠ 0 → environment.faults .librariesWrite = none ∧
        environment.faults .librariesRemoved = none) ∧
        afterRemoval environment input removal start = final := by
  by_cases none : removal.2 = 0
  · rw [publishRemoval, if_pos none, afterRemoval, if_pos none]
    constructor
    · intro run
      cases run
      exact ⟨fun some => absurd none some, rfl⟩
    · rintro ⟨-, rfl⟩
      rfl
  · rw [publishRemoval, if_neg none, afterRemoval, if_neg none,
      writeProfile, writeFileAtomic_bind_eq_ok, pass_eq_ok, ← and_assoc]
    exact and_congr_left' ⟨fun clear _ => clear, fun clear => clear none⟩

/-- What the builder left passes all checks. -/
structure BuildVerified
    (environment : BuildEnvironment Content) (input : ClientBuildInput)
    (start : Volume Content) (built : JsonFields) : Prop where
  done : BuilderDone environment built
  libraries : (removeInstallerLibraries input.loader built).2 ≠ 0 →
    environment.faults .librariesWrite = none ∧
      environment.faults .librariesRemoved = none
  version : input.requestedVersion = none ∨
    environment.inferProfileLoaderVersion
      (removeInstallerLibraries input.loader built).1 =
        input.requestedVersion
  assets : ∃ assets,
    profileAssets (removeInstallerLibraries input.loader built).1 =
        some assets ∧
      AssetsVerified environment
        ((environment.builder.change input.name start).file
          (indexPath assets.1 assets.2)).isSome

theorem file_afterRemoval
    {removal : JsonFields × Nat} {path : String}
    (different : path ≠ profilePath input.name) :
    (afterRemoval environment input removal start).file path =
      start.file path := by
  unfold afterRemoval
  split
  · rfl
  · exact file_setFile_of_ne different _ _

theorem verifyBuild_ok {generated : JsonFields} :
    (∃ reached, verifyBuild environment input start =
        (.ok generated, reached)) ↔
      ∃ built, BuildVerified environment input start built ∧
        (removeInstallerLibraries input.loader built).1 = generated := by
  constructor
  · rintro ⟨reached, run⟩
    rw [verifyBuild] at run
    obtain ⟨built, changed, ran, run⟩ := bind_eq_ok.mp run
    obtain ⟨done, rfl⟩ := runBuilder_ok.mp ran
    rw [verifyBuilt] at run
    obtain ⟨_, _, removed, run⟩ := bind_eq_ok.mp run
    obtain ⟨libraries, rfl⟩ := publishRemoval_ok.mp removed
    obtain ⟨_, version, run⟩ := lift_bind_eq_ok.mp run
    obtain ⟨_, _, required, run⟩ := bind_eq_ok.mp run
    obtain ⟨assets, found, verified⟩ := requireAssets_ok.mp ⟨_, required⟩
    rw [file_afterRemoval
      (profilePath_ne_index input.name assets.1 assets.2).symm] at verified
    rw [demand_eq_ok, Bool.or_eq_true, decide_eq_true_eq,
      decide_eq_true_eq] at version
    cases run
    exact ⟨built, ⟨done, libraries, version, assets, found, verified⟩, rfl⟩
  · rintro ⟨built, verified, rfl⟩
    obtain ⟨done, libraries, version, assets, found, checked⟩ := verified
    have present := @file_afterRemoval _ environment input
      (environment.builder.change input.name start)
      (removeInstallerLibraries input.loader built) _
      (profilePath_ne_index input.name assets.1 assets.2).symm
    rw [← present] at checked
    obtain ⟨reached, required⟩ :=
      requireAssets_ok.mpr ⟨assets, found, checked⟩
    refine ⟨reached, ?_⟩
    rw [verifyBuild]
    refine bind_eq_ok.mpr ⟨built, _, runBuilder_ok.mpr ⟨done, rfl⟩, ?_⟩
    refine bind_eq_ok.mpr
      ⟨⟨⟩, _, publishRemoval_ok.mpr ⟨libraries, rfl⟩, ?_⟩
    refine lift_bind_eq_ok.mpr ⟨(), demand_eq_ok.mpr ?_, ?_⟩
    · rw [Bool.or_eq_true, decide_eq_true_eq, decide_eq_true_eq]
      exact version
    · exact bind_eq_ok.mpr ⟨⟨⟩, reached, required, rfl⟩

/-- The content is a profile with these fields as expected. -/
def HasFields (environment : BuildEnvironment Content)
    (keys : List String) (expected : JsonFields)
    (content : Option Content) : Prop :=
  ∃ fields, content.bind environment.parse = some (.object fields) ∧
    ∀ key ∈ keys, getField key fields = getField key expected

theorem object_unique
    {content : Option Json} {first second : JsonFields}
    (one : content = some (.object first))
    (other : content = some (.object second)) : first = second := by
  rw [one] at other
  cases other
  rfl

theorem hasFields_object
    {keys : List String} {expected fields : JsonFields}
    {content : Option Content}
    (shape : content.bind environment.parse = some (.object fields)) :
    HasFields environment keys expected content ↔
      ∀ key ∈ keys, getField key fields = getField key expected := by
  constructor
  · rintro ⟨other, same, agree⟩
    rw [shape] at same
    cases same
    exact agree
  · exact fun agree => ⟨fields, shape, agree⟩

theorem getField_removeInstallerLibraries
    {key : String} (other : key ≠ "classPath") (loader : MinecraftLoader)
    (profile : JsonFields) :
    getField key (removeInstallerLibraries loader profile).1 =
      getField key profile := by
  unfold removeInstallerLibraries removeNeoForgeInstallerLibraries
  split
  · split
    · rfl
    · exact getField_setField_of_ne other _ _
  · rfl

variable {keys : List String} {expected : JsonFields}

theorem keeps_requireAssets
    {name : String} {holds : Option Content → Prop} (profile : JsonFields) :
    Keeps (OfFile (profilePath name) holds)
      (requireAssets environment profile) := by
  have objects : ∀ assetDirectory volume,
      OfFile (profilePath name) holds volume →
        OfFile (profilePath name) holds
          (writeObjects assetDirectory environment.assets.objects
            volume) := by
    intro assetDirectory
    unfold writeObjects
    generalize environment.assets.objects = written
    induction written with
    | nil => exact fun _ before => before
    | cons object rest ih =>
        intro volume before
        exact ih _ (ofFile_setFile
          (profilePath_ne_object name assetDirectory object.1) _ before)
  have ensured : ∀ assets : String × String,
      Keeps (OfFile (profilePath name) holds)
        (ensureAssets environment assets.1 assets.2) := by
    intro assets
    unfold ensureAssets
    refine Keeps.lift_bind fun _ => ?_
    refine (keeps_pass _).bind fun _ => ?_
    refine (keeps_update (objects assets.1)).bind fun _ => ?_
    refine Keeps.lift_bind fun _ => ?_
    refine (keeps_setFile (profilePath_ne_index name assets.1 assets.2)
      _).bind fun _ => ?_
    exact keeps_pass _
  unfold requireAssets
  split
  · exact keeps_throw _
  next assets _ =>
    refine (keeps_existsFile _ _).bind fun present => ?_
    refine Keeps.bind ?_ fun _ => ?_
    · cases present with
      | true => exact keeps_pure _
      | false => exact (keeps_pass _).bind fun _ => ensured assets
    · refine (keeps_existsFile _ _).bind fun _ => ?_
      exact Keeps.lift_bind fun _ => keeps_pass _

theorem runBuilder_reached :
    (runBuilder environment input start).2 =
      environment.builder.change input.name start := by
  have read : Keeps (· = environment.builder.change input.name start)
      (readBuilt environment input) := by
    unfold readBuilt readProfileConfig
    refine Keeps.lift_bind fun _ => ?_
    refine (keeps_passAll _).bind fun _ => ?_
    refine (keeps_existsFile _ _).bind fun _ => ?_
    refine (keeps_existsDirectory _ _).bind fun _ => ?_
    refine Keeps.lift_bind fun _ => ?_
    refine (keeps_existsFile _ _).bind fun _ => ?_
    refine Keeps.lift_bind fun _ => ?_
    exact (keeps_readFile _ _).bind fun _ => keeps_lift _
  exact read.reached rfl

theorem keeps_verifyBuilt
    {name : String} {holds : Option Content → Prop} {built : JsonFields}
    (named : input.name = name)
    (rewritten : holds (some (environment.stringify
      (.object (removeInstallerLibraries input.loader built).1)))) :
    Keeps (OfFile (profilePath name) holds)
      (verifyBuilt environment input built) := by
  subst named
  unfold verifyBuilt publishRemoval
  refine Keeps.bind ?_ fun _ => ?_
  · split
    · exact keeps_pure _
    · exact (keeps_writeFileAtomic_self _ rewritten).bind fun _ =>
        keeps_pass _
  · refine Keeps.lift_bind fun _ => ?_
    exact (keeps_requireAssets _).bind fun _ => keeps_pure _

/-- However the checks end, the file has fields that the libraries do not
concern when the builder wrote them. -/
theorem verifyBuild_reached
    (documented : DocumentedBuild environment input.name)
    (untouched : "classPath" ∉ keys) :
    HasFields environment keys expected
        ((verifyBuild environment input start).2.file
          (profilePath input.name)) ↔
      HasFields environment keys expected environment.builder.profile := by
  have atBuilder := @runBuilder_reached _ environment input start
  rw [verifyBuild, bind_apply]
  rcases ran : runBuilder environment input start with
    ⟨problem | built, reached⟩
  · rw [ran] at atBuilder
    cases atBuilder
    show HasFields environment keys expected
      ((environment.builder.change input.name start).file _) ↔ _
    rw [file_change]
  · obtain ⟨done, rfl⟩ := runBuilder_ok.mp ran
    have same : ∀ key ∈ keys,
        getField key (removeInstallerLibraries input.loader built).1 =
          getField key built := fun key member =>
      getField_removeInstallerLibraries
        (fun equal => untouched (equal ▸ member)) _ _
    have shape : (some (environment.stringify (.object
        (removeInstallerLibraries input.loader built).1))).bind
          environment.parse = some (.object
            (removeInstallerLibraries input.loader built).1) :=
      documented.parsed _
    have rewritten : HasFields environment keys expected
          (some (environment.stringify (.object
            (removeInstallerLibraries input.loader built).1))) ↔
        HasFields environment keys expected
          environment.builder.profile := by
      rw [hasFields_object done.profile, hasFields_object shape]
      exact forall₂_congr fun key member => by rw [same key member]
    refine (@keeps_verifyBuilt _ environment input input.name
      (fun content => HasFields environment keys expected content ↔
        HasFields environment keys expected environment.builder.profile)
      built rfl rewritten).reached ?_
    rw [OfFile, file_change]

end Verification

end GravitPanel.Clients
