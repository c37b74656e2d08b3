import GravitPanel.Clients.LoaderCache
import GravitPanel.Clients.LoaderVersions

/-!
# The marker of the cached loader version

Why a call for an exact loader version returns with installers and a cache of
that version only, as long as no installer stays that the marker misnames.
-/

namespace GravitPanel.Clients

open JavaScript LoaderState LoaderFiles Execution

/-- If this item is there and the marker too, the marker names its version. -/
def Named (files : LoaderFiles) (item : LoaderItem) : Prop :=
  ∀ version text, files.content item = some version →
    files.marker = some text → trim text = version

def Truthful (files : LoaderFiles) : Prop := ∀ item, Named files item

def Vacant (files : LoaderFiles) : Prop :=
  ∀ item, files.content item = none

/-- Whatever is there has this version. -/
def Holding (files : LoaderFiles) (version : String) : Prop :=
  ∀ item other, files.content item = some other → other = version

def Marked (files : LoaderFiles) (version : String) : Prop :=
  files.marker.map trim = some version

/-- The same marker, and nothing new. -/
structure Shrinks (files rest : LoaderFiles) : Prop where
  marker : rest.marker = files.marker
  content : ∀ item version, rest.content item = some version →
    files.content item = some version

section Files

variable {files rest : LoaderFiles} {item : LoaderItem} {version : String}

theorem shrinks_refl (files : LoaderFiles) : Shrinks files files :=
  ⟨rfl, fun _ _ present => present⟩

theorem content_set_self (version : Option String) :
    (files.set item version).content item = version := if_pos rfl

theorem shrinks_settle (removed : Bool) :
    Shrinks files (files.settle item removed) := by
  cases removed with
  | false => exact shrinks_refl files
  | true =>
      refine ⟨rfl, fun other version present => ?_⟩
      by_cases same : other = item
      · rw [same] at present
        cases (content_set_self none).symm.trans present
      · exact (if_neg same).symm.trans present

theorem content_settle_true :
    (files.settle item true).content item = none := content_set_self none

theorem Shrinks.none (shrinks : Shrinks files rest)
    (absent : files.content item = none) : rest.content item = none := by
  cases present : rest.content item with
  | none => rfl
  | some version =>
      have before := shrinks.content item version present
      rw [absent] at before
      cases before

theorem Shrinks.named (shrinks : Shrinks files rest)
    (named : Named files item) : Named rest item :=
  fun version text present marked => named version text
    (shrinks.content item version present) (shrinks.marker.symm.trans marked)

theorem Shrinks.truthful (shrinks : Shrinks files rest)
    (truthful : Truthful files) : Truthful rest :=
  fun item => shrinks.named (truthful item)

theorem Shrinks.vacant (shrinks : Shrinks files rest)
    (vacant : Vacant files) : Vacant rest :=
  fun item => shrinks.none (vacant item)

theorem Shrinks.holding (shrinks : Shrinks files rest)
    (holding : Holding files version) : Holding rest version :=
  fun item other present =>
    holding item other (shrinks.content item other present)

theorem Shrinks.marked (shrinks : Shrinks files rest)
    (marked : Marked files version) : Marked rest version := by
  unfold Marked
  rw [shrinks.marker]
  exact marked

theorem named_of_none (absent : files.content item = none) :
    Named files item := by
  intro version text present _
  rw [absent] at present
  cases present

theorem Vacant.truthful (vacant : Vacant files) : Truthful files :=
  fun item => named_of_none (vacant item)

theorem Truthful.holding (truthful : Truthful files)
    (marked : Marked files version) : Holding files version := by
  intro item other present
  obtain ⟨text, marker, same⟩ := Option.map_eq_some_iff.mp marked
  exact (truthful item other text present marker).symm.trans same

theorem Holding.truthful (holding : Holding files version)
    (marked : Marked files version) : Truthful files := by
  intro item other text present marker
  unfold Marked at marked
  rw [marker, Option.map_some, Option.some.injEq] at marked
  exact marked.trans (holding item other present).symm

theorem vacant_of_not_isPresent (absent : files.isPresent = false) :
    Vacant files := by
  simp only [isPresent, Bool.or_eq_false_iff, Option.isSome_eq_false_iff,
    Option.isNone_iff_eq_none] at absent
  obtain ⟨⟨noGui, gui⟩, cache⟩ := absent
  intro item
  cases item with
  | noGui => exact noGui
  | gui => exact gui
  | cache => exact cache

end Files

/-- The artifact has a well-formed version, the one that was asked for. -/
structure Requested (loaderVersion : Option String)
    (artifact : LoaderInstallerArtifact) : Prop where
  wellFormed : loaderVersionPattern artifact.loaderVersion = true
  exact : ∀ version, exactVersion loaderVersion = some version →
    artifact.loaderVersion = version

section Downloads

variable {repositories : LoaderRepositories}
variable {minecraftVersion : String} {loaderVersion : Option String}

theorem exactVersion_some {version : String}
    (exact : exactVersion loaderVersion = some version) :
    loaderVersion = some version ∧ version ≠ "" := by
  have kept := Option.filter_eq_some_iff.mp exact
  exact ⟨kept.1, of_decide_eq_true kept.2⟩

theorem resolveNeoForge_ok {resolved : ResolvedInstaller}
    (answered : resolveNeoForge repositories minecraftVersion loaderVersion =
      .ok resolved) :
    loaderVersionPattern resolved.loaderVersion = true ∧
      ∀ version, loaderVersion = some version →
        resolved.loaderVersion = version := by
  obtain ⟨listed, offered, rest⟩ := Program.outcome_bind_eq_ok.mp answered
  obtain ⟨chosen, first, rest⟩ := Program.outcome_bind_eq_ok.mp rest
  obtain ⟨_, available, done⟩ := Program.outcome_bind_eq_ok.mp rest
  cases done
  have member := of_decide_eq_true (demand_ok.mp available)
  refine ⟨(offered_facts ⟨listed, offered, member⟩).2.1, ?_⟩
  rintro version rfl
  change (if version = "" then Except.error _ else Except.ok version) =
    Except.ok chosen at first
  by_cases empty : version = ""
  · rw [if_pos empty] at first
    cases first
  · rw [if_neg empty] at first
    cases first
    rfl

theorem resolveForge_ok {resolved : ResolvedInstaller}
    (answered : resolveForge repositories minecraftVersion loaderVersion =
      .ok resolved) :
    loaderVersionPattern resolved.loaderVersion = true ∧
      ∀ version, exactVersion loaderVersion = some version →
        resolved.loaderVersion = version := by
  obtain ⟨requested, asked, rest⟩ := Program.outcome_bind_eq_ok.mp answered
  obtain ⟨chosen, demanded, done⟩ := Program.outcome_bind_eq_ok.mp rest
  cases done
  cases requested with
  | none => cases demanded
  | some version =>
      change (if loaderVersionPattern version then Except.ok version
        else Except.error _) = Except.ok chosen at demanded
      by_cases pattern : loaderVersionPattern version = true
      · rw [if_pos pattern] at demanded
        cases demanded
        refine ⟨pattern, fun other exact => ?_⟩
        have same : loaderVersion.filter (· ≠ "") = some other := exact
        rw [same] at asked
        obtain ⟨listed, -, rest⟩ := Program.outcome_bind_eq_ok.mp asked
        obtain ⟨_, -, done⟩ := Program.outcome_bind_eq_ok.mp rest
        cases done
        rfl
      · rw [if_neg pattern] at demanded
        cases demanded

theorem requested_of_download {loader : LoaderInstallerType}
    {artifact : LoaderInstallerArtifact}
    (downloaded : download repositories loader minecraftVersion
      loaderVersion = .ok artifact) : Requested loaderVersion artifact := by
  obtain ⟨resolved, answered, rest⟩ :=
    Program.outcome_bind_eq_ok.mp downloaded
  obtain ⟨_, -, rest⟩ := Program.outcome_bind_eq_ok.mp rest
  obtain ⟨_, -, rest⟩ := Program.outcome_bind_eq_ok.mp rest
  obtain ⟨_, -, rest⟩ := Program.outcome_bind_eq_ok.mp rest
  obtain ⟨_, -, done⟩ := Program.outcome_bind_eq_ok.mp rest
  cases done
  cases loader with
  | forge =>
      obtain ⟨pattern, exact⟩ := resolveForge_ok answered
      exact ⟨pattern, exact⟩
  | neoforge =>
      obtain ⟨pattern, exact⟩ := resolveNeoForge_ok answered
      exact ⟨pattern, fun version asked =>
        exact version (exactVersion_some asked).1⟩

theorem trim_marker {version : String}
    (pattern : loaderVersionPattern version = true) :
    trim (version ++ "\n") = version :=
  trim_line (visible_of_isToken pattern (by simp [isWhiteSpace]))

end Downloads

def Fits (loaderVersion : Option String) (version : String) : Prop :=
  ∀ exact, exactVersion loaderVersion = some exact → version = exact

/-- What holds of the files in each phase of a call. -/
def PhaseInvariant (files : LoaderFiles) : LoaderPhase → Prop
  | .idle => Truthful files
  | .inspecting _ => Truthful files
  | .deciding _ present =>
      Truthful files ∧ (present = false → Vacant files)
  | .reusing loaderVersion =>
      Truthful files ∧ ∀ exact, exactVersion loaderVersion = some exact →
        Marked files exact
  | .replacing _ => Truthful files
  | .removing _ waiting =>
      Truthful files ∧ ∀ item, item ∉ waiting → files.content item = none
  | .announcing _ => Vacant files
  | .downloading _ => Vacant files
  | .storing loaderVersion artifact item =>
      Vacant files ∧ Requested loaderVersion artifact ∧ item ∈ installers
  | .marking loaderVersion artifact =>
      Holding files artifact.loaderVersion ∧
        files.content .cache = none ∧ Requested loaderVersion artifact
  | .logging loaderVersion =>
      ∃ version, Holding files version ∧ Marked files version ∧
        Fits loaderVersion version
  | .cleaning waiting =>
      .cache ∉ waiting ∧ ∀ item, item ∉ waiting → Named files item

def LoaderInvariant (state : LoaderState) : Prop :=
  PhaseInvariant state.files state.phase

/-- Neither does the process crash nor a removal of the cleanup fail while an
installer is there that the marker, naming another version, misnames. -/
def LoaderSafe (state : LoaderState) : LoaderEvent → Prop
  | .crashed => ∀ item ∈ installers, Named state.files item
  | .settled item false => Named state.files item
  | _ => True

/-- Every item that is there has the exact version that was asked for. -/
def ReturnsExact (output : LoaderReturn) : Prop :=
  ∀ exact, exactVersion output.loaderVersion = some exact →
    Holding output.files exact

section Steps

variable {loader : LoaderInstallerType} {minecraftVersion : String}
variable {state next : LoaderState} {now : List LoaderReturn}
variable {files rest : LoaderFiles}

theorem PhaseInvariant.cache {phase : LoaderPhase}
    (invariant : PhaseInvariant files phase) : Named files .cache := by
  cases phase with
  | idle => exact invariant _
  | inspecting loaderVersion => exact invariant _
  | deciding loaderVersion present => exact invariant.1 _
  | reusing loaderVersion => exact invariant.1 _
  | replacing loaderVersion => exact invariant _
  | removing loaderVersion waiting => exact invariant.1 _
  | announcing loaderVersion => exact invariant.truthful _
  | downloading loaderVersion => exact invariant.truthful _
  | storing loaderVersion artifact item => exact invariant.1.truthful _
  | marking loaderVersion artifact => exact named_of_none invariant.2.1
  | logging loaderVersion =>
      obtain ⟨version, holding, marked, -⟩ := invariant
      exact holding.truthful marked _
  | cleaning waiting => exact invariant.2 _ invariant.1

theorem PhaseInvariant.shrink {phase : LoaderPhase}
    (invariant : PhaseInvariant files phase) (shrinks : Shrinks files rest) :
    PhaseInvariant rest phase := by
  cases phase with
  | idle => exact shrinks.truthful invariant
  | inspecting loaderVersion => exact shrinks.truthful invariant
  | deciding loaderVersion present =>
      exact ⟨shrinks.truthful invariant.1,
        fun absent => shrinks.vacant (invariant.2 absent)⟩
  | reusing loaderVersion =>
      exact ⟨shrinks.truthful invariant.1,
        fun exact asked => shrinks.marked (invariant.2 exact asked)⟩
  | replacing loaderVersion => exact shrinks.truthful invariant
  | removing loaderVersion waiting =>
      exact ⟨shrinks.truthful invariant.1,
        fun item settled => shrinks.none (invariant.2 item settled)⟩
  | announcing loaderVersion => exact shrinks.vacant invariant
  | downloading loaderVersion => exact shrinks.vacant invariant
  | storing loaderVersion artifact item =>
      exact ⟨shrinks.vacant invariant.1, invariant.2⟩
  | marking loaderVersion artifact =>
      exact ⟨shrinks.holding invariant.1, shrinks.none invariant.2.1,
        invariant.2.2⟩
  | logging loaderVersion =>
      obtain ⟨version, holding, marked, fits⟩ := invariant
      exact ⟨version, shrinks.holding holding, shrinks.marked marked, fits⟩
  | cleaning waiting =>
      exact ⟨invariant.1, fun item settled =>
        shrinks.named (invariant.2 item settled)⟩

theorem invariant_chooseInstaller {loaderVersion : Option String}
    {present : Bool}
    (invariant : PhaseInvariant files (.deciding loaderVersion present)) :
    PhaseInvariant files (chooseInstaller loaderVersion present files) := by
  obtain ⟨truthful, vacant⟩ := invariant
  unfold chooseInstaller
  cases present with
  | false => exact vacant rfl
  | true =>
      rw [if_pos rfl]
      by_cases reuse : exactVersion loaderVersion = none ∨
          markedVersion loaderVersion files = exactVersion loaderVersion
      · rw [if_pos reuse]
        refine ⟨truthful, fun exact asked => ?_⟩
        rcases reuse with none | same
        · rw [none] at asked
          cases asked
        · rw [markedVersion, asked] at same
          exact same
      · rw [if_neg reuse]
        exact truthful

theorem mem_installers {filename : String} {item : LoaderItem}
    (same : installerItem loader minecraftVersion filename = some item) :
    item ∈ installers := by
  unfold installerItem at same
  by_cases noGui : filename = installerPrefix loader ++ "-" ++
      minecraftVersion ++ "-installer-nogui.jar"
  · rw [if_pos noGui] at same
    cases same
    decide
  · rw [if_neg noGui] at same
    by_cases gui : filename = installerPrefix loader ++ "-" ++
        minecraftVersion ++ "-installer.jar"
    · rw [if_pos gui] at same
      cases same
      decide
    · rw [if_neg gui] at same
      cases same

theorem invariant_afterDownload {repositories : LoaderRepositories}
    {loaderVersion : Option String} (vacant : Vacant files) :
    PhaseInvariant files (afterDownload loader minecraftVersion loaderVersion
      (download repositories loader minecraftVersion loaderVersion)) := by
  have cleaned : PhaseInvariant files removeInstallers :=
    ⟨by decide, fun item _ => vacant.truthful item⟩
  cases answer : download repositories loader minecraftVersion
      loaderVersion with
  | error problem => exact cleaned
  | ok artifact =>
      have requested := requested_of_download answer
      change PhaseInvariant files (storeAs loaderVersion artifact
        (installerItem loader minecraftVersion artifact.filename))
      cases shape : installerItem loader minecraftVersion
          artifact.filename with
      | none => exact cleaned
      | some item => exact ⟨vacant, requested, mem_installers shape⟩

theorem invariant_afterFailure {phase last : LoaderPhase}
    (invariant : PhaseInvariant files phase)
    (failed : afterFailure phase = some last) : PhaseInvariant files last := by
  have cleaned : PhaseInvariant files removeInstallers := by
    refine ⟨by decide, fun item outside => ?_⟩
    cases item with
    | noGui => exact absurd (by decide) outside
    | gui => exact absurd (by decide) outside
    | cache => exact invariant.cache
  cases phase with
  | idle => cases failed
  | inspecting loaderVersion =>
      cases failed
      exact invariant
  | deciding loaderVersion present =>
      cases failed
      exact invariant.1
  | reusing loaderVersion =>
      cases failed
      exact invariant.1
  | replacing loaderVersion =>
      cases failed
      exact invariant
  | removing loaderVersion waiting => cases failed
  | announcing loaderVersion =>
      cases failed
      exact invariant.truthful
  | downloading loaderVersion =>
      cases failed
      exact cleaned
  | storing loaderVersion artifact item =>
      cases failed
      exact cleaned
  | marking loaderVersion artifact =>
      cases failed
      exact cleaned
  | logging loaderVersion =>
      cases failed
      exact cleaned
  | cleaning waiting => cases failed

variable {waiting : List LoaderItem} {removed : Bool}

theorem none_of_not_mem_erase {item : LoaderItem}
    (settled : ∀ other, other ∉ waiting → files.content other = none)
    (other : LoaderItem) (outside : other ∉ waiting.erase item) :
    (files.settle item true).content other = none := by
  by_cases same : other = item
  · rw [same]
    exact content_settle_true
  · have before : other ∉ waiting := fun member =>
      outside ((List.mem_erase_of_ne same).mpr member)
    exact (shrinks_settle true).none (settled other before)

theorem invariant_afterSettled {loaderVersion : Option String}
    {item : LoaderItem}
    (invariant : PhaseInvariant state.files
      (.removing loaderVersion waiting)) :
    LoaderInvariant (afterSettled loaderVersion (waiting.erase item) removed
      (state.withFiles (state.files.settle item removed))) := by
  have truthful : Truthful (state.files.settle item removed) :=
    (shrinks_settle removed).truthful invariant.1
  unfold afterSettled
  cases removed with
  | false => exact truthful
  | true =>
      have gone : ∀ other, other ∉ waiting.erase item →
          (state.files.settle item true).content other = none :=
        none_of_not_mem_erase invariant.2
      rw [if_pos rfl]
      by_cases done : waiting.erase item = []
      · rw [if_pos done]
        rw [done] at gone
        exact fun other => gone other List.not_mem_nil
      · rw [if_neg done]
        exact ⟨truthful, gone⟩

theorem invariant_afterCleaning
    {item : LoaderItem}
    (invariant : PhaseInvariant files (.cleaning waiting))
    (safe : removed = false → Named files item) :
    PhaseInvariant (files.settle item removed)
      (afterCleaning (waiting.erase item)) := by
  have named : ∀ other, other ∉ waiting.erase item →
      Named (files.settle item removed) other := by
    intro other outside
    by_cases same : other = item
    · rw [same]
      cases removed with
      | false => exact safe rfl
      | true => exact named_of_none content_settle_true
    · have before : other ∉ waiting := fun member =>
        outside ((List.mem_erase_of_ne same).mpr member)
      exact (shrinks_settle removed).named (invariant.2 other before)
  unfold afterCleaning
  by_cases done : waiting.erase item = []
  · rw [if_pos done]
    rw [done] at named
    exact fun other => named other List.not_mem_nil
  · rw [if_neg done]
    exact ⟨fun member => invariant.1 (List.mem_of_mem_erase member), named⟩

theorem returnsExact_of_reusing {loaderVersion : Option String}
    (invariant : PhaseInvariant files (.reusing loaderVersion)) :
    ReturnsExact ⟨loaderVersion, files⟩ :=
  fun exact asked => invariant.1.holding (invariant.2 exact asked)

theorem returnsExact_of_logging {loaderVersion : Option String}
    (invariant : PhaseInvariant files (.logging loaderVersion)) :
    ReturnsExact ⟨loaderVersion, files⟩ := by
  obtain ⟨version, holding, -, fits⟩ := invariant
  intro exact asked
  rw [← fits exact asked]
  exact holding

theorem announcedStep_keeps (invariant : LoaderInvariant state)
    (step : announcedStep state = some (next, now)) :
    LoaderInvariant next ∧ ∀ output ∈ now, ReturnsExact output := by
  unfold LoaderInvariant at invariant
  unfold announcedStep at step
  split at step
  · rename_i loaderVersion reusing
    rw [reusing] at invariant
    cases step
    exact ⟨invariant.1, List.forall_mem_singleton.mpr
      (returnsExact_of_reusing invariant)⟩
  · rename_i loaderVersion replacing
    rw [replacing] at invariant
    cases step
    refine ⟨⟨invariant, fun item outside => ?_⟩, List.forall_mem_nil _⟩
    exact absurd (by cases item <;> decide) outside
  · rename_i loaderVersion announcing
    rw [announcing] at invariant
    cases step
    exact ⟨invariant, List.forall_mem_nil _⟩
  · rename_i loaderVersion logging
    rw [logging] at invariant
    cases step
    have returns := returnsExact_of_logging invariant
    obtain ⟨version, holding, marked, -⟩ := invariant
    exact ⟨holding.truthful marked, List.forall_mem_singleton.mpr returns⟩
  · cases step

theorem holding_set {item : LoaderItem} {version : String}
    (vacant : Vacant files) :
    Holding (files.set item (some version)) version := by
  intro other held present
  by_cases same : other = item
  · rw [same, content_set_self, Option.some.injEq] at present
    exact present.symm
  · have absent : (files.set item (some version)).content other = none :=
      (if_neg same).trans (vacant other)
    rw [absent] at present
    cases present

theorem writtenStep_keeps (invariant : LoaderInvariant state)
    (step : writtenStep state = some (next, now)) :
    LoaderInvariant next ∧ ∀ output ∈ now, ReturnsExact output := by
  unfold LoaderInvariant at invariant
  unfold writtenStep at step
  split at step
  · rename_i loaderVersion artifact item storing
    rw [storing] at invariant
    cases step
    obtain ⟨vacant, requested, installer⟩ := invariant
    have other : LoaderItem.cache ≠ item := by
      rintro rfl
      revert installer
      decide
    exact ⟨⟨holding_set vacant, (if_neg other).trans (vacant .cache),
      requested⟩, List.forall_mem_nil _⟩
  · rename_i loaderVersion artifact marking
    rw [marking] at invariant
    cases step
    obtain ⟨holding, -, requested⟩ := invariant
    have marked : Marked
        (state.files.mark (artifact.loaderVersion ++ "\n"))
        artifact.loaderVersion :=
      congrArg some (trim_marker requested.wellFormed)
    exact ⟨⟨artifact.loaderVersion, holding, marked, requested.exact⟩,
      List.forall_mem_nil _⟩
  · cases step

theorem settledStep_keeps {item : LoaderItem}
    (invariant : LoaderInvariant state)
    (safe : removed = false → Named state.files item)
    (step : settledStep item removed state = some (next, now)) :
    LoaderInvariant next ∧ ∀ output ∈ now, ReturnsExact output := by
  unfold LoaderInvariant at invariant
  unfold settledStep at step
  split at step
  · rename_i loaderVersion waiting removing
    rw [removing] at invariant
    split at step
    · cases step
      exact ⟨invariant_afterSettled invariant, List.forall_mem_nil _⟩
    · cases step
  · rename_i waiting cleaning
    rw [cleaning] at invariant
    split at step
    · cases step
      exact ⟨invariant_afterCleaning invariant safe, List.forall_mem_nil _⟩
    · cases step
  · cases step

theorem truthful_built {installer : LoaderItem} {version : String}
    (truthful : Truthful files)
    (present : files.content installer = some version) :
    Truthful (files.set .cache (some version)) := by
  intro item held text there marker
  by_cases same : item = .cache
  · rw [same, content_set_self, Option.some.injEq] at there
    rw [← there]
    exact truthful installer version text present marker
  · exact truthful item held text ((if_neg same).symm.trans there) marker

theorem truthful_crashed (invariant : LoaderInvariant state)
    (safe : ∀ item ∈ installers, Named state.files item) :
    Truthful state.files := by
  intro item
  cases item with
  | noGui => exact safe _ (by decide)
  | gui => exact safe _ (by decide)
  | cache => exact invariant.cache

theorem loaderStep_keeps {event : LoaderEvent}
    (invariant : LoaderInvariant state) (safe : LoaderSafe state event)
    (step : loaderStep loader minecraftVersion state event =
      some (next, now)) :
    LoaderInvariant next ∧ ∀ output ∈ now, ReturnsExact output := by
  cases event with
  | call loaderVersion =>
      simp only [loaderStep] at step
      split at step
      · rename_i idle
        unfold LoaderInvariant at invariant
        rw [idle] at invariant
        cases step
        exact ⟨invariant, List.forall_mem_nil _⟩
      · cases step
  | inspected =>
      simp only [loaderStep] at step
      split at step
      · rename_i loaderVersion inspecting
        unfold LoaderInvariant at invariant
        rw [inspecting] at invariant
        cases step
        exact ⟨⟨invariant, vacant_of_not_isPresent⟩, List.forall_mem_nil _⟩
      · cases step
  | markerRead =>
      simp only [loaderStep] at step
      split at step
      · rename_i loaderVersion present deciding
        unfold LoaderInvariant at invariant
        rw [deciding] at invariant
        cases step
        exact ⟨invariant_chooseInstaller invariant, List.forall_mem_nil _⟩
      · cases step
  | announced => exact announcedStep_keeps invariant step
  | downloaded repositories =>
      simp only [loaderStep] at step
      split at step
      · rename_i loaderVersion downloading
        unfold LoaderInvariant at invariant
        rw [downloading] at invariant
        cases step
        exact ⟨invariant_afterDownload invariant, List.forall_mem_nil _⟩
      · cases step
  | written => exact writtenStep_keeps invariant step
  | settled item removed =>
      refine settledStep_keeps invariant ?_ step
      rintro rfl
      exact safe
  | settledLate item removed =>
      simp only [loaderStep] at step
      split at step
      · cases step
        exact ⟨invariant.shrink (shrinks_settle removed),
          List.forall_mem_nil _⟩
      · cases step
  | failed =>
      obtain ⟨phase, failed, same⟩ := Option.map_eq_some_iff.mp step
      cases same
      exact ⟨invariant_afterFailure invariant failed, List.forall_mem_nil _⟩
  | crashed =>
      have truthful := truthful_crashed invariant safe
      cases step
      exact ⟨truthful, List.forall_mem_nil _⟩
  | built installer =>
      simp only [loaderStep] at step
      split at step
      · rename_i version idle present
        unfold LoaderInvariant at invariant
        rw [idle] at invariant
        split at step
        · cases step
          refine ⟨?_, List.forall_mem_nil _⟩
          unfold LoaderInvariant
          change PhaseInvariant _ state.phase
          rw [idle]
          exact truthful_built invariant present
        · cases step
      · cases step

end Steps

/-- In every run whose steps are safe, whatever call returns for an exact
loader version leaves installers and a cache of that version only. -/
theorem returns_exact (loader : LoaderInstallerType)
    (minecraftVersion : String) {state final : LoaderState}
    {events : List LoaderEvent} {returns : List LoaderReturn}
    (idle : state.phase = .idle) (truthful : Truthful state.files)
    (safe : Meets (loaderStep loader minecraftVersion) LoaderSafe state
      events)
    (run : execute (loaderStep loader minecraftVersion) state events =
      some (final, returns)) :
    ∀ output ∈ returns, ReturnsExact output := by
  have start : LoaderInvariant state := by
    unfold LoaderInvariant
    rw [idle]
    exact truthful
  have both := execute_induction_of_meets
    (motive := fun reached past => LoaderInvariant reached ∧
      ∀ output ∈ past, ReturnsExact output)
    (fun reached past event next now holds met step => by
      have kept := loaderStep_keeps holds.1 met step
      exact ⟨kept.1, List.forall_mem_append.mpr ⟨holds.2, kept.2⟩⟩)
    ⟨start, List.forall_mem_nil _⟩ safe run
  exact both.2

/-- No crash, and no removal that fails while somebody waits for it. -/
def isCalm : LoaderEvent → Bool
  | .crashed => false
  | .settled _ removed => removed
  | _ => true

theorem safe_of_isCalm {state : LoaderState} {event : LoaderEvent}
    (calm : isCalm event = true) : LoaderSafe state event := by
  cases event with
  | crashed => cases calm
  | settled item removed =>
      cases removed with
      | false => cases calm
      | true => trivial
  | call loaderVersion => trivial
  | inspected => trivial
  | markerRead => trivial
  | announced => trivial
  | downloaded repositories => trivial
  | written => trivial
  | settledLate item removed => trivial
  | failed => trivial
  | built installer => trivial

def emptyDigest : String :=
  "e3b0c44298fc1c149afbf4c8996fb92427ae41e4649b934ca495991b7852b855"

/-- Two versions whose installers are empty files. -/
def switchRepositories : LoaderRepositories where
  neoForgeVersions := .ok (.object [("versions", .array
    [.string "21.1.243", .string "21.1.244"])])
  forgeMetadata := .error "HTTP 500"
  forgePromotions := .error "HTTP 500"
  text := fun _ => .ok emptyDigest
  bytes := fun _ => .ok []
  sha256 := fun _ => emptyDigest
  upTo := fun left right => left ≤ right

def emptyLoader : LoaderState where
  files := ⟨fun _ => none, none⟩
  phase := .idle
  abandoned := []

def startCall (version : String) : List LoaderEvent :=
  [.call (some version), .inspected, .markerRead, .announced]

def replaceAll : List LoaderEvent :=
  [.settled .cache true, .settled .noGui true, .settled .gui true,
    .announced]

def storeAll : List LoaderEvent :=
  [.downloaded switchRepositories, .written, .written, .announced]

/-- One version, a build, and a switch to another version. -/
def switchRun : List LoaderEvent :=
  startCall "21.1.243" ++ storeAll ++ [.built .noGui] ++
    startCall "21.1.244" ++ replaceAll ++ storeAll

theorem sample_switch_returns_exact :
    ∃ final returns,
      execute (loaderStep .neoforge "1.21.1") emptyLoader switchRun =
        some (final, returns) ∧
      returns.length = 2 ∧ ∀ output ∈ returns, ReturnsExact output := by
  have twice : (execute (loaderStep .neoforge "1.21.1") emptyLoader
      switchRun).map (fun result => result.2.length) = some 2 := by
    decide +kernel
  obtain ⟨⟨final, returns⟩, run, count⟩ := Option.map_eq_some_iff.mp twice
  have calm : Meets (loaderStep .neoforge "1.21.1")
      (fun _ event => isCalm event = true) emptyLoader switchRun :=
    meets_of_forall (List.all_eq_true.mp (by decide)) _
  refine ⟨final, returns, run, count, ?_⟩
  exact returns_exact .neoforge "1.21.1" rfl
    (fun item => named_of_none rfl)
    (calm.mono fun _ _ => safe_of_isCalm) run

/-- The process crashes between the two writes of the switch, and the first
version is asked for again. -/
def crashedRun : List LoaderEvent :=
  startCall "21.1.243" ++ storeAll ++ startCall "21.1.244" ++ replaceAll ++
    [.downloaded switchRepositories, .written, .crashed] ++
    startCall "21.1.243"

theorem crashed_switch_is_reused :
    ∃ final returns,
      execute (loaderStep .neoforge "1.21.1") emptyLoader crashedRun =
        some (final, returns) ∧
      ¬ ∀ output ∈ returns, ReturnsExact output := by
  have seen : (execute (loaderStep .neoforge "1.21.1") emptyLoader
      crashedRun).map (fun result => result.2.map fun output =>
        (output.loaderVersion, output.files.content .noGui)) =
      some [(some "21.1.243", some "21.1.243"),
        (some "21.1.243", some "21.1.244")] := by
    decide +kernel
  obtain ⟨⟨final, returns⟩, run, view⟩ := Option.map_eq_some_iff.mp seen
  refine ⟨final, returns, run, fun allExact => ?_⟩
  obtain ⟨output, member, shown⟩ := List.mem_map.mp
    (view ▸ List.mem_cons_of_mem _ List.mem_cons_self :
      ((some "21.1.243", some "21.1.244") : Option String × Option String) ∈
        returns.map fun output =>
          (output.loaderVersion, output.files.content .noGui))
  rw [Prod.mk.injEq] at shown
  have asked : exactVersion output.loaderVersion = some "21.1.243" := by
    rw [shown.1]
    decide
  have same := allExact output member _ asked .noGui _ shown.2
  revert same
  decide

end GravitPanel.Clients
