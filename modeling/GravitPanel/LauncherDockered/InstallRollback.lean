import GravitPanel.LauncherDockered.Install

/-!
# Rollback of a fresh installation

After which failures of `install` the directory that it created is gone, and
why no completed installation is touched.
-/

namespace GravitPanel.LauncherDockered

open Program Host JavaScript

variable {Content : Type}

/-- A host before a call of `install`. -/
def Host.before (directory : String → Option (Installation Content)) :
    Host Content where
  directory := directory
  published := false
  stopped := false

/-- The directory that this call created, if any, does not exist any more, and
its Compose project was told to go down. -/
def CreatedRemoved (name : String) (host : Host Content) : Prop :=
  host.published = true → host.directory name = none ∧ host.stopped = true

def CompletedKept (start : String → Option (Installation Content))
    (host : Host Content) : Prop :=
  ∀ other installation, start other = some installation →
    installation.pending = false →
      host.directory other = some installation

structure CommandEnds (environment : InstallEnvironment Content)
    (command : InstallCommand) : Prop where
  announced : environment.faults (.announced command) = none
  logged : ∀ index < (environment.commands command).lines,
    environment.faults (.line command index) = none
  exited : (environment.commands command).outcome = .ok 0

/-- `docker compose down` ends without an error of the job context or of the
runner. -/
structure DownEnds (environment : InstallEnvironment Content)
    (phase : RollbackPhase) : Prop where
  logged : ∀ index < (environment.down phase).lines,
    environment.faults (.downLine phase index) = none
  exited : ∃ code, (environment.down phase).outcome = .ok code ∧
    (code ≠ 0 → environment.faults (.downExited phase) = none)

structure RollbackRemoves (environment : InstallEnvironment Content)
    (phase : RollbackPhase) : Prop where
  started : environment.faults (.rollbackStarted phase) = none
  down : DownEnds environment phase ∨
    environment.faults (.downFailed phase) = none

/-- A directory that is in the way is a pending one, and it is cleaned up. -/
structure Recovered (environment : InstallEnvironment Content)
    (installation : Installation Content) : Prop where
  markerInspected : environment.faults .markerInspected = none
  pending : installation.pending = true
  recovering : environment.faults .recovering = none
  removes : RollbackRemoves environment .recovery
  removed : environment.faults (.removed .recovery) = none

/-- The steps up to the rename of the clone succeed. -/
structure Published (environment : InstallEnvironment Content)
    (input : InstallInput)
    (start : String → Option (Installation Content)) : Prop where
  valid : validateInput input = .ok ()
  validated : environment.faults .validated = none
  rootCreated : environment.faults .rootCreated = none
  inspected : environment.faults .inspected = none
  recovered : ∀ installation,
    start input.installationName = some installation →
      Recovered environment installation
  cloning : environment.faults .cloning = none
  clone : CommandEnds environment .clone
  checkout : CommandEnds environment .checkout
  marked : environment.faults .markerWrite = none
  renamed : environment.faults .rename = none

/-- The steps of the `try` block succeed. -/
structure Provisioned (environment : InstallEnvironment Content) : Prop where
  steps : ∀ step, step ≠ .restart →
    environment.faults (.provision step) = none
  verified : environment.faults .verified = none
  environmentReady : environment.faults .environmentReady = none
  composeUp : CommandEnds environment .composeUp
  started : environment.faults .started = none
  composePs : CommandEnds environment .composePs
  waiting : environment.faults .waiting = none
  socketReady : environment.faults .socketReady = none
  restarted : environment.urlsChanged = true →
    environment.faults (.provision .restart) = none
  markerRemoved : environment.faults .markerRemove = none

/-- The job is not cancelled where the rollback does not reach: between the
rename of the clone and the removal of its files. -/
structure InstallSafe (environment : InstallEnvironment Content)
    (input : InstallInput)
    (start : String → Option (Installation Content)) : Prop where
  cloned : Published environment input start →
    environment.faults .cloned = none
  rolledBack : Published environment input start →
    ¬ Provisioned environment → RollbackRemoves environment .failure

section Ends

variable {environment : InstallEnvironment Content}
variable {host : Host Content} {name : String}

theorem demandExit_eq_ok {description : String}
    {outcome : Except String Nat} :
    (∃ value, demandExit description outcome = .ok value) ↔
      outcome = .ok 0 := by
  unfold demandExit
  cases outcome with
  | error problem => simp
  | ok code => by_cases zero : code = 0 <;> simp [zero]

theorem ends_runChecked_bind {command : InstallCommand}
    {change : Host Content → Host Content} {Result : Type}
    {next : Unit → Program (Host Content) String Result} :
    Ends (runChecked environment command change >>= next) host ↔
      CommandEnds environment command ∧ Ends (next ()) (change host) := by
  rw [runChecked, bind_bind, ends_reach_bind, bind_bind, ends_update_bind,
    bind_bind, ends_reachEach_bind, ends_lift_bind]
  constructor
  · rintro ⟨announced, logged, _, exited, rest⟩
    exact ⟨⟨announced, logged, demandExit_eq_ok.mp ⟨_, exited⟩⟩, rest⟩
  · rintro ⟨ends, rest⟩
    obtain ⟨_, exited⟩ := demandExit_eq_ok.mpr ends.exited
    exact ⟨ends.announced, ends.logged, _, exited, rest⟩

theorem ends_restartIfChanged :
    Ends (restartIfChanged environment name) host ↔
      (environment.urlsChanged = true →
        environment.faults (.provision .restart) = none) := by
  unfold restartIfChanged
  cases environment.urlsChanged with
  | false => exact iff_of_true (ends_pure _) fun absurdity => by cases absurdity
  | true =>
      rw [if_pos rfl, provisionStep, ends_update_bind, ends_reach]
      exact ⟨fun clear _ => clear, fun clear => clear rfl⟩

theorem ends_restart_perform {change : Host Content → Host Content} :
    Ends (restartIfChanged environment name >>= fun _ =>
        perform environment.faults .markerRemove change) host ↔
      (environment.urlsChanged = true →
        environment.faults (.provision .restart) = none) ∧
        environment.faults .markerRemove = none :=
  (ends_bind_of_forall fun _ _ => ends_perform).trans
    (and_congr_left' ends_restartIfChanged)

theorem ends_provision :
    Ends (provision environment name) host ↔ Provisioned environment := by
  simp only [provision, prepareProject, startProject, provisionStep,
    bind_bind, ends_update_bind, ends_reach_bind, ends_runChecked_bind,
    ends_restart_perform]
  constructor
  · rintro ⟨project, verified, file, proto, directory, ready, up, started,
      ps, waiting, readiness, socketReady, urls, restarted, removed⟩
    refine ⟨fun step other => ?_, verified, ready, up, started, ps, waiting,
      socketReady, restarted, removed⟩
    cases step with
    | composeProject => exact project
    | environment => exact file
    | forwardedProto => exact proto
    | launcherDirectory => exact directory
    | readiness => exact readiness
    | publicUrls => exact urls
    | restart => exact absurd rfl other
  · intro provisioned
    have steps := provisioned.steps
    exact ⟨steps _ (by decide), provisioned.verified, steps _ (by decide),
      steps _ (by decide), steps _ (by decide),
      provisioned.environmentReady, provisioned.composeUp,
      provisioned.started, provisioned.composePs, provisioned.waiting,
      steps _ (by decide), provisioned.socketReady, steps _ (by decide),
      provisioned.restarted, provisioned.markerRemoved⟩

theorem readOnly_logExit (phase : RollbackPhase) (code : Nat) :
    ReadOnly (@logExit Content environment phase code) := by
  unfold logExit
  split
  · exact readOnly_pure _
  · exact readOnly_reach _

theorem composeDown_reached (phase : RollbackPhase) :
    (composeDown environment phase host).2 = issueDown host := by
  have rest : ReadOnly (reachEach environment.faults (.downLine phase)
        (environment.down phase).lines >>= fun _ =>
      lift (environment.down phase).outcome >>= fun code =>
        @logExit Content environment phase code) :=
    (readOnly_reachAll _).bind fun _ =>
      ReadOnly.lift_bind fun code => readOnly_logExit phase code
  exact rest (issueDown host)

theorem ends_composeDown {phase : RollbackPhase} :
    Ends (composeDown environment phase) host ↔
      DownEnds environment phase := by
  have logged : ∀ {code reached}, Ends
      (@logExit Content environment phase code) reached ↔
        (code ≠ 0 → environment.faults (.downExited phase) = none) := by
    intro code reached
    by_cases zero : code = 0
    · rw [logExit, if_pos zero]
      exact iff_of_true (ends_pure _) fun other => absurd zero other
    · rw [logExit, if_neg zero, ends_reach]
      exact ⟨fun clear _ => clear, fun clear => clear zero⟩
  rw [composeDown, ends_update_bind, ends_reachEach_bind, ends_lift_bind]
  simp only [logged]
  exact ⟨fun ends => ⟨ends.1, ends.2⟩, fun ends => ⟨ends.logged, ends.exited⟩⟩

theorem stopProject_reached (phase : RollbackPhase) :
    (stopProject environment phase host).2 = issueDown host := by
  have reached := @composeDown_reached Content environment host phase
  rcases run : composeDown environment phase host with
    ⟨failure | value, final⟩
  · rw [run] at reached
    rw [stopProject, handle_of_error run]
    exact (readOnly_reach _ _).trans reached
  · rw [run] at reached
    rw [stopProject, handle_of_ok run]
    exact reached

theorem ends_stopProject {phase : RollbackPhase} :
    Ends (stopProject environment phase) host ↔
      DownEnds environment phase ∨
        environment.faults (.downFailed phase) = none := by
  rw [← @ends_composeDown Content environment host phase]
  constructor
  · rintro ⟨value, final, run⟩
    rcases handle_eq_ok.mp run with ended | ⟨_, _, _, failed⟩
    · exact .inl ⟨value, final, ended⟩
    · exact .inr (reach_eq_ok.mp failed).1
  · intro either
    rcases run : composeDown environment phase host with
      ⟨failure | value, final⟩
    · have clear := either.resolve_left (by
        rintro ⟨_, _, ended⟩
        rw [run] at ended
        cases ended)
      exact ⟨(), final, (handle_of_error run _).trans
        (reach_eq_ok.mpr ⟨clear, rfl⟩)⟩
    · exact ⟨value, final, handle_of_ok run _⟩

end Ends

section Rollback

variable {environment : InstallEnvironment Content}
variable {host : Host Content} {name : String} {phase : RollbackPhase}

theorem isBelowRoot_of_isToken
    (token : isToken ['_', '-'] 63 name = true) : isBelowRoot name = true := by
  unfold isToken at token
  cases letters : name.toList with
  | nil =>
      rw [letters] at token
      cases token
  | cons first rest =>
      rw [letters] at token
      simp only [Bool.and_eq_true, List.all_eq_true] at token
      obtain ⟨⟨start, others⟩, -⟩ := token
      have slash : '/' ∉ name.toList := by
        rw [letters, List.mem_cons, not_or]
        constructor
        · rintro rfl
          cases start
        · intro member
          have allowed := others '/' member
          revert allowed
          decide
      have apart : ∀ text : String,
          (∀ letter ∈ text.toList.head?, letter.isAlphanum = false) →
            name ≠ text := by
        rintro text dots rfl
        rw [letters] at dots
        rw [dots first rfl] at start
        cases start
      have notEmpty : name ≠ "" := apart _ (by simp)
      have notDot : name ≠ "." := apart _ (by simp)
      have notDots : name ≠ ".." := apart _ (by simp)
      simp [isBelowRoot, slash, notEmpty, notDot, notDots]

theorem rollback_of_removes (below : isBelowRoot name = true)
    (removes : RollbackRemoves environment phase) :
    (rollbackFreshInstallation environment phase name host).2 =
      (issueDown host).setDirectory name none := by
  have inside : demandBelowRoot name = .ok () := if_pos below
  obtain ⟨value, reached, stop⟩ := ends_stopProject.mpr removes.down
  have final := @stopProject_reached Content environment host phase
  rw [stop] at final
  rw [rollbackFreshInstallation, bind_of_ok (by rw [lift_apply, inside]),
    bind_of_ok (reach_eq_ok.mpr ⟨removes.started, rfl⟩),
    bind_of_ok stop, bind_of_ok (update_apply _ _)]
  · rw [← final]
    exact readOnly_reach _ _
  · exact ()

theorem ends_rollback (below : isBelowRoot name = true) :
    Ends (rollbackFreshInstallation environment phase name) host ↔
      RollbackRemoves environment phase ∧
        environment.faults (.removed phase) = none := by
  have inside : demandBelowRoot name = .ok () := if_pos below
  have last : ∀ (value : Unit) (reached : Host Content), Ends
      (update (setDirectory name none) >>= fun _ =>
        reach environment.faults (.removed phase)) reached ↔
        environment.faults (.removed phase) = none :=
    fun _ _ => ends_update_bind.trans ends_reach
  rw [rollbackFreshInstallation, inside, ends_lift_bind]
  simp only [ends_reach_bind]
  rw [ends_bind_of_forall last, ends_stopProject]
  constructor
  · rintro ⟨_, -, started, down, removed⟩
    exact ⟨⟨started, down⟩, removed⟩
  · rintro ⟨removes, removed⟩
    exact ⟨(), trivial, removes.started, removes.down, removed⟩

theorem rollback_of_stuck (below : isBelowRoot name = true)
    (stuck : ¬ RollbackRemoves environment phase) :
    (rollbackFreshInstallation environment phase name host).2.directory =
        host.directory ∧
      (rollbackFreshInstallation environment phase name host).2.published =
        host.published := by
  have inside : demandBelowRoot name = .ok () := if_pos below
  rw [rollbackFreshInstallation, bind_of_ok (by rw [lift_apply, inside])]
  · cases started : environment.faults (.rollbackStarted phase) with
    | some problem =>
        have thrown : reach environment.faults (.rollbackStarted phase) host =
            (.error problem, host) := by
          rw [reach, lift_apply, outcomeAt_of_fault started]
        rw [bind_of_error thrown]
        exact ⟨rfl, rfl⟩
    | none =>
        have final := @stopProject_reached Content environment host phase
        rw [bind_of_ok (reach_eq_ok.mpr ⟨started, rfl⟩)]
        rcases run : stopProject environment phase host with
          ⟨failure | value, reached⟩
        · rw [run] at final
          rw [bind_of_error run, show reached = issueDown host from final]
          exact ⟨rfl, rfl⟩
        · have down := ends_stopProject.mp ⟨value, reached, run⟩
          exact absurd ⟨started, down⟩ stuck
        · exact ()

end Rollback

/-! ## What a call leaves alone -/

section Kept

variable {environment : InstallEnvironment Content}
variable {start : String → Option (Installation Content)}
variable {name : String} {host : Host Content}

/-- What is there under this name, if anything, is pending. -/
def Unfinished (start : String → Option (Installation Content))
    (name : String) : Prop :=
  ∀ installation, start name = some installation →
    installation.pending = true

theorem CompletedKept.setDirectory (unfinished : Unfinished start name)
    (kept : CompletedKept start host)
    (installation : Option (Installation Content)) :
    CompletedKept start (host.setDirectory name installation) := by
  intro other completed present done
  have different : other ≠ name := by
    rintro rfl
    rw [unfinished completed present] at done
    cases done
  rw [directory_setDirectory_of_ne different]
  exact kept other completed present done

variable {invariant : Host Content → Prop}

theorem keeps_runChecked {command : InstallCommand}
    {change : Host Content → Host Content}
    (kept : ∀ host, invariant host → invariant (change host)) :
    Keeps invariant (runChecked environment command change) := by
  unfold runChecked
  refine (readOnly_reach _).keeps.bind fun _ => ?_
  refine (keeps_update kept).bind fun _ => ?_
  exact (readOnly_reachAll _).keeps.bind fun _ => keeps_lift _

theorem keeps_perform {point : InstallPoint}
    {change : Host Content → Host Content}
    (kept : ∀ host, invariant host → invariant (change host)) :
    Keeps invariant (perform environment.faults point change) :=
  (readOnly_reach point).keeps.bind fun _ => keeps_update kept

theorem keeps_stopProject {phase : RollbackPhase}
    (kept : ∀ host, invariant host → invariant (issueDown host)) :
    Keeps invariant (stopProject environment phase) := by
  refine keeps_of_reached fun host holds => ?_
  rw [stopProject_reached]
  exact kept host holds

theorem keeps_rollback {phase : RollbackPhase}
    (down : ∀ host, invariant host → invariant (issueDown host))
    (removed : ∀ host, invariant host →
      invariant (host.setDirectory name none)) :
    Keeps invariant (rollbackFreshInstallation environment phase name) := by
  unfold rollbackFreshInstallation
  refine Keeps.lift_bind fun _ => (readOnly_reach _).keeps.bind fun _ => ?_
  refine (keeps_stopProject down).bind fun _ => ?_
  exact (keeps_update removed).bind fun _ => (readOnly_reach _).keeps

theorem keeps_provision
    (own : ∀ host change, invariant host →
      invariant (host.setDirectory name
        ((host.directory name).map change))) :
    Keeps invariant (provision environment name) := by
  have step : ∀ step, Keeps invariant
      (provisionStep environment name step) := fun step =>
    (keeps_update fun host holds => own host _ holds).bind fun _ =>
      (readOnly_reach _).keeps
  have restart : Keeps invariant (restartIfChanged environment name) := by
    unfold restartIfChanged
    split
    · exact step _
    · exact keeps_pure _
  unfold provision prepareProject startProject
  refine Keeps.bind ?_ fun _ => Keeps.bind ?_ fun _ => ?_
  · refine (step _).bind fun _ => (readOnly_reach _).keeps.bind fun _ => ?_
    refine (step _).bind fun _ => (step _).bind fun _ => ?_
    exact (step _).bind fun _ => (readOnly_reach _).keeps
  · refine (keeps_runChecked fun host holds => own host _ holds).bind
      fun _ => (readOnly_reach _).keeps.bind fun _ => ?_
    refine (keeps_runChecked fun host holds => own host _ holds).bind
      fun _ => (readOnly_reach _).keeps.bind fun _ => ?_
    exact (step _).bind fun _ => (readOnly_reach _).keeps
  · refine (step _).bind fun _ => restart.bind fun _ => ?_
    exact keeps_perform fun host holds => own host _ holds

/-- Nothing is published yet, and every completed installation is there. -/
structure Unpublished (start : String → Option (Installation Content))
    (host : Host Content) : Prop where
  published : host.published = false
  kept : CompletedKept start host

structure Staged (start : String → Option (Installation Content))
    (staging : String) (host : Host Content) : Prop extends
    Unpublished start host where
  staged : (host.directory staging).isSome

/-- This call's directory is there, and so is every completed
installation. -/
structure Standing (start : String → Option (Installation Content))
    (name : String) (host : Host Content) : Prop where
  published : host.published = true
  standing : (host.directory name).isSome
  kept : CompletedKept start host

theorem Unpublished.setDirectory {other : String}
    (unfinished : Unfinished start other)
    (unpublished : Unpublished start host)
    (installation : Option (Installation Content)) :
    Unpublished start (host.setDirectory other installation) :=
  ⟨unpublished.published, unpublished.kept.setDirectory unfinished _⟩

theorem Staged.setDirectory {staging : String}
    (fresh : Unfinished start staging) (staged : Staged start staging host)
    (change : Installation Content → Installation Content) :
    Staged start staging
      (host.setDirectory staging ((host.directory staging).map change)) where
  toUnpublished := staged.toUnpublished.setDirectory fresh _
  staged := by
    rw [directory_setDirectory_self, Option.isSome_map]
    exact staged.staged

theorem Standing.setDirectory (unfinished : Unfinished start name)
    (standing : Standing start name host)
    (change : Installation Content → Installation Content) :
    Standing start name
      (host.setDirectory name ((host.directory name).map change)) where
  published := standing.published
  standing := by
    rw [directory_setDirectory_self, Option.isSome_map]
    exact standing.standing
  kept := standing.kept.setDirectory unfinished _

theorem Staged.publish {staging : String}
    (unfinished : Unfinished start name) (fresh : Unfinished start staging)
    (apart : name ≠ staging) (staged : Staged start staging host) :
    Standing start name (publish staging name host) where
  published := rfl
  standing := by
    have moved : (Host.publish staging name host).directory name =
        host.directory staging :=
      (directory_setDirectory_of_ne apart _ _).trans
        (directory_setDirectory_self _ _ _)
    rw [moved]
    exact staged.staged
  kept := (staged.kept.setDirectory unfinished _).setDirectory fresh _

theorem keeps_recoverIncomplete (unfinished : Unfinished start name)
    (present : Option (Installation Content)) :
    Keeps (Unpublished start)
      (recoverIncomplete environment name present) := by
  cases present with
  | none => exact keeps_pure _
  | some installation =>
      refine (readOnly_reach _).keeps.bind fun _ => ?_
      split
      · refine (readOnly_reach _).keeps.bind fun _ => ?_
        refine keeps_rollback ?_ fun _ holds => holds.setDirectory unfinished _
        exact fun _ holds => ⟨holds.published, holds.kept⟩
      · exact keeps_throw _

theorem triple_stageOrRemove (unfinished : Unfinished start name)
    (fresh : Unfinished start (stagingName environment name))
    (apart : name ≠ stagingName environment name) :
    Triple (Unpublished start) (stageOrRemove environment name)
      (fun _ => Standing start name) (fun _ => Unpublished start) := by
  have clone : Triple (Unpublished start)
      (runChecked environment .clone
        (setDirectory (stagingName environment name)
          (some ⟨false, environment.source⟩)))
      (fun _ => Staged start (stagingName environment name))
      (fun _ => Unpublished start) := by
    have staged : Triple (Unpublished start)
        (update (setDirectory (stagingName environment name)
          (some ⟨false, environment.source⟩)) :
          Program (Host Content) String Unit)
        (fun _ => Staged start (stagingName environment name))
        (fun _ => Unpublished start) := by
      intro host unpublished
      refine ⟨unpublished.setDirectory fresh _, ?_⟩
      rw [directory_setDirectory_self]
      rfl
    have rest : Keeps (Staged start (stagingName environment name))
        (reachEach environment.faults (.line .clone)
            (environment.commands .clone).lines >>= fun _ =>
          lift (demandExit (describe environment.sourceRevision .clone)
            (environment.commands .clone).outcome)) :=
      (readOnly_reachAll _).keeps.bind fun _ => keeps_lift _
    unfold runChecked
    refine Triple.bind (readOnly_reach _).keeps fun _ => ?_
    refine Triple.bind staged fun _ => ?_
    exact rest.weaken (fun _ holds => holds) (fun _ _ holds => holds)
      (fun _ _ holds => holds.toUnpublished)
  have checkout : Keeps (Staged start (stagingName environment name))
      (runChecked environment .checkout
        (changeContent (stagingName environment name)
          (environment.commandChange .checkout))) :=
    keeps_runChecked fun _ holds => holds.setDirectory fresh _
  have marked : Keeps (Staged start (stagingName environment name))
      (perform environment.faults .markerWrite
        (setMarker (stagingName environment name) true)) :=
    keeps_perform fun _ holds => holds.setDirectory fresh _
  have renamed : Triple (Staged start (stagingName environment name))
      (perform environment.faults .rename
        (publish (stagingName environment name) name))
      (fun _ => Standing start name)
      (fun _ => Staged start (stagingName environment name)) :=
    Triple.bind (readOnly_reach _).keeps fun _ _ holds =>
      holds.publish unfinished fresh apart
  have later := Triple.bind checkout fun _ =>
    Triple.bind marked fun _ => renamed
  unfold stageOrRemove stageClone
  refine Triple.handle (fun _ => Unpublished start)
    (Triple.bind clone fun _ => later.weaken (fun _ holds => holds)
      (fun _ _ holds => holds) fun _ _ holds => holds.toUnpublished)
    fun problem => ?_
  have removed : Keeps (Unpublished start)
      (update (setDirectory (stagingName environment name) none) :
        Program (Host Content) String Unit) :=
    keeps_update fun _ holds => holds.setDirectory fresh _
  exact Triple.bind removed fun _ _ holds => holds

theorem triple_publishClone (unfinished : Unfinished start name)
    (fresh : Unfinished start (stagingName environment name))
    (apart : name ≠ stagingName environment name) :
    Triple (Unpublished start) (publishClone environment name)
      (fun _ => Standing start name) (fun _ => Unpublished start) := by
  unfold publishClone
  refine Triple.bind (readOnly_reach _).keeps fun _ => ?_
  refine Triple.bind (readOnly_reach _).keeps fun _ => ?_
  refine Triple.bind readOnly_get.keeps fun host => ?_
  refine Triple.bind (keeps_recoverIncomplete unfinished _) fun _ => ?_
  refine Triple.bind (readOnly_reach _).keeps fun _ => ?_
  exact triple_stageOrRemove unfinished fresh apart

theorem stagingName_ne (environment : InstallEnvironment Content)
    (name : String) : name ≠ stagingName environment name := by
  intro same
  have lengths := congrArg String.length same
  have infix_ : ".staging-".length = 9 := by decide
  rw [stagingName, String.length_append, String.length_append, infix_]
    at lengths
  omega

end Kept

section Publication

variable {environment : InstallEnvironment Content}
variable {start : String → Option (Installation Content)}
variable {name : String} {host : Host Content}

theorem ends_recoverIncomplete (below : isBelowRoot name = true)
    {present : Option (Installation Content)} :
    Ends (recoverIncomplete environment name present) host ↔
      ∀ installation, present = some installation →
        Recovered environment installation := by
  cases present with
  | none =>
      exact iff_of_true (ends_pure _) fun _ absurdity => by cases absurdity
  | some installation =>
      rw [recoverIncomplete, ends_reach_bind]
      cases pending : installation.pending with
      | false =>
          rw [if_neg Bool.false_ne_true]
          refine iff_of_false (fun ends => not_ends_throw _ ends.2)
            fun recovered => ?_
          have marked := (recovered installation rfl).pending
          rw [pending] at marked
          cases marked
      | true =>
          rw [if_pos rfl, ends_reach_bind, ends_rollback below]
          constructor
          · rintro ⟨inspected, recovering, removes, removed⟩ _ same
            cases same
            exact ⟨inspected, pending, recovering, removes, removed⟩
          · intro recovered
            have steps := recovered installation rfl
            exact ⟨steps.markerInspected, steps.recovering, steps.removes,
              steps.removed⟩

theorem ends_stageOrRemove :
    Ends (stageOrRemove environment name) host ↔
      CommandEnds environment .clone ∧ CommandEnds environment .checkout ∧
        environment.faults .markerWrite = none ∧
          environment.faults .rename = none := by
  rw [stageOrRemove, ends_recover, stageClone, ends_runChecked_bind,
    ends_runChecked_bind, ends_perform_bind, ends_perform]

theorem ends_publishClone (below : isBelowRoot name = true) :
    Ends (publishClone environment name) host ↔
      environment.faults .rootCreated = none ∧
        environment.faults .inspected = none ∧
          (∀ installation, host.directory name = some installation →
            Recovered environment installation) ∧
            environment.faults .cloning = none ∧
              CommandEnds environment .clone ∧
                CommandEnds environment .checkout ∧
                  environment.faults .markerWrite = none ∧
                    environment.faults .rename = none := by
  have later : ∀ (value : Unit) (reached : Host Content), Ends
      (reach environment.faults .cloning >>= fun _ =>
        stageOrRemove environment name) reached ↔
        environment.faults .cloning = none ∧
          CommandEnds environment .clone ∧ CommandEnds environment .checkout ∧
            environment.faults .markerWrite = none ∧
              environment.faults .rename = none := by
    intro value reached
    rw [ends_reach_bind, ends_stageOrRemove]
  rw [publishClone, ends_reach_bind, ends_reach_bind, ends_get_bind,
    ends_bind_of_forall later, ends_recoverIncomplete below]

theorem isToken_of_validateInput {input : InstallInput}
    (valid : validateInput input = .ok ()) :
    isToken ['_', '-'] 63 input.installationName = true := by
  unfold validateInput at valid
  split at valid
  · cases valid
  · rename_i token
    simpa using token

theorem published_iff {input : InstallInput} :
    Published environment input start ↔
      validateInput input = .ok () ∧
        environment.faults .validated = none ∧
          Ends (publishClone environment input.installationName)
            (.before start) := by
  constructor
  · intro steps
    have below := isBelowRoot_of_isToken
      (isToken_of_validateInput steps.valid)
    refine ⟨steps.valid, steps.validated, (ends_publishClone below).mpr ?_⟩
    exact ⟨steps.rootCreated, steps.inspected, steps.recovered,
      steps.cloning, steps.clone, steps.checkout, steps.marked,
      steps.renamed⟩
  · rintro ⟨valid, validated, ends⟩
    have below := isBelowRoot_of_isToken (isToken_of_validateInput valid)
    obtain ⟨rootCreated, inspected, recovered, cloning, clone, checkout,
      marked, renamed⟩ := (ends_publishClone below).mp ends
    exact ⟨valid, validated, rootCreated, inspected, recovered, cloning,
      clone, checkout, marked, renamed⟩

end Publication

section Whole

variable {environment : InstallEnvironment Content}
variable {start : String → Option (Installation Content)}
variable {name : String} {host : Host Content}

/-- What the claim asks of a call that throws. -/
structure InstallUndone (start : String → Option (Installation Content))
    (name : String) (host : Host Content) : Prop where
  removed : CreatedRemoved name host
  kept : CompletedKept start host

theorem Unpublished.undone (unpublished : Unpublished start host) :
    InstallUndone start name host := by
  refine ⟨fun published => ?_, unpublished.kept⟩
  rw [unpublished.published] at published
  cases published

theorem Standing.not_undone (standing : Standing start name host) :
    ¬ InstallUndone start name host := by
  intro undone
  have present := standing.standing
  rw [(undone.removed standing.published).1] at present
  cases present

theorem Standing.rollback_iff (below : isBelowRoot name = true)
    (unfinished : Unfinished start name)
    (standing : Standing start name host) :
    InstallUndone start name
        (rollbackFreshInstallation environment .failure name host).2 ↔
      RollbackRemoves environment .failure := by
  by_cases removes : RollbackRemoves environment .failure
  · refine iff_of_true ?_ removes
    rw [rollback_of_removes below removes]
    constructor
    · exact fun _ => ⟨directory_setDirectory_self _ _ _, rfl⟩
    · exact CompletedKept.setDirectory unfinished standing.kept none
  · refine iff_of_false (fun undone => ?_) removes
    obtain ⟨same, published⟩ :=
      @rollback_of_stuck Content environment host name .failure below removes
    refine standing.not_undone ⟨fun _ => ?_, standing.kept⟩
    have both := undone.removed (published.trans standing.published)
    have present := standing.standing
    rw [← same, both.1] at present
    cases present

theorem keeps_provision_standing (unfinished : Unfinished start name) :
    Keeps (Standing start name) (provision environment name) :=
  keeps_provision fun _ change holds => holds.setDirectory unfinished change

/-- Once the directory is published, its removal depends on the job not being
cancelled before the rollback gets there. -/
theorem throwsInto_afterPublication (below : isBelowRoot name = true)
    (unfinished : Unfinished start name)
    (standing : Standing start name host) {result : InstallResult} :
    ThrowsInto (InstallUndone start name)
        (reach environment.faults .cloned >>= fun _ =>
          provisionOrRollBack environment name >>= fun _ => pure result)
        host ↔
      environment.faults .cloned = none ∧
        (¬ Provisioned environment →
          RollbackRemoves environment .failure) := by
  have provisioned : ThrowsInto (InstallUndone start name)
      (provisionOrRollBack environment name) host ↔
        (¬ Provisioned environment →
          RollbackRemoves environment .failure) := by
    have kept := (@keeps_provision_standing _ environment start name
      unfinished).throwsInto_iff standing fun reached holds =>
        @Standing.rollback_iff _ environment _ _ _ below unfinished holds
    rw [ends_provision] at kept
    exact throwsInto_recover.trans kept
  rw [throwsInto_reach_bind, throwsInto_bind_pure, provisioned]
  constructor
  · rintro ⟨cloned, later⟩
    have clear := not_not.mp (mt cloned standing.not_undone)
    exact ⟨clear, later clear⟩
  · rintro ⟨cloned, later⟩
    exact ⟨fun fault => absurd cloned fault, fun _ => later⟩

theorem recoverIncomplete_completed {installation : Installation Content}
    (done : installation.pending = false) :
    ReadOnly (recoverIncomplete environment name (some installation)) ∧
      ∀ host, ¬ Ends
        (recoverIncomplete environment name (some installation)) host := by
  have rest : (if installation.pending = true then
        reach environment.faults .recovering >>= fun _ =>
          rollbackFreshInstallation environment .recovery name
      else
        throw ("Installation path already exists: " ++ name) :
        Program (Host Content) String Unit) =
      throw ("Installation path already exists: " ++ name) := by
    rw [done, if_neg Bool.false_ne_true]
  rw [recoverIncomplete, rest]
  constructor
  · exact (readOnly_reach _).bind fun _ _ => rfl
  · intro host ends
    exact not_ends_throw _ (ends_reach_bind.mp ends).2

theorem throwsInto_publishClone (below : isBelowRoot name = true)
    (fresh : start (stagingName environment name) = none) :
    ThrowsInto (InstallUndone start name) (publishClone environment name)
        (.before start) ∧
      ∀ value reached, publishClone environment name (.before start) =
          (.ok value, reached) →
        Unfinished start name ∧ Standing start name reached := by
  have unpublished : Unpublished start (.before start) :=
    ⟨rfl, fun _ _ present _ => present⟩
  have freshStaging : Unfinished start (stagingName environment name) := by
    intro installation present
    rw [fresh] at present
    cases present
  by_cases unfinished : Unfinished start name
  · have run := triple_publishClone unfinished freshStaging
      (stagingName_ne environment name) _ unpublished
    constructor
    · intro problem reached thrown
      rw [thrown] at run
      exact run.undone
    · intro value reached ended
      rw [ended] at run
      exact ⟨unfinished, run⟩
  · obtain ⟨installation, present, done⟩ : ∃ installation,
        start name = some installation ∧ installation.pending = false := by
      simpa [Unfinished] using unfinished
    obtain ⟨readOnly, stuck⟩ :=
      @recoverIncomplete_completed _ environment name installation done
    have here : (Host.before start).directory name = some installation :=
      present
    constructor
    · rw [publishClone]
      refine throwsInto_reach_bind.mpr
        ⟨fun _ => unpublished.undone, fun _ => ?_⟩
      refine throwsInto_reach_bind.mpr
        ⟨fun _ => unpublished.undone, fun _ => ?_⟩
      rw [throwsInto_get_bind, here,
        readOnly.throwsInto_bind unpublished.undone]
      exact fun value ended => absurd ⟨value, _, ended⟩ (stuck _)
    · intro value reached ended
      have steps := (ends_publishClone below).mp ⟨value, reached, ended⟩
      have pending := (steps.2.2.1 installation here).pending
      rw [done] at pending
      cases pending

end Whole

/-- A fresh installation that throws has removed the directory it created, and
every completed installation is as it was, exactly when the job is not
cancelled where the rollback does not reach. -/
theorem install_rolls_back_iff
    {environment : InstallEnvironment Content} {input : InstallInput}
    {start : String → Option (Installation Content)}
    (fresh : start (stagingName environment input.installationName) = none) :
    ThrowsInto (InstallUndone start input.installationName)
        (install environment input) (.before start) ↔
      InstallSafe environment input start := by
  have undone : InstallUndone start input.installationName
      (.before start) :=
    ⟨(fun published => by cases published), fun _ _ present _ => present⟩
  rw [install, (readOnly_lift _).throwsInto_bind undone]
  constructor
  · intro throws
    have safe : Published environment input start →
        environment.faults .cloned = none ∧
          (¬ Provisioned environment →
            RollbackRemoves environment .failure) := by
      intro published
      obtain ⟨valid, validated, value, reached, publication⟩ :=
        published_iff.mp published
      have below := isBelowRoot_of_isToken (isToken_of_validateInput valid)
      have run := throws () (by rw [lift_apply, valid])
      rw [throwsInto_reach_bind, cloneSource, bind_bind,
        throwsInto_bind] at run
      obtain ⟨unfinished, standing⟩ :=
        (throwsInto_publishClone below fresh).2 value reached publication
      exact (throwsInto_afterPublication below unfinished standing).mp
        ((run.2 validated).2 value reached publication)
    exact ⟨fun published => (safe published).1,
      fun published => (safe published).2⟩
  · intro safe value valid
    have accepted : validateInput input = .ok () := (Prod.mk.inj valid).1
    have below := isBelowRoot_of_isToken (isToken_of_validateInput accepted)
    obtain ⟨harmless, ended⟩ :=
      @throwsInto_publishClone _ environment start _ below fresh
    refine throwsInto_reach_bind.mpr ⟨fun _ => undone, fun validated => ?_⟩
    rw [cloneSource, bind_bind]
    refine throwsInto_bind.mpr ⟨harmless, fun value reached publication => ?_⟩
    obtain ⟨unfinished, standing⟩ := ended value reached publication
    have published := published_iff.mpr
      ⟨accepted, validated, value, reached, publication⟩
    exact (throwsInto_afterPublication below unfinished standing).mpr
      ⟨safe.cloned published, safe.rolledBack published⟩

def sampleInput : InstallInput where
  installationName := "survival"
  address := "launcher.example.org"
  projectName := "survival"

def sampleInstall (faults : InstallPoint → Option String) :
    InstallEnvironment Unit where
  faults := faults
  uuid := "4b1f"
  sourceRevision := "755e5509b1f573817a977b4180a2f84517619025"
  commands := fun _ => ⟨0, .ok 0⟩
  down := fun _ => ⟨0, .ok 0⟩
  source := ()
  commandChange := fun _ => id
  change := fun _ => id
  environmentBackupPath := none
  urlsChanged := false

def cancelledOnceCloned (point : InstallPoint) : Option String :=
  if point = .cloned then some "Job cancelled by user" else none

/-- Without a failure the installation is safe. -/
theorem sample_install_rolls_back :
    ThrowsInto (InstallUndone (fun _ => none) sampleInput.installationName)
      (install (sampleInstall fun _ => none) sampleInput)
        (.before fun _ => none) := by
  refine (install_rolls_back_iff rfl).mpr ⟨fun _ => rfl, fun _ failed => ?_⟩
  have command : ∀ command,
      CommandEnds (sampleInstall fun _ => none) command :=
    fun _ => ⟨rfl, fun _ _ => rfl, rfl⟩
  exact absurd ⟨fun _ _ => rfl, rfl, rfl, command _, rfl, command _, rfl, rfl,
    fun _ => rfl, rfl⟩ failed

/-- The clone stays where it was published. -/
theorem cancelled_clone_stays :
    ¬ ThrowsInto
      (InstallUndone (fun _ => none) sampleInput.installationName)
      (install (sampleInstall cancelledOnceCloned) sampleInput)
        (.before fun _ => none) := by
  intro throws
  have undone := throws "Job cancelled by user"
    (install (sampleInstall cancelledOnceCloned) sampleInput
      (.before fun _ => none)).2 (by
        refine Prod.ext ?_ rfl
        decide +kernel)
  have gone := (undone.removed (by decide +kernel)).1
  revert gone
  decide +kernel

end GravitPanel.LauncherDockered
