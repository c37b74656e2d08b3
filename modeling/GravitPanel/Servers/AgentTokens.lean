import GravitPanel.Core.Execution
import GravitPanel.Servers.BootstrapHistory

/-!
# Tokens of the host agents

An agent says hello with a token, and its hash names a binding.  The token came
with the report of a script, the script with a claim, the claim with an
issuance, the issuance with a bundle, and the bundle with the consent to the
EULA.
-/

namespace GravitPanel.Servers

open GravitPanel.Execution GravitPanel.History Program

def PendingPreparation.unprepared (pending : PendingPreparation) :
    Option String :=
  match pending.phase with
  | .cleaning _ => none
  | _ => some pending.draft.id

/-- The drafts whose preparation may still make them ready. -/
def BootstrapRun.unprepared (run : BootstrapRun) : List String :=
  run.queued.map Prod.snd ++
    run.preparing.filterMap PendingPreparation.unprepared

/-- The draft has never been prepared, and no preparation of it waits. -/
structure FreeDraft (run : BootstrapRun) (history : List BootstrapRecord)
    (draftId : String) : Prop where
  idle : draftId ∉ run.unprepared
  drawn : draftId ∈ run.drawn
  never : ∀ config artifacts, .prepared draftId config artifacts ∉ history

structure KeptRun (environment : BootstrapEnvironment) (run : BootstrapRun)
    (history : List BootstrapRecord) : Prop where
  justified : JustifiedHistory history
  tables : BootstrapTables history run.state
  drawn : ∀ draftId bindingId, .created draftId bindingId ∈ history →
    draftId ∈ run.drawn
  distinct : run.unprepared.Nodup
  fresh : ∀ draftId ∈ run.unprepared, draftId ∈ run.drawn ∧
    ∀ config artifacts, .prepared draftId config artifacts ∉ history
  owners : ∀ pending ∈ run.preparing,
    .created pending.draft.id pending.draft.bindingId ∈ history
  claims : ∀ pending ∈ run.starting,
    .opened (environment.hash pending.claim) pending.draft.id ∈ history ∧
      ∀ config, pending.draft.config = .prepared config →
        ∃ artifacts, .prepared pending.draft.id config artifacts ∈ history

/-- The record neither creates nor prepares a draft. -/
def PlainRecord : BootstrapRecord → Prop
  | .created _ _ => False
  | .prepared _ _ _ => False
  | _ => True

section Waiting

variable {environment : BootstrapEnvironment} {run : BootstrapRun}
variable {history : List BootstrapRecord} {record : BootstrapRecord}
variable {state : BootstrapState} {draft : DraftRow}

theorem KeptRun.silent (kept : KeptRun environment run history)
    (tables : BootstrapTables history state) :
    KeptRun environment { run with state } (history ++ []) := by
  rw [List.append_nil]
  exact ⟨kept.justified, tables, kept.drawn, kept.distinct, kept.fresh,
    kept.owners, kept.claims⟩

theorem KeptRun.concat (kept : KeptRun environment run history)
    (justified : JustifiedRecord history record)
    (tables : BootstrapTables (history ++ [record]) state)
    (plain : PlainRecord record) :
    KeptRun environment { run with state } (history ++ [record]) where
  justified := kept.justified.concat justified
  tables := tables
  drawn draftId bindingId member := by
    rcases List.mem_append.mp member with old | new
    · exact kept.drawn draftId bindingId old
    · rw [← List.mem_singleton.mp new] at plain
      exact plain.elim
  distinct := kept.distinct
  fresh draftId member := by
    obtain ⟨drawn, never⟩ := kept.fresh draftId member
    refine ⟨drawn, fun config artifacts present => ?_⟩
    rcases List.mem_append.mp present with old | new
    · exact never config artifacts old
    · rw [← List.mem_singleton.mp new] at plain
      exact plain.elim
  owners pending member :=
    List.mem_append_left _ (kept.owners pending member)
  claims pending member := by
    obtain ⟨opened, prepared⟩ := kept.claims pending member
    refine ⟨List.mem_append_left _ opened, fun config same => ?_⟩
    obtain ⟨artifacts, present⟩ := prepared config same
    exact ⟨artifacts, List.mem_append_left _ present⟩

theorem unprepared_prepares (run : BootstrapRun) (draft : DraftRow)
    (phase : PreparationPhase) :
    (run.prepares draft phase).unprepared = run.unprepared ++
      (PendingPreparation.unprepared ⟨draft, phase⟩).toList := by
  unfold BootstrapRun.unprepared BootstrapRun.prepares
  rw [List.filterMap_append, List.append_assoc, List.filterMap_cons]
  cases PendingPreparation.unprepared ⟨draft, phase⟩ <;> rfl

theorem KeptRun.prepares {phase : PreparationPhase}
    (kept : KeptRun environment run history)
    (created : .created draft.id draft.bindingId ∈ history)
    (free : ∀ draftId ∈ PendingPreparation.unprepared ⟨draft, phase⟩,
      FreeDraft run history draftId) :
    KeptRun environment (run.prepares draft phase) history where
  justified := kept.justified
  tables := kept.tables
  drawn := kept.drawn
  distinct := by
    rw [unprepared_prepares]
    refine List.nodup_append.mpr ⟨kept.distinct, ?_, ?_⟩
    · cases PendingPreparation.unprepared ⟨draft, phase⟩ with
      | none => exact List.nodup_nil
      | some draftId => exact List.nodup_singleton draftId
    · intro first one second two same
      subst same
      exact (free first (Option.mem_toList.mp two)).idle one
  fresh draftId member := by
    rw [unprepared_prepares] at member
    rcases List.mem_append.mp member with old | new
    · exact kept.fresh draftId old
    · have fresh := free draftId (Option.mem_toList.mp new)
      exact ⟨fresh.drawn, fresh.never⟩
  owners pending member := by
    rcases List.mem_append.mp member with old | new
    · exact kept.owners pending old
    · rw [List.mem_singleton.mp new]
      exact created
  claims := kept.claims

theorem KeptRun.without (kept : KeptRun environment run history)
    (queued : List (String × String)) (preparing : List PendingPreparation)
    (draftId : Option String)
    (same : run.unprepared.Perm
      (draftId.toList ++ (queued.map Prod.snd ++
        preparing.filterMap PendingPreparation.unprepared)))
    (owners : ∀ pending ∈ preparing, pending ∈ run.preparing) :
    KeptRun environment { run with queued, preparing } history ∧
      ∀ id ∈ draftId, FreeDraft { run with queued, preparing } history id := by
  have distinct := same.nodup_iff.mp kept.distinct
  obtain ⟨-, rest, apart⟩ := List.nodup_append.mp distinct
  have inside : ∀ id ∈ draftId.toList ++ (queued.map Prod.snd ++
      preparing.filterMap PendingPreparation.unprepared),
      id ∈ run.drawn ∧
        ∀ config artifacts, .prepared id config artifacts ∉ history :=
    fun id member => kept.fresh id (same.mem_iff.mpr member)
  refine ⟨⟨kept.justified, kept.tables, kept.drawn, rest, ?_, ?_,
    kept.claims⟩, ?_⟩
  · exact fun id member => inside id (List.mem_append_right _ member)
  · exact fun pending member => kept.owners pending (owners pending member)
  · intro id taken
    have listed := Option.mem_toList.mpr taken
    obtain ⟨drawn, never⟩ := inside id (List.mem_append_left _ listed)
    exact ⟨fun member => apart id listed id member rfl, drawn, never⟩

theorem KeptRun.takeQueued {index : Nat} {item : String × String}
    {queued : List (String × String)}
    (kept : KeptRun environment run history)
    (taken : takeAt run.queued index = some (item, queued)) :
    KeptRun environment { run with queued } history ∧
      FreeDraft { run with queued } history item.2 := by
  have parts := kept.without queued run.preparing (some item.2)
    (((takeAt_perm taken).map Prod.snd).append_right _)
    (fun pending member => member)
  exact ⟨parts.1, parts.2 item.2 rfl⟩

theorem KeptRun.takePreparing {index : Nat} {item : PendingPreparation}
    {preparing : List PendingPreparation}
    (kept : KeptRun environment run history)
    (taken : takeAt run.preparing index = some (item, preparing)) :
    KeptRun environment { run with preparing } history ∧
      (∀ id ∈ item.unprepared, FreeDraft { run with preparing } history id) ∧
        .created item.draft.id item.draft.bindingId ∈ history := by
  have shape := takeAt_perm taken
  have same : run.unprepared.Perm (item.unprepared.toList ++
      (run.queued.map Prod.snd ++
        preparing.filterMap PendingPreparation.unprepared)) := by
    have mapped := shape.filterMap PendingPreparation.unprepared
    have split : (item :: preparing).filterMap PendingPreparation.unprepared =
        item.unprepared.toList ++
          preparing.filterMap PendingPreparation.unprepared := by
      rw [List.filterMap_cons]
      cases item.unprepared <;> rfl
    rw [split] at mapped
    refine (mapped.append_left (run.queued.map Prod.snd)).trans ?_
    rw [← List.append_assoc, ← List.append_assoc]
    exact List.perm_append_comm.append_right _
  have parts := kept.without run.queued preparing item.unprepared same
    fun pending member =>
      shape.mem_iff.mpr (List.mem_cons_of_mem item member)
  exact ⟨parts.1, parts.2,
    kept.owners item (shape.mem_iff.mpr List.mem_cons_self)⟩

theorem KeptRun.takeStarting {index : Nat} {item : PendingStart}
    {starting : List PendingStart} (kept : KeptRun environment run history)
    (taken : takeAt run.starting index = some (item, starting)) :
    KeptRun environment { run with starting } history ∧
      item ∈ run.starting := by
  have shape := takeAt_perm taken
  refine ⟨⟨kept.justified, kept.tables, kept.drawn, kept.distinct, kept.fresh,
    kept.owners, ?_⟩, shape.mem_iff.mpr List.mem_cons_self⟩
  exact fun pending member =>
    kept.claims pending (shape.mem_iff.mpr (List.mem_cons_of_mem item member))

end Waiting

/-! ## Steps -/

section Steps

open ServerBootstrapService

variable {environment : BootstrapEnvironment} {run : BootstrapRun}
variable {history : List BootstrapRecord}

theorem kept_accepted (kept : KeptRun environment run history)
    (installationId bindingId accepted : String) (now : Nat) :
    KeptRun environment
      (acceptedStep run installationId bindingId accepted now).1
      (history ++
        (acceptedStep run installationId bindingId accepted now).2) := by
  unfold acceptedStep
  cases result : acceptEula installationId bindingId accepted now run.state with
  | mk outcome state =>
      cases outcome with
      | error problem =>
          rw [acceptEula_error result]
          exact kept.silent kept.tables
      | ok _ =>
          exact kept.concat trivial (kept.tables.acceptEula result)
            trivial

theorem JustifiedHistory.created_of_prepared {draftId : String}
    {config : BootstrapConfig} {artifacts : BootstrapArtifacts}
    (justified : JustifiedHistory history)
    (prepared : .prepared draftId config artifacts ∈ history) :
    ∃ bindingId, .created draftId bindingId ∈ history := by
  obtain ⟨before, after, rfl⟩ := List.append_of_mem prepared
  obtain ⟨bindingId, created⟩ := (justified before _ after rfl).1
  exact ⟨bindingId, List.mem_append_left _ created⟩

theorem kept_requested_draft (kept : KeptRun environment run history)
    {installationId bindingId id : String} (fresh : id ∉ run.drawn)
    (now : Nat) :
    KeptRun environment (requestedStep run installationId bindingId id now).1
      (history ++ (requestedStep run installationId bindingId id now).2) := by
  unfold requestedStep
  cases result : createDraft installationId bindingId id now run.state with
  | mk outcome state =>
      cases outcome with
      | error problem =>
          rw [createDraft_error result]
          exact kept.silent kept.tables
      | ok draft =>
          have unused : ∀ row ∈ run.state.drafts, row.id ≠ id := by
            rintro row member rfl
            exact fresh (kept.drawn _ _ (kept.tables.drafts row member).created)
          have never : ∀ config artifacts, .prepared id config artifacts ∉
              history := by
            intro config artifacts present
            obtain ⟨other, created⟩ :=
              kept.justified.created_of_prepared present
            exact fresh (kept.drawn _ _ created)
          obtain ⟨consent, tables⟩ := kept.tables.createDraft unused result
          have justified :
              JustifiedHistory (history ++ [.created id bindingId]) :=
            kept.justified.concat
              ⟨consent, fun other old => fresh (kept.drawn _ _ old)⟩
          have shape : (List.map Prod.snd (run.queued ++ [(installationId, id)])
              ++ run.preparing.filterMap PendingPreparation.unprepared).Perm
                (id :: run.unprepared) := by
            rw [List.map_append, List.append_assoc]
            exact List.perm_middle
          refine ⟨justified, tables, ?_, ?_, ?_, ?_, ?_⟩
          · intro draftId owner member
            rcases List.mem_append.mp member with old | new
            · exact List.mem_cons_of_mem id (kept.drawn _ _ old)
            · cases List.mem_singleton.mp new
              exact List.mem_cons_self
          · refine shape.nodup_iff.mpr (List.nodup_cons.mpr ⟨?_, kept.distinct⟩)
            exact fun waits => fresh (kept.fresh id waits).1
          · intro draftId member
            have apart : ∀ config artifacts,
                BootstrapRecord.prepared draftId config artifacts ≠
                  .created id bindingId := fun _ _ same => by cases same
            rcases List.mem_cons.mp (shape.mem_iff.mp member) with rfl | old
            · refine ⟨List.mem_cons_self, fun config artifacts present => ?_⟩
              rcases List.mem_append.mp present with old | new
              · exact never config artifacts old
              · exact apart _ _ (List.mem_singleton.mp new)
            · obtain ⟨drawn, unprepared⟩ := kept.fresh draftId old
              refine ⟨List.mem_cons_of_mem id drawn, ?_⟩
              intro config artifacts present
              rcases List.mem_append.mp present with old | new
              · exact unprepared config artifacts old
              · exact apart _ _ (List.mem_singleton.mp new)
          · exact fun pending member =>
              List.mem_append_left _ (kept.owners pending member)
          · intro pending member
            obtain ⟨opened, prepared⟩ := kept.claims pending member
            refine ⟨List.mem_append_left _ opened, fun config same => ?_⟩
            obtain ⟨artifacts, present⟩ := prepared config same
            exact ⟨artifacts, List.mem_append_left _ present⟩

theorem kept_failed (kept : KeptRun environment run history)
    (draft : DraftRow) (problem : String) (now : Nat) :
    KeptRun environment (failedStep run draft problem now).1
      (history ++ (failedStep run draft problem now).2) :=
  kept.concat trivial kept.tables.markFailed trivial

theorem KeptRun.quiet (kept : KeptRun environment run history) :
    KeptRun environment run (history ++ []) := by
  rwa [List.append_nil]

theorem kept_begun (kept : KeptRun environment run history)
    {installationId draftId : String} (free : FreeDraft run history draftId)
    (now : Nat) :
    KeptRun environment (begunStep run installationId draftId now).1
      (history ++ (begunStep run installationId draftId now).2) := by
  unfold begunStep
  cases available : availableDraft run.state.drafts installationId draftId with
  | error problem => exact kept.quiet
  | ok draft =>
      have found : draft ∈ run.state.drafts ∧ draft.id = draftId := by
        unfold availableDraft at available
        cases located : ServerBootstrapStore.row run.state.drafts draftId with
        | none =>
            rw [located] at available
            cases available
        | some row =>
            simp only [located] at available
            split at available
            · cases available
            · cases available
              have same := List.find?_some located
              exact ⟨List.mem_of_find?_eq_some located, of_decide_eq_true same⟩
      obtain ⟨member, rfl⟩ := found
      dsimp only
      cases requireBinding run.state.bindings installationId
          draft.bindingId with
      | error problem => exact kept_failed kept draft problem now
      | ok binding =>
          refine (kept.prepares (kept.tables.drafts draft member).created
            ?_).quiet
          intro id same
          cases same
          exact free

theorem kept_profiled (kept : KeptRun environment run history)
    {draft : DraftRow} (free : FreeDraft run history draft.id)
    (created : .created draft.id draft.bindingId ∈ history)
    (binding : ServerBinding) (answer : Except String DraftProfile)
    (progress : Except String Unit) (now : Nat) :
    KeptRun environment
      (profiledStep environment run draft binding answer progress now).1
      (history ++
        (profiledStep environment run draft binding answer progress
          now).2) := by
  unfold profiledStep
  split
  · exact kept_failed kept draft _ now
  · refine (kept.prepares created ?_).quiet
    intro id same
    cases same
    exact free

theorem kept_marked (kept : KeptRun environment run history)
    {draft : DraftRow} (free : FreeDraft run history draft.id)
    (created : .created draft.id draft.bindingId ∈ history)
    (config : BootstrapConfig) (artifacts : BootstrapArtifacts) (now : Nat)
    (problem : Option String) :
    KeptRun environment
      (BootstrapRun.prepares
        { run with state := markReady draft config artifacts now run.state }
        draft (.cleaning problem))
      (history ++ [.prepared draft.id config artifacts]) := by
  have justified : JustifiedHistory
      (history ++ [.prepared draft.id config artifacts]) :=
    kept.justified.concat ⟨⟨draft.bindingId, created⟩, free.never⟩
  have marked : KeptRun environment
      { run with state := markReady draft config artifacts now run.state }
      (history ++ [.prepared draft.id config artifacts]) := by
    refine ⟨justified, kept.tables.markReady, ?_, kept.distinct, ?_, ?_, ?_⟩
    · intro draftId bindingId member
      rcases List.mem_append.mp member with old | new
      · exact kept.drawn draftId bindingId old
      · cases List.mem_singleton.mp new
    · intro draftId member
      obtain ⟨drawn, never⟩ := kept.fresh draftId member
      refine ⟨drawn, fun other others present => ?_⟩
      rcases List.mem_append.mp present with old | new
      · exact never other others old
      · cases List.mem_singleton.mp new
        exact free.idle member
    · exact fun pending member =>
        List.mem_append_left _ (kept.owners pending member)
    · intro pending member
      obtain ⟨opened, prepared⟩ := kept.claims pending member
      refine ⟨List.mem_append_left _ opened, fun config same => ?_⟩
      obtain ⟨artifacts, present⟩ := prepared config same
      exact ⟨artifacts, List.mem_append_left _ present⟩
  refine marked.prepares (List.mem_append_left _ created) ?_
  exact fun id same => by cases same

theorem kept_packed (kept : KeptRun environment run history)
    {draft : DraftRow} (free : FreeDraft run history draft.id)
    (created : .created draft.id draft.bindingId ∈ history)
    (config : BootstrapConfig) (outcome : Except String BootstrapArtifacts)
    (progress : Except String Unit) (now : Nat) :
    KeptRun environment (packedStep run draft config outcome progress now).1
      (history ++ (packedStep run draft config outcome progress now).2) := by
  unfold packedStep
  cases outcome with
  | error problem =>
      refine (kept.prepares created ?_).quiet
      exact fun id same => by cases same
  | ok artifacts =>
      cases progress with
      | error problem => exact kept_marked kept free created _ _ _ _
      | ok _ => exact kept_marked kept free created _ _ _ _

theorem kept_cleaned (kept : KeptRun environment run history)
    (draft : DraftRow) (problem : Option String)
    (removal : Except String Unit) (now : Nat) :
    KeptRun environment (cleanedStep run draft problem removal now).1
      (history ++ (cleanedStep run draft problem removal now).2) := by
  unfold cleanedStep
  cases removal with
  | error removal => exact kept_failed kept draft removal now
  | ok _ =>
      cases problem with
      | none => exact kept.quiet
      | some problem => exact kept_failed kept draft problem now

theorem kept_checked (kept : KeptRun environment run history)
    {installationId problem : String} {draft : DraftRow}
    {answer : Except String DraftProfile} {state : BootstrapState}
    (checked : assertDraftCurrent installationId draft answer run.state =
      (.error problem, state)) :
    KeptRun environment { run with state } (history ++ invalidation draft
      (draftChanged run.state.bindings installationId draft answer)) := by
  unfold assertDraftCurrent at checked
  cases changed : draftChanged run.state.bindings installationId draft
      answer with
  | error problem =>
      simp only [changed] at checked
      cases checked
      exact kept.quiet
  | ok changes =>
      cases changes with
      | false =>
          simp only [changed] at checked
          cases checked
      | true =>
          simp only [changed] at checked
          cases checked
          exact kept.concat trivial kept.tables.invalidateBinding
            trivial

theorem assertDraftCurrent_eq_ok {installationId : String} {draft : DraftRow}
    {answer : Except String DraftProfile} {before state : BootstrapState}
    {nothing : PUnit}
    (checked : assertDraftCurrent installationId draft answer before =
      (.ok nothing, state)) :
    state = before ∧ draftChanged before.bindings installationId draft answer =
      .ok false := by
  unfold assertDraftCurrent at checked
  split at checked
  · cases checked
  · cases checked
  · cases checked
    exact ⟨rfl, by assumption⟩

theorem kept_issueProfiled (kept : KeptRun environment run history)
    (pending : PendingIssue) (answer : Except String DraftProfile)
    (claim : String) (now : Nat) :
    KeptRun environment
      (issueProfiledStep environment run pending answer claim now).1
      (history ++
        (issueProfiledStep environment run pending answer claim now).2) := by
  unfold issueProfiledStep
  cases checked : assertDraftCurrent pending.installationId pending.draft
      answer run.state with
  | mk outcome state =>
      cases outcome with
      | error problem =>
          have stopped : issue environment pending.installationId pending.draft
              answer claim now run.state = (.error problem, state) :=
            bind_of_error checked _
          rw [stopped]
          exact kept_checked kept checked
      | ok _ =>
          have goes : issue environment pending.installationId pending.draft
              answer claim now run.state = _ := bind_of_ok checked _
          obtain ⟨rfl, unchanged⟩ := assertDraftCurrent_eq_ok checked
          rw [goes, get_bind, lift_bind, unchanged]
          cases issued : ServerBootstrapStore.issue pending.draft.id
              (environment.hash claim) now run.state.drafts with
          | error problem => exact kept.quiet
          | ok drafts =>
              obtain ⟨justified, tables⟩ := kept.tables.issue issued
              exact kept.concat justified tables
                trivial

theorem kept_started (kept : KeptRun environment run history)
    (claim : String) (now : Nat) :
    KeptRun environment (startedStep environment run claim now).1
      (history ++ (startedStep environment run claim now).2) := by
  unfold startedStep
  cases result : start environment claim now run.state with
  | none => exact kept.quiet
  | some claimed =>
      obtain ⟨draft, state⟩ := claimed
      obtain ⟨justified, member, tables⟩ := kept.tables.start result
      have opened := kept.concat justified (tables.harmless trivial) trivial
      refine ⟨opened.justified, opened.tables, opened.drawn, opened.distinct,
        opened.fresh, opened.owners, ?_⟩
      intro pending waits
      rcases List.mem_append.mp waits with old | new
      · exact opened.claims pending old
      · rw [List.mem_singleton.mp new]
        refine ⟨List.mem_append_right _ List.mem_cons_self, ?_⟩
        intro config same
        obtain ⟨artifacts, -, prepared⟩ :=
          (tables.drafts draft member).prepared config same
        exact ⟨artifacts, List.mem_append_left _ prepared⟩

theorem kept_startProfiled (kept : KeptRun environment run history)
    {pending : PendingStart}
    (claimed : .opened (environment.hash pending.claim) pending.draft.id ∈
        history ∧
      ∀ config, pending.draft.config = .prepared config →
        ∃ artifacts, .prepared pending.draft.id config artifacts ∈ history)
    (answer : Except String DraftProfile) :
    KeptRun environment (startProfiledStep run pending answer).1
      (history ++ (startProfiledStep run pending answer).2) := by
  unfold startProfiledStep
  cases checked : assertDraftCurrent pending.draft.installationId
      pending.draft answer run.state with
  | mk outcome state =>
      cases outcome with
      | error problem => exact kept_checked kept checked
      | ok _ =>
          rw [(assertDraftCurrent_eq_ok checked).1, List.append_nil]
          refine ⟨kept.justified, kept.tables, kept.drawn, kept.distinct,
            kept.fresh, kept.owners, ?_⟩
          intro other waits
          rcases List.mem_append.mp waits with old | new
          · exact kept.claims other old
          · rw [List.mem_singleton.mp new]
            exact claimed

theorem kept_startToken (kept : KeptRun environment run history)
    {pending : PendingStart}
    (claimed : .opened (environment.hash pending.claim) pending.draft.id ∈
        history ∧
      ∀ config, pending.draft.config = .prepared config →
        ∃ artifacts, .prepared pending.draft.id config artifacts ∈ history)
    (answer : Except String String) :
    KeptRun environment (startTokenStep environment run pending answer).1
      (history ++ (startTokenStep environment run pending answer).2) := by
  unfold startTokenStep
  split
  · exact kept.quiet
  · rename_i script result
    obtain ⟨serverToken, -, rendered⟩ := outcome_bind_eq_ok.mp result
    refine kept.concat ⟨claimed.1, ?_⟩ (kept.tables.harmless trivial) trivial
    unfold renderScript at rendered
    split at rendered
    · cases rendered
    · cases rendered
    · rename_i publicUrl internal _ located
      split at rendered
      · rename_i config artifacts prepared filled
        cases rendered
        have sound := kept.tables.drafts internal
          (List.mem_of_find?_eq_some located)
        have same : internal.id = pending.draft.id := by
          have found := List.find?_some located
          exact of_decide_eq_true found
        obtain ⟨first, began⟩ := claimed.2 config prepared
        obtain ⟨other, shape⟩ := sound.artifacts artifacts filled
        obtain ⟨second, again, present⟩ := sound.prepared other shape
        rw [filled] at again
        cases again
        rw [same] at present
        obtain ⟨-, rfl⟩ := kept.justified.prepared_unique began present
        exact began
      · cases rendered

theorem kept_fetched (kept : KeptRun environment run history)
    (claim : String) (kind : ArtifactKind) :
    KeptRun environment (fetchedStep environment run claim kind).1
      (history ++ (fetchedStep environment run claim kind).2) := by
  unfold fetchedStep
  cases result : artifact environment run.state claim kind with
  | none => exact kept.quiet
  | some served =>
      obtain ⟨draft, found⟩ := served
      refine kept.concat ?_ (kept.tables.harmless trivial) trivial
      unfold artifact at result
      cases located : ServerBootstrapStore.artifactByClaim run.state.drafts
          (environment.hash claim) with
      | none =>
          rw [located] at result
          cases result
      | some row =>
          obtain ⟨member, config, artifacts, -, filled, opened, prepared⟩ :=
            kept.tables.artifactByClaim located
          simp only [located, filled] at result
          split at result
          · cases result
            exact ⟨draft.bindingId, config, artifacts, kind,
              (kept.tables.drafts draft member).created, opened, prepared, rfl⟩
          · cases result

theorem kept_reported (kept : KeptRun environment run history)
    (claim : String) (message : ServerBootstrapStore.BootstrapReport)
    (seen : String) (now : Nat) :
    KeptRun environment (reportedStep environment run claim message seen now).1
      (history ++
        (reportedStep environment run claim message seen now).2) := by
  unfold reportedStep
  cases result : report environment claim message seen now run.state with
  | none => exact kept.quiet
  | some reported =>
      obtain ⟨justified, tables⟩ := kept.tables.report result
      exact kept.concat justified tables trivial

theorem kept_revoked (kept : KeptRun environment run history)
    (installationId draftId : String) :
    KeptRun environment (revokedStep run installationId draftId).1
      (history ++ (revokedStep run installationId draftId).2) := by
  unfold revokedStep revoke
  cases ServerBootstrapStore.row run.state.drafts draftId with
  | none => exact kept.quiet
  | some draft =>
      by_cases foreign : draft.installationId ≠ installationId
      · simp only [if_pos foreign]
        exact kept.quiet
      · simp only [if_neg foreign]
        exact kept.concat trivial kept.tables.revoke trivial

theorem kept_saved (kept : KeptRun environment run history)
    (referenced : ReferencedIds) (input : ServerBindingInput) (id : String)
    (state : Option ServerBindingDeploymentState) (now : Nat) :
    KeptRun environment (savedStep run referenced input id state now).1
      (history ++ (savedStep run referenced input id state now).2) := by
  unfold savedStep
  split
  · exact kept.quiet
  · exact kept.silent kept.tables.save

theorem kept_authenticated (kept : KeptRun environment run history)
    (token seen : String) (now : Nat) :
    KeptRun environment (authenticatedStep environment run token seen now).1
      (history ++ (authenticatedStep environment run token seen now).2) := by
  unfold authenticatedStep
  cases result : updaterBinding environment token seen now run.state with
  | none => exact kept.quiet
  | some found =>
      obtain ⟨justified, tables⟩ := kept.tables.updaterBinding result
      exact kept.concat justified (tables.harmless trivial) trivial

theorem kept_restarted (kept : KeptRun environment run history) :
    KeptRun environment ⟨run.state, run.drawn, [], [], [], []⟩
      (history ++ []) := by
  rw [List.append_nil]
  refine ⟨kept.justified, kept.tables, kept.drawn, List.nodup_nil, ?_, ?_, ?_⟩
  · exact fun draftId absent => by cases absent
  · exact fun pending absent => by cases absent
  · exact fun pending absent => by cases absent

theorem KeptRun.of_result {result : BootstrapResult} {next : BootstrapRun}
    {records : List BootstrapRecord}
    (kept : KeptRun environment result.1 (history ++ result.2))
    (same : some result = some (next, records)) :
    KeptRun environment next (history ++ records) := by
  cases same
  exact kept

theorem kept_bootstrapStep {event : BootstrapEvent} {next : BootstrapRun}
    {records : List BootstrapRecord} (kept : KeptRun environment run history)
    (step : bootstrapStep environment run event = some (next, records)) :
    KeptRun environment next (history ++ records) := by
  cases event with
  | accepted installationId bindingId accepted now =>
      exact (kept_accepted kept installationId bindingId accepted
        now).of_result step
  | requested installationId bindingId id now =>
      by_cases drawn : id ∈ run.drawn
      · rw [bootstrapStep, if_pos drawn] at step
        cases step
      · rw [bootstrapStep, if_neg drawn] at step
        exact (kept_requested_draft kept drawn now).of_result step
  | begun index now =>
      obtain ⟨taken, located, same⟩ := Option.map_eq_some_iff.mp step
      obtain ⟨rest, free⟩ := kept.takeQueued located
      exact (kept_begun rest free now).of_result (congrArg some same)
  | profiled index answer progress now =>
      obtain ⟨taken, located, same⟩ := Option.bind_eq_some_iff.mp step
      obtain ⟨⟨draft, phase⟩, preparing⟩ := taken
      obtain ⟨rest, free, created⟩ := kept.takePreparing located
      cases phase with
      | profile binding =>
          exact (kept_profiled rest (free draft.id rfl) created binding answer
            progress now).of_result same
      | packing config => cases same
      | cleaning problem => cases same
  | packed index outcome progress now =>
      obtain ⟨taken, located, same⟩ := Option.bind_eq_some_iff.mp step
      obtain ⟨⟨draft, phase⟩, preparing⟩ := taken
      obtain ⟨rest, free, created⟩ := kept.takePreparing located
      cases phase with
      | profile binding => cases same
      | packing config =>
          exact (kept_packed rest (free draft.id rfl) created config outcome
            progress now).of_result same
      | cleaning problem => cases same
  | cleaned index removal now =>
      obtain ⟨taken, located, same⟩ := Option.bind_eq_some_iff.mp step
      obtain ⟨⟨draft, phase⟩, preparing⟩ := taken
      obtain ⟨rest, free, created⟩ := kept.takePreparing located
      cases phase with
      | profile binding => cases same
      | packing config => cases same
      | cleaning problem =>
          exact (kept_cleaned rest draft problem removal now).of_result same
  | issue installationId draftId =>
      refine KeptRun.of_result ?_ step
      unfold issueStep
      split
      · exact kept.quiet
      · exact ⟨kept.quiet.justified, kept.quiet.tables, kept.quiet.drawn,
          kept.distinct, kept.quiet.fresh, kept.quiet.owners,
          kept.quiet.claims⟩
  | issueProfiled index answer claim now =>
      obtain ⟨taken, located, same⟩ := Option.map_eq_some_iff.mp step
      have rest : KeptRun environment { run with issuing := taken.2 } history :=
        ⟨kept.justified, kept.tables, kept.drawn, kept.distinct, kept.fresh,
          kept.owners, kept.claims⟩
      exact (kept_issueProfiled rest taken.1 answer claim now).of_result
        (congrArg some same)
  | started claim now => exact (kept_started kept claim now).of_result step
  | startProfiled index answer =>
      obtain ⟨taken, located, same⟩ := Option.bind_eq_some_iff.mp step
      obtain ⟨rest, member⟩ := kept.takeStarting located
      split at same
      · cases same
      · exact (kept_startProfiled rest (kept.claims taken.1 member)
          answer).of_result same
  | startToken index answer =>
      obtain ⟨taken, located, same⟩ := Option.bind_eq_some_iff.mp step
      obtain ⟨rest, member⟩ := kept.takeStarting located
      split at same
      · exact (kept_startToken rest (kept.claims taken.1 member)
          answer).of_result same
      · cases same
  | fetched claim kind => exact (kept_fetched kept claim kind).of_result step
  | reported claim message seen now =>
      exact (kept_reported kept claim message seen now).of_result step
  | revoked installationId draftId =>
      exact (kept_revoked kept installationId draftId).of_result step
  | invalidated bindingId reason =>
      refine KeptRun.of_result ?_ step
      exact kept.concat trivial kept.tables.invalidateBinding trivial
  | saved referenced input id state now =>
      exact (kept_saved kept referenced input id state now).of_result step
  | removed bindingId =>
      refine KeptRun.of_result ?_ step
      exact kept.concat trivial kept.tables.remove trivial
  | authenticated token seen now =>
      exact (kept_authenticated kept token seen now).of_result step
  | restarted => exact (kept_restarted kept).of_result step

end Steps

/-- In every run from empty tables an agent is authenticated for a binding only
with the token that the last report of a script left there; a claim is open from
its issuance until one report, a withdrawal or a change of the binding ends it;
and only a draft that was prepared, once, for a binding with a consent is
issued, once. -/
theorem agents_authenticated {environment : BootstrapEnvironment}
    {events : List BootstrapEvent} {final : BootstrapRun}
    {history : List BootstrapRecord}
    (run : execute (bootstrapStep environment)
      ⟨⟨[], [], []⟩, [], [], [], [], []⟩ events = some (final, history)) :
    JustifiedHistory history := by
  have start : KeptRun environment ⟨⟨[], [], []⟩, [], [], [], [], []⟩ [] := by
    refine ⟨justifiedHistory_nil, ⟨?_, ?_, ?_, ?_, List.nodup_nil⟩, ?_,
      List.nodup_nil, ?_, ?_, ?_⟩
    · exact fun row absent => by cases absent
    · exact fun row absent => by cases absent
    · exact fun pair absent => by cases absent
    · exact fun pair absent => by cases absent
    · exact fun draftId bindingId absent => by cases absent
    · exact fun draftId absent => by cases absent
    · exact fun pending absent => by cases absent
    · exact fun pending absent => by cases absent
  have kept := execute_induction (motive := KeptRun environment)
    (fun state past event next now holds step =>
      kept_bootstrapStep holds step) start run
  exact kept.justified

def exampleBootstrap : BootstrapEnvironment where
  publicUrl := some "https://panel.test"
  launchServerAddress := .ok "wss://panel.test/api"
  parseUrl _ := some ("https:", "panel.test")
  hash token := token

def exampleInput : ServerBindingInput :=
  ⟨"installation", "profile", "lobby", "127.0.0.1", 25565, true, "std", none,
    "1G", "2G", [], []⟩

def exampleProfile : DraftProfile :=
  ⟨some "uuid", some "1.20.1", some .vanilla, none⟩

def exampleArtifacts : BootstrapArtifacts :=
  ⟨⟨"bundle.tar.gz", "b"⟩, ⟨"x64.tar.gz", "x"⟩, ⟨"aarch64.tar.gz", "a"⟩⟩

/-- Up to the claim that is issued. -/
def examplePreparation : List BootstrapEvent :=
  [.saved ⟨[exampleInput.installationId], []⟩ exampleInput "binding" none 0,
    .accepted "installation" "binding" "2024-01-01T00:00:00.000Z" 1,
    .requested "installation" "binding" "draft" 2, .begun 0 3,
    .profiled 0 (.ok exampleProfile) (.ok ()) 4,
    .packed 0 (.ok exampleArtifacts) (.ok ()) 5, .cleaned 0 (.ok ()) 6,
    .issue "installation" "draft",
    .issueProfiled 0 (.ok exampleProfile) "claim" 7]

/-- The script reports twice, and the agent says hello. -/
def exampleInstallation : List BootstrapEvent :=
  [.started "claim" 8, .startProfiled 0 (.ok exampleProfile),
    .startToken 0 (.ok "server-token"), .fetched "claim" .jreX64,
    .reported "claim" ⟨true, none, some "agent-token"⟩
      "2024-01-01T00:00:00.000Z" 9,
    .reported "claim" ⟨true, none, some "other-token"⟩
      "2024-01-01T00:00:00.000Z" 10,
    .authenticated "other-token" "2024-01-01T00:00:00.000Z" 11,
    .authenticated "agent-token" "2024-01-01T00:00:00.000Z" 12]

theorem agents_authenticated_installed :
    ∃ final history,
      execute (bootstrapStep exampleBootstrap)
          ⟨⟨[], [], []⟩, [], [], [], [], []⟩
          (examplePreparation ++ exampleInstallation) =
        some (final, history) ∧
      history.drop 6 =
        [.served "claim" "draft" ⟨"x64.tar.gz", "x"⟩,
          .reported "claim" "draft" "binding" (some "agent-token"),
          .authenticated "agent-token" "binding"] ∧
      JustifiedHistory history := by
  have completes : (execute (bootstrapStep exampleBootstrap)
      ⟨⟨[], [], []⟩, [], [], [], [], []⟩
      (examplePreparation ++ exampleInstallation)).map
        (fun result => result.2.drop 6) =
      some [.served "claim" "draft" ⟨"x64.tar.gz", "x"⟩,
        .reported "claim" "draft" "binding" (some "agent-token"),
        .authenticated "agent-token" "binding"] := by
    decide +kernel
  obtain ⟨⟨final, history⟩, ran, same⟩ := Option.map_eq_some_iff.mp completes
  exact ⟨final, history, ran, same, agents_authenticated ran⟩

end GravitPanel.Servers
