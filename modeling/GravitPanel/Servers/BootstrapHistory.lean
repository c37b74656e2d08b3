import Mathlib.Data.List.Nodup
import GravitPanel.Core.History
import GravitPanel.Servers.BootstrapRuns

/-!
# Rows that go back to the history

What the history of a bootstrap promises, and what each row of the tables says
about it.  Every operation on the tables keeps that, with the record of the
operation.
-/

namespace GravitPanel.Servers

open GravitPanel.History Program

/-- The record ends what a draft of a binding was issued or prepared for. -/
def EndsDraft (draftId bindingId : String) : BootstrapRecord → Prop
  | .failed id => id = draftId
  | .reported _ id _ _ => id = draftId
  | .withdrawn id => id = draftId
  | .invalidated id => id = bindingId
  | .removed id => id = bindingId
  | _ => False

/-- The claim was issued for the draft, and nothing has ended it since. -/
def OpenClaim (history : List BootstrapRecord)
    (claimHash draftId bindingId : String) : Prop :=
  Standing (fun later => ¬ EndsDraft draftId bindingId later)
    (.issued claimHash draftId) history

def PreparedDraft (history : List BootstrapRecord)
    (draftId bindingId : String) (config : BootstrapConfig)
    (artifacts : BootstrapArtifacts) : Prop :=
  Standing (fun later => ¬ EndsDraft draftId bindingId later)
    (.prepared draftId config artifacts) history

/-- The record neither ends nor issues the draft. -/
def QuietRecord (draftId bindingId : String) (record : BootstrapRecord) :
    Prop :=
  ¬ EndsDraft draftId bindingId record ∧
    ∀ claimHash, record ≠ .issued claimHash draftId

/-- The draft was prepared, and neither ended nor issued since. -/
def ReadyDraft (history : List BootstrapRecord)
    (draftId bindingId : String) (config : BootstrapConfig)
    (artifacts : BootstrapArtifacts) : Prop :=
  Standing (QuietRecord draftId bindingId) (.prepared draftId config artifacts)
    history

/-- The record takes the token of a binding away. -/
def ReplacesToken (bindingId : String) : BootstrapRecord → Prop
  | .removed id => id = bindingId
  | .reported _ _ id (some _) => id = bindingId
  | _ => False

/-- A report left the token with the binding, and nothing has taken it away. -/
def TokenOf (history : List BootstrapRecord) (tokenHash bindingId : String) :
    Prop :=
  ∃ claimHash draftId,
    Standing (fun later => ¬ ReplacesToken bindingId later)
      (.reported claimHash draftId bindingId (some tokenHash)) history

/-- What is promised about a record behind what happened before it. -/
def JustifiedRecord (before : List BootstrapRecord) : BootstrapRecord → Prop
  | .created draftId bindingId =>
      Standing (· ≠ .removed bindingId) (.accepted bindingId) before ∧
        ∀ other, .created draftId other ∉ before
  | .prepared draftId _ _ =>
      (∃ bindingId, .created draftId bindingId ∈ before) ∧
        ∀ config artifacts, .prepared draftId config artifacts ∉ before
  | .issued _ draftId =>
      ∃ bindingId config artifacts, .created draftId bindingId ∈ before ∧
        ReadyDraft before draftId bindingId config artifacts
  | .opened claimHash draftId =>
      ∃ bindingId, .created draftId bindingId ∈ before ∧
        OpenClaim before claimHash draftId bindingId
  | .scripted claimHash draftId script =>
      .opened claimHash draftId ∈ before ∧
        .prepared draftId script.config script.artifacts ∈ before
  | .served claimHash draftId artifact =>
      ∃ bindingId config artifacts kind, .created draftId bindingId ∈ before ∧
        OpenClaim before claimHash draftId bindingId ∧
          PreparedDraft before draftId bindingId config artifacts ∧
            artifacts.of kind = artifact
  | .reported claimHash draftId bindingId _ =>
      .created draftId bindingId ∈ before ∧
        OpenClaim before claimHash draftId bindingId
  | .authenticated tokenHash bindingId => TokenOf before tokenHash bindingId
  | _ => True

def JustifiedHistory (history : List BootstrapRecord) : Prop :=
  ∀ before record after, history = before ++ record :: after →
    JustifiedRecord before record

theorem justifiedHistory_nil : JustifiedHistory [] := by
  intro before record after split
  cases before <;> cases split

theorem JustifiedHistory.concat {history : List BootstrapRecord}
    {record : BootstrapRecord} (justified : JustifiedHistory history)
    (last : JustifiedRecord history record) :
    JustifiedHistory (history ++ [record]) := by
  intro before other after split
  rcases append_split split with ⟨rest, earlier⟩ | ⟨earlier, rfl, tail⟩
  · exact justified before other rest earlier
  · cases earlier with
    | nil =>
        cases tail
        rwa [List.append_nil]
    | cons head more =>
        have short := congrArg List.length tail
        simp only [List.length_append, List.length_cons,
          List.length_nil] at short
        omega

section Histories

variable {history : List BootstrapRecord} {record : BootstrapRecord}
variable {draftId bindingId claimHash : String}
variable {config : BootstrapConfig} {artifacts : BootstrapArtifacts}

theorem OpenClaim.concat
    (opened : OpenClaim history claimHash draftId bindingId)
    (kept : ¬ EndsDraft draftId bindingId record) :
    OpenClaim (history ++ [record]) claimHash draftId bindingId :=
  standing_concat.mpr (.inr ⟨opened, kept⟩)

theorem PreparedDraft.concat
    (prepared : PreparedDraft history draftId bindingId config artifacts)
    (kept : ¬ EndsDraft draftId bindingId record) :
    PreparedDraft (history ++ [record]) draftId bindingId config artifacts :=
  standing_concat.mpr (.inr ⟨prepared, kept⟩)

theorem ReadyDraft.concat
    (ready : ReadyDraft history draftId bindingId config artifacts)
    (quiet : QuietRecord draftId bindingId record) :
    ReadyDraft (history ++ [record]) draftId bindingId config artifacts :=
  standing_concat.mpr (.inr ⟨ready, quiet⟩)

theorem ReadyDraft.prepared
    (ready : ReadyDraft history draftId bindingId config artifacts) :
    PreparedDraft history draftId bindingId config artifacts := by
  obtain ⟨before, after, shape, quiet⟩ := ready
  exact ⟨before, after, shape, fun later member => (quiet later member).1⟩

theorem TokenOf.concat {tokenHash : String}
    (token : TokenOf history tokenHash bindingId)
    (kept : ¬ ReplacesToken bindingId record) :
    TokenOf (history ++ [record]) tokenHash bindingId := by
  obtain ⟨claimHash, draftId, standing⟩ := token
  exact ⟨claimHash, draftId, standing_concat.mpr (.inr ⟨standing, kept⟩)⟩

theorem JustifiedHistory.prepared_unique
    {other : BootstrapConfig} {others : BootstrapArtifacts}
    (justified : JustifiedHistory history)
    (first : .prepared draftId config artifacts ∈ history)
    (second : .prepared draftId other others ∈ history) :
    config = other ∧ artifacts = others := by
  obtain ⟨before, after, rfl⟩ := List.append_of_mem first
  rcases List.mem_append.mp second with earlier | later
  · have fresh := (justified before _ after rfl).2 other others
    exact absurd earlier fresh
  · rcases List.mem_cons.mp later with same | later
    · cases same
      exact ⟨rfl, rfl⟩
    · obtain ⟨middle, rest, rfl⟩ := List.append_of_mem later
      have shape : before ++ .prepared draftId config artifacts ::
          (middle ++ .prepared draftId other others :: rest) =
          (before ++ .prepared draftId config artifacts :: middle) ++
            .prepared draftId other others :: rest := by
        rw [List.append_assoc, List.cons_append]
      have fresh := (justified _ _ rest shape).2 config artifacts
      exact absurd (List.mem_append_right before List.mem_cons_self) fresh

end Histories

/-- What the row of a draft says about the history. -/
structure RowSound (history : List BootstrapRecord) (row : DraftRow) :
    Prop where
  created : .created row.id row.bindingId ∈ history
  prepared : ∀ config, row.config = .prepared config →
    ∃ artifacts, row.artifacts = some artifacts ∧
      .prepared row.id config artifacts ∈ history
  artifacts : ∀ artifacts, row.artifacts = some artifacts →
    ∃ config, row.config = .prepared config
  ready : row.status = .ready → ∃ config artifacts,
    row.config = .prepared config ∧ row.artifacts = some artifacts ∧
      ReadyDraft history row.id row.bindingId config artifacts
  live : row.status.live = true → ∃ claimHash config artifacts,
    row.claimHash = some claimHash ∧ row.config = .prepared config ∧
      row.artifacts = some artifacts ∧
        OpenClaim history claimHash row.id row.bindingId ∧
          PreparedDraft history row.id row.bindingId config artifacts

section Rows

variable {history : List BootstrapRecord} {record : BootstrapRecord}
variable {row : DraftRow}

theorem RowSound.concat (sound : RowSound history row)
    (quiet : QuietRecord row.id row.bindingId record) :
    RowSound (history ++ [record]) row where
  created := List.mem_append_left _ sound.created
  prepared config same := by
    obtain ⟨artifacts, found, member⟩ := sound.prepared config same
    exact ⟨artifacts, found, List.mem_append_left _ member⟩
  artifacts := sound.artifacts
  ready status := by
    obtain ⟨config, artifacts, same, found, ready⟩ := sound.ready status
    exact ⟨config, artifacts, same, found, ready.concat quiet⟩
  live status := by
    obtain ⟨claimHash, config, artifacts, claim, same, found, opened,
      prepared⟩ := sound.live status
    exact ⟨claimHash, config, artifacts, claim, same, found,
      opened.concat quiet.1, prepared.concat quiet.1⟩

theorem RowSound.idle (sound : RowSound history row)
    (ready : row.status ≠ .ready) (live : row.status.live = false) :
    RowSound (history ++ [record]) row where
  created := List.mem_append_left _ sound.created
  prepared config same := by
    obtain ⟨artifacts, found, member⟩ := sound.prepared config same
    exact ⟨artifacts, found, List.mem_append_left _ member⟩
  artifacts := sound.artifacts
  ready status := absurd status ready
  live status := by
    rw [live] at status
    cases status

theorem RowSound.closed {next : DraftRow} (sound : RowSound history row)
    (id : next.id = row.id) (bindingId : next.bindingId = row.bindingId)
    (config : next.config = row.config)
    (artifacts : next.artifacts = row.artifacts)
    (ready : next.status ≠ .ready) (live : next.status.live = false) :
    RowSound (history ++ [record]) next := by
  have kept : RowSound history next := by
    refine ⟨?_, ?_, ?_, ?_, ?_⟩
    · rw [id, bindingId]
      exact sound.created
    · rw [config, artifacts, id]
      exact sound.prepared
    · rw [config, artifacts]
      exact sound.artifacts
    · exact fun status => absurd status ready
    · intro status
      rw [live] at status
      cases status
  exact kept.idle ready live

theorem RowSound.readyRow {config : BootstrapConfig}
    {artifacts : BootstrapArtifacts} {now : Nat}
    (sound : RowSound history row) :
    RowSound (history ++ [.prepared row.id config artifacts])
      (ServerBootstrapStore.readyRow config artifacts now row) where
  created := List.mem_append_left _ sound.created
  prepared other same := by
    cases same
    exact ⟨artifacts, rfl, List.mem_append_right _ List.mem_cons_self⟩
  artifacts others same := ⟨config, rfl⟩
  ready status :=
    ⟨config, artifacts, rfl, rfl, standing_concat.mpr (.inl rfl)⟩
  live status := by cases status

theorem RowSound.issuedRow {claimHash : String} {now : Nat}
    (sound : RowSound history row)
    (prepared : ∃ config artifacts, row.config = .prepared config ∧
      row.artifacts = some artifacts ∧
        PreparedDraft history row.id row.bindingId config artifacts) :
    RowSound (history ++ [.issued claimHash row.id])
      (ServerBootstrapStore.issuedRow claimHash now row) where
  created := List.mem_append_left _ sound.created
  prepared config same := by
    obtain ⟨artifacts, found, member⟩ := sound.prepared config same
    exact ⟨artifacts, found, List.mem_append_left _ member⟩
  artifacts := sound.artifacts
  ready status := by cases status
  live status := by
    obtain ⟨config, artifacts, same, found, standing⟩ := prepared
    exact ⟨claimHash, config, artifacts, rfl, same, found,
      standing_concat.mpr (.inl rfl), standing.concat id⟩

theorem RowSound.claimedRow {now : Nat} (sound : RowSound history row) :
    RowSound history (ServerBootstrapStore.claimedRow now row) := by
  unfold ServerBootstrapStore.claimedRow
  by_cases live : row.status.live = true
  · rw [if_pos live]
    refine ⟨sound.created, sound.prepared, sound.artifacts, ?_, ?_⟩
    · intro status
      cases status
    · exact fun _ => sound.live live
  · rw [if_neg live]
    exact sound

theorem mem_updateRow {id : String} {change : DraftRow → DraftRow}
    {rows : List DraftRow} {next : DraftRow}
    (member : next ∈ ServerBootstrapStore.updateRow id change rows) :
    (next ∈ rows ∧ next.id ≠ id) ∨
      ∃ row ∈ rows, row.id = id ∧ next = change row := by
  obtain ⟨row, found, rfl⟩ := List.mem_map.mp member
  by_cases same : row.id = id
  · rw [if_pos same]
    exact .inr ⟨row, found, same, rfl⟩
  · rw [if_neg same]
    exact .inl ⟨found, same⟩

end Rows

/-! ## The tables -/

/-- Every row of the tables goes back to the history. -/
structure BootstrapTables (history : List BootstrapRecord)
    (state : BootstrapState) : Prop where
  drafts : ∀ row ∈ state.drafts, RowSound history row
  bindings : ∀ row ∈ state.bindings, row.eulaAcceptedAt ≠ none →
    Standing (· ≠ .removed row.id) (.accepted row.id) history
  tokens : ∀ pair ∈ state.updaterTokens, TokenOf history pair.2 pair.1
  owned : ∀ pair ∈ state.updaterTokens,
    pair.1 ∈ state.bindings.map ServerBinding.id
  distinct : (state.drafts.map DraftRow.id).Nodup

section Tables

variable {history : List BootstrapRecord} {record : BootstrapRecord}
variable {state next : BootstrapState}

/-- The record ends nothing, issues nothing and takes no token away. -/
def HarmlessRecord : BootstrapRecord → Prop
  | .failed _ => False
  | .reported _ _ _ _ => False
  | .withdrawn _ => False
  | .invalidated _ => False
  | .removed _ => False
  | .issued _ _ => False
  | _ => True

theorem HarmlessRecord.quiet (harmless : HarmlessRecord record)
    (draftId bindingId : String) : QuietRecord draftId bindingId record := by
  cases record <;>
    first
    | exact harmless.elim
    | exact ⟨id, fun claimHash same => by cases same⟩

theorem HarmlessRecord.token (harmless : HarmlessRecord record)
    (bindingId : String) : ¬ ReplacesToken bindingId record := by
  cases record <;>
    first
    | exact harmless.elim
    | exact id

theorem BootstrapTables.harmless (tables : BootstrapTables history state)
    (harmless : HarmlessRecord record) :
    BootstrapTables (history ++ [record]) state where
  drafts row member := (tables.drafts row member).concat
    (harmless.quiet row.id row.bindingId)
  bindings row member accepted := by
    refine standing_concat.mpr (.inr ⟨tables.bindings row member accepted, ?_⟩)
    rintro rfl
    exact harmless
  tokens pair member :=
    (tables.tokens pair member).concat (harmless.token pair.1)
  owned := tables.owned
  distinct := tables.distinct

theorem BootstrapTables.withBindings {bindings : List ServerBinding}
    (tables : BootstrapTables history state)
    (accepted : ∀ row ∈ bindings, row.eulaAcceptedAt ≠ none →
      ∃ old ∈ state.bindings, old.id = row.id ∧ old.eulaAcceptedAt ≠ none)
    (ids : ∀ id ∈ state.bindings.map ServerBinding.id,
      id ∈ bindings.map ServerBinding.id) :
    BootstrapTables history { state with bindings } where
  drafts := tables.drafts
  bindings row member consent := by
    obtain ⟨old, found, same, given⟩ := accepted row member consent
    rw [← same]
    exact tables.bindings old found given
  tokens := tables.tokens
  owned pair member := ids pair.1 (tables.owned pair member)
  distinct := tables.distinct

theorem BootstrapTables.withDrafts {drafts : List DraftRow}
    (tables : BootstrapTables history state)
    (ids : drafts.map DraftRow.id = state.drafts.map DraftRow.id)
    (sound : ∀ row ∈ drafts, RowSound (history ++ [record]) row)
    (bindings : ∀ id, record ≠ .removed id)
    (tokens : ∀ id, ¬ ReplacesToken id record) :
    BootstrapTables (history ++ [record]) { state with drafts } where
  drafts := sound
  bindings row member consent := standing_concat.mpr
    (.inr ⟨tables.bindings row member consent, bindings row.id⟩)
  tokens pair member := (tables.tokens pair member).concat (tokens pair.1)
  owned := tables.owned
  distinct := by
    rw [ids]
    exact tables.distinct

theorem BootstrapTables.mapBindings {change : ServerBinding → ServerBinding}
    (tables : BootstrapTables history state)
    (kept : ∀ row, (change row).id = row.id ∧
      (change row).eulaAcceptedAt = row.eulaAcceptedAt) :
    BootstrapTables history
      { state with bindings := state.bindings.map change } := by
  refine tables.withBindings ?_ ?_
  · intro row member consent
    obtain ⟨old, found, rfl⟩ := List.mem_map.mp member
    rw [(kept old).2] at consent
    exact ⟨old, found, (kept old).1.symm, consent⟩
  · intro key member
    obtain ⟨old, found, rfl⟩ := List.mem_map.mp member
    exact List.mem_map.mpr
      ⟨change old, List.mem_map_of_mem found, (kept old).1⟩

variable {now : Nat} {environment : BootstrapEnvironment} {draft : DraftRow}
variable {id : String}

theorem BootstrapTables.updateBinding
    {change : ServerBinding → ServerBinding}
    (tables : BootstrapTables history state)
    (ids : ∀ row, (change row).id = row.id)
    (consents : ∀ row, (change row).eulaAcceptedAt = row.eulaAcceptedAt) :
    BootstrapTables history { state with
      bindings := ServerBindingsStore.updateBinding id change
        state.bindings } := by
  refine tables.mapBindings fun row => ?_
  by_cases same : row.id = id
  · rw [if_pos same]
    exact ⟨ids row, consents row⟩
  · rw [if_neg same]
    exact ⟨rfl, rfl⟩

theorem BootstrapTables.setState
    {deployment : ServerBindingDeploymentState}
    (tables : BootstrapTables history state) :
    BootstrapTables history { state with
      bindings := ServerBindingsStore.setState id deployment now
        state.bindings } :=
  tables.updateBinding (fun _ => rfl) fun _ => rfl

/-! ### Drafts -/

theorem ids_updateRow {change : DraftRow → DraftRow}
    (kept : ∀ row, (change row).id = row.id) (rows : List DraftRow) :
    (ServerBootstrapStore.updateRow id change rows).map DraftRow.id =
      rows.map DraftRow.id := by
  unfold ServerBootstrapStore.updateRow
  rw [List.map_map]
  refine List.map_congr_left fun row member => ?_
  change (if row.id = id then change row else row).id = row.id
  by_cases same : row.id = id
  · rw [if_pos same, kept]
  · rw [if_neg same]

theorem BootstrapTables.updateRow {change : DraftRow → DraftRow}
    (tables : BootstrapTables history state)
    (kept : ∀ row, (change row).id = row.id)
    (quiet : ∀ draftId bindingId, draftId ≠ id →
      QuietRecord draftId bindingId record)
    (changed : ∀ row ∈ state.drafts, row.id = id →
      RowSound (history ++ [record]) (change row))
    (bindings : ∀ id, record ≠ .removed id)
    (tokens : ∀ id, ¬ ReplacesToken id record) :
    BootstrapTables (history ++ [record]) { state with
      drafts := ServerBootstrapStore.updateRow id change state.drafts } := by
  refine tables.withDrafts (ids_updateRow kept _) ?_ bindings tokens
  intro row member
  rcases mem_updateRow member with ⟨old, differs⟩ | ⟨old, found, same, rfl⟩
  · exact (tables.drafts row old).concat (quiet row.id row.bindingId differs)
  · exact changed old found same

theorem BootstrapTables.markFailed {problem : String}
    (tables : BootstrapTables history state) :
    BootstrapTables (history ++ [.failed draft.id])
      (ServerBootstrapService.markFailed draft problem now state) := by
  have updated : BootstrapTables (history ++ [.failed draft.id])
      { state with
        drafts := ServerBootstrapStore.updateRow draft.id
          (ServerBootstrapStore.failedRow problem) state.drafts } := by
    refine tables.updateRow (fun row => rfl) ?_ ?_
      (fun id same => by cases same) fun id => not_false
    · exact fun draftId bindingId differs =>
        ⟨fun same => differs same.symm, fun hash same => by cases same⟩
    · exact fun row member same => (tables.drafts row member).closed
        rfl rfl rfl rfl (fun status => by cases status) rfl
  exact updated.setState

theorem BootstrapTables.markReady
    {config : BootstrapConfig} {artifacts : BootstrapArtifacts}
    (tables : BootstrapTables history state) :
    BootstrapTables (history ++ [.prepared draft.id config artifacts])
      (ServerBootstrapService.markReady draft config artifacts now state) := by
  have updated : BootstrapTables
      (history ++ [.prepared draft.id config artifacts])
      { state with
        drafts := ServerBootstrapStore.updateRow draft.id
          (ServerBootstrapStore.readyRow config artifacts now)
          state.drafts } := by
    refine tables.updateRow (fun row => rfl) ?_ ?_
      (fun id same => by cases same) fun id => not_false
    · exact fun draftId bindingId differs =>
        ⟨not_false, fun hash same => by cases same⟩
    · intro row member same
      rw [← same]
      exact (tables.drafts row member).readyRow
  exact updated.setState

theorem BootstrapTables.invalidateBinding {bindingId reason : String}
    (tables : BootstrapTables history state) :
    BootstrapTables (history ++ [.invalidated bindingId]) { state with
      drafts := ServerBootstrapStore.invalidateBinding bindingId reason
        state.drafts } := by
  refine tables.withDrafts ?_ ?_ (fun id same => by cases same)
    fun id => not_false
  · unfold ServerBootstrapStore.invalidateBinding
    rw [List.map_map]
    refine List.map_congr_left fun row member => ?_
    change (if _ then ServerBootstrapStore.withdrawnRow reason row
      else row).id = row.id
    split <;> rfl
  · intro row member
    obtain ⟨old, found, rfl⟩ := List.mem_map.mp member
    have sound := tables.drafts old found
    by_cases affected : old.bindingId = bindingId ∧ old.status.pending = true
    · rw [if_pos affected]
      exact sound.closed rfl rfl rfl rfl (fun status => by cases status) rfl
    · rw [if_neg affected]
      by_cases same : old.bindingId = bindingId
      · have idle : ¬ old.status.pending = true :=
          fun pending => affected ⟨same, pending⟩
        refine sound.idle ?_ ?_
        · exact fun ready => idle (by rw [ready]; rfl)
        · cases status : old.status <;> rw [status] at idle <;>
            first | rfl | exact absurd rfl idle
      · exact sound.concat
          ⟨fun equal => same equal.symm, fun hash equal => by cases equal⟩

theorem BootstrapTables.revoke {draftId : String}
    (tables : BootstrapTables history state) :
    BootstrapTables (history ++ [.withdrawn draftId]) { state with
      drafts := ServerBootstrapStore.revoke draftId state.drafts } := by
  refine tables.updateRow ?_ ?_ ?_ (fun id same => by cases same)
    fun id => not_false
  · intro row
    split <;> rfl
  · exact fun other bindingId differs =>
      ⟨fun same => differs same.symm, fun hash same => by cases same⟩
  · intro row member same
    have sound := tables.drafts row member
    by_cases revocable : row.status.revocable = true
    · rw [if_pos revocable]
      exact sound.closed rfl rfl rfl rfl (fun status => by cases status) rfl
    · rw [if_neg revocable]
      refine sound.idle ?_ ?_
      · exact fun ready => revocable (by rw [ready]; rfl)
      · cases status : row.status <;> rw [status] at revocable <;>
          first | rfl | exact absurd rfl revocable

theorem issue_eq_ok {id claimHash : String}
    {rows drafts : List DraftRow}
    (issued : ServerBootstrapStore.issue id claimHash now rows = .ok drafts) :
    ∃ row ∈ rows, row.id = id ∧ row.status = .ready ∧
      drafts = ServerBootstrapStore.updateRow id
        (ServerBootstrapStore.issuedRow claimHash now) rows := by
  unfold ServerBootstrapStore.issue at issued
  cases located : ServerBootstrapStore.row rows id with
  | none =>
      rw [located] at issued
      cases issued
  | some draft =>
      rw [located] at issued
      have member := List.mem_of_find?_eq_some located
      have same := List.find?_some located
      change (if draft.status ≠ .ready then _ else _) = _ at issued
      by_cases ready : draft.status = .ready
      · rw [if_neg (fun differs => differs ready)] at issued
        split at issued
        · cases issued
        · cases issued
          exact ⟨draft, member, of_decide_eq_true same, ready, rfl⟩
      · rw [if_pos ready] at issued
        cases issued

theorem BootstrapTables.same_row {first second : DraftRow}
    (tables : BootstrapTables history state) (one : first ∈ state.drafts)
    (other : second ∈ state.drafts) (same : first.id = second.id) :
    first = second :=
  List.inj_on_of_nodup_map tables.distinct one other same

theorem BootstrapTables.issue {id claimHash : String}
    {drafts : List DraftRow} (tables : BootstrapTables history state)
    (issued : ServerBootstrapStore.issue id claimHash now state.drafts =
      .ok drafts) :
    JustifiedRecord history (.issued claimHash id) ∧
      BootstrapTables (history ++ [.issued claimHash id])
        { state with drafts } := by
  obtain ⟨draft, found, rfl, status, rfl⟩ := issue_eq_ok issued
  have sound := tables.drafts draft found
  obtain ⟨config, artifacts, same, filled, ready⟩ := sound.ready status
  refine ⟨⟨draft.bindingId, config, artifacts, sound.created, ready⟩, ?_⟩
  refine tables.updateRow (fun row => rfl) ?_ ?_
    (fun id same => by cases same) fun id => not_false
  · exact fun draftId bindingId differs =>
      ⟨not_false, fun hash equal => by cases equal; exact differs rfl⟩
  · intro row member equal
    rw [tables.same_row member found equal]
    exact sound.issuedRow ⟨config, artifacts, same, filled, ready.prepared⟩

theorem BootstrapTables.artifactByClaim {claimHash : String}
    {found : DraftRow} (tables : BootstrapTables history state)
    (located : ServerBootstrapStore.artifactByClaim state.drafts claimHash =
      some found) :
    found ∈ state.drafts ∧ ∃ config artifacts,
      found.config = .prepared config ∧ found.artifacts = some artifacts ∧
        OpenClaim history claimHash found.id found.bindingId ∧
          PreparedDraft history found.id found.bindingId config artifacts := by
  have member := List.mem_of_find?_eq_some located
  have matching := List.find?_some located
  rw [Bool.and_eq_true, decide_eq_true_iff] at matching
  obtain ⟨hash, config, artifacts, claim, same, filled, opened, prepared⟩ :=
    (tables.drafts found member).live matching.2
  rw [claim] at matching
  cases matching.1
  exact ⟨member, config, artifacts, same, filled, opened, prepared⟩

theorem BootstrapTables.start
    {claim : String}
    (tables : BootstrapTables history state)
    (started : ServerBootstrapService.start environment claim now state =
      some (draft, next)) :
    JustifiedRecord history (.opened (environment.hash claim) draft.id) ∧
      draft ∈ next.drafts ∧ BootstrapTables history next := by
  obtain ⟨claimed, begun, same⟩ := Option.map_eq_some_iff.mp started
  cases same
  unfold ServerBootstrapStore.beginClaim at begun
  cases located : ServerBootstrapStore.artifactByClaim state.drafts
      (environment.hash claim) with
  | none =>
      rw [located] at begun
      cases begun
  | some found =>
      rw [located] at begun
      obtain ⟨draft, reread, same⟩ := Option.map_eq_some_iff.mp begun
      cases same
      obtain ⟨member, config, artifacts, -, -, opened, -⟩ :=
        tables.artifactByClaim located
      have created := (tables.drafts found member).created
      have identified : draft.id = found.id := by
        have same := List.find?_some reread
        exact of_decide_eq_true same
      refine ⟨?_, List.mem_of_find?_eq_some reread, ?_⟩
      · rw [identified]
        exact ⟨found.bindingId, created, opened⟩
      · refine ⟨?_, tables.bindings, tables.tokens, tables.owned, ?_⟩
        · intro row changed
          rcases mem_updateRow changed with ⟨old, -⟩ | ⟨old, present, -, rfl⟩
          · exact tables.drafts row old
          · exact (tables.drafts old present).claimedRow
        · have ids : ∀ row,
              (ServerBootstrapStore.claimedRow now row).id = row.id := by
            intro row
            unfold ServerBootstrapStore.claimedRow
            split <;> rfl
          rw [ids_updateRow ids]
          exact tables.distinct

/-! ### Reports -/

theorem RowSound.reportedRow {row : DraftRow}
    {message : ServerBootstrapStore.BootstrapReport}
    (sound : RowSound history row) :
    RowSound (history ++ [record])
      (ServerBootstrapStore.reportedRow message now row) := by
  refine sound.closed rfl rfl rfl rfl ?_ ?_
  · intro status
    change (if message.installed = true then _ else _) = _ at status
    by_cases installed : message.installed = true
    · rw [if_pos installed] at status
      cases status
    · rw [if_neg installed] at status
      cases status
  · change ServerBootstrapStatus.live
      (if message.installed = true then _ else _) = false
    by_cases installed : message.installed = true
    · rw [if_pos installed]
      rfl
    · rw [if_neg installed]
      rfl

theorem BootstrapTables.saveUpdaterToken
    {claimHash draftId bindingId tokenHash seen : String}
    {drafts : List DraftRow} (tables : BootstrapTables history state)
    (ids : drafts.map DraftRow.id = state.drafts.map DraftRow.id)
    (reported : ∀ row ∈ drafts, RowSound
      (history ++ [.reported claimHash draftId bindingId (some tokenHash)])
        row) :
    BootstrapTables
      (history ++ [.reported claimHash draftId bindingId (some tokenHash)])
      (ServerBindingsStore.saveUpdaterToken bindingId tokenHash seen now
        { state with drafts }) := by
  have distinct : (drafts.map DraftRow.id).Nodup := by
    rw [ids]
    exact tables.distinct
  have bindings : ∀ row ∈ state.bindings, row.eulaAcceptedAt ≠ none →
      Standing (· ≠ .removed row.id) (.accepted row.id)
        (history ++
          [.reported claimHash draftId bindingId (some tokenHash)]) :=
    fun row member consent => standing_concat.mpr
      (.inr ⟨tables.bindings row member consent, fun same => by cases same⟩)
  have others : ∀ pair ∈ state.updaterTokens, pair.1 ≠ bindingId →
      TokenOf (history ++
        [.reported claimHash draftId bindingId (some tokenHash)])
          pair.2 pair.1 :=
    fun pair member differs => (tables.tokens pair member).concat
      fun same => differs same.symm
  unfold ServerBindingsStore.saveUpdaterToken
  by_cases present : bindingId ∈ state.bindings.map ServerBinding.id
  · rw [if_pos present]
    have saved : BootstrapTables
        (history ++ [.reported claimHash draftId bindingId (some tokenHash)])
        { state with
          drafts
          updaterTokens :=
            (state.updaterTokens.filter fun pair => pair.1 ≠ bindingId) ++
              [(bindingId, tokenHash)] } := by
      refine ⟨reported, bindings, ?_, ?_, distinct⟩
      · intro pair member
        rcases List.mem_append.mp member with kept | new
        · obtain ⟨old, differs⟩ := List.mem_filter.mp kept
          exact others pair old (of_decide_eq_true differs)
        · rw [List.mem_singleton.mp new]
          exact ⟨claimHash, draftId, standing_concat.mpr (.inl rfl)⟩
      · intro pair member
        rcases List.mem_append.mp member with kept | new
        · exact tables.owned pair (List.mem_filter.mp kept).1
        · rw [List.mem_singleton.mp new]
          exact present
    exact saved.updateBinding (fun _ => rfl) fun _ => rfl
  · rw [if_neg present]
    refine ⟨reported, bindings, ?_, tables.owned, distinct⟩
    intro pair member
    refine others pair member ?_
    intro same
    rw [← same] at present
    exact present (tables.owned pair member)

theorem BootstrapTables.report
    {claim seen : String}
    {message : ServerBootstrapStore.BootstrapReport}
    (tables : BootstrapTables history state)
    (reported : ServerBootstrapService.report environment claim message seen
      now state = some (draft, next)) :
    let record := BootstrapRecord.reported (environment.hash claim) draft.id
      draft.bindingId (ServerBootstrapService.reportedToken environment message)
    JustifiedRecord history record ∧
      BootstrapTables (history ++ [record]) next := by
  unfold ServerBootstrapService.report
    ServerBootstrapStore.reportClaim at reported
  cases located : ServerBootstrapStore.artifactByClaim state.drafts
      (environment.hash claim) with
  | none =>
      rw [located] at reported
      cases reported
  | some found =>
      rw [located] at reported
      obtain ⟨member, config, artifacts, -, -, opened, -⟩ :=
        tables.artifactByClaim located
      have created := (tables.drafts found member).created
      have drafts : ∀ tokenHash, ∀ row ∈ ServerBootstrapStore.updateRow
          found.id (ServerBootstrapStore.reportedRow message now) state.drafts,
          RowSound (history ++ [.reported (environment.hash claim) found.id
            found.bindingId tokenHash]) row := by
        intro tokenHash row changed
        rcases mem_updateRow changed with
          ⟨old, differs⟩ | ⟨old, present, same, rfl⟩
        · exact (tables.drafts row old).concat
            ⟨fun same => differs same.symm, fun hash same => by cases same⟩
        · exact (tables.drafts old present).reportedRow
      have ids : (ServerBootstrapStore.updateRow found.id
          (ServerBootstrapStore.reportedRow message now) state.drafts).map
            DraftRow.id = state.drafts.map DraftRow.id :=
        ids_updateRow (fun _ => by rfl) state.drafts
      cases token : ServerBootstrapService.reportedToken environment
          message with
      | none =>
          simp only [token] at reported
          cases reported
          refine ⟨⟨created, opened⟩, ?_⟩
          exact (tables.withDrafts ids (drafts none)
            (fun id same => by cases same) fun id => not_false).setState
      | some tokenHash =>
          simp only [token] at reported
          cases reported
          refine ⟨⟨created, opened⟩, ?_⟩
          have bindings : BootstrapTables history { state with
              bindings := ServerBindingsStore.setState found.bindingId
                (if message.installed then .installed else .failed) now
                  state.bindings } := tables.setState
          exact bindings.saveUpdaterToken ids (drafts (some tokenHash))

/-! ### Bindings -/

theorem requireBinding_eq_ok {rows : List ServerBinding}
    {installationId bindingId : String} {binding : ServerBinding}
    (found : ServerBootstrapService.requireBinding rows installationId
      bindingId = .ok binding) :
    binding ∈ rows ∧ binding.id = bindingId := by
  unfold ServerBootstrapService.requireBinding at found
  cases located : ServerBindingsStore.get rows bindingId with
  | none =>
      rw [located] at found
      cases found
  | some row =>
      simp only [located] at found
      split at found
      · cases found
      · cases found
        have same := List.find?_some located
        exact ⟨List.mem_of_find?_eq_some located, of_decide_eq_true same⟩

theorem BootstrapTables.acceptEula
    {installationId bindingId accepted : String}
    (tables : BootstrapTables history state)
    (consented : ServerBootstrapService.acceptEula installationId bindingId
      accepted now state = (.ok ⟨⟩, next)) :
    BootstrapTables (history ++ [.accepted bindingId]) next := by
  unfold ServerBootstrapService.acceptEula at consented
  split at consented
  · cases consented
  · cases consented
    have old : BootstrapTables (history ++ [.accepted bindingId]) state :=
      tables.harmless trivial
    refine ⟨old.drafts, ?_, old.tokens, ?_, old.distinct⟩
    · intro row member consent
      obtain ⟨before, found, rfl⟩ := List.mem_map.mp member
      by_cases same : before.id = bindingId
      · rw [if_pos same]
        refine standing_concat.mpr (.inl ?_)
        change BootstrapRecord.accepted bindingId = .accepted before.id
        rw [same]
      · rw [if_neg same] at consent ⊢
        exact old.bindings before found consent
    · intro pair member
      obtain ⟨before, found, same⟩ := List.mem_map.mp (tables.owned pair member)
      refine List.mem_map.mpr ⟨_, List.mem_map_of_mem found, ?_⟩
      split <;> exact same

theorem acceptEula_error {installationId bindingId accepted problem : String}
    (refused : ServerBootstrapService.acceptEula installationId bindingId
      accepted now state = (.error problem, next)) : next = state := by
  unfold ServerBootstrapService.acceptEula at refused
  split at refused
  · cases refused
    rfl
  · cases refused

theorem BootstrapTables.createDraft
    {installationId bindingId id : String}
    (tables : BootstrapTables history state)
    (fresh : ∀ row ∈ state.drafts, row.id ≠ id)
    (created : ServerBootstrapService.createDraft installationId bindingId id
      now state = (.ok draft, next)) :
    Standing (· ≠ .removed bindingId) (.accepted bindingId) history ∧
      BootstrapTables (history ++ [.created id bindingId]) next := by
  unfold ServerBootstrapService.createDraft at created
  cases required : ServerBootstrapService.requireBinding state.bindings
      installationId bindingId with
  | error problem =>
      rw [required] at created
      cases created
  | ok binding =>
      simp only [required] at created
      obtain ⟨member, rfl⟩ := requireBinding_eq_ok required
      cases consent : binding.eulaAcceptedAt.filter (· != "") with
      | none =>
          rw [consent] at created
          cases created
      | some eulaAcceptedAt =>
          simp only [consent] at created
          cases created
          have given := (Option.filter_eq_some_iff.mp consent).1
          refine ⟨tables.bindings binding member (by rw [given]; simp), ?_⟩
          have old : BootstrapTables
              (history ++ [.created id binding.id]) state :=
            tables.harmless trivial
          refine ⟨?_, old.bindings, old.tokens, old.owned, ?_⟩
          · intro row inside
            rcases List.mem_append.mp inside with kept | new
            · exact old.drafts row kept
            · rw [List.mem_singleton.mp new]
              refine ⟨List.mem_append_right _ List.mem_cons_self, ?_, ?_, ?_,
                ?_⟩
              · exact fun config same => by cases same
              · exact fun artifacts same => by cases same
              · exact fun status => by cases status
              · exact fun status => by cases status
          · rw [List.map_append]
            refine List.nodup_append.mpr
              ⟨tables.distinct, List.nodup_singleton _, ?_⟩
            intro first one second two same
            obtain ⟨row, found, rfl⟩ := List.mem_map.mp one
            rw [List.mem_singleton.mp two] at same
            exact fresh row found same

theorem createDraft_error {installationId bindingId id problem : String}
    (refused : ServerBootstrapService.createDraft installationId bindingId id
      now state = (.error problem, next)) : next = state := by
  unfold ServerBootstrapService.createDraft at refused
  split at refused
  · cases refused
    rfl
  · split at refused
    · cases refused
      rfl
    · cases refused

theorem BootstrapTables.save {input : ServerBindingInput}
    {deployment : Option ServerBindingDeploymentState}
    (tables : BootstrapTables history state) :
    BootstrapTables history { state with
      bindings := ServerBindingsStore.savedRows state.bindings input id
        deployment now } := by
  have cleared : ∀ row, (ServerBindingsStore.clearDefault input id now row).id =
      row.id ∧ (ServerBindingsStore.clearDefault input id now
        row).eulaAcceptedAt = row.eulaAcceptedAt := by
    intro row
    unfold ServerBindingsStore.clearDefault
    split <;> exact ⟨rfl, rfl⟩
  have updated : ∀ row, (ServerBindingsStore.updatedRow input id deployment now
      row).id = row.id ∧ (ServerBindingsStore.updatedRow input id deployment
        now row).eulaAcceptedAt = row.eulaAcceptedAt := by
    intro row
    unfold ServerBindingsStore.updatedRow
    split <;> exact ⟨rfl, rfl⟩
  have others : BootstrapTables history { state with
      bindings := ServerBindingsStore.clearDefaults state.bindings input id
        now } := by
    unfold ServerBindingsStore.clearDefaults
    split
    · exact tables.mapBindings cleared
    · exact tables
  unfold ServerBindingsStore.savedRows
  cases ServerBindingsStore.get state.bindings id with
  | none =>
      refine others.withBindings ?_ ?_
      · intro row member consent
        rcases List.mem_append.mp member with kept | new
        · exact ⟨row, kept, rfl, consent⟩
        · rw [List.mem_singleton.mp new] at consent
          exact absurd rfl consent
      · intro key member
        rw [List.map_append]
        exact List.mem_append_left _ member
  | some current => exact others.mapBindings updated

theorem BootstrapTables.remove {bindingId : String}
    (tables : BootstrapTables history state) :
    BootstrapTables (history ++ [.removed bindingId]) {
      drafts := ServerBootstrapStore.withoutBinding bindingId state.drafts
      bindings := state.bindings.filter fun row => row.id ≠ bindingId
      updaterTokens :=
        state.updaterTokens.filter fun pair => pair.1 ≠ bindingId } where
  drafts row member := by
    obtain ⟨old, differs⟩ := List.mem_filter.mp member
    have other := of_decide_eq_true differs
    exact (tables.drafts row old).concat
      ⟨fun same => other same.symm, fun hash same => by cases same⟩
  bindings row member consent := by
    obtain ⟨old, differs⟩ := List.mem_filter.mp member
    have other := of_decide_eq_true differs
    refine standing_concat.mpr (.inr ⟨tables.bindings row old consent, ?_⟩)
    intro same
    cases same
    exact other rfl
  tokens pair member := by
    obtain ⟨old, differs⟩ := List.mem_filter.mp member
    have other := of_decide_eq_true differs
    exact (tables.tokens pair old).concat fun same => other same.symm
  owned pair member := by
    obtain ⟨old, differs⟩ := List.mem_filter.mp member
    obtain ⟨row, found, same⟩ := List.mem_map.mp (tables.owned pair old)
    refine List.mem_map.mpr ⟨row, List.mem_filter.mpr ⟨found, ?_⟩, same⟩
    rw [same]
    exact differs
  distinct := List.Nodup.sublist (List.filter_sublist.map _) tables.distinct

theorem BootstrapTables.updaterBinding
    {token seen : String} {binding : ServerBinding}
    (tables : BootstrapTables history state)
    (found : ServerBootstrapService.updaterBinding environment token seen now
      state = some (binding, next)) :
    TokenOf history (environment.hash token) binding.id ∧
      BootstrapTables history next := by
  unfold ServerBootstrapService.updaterBinding at found
  split at found
  · cases found
  · cases located : ServerBindingsStore.getByUpdaterTokenHash state
        (environment.hash token) with
    | none =>
        rw [located] at found
        cases found
    | some row =>
        simp only [located] at found
        split at found
        · cases found
        · cases found
          have listed := List.find?_some located
          have member := of_decide_eq_true listed
          exact ⟨tables.tokens _ member,
            tables.updateBinding (fun _ => rfl) fun _ => rfl⟩

end Tables

end GravitPanel.Servers
