import GravitPanel.Core.Execution
import GravitPanel.Servers.BootstrapDrafts

/-!
# Runs of the bootstrap

The routes of `servers.routes.ts` around a draft, the routes for its host, and
the hello of its agent.  Between any two steps of a call that waits other calls
may change the tables.
-/

namespace GravitPanel.Servers

open GravitPanel.Execution Program

/-- Where `prepare` waits; at the end it knows its problem. -/
inductive PreparationPhase where
  | profile (binding : ServerBinding)
  | packing (config : BootstrapConfig)
  | cleaning (problem : Option String)

structure PendingPreparation where
  draft : DraftRow
  phase : PreparationPhase

structure PendingIssue where
  installationId : String
  draft : DraftRow

/-- `start` waits for the profile, and then for the token of the server. -/
structure PendingStart where
  claim : String
  draft : DraftRow
  checked : Bool

/-- The tables, the identifiers of drafts so far, the jobs that have not begun,
and the calls that wait. -/
structure BootstrapRun where
  state : BootstrapState
  drawn : List String
  queued : List (String × String)
  preparing : List PendingPreparation
  issuing : List PendingIssue
  starting : List PendingStart

inductive BootstrapEvent where
  | accepted (installationId bindingId accepted : String) (now : Nat)
  | requested (installationId bindingId id : String) (now : Nat)
  | begun (index now : Nat)
  | profiled (index : Nat) (answer : Except String DraftProfile)
      (progress : Except String Unit) (now : Nat)
  | packed (index : Nat) (outcome : Except String BootstrapArtifacts)
      (progress : Except String Unit) (now : Nat)
  | cleaned (index : Nat) (removal : Except String Unit) (now : Nat)
  | issue (installationId draftId : String)
  | issueProfiled (index : Nat) (answer : Except String DraftProfile)
      (claim : String) (now : Nat)
  | started (claim : String) (now : Nat)
  | startProfiled (index : Nat) (answer : Except String DraftProfile)
  | startToken (index : Nat) (answer : Except String String)
  | fetched (claim : String) (kind : ArtifactKind)
  | reported (claim : String) (message : ServerBootstrapStore.BootstrapReport)
      (seen : String) (now : Nat)
  | revoked (installationId draftId : String)
  | invalidated (bindingId reason : String)
  | saved (referenced : ReferencedIds) (input : ServerBindingInput)
      (id : String) (state : Option ServerBindingDeploymentState) (now : Nat)
  | removed (bindingId : String)
  | authenticated (token seen : String) (now : Nat)
  | restarted

/-- What happens to drafts, claims and tokens; claims and tokens are named by
their hashes. -/
inductive BootstrapRecord where
  | accepted (bindingId : String)
  | created (draftId bindingId : String)
  | prepared (draftId : String) (config : BootstrapConfig)
      (artifacts : BootstrapArtifacts)
  | failed (draftId : String)
  | issued (claimHash draftId : String)
  | opened (claimHash draftId : String)
  | scripted (claimHash draftId : String) (script : BootstrapScript)
  | served (claimHash draftId : String) (artifact : BootstrapArtifact)
  | reported (claimHash draftId bindingId : String) (tokenHash : Option String)
  | withdrawn (draftId : String)
  | invalidated (bindingId : String)
  | removed (bindingId : String)
  | authenticated (tokenHash bindingId : String)
  deriving DecidableEq, Repr

section Runs

open ServerBootstrapService

variable (environment : BootstrapEnvironment)

abbrev BootstrapResult : Type := BootstrapRun × List BootstrapRecord

/-- What is recorded when a check finds a change. -/
def invalidation (draft : DraftRow) :
    Except String Bool → List BootstrapRecord
  | .ok true => [.invalidated draft.bindingId]
  | _ => []

def acceptedStep (run : BootstrapRun)
    (installationId bindingId accepted : String) (now : Nat) :
    BootstrapResult :=
  match acceptEula installationId bindingId accepted now run.state with
  | (.error _, state) => ({ run with state }, [])
  | (.ok _, state) => ({ run with state }, [.accepted bindingId])

/-- The route creates the draft and its job. -/
def requestedStep (run : BootstrapRun)
    (installationId bindingId id : String) (now : Nat) : BootstrapResult :=
  match createDraft installationId bindingId id now run.state with
  | (.error _, state) => ({ run with state }, [])
  | (.ok _, state) =>
      ({ run with
          state
          drawn := id :: run.drawn
          queued := run.queued ++ [(installationId, id)] },
        [.created id bindingId])

/-- The handler of `prepare`. -/
def failedStep (run : BootstrapRun) (draft : DraftRow) (problem : String)
    (now : Nat) : BootstrapResult :=
  ({ run with state := markFailed draft problem now run.state },
    [.failed draft.id])

def BootstrapRun.prepares (run : BootstrapRun) (draft : DraftRow)
    (phase : PreparationPhase) : BootstrapRun :=
  { run with preparing := run.preparing ++ [⟨draft, phase⟩] }

/-- `prepare` until it waits for the profile. -/
def begunStep (run : BootstrapRun) (installationId draftId : String)
    (now : Nat) : BootstrapResult :=
  match availableDraft run.state.drafts installationId draftId with
  | .error _ => (run, [])
  | .ok draft =>
      match requireBinding run.state.bindings installationId
          draft.bindingId with
      | .error problem => failedStep run draft problem now
      | .ok binding => (run.prepares draft (.profile binding), [])

def profiledStep (run : BootstrapRun) (draft : DraftRow)
    (binding : ServerBinding) (answer : Except String DraftProfile)
    (progress : Except String Unit) (now : Nat) : BootstrapResult :=
  match (do
    let profile ← answer
    let config ← bootstrapConfig environment profile draft binding
    progress
    pure config) with
  | .error problem => failedStep run draft problem now
  | .ok config => (run.prepares draft (.packing config), [])

/-- The progress is told after the draft is ready. -/
def packedStep (run : BootstrapRun) (draft : DraftRow)
    (config : BootstrapConfig) (outcome : Except String BootstrapArtifacts)
    (progress : Except String Unit) (now : Nat) : BootstrapResult :=
  match outcome with
  | .error problem => (run.prepares draft (.cleaning (some problem)), [])
  | .ok artifacts =>
      let marked :=
        { run with state := markReady draft config artifacts now run.state }
      match progress with
      | .error problem =>
          (marked.prepares draft (.cleaning (some problem)),
            [.prepared draft.id config artifacts])
      | .ok _ =>
          (marked.prepares draft (.cleaning none),
            [.prepared draft.id config artifacts])

/-- A problem of the removal replaces an earlier one. -/
def cleanedStep (run : BootstrapRun) (draft : DraftRow)
    (problem : Option String) (removal : Except String Unit) (now : Nat) :
    BootstrapResult :=
  match removal, problem with
  | .error removal, _ => failedStep run draft removal now
  | .ok _, some problem => failedStep run draft problem now
  | .ok _, none => (run, [])

def issueStep (run : BootstrapRun) (installationId draftId : String) :
    BootstrapResult :=
  match issuedDraft environment run.state installationId draftId with
  | .error _ => (run, [])
  | .ok draft =>
      ({ run with issuing := run.issuing ++ [⟨installationId, draft⟩] }, [])

def issueProfiledStep (run : BootstrapRun) (pending : PendingIssue)
    (answer : Except String DraftProfile) (claim : String) (now : Nat) :
    BootstrapResult :=
  match issue environment pending.installationId pending.draft answer claim
      now run.state with
  | (.ok _, state) =>
      ({ run with state },
        [.issued (environment.hash claim) pending.draft.id])
  | (.error _, state) =>
      ({ run with state },
        invalidation pending.draft (draftChanged run.state.bindings
          pending.installationId pending.draft answer))

def startedStep (run : BootstrapRun) (claim : String) (now : Nat) :
    BootstrapResult :=
  match start environment claim now run.state with
  | none => (run, [])
  | some (draft, state) =>
      ({ run with
          state
          starting := run.starting ++ [⟨claim, draft, false⟩] },
        [.opened (environment.hash claim) draft.id])

def startProfiledStep (run : BootstrapRun) (pending : PendingStart)
    (answer : Except String DraftProfile) : BootstrapResult :=
  match assertDraftCurrent pending.draft.installationId pending.draft answer
      run.state with
  | (.ok _, state) =>
      ({ run with
          state
          starting := run.starting ++ [{ pending with checked := true }] },
        [])
  | (.error _, state) =>
      ({ run with state },
        invalidation pending.draft (draftChanged run.state.bindings
          pending.draft.installationId pending.draft answer))

def startTokenStep (run : BootstrapRun) (pending : PendingStart)
    (answer : Except String String) : BootstrapResult :=
  match (do
    let serverToken ← answer
    renderScript environment run.state pending.draft serverToken
      pending.claim) with
  | .error _ => (run, [])
  | .ok script =>
      (run, [.scripted (environment.hash pending.claim) pending.draft.id
        script])

def fetchedStep (run : BootstrapRun) (claim : String) (kind : ArtifactKind) :
    BootstrapResult :=
  match artifact environment run.state claim kind with
  | none => (run, [])
  | some (draft, artifact) =>
      (run, [.served (environment.hash claim) draft.id artifact])

def reportedStep (run : BootstrapRun) (claim : String)
    (message : ServerBootstrapStore.BootstrapReport) (seen : String)
    (now : Nat) : BootstrapResult :=
  match report environment claim message seen now run.state with
  | none => (run, [])
  | some (draft, state) =>
      ({ run with state },
        [.reported (environment.hash claim) draft.id draft.bindingId
          (reportedToken environment message)])

def revokedStep (run : BootstrapRun) (installationId draftId : String) :
    BootstrapResult :=
  match revoke installationId draftId run.state with
  | (.error _, state) => ({ run with state }, [])
  | (.ok _, state) => ({ run with state }, [.withdrawn draftId])

/-- The row of a binding that is saved; a transaction that fails changes
nothing. -/
def savedStep (run : BootstrapRun) (referenced : ReferencedIds)
    (input : ServerBindingInput) (id : String)
    (state : Option ServerBindingDeploymentState) (now : Nat) :
    BootstrapResult :=
  match ServerBindingsStore.violation referenced run.state.bindings input
      id with
  | some _ => (run, [])
  | none =>
      ({ run with state := { run.state with
        bindings := ServerBindingsStore.savedRows run.state.bindings input id
          state now } },
        [])

/-- A binding goes with its drafts and its token. -/
def removedStep (run : BootstrapRun) (bindingId : String) : BootstrapResult :=
  ({ run with state := {
    drafts := ServerBootstrapStore.withoutBinding bindingId run.state.drafts
    bindings := run.state.bindings.filter fun row => row.id ≠ bindingId
    updaterTokens :=
      run.state.updaterTokens.filter fun pair => pair.1 ≠ bindingId } },
    [.removed bindingId])

def authenticatedStep (run : BootstrapRun) (token seen : String) (now : Nat) :
    BootstrapResult :=
  match updaterBinding environment token seen now run.state with
  | none => (run, [])
  | some (binding, state) =>
      ({ run with state },
        [.authenticated (environment.hash token) binding.id])

/-- An identifier of a draft is drawn once; a restart loses what waits. -/
def bootstrapStep (run : BootstrapRun) :
    BootstrapEvent → Option BootstrapResult
  | .accepted installationId bindingId accepted now =>
      some (acceptedStep run installationId bindingId accepted now)
  | .requested installationId bindingId id now =>
      if id ∈ run.drawn then none
      else some (requestedStep run installationId bindingId id now)
  | .begun index now =>
      (takeAt run.queued index).map fun taken =>
        begunStep { run with queued := taken.2 } taken.1.1 taken.1.2 now
  | .profiled index answer progress now =>
      (takeAt run.preparing index).bind fun taken =>
        match taken.1.phase with
        | .profile binding =>
            some (profiledStep environment { run with preparing := taken.2 }
              taken.1.draft binding answer progress now)
        | _ => none
  | .packed index outcome progress now =>
      (takeAt run.preparing index).bind fun taken =>
        match taken.1.phase with
        | .packing config =>
            some (packedStep { run with preparing := taken.2 } taken.1.draft
              config outcome progress now)
        | _ => none
  | .cleaned index removal now =>
      (takeAt run.preparing index).bind fun taken =>
        match taken.1.phase with
        | .cleaning problem =>
            some (cleanedStep { run with preparing := taken.2 } taken.1.draft
              problem removal now)
        | _ => none
  | .issue installationId draftId =>
      some (issueStep environment run installationId draftId)
  | .issueProfiled index answer claim now =>
      (takeAt run.issuing index).map fun taken =>
        issueProfiledStep environment { run with issuing := taken.2 } taken.1
          answer claim now
  | .started claim now => some (startedStep environment run claim now)
  | .startProfiled index answer =>
      (takeAt run.starting index).bind fun taken =>
        if taken.1.checked then none
        else some (startProfiledStep { run with starting := taken.2 } taken.1
          answer)
  | .startToken index answer =>
      (takeAt run.starting index).bind fun taken =>
        if taken.1.checked then
          some (startTokenStep environment { run with starting := taken.2 }
            taken.1 answer)
        else none
  | .fetched claim kind => some (fetchedStep environment run claim kind)
  | .reported claim message seen now =>
      some (reportedStep environment run claim message seen now)
  | .revoked installationId draftId =>
      some (revokedStep run installationId draftId)
  | .invalidated bindingId reason =>
      some ({ run with state := { run.state with
        drafts := ServerBootstrapStore.invalidateBinding bindingId reason
          run.state.drafts } }, [.invalidated bindingId])
  | .saved referenced input id state now =>
      some (savedStep run referenced input id state now)
  | .removed bindingId => some (removedStep run bindingId)
  | .authenticated token seen now =>
      some (authenticatedStep environment run token seen now)
  | .restarted => some (⟨run.state, run.drawn, [], [], [], []⟩, [])

end Runs

end GravitPanel.Servers
