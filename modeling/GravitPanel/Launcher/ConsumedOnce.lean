import GravitPanel.Core.Execution
import GravitPanel.Launcher.DiscordAuth

/-!
# Browser authorizations are consumed once

A completion is stored for its client and for its state.  Taking it by its
state removes it from both maps, in two operations, and taking it by its client
only from the first, so the state may return it once more, and return it late.
-/

namespace GravitPanel.Launcher

open GravitPanel.Execution
open DiscordAuthCoreProvider

variable {Client Report : Type}

/-- A call of a method, or an operation of a call that is running. -/
inductive AuthEvent (Client Report : Type) where
  | createPendingState (client : Client)
  | consumePendingState (state : String) (client : Client)
  | completeState (state : String) (report : Report)
  | complete (client : Client) (report : Report)
  | authorize
      (discord : Discord Report) (login : String) (client : Option Client)
      (password : AuthPassword) (minecraftAccess : Bool)
  | cleanupExpiredStates
  | visited (index : Nat) (key : VisitedKey Client)
  | advanced (index : Nat) (now : Int) (token : String)

/-- The provider with the calls that are running and what was done to
`completedAuth`, newest first. -/
structure AuthRun (Client Report : Type) where
  provider : DiscordAuthCoreProvider Client Report
  calls : List (AuthCall Client Report)
  operations : List (ClientOperation Client)

namespace AuthRun

def new : AuthRun Client Report :=
  ⟨.new, [], []⟩

def start (call : AuthCall Client Report) (run : AuthRun Client Report) :
    AuthRun Client Report :=
  { run with calls := run.calls ++ [call] }

/-- A call has done an operation; the others wait. -/
def resume (others : List (AuthCall Client Report))
    (run : AuthRun Client Report) (result : AuthResult Client Report) :
    AuthRun Client Report :=
  ⟨result.provider, others ++ result.rest.toList,
    result.operations ++ run.operations⟩

end AuthRun

section Runs

variable [DecidableEq Client]

/-- A second `createPendingState` waits for the first one. -/
def authStep (run : AuthRun Client Report) :
    AuthEvent Client Report →
      Option (AuthRun Client Report × List (AuthAnswer Report))
  | .createPendingState client =>
      if run.calls.any synchronized then none
      else some (run.start (createPendingState client), [])
  | .consumePendingState state client =>
      some (run.start (consumePendingState state client), [])
  | .completeState state report =>
      some (run.start (completeBrowserAuthorizationState state report), [])
  | .complete client report =>
      some (run.start (completeBrowserAuthorization client report), [])
  | .authorize discord login client password minecraftAccess =>
      match authorize discord login client password minecraftAccess with
      | .ok (.asks call) => some (run.start call, [])
      | .ok (.made report) => some (run, [.made report])
      | .error problem => some (run, [.failed problem])
  | .cleanupExpiredStates => some (run.start cleanupExpiredStates, [])
  | .visited index key =>
      (takeAt run.calls index).bind fun taken =>
        (run.provider.visit key taken.1).map fun result =>
          (run.resume taken.2 result, result.answers)
  | .advanced index now token =>
      (takeAt run.calls index).bind fun taken =>
        (run.provider.advance now token taken.1).map fun result =>
          (run.resume taken.2 result, result.answers)

/-- The completion that stands for a client after these operations. -/
def standing (client : Client) : List (ClientOperation Client) → Option Nat
  | [] => none
  | .stored other identity :: earlier =>
      if other = client then some identity else standing client earlier
  | .asked other :: earlier =>
      if other = client then none else standing client earlier
  | .expired other :: earlier =>
      if other = client then none else standing client earlier
  | .dropped identity :: earlier =>
      (standing client earlier).filter (· ≠ identity)

/-- A client has asked while the completion stood for it. -/
def askedFor (identity : Nat) : List (ClientOperation Client) → Bool
  | [] => false
  | .asked client :: earlier =>
      decide (standing client earlier = some identity) ||
        askedFor identity earlier
  | _ :: earlier => askedFor identity earlier

/-- The clock reading of a call that asks for the completion of the client and
whose cleanup is past the entry of the client. -/
def AuthCall.past (client : Client) : AuthCall Client Report → Option Int
  | .clean now (.completedAuth remaining) (.consume asking) =>
      if asking = client ∧ client ∉ remaining then some now else none
  | .clean now (.completedAuthByState _) (.consume asking) =>
      if asking = client then some now else none
  | .consume asking now => if asking = client then some now else none
  | _ => none

omit [DecidableEq Client] in
/-- The completion that a call still has to drop from `completedAuth`. -/
def AuthCall.dropping : AuthCall Client Report → Option Nat
  | .drop completed => some completed.identity
  | _ => none

/-- The cleanup is not overtaken, and the state asks before the client.

A completion is stored for a client only if the calls of the client that are
past the entry would have left it there.  A client takes a completion that no
call has taken by its state and has still to drop, and whose time does not pass
between the clock reading of the call and the operation.  A state takes a
completion that its client has not asked for, and that a cleanup would leave. -/
def AsksInTime (run : AuthRun Client Report) (now : Int) :
    AuthCall Client Report → Prop
  | .store client completed _ =>
      ∀ call ∈ run.calls, ∀ read ∈ call.past client,
        read - completed.createdAt ≤ COMPLETED_AUTH_TTL_MS
  | .consume client read =>
      ∀ completed ∈ run.provider.completedAuth.get client,
        (∀ call ∈ run.calls, call.dropping ≠ some completed.identity) ∧
          (read - completed.createdAt ≤ COMPLETED_AUTH_TTL_MS →
            now - completed.createdAt ≤ COMPLETED_AUTH_TTL_MS)
  | .take state =>
      ∀ completed ∈ run.provider.completedAuthByState.get state,
        askedFor completed.identity run.operations = false ∧
          ((run.provider.expireState now state).completedAuthByState.get
            state).isSome
  | _ => True

/-- The condition on the operation that an event does. -/
def InOrder (run : AuthRun Client Report) : AuthEvent Client Report → Prop
  | .advanced index now _ =>
      ∀ call ∈ run.calls[index]?, AsksInTime run now call
  | _ => True

instance (run : AuthRun Client Report) (now : Int) :
    ∀ call, Decidable (AsksInTime run now call)
  | .store client completed _ =>
      inferInstanceAs (Decidable (∀ call ∈ run.calls,
        ∀ read ∈ call.past client,
          read - completed.createdAt ≤ COMPLETED_AUTH_TTL_MS))
  | .consume client read =>
      inferInstanceAs (Decidable (
        ∀ completed ∈ run.provider.completedAuth.get client,
          (∀ call ∈ run.calls, call.dropping ≠ some completed.identity) ∧
            (read - completed.createdAt ≤ COMPLETED_AUTH_TTL_MS →
              now - completed.createdAt ≤ COMPLETED_AUTH_TTL_MS)))
  | .take state =>
      inferInstanceAs (Decidable (
        ∀ completed ∈ run.provider.completedAuthByState.get state,
          askedFor completed.identity run.operations = false ∧
            ((run.provider.expireState now state).completedAuthByState.get
              state).isSome))
  | .readClock _ => .isTrue trivial
  | .clean _ _ _ => .isTrue trivial
  | .scan _ _ => .isTrue trivial
  | .register _ _ => .isTrue trivial
  | .look _ _ => .isTrue trivial
  | .withdraw _ _ => .isTrue trivial
  | .detach _ _ => .isTrue trivial
  | .discard _ _ _ => .isTrue trivial
  | .construct _ _ _ => .isTrue trivial
  | .index _ _ => .isTrue trivial
  | .drop _ => .isTrue trivial

instance (run : AuthRun Client Report) :
    ∀ event, Decidable (InOrder run event)
  | .advanced index now _ =>
      inferInstanceAs (Decidable
        (∀ call ∈ run.calls[index]?, AsksInTime run now call))
  | .createPendingState _ => .isTrue trivial
  | .consumePendingState _ _ => .isTrue trivial
  | .completeState _ _ => .isTrue trivial
  | .complete _ _ => .isTrue trivial
  | .authorize .. => .isTrue trivial
  | .cleanupExpiredStates => .isTrue trivial
  | .visited _ _ => .isTrue trivial

end Runs

def AuthAnswer.delivery : AuthAnswer Report → Option (Delivery Report)
  | .delivered delivery => some delivery
  | _ => none

/-- The completions that `authorize` returns. -/
def deliveriesOf (answers : List (AuthAnswer Report)) :
    List (Delivery Report) :=
  answers.filterMap AuthAnswer.delivery

section Places

variable {run : AuthRun Client Report}
variable {call : AuthCall Client Report}
variable {others : List (AuthCall Client Report)}

/-- The completion that a call has still to store for its client. -/
def AuthCall.unstored : AuthCall Client Report → Option Nat
  | .store _ completed _ => some completed.identity
  | _ => none

/-- The completion that a call may have still to store for its state. -/
def AuthCall.unindexed : AuthCall Client Report → Option Nat
  | .store _ completed _ => some completed.identity
  | .index _ completed => some completed.identity
  | _ => none

def identities {Key : Type}
    (completions : Dictionary Key (CompletedAuth Report)) : List Nat :=
  completions.entries.map fun entry => entry.2.identity

theorem mem_identities {Key : Type} {identity : Nat}
    {completions : Dictionary Key (CompletedAuth Report)} :
    identity ∈ identities completions ↔
      ∃ entry ∈ completions, entry.2.identity = identity :=
  List.mem_map

theorem identities_removeIf {Key : Type}
    (condition : Key × CompletedAuth Report → Bool)
    (completions : Dictionary Key (CompletedAuth Report)) :
    (identities (completions.removeIf condition)).Subperm
      (identities completions) :=
  (List.filter_sublist.map _).subperm

theorem identities_put {Key : Type} [DecidableEq Key] (key : Key)
    (completed : CompletedAuth Report)
    (completions : Dictionary Key (CompletedAuth Report)) :
    (identities (completions.put key completed)).Subperm
      (identities completions ++ [completed.identity]) := by
  have kept := identities_removeIf (fun entry => entry.1 = key) completions
  have stored : identities (completions.put key completed) =
      identities (completions.remove key) ++ [completed.identity] :=
    List.map_append
  rw [stored]
  exact (List.subperm_append_right _).mpr kept

/-- The places from which a client may take a completion, now or later. -/
def AuthRun.clientPlaces (run : AuthRun Client Report) : List Nat :=
  identities run.provider.completedAuth ++
    run.calls.filterMap AuthCall.unstored

/-- The places from which a state may take a completion, now or later. -/
def AuthRun.statePlaces (run : AuthRun Client Report) : List Nat :=
  identities run.provider.completedAuthByState ++
    run.calls.filterMap AuthCall.unindexed

theorem places_subperm
    {place : AuthCall Client Report → Option Nat}
    {news before after : List Nat} {rest : Option (AuthCall Client Report)}
    (taken : run.calls.Perm (call :: others))
    (fewer : (after ++ (rest.bind place).toList).Subperm
      (news ++ (before ++ (place call).toList))) :
    (after ++ (others ++ rest.toList).filterMap place).Subperm
      (news ++ (before ++ run.calls.filterMap place)) := by
  have resumed : ((others ++ rest.toList).filterMap place).Perm
      ((rest.bind place).toList ++ others.filterMap place) := by
    rw [List.filterMap_append]
    refine List.perm_append_comm.trans (.of_eq ?_)
    cases rest with
    | none => rfl
    | some next => cases shape : place next <;> simp [shape]
  have waited : (run.calls.filterMap place).Perm
      ((place call).toList ++ others.filterMap place) := by
    refine (taken.filterMap place).trans (.of_eq ?_)
    cases shape : place call <;> simp [shape]
  have joined := (List.subperm_append_right
    (others.filterMap place)).mpr fewer
  refine ((resumed.append_left after).subperm).trans ?_
  rw [← List.append_assoc]
  have gathered : (news ++ (before ++ (place call).toList) ++
      others.filterMap place).Perm
        (news ++ (before ++ run.calls.filterMap place)) := by
    rw [List.append_assoc, List.append_assoc]
    exact (waited.symm.append_left before).append_left news
  exact joined.trans gathered.subperm

theorem nodup_of_subperm {fewer more : List Nat}
    (subperm : fewer.Subperm more) (nodup : more.Nodup) : fewer.Nodup := by
  obtain ⟨middle, same, sublist⟩ := subperm
  exact same.nodup_iff.mp (sublist.nodup nodup)

section Apart

variable {Key : Type} {calls : List (AuthCall Client Report)}
variable {completions : Dictionary Key (CompletedAuth Report)}
variable {place : AuthCall Client Report → Option Nat}

theorem entry_unique {entry other : Key × CompletedAuth Report}
    (nodup : (identities completions ++ calls.filterMap place).Nodup)
    (stored : entry ∈ completions) (also : other ∈ completions)
    (same : entry.2.identity = other.2.identity) : entry = other :=
  List.inj_on_of_nodup_map (List.nodup_append.mp nodup).1 stored also same

theorem place_ne {entry : Key × CompletedAuth Report}
    (nodup : (identities completions ++ calls.filterMap place).Nodup)
    (stored : entry ∈ completions) {call : AuthCall Client Report}
    (running : call ∈ calls) : place call ≠ some entry.2.identity := by
  intro waits
  have waiting : entry.2.identity ∈ calls.filterMap place :=
    List.mem_filterMap.mpr ⟨call, running, waits⟩
  have held := mem_identities.mpr ⟨entry, stored, rfl⟩
  exact (List.nodup_append.mp nodup).2.2 _ held _ waiting rfl

end Apart

end Places

section Invariant

variable [DecidableEq Client]
variable {run : AuthRun Client Report}
variable {call : AuthCall Client Report}
variable {others : List (AuthCall Client Report)}
variable {result : AuthResult Client Report}
variable {delivered : List (Delivery Report)}

/-- Each completion has at most one place for its client and one for its state.
One that was delivered has the first only until it is dropped, and the second
only if its client asked for it. -/
structure Consistent (run : AuthRun Client Report)
    (delivered : List (Delivery Report)) : Prop where
  clientNodup : run.clientPlaces.Nodup
  stateNodup : run.statePlaces.Nodup
  clientConstructed : ∀ identity ∈ run.clientPlaces,
    identity < run.provider.allocated
  stateConstructed : ∀ identity ∈ run.statePlaces,
    identity < run.provider.allocated
  constructed : ∀ delivery ∈ delivered,
    delivery.completed.identity < run.provider.allocated
  held : ∀ entry ∈ run.provider.completedAuth, ∀ delivery ∈ delivered,
    delivery.completed.identity = entry.2.identity →
      ∃ call ∈ run.calls, call.dropping = some entry.2.identity
  unstored : ∀ call ∈ run.calls, ∀ identity ∈ call.unstored,
    ∀ delivery ∈ delivered, delivery.completed.identity ≠ identity
  asked : ∀ identity ∈ run.statePlaces, ∀ delivery ∈ delivered,
    delivery.completed.identity = identity →
      askedFor identity run.operations = true
  mirrored : ∀ client, standing client run.operations =
    (run.provider.completedAuth.get client).map CompletedAuth.identity
  past : ∀ call ∈ run.calls, ∀ client, ∀ read ∈ call.past client,
    ∀ completed, (client, completed) ∈ run.provider.completedAuth →
      read - completed.createdAt ≤ COMPLETED_AUTH_TTL_MS
  once : (delivered.map fun delivery => delivery.completed.identity).Nodup
  inTime : ∀ delivery ∈ delivered,
    delivery.time - delivery.completed.createdAt ≤ COMPLETED_AUTH_TTL_MS

theorem consistent_new :
    Consistent (.new : AuthRun Client Report) [] where
  clientNodup := List.nodup_nil
  stateNodup := List.nodup_nil
  clientConstructed _ member := absurd member List.not_mem_nil
  stateConstructed _ member := absurd member List.not_mem_nil
  constructed _ member := absurd member List.not_mem_nil
  held _ _ _ member := absurd member List.not_mem_nil
  unstored _ member := absurd member List.not_mem_nil
  asked _ _ _ member := absurd member List.not_mem_nil
  mirrored _ := rfl
  past _ member := absurd member List.not_mem_nil
  once := List.nodup_nil
  inTime _ member := absurd member List.not_mem_nil

theorem askedFor_append
    {identity : Nat} {operations : List (ClientOperation Client)}
    (asked : askedFor identity operations = true)
    (later : List (ClientOperation Client)) :
    askedFor identity (later ++ operations) = true := by
  induction later with
  | nil => exact asked
  | cons operation rest ih =>
      cases operation with
      | asked client => exact Bool.or_eq_true_iff.mpr (.inr ih)
      | _ => exact ih

/-- What an operation does, apart from a delivery: `news` are the completions
that it constructs. -/
structure Effect (run : AuthRun Client Report)
    (others : List (AuthCall Client Report)) (call : AuthCall Client Report)
    (result : AuthResult Client Report) (news : List Nat) : Prop where
  newNodup : news.Nodup
  constructs : ∀ identity ∈ news, run.provider.allocated ≤ identity ∧
    identity < result.provider.allocated
  allocated : run.provider.allocated ≤ result.provider.allocated
  client : (identities result.provider.completedAuth ++
      (result.rest.bind AuthCall.unstored).toList).Subperm
    (news ++ (identities run.provider.completedAuth ++
      call.unstored.toList))
  state : (identities result.provider.completedAuthByState ++
      (result.rest.bind AuthCall.unindexed).toList).Subperm
    (news ++ (identities run.provider.completedAuthByState ++
      call.unindexed.toList))
  entries : ∀ entry ∈ result.provider.completedAuth,
    (entry ∈ run.provider.completedAuth ∧
        call.dropping ≠ some entry.2.identity) ∨
      call.unstored = some entry.2.identity
  unstored : ∀ identity ∈ result.rest.bind AuthCall.unstored, identity ∈ news
  mirrored : ∀ client, standing client (result.operations ++ run.operations) =
    (result.provider.completedAuth.get client).map CompletedAuth.identity
  past : ∀ other ∈ others ++ result.rest.toList, ∀ client,
    ∀ read ∈ other.past client,
      ∀ completed, (client, completed) ∈ result.provider.completedAuth →
        read - completed.createdAt ≤ COMPLETED_AUTH_TTL_MS

theorem nodup_news {news places : List Nat} {allocated : Nat}
    (newNodup : news.Nodup) (placesNodup : places.Nodup)
    (constructs : ∀ identity ∈ news, allocated ≤ identity)
    (constructed : ∀ identity ∈ places, identity < allocated) :
    (news ++ places).Nodup := by
  refine List.nodup_append.mpr ⟨newNodup, placesNodup, ?_⟩
  intro identity member other place same
  have below := constructed other place
  have above := constructs identity member
  omega

theorem Consistent.proceed
    (consistent : Consistent run delivered) (news : List Nat)
    (taken : run.calls.Perm (call :: others))
    (effect : Effect run others call result news) :
    Consistent (run.resume others result) delivered := by
  have client : (run.resume others result).clientPlaces.Subperm
      (news ++ run.clientPlaces) :=
    places_subperm taken effect.client
  have state : (run.resume others result).statePlaces.Subperm
      (news ++ run.statePlaces) :=
    places_subperm taken effect.state
  have above : ∀ identity ∈ news, run.provider.allocated ≤ identity :=
    fun identity member => (effect.constructs identity member).1
  have bounded : ∀ places : List Nat,
      (∀ identity ∈ places, identity < run.provider.allocated) →
        ∀ identity ∈ news ++ places,
          identity < result.provider.allocated := by
    intro places constructed identity member
    rcases List.mem_append.mp member with new | old
    · exact (effect.constructs identity new).2
    · exact Nat.lt_of_lt_of_le (constructed identity old) effect.allocated
  have taking : call ∈ run.calls := taken.mem_iff.mpr List.mem_cons_self
  have waiting : ∀ other ∈ others, other ∈ run.calls := fun other member =>
    taken.mem_iff.mpr (List.mem_cons_of_mem _ member)
  refine
    { clientNodup := ?_, stateNodup := ?_
      clientConstructed := fun identity member =>
        bounded _ consistent.clientConstructed identity
          (client.subset member)
      stateConstructed := fun identity member =>
        bounded _ consistent.stateConstructed identity (state.subset member)
      constructed := fun delivery member => Nat.lt_of_lt_of_le
        (consistent.constructed delivery member) effect.allocated
      held := ?_, unstored := ?_, asked := ?_
      mirrored := effect.mirrored
      past := effect.past
      once := consistent.once
      inTime := consistent.inTime }
  · exact nodup_of_subperm client (nodup_news effect.newNodup
      consistent.clientNodup above consistent.clientConstructed)
  · exact nodup_of_subperm state (nodup_news effect.newNodup
      consistent.stateNodup above consistent.stateConstructed)
  · intro entry stored delivery member same
    rcases effect.entries entry stored with ⟨before, kept⟩ | new
    · obtain ⟨other, running, dropping⟩ :=
        consistent.held entry before delivery member same
      rcases List.mem_cons.mp (taken.mem_iff.mp running) with rfl | waits
      · exact absurd dropping kept
      · exact ⟨other, List.mem_append_left _ waits, dropping⟩
    · exact absurd same
        (consistent.unstored call taking _ new delivery member)
  · intro other running identity stores delivery member same
    rcases List.mem_append.mp running with waits | resumed
    · exact consistent.unstored other (waiting other waits) identity stores
        delivery member same
    · have rest : result.rest = some other := Option.mem_toList.mp resumed
      have new : identity ∈ news := by
        refine effect.unstored identity ?_
        rw [rest]
        exact stores
      have old := consistent.constructed delivery member
      have fresh := above identity new
      omega
  · intro identity place delivery member same
    rcases List.mem_append.mp (state.subset place) with new | before
    · have old := consistent.constructed delivery member
      have fresh := above identity new
      omega
    · exact askedFor_append
        (consistent.asked identity before delivery member same) _

theorem Consistent.record {delivery : Delivery Report}
    (consistent : Consistent run delivered)
    (constructed : delivery.completed.identity < run.provider.allocated)
    (new : ∀ other ∈ delivered,
      other.completed.identity ≠ delivery.completed.identity)
    (held : ∀ entry ∈ run.provider.completedAuth,
      delivery.completed.identity = entry.2.identity →
        ∃ call ∈ run.calls, call.dropping = some entry.2.identity)
    (unstored : ∀ call ∈ run.calls,
      call.unstored ≠ some delivery.completed.identity)
    (asked : delivery.completed.identity ∈ run.statePlaces →
      askedFor delivery.completed.identity run.operations = true)
    (inTime : delivery.time - delivery.completed.createdAt ≤
      COMPLETED_AUTH_TTL_MS) :
    Consistent run (delivered ++ [delivery]) := by
  have either : ∀ other ∈ delivered ++ [delivery],
      other ∈ delivered ∨ other = delivery := by
    intro other member
    exact (List.mem_append.mp member).imp_right List.mem_singleton.mp
  refine
    { clientNodup := consistent.clientNodup
      stateNodup := consistent.stateNodup
      clientConstructed := consistent.clientConstructed
      stateConstructed := consistent.stateConstructed
      constructed := ?_, held := ?_, unstored := ?_, asked := ?_
      mirrored := consistent.mirrored
      past := consistent.past
      once := ?_, inTime := ?_ }
  · intro other member
    rcases either other member with before | rfl
    · exact consistent.constructed other before
    · exact constructed
  · intro entry stored other member same
    rcases either other member with before | rfl
    · exact consistent.held entry stored other before same
    · exact held entry stored same
  · intro call running identity stores other member same
    rcases either other member with before | rfl
    · exact consistent.unstored call running identity stores other before same
    · exact unstored call running (same ▸ stores)
  · intro identity place other member same
    rcases either other member with before | rfl
    · exact consistent.asked identity place other before same
    · subst same
      exact asked place
  · rw [List.map_append, List.map_singleton, ← List.concat_eq_append]
    refine List.Nodup.concat ?_ consistent.once
    intro member
    obtain ⟨other, before, same⟩ := List.mem_map.mp member
    exact new other before same
  · intro other member
    rcases either other member with before | rfl
    · exact consistent.inTime other before
    · exact inTime

omit [DecidableEq Client] in
theorem unstored_of_indexed (indexed : call.unindexed = none) :
    call.unstored = none := by
  cases call with
  | store client completed state => cases indexed
  | _ => rfl

theorem Effect.shrink
    (consistent : Consistent run delivered)
    (taken : run.calls.Perm (call :: others))
    (allocated : run.provider.allocated ≤ result.provider.allocated)
    (client : (identities result.provider.completedAuth).Subperm
      (identities run.provider.completedAuth))
    (state : (identities result.provider.completedAuthByState).Subperm
      (identities run.provider.completedAuthByState))
    (entries : ∀ entry ∈ result.provider.completedAuth,
      entry ∈ run.provider.completedAuth ∧
        call.dropping ≠ some entry.2.identity)
    (indexed : ∀ next ∈ result.rest, next.unindexed = none)
    (mirrored : ∀ client,
      standing client (result.operations ++ run.operations) =
        (result.provider.completedAuth.get client).map
          CompletedAuth.identity)
    (past : ∀ next ∈ result.rest, ∀ client, ∀ read ∈ next.past client,
      ∀ completed, (client, completed) ∈ result.provider.completedAuth →
        read - completed.createdAt ≤ COMPLETED_AUTH_TTL_MS) :
    Effect run others call result [] := by
  have unindexed : result.rest.bind AuthCall.unindexed = none := by
    cases rest : result.rest with
    | none => rfl
    | some next => exact indexed next rest
  have unstored : result.rest.bind AuthCall.unstored = none := by
    cases rest : result.rest with
    | none => rfl
    | some next => exact unstored_of_indexed (indexed next rest)
  refine
    { newNodup := List.nodup_nil
      constructs := fun _ member => absurd member List.not_mem_nil
      allocated := allocated
      client := ?_, state := ?_
      entries := fun entry member => .inl (entries entry member)
      unstored := fun identity member => by
        rw [unstored] at member
        cases member
      mirrored := mirrored
      past := ?_ }
  · rw [unstored, Option.toList_none, List.append_nil, List.nil_append]
    exact client.trans (List.sublist_append_left _ _).subperm
  · rw [unindexed, Option.toList_none, List.append_nil, List.nil_append]
    exact state.trans (List.sublist_append_left _ _).subperm
  · intro other running asking read reads completed stored
    rcases List.mem_append.mp running with waits | resumed
    · exact consistent.past other
        (taken.mem_iff.mpr (List.mem_cons_of_mem _ waits)) asking read reads
        completed (entries _ stored).1
    · exact past other (Option.mem_toList.mp resumed) asking read reads
        completed stored

theorem Effect.quiet
    (consistent : Consistent run delivered)
    (taken : run.calls.Perm (call :: others))
    (dropping : call.dropping = none)
    (allocated : run.provider.allocated ≤ result.provider.allocated)
    (client : result.provider.completedAuth = run.provider.completedAuth)
    (state : (identities result.provider.completedAuthByState).Subperm
      (identities run.provider.completedAuthByState))
    (operations : result.operations = [])
    (indexed : ∀ next ∈ result.rest, next.unindexed = none)
    (past : ∀ next ∈ result.rest, ∀ client, ∀ read ∈ next.past client,
      ∀ completed, (client, completed) ∈ run.provider.completedAuth →
        read - completed.createdAt ≤ COMPLETED_AUTH_TTL_MS) :
    Effect run others call result [] := by
  refine .shrink consistent taken allocated ?_ state ?_ indexed ?_ ?_
  · rw [client]
  · intro entry member
    rw [client] at member
    rw [dropping]
    exact ⟨member, fun impossible => by cases impossible⟩
  · intro asking
    rw [operations, client]
    exact consistent.mirrored asking
  · rw [client]
    exact past

variable {next : AfterCleanup Client Report}
variable {provider : DiscordAuthCoreProvider Client Report}
variable {completed : CompletedAuth Report} {now : Int} {client : Client}
variable {token : String}

theorem past_begin
    {completions : Dictionary Client (CompletedAuth Report)}
    {read : Int}
    (reads : (AuthCall.clean now (.completedAuth completions.keys)
      next).past client = some read) :
    (client, completed) ∉ completions := by
  intro stored
  cases next with
  | consume asking =>
      unfold AuthCall.past at reads
      dsimp only at reads
      split at reads
      · rename_i both
        exact both.2 (List.mem_map_of_mem stored)
      · cases reads
  | _ => cases reads

theorem past_visited
    {remaining : List Client} {visited client : Client} {read : Int}
    (reads : (AuthCall.clean now
      (.completedAuth (remaining.filter (· ≠ visited))) next).past client =
        some read) :
    read = now ∧ (client = visited ∨
      (AuthCall.clean now (.completedAuth remaining) next).past client =
        some read) := by
  cases next with
  | consume asking =>
      unfold AuthCall.past at reads ⊢
      dsimp only at reads ⊢
      split at reads
      · rename_i both
        cases reads
        refine ⟨rfl, ?_⟩
        by_cases same : client = visited
        · exact .inl same
        · refine .inr (if_pos ⟨both.1, fun member => both.2 ?_⟩)
          exact List.mem_filter.mpr ⟨member, decide_eq_true same⟩
      · cases reads
  | _ => cases reads

theorem past_ended
    {remaining : List String} :
    (AuthCall.clean now (.completedAuth []) next).past client =
      (AuthCall.clean now (.completedAuthByState remaining) next).past
        client := by
  cases next with
  | consume asking => simp [AuthCall.past]
  | _ => rfl

theorem past_afterCleanup
    {rest : AuthCall Client Report}
    (follows : rest ∈ (provider.afterCleanup now next).rest) :
    rest.unindexed = none ∧
      ∀ client, ∀ read ∈ rest.past client,
        (AuthCall.clean now (.completedAuthByState []) next).past client =
          some read := by
  cases next with
  | consume asking =>
      cases follows
      exact ⟨rfl, fun client read reads => reads⟩
  | nothing => cases follows
  | _ =>
      cases follows
      exact ⟨rfl, fun client read reads => by cases reads⟩

theorem mirrored_expired (consistent : Consistent run delivered)
    (now : Int) (visited client : Client) :
    standing client
        (run.provider.expiredClient now visited ++ run.operations) =
      ((run.provider.expireClient now visited).completedAuth.get client).map
        CompletedAuth.identity := by
  have mirrored := consistent.mirrored client
  unfold expiredClient expireClient
  dsimp only
  rw [Dictionary.get_removeIf]
  by_cases same : client = visited
  · subst same
    cases found : run.provider.completedAuth.get client with
    | none =>
        rw [found] at mirrored
        exact mirrored
    | some completed =>
        rw [found] at mirrored
        by_cases late : now - completed.createdAt > COMPLETED_AUTH_TTL_MS
        · simp [late, standing, Option.filter_some]
        · simpa [late, Option.filter_some] using mirrored
  · have kept : ((run.provider.completedAuth.get client).filter
        fun completed => !decide (client = visited ∧
          now - completed.createdAt > COMPLETED_AUTH_TTL_MS)) =
        run.provider.completedAuth.get client := by
      cases run.provider.completedAuth.get client <;> simp [same]
    rw [kept, ← mirrored]
    split
    · split
      · exact if_neg fun other => same other.symm
      · rfl
    · rfl

/-- A visit of `completedAuth` leaves an entry only if its time has not
passed. -/
theorem effect_expireClient {remaining : List Client}
    (visited : Client)
    (consistent : Consistent run delivered)
    (taken : run.calls.Perm
      (.clean now (.completedAuth remaining) next :: others)) :
    Effect run others (.clean now (.completedAuth remaining) next)
      { (run.provider.expireClient now visited).continues
          (.clean now (.completedAuth (remaining.filter (· ≠ visited)))
            next) with
        operations := run.provider.expiredClient now visited } [] := by
  refine .shrink consistent taken (Nat.le_refl _)
    (identities_removeIf _ _) (List.Subperm.refl _) ?_ ?_
    (mirrored_expired consistent now visited) ?_
  · intro entry member
    exact ⟨(Dictionary.mem_removeIf.mp member).1,
      fun impossible => by cases impossible⟩
  · intro rest same
    cases same
    rfl
  · intro rest same client read reads completed stored
    cases same
    obtain ⟨before, kept⟩ := Dictionary.mem_removeIf.mp stored
    obtain ⟨rfl, here | earlier⟩ := past_visited reads
    · rw [decide_eq_false_iff_not] at kept
      exact Int.not_lt.mp fun late => kept ⟨here, late⟩
    · exact consistent.past _ (taken.mem_iff.mpr List.mem_cons_self) client
        read earlier completed before

/-- An operation that leaves `completedAuth` alone, and after which the call is
past no more entries. -/
theorem Consistent.quiet
    (consistent : Consistent run delivered)
    (taken : run.calls.Perm (call :: others))
    (dropping : call.dropping = none)
    (allocated : run.provider.allocated ≤ result.provider.allocated)
    (client : result.provider.completedAuth = run.provider.completedAuth)
    (state : (identities result.provider.completedAuthByState).Subperm
      (identities run.provider.completedAuthByState))
    (operations : result.operations = [])
    (silent : deliveriesOf result.answers = [])
    (rest : ∀ next ∈ result.rest, next.unindexed = none ∧
      ∀ client, ∀ read ∈ next.past client, call.past client = some read) :
    Consistent (run.resume others result)
      (delivered ++ deliveriesOf result.answers) := by
  rw [silent, List.append_nil]
  refine consistent.proceed [] taken (.quiet consistent taken dropping allocated
    client state operations (fun next same => (rest next same).1) ?_)
  intro next same asking read reads completed stored
  exact consistent.past call (taken.mem_iff.mpr List.mem_cons_self) asking
    read ((rest next same).2 asking read reads) completed stored

theorem Consistent.continued {next : AuthCall Client Report}
    (consistent : Consistent run delivered)
    (taken : run.calls.Perm (call :: others))
    (dropping : call.dropping = none)
    (client : provider.completedAuth = run.provider.completedAuth)
    (state : provider.completedAuthByState =
      run.provider.completedAuthByState)
    (allocated : run.provider.allocated ≤ provider.allocated)
    (indexed : next.unindexed = none)
    (waits : ∀ client, next.past client = none) :
    Consistent (run.resume others (provider.continues next))
      (delivered ++ deliveriesOf (provider.continues next).answers) := by
  refine consistent.quiet taken dropping allocated client ?_ rfl rfl ?_
  · exact state ▸ List.Subperm.refl _
  · intro rest same
    cases same
    refine ⟨indexed, fun client read reads => ?_⟩
    rw [waits client] at reads
    cases reads

theorem Consistent.returned {answer : AuthAnswer Report}
    (consistent : Consistent run delivered)
    (taken : run.calls.Perm (call :: others))
    (dropping : call.dropping = none)
    (client : provider.completedAuth = run.provider.completedAuth)
    (state : provider.completedAuthByState =
      run.provider.completedAuthByState)
    (allocated : run.provider.allocated ≤ provider.allocated)
    (silent : answer.delivery = none) :
    Consistent (run.resume others (provider.returns answer))
      (delivered ++ deliveriesOf (provider.returns answer).answers) := by
  refine consistent.quiet taken dropping allocated client ?_ rfl ?_ ?_
  · exact state ▸ List.Subperm.refl _
  · exact List.filterMap_cons_none silent
  · intro rest impossible
    cases impossible

theorem consistent_visited {key : VisitedKey Client}
    (consistent : Consistent run delivered)
    (taken : run.calls.Perm (call :: others))
    (visited : run.provider.visit key call = some result) :
    Consistent (run.resume others result)
      (delivered ++ deliveriesOf result.answers) := by
  cases call with
  | clean now pass next =>
      cases pass with
      | pendingStates remaining =>
          cases key with
          | client client => cases visited
          | state state =>
              cases visited
              exact consistent.continued taken rfl rfl rfl
                (Nat.le_refl _) rfl fun _ => rfl
      | completedAuth remaining =>
          cases key with
          | state state => cases visited
          | client client =>
              cases visited
              have expired := consistent.proceed [] taken
                (effect_expireClient client consistent taken)
              rwa [← List.append_nil delivered] at expired
      | completedAuthByState remaining =>
          cases key with
          | client client => cases visited
          | state state =>
              cases visited
              refine consistent.quiet taken rfl (Nat.le_refl _) rfl
                (identities_removeIf _ _) rfl rfl ?_
              intro rest same
              cases same
              refine ⟨rfl, fun client read reads => ?_⟩
              rw [← past_ended] at reads ⊢
              exact reads
  | scan client remaining =>
      cases key with
      | client client => cases visited
      | state state =>
          unfold visit at visited
          dsimp only at visited
          split at visited
          · cases visited
            exact consistent.returned taken rfl rfl rfl (Nat.le_refl _) rfl
          · cases visited
            exact consistent.continued taken rfl rfl rfl
              (Nat.le_refl _) rfl fun _ => rfl
  | discard client report remaining =>
      cases key with
      | client client => cases visited
      | state state =>
          cases visited
          exact consistent.continued taken rfl rfl rfl
            (Nat.le_refl _) rfl fun _ => rfl
  | _ => cases visited

theorem consistent_constructed
    {report : Report} {state : Option String}
    (consistent : Consistent run delivered)
    (taken : run.calls.Perm (.construct client report state :: others)) :
    Consistent
      (run.resume others
        (DiscordAuthCoreProvider.continues
          { run.provider with allocated := run.provider.allocated + 1 }
          (.store client ⟨run.provider.allocated, report, now⟩ state)))
      delivered := by
  refine consistent.proceed [run.provider.allocated] taken
    { newNodup := List.nodup_singleton _
      constructs := ?_
      allocated := Nat.le_succ _
      client := ?_, state := ?_
      entries := fun entry member =>
        .inl ⟨member, fun impossible => by cases impossible⟩
      unstored := fun identity member => by
        cases member
        exact List.mem_singleton_self _
      mirrored := consistent.mirrored
      past := ?_ }
  · intro identity member
    cases List.mem_singleton.mp member
    exact ⟨Nat.le_refl _, Nat.lt_succ_self _⟩
  · exact List.perm_append_comm.subperm.trans
      ((List.sublist_append_left _ _).append_left _).subperm
  · exact List.perm_append_comm.subperm.trans
      ((List.sublist_append_left _ _).append_left _).subperm
  · intro other running asking read reads
    rcases List.mem_append.mp running with waits | resumed
    · exact consistent.past other
        (taken.mem_iff.mpr (List.mem_cons_of_mem _ waits)) asking read reads
    · cases List.mem_singleton.mp resumed
      cases reads

theorem consistent_stored
    {state : Option String}
    (consistent : Consistent run delivered)
    (taken : run.calls.Perm (.store client completed state :: others))
    (condition : AsksInTime run now (.store client completed state))
    (advanced : run.provider.advance now token
      (.store client completed state) = some result) :
    Consistent (run.resume others result)
      (delivered ++ deliveriesOf result.answers) := by
  have silent : deliveriesOf result.answers = [] := by
    cases advanced
    cases state <;> rfl
  rw [silent, List.append_nil]
  cases advanced
  refine consistent.proceed [] taken
    { newNodup := List.nodup_nil
      constructs := fun _ member => absurd member List.not_mem_nil
      allocated := Nat.le_refl _
      client := ?_, state := ?_, entries := ?_, unstored := ?_
      mirrored := ?_, past := ?_ }
  · have stored := identities_put client completed run.provider.completedAuth
    cases state <;> exact (List.append_nil _).symm ▸ stored
  · cases state with
    | none =>
        exact (List.append_nil _).symm ▸
          (List.sublist_append_left _ _).subperm
    | some state => exact List.Subperm.refl _
  · intro entry member
    rcases Dictionary.mem_put.mp member with rfl | ⟨before, _⟩
    · exact .inr rfl
    · exact .inl ⟨before, fun impossible => by cases impossible⟩
  · intro identity member
    cases state <;> cases member
  · intro asking
    have mirrored := consistent.mirrored asking
    rw [Dictionary.get_put]
    by_cases same : asking = client
    · rw [if_pos same]
      exact if_pos same.symm
    · rw [if_neg same, ← mirrored]
      exact if_neg fun other => same other.symm
  · intro other running asking read reads found stored
    have waits : other ∈ others := by
      rcases List.mem_append.mp running with waits | resumed
      · exact waits
      · cases state with
        | none => cases resumed
        | some state =>
            cases List.mem_singleton.mp resumed
            cases reads
    have before : other ∈ run.calls :=
      taken.mem_iff.mpr (List.mem_cons_of_mem _ waits)
    rcases Dictionary.mem_put.mp stored with same | ⟨old, _⟩
    · cases same
      exact condition other before read reads
    · exact consistent.past other before asking read reads found old

theorem consistent_indexed
    {state : String}
    (consistent : Consistent run delivered)
    (taken : run.calls.Perm (.index state completed :: others)) :
    Consistent
      (run.resume others
        (DiscordAuthCoreProvider.returns
          { run.provider with
            completedAuthByState :=
              run.provider.completedAuthByState.put state completed }
          .stored))
      delivered := by
  refine consistent.proceed [] taken
    { newNodup := List.nodup_nil
      constructs := fun _ member => absurd member List.not_mem_nil
      allocated := Nat.le_refl _
      client := List.Subperm.refl _
      state := ?_
      entries := fun entry member =>
        .inl ⟨member, fun impossible => by cases impossible⟩
      unstored := fun identity member => by cases member
      mirrored := consistent.mirrored
      past := ?_ }
  · have stored :=
      identities_put state completed run.provider.completedAuthByState
    exact (List.append_nil _).symm ▸ stored
  · intro other running
    rw [show (_ : AuthResult Client Report).rest = none from rfl,
      Option.toList_none, List.append_nil] at running
    exact consistent.past other
      (taken.mem_iff.mpr (List.mem_cons_of_mem _ running))

theorem consistent_consumed
    {read now : Int}
    (consistent : Consistent run delivered)
    (taken : run.calls.Perm (.consume client read :: others))
    (condition : AsksInTime run now (.consume client read))
    (advanced : run.provider.advance now token (.consume client read) =
      some result) :
    Consistent (run.resume others result)
      (delivered ++ deliveriesOf result.answers) := by
  have removed : Consistent (run.resume others result) delivered := by
    cases advanced
    refine consistent.proceed [] taken (.shrink consistent taken
      (Nat.le_refl _) (identities_removeIf _ _) (List.Subperm.refl _) ?_ ?_
      ?_ ?_)
    · exact fun entry member => ⟨(Dictionary.mem_remove.mp member).1,
        fun impossible => by cases impossible⟩
    · exact fun next impossible => by cases impossible
    · intro asking
      rw [Dictionary.get_remove]
      by_cases same : asking = client
      · rw [if_pos same]
        exact if_pos same.symm
      · rw [if_neg same, ← consistent.mirrored asking]
        exact if_neg fun other => same other.symm
    · exact fun next impossible => by cases impossible
  cases found : run.provider.completedAuth.get client with
  | none =>
      have silent : deliveriesOf result.answers = [] := by
        cases advanced
        dsimp only
        rw [found]
        rfl
      rwa [silent, List.append_nil]
  | some completed =>
      have answers : deliveriesOf result.answers =
          [⟨completed, now, none⟩] := by
        cases advanced
        dsimp only
        rw [found]
        rfl
      obtain ⟨undropped, clock⟩ := condition completed found
      have stored := Dictionary.get_eq_some.mp found
      rw [answers]
      cases advanced
      refine removed.record ?_ ?_ ?_ ?_ ?_ ?_
      · exact consistent.clientConstructed _ (List.mem_append_left _
          (mem_identities.mpr ⟨_, stored, rfl⟩))
      · intro other member same
        obtain ⟨call, running, dropping⟩ :=
          consistent.held _ stored other member same
        exact undropped call running dropping
      · intro entry member same
        obtain ⟨kept, different⟩ := Dictionary.mem_remove.mp member
        have unique := entry_unique consistent.clientNodup stored kept same
        exact absurd (congrArg Prod.fst unique).symm different
      · intro call running
        rw [AuthRun.resume, Option.toList_none, List.append_nil] at running
        exact place_ne consistent.clientNodup stored
          (taken.mem_iff.mpr (List.mem_cons_of_mem _ running))
      · intro _
        have standsFor := consistent.mirrored client
        rw [found] at standsFor
        exact Bool.or_eq_true_iff.mpr (.inl (decide_eq_true standsFor))
      · exact clock (consistent.past _
          (taken.mem_iff.mpr List.mem_cons_self) client read (if_pos rfl)
          completed stored)

theorem consistent_taken
    {state : String}
    (consistent : Consistent run delivered)
    (taken : run.calls.Perm (.take state :: others))
    (condition : AsksInTime run now (.take state))
    (advanced : run.provider.advance now token (.take state) = some result) :
    Consistent (run.resume others result)
      (delivered ++ deliveriesOf result.answers) := by
  unfold advance at advanced
  dsimp only at advanced
  cases found : run.provider.completedAuthByState.get state with
  | none =>
      rw [found] at advanced
      cases advanced
      exact consistent.returned taken rfl rfl rfl (Nat.le_refl _) rfl
  | some completed =>
      rw [found] at advanced
      obtain ⟨unasked, left⟩ := condition completed found
      have stored := Dictionary.get_eq_some.mp found
      have removed : Consistent (run.resume others result) delivered := by
        cases advanced
        refine consistent.proceed [] taken (.quiet consistent taken rfl
          (Nat.le_refl _) rfl (identities_removeIf _ _) rfl ?_ ?_)
        · intro next same
          cases same
          rfl
        · intro next same client read reads
          cases same
          cases reads
      have waiting : ∀ call ∈ others,
          call.unindexed ≠ some completed.identity := fun call waits =>
        place_ne consistent.stateNodup stored
          (taken.mem_iff.mpr (List.mem_cons_of_mem _ waits))
      cases advanced
      refine removed.record ?_ ?_ ?_ ?_ ?_ ?_
      · exact consistent.stateConstructed _ (List.mem_append_left _
          (mem_identities.mpr ⟨_, stored, rfl⟩))
      · intro other member same
        have asked := consistent.asked _ (List.mem_append_left _
          (mem_identities.mpr ⟨_, stored, rfl⟩)) other member same
        rw [asked] at unasked
        cases unasked
      · intro entry _ same
        refine ⟨.drop completed, ?_, congrArg some same⟩
        exact List.mem_append_right _ List.mem_cons_self
      · intro call running
        rcases List.mem_append.mp running with waits | resumed
        · cases call with
          | store client other index => exact waiting _ waits
          | _ => exact fun impossible => by cases impossible
        · cases List.mem_singleton.mp resumed
          exact fun impossible => by cases impossible
      · intro place
        rcases List.mem_append.mp place with kept | waits
        · obtain ⟨entry, member, same⟩ := mem_identities.mp kept
          obtain ⟨before, different⟩ := Dictionary.mem_remove.mp member
          have unique := entry_unique consistent.stateNodup before stored same
          exact absurd (congrArg Prod.fst unique) different
        · obtain ⟨call, running, same⟩ := List.mem_filterMap.mp waits
          rcases List.mem_append.mp running with others | resumed
          · exact absurd same (waiting call others)
          · cases List.mem_singleton.mp resumed
            cases same
      · unfold expireState at left
        rw [Dictionary.get_removeIf, found, Option.filter_some] at left
        split at left
        · rename_i early
          rw [Bool.not_eq_true', decide_eq_false_iff_not] at early
          exact Int.not_lt.mp fun late => early ⟨rfl, late⟩
        · cases left

theorem consistent_dropped
    (consistent : Consistent run delivered)
    (taken : run.calls.Perm (.drop completed :: others))
    (advanced : run.provider.advance now token (.drop completed) =
      some result) :
    Consistent (run.resume others result)
      (delivered ++ deliveriesOf result.answers) := by
  cases advanced
  have dropped : ∀ client,
      standing client (.dropped completed.identity :: run.operations) =
        ((run.provider.completedAuth.removeIf fun entry =>
          entry.2.identity = completed.identity).get client).map
            CompletedAuth.identity := by
    intro asking
    rw [Dictionary.get_removeIf, standing, consistent.mirrored asking]
    cases run.provider.completedAuth.get asking with
    | none => rfl
    | some other =>
        by_cases same : other.identity = completed.identity
        · simp [same, Option.filter_some]
        · simp [same, Option.filter_some]
  refine Eq.symm (List.append_nil delivered) ▸
    consistent.proceed [] taken (.shrink consistent taken (Nat.le_refl _)
      (identities_removeIf _ _) (List.Subperm.refl _) ?_ ?_ dropped ?_)
  · intro entry member
    obtain ⟨before, different⟩ := Dictionary.mem_removeIf.mp member
    rw [decide_eq_false_iff_not] at different
    refine ⟨before, fun same => different ?_⟩
    exact (Option.some.inj same).symm
  · exact fun next impossible => by cases impossible
  · exact fun next impossible => by cases impossible

theorem consistent_cleaned {started : Int} {pass : CleanupPass Client}
    (consistent : Consistent run delivered)
    (taken : run.calls.Perm (.clean started pass next :: others))
    (advanced : run.provider.advance now token (.clean started pass next) =
      some result) :
    Consistent (run.resume others result)
      (delivered ++ deliveriesOf result.answers) := by
  cases pass with
  | pendingStates remaining =>
      cases remaining with
      | cons first later => cases advanced
      | nil =>
          cases advanced
          refine Eq.symm (List.append_nil delivered) ▸
            consistent.proceed [] taken (.quiet consistent taken rfl
              (Nat.le_refl _) rfl (List.Subperm.refl _) rfl ?_ ?_)
          · intro rest same
            cases same
            rfl
          · intro rest same client read reads completed stored
            cases same
            exact absurd stored (past_begin reads)
  | completedAuth remaining =>
      cases remaining with
      | cons first later => cases advanced
      | nil =>
          cases advanced
          refine consistent.quiet taken rfl (Nat.le_refl _) rfl
            (List.Subperm.refl _) rfl rfl ?_
          intro rest same
          cases same
          refine ⟨rfl, fun client read reads => ?_⟩
          rw [past_ended]
          exact reads
  | completedAuthByState remaining =>
      cases remaining with
      | cons first later => cases advanced
      | nil =>
          cases advanced
          refine consistent.quiet taken rfl ?_ ?_ ?_ ?_ ?_ fun _ follows =>
            past_afterCleanup follows
          · cases next <;> exact Nat.le_refl _
          · cases next <;> rfl
          · cases next <;> exact List.Subperm.refl _
          · cases next <;> rfl
          · cases next <;> rfl

theorem consistent_advanced
    (consistent : Consistent run delivered)
    (taken : run.calls.Perm (call :: others))
    (condition : AsksInTime run now call)
    (advanced : run.provider.advance now token call = some result) :
    Consistent (run.resume others result)
      (delivered ++ deliveriesOf result.answers) := by
  cases call with
  | readClock next =>
      cases advanced
      exact consistent.continued taken rfl rfl rfl
        (Nat.le_refl _) rfl fun _ => rfl
  | clean started pass next =>
      exact consistent_cleaned consistent taken advanced
  | scan client remaining =>
      cases remaining with
      | cons first later => cases advanced
      | nil =>
          cases advanced
          exact consistent.continued taken rfl rfl rfl
            (Nat.le_succ _) rfl fun _ => rfl
  | register state pending =>
      cases advanced
      exact consistent.returned taken rfl rfl rfl (Nat.le_refl _) rfl
  | look state client =>
      unfold advance at advanced
      dsimp only at advanced
      split at advanced
      · cases advanced
        exact consistent.returned taken rfl rfl rfl (Nat.le_refl _) rfl
      · split at advanced
        · cases advanced
          exact consistent.continued taken rfl rfl rfl
            (Nat.le_refl _) rfl fun _ => rfl
        · cases advanced
          exact consistent.returned taken rfl rfl rfl (Nat.le_refl _) rfl
  | withdraw state pending =>
      cases advanced
      exact consistent.returned taken rfl rfl rfl (Nat.le_refl _) rfl
  | detach state report =>
      unfold advance at advanced
      dsimp only at advanced
      split at advanced
      · cases advanced
        exact consistent.returned taken rfl rfl rfl (Nat.le_refl _) rfl
      · cases advanced
        exact consistent.continued taken rfl rfl rfl
          (Nat.le_refl _) rfl fun _ => rfl
  | discard client report remaining =>
      cases remaining with
      | cons first later => cases advanced
      | nil =>
          cases advanced
          exact consistent.continued taken rfl rfl rfl
            (Nat.le_refl _) rfl fun _ => rfl
  | construct client report state =>
      cases advanced
      exact (List.append_nil delivered).symm ▸
        consistent_constructed consistent taken
  | store client completed state =>
      exact consistent_stored consistent taken condition advanced
  | index state completed =>
      cases advanced
      exact (List.append_nil delivered).symm ▸
        consistent_indexed consistent taken
  | consume client read =>
      exact consistent_consumed consistent taken condition advanced
  | take state => exact consistent_taken consistent taken condition advanced
  | drop completed => exact consistent_dropped consistent taken advanced

theorem consistent_started
    (consistent : Consistent run delivered)
    (indexed : call.unindexed = none)
    (waits : ∀ client, call.past client = none) :
    Consistent (run.start call) delivered := by
  have clientPlaces : (run.start call).clientPlaces = run.clientPlaces := by
    unfold AuthRun.clientPlaces AuthRun.start
    rw [List.filterMap_append,
      List.filterMap_cons_none (unstored_of_indexed indexed),
      List.filterMap_nil, List.append_nil]
  have statePlaces : (run.start call).statePlaces = run.statePlaces := by
    unfold AuthRun.statePlaces AuthRun.start
    rw [List.filterMap_append, List.filterMap_cons_none indexed,
      List.filterMap_nil, List.append_nil]
  refine
    { clientNodup := clientPlaces ▸ consistent.clientNodup
      stateNodup := statePlaces ▸ consistent.stateNodup
      clientConstructed := clientPlaces ▸ consistent.clientConstructed
      stateConstructed := statePlaces ▸ consistent.stateConstructed
      constructed := consistent.constructed
      held := ?_, unstored := ?_
      asked := statePlaces ▸ consistent.asked
      mirrored := consistent.mirrored
      past := ?_
      once := consistent.once
      inTime := consistent.inTime }
  · intro entry stored delivery member same
    obtain ⟨other, running, dropping⟩ :=
      consistent.held entry stored delivery member same
    exact ⟨other, List.mem_append_left _ running, dropping⟩
  · intro other running identity stores
    rcases List.mem_append.mp running with before | new
    · exact consistent.unstored other before identity stores
    · cases List.mem_singleton.mp new
      rw [unstored_of_indexed indexed] at stores
      cases stores
  · intro other running client read reads
    rcases List.mem_append.mp running with before | new
    · exact consistent.past other before client read reads
    · cases List.mem_singleton.mp new
      rw [waits client] at reads
      cases reads

omit [DecidableEq Client] in
theorem authorize_asks
    {discord : Discord Report} {login : String} {client : Option Client}
    {password : AuthPassword} {minecraftAccess : Bool}
    (asks : authorize discord login client password minecraftAccess =
      .ok (.asks call)) :
    (∃ asking, call = consumeBrowserAuthorization asking) ∨
      ∃ state, call = consumeBrowserAuthorizationState state := by
  have byClient : authorize.consumed client = .ok (.asks call) →
      ∃ asking, call = consumeBrowserAuthorization asking := by
    intro consumed
    cases client with
    | none => cases consumed
    | some asking =>
        cases consumed
        exact ⟨asking, rfl⟩
  unfold authorize at asks
  split at asks
  · cases asks
  · cases password with
    | plain password =>
        dsimp only at asks
        split at asks
        · cases found : discord.reportForUsername login minecraftAccess with
          | none =>
              rw [found] at asks
              cases asks
          | some report =>
              rw [found] at asks
              cases asks
        · cases asks
    | other => cases asks
    | code uri =>
        cases uri with
        | none => exact .inl (byClient asks)
        | some uri =>
            dsimp only at asks
            split at asks
            · exact .inl (byClient asks)
            · cases part : statePart uri with
              | some state =>
                  rw [part] at asks
                  cases asks
                  exact .inr ⟨state, rfl⟩
              | none =>
                  rw [part] at asks
                  cases made : discord.authorizeByCode uri minecraftAccess with
                  | error problem =>
                      rw [made] at asks
                      cases asks
                  | ok report =>
                      rw [made] at asks
                      cases asks

theorem deliveriesOf_append (first second : List (AuthAnswer Report)) :
    deliveriesOf (first ++ second) =
      deliveriesOf first ++ deliveriesOf second :=
  List.filterMap_append

theorem consistent_step
    {next : AuthRun Client Report} {event : AuthEvent Client Report}
    {answers : List (AuthAnswer Report)}
    (consistent : Consistent run delivered)
    (condition : InOrder run event)
    (stepped : authStep run event = some (next, answers)) :
    Consistent next (delivered ++ deliveriesOf answers) := by
  have started : ∀ begun : AuthCall Client Report,
      begun.unindexed = none → (∀ client, begun.past client = none) →
        Consistent (run.start begun) (delivered ++ deliveriesOf []) := by
    intro begun indexed waits
    exact (List.append_nil delivered).symm ▸
      consistent_started consistent indexed waits
  cases event with
  | createPendingState client =>
      unfold authStep at stepped
      dsimp only at stepped
      split at stepped
      · cases stepped
      · cases stepped
        exact started _ rfl fun _ => rfl
  | consumePendingState state client =>
      cases stepped
      exact started _ rfl fun _ => rfl
  | completeState state report =>
      cases stepped
      exact started _ rfl fun _ => rfl
  | complete client report =>
      cases stepped
      exact started _ rfl fun _ => rfl
  | cleanupExpiredStates =>
      cases stepped
      exact started _ rfl fun _ => rfl
  | authorize discord login client password minecraftAccess =>
      unfold authStep at stepped
      dsimp only at stepped
      split at stepped
      · rename_i begun asks
        cases stepped
        rcases authorize_asks asks with ⟨asking, rfl⟩ | ⟨state, rfl⟩
        · exact started _ rfl fun _ => rfl
        · exact started _ rfl fun _ => rfl
      · cases stepped
        exact (List.append_nil delivered).symm ▸ consistent
      · cases stepped
        exact (List.append_nil delivered).symm ▸ consistent
  | visited index key =>
      obtain ⟨⟨call, others⟩, taken, stepped⟩ :=
        Option.bind_eq_some_iff.mp stepped
      obtain ⟨result, visited, same⟩ := Option.map_eq_some_iff.mp stepped
      cases same
      exact consistent_visited consistent (takeAt_perm taken) visited
  | advanced index now token =>
      obtain ⟨⟨call, others⟩, taken, stepped⟩ :=
        Option.bind_eq_some_iff.mp stepped
      obtain ⟨result, advanced, same⟩ := Option.map_eq_some_iff.mp stepped
      cases same
      obtain ⟨found, located, same⟩ := Option.map_eq_some_iff.mp taken
      cases same
      exact consistent_advanced consistent (takeAt_perm taken)
        (condition call located) advanced

/-- If the cleanup is not overtaken and the state asks before the client, each
completion is returned at most once, and in time. -/
theorem browser_authorizations_consumed_once
    (events : List (AuthEvent Client Report))
    (run : AuthRun Client Report) (answers : List (AuthAnswer Report))
    (condition : Meets authStep InOrder .new events)
    (ran : execute authStep .new events = some (run, answers)) :
    ((deliveriesOf answers).map fun delivery =>
        delivery.completed.identity).Nodup ∧
      ∀ delivery ∈ deliveriesOf answers,
        delivery.time - delivery.completed.createdAt ≤
          COMPLETED_AUTH_TTL_MS := by
  have consistent : Consistent run (deliveriesOf answers) :=
    execute_induction_of_meets
      (motive := fun run past => Consistent run (deliveriesOf past))
      (fun _ past _ _ now holds condition stepped =>
        (deliveriesOf_append past now).symm ▸
          consistent_step holds condition stepped)
      consistent_new condition ran
  exact ⟨consistent.once, consistent.inTime⟩

end Invariant

/-! ## Calls around one state -/

/-- An initialized module without codes and users. -/
def exampleDiscord : Discord String :=
  ⟨true, fun _ _ => .error .userNotFound, fun _ _ => none⟩

/-- A running call does its next operation. -/
def nextAt (index : Nat) (now : Int) : AuthEvent Nat String :=
  .advanced index now "token"

/-- The first client gets the state and a browser completes it at time 0. -/
def exampleCompletion : List (AuthEvent Nat String) :=
  .createPendingState 1 :: List.replicate 6 (nextAt 0 0) ++
    .completeState "token" "report" :: List.replicate 4 (nextAt 0 0)

def askByState : AuthEvent Nat String :=
  .authorize exampleDiscord "login" none (.code (some "state:token")) true

def askByClient : AuthEvent Nat String :=
  .authorize exampleDiscord "login" (some 1) (.code none) true

/-- The operations of the first client's call, up to the one that takes the
completion. -/
def clientTakes (index : Nat) (visits : List (AuthEvent Nat String))
    (now : Int) : List (AuthEvent Nat String) :=
  [nextAt index now, nextAt index now, .visited index (.client 1),
    nextAt index now] ++ visits ++ [nextAt index now, nextAt index now]

def consumed (events : List (AuthEvent Nat String)) :
    List (Delivery String) :=
  match execute authStep .new events with
  | some (_, answers) => deliveriesOf answers
  | none => []

/-- A state that asks first takes the completion from the client too. -/
theorem browser_authorizations_consumed_once_by_state :
    ∃ run answers,
      execute authStep .new
          (exampleCompletion ++
            [askByState, nextAt 0 120000, nextAt 0 120000, askByClient] ++
              (List.replicate 5 (nextAt 0 120000))) =
        some (run, answers) ∧
      ((deliveriesOf answers).map fun delivery =>
          delivery.completed.identity).Nodup ∧
        ∀ delivery ∈ deliveriesOf answers,
          delivery.time - delivery.completed.createdAt ≤
            COMPLETED_AUTH_TTL_MS := by
  have condition : Meets authStep InOrder .new
      (exampleCompletion ++
        [askByState, nextAt 0 120000, nextAt 0 120000, askByClient] ++
          (List.replicate 5 (nextAt 0 120000))) := by
    decide +kernel
  have completes : (execute authStep .new
      (exampleCompletion ++
        [askByState, nextAt 0 120000, nextAt 0 120000, askByClient] ++
          (List.replicate 5 (nextAt 0 120000)))).isSome := by
    decide +kernel
  obtain ⟨⟨run, answers⟩, ran⟩ := Option.isSome_iff_exists.mp completes
  exact ⟨run, answers, ran,
    browser_authorizations_consumed_once _ run answers condition ran⟩

/-- The client asks before the state and both get the report; the client takes
the completion between the two operations of the state; the state asks after
more than two minutes. -/
theorem browser_authorization_consumed_twice_or_late :
    ((consumed (exampleCompletion ++
        askByClient :: clientTakes 0 [.visited 0 (.state "token")] 0 ++
          [askByState, nextAt 0 0])).map
        fun delivery => delivery.completed.identity) = [1, 1] ∧
    ((consumed (exampleCompletion ++
        [askByState, nextAt 0 0, askByClient] ++ clientTakes 1 [] 0)).map
        fun delivery => delivery.completed.identity) = [1, 1] ∧
    ((consumed (exampleCompletion ++ [askByState, nextAt 0 120001])).map
        fun delivery =>
          delivery.time - delivery.completed.createdAt) = [120001] ∧
    COMPLETED_AUTH_TTL_MS < 120001 := by
  decide +kernel

end GravitPanel.Launcher
