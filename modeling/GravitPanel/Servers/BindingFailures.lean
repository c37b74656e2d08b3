import GravitPanel.Servers.DefaultServer

/-!
# Calls that throw

`apply` and `remove` change the profile first and the table second.  A call
that throws leaves both as they were exactly if it does not get as far as the
second change, or if the profile needed no first one.
-/

namespace GravitPanel.Servers

open Program ServerBindingsStore ServerBindingService

/-- Both the servers of every profile and the rows are as they were. -/
structure Untouched (state final : BindingState) : Prop where
  servers : ∀ name, final.servers name = state.servers name
  rows : final.rows = state.rows

/-- The state that a call leaves when it throws. -/
def thrown (installationId : String) (state : BindingState) :
    BindingCall → Option BindingState
  | .apply environment input bindingId =>
      match apply environment installationId input bindingId state with
      | (.error _, final) => some final
      | (.ok _, _) => none
  | .remove environment bindingId =>
      match remove environment installationId bindingId state with
      | (.error _, final) => some final
      | (.ok _, _) => none

/-- A call that throws has changed nothing. -/
def ThrowsCleanly
    (installationId : String) (state : BindingState) (call : BindingCall) :
    Prop :=
  ∀ final ∈ thrown installationId state call, Untouched state final

/-- The server is the last of the profile, as it is wanted, under a name of its
own, and the flags of the others agree with its own. -/
def AlreadyListed
    (servers : List ProfileServer) (next : ProfileServer) : Prop :=
  ∃ before, servers = before ++ [next] ∧
    (∀ server ∈ before, server.name ≠ next.name) ∧
      if next.isDefault then ∀ server ∈ before, server.isDefault = false
      else before = [] ∨ ∃ server ∈ before, server.isDefault = true

/-- If the call gets as far as the table: a row that violates a constraint
meets a profile that need not be rewritten, and otherwise the last callback
does not find the job cancelled. -/
def FailsEarly (installationId : String) (state : BindingState) :
    BindingCall → Prop
  | .apply environment input bindingId =>
      match prepare state installationId input bindingId with
      | .error _ => True
      | .ok (profile, current) =>
          unchanged profile current input = none →
            reaches environment (profileChanged profile.servers current
                (nextServer profile.servers input)) = .ok () →
              if (violation environment.referenced state.rows
                  (savedInput input profile.servers)
                  (savedId environment current)).isSome then
                profileChanged profile.servers current
                    (nextServer profile.servers input) = true →
                  current = none ∧
                    AlreadyListed profile.servers
                      (nextServer profile.servers input)
              else
                environment.report [.progress 95] = .ok ()
  | .remove environment bindingId =>
      match removable state.rows installationId bindingId with
      | .error _ => True
      | .ok binding =>
          match getProfile state.files binding.profileName with
          | .error _ => True
          | .ok _ =>
              environment.rewrites = .ok () →
                environment.report [.progress 95] = .ok ()

section Written

variable {input : ServerBindingInput} {current : ServerBinding}
variable {servers : List ProfileServer} {next : ProfileServer}

theorem remaining_named {binding : Option ServerBinding}
    {server : ProfileServer}
    (listed : server ∈ remaining servers binding input next) :
    some server.name ≠ binding.map ServerBinding.name ∧
      server.name ≠ input.name := by
  have kept : ∀ server ∈ others servers binding input next,
      some server.name ≠ binding.map ServerBinding.name ∧
        server.name ≠ input.name := by
    intro server listed
    obtain ⟨former, present, rfl⟩ := List.mem_map.mp listed
    have selected := (List.mem_filter.mp present).2
    rw [decide_eq_true_eq] at selected
    split <;> exact selected
  have promoted : ∀ list : List ProfileServer, server ∈ promoteFirst list →
      ∃ former ∈ list, former.name = server.name := by
    intro list member
    cases list with
    | nil => cases member
    | cons first rest =>
        rcases List.mem_cons.mp member with rfl | later
        · exact ⟨first, List.mem_cons_self, rfl⟩
        · exact ⟨server, List.mem_cons_of_mem first later, rfl⟩
  unfold remaining at listed
  dsimp only at listed
  split at listed
  · obtain ⟨former, present, sameName⟩ := promoted _ listed
    rw [← sameName]
    exact kept former present
  · exact kept server listed

theorem written_ne_of_update
    (free : conflicts servers (some current) input = false)
    (changed : profileChanged servers (some current)
      (nextServer servers input) = true) :
    remaining servers (some current) input (nextServer servers input) ++
        [nextServer servers input] ≠ servers := by
  intro same
  -- the first server of the old name, before and after
  have found : servers.find? (fun server => server.name = current.name) =
      if input.name = current.name then some (nextServer servers input)
      else none := by
    have none : (remaining servers (some current) input
        (nextServer servers input)).find?
          (fun server => server.name = current.name) = none := by
      rw [List.find?_eq_none]
      intro server listed sameName
      rw [decide_eq_true_eq] at sameName
      exact (remaining_named listed).1 (congrArg some sameName)
    conv_lhs => rw [← same]
    rw [List.find?_append, none, Option.none_or, List.find?_singleton]
    simp [nextServer]
  unfold profileChanged profileServer at changed
  rw [Option.bind_some, found] at changed
  by_cases renamed : input.name = current.name
  · rw [if_pos renamed] at changed
    simp at changed
  · unfold conflicts at free
    rw [List.any_eq_false] at free
    have last : nextServer servers input ∈
        remaining servers (some current) input (nextServer servers input) ++
          [nextServer servers input] :=
      List.mem_append_right _ List.mem_cons_self
    rw [same] at last
    exact free _ last (decide_eq_true ⟨rfl, renamed⟩)

theorem promoteFirst_ne
    (none : servers.any ProfileServer.isDefault = false)
    (promoted : promoteFirst servers = servers) : servers = [] := by
  cases servers with
  | nil => rfl
  | cons first rest =>
      injection promoted with headEquality
      have isDefault := congrArg ProfileServer.isDefault headEquality
      rw [List.any_cons, ← isDefault] at none
      cases none

theorem written_eq_of_create (named : next.name = input.name) :
    remaining servers none input next ++ [next] = servers ↔
      AlreadyListed servers next := by
  have selects : ∀ before : List ProfileServer,
      (∀ server ∈ before, server.name ≠ next.name) →
        servers = before ++ [next] →
          others servers none input next =
            if next.isDefault then
              before.map fun server => { server with isDefault := false }
            else before := by
    intro before different shape
    have filtered : servers.filter (fun server =>
        some server.name ≠ (none : Option ServerBinding).map
          ServerBinding.name ∧ server.name ≠ input.name) = before := by
      rw [shape, List.filter_append, List.filter_eq_self.mpr]
      · simp [named]
      · intro server listed
        have kept := different server listed
        rw [named] at kept
        simp [kept]
    unfold others
    rw [filtered]
    cases next.isDefault <;> simp
  constructor
  · intro same
    have different : ∀ server ∈ remaining servers none input next,
        server.name ≠ next.name := by
      intro server listed
      rw [named]
      exact (remaining_named listed).2
    refine ⟨remaining servers none input next, same.symm, different, ?_⟩
    have kept := selects _ different same.symm
    have shape : remaining servers none input next =
        if !next.isDefault &&
            !(others servers none input next).any ProfileServer.isDefault then
          promoteFirst (others servers none input next)
        else others servers none input next := rfl
    cases flag : next.isDefault with
    | true =>
        rw [flag, if_pos rfl] at kept
        rw [flag, Bool.not_true, Bool.false_and, if_neg Bool.false_ne_true,
          kept] at shape
        rw [if_pos rfl]
        intro server listed
        rw [shape] at listed
        obtain ⟨former, _, rfl⟩ := List.mem_map.mp listed
        rfl
    | false =>
        rw [flag, if_neg Bool.false_ne_true] at kept
        rw [flag, kept, Bool.not_false, Bool.true_and] at shape
        rw [if_neg Bool.false_ne_true]
        cases any : (remaining servers none input next).any
            ProfileServer.isDefault with
        | true => exact .inr (List.any_eq_true.mp any)
        | false =>
            rw [any, Bool.not_false, if_pos rfl] at shape
            exact .inl (promoteFirst_ne any shape.symm)
  · rintro ⟨before, shape, different, flags⟩
    have kept := selects before different shape
    rw [shape]
    congr 1
    unfold remaining
    dsimp only
    rw [← shape, kept]
    cases flag : next.isDefault with
    | true =>
        rw [flag, if_pos rfl] at flags
        rw [if_pos rfl, Bool.not_true, Bool.false_and,
          if_neg Bool.false_ne_true]
        conv_rhs => rw [← List.map_id before]
        apply List.map_congr_left
        intro server listed
        rw [id_eq, ← flags server listed]
    | false =>
        rw [flag, if_neg Bool.false_ne_true] at flags
        rw [if_neg Bool.false_ne_true, Bool.not_false, Bool.true_and]
        rcases flags with rfl | some
        · rfl
        · rw [if_neg]
          rw [List.any_eq_true.mpr some]
          exact Bool.false_ne_true

end Written

theorem savedRows_ne
    {rows : List ServerBinding} {input : ServerBindingInput}
    {profile : ClientProfile} {current : Option ServerBinding}
    {environment : BindingEnvironment} {installationId : String}
    {bindingId : Option String}
    (unused : ServerBindingsStore.get rows environment.uuid = none)
    (bound : currentBinding rows installationId bindingId = .ok current)
    (changed : bindingChanged current input
      (nextServer profile.servers input) = true) :
    savedRows rows (savedInput input profile.servers)
        (savedId environment current) (savedState current input)
        environment.clock ≠ rows := by
  intro same
  have saved := get_savedRows rows (savedInput input profile.servers)
    (savedId environment current) (savedState current input)
    environment.clock
  rw [same] at saved
  cases current with
  | none =>
      change ServerBindingsStore.get rows environment.uuid = some _ at saved
      rw [unused] at saved
      cases saved
  | some current =>
      have found := currentBinding_get bound
      rw [savedId, Option.map_some, Option.getD_some, found] at saved
      have equality := Option.some.inj saved
      dsimp only at equality
      unfold updatedRow at equality
      rw [if_pos rfl] at equality
      have field : ∀ {Value : Type} (read : ServerBinding → Value),
          read current = read _ := fun read => congrArg read equality
      have name := field ServerBinding.name
      have serverAddress := field ServerBinding.serverAddress
      have serverPort := field ServerBinding.serverPort
      have isDefault := field ServerBinding.isDefault
      have authId := field ServerBinding.authId
      have packVersionId := field ServerBinding.packVersionId
      have xms := field ServerBinding.xms
      have xmx := field ServerBinding.xmx
      have jvmArgs := field ServerBinding.jvmArgs
      have gameArgs := field ServerBinding.gameArgs
      simp [bindingChanged, bootstrapChanged, savedInput, name,
        serverAddress, serverPort, isDefault, authId, packVersionId, xms, xmx,
        jvmArgs, gameArgs] at changed

section Applies

variable {environment : BindingEnvironment} {installationId : String}
variable {input : ServerBindingInput} {bindingId : Option String}
variable {state : BindingState}

theorem untouched_refl (state : BindingState) : Untouched state state :=
  ⟨fun _ => rfl, rfl⟩

theorem rewritten_of_unchanged
    {profile : ClientProfile} {current : Option ServerBinding}
    (same : profileChanged profile.servers current
      (nextServer profile.servers input) = false) :
    rewritten input profile current state = state := by
  unfold rewritten
  dsimp only
  rw [same, if_neg Bool.false_ne_true]

theorem rewritten_servers
    {profile : ClientProfile} {current : Option ServerBinding}
    (valid : validate input = .ok ())
    (found : getProfile state.files input.profileName = .ok profile)
    (changed : profileChanged profile.servers current
      (nextServer profile.servers input) = true) :
    (rewritten input profile current state).servers input.profileName =
      remaining profile.servers current input
          (nextServer profile.servers input) ++
        [nextServer profile.servers input] := by
  have read := PanelState.servers_eq found
  unfold rewritten
  dsimp only
  rw [changed, if_pos rfl]
  refine PanelState.servers_replaceServers found ?_
  intro server listed
  rcases List.mem_append.mp listed with kept | last
  · refine remaining_valid ?_ server kept
    intro other member
    rw [← read] at member
    exact PanelState.servers_valid member
  · rw [List.mem_singleton.mp last]
    exact nextServer_valid valid

theorem rewritten_untouched_iff
    {profile : ClientProfile} {current : Option ServerBinding}
    (valid : validate input = .ok ())
    (found : getProfile state.files input.profileName = .ok profile)
    (free : conflicts profile.servers current input = false) :
    (∀ name, (rewritten input profile current state).servers name =
        state.servers name) ↔
      (profileChanged profile.servers current
          (nextServer profile.servers input) = true →
        current = none ∧
          AlreadyListed profile.servers (nextServer profile.servers input)) := by
  have read := PanelState.servers_eq found
  cases changed : profileChanged profile.servers current
      (nextServer profile.servers input) with
  | false =>
      rw [rewritten_of_unchanged changed]
      simp
  | true =>
      have written :=
        @rewritten_servers input state profile current valid found changed
      have elsewhere : ∀ name, name ≠ input.profileName →
          (rewritten input profile current state).servers name =
            state.servers name := by
        intro name different
        unfold rewritten
        dsimp only
        rw [changed, if_pos rfl]
        exact PanelState.servers_replaceServers_of_ne different _ _
      constructor
      · intro same _
        have here := same input.profileName
        rw [written, read] at here
        cases current with
        | some current =>
            exact absurd here (written_ne_of_update free changed)
        | none => exact ⟨rfl, (written_eq_of_create rfl).mp here⟩
      · intro listed name
        by_cases here : name = input.profileName
        · obtain ⟨rfl, already⟩ := listed rfl
          rw [here, written, read]
          exact (written_eq_of_create rfl).mpr already
        · exact elsewhere name here

theorem thrown_of_error
    {error : String} {final : BindingState}
    (failed : apply environment installationId input bindingId state =
      (.error error, final)) :
    thrown installationId state (.apply environment input bindingId) =
      some final := by
  unfold thrown
  dsimp only
  rw [failed]

theorem thrown_of_ok
    {result : ApplyResult} {final : BindingState}
    (succeeded : apply environment installationId input bindingId state =
      (.ok result, final)) :
    thrown installationId state (.apply environment input bindingId) =
      none := by
  unfold thrown
  dsimp only
  rw [succeeded]

theorem throwsCleanly_of_error
    {error : String} {final : BindingState}
    (failed : apply environment installationId input bindingId state =
      (.error error, final)) :
    ThrowsCleanly installationId state
        (.apply environment input bindingId) ↔ Untouched state final := by
  unfold ThrowsCleanly
  rw [thrown_of_error failed]
  simp

theorem committed_visible
    {profile : ClientProfile} {current : Option ServerBinding}
    (unused : ServerBindingsStore.get state.rows environment.uuid = none)
    (bound : currentBinding state.rows installationId bindingId =
      .ok current)
    (wanted : unchanged profile current input = none)
    (visible : (∀ name, (rewritten input profile current state).servers name =
        state.servers name) ↔
      (profileChanged profile.servers current
          (nextServer profile.servers input) = true →
        current = none ∧
          AlreadyListed profile.servers (nextServer profile.servers input))) :
    ¬ Untouched state
      { rewritten input profile current state with
        rows := savedRows state.rows (savedInput input profile.servers)
          (savedId environment current) (savedState current input)
          environment.clock } := by
  intro untouched
  have sameBinding : bindingChanged current input
      (nextServer profile.servers input) = false := by
    by_contra changed
    rw [Bool.not_eq_false] at changed
    exact savedRows_ne unused bound changed untouched.rows
  cases current with
  | none => cases sameBinding
  | some current =>
      have changed : profileChanged profile.servers (some current)
          (nextServer profile.servers input) = true := by
        by_contra same
        unfold unchanged at wanted
        dsimp only at wanted
        rw [Bool.not_eq_true] at same
        rw [same, sameBinding, Bool.or_self, if_neg Bool.false_ne_true]
          at wanted
        cases wanted
      have none := (visible.mp untouched.servers changed).1
      cases none

theorem apply_throwsCleanly_iff
    (unused : ServerBindingsStore.get state.rows environment.uuid = none) :
    ThrowsCleanly installationId state
        (.apply environment input bindingId) ↔
      FailsEarly installationId state
        (.apply environment input bindingId) := by
  have unfolded :=
    apply.eq_1 environment installationId input bindingId state
  unfold FailsEarly
  dsimp only
  cases prepared : prepare state installationId input bindingId with
  | error error =>
      rw [prepared] at unfolded
      rw [throwsCleanly_of_error unfolded]
      exact iff_of_true (untouched_refl state) trivial
  | ok pair =>
      obtain ⟨profile, current⟩ := pair
      obtain ⟨valid, found, bound, free⟩ := prepare_ok prepared
      have committed :=
        @commit_eq environment input profile current state found
      have visible := @rewritten_untouched_iff input state profile current
        valid found free
      rw [prepared] at unfolded
      dsimp only at unfolded ⊢
      cases wanted : unchanged profile current input with
      | some binding =>
          rw [wanted] at unfolded
          dsimp only at unfolded
          refine iff_of_true ?_ fun missing => by cases missing
          cases reported : environment.report [.progress 95] with
          | error error =>
              rw [reported] at unfolded
              exact (throwsCleanly_of_error unfolded).mpr
                (untouched_refl state)
          | ok _ =>
              rw [reported] at unfolded
              unfold ThrowsCleanly
              rw [thrown_of_ok unfolded]
              intro final left
              cases left
      | none =>
          rw [wanted] at unfolded
          dsimp only at unfolded
          rw [← unfolded] at committed
          cases reached : reaches environment (profileChanged profile.servers
              current (nextServer profile.servers input)) with
          | error error =>
              rw [reached] at committed
              rw [throwsCleanly_of_error committed]
              exact iff_of_true (untouched_refl state)
                fun _ stays => by cases stays
          | ok _ =>
              rw [reached] at committed
              dsimp only at committed
              simp only [true_implies]
              cases refused : violation environment.referenced state.rows
                  (savedInput input profile.servers)
                  (savedId environment current) with
              | some error =>
                  rw [refused] at committed
                  rw [Option.isSome_some, if_pos rfl,
                    throwsCleanly_of_error committed, ← visible]
                  have rows : (rewritten input profile current state).rows =
                      state.rows := rewritten_rows _ _ _ _
                  exact ⟨Untouched.servers, fun same => ⟨same, rows⟩⟩
              | none =>
                  rw [refused] at committed
                  rw [Option.isSome_none, if_neg Bool.false_ne_true]
                  obtain ⟨result, committed⟩ := committed
                  cases reported : environment.report [.progress 95] with
                  | ok _ =>
                      rw [reported] at committed
                      refine iff_of_true ?_ rfl
                      unfold ThrowsCleanly
                      rw [thrown_of_ok committed]
                      intro final left
                      cases left
                  | error error =>
                      rw [reported] at committed
                      rw [throwsCleanly_of_error committed]
                      refine iff_of_false ?_ fun sent => by cases sent
                      intro untouched
                      exact committed_visible unused bound wanted visible
                        untouched

end Applies

section Removes

variable {environment : BindingEnvironment}
variable {installationId bindingId : String} {state final : BindingState}

theorem removal_throwsCleanly_of_error {error : String}
    (failed : remove environment installationId bindingId state =
      (.error error, final)) :
    ThrowsCleanly installationId state (.remove environment bindingId) ↔
      Untouched state final := by
  have left : thrown installationId state (.remove environment bindingId) =
      some final := by
    unfold thrown
    dsimp only
    rw [failed]
  unfold ThrowsCleanly
  rw [left]
  simp

theorem removal_throwsCleanly_of_ok {result : RemoveResult}
    (succeeded : remove environment installationId bindingId state =
      (.ok result, final)) :
    ThrowsCleanly installationId state (.remove environment bindingId) := by
  have left : thrown installationId state (.remove environment bindingId) =
      none := by
    unfold thrown
    dsimp only
    rw [succeeded]
  unfold ThrowsCleanly
  rw [left]
  nofun

theorem deleted_visible {binding : ServerBinding}
    {profileName : String} {servers : List ProfileServer}
    (member : binding ∈ state.rows) :
    ¬ Untouched state
      (delete binding.id (state.replaceServers profileName servers)) := by
  intro untouched
  have rows := untouched.rows
  unfold delete at rows
  rw [PanelState.replaceServers_rows] at rows
  dsimp only at rows
  rw [← rows, List.mem_filter, decide_eq_true_eq] at member
  exact member.2 rfl

theorem remove_throwsCleanly_iff :
    ThrowsCleanly installationId state (.remove environment bindingId) ↔
      FailsEarly installationId state (.remove environment bindingId) := by
  have refused : (∀ binding profile,
      removable state.rows installationId bindingId = .ok binding →
        getProfile state.files binding.profileName ≠ .ok profile) →
      ThrowsCleanly installationId state
        (.remove environment bindingId) := by
    intro nothing
    obtain ⟨error, failed⟩ := @remove_refused environment installationId
      bindingId state nothing
    exact (removal_throwsCleanly_of_error failed).mpr (untouched_refl state)
  unfold FailsEarly
  dsimp only
  cases removes : removable state.rows installationId bindingId with
  | error error =>
      refine iff_of_true (refused ?_) trivial
      intro binding profile impossible
      rw [removes] at impossible
      cases impossible
  | ok binding =>
      dsimp only
      cases found : getProfile state.files binding.profileName with
      | error error =>
          refine iff_of_true (refused ?_) trivial
          intro other profile same impossible
          cases removes.symm.trans same
          cases found.symm.trans impossible
      | ok profile =>
          have shape := @remove_eq environment installationId bindingId state
            binding profile removes found
          cases written : environment.rewrites with
          | error error =>
              rw [written] at shape
              rw [removal_throwsCleanly_of_error shape]
              exact iff_of_true (untouched_refl state) nofun
          | ok _ =>
              rw [written] at shape
              obtain ⟨result, shape⟩ := shape
              simp only [true_implies]
              cases reported : environment.report [.progress 95] with
              | ok _ =>
                  rw [reported] at shape
                  exact iff_of_true (removal_throwsCleanly_of_ok shape) rfl
              | error error =>
                  rw [reported] at shape
                  rw [removal_throwsCleanly_of_error shape]
                  have member := (get_mem (removable_get removes)).1
                  exact iff_of_false (deleted_visible member) nofun

end Removes

/-- A call that throws has changed neither the profile nor the table exactly if
it fails before it gets as far as the table, or violates a constraint with a
profile that need not be rewritten. -/
theorem throws_cleanly_iff
    (installationId : String) (state : BindingState) (call : BindingCall)
    (unused : ServerBindingsStore.get state.rows call.environment.uuid =
      none) :
    ThrowsCleanly installationId state call ↔
      FailsEarly installationId state call := by
  cases call with
  | apply environment input bindingId => exact apply_throwsCleanly_iff unused
  | remove environment bindingId => exact remove_throwsCleanly_iff

/-- The job is cancelled before its last callback. -/
def cancelledLate (uuid : String) : BindingEnvironment :=
  { undisturbed uuid with cancelled := fun callback =>
      callback = .progress 95 }

def boundProfile : BindingState :=
  (apply (undisturbed "binding-1") "installation" (bindingInput "Lobby" true)
    none newProfile).2

/-- A second server of the name at another address. -/
def movedLobby : ServerBindingInput :=
  { bindingInput "Lobby" true with serverAddress := "moved.example.com" }

/-- A server with a pack version that does not exist. -/
def unpackedLobby : ServerBindingInput :=
  { bindingInput "Lobby" true with packVersionId := some "pack-2" }

/-- A creation under a taken name, or with an unknown pack version, leaves the
profile rewritten, and a cancellation at the last callback leaves both
changed. -/
theorem throwing_calls_leave_changes :
    (∃ final,
      thrown "installation" boundProfile
          (.apply (undisturbed "binding-2") movedLobby none) = some final ∧
        (final.servers "main").map ProfileServer.serverAddress =
          ["moved.example.com"]) ∧
      ¬ ThrowsCleanly "installation" boundProfile
        (.apply (undisturbed "binding-2") movedLobby none) ∧
      ¬ ThrowsCleanly "installation" newProfile
        (.apply (undisturbed "binding-1") unpackedLobby none) ∧
      ¬ ThrowsCleanly "installation" newProfile
        (.apply (cancelledLate "binding-1") (bindingInput "Lobby" true)
          none) := by
  have moved :
      (thrown "installation" boundProfile
        (.apply (undisturbed "binding-2") movedLobby none)).map
          (fun final =>
            (final.servers "main").map ProfileServer.serverAddress) =
        some ["moved.example.com"] := by
    decide +kernel
  have before : (boundProfile.servers "main").map
      ProfileServer.serverAddress = ["play.example.com"] := by
    decide +kernel
  have unpacked :
      (thrown "installation" newProfile
        (.apply (undisturbed "binding-1") unpackedLobby none)).map
          (fun final => (final.servers "main").length) = some 1 := by
    decide +kernel
  have cancelled :
      (thrown "installation" newProfile
        (.apply (cancelledLate "binding-1") (bindingInput "Lobby" true)
          none)).map (fun final => final.rows.length) = some 1 := by
    decide +kernel
  obtain ⟨final, left, address⟩ := Option.map_eq_some_iff.mp moved
  refine ⟨⟨final, left, address⟩, ?_, ?_, ?_⟩
  · intro cleanly
    have same := (cleanly final left).servers "main"
    rw [same, before] at address
    revert address
    decide
  · obtain ⟨last, leftLast, servers⟩ := Option.map_eq_some_iff.mp unpacked
    intro cleanly
    have same := (cleanly last leftLast).servers "main"
    rw [same] at servers
    cases servers
  · obtain ⟨last, leftLast, rows⟩ := Option.map_eq_some_iff.mp cancelled
    intro cleanly
    have same := (cleanly last leftLast).rows
    rw [same] at rows
    cases rows

def reloadFails (uuid : String) : BindingEnvironment :=
  { undisturbed uuid with sync := .error "LaunchServer did not answer" }

theorem throws_cleanly_iff_reload_fails :
    (thrown "installation" boundProfile
        (.remove (reloadFails "binding-2") "binding-1")).isSome = true ∧
      ThrowsCleanly "installation" boundProfile
        (.remove (reloadFails "binding-2") "binding-1") := by
  have failed : (reloadFails "binding-2").rewrites =
      .error "LaunchServer did not answer" := rfl
  have early : FailsEarly "installation" boundProfile
      (.remove (reloadFails "binding-2") "binding-1") := by
    unfold FailsEarly
    dsimp only
    rw [failed]
    split
    · trivial
    · split
      · trivial
      · nofun
  exact ⟨by decide +kernel, (throws_cleanly_iff "installation" boundProfile
    (.remove (reloadFails "binding-2") "binding-1")
      (by decide +kernel)).mpr early⟩

end GravitPanel.Servers
