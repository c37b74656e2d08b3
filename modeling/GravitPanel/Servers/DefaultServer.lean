import GravitPanel.Core.Execution
import GravitPanel.Servers.BindingRosters

/-!
# One default server

What `apply` and `remove` do to the rosters of a profile and its bindings is
putting or dropping an entry, as long as no default server is given up; then
both rosters stay the same and have one default.
-/

namespace GravitPanel.Servers

open GravitPanel.Execution
open GravitPanel.Roster
open Program ServerBindingsStore ServerBindingService

/-- A call for one profile that succeeds.  `crypto.randomUUID` never returns
the id of a row. -/
def bindingStep
    (installationId profileName : String) (state : BindingState)
    (call : BindingCall) : Option (BindingState × List BindingResult) :=
  match call with
  | .apply environment input bindingId =>
      if input.installationId = installationId ∧
          input.profileName = profileName ∧
            ServerBindingsStore.get state.rows environment.uuid = none then
        match apply environment installationId input bindingId state with
        | (.ok result, next) => some (next, [.applied result])
        | (.error _, _) => none
      else
        none
  | .remove environment bindingId =>
      match remove environment installationId bindingId state with
      | (.ok result, next) => some (next, [.removed result])
      | (.error _, _) => none

/-- The call neither takes the flag from the default binding nor removes it
while other servers remain. -/
def KeepsDefault
    (installationId profileName : String) (state : BindingState) :
    BindingCall → Prop
  | .apply _ input bindingId =>
      match currentBinding state.rows installationId bindingId with
      | .ok (some current) => current.isDefault → input.isDefault
      | _ => True
  | .remove _ bindingId =>
      match removable state.rows installationId bindingId with
      | .ok binding => binding.isDefault →
          ∀ server ∈ state.servers profileName, server.name = binding.name
      | .error _ => True

instance (installationId profileName : String) (state : BindingState)
    (call : BindingCall) :
    Decidable (KeepsDefault installationId profileName state call) := by
  unfold KeepsDefault
  split
  · split <;> infer_instance
  · split <;> infer_instance

theorem currentBinding_get
    {rows : List ServerBinding} {installationId : String}
    {bindingId : Option String} {current : ServerBinding}
    (bound : currentBinding rows installationId bindingId =
      .ok (some current)) :
    ServerBindingsStore.get rows current.id = some current := by
  unfold currentBinding at bound
  split at bound
  · cases bound
  · split at bound
    · cases bound
    · split at bound
      · cases bound
      · rename_i id _ found matched
        split at bound
        · cases bound
        · cases bound
          rwa [(get_mem matched).2]

theorem removable_get
    {rows : List ServerBinding} {installationId bindingId : String}
    {binding : ServerBinding}
    (removes : removable rows installationId bindingId = .ok binding) :
    ServerBindingsStore.get rows bindingId = some binding := by
  unfold removable at removes
  split at removes
  · cases removes
  · rename_i found matched
    split at removes
    · cases removes
    · cases removes
      exact matched

section Apply

variable {environment : BindingEnvironment} {input : ServerBindingInput}
variable {bindingId : Option String} {state : BindingState}
variable {profile : ClientProfile} {current : Option ServerBinding}
variable {deployment : Option ServerBindingDeploymentState} {now : Nat}

theorem mem_bindingRoster {rows : List ServerBinding} {row : ServerBinding}
    (member : row ∈ rows) : (row.name, row.isDefault) ∈ bindingRoster rows :=
  List.mem_map_of_mem member

theorem savedRows_roster
    (inStep : InStep input.installationId input.profileName state)
    (unused : ServerBindingsStore.get state.rows environment.uuid = none)
    (bound : currentBinding state.rows input.installationId bindingId =
      .ok current)
    (unique : violatesUnique state.rows (savedInput input profile.servers)
      (savedId environment current) = false) :
    (bindingRoster (savedRows state.rows (savedInput input profile.servers)
        (savedId environment current) deployment now)).Perm
      (Roster.put (formerName current input) input.name
        (nextServer profile.servers input).isDefault
        (bindingRoster state.rows)) := by
  cases current with
  | none =>
      exact .of_eq (@savedRows_insert_roster _ _
        (savedInput input profile.servers) deployment now inStep.here unused
        unique)
  | some current =>
      exact @savedRows_update_roster _ _ (savedInput input profile.servers)
        deployment now current inStep.here inStep.ids inStep.sound.keys
        (currentBinding_get bound) unique

theorem savable_name
    (inStep : InStep input.installationId input.profileName state)
    (unused : ServerBindingsStore.get state.rows environment.uuid = none)
    (bound : currentBinding state.rows input.installationId bindingId =
      .ok current)
    (unique : violatesUnique state.rows (savedInput input profile.servers)
      (savedId environment current) = false)
    {row : ServerBinding} (member : row ∈ state.rows)
    (same : row.name = input.name) : current = some row := by
  cases current with
  | none =>
      have free := ids_of_get_none unused
      change violatesUnique state.rows _ environment.uuid = false at unique
      rw [violatesUnique, unused] at unique
      exact absurd same (@name_fresh _ _ _ _ (savedInput input profile.servers)
        inStep.here unique row member (free row member))
  | some current =>
      have found := currentBinding_get bound
      have located := inStep.here current (get_mem found).1
      change violatesUnique state.rows _ current.id = false at unique
      rw [violatesUnique, found] at unique
      dsimp only at unique
      rw [located.1, located.2] at unique
      by_contra different
      have otherId : row.id ≠ current.id := by
        intro sameId
        have equality := List.inj_on_of_nodup_map inStep.ids member
          (get_mem found).1 sameId
        exact different (congrArg some equality.symm)
      exact @name_fresh _ _ _ _ (savedInput input profile.servers)
        inStep.here unique row member otherId same

theorem put_sound
    (inStep : InStep input.installationId input.profileName state)
    (unused : ServerBindingsStore.get state.rows environment.uuid = none)
    (bound : currentBinding state.rows input.installationId bindingId =
      .ok current)
    (unique : violatesUnique state.rows (savedInput input profile.servers)
      (savedId environment current) = false)
    (read : state.servers input.profileName = profile.servers)
    (keeps : KeepsDefault input.installationId input.profileName state
      (.apply environment input bindingId)) :
    (Roster.put (formerName current input) input.name
      (nextServer profile.servers input).isDefault
      (bindingRoster state.rows)).Sound := by
  refine inStep.sound.put ?_
  intro unflagged
  simp only [nextServer, Bool.or_eq_false_iff, decide_eq_false_iff_not]
    at unflagged
  -- an entry of the old or the new name is that of the binding
  have flagless : ∀ name, (name = formerName current input ∨
      name = input.name) → (name, true) ∉ bindingRoster state.rows := by
    intro name named listed
    obtain ⟨row, member, shape⟩ := List.mem_map.mp listed
    obtain ⟨rowName, rowDefault⟩ := Prod.mk.inj shape
    have itself : current = some row := by
      rcases named with old | new
      · cases current with
        | none =>
            exact savable_name inStep unused bound unique member
              (rowName.trans old)
        | some current =>
            have found := get_mem (currentBinding_get bound)
            have distinct := inStep.sound.keys
            unfold bindingRoster at distinct
            rw [List.map_map] at distinct
            exact congrArg some (List.inj_on_of_nodup_map distinct found.1
              member (rowName.trans old).symm)
      · exact savable_name inStep unused bound unique member
          (rowName.trans new)
    subst itself
    unfold KeepsDefault at keeps
    dsimp only at keeps
    rw [bound] at keeps
    have wanted := keeps rowDefault
    rw [unflagged.1] at wanted
    cases wanted
  refine ⟨?_, flagless _ (.inl rfl), flagless _ (.inr rfl)⟩
  intro empty
  have same := inStep.same
  rw [empty, List.perm_nil, read] at same
  apply unflagged.2
  rw [← List.length_map (f := fun server : ProfileServer =>
    (server.name, server.isDefault))]
  exact congrArg List.length same

theorem nextServer_valid (valid : validate input = .ok ()) :
    (nextServer profile.servers input).Valid := by
  obtain ⟨_, named, rest⟩ := outcome_bind_eq_ok.mp valid
  obtain ⟨_, addressed, rest⟩ := outcome_bind_eq_ok.mp rest
  obtain ⟨_, ported, _⟩ := outcome_bind_eq_ok.mp rest
  have holds : ∀ {condition : Bool} {error : String} {done : Unit},
      check condition error = .ok done → condition = true := by
    intro condition error done passed
    unfold check at passed
    split at passed
    · assumption
    · cases passed
  have inRange := holds ported
  rw [Bool.and_eq_true, decide_eq_true_eq, decide_eq_true_eq] at inRange
  refine ⟨?_, ?_, inRange.1, inRange.2⟩
  · intro blank
    have matched := holds named
    change JavaScript.trim input.name = "" at blank
    rw [blank] at matched
    cases matched
  · intro blank
    have matched := holds addressed
    change JavaScript.trim input.serverAddress = "" at blank
    rw [blank] at matched
    cases matched

theorem ProfileServer.Valid.flagged {server : ProfileServer}
    (valid : server.Valid) (flag : Bool) :
    ({ server with isDefault := flag } : ProfileServer).Valid :=
  ⟨valid.named, valid.addressed, valid.positive, valid.bounded⟩

theorem promoteFirst_valid {servers : List ProfileServer}
    (valid : ∀ server ∈ servers, server.Valid) :
    ∀ server ∈ promoteFirst servers, server.Valid := by
  intro server listed
  cases servers with
  | nil => cases listed
  | cons first rest =>
      rcases List.mem_cons.mp listed with rfl | later
      · exact (valid first List.mem_cons_self).flagged true
      · exact valid server (List.mem_cons_of_mem first later)

theorem remaining_valid {servers : List ProfileServer} {next : ProfileServer}
    (valid : ∀ server ∈ servers, server.Valid) :
    ∀ server ∈ remaining servers current input next, server.Valid := by
  have kept : ∀ server ∈ others servers current input next,
      server.Valid := by
    intro server listed
    obtain ⟨former, present, rfl⟩ := List.mem_map.mp listed
    have holds := valid former (List.mem_of_mem_filter present)
    split
    · exact holds.flagged false
    · exact holds
  unfold remaining
  dsimp only
  split
  · exact promoteFirst_valid kept
  · exact kept

theorem rewritten_roster
    (valid : validate input = .ok ())
    (found : getProfile state.files input.profileName = .ok profile)
    (sound : (serverRoster profile.servers).Sound)
    (putSound : (Roster.put (formerName current input) input.name
      (nextServer profile.servers input).isDefault
      (serverRoster profile.servers)).Sound) :
    (serverRoster ((rewritten input profile current state).servers
        input.profileName)).Perm
      (Roster.put (formerName current input) input.name
        (nextServer profile.servers input).isDefault
        (serverRoster profile.servers)) := by
  have read := PanelState.servers_eq found
  unfold rewritten
  dsimp only
  by_cases changed : profileChanged profile.servers current
      (nextServer profile.servers input)
  · rw [if_pos changed, PanelState.servers_replaceServers found]
    · exact .of_eq (remaining_roster rfl putSound)
    · intro server listed
      rcases List.mem_append.mp listed with kept | last
      · refine remaining_valid ?_ server kept
        intro other member
        rw [← read] at member
        exact PanelState.servers_valid member
      · rw [List.mem_singleton.mp last]
        exact nextServer_valid valid
  · rw [if_neg changed, read]
    -- the profile has the wanted server already
    unfold profileChanged at changed
    split at changed
    · exact absurd rfl changed
    · rename_i server matched
      simp only [Bool.or_eq_true, decide_eq_true_eq, not_or, not_not,
        ne_eq] at changed
      obtain ⟨⟨⟨sameName, _⟩, _⟩, sameDefault⟩ := changed
      cases current with
      | none => cases matched
      | some current =>
          change profile.servers.find? (fun server =>
            server.name = current.name) = some server at matched
          have selected := List.find?_some matched
          rw [decide_eq_true_eq] at selected
          have member := List.mem_of_find?_eq_some matched
          have listed : (input.name, (nextServer profile.servers
              input).isDefault) ∈ serverRoster profile.servers := by
            rw [← sameDefault]
            change ((nextServer profile.servers input).name,
              server.isDefault) ∈ _
            rw [← sameName]
            exact List.mem_map_of_mem member
          have former : formerName (some current) input = input.name :=
            selected.symm.trans sameName
          rw [former]
          exact (sound.put_self listed).symm

/-- A successful `apply` that changes something puts one entry into both
rosters, and the rosters stay the same if the default server is kept. -/
theorem inStep_saved
    (inStep : InStep input.installationId input.profileName state)
    (unused : ServerBindingsStore.get state.rows environment.uuid = none)
    (prepared : prepare state input.installationId input bindingId =
      .ok (profile, current))
    (unique : violatesUnique state.rows (savedInput input profile.servers)
      (savedId environment current) = false)
    (keeps : KeepsDefault input.installationId input.profileName state
      (.apply environment input bindingId)) :
    InStep input.installationId input.profileName
      { rewritten input profile current state with
        rows := savedRows state.rows (savedInput input profile.servers)
          (savedId environment current) deployment now } := by
  obtain ⟨valid, found, bound, _⟩ := prepare_ok prepared
  have read := PanelState.servers_eq found
  have same := inStep.same
  rw [read] at same
  have putSound := put_sound inStep unused bound unique read keeps
  have written : (bindingRoster (savedRows state.rows
      (savedInput input profile.servers) (savedId environment current)
        deployment now)).Perm _ :=
    savedRows_roster inStep unused bound unique
  have servers := @rewritten_roster input state profile current valid found
    (inStep.sound.perm same.symm) (putSound.perm (put_perm same.symm))
  exact
    { here := @savedRows_here _ (savedInput input profile.servers) _ _ _
        inStep.here
      ids := savedRows_ids inStep.ids
      sound := putSound.perm written.symm
      same := (servers.trans (put_perm same)).trans written.symm }

end Apply

section Remove

variable {installationId profileName : String} {state : BindingState}
variable {profile : ClientProfile} {binding : ServerBinding}

theorem deleted_roster
    (inStep : InStep installationId profileName state)
    (member : binding ∈ state.rows) :
    bindingRoster (state.rows.filter fun row => row.id ≠ binding.id) =
      drop binding.name (bindingRoster state.rows) := by
  have names := inStep.sound.keys
  unfold bindingRoster at names ⊢
  rw [List.map_map] at names
  unfold drop
  rw [List.filter_map]
  congr 1
  apply List.filter_congr
  intro row listed
  rw [Function.comp]
  dsimp only
  congr 1
  apply propext
  refine not_congr ⟨?_, ?_⟩
  · intro sameId
    rw [List.inj_on_of_nodup_map inStep.ids listed member sameId]
  · intro sameName
    rw [List.inj_on_of_nodup_map names listed member sameName]

theorem withoutServer_valid {servers : List ProfileServer}
    (valid : ∀ server ∈ servers, server.Valid) :
    ∀ server ∈ withoutServer servers binding, server.Valid := by
  have kept : ∀ server ∈ servers.filter fun server =>
      server.name ≠ binding.name, server.Valid :=
    fun server listed => valid server (List.mem_of_mem_filter listed)
  unfold withoutServer
  dsimp only
  split
  · exact promoteFirst_valid kept
  · exact kept

theorem removed_rows {servers : List ProfileServer}
    (inStep : InStep installationId profileName state)
    (member : binding ∈ state.rows) :
    bindingRoster (delete binding.id
        (state.replaceServers profileName servers)).rows =
      drop binding.name (bindingRoster state.rows) := by
  unfold delete
  rw [PanelState.replaceServers_rows]
  exact deleted_roster inStep member

theorem removed_servers
    (found : getProfile state.files profileName = .ok profile) :
    (delete binding.id (state.replaceServers profileName
        (withoutServer profile.servers binding))).servers profileName =
      withoutServer profile.servers binding := by
  refine PanelState.servers_replaceServers found (withoutServer_valid ?_)
  intro server listed
  rw [← PanelState.servers_eq found] at listed
  exact PanelState.servers_valid listed

theorem drop_serverRoster (name : String) (servers : List ProfileServer) :
    drop name (serverRoster servers) =
      serverRoster (servers.filter fun server => server.name ≠ name) := by
  unfold drop serverRoster
  rw [List.filter_map]
  rfl

theorem inStep_removed {bindingId : String} {environment : BindingEnvironment}
    (inStep : InStep installationId profileName state)
    (removes : removable state.rows installationId bindingId = .ok binding)
    (found : getProfile state.files binding.profileName = .ok profile)
    (keeps : KeepsDefault installationId profileName state
      (.remove environment bindingId)) :
    InStep installationId profileName
      (delete binding.id (state.replaceServers binding.profileName
        (withoutServer profile.servers binding))) := by
  have member := (get_mem (removable_get removes)).1
  have located := inStep.here binding member
  rw [located.2] at found ⊢
  have read := PanelState.servers_eq found
  have same := inStep.same
  rw [read] at same
  unfold KeepsDefault at keeps
  dsimp only at keeps
  rw [removes, read] at keeps
  dsimp only at keeps
  have emptied : binding.isDefault →
      profile.servers.filter (fun server => server.name ≠ binding.name) =
        [] := by
    intro isDefault
    rw [List.filter_eq_nil_iff]
    intro server listed different
    rw [decide_eq_true_eq] at different
    exact different (keeps isDefault server listed)
  have servers : serverRoster (withoutServer profile.servers binding) =
      drop binding.name (serverRoster profile.servers) := by
    rw [drop_serverRoster]
    unfold withoutServer
    dsimp only
    split
    · rename_i isDefault
      rw [emptied isDefault]
      rfl
    · rfl
  have rows := @removed_rows _ _ _ _
    (withoutServer profile.servers binding) inStep member
  have written := @removed_servers _ _ _ binding found
  have dropSound : (drop binding.name (bindingRoster state.rows)).Sound := by
    refine inStep.sound.drop ?_
    intro flagged
    have isDefault := inStep.sound.flag_eq flagged (mem_bindingRoster member)
    have empty : drop binding.name (serverRoster profile.servers) = [] := by
      rw [← servers]
      unfold withoutServer
      dsimp only
      rw [emptied isDefault.symm, if_pos isDefault.symm]
      rfl
    have dropped := @drop_perm _ _ _ binding.name _ same
    rw [empty] at dropped
    exact dropped.nil_eq.symm
  refine
    { here := ?_
      ids := ?_
      sound := rows ▸ dropSound
      same := ?_ }
  · intro row listed
    unfold delete at listed
    rw [PanelState.replaceServers_rows] at listed
    exact inStep.here row (List.mem_of_mem_filter listed)
  · unfold delete
    rw [PanelState.replaceServers_rows]
    exact inStep.ids.sublist (List.filter_sublist.map _)
  · rw [written, servers, rows]
    exact drop_perm same

end Remove

/-! ## Whole runs -/

variable {installationId profileName : String}

theorem inStep_step
    {state next : BindingState} {call : BindingCall}
    {results : List BindingResult}
    (inStep : InStep installationId profileName state)
    (keeps : KeepsDefault installationId profileName state call)
    (stepped : bindingStep installationId profileName state call =
      some (next, results)) :
    InStep installationId profileName next := by
  unfold bindingStep at stepped
  cases call with
  | apply environment input bindingId =>
      dsimp only at stepped
      split at stepped
      · rename_i onProfile
        obtain ⟨rfl, rfl, unused⟩ := onProfile
        split at stepped
        · rename_i result final applied
          cases stepped
          obtain ⟨profile, current, prepared, ⟨_, rfl⟩ | ⟨_, unique, rfl⟩⟩ :=
            apply_ok applied
          · exact inStep
          · exact inStep_saved inStep unused prepared unique keeps
        · cases stepped
      · cases stepped
  | remove environment bindingId =>
      dsimp only at stepped
      split at stepped
      · rename_i result final removed
        cases stepped
        obtain ⟨binding, profile, removes, found, rfl⟩ := remove_ok removed
        exact inStep_removed inStep removes found keeps
      · cases stepped

/-- One default server, and the same flags in the profile and the table. -/
structure OneDefault
    (profileName : String) (state : BindingState) : Prop where
  one : state.servers profileName ≠ [] →
    (state.servers profileName).countP ProfileServer.isDefault = 1
  same : ∀ binding ∈ state.rows,
    (∃ server ∈ state.servers profileName, server.name = binding.name) ∧
      ∀ server ∈ state.servers profileName, server.name = binding.name →
        server.isDefault = binding.isDefault

theorem InStep.oneDefault {state : BindingState}
    (inStep : InStep installationId profileName state) :
    OneDefault profileName state where
  one nonempty := by
    have sound := inStep.sound.perm inStep.same.symm
    have one := sound.one (by
      intro empty
      exact nonempty (List.map_eq_nil_iff.mp empty))
    rw [serverRoster, List.countP_map] at one
    exact one
  same binding member := by
    have listed := mem_bindingRoster member
    refine ⟨?_, ?_⟩
    · have there := inStep.same.mem_iff.mpr listed
      obtain ⟨server, present, shape⟩ := List.mem_map.mp there
      exact ⟨server, present, congrArg Prod.fst shape⟩
    · intro server present sameName
      have there : (server.name, server.isDefault) ∈
          bindingRoster state.rows :=
        inStep.same.mem_iff.mp (List.mem_map_of_mem present)
      rw [sameName] at there
      exact inStep.sound.flag_eq there listed

/-- If the default flag is never taken from its binding and the default binding
is only removed as the last one, one server is the default and the profile and
the table agree on it. -/
theorem one_default_server
    (start final : BindingState) (calls : List BindingCall)
    (results : List BindingResult)
    (noServers : start.servers profileName = []) (noRows : start.rows = [])
    (condition : Meets (bindingStep installationId profileName)
      (KeepsDefault installationId profileName) start calls)
    (run : execute (bindingStep installationId profileName) start calls =
      some (final, results)) :
    OneDefault profileName final := by
  have begun : InStep installationId profileName start :=
    { here := by simp [noRows]
      ids := by simp [noRows]
      sound := by
        rw [noRows]
        exact sound_nil
      same := by
        rw [noRows, noServers]
        exact .refl _ }
  have reached : InStep installationId profileName final :=
    execute_induction_of_meets
      (motive := fun state _ => InStep installationId profileName state)
      (fun _ _ _ _ _ inStep keeps stepped =>
        inStep_step inStep keeps stepped)
      begun condition run
  exact reached.oneDefault

theorem promoteFirst_names (servers : List ProfileServer) :
    (serverRoster (promoteFirst servers)).map Prod.fst =
      (serverRoster servers).map Prod.fst := by
  cases servers <;> rfl

theorem not_oneDefault
    {state : BindingState}
    (flagless : (bindingRoster state.rows).countP Prod.snd = 0)
    (nonempty : state.servers profileName ≠ [])
    (covered : ∀ server ∈ state.servers profileName,
      server.name ∈ (bindingRoster state.rows).map Prod.fst) :
    ¬ OneDefault profileName state := by
  intro oneDefault
  have one := oneDefault.one nonempty
  have some : 0 < (state.servers profileName).countP
      ProfileServer.isDefault := by omega
  obtain ⟨server, member, isDefault⟩ := List.countP_pos_iff.mp some
  obtain ⟨entry, listed, sameName⟩ :=
    List.mem_map.mp (covered server member)
  obtain ⟨row, present, rfl⟩ := List.mem_map.mp listed
  have sameFlag :=
    (oneDefault.same row present).2 server member sameName.symm
  rw [List.countP_eq_zero] at flagless
  apply flagless _ (mem_bindingRoster present)
  rw [← sameFlag]
  exact isDefault

theorem remaining_names
    (servers : List ProfileServer) (current : Option ServerBinding)
    (input : ServerBindingInput) (next : ProfileServer)
    (named : next.name = input.name) :
    (serverRoster (remaining servers current input next ++ [next])).map
        Prod.fst =
      (Roster.put (formerName current input) input.name next.isDefault
        (serverRoster servers)).map Prod.fst := by
  have kept : (serverRoster (remaining servers current input next)).map
      Prod.fst =
        (serverRoster (others servers current input next)).map Prod.fst := by
    unfold remaining
    dsimp only
    split
    · exact promoteFirst_names _
    · rfl
  rw [serverRoster_append, List.map_append, kept, others_roster, Roster.put,
    List.map_append]
  simp [serverRoster, named]

theorem unflagging_apply_breaks
    {environment : BindingEnvironment} {input : ServerBindingInput}
    {bindingId : Option String} {state next : BindingState}
    {current : ServerBinding} {result : ApplyResult}
    (inStep : InStep input.installationId input.profileName state)
    (unused : ServerBindingsStore.get state.rows environment.uuid = none)
    (bound : currentBinding state.rows input.installationId bindingId =
      .ok (some current))
    (isDefault : current.isDefault = true) (wanted : input.isDefault = false)
    (applied : apply environment input.installationId input bindingId state =
      (.ok result, next)) :
    ¬ OneDefault input.profileName next := by
  obtain ⟨profile, found', prepared, made⟩ := apply_ok applied
  obtain ⟨valid, found, bound', _⟩ := prepare_ok prepared
  cases bound.symm.trans bound'
  have read := PanelState.servers_eq found
  have same := inStep.same
  rw [read] at same
  have member := (get_mem (currentBinding_get bound)).1
  have flagged : (current.name, true) ∈ bindingRoster state.rows := by
    rw [← isDefault]
    exact mem_bindingRoster member
  have present := same.mem_iff.mpr flagged
  have unflagged : (nextServer profile.servers input).isDefault = false := by
    simp only [nextServer, wanted, Bool.false_or, decide_eq_false_iff_not]
    intro empty
    rw [List.length_eq_zero_iff.mp empty] at present
    cases present
  have changed : profileChanged profile.servers (some current)
      (nextServer profile.servers input) = true := by
    unfold profileChanged
    split
    · rfl
    · rename_i server matched
      change profile.servers.find? (fun server =>
        server.name = current.name) = some server at matched
      have selected := List.find?_some matched
      rw [decide_eq_true_eq] at selected
      have listed : (server.name, server.isDefault) ∈
          bindingRoster state.rows :=
        same.mem_iff.mp
          (List.mem_map_of_mem (List.mem_of_find?_eq_some matched))
      rw [selected] at listed
      have serverDefault := inStep.sound.flag_eq listed flagged
      simp [serverDefault, unflagged]
  rcases made with ⟨wantedState, _⟩ | ⟨_, unique, rfl⟩
  · unfold unchanged at wantedState
    dsimp only at wantedState
    rw [changed, Bool.true_or, if_pos rfl] at wantedState
    cases wantedState
  · have written : (bindingRoster (savedRows state.rows
        (savedInput input profile.servers)
        (savedId environment (some current))
        (savedState (some current) input) environment.clock)).Perm _ :=
      savedRows_roster inStep unused bound unique
    have servers : ({ rewritten input profile (some current) state with
        rows := savedRows state.rows (savedInput input profile.servers)
          (savedId environment (some current))
          (savedState (some current) input) environment.clock } :
            BindingState).servers input.profileName =
        remaining profile.servers (some current) input
            (nextServer profile.servers input) ++
          [nextServer profile.servers input] := by
      change (rewritten input profile (some current) state).servers
        input.profileName = _
      unfold rewritten
      dsimp only
      rw [if_pos changed]
      refine PanelState.servers_replaceServers found ?_
      intro server listed
      rcases List.mem_append.mp listed with kept | last
      · refine remaining_valid ?_ server kept
        intro other otherMember
        rw [← read] at otherMember
        exact PanelState.servers_valid otherMember
      · rw [List.mem_singleton.mp last]
        exact nextServer_valid valid
    refine not_oneDefault ?_ ?_ ?_
    · rw [written.countP_eq, unflagged]
      exact inStep.sound.countP_put_zero flagged
    · rw [servers]
      simp
    · rw [servers]
      intro server listed
      refine ((written.map Prod.fst).mem_iff).mpr ?_
      refine (((put_perm same).map Prod.fst).mem_iff).mp ?_
      rw [← remaining_names profile.servers (some current) input
        (nextServer profile.servers input) rfl]
      exact List.mem_map_of_mem (List.mem_map_of_mem listed)

theorem default_removal_breaks
    {environment : BindingEnvironment} {bindingId : String}
    {state next : BindingState} {binding : ServerBinding}
    {result : RemoveResult} {other : ProfileServer}
    (inStep : InStep installationId profileName state)
    (removes : removable state.rows installationId bindingId = .ok binding)
    (isDefault : binding.isDefault = true)
    (remains : other ∈ state.servers profileName)
    (different : other.name ≠ binding.name)
    (removed : remove environment installationId bindingId state =
      (.ok result, next)) :
    ¬ OneDefault profileName next := by
  obtain ⟨binding', profile, removes', found, rfl⟩ := remove_ok removed
  cases removes.symm.trans removes'
  have member := (get_mem (removable_get removes)).1
  have located := inStep.here binding member
  rw [located.2] at found ⊢
  have read := PanelState.servers_eq found
  have same := inStep.same
  rw [read] at same remains
  have flagged : (binding.name, true) ∈ bindingRoster state.rows := by
    rw [← isDefault]
    exact mem_bindingRoster member
  have rows := @removed_rows _ _ _ _
    (withoutServer profile.servers binding) inStep member
  have servers := @removed_servers _ _ _ binding found
  have kept : other ∈ profile.servers.filter fun server =>
      server.name ≠ binding.name :=
    List.mem_filter.mpr ⟨remains, decide_eq_true different⟩
  refine not_oneDefault ?_ ?_ ?_
  · rw [rows]
    exact inStep.sound.countP_drop_zero flagged
  · rw [servers]
    intro empty
    unfold withoutServer at empty
    dsimp only at empty
    rw [if_pos isDefault] at empty
    have names := promoteFirst_names
      (profile.servers.filter fun server => server.name ≠ binding.name)
    rw [empty] at names
    have none := List.map_eq_nil_iff.mp (List.map_eq_nil_iff.mp names.symm)
    rw [none] at kept
    cases kept
  · rw [servers, rows]
    intro server listed
    refine (((drop_perm same).map Prod.fst).mem_iff).mp ?_
    rw [drop_serverRoster, ← promoteFirst_names]
    unfold withoutServer at listed
    dsimp only at listed
    rw [if_pos isDefault] at listed
    exact List.mem_map_of_mem (List.mem_map_of_mem listed)

/-- A successful call that gives up the default server leaves no default, or
another one in the profile than in the table. -/
theorem given_up_default_breaks
    {state next : BindingState} {call : BindingCall}
    {results : List BindingResult}
    (inStep : InStep installationId profileName state)
    (givesUp : ¬ KeepsDefault installationId profileName state call)
    (stepped : bindingStep installationId profileName state call =
      some (next, results)) :
    ¬ OneDefault profileName next := by
  unfold bindingStep at stepped
  unfold KeepsDefault at givesUp
  cases call with
  | apply environment input bindingId =>
      dsimp only at stepped givesUp
      split at stepped
      · rename_i onProfile
        obtain ⟨rfl, rfl, unused⟩ := onProfile
        split at stepped
        · rename_i result final applied
          cases stepped
          split at givesUp
          · rename_i current bound
            rw [Classical.not_imp, Bool.not_eq_true] at givesUp
            exact unflagging_apply_breaks inStep unused bound givesUp.1
              givesUp.2 applied
          · exact absurd trivial givesUp
        · cases stepped
      · cases stepped
  | remove environment bindingId =>
      dsimp only at stepped givesUp
      split at stepped
      · rename_i result final removed
        cases stepped
        split at givesUp
        · rename_i binding removes
          push Not at givesUp
          obtain ⟨isDefault, other, remains, different⟩ := givesUp
          exact default_removal_breaks inStep removes isDefault remains
            different removed
        · exact absurd trivial givesUp
      · cases stepped

/-- A call in which nothing fails. -/
def undisturbed (uuid : String) : BindingEnvironment where
  copy := none
  write := none
  updatesCache := none
  sync := .ok ["profiles synchronized"]
  referenced := ⟨["installation"], ["pack-1"]⟩
  cancelled _ := false
  clock := 10
  uuid := uuid
  backupPath := "main.servers-1.json"

def newProfile : BindingState where
  files _ :=
    .config ⟨some "6830f39d-23bd-4653-aecd-81f08af4ec2e", some "1.21.1",
      some .vanilla, []⟩
  rows := []

def bindingInput (name : String) (isDefault : Bool) : ServerBindingInput where
  installationId := "installation"
  profileName := "main"
  name := name
  serverAddress := "play.example.com"
  serverPort := 25565
  isDefault := isDefault
  authId := "std"
  packVersionId := none
  xms := "1G"
  xmx := "4G"
  jvmArgs := []
  gameArgs := ["nogui"]

/-- The only server of a profile is updated without the default flag. -/
def unflaggedCalls : List BindingCall :=
  [.apply (undisturbed "binding-1") (bindingInput "Lobby" true) none,
    .apply (undisturbed "binding-2") (bindingInput "Lobby" false)
      (some "binding-1")]

/-- The profile has one server, and it is not the default. -/
theorem only_server_not_default :
    ∃ final results,
      execute (bindingStep "installation" "main") newProfile
          unflaggedCalls = some (final, results) ∧
        (final.servers "main").map ProfileServer.isDefault = [false] ∧
          ¬ OneDefault "main" final := by
  have reached :
      (execute (bindingStep "installation" "main") newProfile
        unflaggedCalls).map
          (fun result =>
            (result.1.servers "main").map ProfileServer.isDefault) =
        some [false] := by
    decide +kernel
  obtain ⟨⟨final, results⟩, run, flags⟩ :=
    Option.map_eq_some_iff.mp reached
  dsimp only at flags
  refine ⟨final, results, run, flags, ?_⟩
  intro oneDefault
  have nonempty : final.servers "main" ≠ [] := by
    intro empty
    rw [empty] at flags
    cases flags
  have one := oneDefault.one nonempty
  have none : ((final.servers "main").map ProfileServer.isDefault).countP id =
      0 := by
    rw [flags]
    rfl
  rw [List.countP_map] at none
  cases one.symm.trans none

/-- Two servers are created, the second one becomes the default under another
name, and the first one is removed. -/
def promotedCalls : List BindingCall :=
  [.apply (undisturbed "binding-1") (bindingInput "Lobby" true) none,
    .apply (undisturbed "binding-2") (bindingInput "Survival" false) none,
    .apply (undisturbed "binding-3") (bindingInput "Creative" true)
      (some "binding-2"),
    .remove (undisturbed "binding-4") "binding-1"]

theorem one_default_server_promoted :
    ∃ final results,
      execute (bindingStep "installation" "main") newProfile
          promotedCalls = some (final, results) ∧
        (final.servers "main").map ProfileServer.name = ["Creative"] ∧
          OneDefault "main" final := by
  have reached :
      (execute (bindingStep "installation" "main") newProfile
        promotedCalls).map
          (fun result => (result.1.servers "main").map ProfileServer.name) =
        some ["Creative"] := by
    decide +kernel
  obtain ⟨⟨final, results⟩, run, names⟩ :=
    Option.map_eq_some_iff.mp reached
  exact ⟨final, results, run, names,
    @one_default_server "installation" "main" newProfile final promotedCalls
      results rfl rfl (by decide +kernel) run⟩

end GravitPanel.Servers
