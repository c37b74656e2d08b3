import GravitPanel.Core.Roster
import GravitPanel.Servers.BindingService

/-!
# The rosters of a profile

The profile's servers and the rows of its bindings are two rosters of names
with default flags.  Saving a row puts an entry and takes the flag from the
others.
-/

namespace GravitPanel.Servers

open GravitPanel.Roster
open Program ServerBindingsStore ServerBindingService

def serverRoster (servers : List ProfileServer) : Roster String :=
  servers.map fun server => (server.name, server.isDefault)

def bindingRoster (rows : List ServerBinding) : Roster String :=
  rows.map fun row => (row.name, row.isDefault)

@[simp]
theorem serverRoster_append (first second : List ProfileServer) :
    serverRoster (first ++ second) =
      serverRoster first ++ serverRoster second :=
  List.map_append

@[simp]
theorem bindingRoster_append (first second : List ServerBinding) :
    bindingRoster (first ++ second) =
      bindingRoster first ++ bindingRoster second :=
  List.map_append

/-- The name under which a call finds the server that it replaces. -/
def formerName
    (current : Option ServerBinding) (input : ServerBindingInput) : String :=
  (current.map ServerBinding.name).getD input.name

theorem others_roster
    (servers : List ProfileServer) (current : Option ServerBinding)
    (input : ServerBindingInput) (next : ProfileServer) :
    serverRoster (others servers current input next) =
      clear next.isDefault
        (without (formerName current input) input.name
          (serverRoster servers)) := by
  have sameFilter : ∀ server : ProfileServer,
      (some server.name ≠ current.map ServerBinding.name ∧
        server.name ≠ input.name) ↔
      (server.name ≠ formerName current input ∧
        server.name ≠ input.name) := by
    intro server
    cases current with
    | none => simp [formerName]
    | some current => simp [formerName]
  simp only [others, serverRoster, without, clear, List.map_map,
    List.filter_map, Function.comp_def, sameFilter]
  apply List.map_congr_left
  intro server _
  cases next.isDefault with
  | true => simp
  | false => simp

theorem remaining_roster
    {servers : List ProfileServer} {current : Option ServerBinding}
    {input : ServerBindingInput} {next : ProfileServer}
    (named : next.name = input.name)
    (sound : (Roster.put (formerName current input) input.name next.isDefault
      (serverRoster servers)).Sound) :
    serverRoster (remaining servers current input next ++ [next]) =
      Roster.put (formerName current input) input.name next.isDefault
        (serverRoster servers) := by
  have kept := others_roster servers current input next
  have unpromoted : remaining servers current input next =
      others servers current input next := by
    unfold remaining
    dsimp only
    rw [if_neg]
    rw [Bool.and_eq_true, Bool.not_eq_true', Bool.not_eq_true']
    rintro ⟨unflagged, none⟩
    have one := sound.one (by simp [Roster.put])
    rw [Roster.put, ← kept, unflagged, List.countP_append,
      List.countP_singleton, if_neg Bool.false_ne_true,
      List.countP_eq_zero.mpr] at one
    · cases one
    · intro entry member isFlagged
      obtain ⟨server, listed, rfl⟩ := List.mem_map.mp member
      rw [List.any_eq_false] at none
      exact none server listed isFlagged
  rw [unpromoted, serverRoster_append, kept, Roster.put]
  simp [serverRoster, named]

theorem clearDefaults_roster
    {rows : List ServerBinding} {input : ServerBindingInput} {id : String}
    {now : Nat}
    (here : ∀ row ∈ rows, row.installationId = input.installationId ∧
      row.profileName = input.profileName)
    (others : ∀ row ∈ rows, row.id ≠ id) :
    bindingRoster (clearDefaults rows input id now) =
      clear input.isDefault (bindingRoster rows) := by
  unfold clearDefaults
  cases flag : input.isDefault with
  | false => simp
  | true =>
      simp only [if_true, bindingRoster, clear, List.map_map]
      apply List.map_congr_left
      intro row member
      have where_ := here row member
      simp [clearDefault, where_.1, where_.2, others row member]

/-- The profile and the table agree, and one of their servers is the
default. -/
structure InStep
    (installationId profileName : String) (state : BindingState) : Prop where
  here : ∀ row ∈ state.rows, row.installationId = installationId ∧
    row.profileName = profileName
  ids : (state.rows.map ServerBinding.id).Nodup
  sound : (bindingRoster state.rows).Sound
  same : (serverRoster (state.servers profileName)).Perm
    (bindingRoster state.rows)

theorem get_mem {rows : List ServerBinding} {id : String}
    {row : ServerBinding} (found : ServerBindingsStore.get rows id = some row) :
    row ∈ rows ∧ row.id = id := by
  unfold ServerBindingsStore.get at found
  have selected := List.find?_some found
  rw [decide_eq_true_eq] at selected
  exact ⟨List.mem_of_find?_eq_some found, selected⟩

theorem ids_of_get_none {rows : List ServerBinding} {id : String}
    (unused : ServerBindingsStore.get rows id = none) :
    ∀ row ∈ rows, row.id ≠ id := by
  intro row member same
  have missed := List.find?_eq_none.mp unused row member
  exact missed (decide_eq_true same)

section Rows

variable {installationId profileName id : String}
variable {rows : List ServerBinding} {input : ServerBindingInput}
variable {state : Option ServerBindingDeploymentState} {now : Nat}

theorem name_fresh
    (here : ∀ row ∈ rows, row.installationId = installationId ∧
      row.profileName = profileName)
    (free : nameTaken rows installationId profileName input.name id = false) :
    ∀ row ∈ rows, row.id ≠ id → row.name ≠ input.name := by
  intro row member different same
  unfold nameTaken at free
  rw [List.any_eq_false] at free
  have where_ := here row member
  exact free row member (decide_eq_true
    ⟨where_.1, where_.2, same, different⟩)

theorem savedRows_insert_roster
    (here : ∀ row ∈ rows, row.installationId = input.installationId ∧
      row.profileName = input.profileName)
    (unused : ServerBindingsStore.get rows id = none)
    (free : violatesUnique rows input id = false) :
    bindingRoster (savedRows rows input id state now) =
      Roster.put input.name input.name input.isDefault
        (bindingRoster rows) := by
  have otherIds := ids_of_get_none unused
  have absent : input.name ∉ (bindingRoster rows).map Prod.fst := by
    intro member
    obtain ⟨entry, listed, same⟩ := List.mem_map.mp member
    obtain ⟨row, present, rfl⟩ := List.mem_map.mp listed
    unfold violatesUnique at free
    rw [unused] at free
    exact name_fresh here free row present (otherIds row present) same
  rw [put_absent absent]
  simp only [savedRows, unused, bindingRoster_append,
    clearDefaults_roster here otherIds]
  rfl

theorem clearDefaults_ids
    (others : ∀ row ∈ rows, row.id ≠ id) :
    ∀ row ∈ clearDefaults rows input id now, row.id ≠ id := by
  intro row listed
  unfold clearDefaults at listed
  split at listed
  · obtain ⟨former, present, rfl⟩ := List.mem_map.mp listed
    have different := others former present
    unfold clearDefault
    split <;> exact different
  · exact others row listed

theorem updatedRow_others
    (others : ∀ row ∈ rows, row.id ≠ id) :
    rows.map (updatedRow input id state now) = rows := by
  conv_rhs => rw [← List.map_id rows]
  apply List.map_congr_left
  intro row listed
  exact if_neg (others row listed)

theorem savedRows_split
    {before after : List ServerBinding} {current : ServerBinding}
    (found : ServerBindingsStore.get (before ++ current :: after) id =
      some current)
    (early : ∀ row ∈ before, row.id ≠ id)
    (late : ∀ row ∈ after, row.id ≠ id) :
    savedRows (before ++ current :: after) input id state now =
      clearDefaults before input id now ++
        [updatedRow input id state now current] ++
          clearDefaults after input id now := by
  have itself : clearDefault input id now current = current := by
    unfold clearDefault
    rw [if_neg]
    exact fun both => both.2.2 (get_mem found).2
  have cleared :
      clearDefaults (before ++ current :: after) input id now =
        clearDefaults before input id now ++
          current :: clearDefaults after input id now := by
    unfold clearDefaults
    split
    · rw [List.map_append, List.map_cons, itself]
    · rfl
  simp only [savedRows, found, cleared, List.map_append, List.map_cons,
    updatedRow_others (clearDefaults_ids early),
    updatedRow_others (clearDefaults_ids late)]
  rw [List.append_assoc, List.singleton_append]

theorem savedRows_update_roster {current : ServerBinding}
    (here : ∀ row ∈ rows, row.installationId = input.installationId ∧
      row.profileName = input.profileName)
    (ids : (rows.map ServerBinding.id).Nodup)
    (names : ((bindingRoster rows).map Prod.fst).Nodup)
    (found : ServerBindingsStore.get rows id = some current)
    (free : violatesUnique rows input id = false) :
    (bindingRoster (savedRows rows input id state now)).Perm
      (Roster.put current.name input.name input.isDefault
        (bindingRoster rows)) := by
  obtain ⟨member, sameId⟩ := get_mem found
  have fresh : ∀ row ∈ rows, row.id ≠ id → row.name ≠ input.name := by
    have located := here current member
    unfold violatesUnique at free
    rw [found] at free
    dsimp only at free
    rw [located.1, located.2] at free
    exact name_fresh here free
  obtain ⟨before, after, rfl⟩ := List.append_of_mem member
  have otherIds : ∀ row ∈ before ++ after, row.id ≠ id := by
    have moved := (List.perm_middle.map ServerBinding.id).nodup ids
    intro row listed same
    apply (List.nodup_cons.mp moved).1
    rw [sameId, ← same]
    exact List.mem_map_of_mem listed
  have around : ∀ row ∈ before ++ after, row ∈ before ++ current :: after := by
    intro row listed
    rcases List.mem_append.mp listed with early | late
    · exact List.mem_append_left _ early
    · exact List.mem_append_right _ (List.mem_cons_of_mem _ late)
  have early : ∀ row ∈ before, row ∈ before ++ after :=
    fun row => List.mem_append_left after
  have late : ∀ row ∈ after, row ∈ before ++ after :=
    fun row => List.mem_append_right before
  have newAbsent :
      input.name ∉ (bindingRoster (before ++ after)).map Prod.fst := by
    intro listed
    obtain ⟨entry, inRoster, same⟩ := List.mem_map.mp listed
    obtain ⟨row, present, rfl⟩ := List.mem_map.mp inRoster
    exact fresh row (around row present) (otherIds row present) same
  have whole : bindingRoster (before ++ current :: after) =
      bindingRoster before ++
        (current.name, current.isDefault) :: bindingRoster after :=
    List.map_append
  have replaced : bindingRoster [updatedRow input id state now current] =
      [(input.name, input.isDefault)] := by
    simp only [bindingRoster, List.map_cons, List.map_nil, updatedRow,
      if_pos sameId]
  rw [whole] at names ⊢
  rw [bindingRoster_append] at newAbsent
  rw [put_split names newAbsent,
    savedRows_split found (fun row listed => otherIds row (early row listed))
      (fun row listed => otherIds row (late row listed)),
    bindingRoster_append, bindingRoster_append, replaced, clear_append,
    clearDefaults_roster
      (fun row listed => here row (around row (early row listed)))
      (fun row listed => otherIds row (early row listed)),
    clearDefaults_roster
      (fun row listed => here row (around row (late row listed)))
      (fun row listed => otherIds row (late row listed)),
    List.append_assoc, List.append_assoc]
  exact List.perm_append_comm.append_left _

end Rows

theorem savedRows_here
    {rows : List ServerBinding} {input : ServerBindingInput} {id : String}
    {deployment : Option ServerBindingDeploymentState} {now : Nat}
    (here : ∀ row ∈ rows, row.installationId = input.installationId ∧
      row.profileName = input.profileName) :
    ∀ row ∈ savedRows rows input id deployment now,
      row.installationId = input.installationId ∧
        row.profileName = input.profileName := by
  have cleared : ∀ row ∈ clearDefaults rows input id now,
      row.installationId = input.installationId ∧
        row.profileName = input.profileName := by
    intro row listed
    unfold clearDefaults at listed
    split at listed
    · obtain ⟨former, present, rfl⟩ := List.mem_map.mp listed
      have located := here former present
      unfold clearDefault
      split <;> exact located
    · exact here row listed
  intro row listed
  unfold savedRows at listed
  split at listed
  · rcases List.mem_append.mp listed with old | new
    · exact cleared row old
    · rw [List.mem_singleton.mp new]
      exact ⟨rfl, rfl⟩
  · obtain ⟨former, present, rfl⟩ := List.mem_map.mp listed
    have located := cleared former present
    unfold updatedRow
    split <;> exact located

theorem savedRows_ids
    {rows : List ServerBinding} {input : ServerBindingInput} {id : String}
    {deployment : Option ServerBindingDeploymentState} {now : Nat}
    (ids : (rows.map ServerBinding.id).Nodup) :
    ((savedRows rows input id deployment now).map
      ServerBinding.id).Nodup := by
  have cleared : (clearDefaults rows input id now).map ServerBinding.id =
      rows.map ServerBinding.id := by
    unfold clearDefaults
    split
    · rw [List.map_map]
      apply List.map_congr_left
      intro row _
      simp only [Function.comp, clearDefault]
      split <;> rfl
    · rfl
  unfold savedRows
  dsimp only
  split
  · rename_i unused
    rw [List.map_append, cleared, List.map_singleton]
    have absent : id ∉ rows.map ServerBinding.id := by
      intro listed
      obtain ⟨row, present, same⟩ := List.mem_map.mp listed
      exact ids_of_get_none unused row present same
    have distinct := ids.concat absent
    rwa [List.concat_eq_append] at distinct
  · rw [List.map_map]
    have same : (clearDefaults rows input id now).map
        (ServerBinding.id ∘ updatedRow input id deployment now) =
          rows.map ServerBinding.id := by
      rw [← cleared]
      apply List.map_congr_left
      intro row _
      simp only [Function.comp, updatedRow]
      split <;> rfl
    rw [same]
    exact ids

end GravitPanel.Servers
