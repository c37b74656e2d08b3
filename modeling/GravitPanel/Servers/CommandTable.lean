import GravitPanel.Servers.AgentStore

/-!
# The command table

What the updates of `server_commands` have in common, and what the two ordered
queries select.
-/

namespace GravitPanel.Servers

namespace ServerAgentStore

/-- An update of single rows that keeps what identifies a command and leaves a
finished command as it is. -/
structure RowUpdate (row : ServerCommand → ServerCommand) : Prop where
  id : ∀ command, (row command).id = command.id
  bindingId : ∀ command, (row command).bindingId = command.bindingId
  createdAt : ∀ command, (row command).createdAt = command.createdAt
  terminal : ∀ command, command.status.terminal → row command = command

theorem not_terminal_of_active {status : ServerCommandStatus}
    (active : status.active) : ¬ status.terminal := by
  cases status <;> simp_all [ServerCommandStatus.active,
    ServerCommandStatus.terminal]

theorem requeueRow_rowUpdate (bindingId : Option String) :
    RowUpdate (requeueRow bindingId) where
  id command := by unfold requeueRow; split <;> rfl
  bindingId command := by unfold requeueRow; split <;> rfl
  createdAt command := by unfold requeueRow; split <;> rfl
  terminal command terminal := by
    unfold requeueRow
    split
    · rename_i selected
      exact absurd terminal (not_terminal_of_active selected.1)
    · rfl

theorem deliveredRow_rowUpdate (id : String) (now : Nat) :
    RowUpdate (deliveredRow id now) where
  id command := by unfold deliveredRow; split <;> rfl
  bindingId command := by unfold deliveredRow; split <;> rfl
  createdAt command := by unfold deliveredRow; split <;> rfl
  terminal command terminal := by
    unfold deliveredRow
    split
    · rename_i selected
      rw [selected.2] at terminal
      cases terminal
    · rfl

theorem runningRow_rowUpdate (id : String) (now : Nat) :
    RowUpdate (runningRow id now) where
  id command := by unfold runningRow; split <;> rfl
  bindingId command := by unfold runningRow; split <;> rfl
  createdAt command := by unfold runningRow; split <;> rfl
  terminal command terminal := by
    unfold runningRow
    split
    · rename_i selected
      rcases selected.2 with queued | delivered
      · rw [queued] at terminal
        cases terminal
      · rw [delivered] at terminal
        cases terminal
    · rfl

theorem finishedRow_rowUpdate
    (id : String) (output error : Option String) (now : Nat) :
    RowUpdate (finishedRow id output error now) where
  id command := by unfold finishedRow; split <;> rfl
  bindingId command := by unfold finishedRow; split <;> rfl
  createdAt command := by unfold finishedRow; split <;> rfl
  terminal command terminal := by
    unfold finishedRow
    split
    · rename_i selected
      exact absurd terminal selected.2
    · rfl

variable {command : ServerCommand} {commands : List ServerCommand}
variable {bindingId : String}

theorem requeueRow_active {bindingId : Option String}
    (active : (requeueRow bindingId command).status.active) :
    command.status.active := by
  unfold requeueRow at active
  split at active
  · cases active
  · exact active

theorem requeueRow_idle
    (owned : command.bindingId = bindingId) :
    ¬ (requeueRow (some bindingId) command).status.active := by
  unfold requeueRow
  split
  · simp [ServerCommandStatus.active]
  · rename_i unselected
    intro active
    exact unselected ⟨active, .inr (congrArg some owned.symm)⟩

theorem requeueRow_none_idle (command : ServerCommand) :
    ¬ (requeueRow none command).status.active := by
  unfold requeueRow
  split
  · simp [ServerCommandStatus.active]
  · rename_i unselected
    intro active
    exact unselected ⟨active, .inl rfl⟩

theorem deliveredRow_active {id : String} {now : Nat}
    (active : (deliveredRow id now command).status.active) :
    command.id = id ∨ command.status.active := by
  unfold deliveredRow at active
  split at active
  · rename_i selected
    exact .inl selected.1
  · exact .inr active

theorem runningRow_active {id : String} {now : Nat}
    (active : (runningRow id now command).status.active) :
    command.id = id ∨ command.status.active := by
  unfold runningRow at active
  split at active
  · rename_i selected
    exact .inl selected.1
  · exact .inr active

theorem finishedRow_active {id : String} {output error : Option String}
    {now : Nat}
    (active : (finishedRow id output error now command).status.active) :
    command.status.active := by
  unfold finishedRow at active
  split at active
  · simp only at active
    split at active <;> cases active
  · exact active

theorem mem_byCreation
    :
    command ∈ byCreation commands ↔ command ∈ commands := by
  rw [byCreation, List.mem_insertionSort]

theorem mem_pendingRows
    :
    command ∈ pendingRows commands bindingId ↔
      command ∈ commands ∧ command.bindingId = bindingId ∧
        command.status = .queued := by
  simp [pendingRows, mem_byCreation, List.mem_filter]

theorem activeRow_eq_none
    :
    activeRow commands bindingId = none ↔
      ∀ command ∈ commands, command.bindingId = bindingId →
        ¬ command.status.active := by
  rw [activeRow, List.head?_eq_none_iff, List.eq_nil_iff_forall_not_mem]
  simp only [mem_byCreation, List.mem_filter, decide_eq_true_eq, not_and]

theorem pendingRows_head_le {commands rest : List ServerCommand}
    {first command : ServerCommand}
    (pending : pendingRows commands bindingId = first :: rest)
    (member : command ∈ commands) (owned : command.bindingId = bindingId)
    (queued : command.status = .queued) :
    first.createdAt ≤ command.createdAt := by
  have listed : command ∈ first :: rest := by
    rw [← pending]
    exact mem_pendingRows.mpr ⟨member, owned, queued⟩
  have sorted :
      (pendingRows commands bindingId).Pairwise fun earlier later =>
        earlier.createdAt ≤ later.createdAt :=
    List.pairwise_insertionSort _ _
  rw [pending, List.pairwise_cons] at sorted
  rcases List.mem_cons.mp listed with rfl | later
  · exact le_rfl
  · exact sorted.1 command later

end ServerAgentStore

end GravitPanel.Servers
