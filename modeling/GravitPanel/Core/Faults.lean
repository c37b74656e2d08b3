import GravitPanel.Core.Program

/-!
# Points at which a program may fail

Which points fail, and with which error, is a parameter.  A step fails at its
point before it changes anything.
-/

namespace GravitPanel.Program

universe u v

variable {State Error Value Result : Type u} {Point : Type v}

section Points

variable (faults : Point → Option Error)

def outcomeAt (point : Point) : Except Error PUnit :=
  match faults point with
  | none => .ok ⟨⟩
  | some problem => .error problem

def reach (point : Point) : Program State Error PUnit :=
  lift (outcomeAt faults point)

def reachAll : List Point → Program State Error PUnit
  | [] => pure ⟨⟩
  | point :: rest => do
      reach faults point
      reachAll rest

/-- Reach a point for each of so many items. -/
def reachEach (point : Nat → Point) (count : Nat) :
    Program State Error PUnit :=
  reachAll faults ((List.range count).map point)

/-- A step that fails at its point or changes the state. -/
def perform (point : Point) (change : State → State) :
    Program State Error PUnit := do
  reach faults point
  update change

end Points

section Ends

variable {faults : Point → Option Error}
variable {state final : State} {result : Result}
variable {point : Point} {next : PUnit → Program State Error Result}
variable {change : State → State}

theorem outcomeAt_eq_ok {value : PUnit} :
    outcomeAt faults point = .ok value ↔ faults point = none := by
  unfold outcomeAt
  cases faults point <;> simp

theorem outcomeAt_of_fault {problem : Error}
    (fault : faults point = some problem) :
    outcomeAt faults point = .error problem := by
  simp only [outcomeAt, fault]

theorem readOnly_reach (point : Point) :
    ReadOnly (reach faults point : Program State Error PUnit) :=
  readOnly_lift _

theorem reach_eq_ok {value : PUnit} :
    reach faults point state = (.ok value, final) ↔
      faults point = none ∧ state = final := by
  rw [reach, lift_apply, Prod.mk.injEq, outcomeAt_eq_ok]

theorem reach_bind_eq_ok
    :
    (reach faults point >>= next) state = (.ok result, final) ↔
      faults point = none ∧ next ⟨⟩ state = (.ok result, final) := by
  rw [reach, lift_bind_eq_ok]
  constructor
  · rintro ⟨value, clear, run⟩
    exact ⟨outcomeAt_eq_ok.mp clear, run⟩
  · rintro ⟨clear, run⟩
    exact ⟨⟨⟩, outcomeAt_eq_ok.mpr clear, run⟩

theorem readOnly_reachAll (points : List Point) :
    ReadOnly (reachAll faults points : Program State Error PUnit) := by
  induction points with
  | nil => exact readOnly_pure _
  | cons point rest ih =>
      exact (readOnly_reach point).bind fun _ => ih

theorem reachAll_bind_eq_ok
    {points : List Point} :
    (reachAll faults points >>= next) state = (.ok result, final) ↔
      (∀ point ∈ points, faults point = none) ∧
        next ⟨⟩ state = (.ok result, final) := by
  induction points with
  | nil => simp [reachAll, bind_apply]
  | cons point rest ih =>
      rw [reachAll, bind_bind, reach_bind_eq_ok, ih,
        List.forall_mem_cons, and_assoc]

theorem reachEach_bind_eq_ok
    {point : Nat → Point} {count : Nat}
    :
    (reachEach faults point count >>= next) state = (.ok result, final) ↔
      (∀ index < count, faults (point index) = none) ∧
        next ⟨⟩ state = (.ok result, final) := by
  rw [reachEach, reachAll_bind_eq_ok]
  simp only [List.forall_mem_map, List.mem_range]

theorem perform_eq_ok
    {value : PUnit} :
    perform faults point change state = (.ok value, final) ↔
      faults point = none ∧ change state = final := by
  rw [perform, reach_bind_eq_ok, update_apply, Prod.mk.injEq]
  exact and_congr_right fun _ => ⟨And.right, fun same => ⟨rfl, same⟩⟩

theorem perform_bind_eq_ok
    :
    (perform faults point change >>= next) state = (.ok result, final) ↔
      faults point = none ∧
        next ⟨⟩ (change state) = (.ok result, final) := by
  rw [perform, bind_bind, reach_bind_eq_ok]
  exact Iff.rfl

theorem ends_reach :
    Ends (reach faults point : Program State Error PUnit) state ↔
      faults point = none := by
  simp only [Ends, reach_eq_ok, exists_and_left, exists_const, exists_eq',
    and_true]

theorem ends_reach_bind
    :
    Ends (reach faults point >>= next) state ↔
      faults point = none ∧ Ends (next ⟨⟩) state := by
  simp only [Ends, reach_bind_eq_ok, exists_and_left]

theorem ends_perform_bind
    :
    Ends (perform faults point change >>= next) state ↔
      faults point = none ∧ Ends (next ⟨⟩) (change state) := by
  simp only [Ends, perform_bind_eq_ok, exists_and_left]

theorem ends_reachEach_bind
    {point : Nat → Point} {count : Nat}
    :
    Ends (reachEach faults point count >>= next) state ↔
      (∀ index < count, faults (point index) = none) ∧
        Ends (next ⟨⟩) state := by
  simp only [Ends, reachEach_bind_eq_ok, exists_and_left]

theorem ends_perform :
    Ends (perform faults point change) state ↔ faults point = none := by
  simp only [Ends, perform_eq_ok, exists_and_left, exists_const, exists_eq',
    and_true]

end Ends

section Throws

variable {faults : Point → Option Error}
variable {good : State → Prop} {state : State}
variable {point : Point} {next : PUnit → Program State Error Result}
variable {change : State → State}

theorem throwsInto_reach :
    ThrowsInto good (reach faults point) state ↔
      (faults point ≠ none → good state) := by
  rw [reach, throwsInto_lift]
  unfold outcomeAt
  cases faults point <;> simp

theorem throwsInto_reach_bind
    :
    ThrowsInto good (reach faults point >>= next) state ↔
      (faults point ≠ none → good state) ∧
        (faults point = none → ThrowsInto good (next ⟨⟩) state) := by
  rw [throwsInto_bind, throwsInto_reach]
  refine and_congr_right fun _ => ?_
  constructor
  · exact fun rest clear => rest ⟨⟩ state (reach_eq_ok.mpr ⟨clear, rfl⟩)
  · intro rest value reached run
    obtain ⟨clear, rfl⟩ := reach_eq_ok.mp run
    exact rest clear

theorem throwsInto_perform :
    ThrowsInto good (perform faults point change) state ↔
      (faults point ≠ none → good state) := by
  rw [perform, throwsInto_reach_bind]
  exact and_iff_left fun _ => throwsInto_update change

theorem atomic_perform (point : Point) (change : State → State) :
    Atomic (perform faults point change) := by
  rw [perform]
  refine (readOnly_reach point).bind_atomic fun _ => ?_
  intro state problem reached run
  cases run

theorem throwsInto_perform_bind
    :
    ThrowsInto good (perform faults point change >>= next) state ↔
      (faults point ≠ none → good state) ∧
        (faults point = none →
          ThrowsInto good (next ⟨⟩) (change state)) := by
  rw [perform, bind_bind]
  exact throwsInto_reach_bind

end Throws

end GravitPanel.Program
