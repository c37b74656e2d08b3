import Mathlib.Data.List.Nodup
import Mathlib.Data.List.Perm.Basic

/-!
# Rosters with one flagged entry

A roster is a list of keys with flags.  It is sound when its keys are distinct
and exactly one entry of a nonempty roster is flagged.  Entries are put under a
new key or dropped; what it takes to stay sound is said for both.
-/

namespace GravitPanel

universe u

abbrev Roster (Key : Type u) := List (Key × Bool)

namespace Roster

variable {Key : Type u} {roster other before after : Roster Key}
variable {old new key : Key} {flag : Bool}

/-- Distinct keys, and one flag unless there are no entries. -/
structure Sound (roster : Roster Key) : Prop where
  keys : (roster.map Prod.fst).Nodup
  one : roster ≠ [] → roster.countP Prod.snd = 1

/-- A flag that is given to one entry is taken from the others. -/
def clear (flag : Bool) (roster : Roster Key) : Roster Key :=
  roster.map fun entry => (entry.1, entry.2 && !flag)

@[simp]
theorem clear_false (roster : Roster Key) : clear false roster = roster := by
  simp [clear]

@[simp]
theorem clear_append (flag : Bool) (first second : Roster Key) :
    clear flag (first ++ second) = clear flag first ++ clear flag second :=
  List.map_append

theorem clear_keys (flag : Bool) (roster : Roster Key) :
    (clear flag roster).map Prod.fst = roster.map Prod.fst := by
  simp [clear]

theorem countP_clear_true (roster : Roster Key) :
    (clear true roster).countP Prod.snd = 0 := by
  simp [clear]

theorem clear_of_unflagged (flag : Bool)
    (unflagged : roster.countP Prod.snd = 0) : clear flag roster = roster := by
  rw [List.countP_eq_zero] at unflagged
  unfold clear
  conv_rhs => rw [← List.map_id roster]
  apply List.map_congr_left
  rintro ⟨key, isFlagged⟩ member
  cases isFlagged with
  | false => rfl
  | true => exact absurd rfl (unflagged _ member)

theorem sound_nil : Sound ([] : Roster Key) :=
  ⟨.nil, fun nonempty => absurd rfl nonempty⟩

theorem Sound.perm (sound : Sound roster) (same : roster.Perm other) :
    Sound other where
  keys := (same.map Prod.fst).nodup sound.keys
  one nonempty := by
    rw [← same.countP_eq]
    apply sound.one
    rintro rfl
    exact nonempty same.nil_eq.symm

theorem Sound.flag_eq (sound : Sound roster) {first second : Bool}
    (here : (key, first) ∈ roster) (there : (key, second) ∈ roster) :
    first = second := by
  have equality : (key, first) = (key, second) :=
    List.inj_on_of_nodup_map sound.keys here there rfl
  exact congrArg Prod.snd equality

theorem absent_around {former : Bool}
    (keys : ((before ++ (key, former) :: after).map Prod.fst).Nodup) :
    key ∉ (before ++ after).map Prod.fst := by
  have moved := (List.perm_middle.map Prod.fst).nodup keys
  exact (List.nodup_cons.mp moved).1

theorem Sound.around_flag (sound : Sound (before ++ (key, true) :: after)) :
    (before ++ after).countP Prod.snd = 0 := by
  have one := sound.one (by simp)
  rw [List.countP_append, List.countP_cons, if_pos rfl] at one
  rw [List.countP_append]
  omega

theorem countP_filter_eq {keeps : Key × Bool → Bool}
    (flagged : ∀ entry ∈ roster, entry.2 = true → keeps entry = true) :
    (roster.filter keeps).countP Prod.snd = roster.countP Prod.snd := by
  rw [List.countP_filter]
  apply List.countP_congr
  intro entry member
  rw [Bool.and_eq_true]
  constructor
  · exact And.left
  · intro isFlagged
    exact ⟨isFlagged, flagged entry member isFlagged⟩

theorem Sound.countP_filter_zero (sound : Sound roster)
    {keeps : Key × Bool → Bool}
    (member : (key, true) ∈ roster) (removed : keeps (key, true) = false) :
    (roster.filter keeps).countP Prod.snd = 0 := by
  obtain ⟨before, after, rfl⟩ := List.append_of_mem member
  have around := sound.around_flag
  rw [List.filter_append, List.filter_cons, if_neg (by simp [removed]),
    ← List.filter_append]
  rw [List.countP_eq_zero] at around ⊢
  intro entry listed
  exact around entry (List.mem_of_mem_filter listed)

variable [DecidableEq Key]

def without (old new : Key) (roster : Roster Key) : Roster Key :=
  roster.filter fun entry => entry.1 ≠ old ∧ entry.1 ≠ new

/-- Replace the entry of the old key by one under the new key. -/
def put (old new : Key) (flag : Bool) (roster : Roster Key) : Roster Key :=
  clear flag (without old new roster) ++ [(new, flag)]

theorem put_perm (same : roster.Perm other) :
    (put old new flag roster).Perm (put old new flag other) :=
  ((same.filter _).map _).append_right _

theorem without_of_absent
    (oldAbsent : old ∉ roster.map Prod.fst)
    (newAbsent : new ∉ roster.map Prod.fst) :
    without old new roster = roster := by
  rw [without, List.filter_eq_self]
  intro entry listed
  rw [decide_eq_true_eq]
  refine ⟨?_, ?_⟩
  · rintro rfl
    exact oldAbsent (List.mem_map_of_mem listed)
  · rintro rfl
    exact newAbsent (List.mem_map_of_mem listed)

theorem put_absent (absent : new ∉ roster.map Prod.fst) :
    put new new flag roster = clear flag roster ++ [(new, flag)] := by
  rw [put, without_of_absent absent absent]

theorem put_split {former : Bool}
    (keys : ((before ++ (old, former) :: after).map Prod.fst).Nodup)
    (fresh : new ∉ (before ++ after).map Prod.fst) :
    put old new flag (before ++ (old, former) :: after) =
      clear flag (before ++ after) ++ [(new, flag)] := by
  have absent := absent_around keys
  have replaced :
      without old new (before ++ (old, former) :: after) =
        without old new (before ++ after) := by
    unfold without
    rw [List.filter_append, List.filter_cons, if_neg (by simp),
      List.filter_append]
  rw [put, replaced, without_of_absent absent fresh]

theorem put_keys_nodup (keys : (roster.map Prod.fst).Nodup) :
    ((put old new flag roster).map Prod.fst).Nodup := by
  rw [put, List.map_append, clear_keys]
  refine List.nodup_append.mpr
    ⟨keys.sublist (List.filter_sublist.map _), by simp, ?_⟩
  intro listed member last only same
  obtain ⟨entry, present, rfl⟩ := List.mem_map.mp member
  have kept := (List.mem_filter.mp present).2
  rw [decide_eq_true_eq] at kept
  exact kept.2 (same.trans (List.mem_singleton.mp only))

/-- An entry can be put anywhere with the flag, and without it as long as the
flagged entry is another one. -/
theorem Sound.put (sound : Sound roster)
    (keeps : flag = false →
      roster ≠ [] ∧ (old, true) ∉ roster ∧ (new, true) ∉ roster) :
    Sound (put old new flag roster) := by
  refine ⟨put_keys_nodup sound.keys, fun _ => ?_⟩
  cases flag with
  | true =>
      rw [Roster.put, List.countP_append, countP_clear_true]
      rfl
  | false =>
      obtain ⟨nonempty, oldUnflagged, newUnflagged⟩ := keeps rfl
      rw [Roster.put, clear_false, List.countP_append, without,
        countP_filter_eq, sound.one nonempty]
      · rfl
      · rintro ⟨listed, isFlagged⟩ member rfl
        rw [decide_eq_true_eq]
        refine ⟨?_, ?_⟩
        · rintro rfl
          exact oldUnflagged member
        · rintro rfl
          exact newUnflagged member

theorem Sound.countP_put_zero (sound : Sound roster)
    (flagged : (old, true) ∈ roster) :
    (Roster.put old new false roster).countP Prod.snd = 0 := by
  have none : (without old new roster).countP Prod.snd = 0 :=
    sound.countP_filter_zero flagged (by simp)
  rw [Roster.put, clear_false, List.countP_append, none]
  rfl

theorem Sound.put_self (sound : Sound roster)
    (member : (key, flag) ∈ roster) :
    (Roster.put key key flag roster).Perm roster := by
  obtain ⟨before, after, rfl⟩ := List.append_of_mem member
  have keys := sound.keys
  have absent := absent_around keys
  have unflagged : clear flag (before ++ after) = before ++ after := by
    cases flag with
    | false => exact clear_false _
    | true => exact clear_of_unflagged _ sound.around_flag
  rw [put_split keys absent, unflagged]
  exact (List.perm_append_singleton _ _).trans List.perm_middle.symm

def drop (key : Key) (roster : Roster Key) : Roster Key :=
  roster.filter fun entry => entry.1 ≠ key

theorem drop_perm (same : roster.Perm other) :
    (drop key roster).Perm (drop key other) :=
  same.filter _

theorem Sound.drop (sound : Sound roster)
    (keeps : (key, true) ∈ roster → drop key roster = []) :
    Sound (Roster.drop key roster) := by
  refine ⟨sound.keys.sublist (List.filter_sublist.map _), ?_⟩
  intro nonempty
  have unflagged : (key, true) ∉ roster := fun member =>
    nonempty (keeps member)
  rw [Roster.drop, countP_filter_eq]
  · apply sound.one
    rintro rfl
    exact nonempty rfl
  · rintro ⟨listed, isFlagged⟩ member rfl
    rw [decide_eq_true_eq]
    rintro rfl
    exact unflagged member

theorem Sound.countP_drop_zero (sound : Sound roster)
    (flagged : (key, true) ∈ roster) :
    (Roster.drop key roster).countP Prod.snd = 0 :=
  sound.countP_filter_zero flagged (by simp)

end Roster

end GravitPanel
