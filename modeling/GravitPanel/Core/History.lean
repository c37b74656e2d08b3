import Mathlib.Data.List.Induction

/-!
# What still stands in a history

A history is the list of what happened, oldest first.  An event stands as long
as everything after it keeps it.
-/

namespace GravitPanel.History

universe u

variable {Event : Type u}

/-- The event happened, and every later one keeps it. -/
def Standing (keeps : Event → Prop) (event : Event) (history : List Event) :
    Prop :=
  ∃ before after,
    history = before ++ event :: after ∧ ∀ later ∈ after, keeps later

variable {keeps : Event → Prop} {event last : Event} {history : List Event}

@[simp]
theorem standing_nil : ¬ Standing keeps event [] := by
  rintro ⟨before, after, equality, _⟩
  simp at equality

theorem standing_concat :
    Standing keeps event (history ++ [last]) ↔
      last = event ∨ Standing keeps event history ∧ keeps last := by
  constructor
  · rintro ⟨before, after, equality, kept⟩
    rcases List.eq_nil_or_concat after with rfl | ⟨initial, final, rfl⟩
    · have ends := List.append_inj_right' equality rfl
      exact .inl (List.singleton_inj.mp ends)
    · rw [List.concat_eq_append] at kept equality
      rw [← List.cons_append, ← List.append_assoc] at equality
      obtain ⟨shape, ends⟩ := List.append_inj' equality rfl
      cases List.singleton_inj.mp ends
      refine .inr ⟨⟨before, initial, shape, ?_⟩, kept _ (by simp)⟩
      intro later member
      exact kept later (List.mem_append_left _ member)
  · rintro (rfl | ⟨⟨before, after, rfl, kept⟩, keepsLast⟩)
    · exact ⟨history, [], rfl, by simp⟩
    · refine ⟨before, after ++ [last], by simp, ?_⟩
      intro later member
      rcases List.mem_append.mp member with old | new
      · exact kept later old
      · rwa [List.mem_singleton.mp new]

theorem append_split
    {first second before after : List Event}
    (split : first ++ second = before ++ event :: after) :
    (∃ rest, first = before ++ event :: rest) ∨
      ∃ earlier, before = first ++ earlier ∧
        second = earlier ++ event :: after := by
  rcases List.append_eq_append_iff.mp split with
    ⟨earlier, beforeShape, secondShape⟩ | ⟨middle, firstShape, afterShape⟩
  · exact .inr ⟨earlier, beforeShape, secondShape⟩
  · cases middle with
    | nil =>
        refine .inr ⟨[], ?_, ?_⟩
        · simpa using firstShape.symm
        · simpa using afterShape.symm
    | cons head rest =>
        injection afterShape with headEquality restEquality
        subst headEquality
        exact .inl ⟨rest, firstShape⟩

end GravitPanel.History
