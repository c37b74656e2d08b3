import Mathlib.Data.List.Nodup

/-!
# Dictionaries

Maps with finitely many keys, kept as a list of entries with distinct keys.
The order of the entries is the one in which their keys were last stored.
-/

namespace GravitPanel

structure Dictionary (Key Value : Type) where
  entries : List (Key × Value)
  distinct : (entries.map Prod.fst).Nodup

namespace Dictionary

variable {Key Value : Type}

instance : Membership (Key × Value) (Dictionary Key Value) where
  mem dictionary entry := entry ∈ dictionary.entries

def empty : Dictionary Key Value :=
  ⟨[], List.nodup_nil⟩

def keys (dictionary : Dictionary Key Value) : List Key :=
  dictionary.entries.map Prod.fst

/-- The dictionary without the entries that meet a condition. -/
def removeIf
    (condition : Key × Value → Bool) (dictionary : Dictionary Key Value) :
    Dictionary Key Value where
  entries := dictionary.entries.filter fun entry => !condition entry
  distinct :=
    (List.filter_sublist.map Prod.fst).nodup dictionary.distinct

@[simp]
theorem not_mem_empty {entry : Key × Value} :
    entry ∉ (empty : Dictionary Key Value) :=
  List.not_mem_nil

@[simp]
theorem mem_removeIf
    {condition : Key × Value → Bool} {dictionary : Dictionary Key Value}
    {entry : Key × Value} :
    entry ∈ dictionary.removeIf condition ↔
      entry ∈ dictionary ∧ condition entry = false := by
  have filtered : entry ∈ dictionary.entries.filter
        (fun entry => !condition entry) ↔
      entry ∈ dictionary.entries ∧ (!condition entry) = true :=
    List.mem_filter
  rw [Bool.not_eq_true'] at filtered
  exact filtered

theorem value_unique
    {dictionary : Dictionary Key Value} {key : Key} {first second : Value}
    (one : (key, first) ∈ dictionary) (other : (key, second) ∈ dictionary) :
    first = second := by
  have same : (key, first) = (key, second) :=
    List.inj_on_of_nodup_map dictionary.distinct one other rfl
  exact (Prod.mk.inj same).2

section Keys

variable [DecidableEq Key]

def get (key : Key) (dictionary : Dictionary Key Value) : Option Value :=
  (dictionary.entries.find? fun entry => entry.1 = key).map Prod.snd

def remove (key : Key) (dictionary : Dictionary Key Value) :
    Dictionary Key Value :=
  dictionary.removeIf fun entry => entry.1 = key

variable {dictionary : Dictionary Key Value}

theorem mem_remove
    {key : Key} {entry : Key × Value} :
    entry ∈ dictionary.remove key ↔ entry ∈ dictionary ∧ entry.1 ≠ key := by
  unfold remove
  rw [mem_removeIf, decide_eq_false_iff_not]

def put (key : Key) (value : Value) (dictionary : Dictionary Key Value) :
    Dictionary Key Value where
  entries := (dictionary.remove key).entries ++ [(key, value)]
  distinct := by
    have absent : key ∉ (dictionary.remove key).entries.map Prod.fst := by
      intro member
      obtain ⟨entry, kept, same⟩ := List.mem_map.mp member
      exact (mem_remove.mp kept).2 same
    rw [List.map_append, List.map_singleton, ← List.concat_eq_append]
    exact List.Nodup.concat absent (dictionary.remove key).distinct

theorem mem_put
    {key : Key} {value : Value}
    {entry : Key × Value} :
    entry ∈ dictionary.put key value ↔
      entry = (key, value) ∨ entry ∈ dictionary ∧ entry.1 ≠ key := by
  have appended : entry ∈ (dictionary.remove key).entries ++ [(key, value)] ↔
      entry ∈ dictionary.remove key ∨ entry ∈ [(key, value)] :=
    List.mem_append
  rw [mem_remove, List.mem_singleton, or_comm] at appended
  exact appended

theorem get_eq_some
    {key : Key} {value : Value} :
    dictionary.get key = some value ↔ (key, value) ∈ dictionary := by
  unfold get
  constructor
  · intro found
    obtain ⟨⟨stored, _⟩, first, rfl⟩ := Option.map_eq_some_iff.mp found
    have same : stored = key := by
      simpa using List.find?_some first
    subst same
    exact List.mem_of_find?_eq_some first
  · intro member
    cases found : dictionary.entries.find? fun entry => entry.1 = key with
    | none =>
        have different := List.find?_eq_none.mp found _ member
        simp at different
    | some entry =>
        obtain ⟨stored, other⟩ := entry
        have same : stored = key := by
          simpa using List.find?_some found
        subst same
        have unique := value_unique (List.mem_of_find?_eq_some found) member
        rw [Option.map_some, unique]

theorem get_eq_none {key : Key} :
    dictionary.get key = none ↔ ∀ entry ∈ dictionary, entry.1 ≠ key := by
  constructor
  · rintro absent ⟨stored, value⟩ member rfl
    rw [get_eq_some.mpr member] at absent
    cases absent
  · intro different
    cases found : dictionary.get key with
    | none => rfl
    | some value =>
        exact absurd rfl (different _ (get_eq_some.mp found))

theorem get_removeIf
    (condition : Key × Value → Bool) (dictionary : Dictionary Key Value)
    (key : Key) :
    (dictionary.removeIf condition).get key =
      (dictionary.get key).filter fun value => !condition (key, value) := by
  ext value
  rw [get_eq_some, mem_removeIf, Option.filter_eq_some_iff, get_eq_some,
    Bool.not_eq_true']

theorem get_remove
    (key other : Key) (dictionary : Dictionary Key Value) :
    (dictionary.remove key).get other =
      if other = key then none else dictionary.get other := by
  ext found
  rw [get_eq_some, mem_remove]
  by_cases same : other = key
  · simp [same]
  · simp [same, get_eq_some]

theorem get_put
    (key other : Key) (value : Value) (dictionary : Dictionary Key Value) :
    (dictionary.put key value).get other =
      if other = key then some value else dictionary.get other := by
  ext found
  rw [get_eq_some, mem_put]
  by_cases same : other = key
  · simp [same, eq_comm]
  · simp [same, get_eq_some]

end Keys

end Dictionary

end GravitPanel
