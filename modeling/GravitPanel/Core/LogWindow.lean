import Mathlib.Data.List.Infix
import Mathlib.Data.List.Sort

/-!
# Followers of a log

A log only grows, and its items have increasing keys.  A follower shows the
newest items of a part of it.  It is sent the newest items of the whole log when
it connects and every item that is appended from then on; a connection may break
at any time, and then what was on its way is lost.
-/

namespace GravitPanel.LogWindow

universe u v

variable {Item : Type u}

def newest (count : Nat) (items : List Item) : List Item :=
  items.drop (items.length - count)

section Newest

variable {count : Nat} {first second items : List Item}

theorem newest_suffix (count : Nat) (items : List Item) :
    newest count items <:+ items :=
  List.drop_suffix _ _

theorem length_newest (count : Nat) (items : List Item) :
    (newest count items).length = min count items.length := by
  rw [newest, List.length_drop]
  omega

theorem newest_of_length_le (short : items.length ≤ count) :
    newest count items = items := by
  rw [newest, Nat.sub_eq_zero_of_le short, List.drop_zero]

theorem newest_append_of_le (long : count ≤ second.length) :
    newest count (first ++ second) = newest count second := by
  have position : (first ++ second).length - count =
      first.length + (second.length - count) := by
    rw [List.length_append]
    omega
  rw [newest, position, List.drop_append, newest]
  have past : first.length + (second.length - count) - first.length =
      second.length - count := by omega
  rw [past, List.drop_eq_nil_of_le (Nat.le_add_right _ _), List.nil_append]

theorem newest_newest_append (count : Nat) (first second : List Item) :
    newest count (newest count first ++ second) =
      newest count (first ++ second) := by
  obtain ⟨older, split⟩ := newest_suffix count first
  by_cases short : first.length ≤ count
  · rw [newest_of_length_le short]
  · have long : count ≤ (newest count first ++ second).length := by
      rw [List.length_append, length_newest]
      omega
    rw [← split, List.append_assoc, split, newest_append_of_le long]

theorem suffix_newest (suffix : first <:+ items)
    (short : first.length ≤ count) :
    first <:+ newest count items := by
  refine List.suffix_of_suffix_length_le suffix (newest_suffix count items) ?_
  rw [length_newest]
  exact Nat.le_min.mpr ⟨short, suffix.length_le⟩

end Newest

section Merge

variable {Key : Type v} [LinearOrder Key] (key : Item → Key)

def Increasing (items : List Item) : Prop :=
  items.Pairwise fun earlier later => key earlier < key later

def sorted (items : List Item) : List Item :=
  items.insertionSort fun left right => key left ≤ key right

/-- The items of a batch whose keys the window does not have. -/
def additions (window batch : List Item) : List Item :=
  batch.filter fun item => !window.any fun other => key other = key item

/-- A batch without additions changes nothing. -/
def merge (count : Nat) (window batch : List Item) : List Item :=
  if additions key window batch = [] then
    window
  else
    newest count (sorted key (window ++ additions key window batch))

variable {key} {count : Nat} {shown rest batch items window : List Item}

theorem sorted_of_increasing (increasing : Increasing key items) :
    sorted key items = items :=
  List.Pairwise.insertionSort_eq (increasing.imp le_of_lt)

theorem additions_append (window first second : List Item) :
    additions key window (first ++ second) =
      additions key window first ++ additions key window second :=
  List.filter_append _ _

theorem additions_of_subset (subset : ∀ item ∈ batch, item ∈ window) :
    additions key window batch = [] := by
  refine List.filter_eq_nil_iff.mpr fun item member => ?_
  rw [Bool.not_eq_true', Bool.not_eq_false, List.any_eq_true]
  exact ⟨item, subset item member, decide_eq_true rfl⟩

theorem additions_of_increasing
    (increasing : Increasing key (window ++ batch)) :
    additions key window batch = batch := by
  obtain ⟨-, -, apart⟩ := List.pairwise_append.mp increasing
  refine List.filter_eq_self.mpr fun item member => ?_
  rw [Bool.not_eq_true', List.any_eq_false]
  intro other present
  rw [decide_eq_true_iff]
  exact ne_of_lt (apart other present item member)

theorem merge_of_nil (none : additions key window batch = []) :
    merge key count window batch = window :=
  if_pos none

theorem merge_of_ne_nil (some : additions key window batch ≠ []) :
    merge key count window batch =
      newest count (sorted key (window ++ additions key window batch)) :=
  if_neg some

theorem merge_eq (increasing : Increasing key window)
    (short : window.length ≤ count) (batch : List Item) :
    merge key count window batch =
      newest count (sorted key (window ++ additions key window batch)) := by
  by_cases none : additions key window batch = []
  · rw [merge_of_nil none, none, List.append_nil,
      sorted_of_increasing increasing, newest_of_length_le short]
  · exact merge_of_ne_nil none

/-- A batch at the end of a longer log that has all that was appended, or as
many items as the window can hold. -/
theorem merge_newest (increasing : Increasing key (shown ++ rest))
    (suffix : batch <:+ shown ++ rest) (short : batch.length ≤ count)
    (covers : rest <:+ batch ∨ count ≤ batch.length) :
    merge key count (newest count shown) batch =
      newest count (shown ++ rest) := by
  obtain ⟨older, split⟩ := newest_suffix count shown
  have later : Increasing key (newest count shown ++ rest) := by
    rw [← split, List.append_assoc] at increasing
    exact (List.pairwise_append.mp increasing).2.1
  have bounded : (newest count shown).length ≤ count := by
    rw [length_newest]
    exact Nat.min_le_left _ _
  rw [merge_eq (List.pairwise_append.mp later).1 bounded]
  rcases List.suffix_or_suffix_of_suffix suffix
    (List.suffix_append shown rest) with inside | outside
  · have appended : Increasing key (newest count shown ++ batch) :=
      later.sublist (inside.sublist.append_left _)
    rw [additions_of_increasing appended, sorted_of_increasing appended]
    rcases covers with all | many
    · have same := inside.eq_of_length_le all.length_le
      rw [same, newest_newest_append]
    · obtain ⟨front, whole⟩ := suffix
      rw [newest_append_of_le many, ← whole, newest_append_of_le many]
  · obtain ⟨repeated, rfl⟩ := outside
    have old : repeated <:+ newest count shown := by
      refine suffix_newest ?_ ?_
      · obtain ⟨front, whole⟩ := suffix
        rw [← List.append_assoc] at whole
        exact ⟨front, List.append_cancel_right whole⟩
      · rw [List.length_append] at short
        omega
    rw [additions_append, additions_of_subset fun item member =>
      old.subset member, List.nil_append]
    rw [additions_of_increasing later, sorted_of_increasing later,
      newest_newest_append]

theorem merge_history (increasing : Increasing key (shown ++ rest)) :
    merge key count (newest count shown) (newest count (shown ++ rest)) =
      newest count (shown ++ rest) := by
  have length := length_newest count (shown ++ rest)
  refine merge_newest increasing (newest_suffix _ _) (by omega) ?_
  by_cases many : count ≤ (newest count (shown ++ rest)).length
  · exact .inr many
  · refine .inl ?_
    rw [newest_of_length_le (by omega)]
    exact List.suffix_append shown rest

theorem merge_item {item : Item} (positive : 0 < count)
    (increasing : Increasing key (shown ++ [item])) :
    merge key count (newest count shown) [item] =
      newest count (shown ++ [item]) :=
  merge_newest increasing (List.suffix_append shown [item]) positive
    (.inl (List.suffix_refl _))

end Merge

inductive Message (Item : Type u) where
  | history (items : List Item)
  | item (item : Item)
  deriving DecidableEq, Repr

/-- What a follower shows after the messages that are on their way. -/
def Leads (count : Nat) :
    List Item → List (Message Item) → List Item → Prop
  | shown, [], reached => shown = reached
  | shown, .history items :: rest, reached =>
      ∃ log, shown <+: log ∧ items = newest count log ∧
        Leads count log rest reached
  | shown, .item item :: rest, reached =>
      Leads count (shown ++ [item]) rest reached

/-- What is on its way, and whether items that are appended follow it. -/
structure Link (Item : Type u) where
  messages : List (Message Item)
  subscribed : Bool

/-- A follower shows a part of the log; what is on its way leads further, and a
subscription leads to its end. -/
structure Follows (count : Nat) (log shown : List Item)
    (link : Option (Link Item)) : Prop where
  part : shown <+: log
  leads : ∀ current, link = some current → ∃ reached,
    Leads count shown current.messages reached ∧ reached <+: log ∧
      (current.subscribed = true → reached = log)

section Follows

variable {count : Nat} {log shown reached : List Item} {item : Item}
variable {messages : List (Message Item)} {subscribed : Bool}
variable {link : Option (Link Item)}

theorem Leads.append
    (leads : Leads count shown messages reached) (item : Item) :
    Leads count shown (messages ++ [.item item]) (reached ++ [item]) := by
  induction messages generalizing shown with
  | nil =>
      cases leads
      exact rfl
  | cons first rest ih =>
      cases first with
      | history items =>
          obtain ⟨log, part, same, later⟩ := leads
          exact ⟨log, part, same, ih later⟩
      | item first => exact ih leads

theorem Follows.disconnected (part : shown <+: log) :
    Follows count log shown none :=
  ⟨part, fun current absent => by cases absent⟩

theorem Follows.drop (follows : Follows count log shown link)
    {longer : List Item} (grown : log <+: longer) :
    Follows count longer shown none :=
  .disconnected (follows.part.trans grown)

theorem Follows.connect (part : shown <+: log) (subscribed : Bool) :
    Follows count log shown
      (some ⟨[.history (newest count log)], subscribed⟩) where
  part := part
  leads current same := by
    cases same
    exact ⟨log, ⟨log, part, rfl, rfl⟩, List.prefix_refl log, fun _ => rfl⟩

theorem Follows.publish
    (follows : Follows count log shown (some ⟨messages, subscribed⟩))
    (live : subscribed = true) (item : Item) (still : Bool) :
    Follows count (log ++ [item]) shown
      (some ⟨messages ++ [.item item], still⟩) where
  part := follows.part.trans (List.prefix_append log [item])
  leads current same := by
    cases same
    obtain ⟨reached, leads, -, all⟩ := follows.leads _ rfl
    cases all live
    exact ⟨_, leads.append item, List.prefix_refl _, fun _ => rfl⟩

theorem Follows.grow {longer : List Item}
    (follows : Follows count log shown (some ⟨messages, subscribed⟩))
    (grown : log <+: longer) :
    Follows count longer shown (some ⟨messages, false⟩) where
  part := follows.part.trans grown
  leads current same := by
    cases same
    obtain ⟨reached, leads, inside, -⟩ := follows.leads _ rfl
    exact ⟨reached, leads, inside.trans grown, fun absurdity => by
      cases absurdity⟩

theorem Leads.part (leads : Leads count shown messages reached) :
    shown <+: reached := by
  induction messages generalizing shown with
  | nil =>
      cases leads
      exact List.prefix_refl _
  | cons first rest ih =>
      cases first with
      | history items =>
          obtain ⟨log, part, -, later⟩ := leads
          exact part.trans (ih later)
      | item first =>
          exact (List.prefix_append shown [first]).trans
            (ih leads)

theorem Follows.history {items : List Item}
    (follows : Follows count log shown
      (some ⟨.history items :: messages, subscribed⟩)) :
    ∃ rest, items = newest count (shown ++ rest) ∧
      Follows count log (shown ++ rest) (some ⟨messages, subscribed⟩) := by
  obtain ⟨reached, ⟨sent, ⟨rest, rfl⟩, same, leads⟩, inside, all⟩ :=
    follows.leads _ rfl
  refine ⟨rest, same, leads.part.trans inside, ?_⟩
  intro current equal
  cases equal
  exact ⟨reached, leads, inside, all⟩

theorem Follows.appended
    (follows : Follows count log shown
      (some ⟨.item item :: messages, subscribed⟩)) :
    Follows count log (shown ++ [item]) (some ⟨messages, subscribed⟩) := by
  obtain ⟨reached, leads, inside, all⟩ := follows.leads _ rfl
  have later : Leads count (shown ++ [item]) messages reached := leads
  refine ⟨later.part.trans inside, ?_⟩
  intro current equal
  cases equal
  exact ⟨reached, later, inside, all⟩

theorem Follows.complete
    (follows : Follows count log shown (some ⟨[], true⟩)) : shown = log := by
  obtain ⟨reached, leads, -, all⟩ := follows.leads _ rfl
  cases leads
  exact all rfl

end Follows

end GravitPanel.LogWindow
