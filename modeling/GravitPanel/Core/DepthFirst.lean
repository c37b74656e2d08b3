import Mathlib.Logic.Relation
import Mathlib.Data.List.Nodup

/-!
# Depth-first search

A search from a list of nodes along the successors of each node.  It keeps the
nodes that it has visited, and puts out a node after the search of its
successors.
-/

namespace GravitPanel.DepthFirst

universe u

variable {Node : Type u}

/-- The nodes visited so far, and those put out in their order. -/
structure Search (Node : Type u) where
  visited : List Node
  output : List Node

namespace Search

def start : Search Node := ⟨[], []⟩

def visit (node : Node) (search : Search Node) : Search Node :=
  { search with visited := node :: search.visited }

def emit (emits : Bool) (node : Node) (search : Search Node) :
    Search Node :=
  if emits then { search with output := search.output ++ [node] } else search

@[simp]
theorem visited_visit (node : Node) (search : Search Node) :
    (search.visit node).visited = node :: search.visited := rfl

@[simp]
theorem output_visit (node : Node) (search : Search Node) :
    (search.visit node).output = search.output := rfl

@[simp]
theorem visited_emit (emits : Bool) (node : Node) (search : Search Node) :
    (search.emit emits node).visited = search.visited := by
  cases emits <;> rfl

theorem output_emit (emits : Bool) (node : Node) (search : Search Node) :
    (search.emit emits node).output =
      search.output ++ if emits then [node] else [] := by
  cases emits with
  | true => rfl
  | false => exact (List.append_nil _).symm

end Search

/-- One item stands before another one. -/
def Precedes (first second : Node) (items : List Node) : Prop :=
  ∃ before after, items = before ++ first :: after ∧ second ∈ after

variable {first second : Node}

theorem Precedes.append_left {items : List Node}
    (order : Precedes first second items) (others : List Node) :
    Precedes first second (others ++ items) := by
  obtain ⟨before, after, shape, member⟩ := order
  exact ⟨others ++ before, after, by rw [shape, List.append_assoc], member⟩

theorem Precedes.append_right {items : List Node}
    (order : Precedes first second items) (others : List Node) :
    Precedes first second (items ++ others) := by
  obtain ⟨before, after, shape, member⟩ := order
  refine ⟨before, after ++ others, ?_, List.mem_append_left _ member⟩
  rw [shape, List.append_assoc, List.cons_append]

theorem precedes_append {items others : List Node}
    (member : first ∈ items) (otherMember : second ∈ others) :
    Precedes first second (items ++ others) := by
  obtain ⟨before, after, shape⟩ := List.append_of_mem member
  refine ⟨before, after ++ others, ?_, List.mem_append_right _ otherMember⟩
  rw [shape, List.append_assoc, List.cons_append]

theorem Precedes.map {Image : Type u} (image : Node → Image)
    {items : List Node}
    (order : Precedes first second items) :
    Precedes (image first) (image second) (items.map image) := by
  obtain ⟨before, after, shape, member⟩ := order
  refine ⟨before.map image, after.map image, ?_, List.mem_map_of_mem member⟩
  rw [shape, List.map_append, List.map_cons]

section Explores

variable (successors : Node → List Node) (emits : Node → Bool)

/-- The search of some nodes, one after the other. -/
inductive Explores : List Node → Search Node → Search Node → Prop where
  | done (search : Search Node) : Explores [] search search
  | seen {node : Node} {rest : List Node} {search final : Search Node}
      (visited : node ∈ search.visited)
      (later : Explores rest search final) :
      Explores (node :: rest) search final
  | fresh {node : Node} {rest : List Node}
      {search inner final : Search Node}
      (unvisited : node ∉ search.visited)
      (below : Explores (successors node) (search.visit node) inner)
      (later : Explores rest (inner.emit (emits node) node) final) :
      Explores (node :: rest) search final

def Leads (node next : Node) : Prop :=
  next ∈ successors node

variable {successors emits}
variable {todo : List Node} {search final : Search Node}

theorem Explores.append {first second : List Node}
    {middle : Search Node}
    (before : Explores successors emits first search middle)
    (after : Explores successors emits second middle final) :
    Explores successors emits (first ++ second) search final := by
  induction before with
  | done search => exact after
  | seen visited _ ih =>
      exact .seen visited (ih after)
  | fresh unvisited below _ _ ih =>
      exact .fresh unvisited below (ih after)

theorem Explores.visited
    (explores : Explores successors emits todo search final) :
    search.visited ⊆ final.visited ∧ todo ⊆ final.visited := by
  induction explores with
  | done search =>
      exact ⟨fun _ member => member,
        fun _ member => absurd member List.not_mem_nil⟩
  | seen visited _ ih =>
      obtain ⟨kept, all⟩ := ih
      exact ⟨kept, List.cons_subset.mpr ⟨kept visited, all⟩⟩
  | @fresh node rest search inner final _ _ _ belowHypothesis
      laterHypothesis =>
      obtain ⟨keptBelow, -⟩ := belowHypothesis
      obtain ⟨keptLater, all⟩ := laterHypothesis
      rw [Search.visited_emit] at keptLater
      have here : node ∈ final.visited :=
        keptLater (keptBelow List.mem_cons_self)
      refine ⟨fun other member => ?_, List.cons_subset.mpr ⟨here, all⟩⟩
      exact keptLater (keptBelow (List.mem_cons_of_mem _ member))

theorem Explores.reached
    (explores : Explores successors emits todo search final)
    {node : Node} (visited : node ∈ final.visited)
    (unvisited : node ∉ search.visited) :
    ∃ origin ∈ todo, Relation.ReflTransGen (Leads successors) origin node := by
  induction explores with
  | done search => exact absurd visited unvisited
  | seen _ _ ih =>
      obtain ⟨origin, member, path⟩ := ih visited unvisited
      exact ⟨origin, List.mem_cons_of_mem _ member, path⟩
  | @fresh first rest search inner final _ _ _ belowHypothesis
      laterHypothesis =>
      by_cases inside : node ∈ inner.visited
      · by_cases same : node = first
        · rw [same]
          exact ⟨first, List.mem_cons_self, .refl⟩
        · have outside : node ∉ (search.visit first).visited :=
            fun member => (List.mem_cons.mp member).elim same unvisited
          obtain ⟨origin, member, path⟩ := belowHypothesis inside outside
          exact ⟨first, List.mem_cons_self, .head member path⟩
      · have outside : node ∉
            (inner.emit (emits first) first).visited := by
          rw [Search.visited_emit]
          exact inside
        obtain ⟨origin, member, path⟩ := laterHypothesis visited outside
        exact ⟨origin, List.mem_cons_of_mem _ member, path⟩

theorem Explores.closed
    (explores : Explores successors emits todo search final)
    {node next : Node} (visited : node ∈ final.visited)
    (unvisited : node ∉ search.visited) (leads : Leads successors node next) :
    next ∈ final.visited := by
  induction explores with
  | done search => exact absurd visited unvisited
  | seen _ _ ih =>
      exact ih visited unvisited
  | @fresh first rest search inner final _ below later belowHypothesis
      laterHypothesis =>
      have kept := later.visited.1
      rw [Search.visited_emit] at kept
      by_cases inside : node ∈ inner.visited
      · by_cases same : node = first
        · rw [same] at leads
          exact kept (below.visited.2 leads)
        · have outside : node ∉ (search.visit first).visited :=
            fun member => (List.mem_cons.mp member).elim same unvisited
          exact kept (belowHypothesis inside outside)
      · have outside : node ∉
            (inner.emit (emits first) first).visited := by
          rw [Search.visited_emit]
          exact inside
        exact laterHypothesis visited outside

/-- The new output: each newly visited node that is emitted, once, and after
its successors unless one of them leads back to it. -/
structure Emits (successors : Node → List Node) (emits : Node → Bool)
    (search final : Search Node) (added : List Node) : Prop where
  output : final.output = search.output ++ added
  distinct : added.Nodup
  mem_iff : ∀ node, node ∈ added ↔
    node ∈ final.visited ∧ node ∉ search.visited ∧ emits node = true
  order : ∀ node ∈ added, ∀ next, Leads successors node next →
    emits next = true → next ∈ search.visited ∨ Precedes next node added ∨
      Relation.ReflTransGen (Leads successors) next node

section Emits

variable {node : Node} {inner : Search Node} {inside outside : List Node}

/-- The output of a node itself. -/
def own (emits : Node → Bool) (node : Node) : List Node :=
  if emits node then [node] else []

theorem mem_own {emits : Node → Bool} {other : Node} :
    other ∈ own emits node ↔ other = node ∧ emits node = true := by
  unfold own
  cases emits node with
  | true =>
      rw [if_pos rfl, List.mem_singleton]
      exact (and_iff_left rfl).symm
  | false =>
      rw [if_neg Bool.false_ne_true]
      exact ⟨fun none => absurd none List.not_mem_nil,
        fun holds => absurd holds.2 Bool.false_ne_true⟩

theorem Emits.mem_iff_visited
    (below : Emits successors emits (search.visit node) inner inside)
    (later : Emits successors emits (inner.emit (emits node) node) final
      outside)
    (unvisited : node ∉ search.visited)
    (kept : inner.visited ⊆ final.visited) (here : node ∈ inner.visited)
    (keptBelow : search.visited ⊆ inner.visited) (other : Node) :
    other ∈ inside ++ own emits node ++ outside ↔
      other ∈ final.visited ∧ other ∉ search.visited ∧
        emits other = true := by
  rw [List.mem_append, List.mem_append, below.mem_iff, later.mem_iff,
    mem_own, Search.visited_emit, Search.visited_visit, List.mem_cons, not_or]
  constructor
  · rintro ((⟨visited, ⟨-, fresh⟩, emitted⟩ | ⟨rfl, emitted⟩) |
      ⟨visited, fresh, emitted⟩)
    · exact ⟨kept visited, fresh, emitted⟩
    · exact ⟨kept here, unvisited, emitted⟩
    · exact ⟨visited, fun before => fresh (keptBelow before), emitted⟩
  · rintro ⟨visited, fresh, emitted⟩
    by_cases within : other ∈ inner.visited
    · by_cases same : other = node
      · rw [same] at emitted
        exact .inl (.inr ⟨same, emitted⟩)
      · exact .inl (.inl ⟨within, ⟨same, fresh⟩, emitted⟩)
    · exact .inr ⟨visited, within, emitted⟩

theorem Emits.nodup_own
    (below : Emits successors emits (search.visit node) inner inside)
    (later : Emits successors emits (inner.emit (emits node) node) final
      outside)
    (here : node ∈ inner.visited) :
    (inside ++ own emits node ++ outside).Nodup := by
  rw [List.nodup_append, List.nodup_append]
  refine ⟨⟨below.distinct, ?_, ?_⟩, later.distinct, ?_⟩
  · unfold own
    split
    · exact List.nodup_singleton _
    · exact List.nodup_nil
  · intro first member second owned same
    have fresh := ((below.mem_iff first).mp member).2.1
    rw [same, (mem_own.mp owned).1] at fresh
    exact fresh List.mem_cons_self
  · intro first member second further same
    have fresh := ((later.mem_iff second).mp further).2.1
    rw [Search.visited_emit, ← same] at fresh
    rcases List.mem_append.mp member with within | owned
    · exact fresh ((below.mem_iff first).mp within).1
    · rw [(mem_own.mp owned).1] at fresh
      exact fresh here

theorem Explores.emitted
    (explores : Explores successors emits todo search final) :
    ∃ added, Emits successors emits search final added := by
  induction explores with
  | done search =>
      refine ⟨[], (List.append_nil _).symm, List.nodup_nil, fun node => ?_,
        fun _ none => absurd none List.not_mem_nil⟩
      constructor
      · exact fun none => absurd none List.not_mem_nil
      · exact fun holds => absurd holds.1 holds.2.1
  | seen _ _ ih => exact ih
  | @fresh first rest search inner final unvisited below later
      belowHypothesis laterHypothesis =>
      obtain ⟨inside, belowEmits⟩ := belowHypothesis
      obtain ⟨outside, laterEmits⟩ := laterHypothesis
      have kept := later.visited.1
      rw [Search.visited_emit] at kept
      have here : first ∈ inner.visited := below.visited.1 List.mem_cons_self
      have keptBelow : search.visited ⊆ inner.visited := fun node member =>
        below.visited.1 (List.mem_cons_of_mem _ member)
      refine ⟨inside ++ own emits first ++ outside, ?_,
        belowEmits.nodup_own laterEmits here,
        belowEmits.mem_iff_visited laterEmits unvisited kept here keptBelow,
        ?_⟩
      · rw [laterEmits.output, Search.output_emit, belowEmits.output,
          Search.output_visit, own, List.append_assoc, List.append_assoc,
          List.append_assoc]
      · intro node member next leads emitted
        rw [List.append_assoc] at member ⊢
        rcases List.mem_append.mp member with within | member
        · -- `first` leads to every node that is emitted below it
          rcases belowEmits.order node within next leads emitted with
            before | order | path
          · rcases List.mem_cons.mp before with same | before
            · rw [same]
              obtain ⟨visited, fresh, -⟩ := (belowEmits.mem_iff node).mp within
              obtain ⟨origin, child, path⟩ := below.reached visited fresh
              exact .inr (.inr (.head child path))
            · exact .inl before
          · exact .inr (.inl (order.append_right _))
          · exact .inr (.inr path)
        · -- a node visited in `inner` has been emitted before the rest
          have emittedBefore : next ∈ inner.visited → next ∉ search.visited →
              next ≠ first → next ∈ inside := fun visited fresh other =>
            (belowEmits.mem_iff next).mpr ⟨visited,
              fun held => (List.mem_cons.mp held).elim other fresh, emitted⟩
          rcases List.mem_append.mp member with owned | further
          · have same := (mem_own.mp owned).1
            by_cases own : next = first
            · rw [own, same]
              exact .inr (.inr .refl)
            · by_cases before : next ∈ search.visited
              · exact .inl before
              · rw [same] at leads
                exact .inr (.inl (precedes_append
                  (emittedBefore (below.visited.2 leads) before own) member))
          · rcases laterEmits.order node further next leads emitted with
              before | order | path
            · rw [Search.visited_emit] at before
              by_cases held : next ∈ search.visited
              · exact .inl held
              · refine .inr (.inl ?_)
                by_cases own : next = first
                · rw [← List.append_assoc]
                  refine precedes_append (List.mem_append_right _ ?_) further
                  rw [own] at emitted ⊢
                  exact mem_own.mpr ⟨rfl, emitted⟩
                · exact precedes_append (emittedBefore before held own)
                    member
            · exact .inr (.inl ((order.append_left _).append_left _))
            · exact .inr (.inr path)

end Emits

/-- The whole search from one node puts out each emitted node that the node
leads to, once, and after its successors unless one of them leads back. -/
theorem Explores.from_start {root : Node}
    (explores : Explores successors emits [root] .start final) :
    final.output.Nodup ∧
      (∀ node, node ∈ final.output ↔
        Relation.ReflTransGen (Leads successors) root node ∧
          emits node = true) ∧
      ∀ node ∈ final.output, ∀ next, Leads successors node next →
        emits next = true → Precedes next node final.output ∨
          Relation.ReflTransGen (Leads successors) next node := by
  obtain ⟨added, emitted⟩ := explores.emitted
  have same : final.output = added := emitted.output
  have visited : ∀ node, node ∈ final.visited ↔
      Relation.ReflTransGen (Leads successors) root node := by
    intro node
    constructor
    · intro member
      obtain ⟨origin, only, path⟩ :=
        explores.reached member List.not_mem_nil
      rw [List.mem_singleton.mp only] at path
      exact path
    · intro path
      induction path with
      | refl => exact explores.visited.2 (List.mem_singleton_self root)
      | tail _ leads ih =>
          exact explores.closed ih List.not_mem_nil leads
  rw [same]
  refine ⟨emitted.distinct, fun node => ?_, ?_⟩
  · rw [emitted.mem_iff, visited]
    exact and_congr_right fun _ => and_iff_right List.not_mem_nil
  · intro node member next leads holds
    rcases emitted.order node member next leads holds with
      none | order | path
    · exact absurd none List.not_mem_nil
    · exact .inl order
    · exact .inr path

end Explores

end GravitPanel.DepthFirst
