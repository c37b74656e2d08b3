import Mathlib.Data.List.Infix

/-!
# File trees

Files, directories and symbolic links as one tree, and what an operating system
does with the paths in it: a link on the way to an entry is followed, and the
entry itself is the one whose parent was reached.  A path is the list of its
names.
-/

namespace GravitPanel.FileTree

abbrev Path := List String

inductive Node where
  | file (bytes : List UInt8)
  | link (absolute : Bool) (steps : Path)
  | directory (children : List (String × Node))

/-- What an entry is, without what lies below it. -/
inductive Kind where
  | file (bytes : List UInt8)
  | link (absolute : Bool) (steps : Path)
  | directory
  deriving DecidableEq, Repr

def Node.kind : Node → Kind
  | .file bytes => .file bytes
  | .link absolute steps => .link absolute steps
  | .directory _ => .directory

def Kind.isLink : Kind → Bool
  | .link .. => true
  | _ => false

def Node.child (name : String) : Node → Option Node
  | .directory children =>
      (children.find? fun child => child.1 = name).map Prod.snd
  | _ => none

/-- The node at a path, where no link is followed. -/
def lookup : Path → Node → Option Node
  | [], node => some node
  | name :: rest, node => (node.child name).bind (lookup rest)

def entry (path : Path) (tree : Node) : Option Kind :=
  (lookup path tree).map Node.kind

theorem lookup_append (first second : Path) (tree : Node) :
    lookup (first ++ second) tree =
      (lookup first tree).bind (lookup second) := by
  induction first generalizing tree with
  | nil => rfl
  | cons name rest ih =>
      show (tree.child name).bind (lookup (rest ++ second)) =
        ((tree.child name).bind (lookup rest)).bind (lookup second)
      cases tree.child name with
      | none => rfl
      | some child => exact ih child

variable {tree : Node} {path : Path}

theorem entry_eq_some {kind : Kind} :
    entry path tree = some kind ↔
      ∃ node, lookup path tree = some node ∧ node.kind = kind :=
  Option.map_eq_some_iff

theorem entry_eq_none :
    entry path tree = none ↔ lookup path tree = none :=
  Option.map_eq_none_iff

theorem entry_above {above rest : Path} {name : String}
    {kind : Kind}
    (found : entry (above ++ name :: rest) tree = some kind) :
    entry above tree = some .directory := by
  obtain ⟨node, found, _⟩ := entry_eq_some.mp found
  rw [lookup_append] at found
  obtain ⟨parent, reached, below⟩ := Option.bind_eq_some_iff.mp found
  cases parent with
  | file bytes => cases below
  | link absolute steps => cases below
  | directory children =>
      exact entry_eq_some.mpr ⟨_, reached, rfl⟩

theorem entry_below (rest : Path)
    (absent : entry path tree = none) :
    entry (path ++ rest) tree = none := by
  rw [entry_eq_none] at absent ⊢
  rw [lookup_append, absent]
  rfl

mutual

/-- The paths of all entries, each with the names on the way to it. -/
def Node.paths : Node → List Path
  | .directory children => [] :: childPaths children
  | _ => [[]]

def childPaths : List (String × Node) → List Path
  | [] => []
  | (name, node) :: rest => node.paths.map (name :: ·) ++ childPaths rest

end

theorem mem_childPaths {children : List (String × Node)} {name : String}
    {node : Node} (member : (name, node) ∈ children)
    (below : path ∈ node.paths) :
    name :: path ∈ childPaths children := by
  induction children with
  | nil => exact absurd member List.not_mem_nil
  | cons child rest ih =>
      obtain ⟨first, inner⟩ := child
      unfold childPaths
      rcases List.mem_cons.mp member with here | later
      · cases here
        exact List.mem_append_left _
          (List.mem_map_of_mem below)
      · exact List.mem_append_right _ (ih later)

theorem mem_paths
    (present : entry path tree ≠ none) :
    path ∈ tree.paths := by
  induction path generalizing tree with
  | nil =>
      unfold Node.paths
      cases tree <;> exact List.mem_cons_self
  | cons name rest ih =>
      obtain ⟨node, found⟩ :=
        Option.ne_none_iff_exists'.mp (mt entry_eq_none.mpr present)
      obtain ⟨child, held, below⟩ := Option.bind_eq_some_iff.mp found
      have inner : rest ∈ child.paths := by
        apply ih
        rw [ne_eq, entry_eq_none, below]
        exact Option.some_ne_none node
      cases tree with
      | file bytes => cases held
      | link absolute steps => cases held
      | directory children =>
          obtain ⟨⟨key, value⟩, listed, rfl⟩ :=
            Option.map_eq_some_iff.mp held
          have same : key = name := by simpa using List.find?_some listed
          subst same
          unfold Node.paths
          exact List.mem_cons_of_mem _
            (mem_childPaths (List.mem_of_find?_eq_some listed) inner)

def Node.withChild (name : String) (value : Option Node) : Node → Node
  | .directory children =>
      .directory
        (children.filter (fun child => child.1 ≠ name) ++
          value.toList.map fun node => (name, node))
  | node => node

@[simp]
theorem kind_withChild (name : String) (value : Option Node) (node : Node) :
    (node.withChild name value).kind = node.kind := by
  cases node <;> rfl

theorem child_withChild (name : String) (value : Option Node) (node : Node) :
    (node.withChild name value).child name =
      if node.kind = .directory then value else none := by
  cases node with
  | file bytes => rfl
  | link absolute steps => rfl
  | directory children =>
      have others : (children.filter fun child => child.1 ≠ name).find?
          (fun child => child.1 = name) = none := by
        rw [List.find?_eq_none]
        intro child member
        simpa using (List.mem_filter.mp member).2
      unfold Node.withChild Node.child
      dsimp only
      have directory : (Node.directory children).kind = .directory := rfl
      rw [List.find?_append, others, if_pos directory]
      cases value with
      | none => rfl
      | some inner => simp

theorem child_withChild_of_ne {name other : String} (value : Option Node)
    (node : Node) (different : other ≠ name) :
    (node.withChild name value).child other = node.child other := by
  cases node with
  | file bytes => rfl
  | link absolute steps => rfl
  | directory children =>
      have kept : (children.filter fun child => child.1 ≠ name).find?
          (fun child => child.1 = other) =
          children.find? fun child => child.1 = other := by
        rw [List.find?_filter]
        congr 1
        funext child
        by_cases same : child.1 = other
        · simp [same, different]
        · simp [same]
      have added : (value.toList.map fun node => (name, node)).find?
          (fun child => child.1 = other) = none := by
        rw [List.find?_eq_none]
        intro child member
        obtain ⟨_, _, rfl⟩ := List.mem_map.mp member
        simpa using different.symm
      unfold Node.withChild Node.child
      simp only [List.find?_append, kept, added, Option.or_none]

/-- The tree with a new value at a path below it. -/
def alter (value : Option Node) : Path → Option Node → Option Node
  | [], _ => value
  | _ :: _, none => none
  | name :: rest, some node =>
      some (node.withChild name (alter value rest (node.child name)))

theorem alter_other (value : Option Node) {path other : Path}
    (apart : ¬ path <+: other) (start : Option Node) :
    ((alter value path start).bind (lookup other)).map Node.kind =
      (start.bind (lookup other)).map Node.kind := by
  induction path generalizing start other with
  | nil => exact absurd List.nil_prefix apart
  | cons name rest ih =>
      cases start with
      | none => rfl
      | some node =>
          cases other with
          | nil => exact congrArg some (kind_withChild ..)
          | cons first others =>
              show (((node.withChild name _).child first).bind
                  (lookup others)).map Node.kind =
                ((node.child first).bind (lookup others)).map Node.kind
              by_cases same : first = name
              · subst same
                have below : ¬ rest <+: others := by
                  intro shorter
                  exact apart (List.cons_prefix_cons.mpr ⟨rfl, shorter⟩)
                rw [child_withChild]
                by_cases parent : node.kind = .directory
                · rw [if_pos parent]
                  exact ih below (node.child first)
                · rw [if_neg parent]
                  cases node with
                  | file bytes => rfl
                  | link absolute steps => rfl
                  | directory children => exact absurd rfl parent
              · rw [child_withChild_of_ne _ _ same]

theorem alter_self (value : Option Node) {parent : Path} {name : String}
    {start : Option Node}
    (directory : (start.bind (lookup parent)).map Node.kind =
      some .directory)
    (rest : Path) :
    (alter value (parent ++ [name]) start).bind
        (lookup (parent ++ name :: rest)) =
      value.bind (lookup rest) := by
  induction parent generalizing start with
  | nil =>
      cases start with
      | none => cases directory
      | some node =>
          have parent : node.kind = .directory := Option.some.inj directory
          show ((node.withChild name value).child name).bind (lookup rest) = _
          rw [child_withChild, if_pos parent]
  | cons first others ih =>
      cases start with
      | none => cases directory
      | some node =>
          have inner : ((node.child first).bind (lookup others)).map
              Node.kind = some .directory := directory
          have parent : node.kind = .directory := by
            cases node with
            | file bytes => cases inner
            | link absolute steps => cases inner
            | directory children => rfl
          show ((node.withChild first _).child first).bind
            (lookup (others ++ name :: rest)) = _
          rw [child_withChild, if_pos parent]
          exact ih inner

def store (value : Option Node) (path : Path) (tree : Node) : Node :=
  (alter value path (some tree)).getD tree

theorem alter_some (value : Option Node) (path : Path) (name : String)
    (tree : Node) :
    alter value (path ++ [name]) (some tree) =
      some (store value (path ++ [name]) tree) := by
  cases path <;> rfl

theorem entry_store_other (value : Option Node) {path other : Path}
    {name : String} (apart : ¬ path ++ [name] <+: other) :
    entry other (store value (path ++ [name]) tree) = entry other tree := by
  have same := alter_other value apart (some tree)
  rw [alter_some] at same
  exact same

theorem lookup_store_self (value : Option Node) {path : Path} {name : String}
    {tree : Node} (directory : entry path tree = some .directory)
    (rest : Path) :
    lookup (path ++ name :: rest) (store value (path ++ [name]) tree) =
      value.bind (lookup rest) := by
  have same := @alter_self value path name (some tree) directory rest
  rw [alter_some] at same
  exact same

end GravitPanel.FileTree
