import Mathlib.Data.List.Forall2
import ApiSchema.Import

/-! The imports of a scope are the leaves of its import trees. A leaf is told apart by its position, the index
of its item and of its tree in each group around it, so the positions order the leaves as the source does. A walk
that shares one path between all subtrees, and puts it back after each, finds the same imports. -/

namespace ApiSchema.Source

inductive Leaf where
  | name (name : String)
  | rename (name localName : String)
  | glob
deriving DecidableEq, Repr

/-- A leaf, the names on the way to it from the root, and the indexes of the trees on that way in the groups
they are members of. -/
structure PlacedLeaf where
  position : List Nat
  path : List String
  leaf : Leaf
deriving DecidableEq, Repr

inductive Leaf.Brings (path : List String) : Leaf → Import → Prop where
  | name {ident : String} (other : ident ≠ "self") :
      Brings path (.name ident) { localName := ident, target := path ++ [ident] }
  | self {last : String} (enclosing : path.getLast? = some last) :
      Brings path (.name "self") { localName := last, target := path }
  | rename {ident localName : String} (other : ident ≠ "self") :
      Brings path (.rename ident localName) { localName, target := path ++ [ident], aliased := true }
  | renameSelf {localName : String} :
      Brings path (.rename "self" localName) { localName, target := path, aliased := true }
  | glob : Brings path .glob { localName := "*", target := path, glob := true }

/-- The leaf stands for the enclosing path without a name of its own, and there is no such path. -/
def PlacedLeaf.Nameless (p : PlacedLeaf) : Prop := p.path = [] ∧ p.leaf = .name "self"

instance (p : PlacedLeaf) : Decidable p.Nameless := inferInstanceAs (Decidable (_ ∧ _))

namespace UseTree

inductive LeafOf : UseTree → PlacedLeaf → Prop where
  | name {ident : String} : LeafOf (.name ident) ⟨[], [], .name ident⟩
  | rename {ident localName : String} : LeafOf (.rename ident localName) ⟨[], [], .rename ident localName⟩
  | glob : LeafOf .glob ⟨[], [], .glob⟩
  | path {ident : String} {rest : UseTree} {p : PlacedLeaf} (inner : LeafOf rest p) :
      LeafOf (.path ident rest) { p with path := ident :: p.path }
  | group {trees : List UseTree} {k : Nat} {tree : UseTree} {p : PlacedLeaf} (here : trees[k]? = some tree)
      (inner : LeafOf tree p) : LeafOf (.group trees) { p with position := k :: p.position }

mutual

def leaves : UseTree → List PlacedLeaf
  | .name ident => [⟨[], [], .name ident⟩]
  | .rename ident localName => [⟨[], [], .rename ident localName⟩]
  | .glob => [⟨[], [], .glob⟩]
  | .path ident rest => rest.leaves.map fun p => { p with path := ident :: p.path }
  | .group trees => leavesFrom 0 trees

def leavesFrom (k : Nat) : List UseTree → List PlacedLeaf
  | [] => []
  | tree :: rest =>
    (tree.leaves.map fun p => { p with position := k :: p.position }) ++ leavesFrom (k + 1) rest

end

mutual

theorem mem_leaves : (tree : UseTree) → {p : PlacedLeaf} → (p ∈ tree.leaves ↔ tree.LeafOf p)
  | .name ident, p => by
    rw [leaves, List.mem_singleton]
    exact ⟨fun same => same ▸ .name, fun | .name => rfl⟩
  | .rename ident localName, p => by
    rw [leaves, List.mem_singleton]
    exact ⟨fun same => same ▸ .rename, fun | .rename => rfl⟩
  | .glob, p => by
    rw [leaves, List.mem_singleton]
    exact ⟨fun same => same ▸ .glob, fun | .glob => rfl⟩
  | .path ident rest, p => by
    rw [leaves, List.mem_map]
    constructor
    · rintro ⟨q, member, rfl⟩
      exact .path ((mem_leaves rest).mp member)
    · rintro (_ | _ | _ | inner)
      exact ⟨_, (mem_leaves rest).mpr inner, rfl⟩
  | .group trees, p => by
    rw [leaves, mem_leavesFrom trees]
    constructor
    · rintro ⟨k, tree, q, here, inner, rfl⟩
      rw [Nat.zero_add]
      exact .group here inner
    · rintro (_ | _ | _ | _ | ⟨here, inner⟩)
      exact ⟨_, _, _, here, inner, by rw [Nat.zero_add]⟩

theorem mem_leavesFrom : (trees : List UseTree) → {start : Nat} → {p : PlacedLeaf} →
    (p ∈ leavesFrom start trees ↔ ∃ (k : Nat) (tree : UseTree) (q : PlacedLeaf),
      trees[k]? = some tree ∧ tree.LeafOf q ∧ p = { q with position := (start + k) :: q.position })
  | [], start, p => by simp [leavesFrom]
  | tree :: rest, start, p => by
    rw [leavesFrom, List.mem_append, List.mem_map, mem_leavesFrom rest]
    constructor
    · rintro (⟨q, member, rfl⟩ | ⟨k, other, q, here, inner, rfl⟩)
      · exact ⟨0, tree, q, rfl, (mem_leaves tree).mp member, rfl⟩
      · exact ⟨k + 1, other, q, by simpa using here, inner, by rw [Nat.add_assoc, Nat.add_comm 1 k]⟩
    · rintro ⟨_ | k, other, q, here, inner, rfl⟩
      · obtain rfl : tree = other := by simpa using here
        exact .inl ⟨q, (mem_leaves tree).mpr inner, rfl⟩
      · exact .inr ⟨k, other, q, by simpa using here, inner, by rw [Nat.add_assoc, Nat.add_comm 1 k]⟩

end

mutual

theorem leaves_ordered : (tree : UseTree) → tree.leaves.Pairwise fun p q => p.position < q.position
  | .name _ | .rename _ _ | .glob => by simp [leaves]
  | .path ident rest => by
    rw [leaves, List.pairwise_map]
    exact leaves_ordered rest
  | .group trees => by
    rw [leaves]
    exact leavesFrom_ordered trees 0

theorem leavesFrom_ordered : (trees : List UseTree) → (start : Nat) →
    (leavesFrom start trees).Pairwise fun p q => p.position < q.position
  | [], _ => by simp [leavesFrom]
  | tree :: rest, start => by
    rw [leavesFrom, List.pairwise_append]
    refine ⟨?_, leavesFrom_ordered rest _, fun p first q later => ?_⟩
    · rw [List.pairwise_map]
      exact (leaves_ordered tree).imp fun before => List.cons_lt_cons_iff.mpr (.inr ⟨rfl, before⟩)
    · obtain ⟨p, _, rfl⟩ := List.mem_map.mp first
      obtain ⟨k, _, q, _, _, rfl⟩ := (mem_leavesFrom rest).mp later
      exact List.cons_lt_cons_iff.mpr (.inl (by omega))

end

end UseTree

def Leaf.import? (path : List String) : Leaf → Option Import
  | .name ident =>
    if ident = "self" then path.getLast?.map fun last => { localName := last, target := path }
    else some { localName := ident, target := path ++ [ident] }
  | .rename ident localName =>
    some { localName, target := if ident = "self" then path else path ++ [ident], aliased := true }
  | .glob => some { localName := "*", target := path, glob := true }

theorem Leaf.import?_brings {path : List String} {leaf : Leaf} {i : Import}
    (found : leaf.import? path = some i) : leaf.Brings path i := by
  cases leaf with
  | name ident =>
    rw [Leaf.import?] at found
    split at found
    · next self =>
      obtain ⟨last, enclosing, rfl⟩ := Option.map_eq_some_iff.mp found
      exact self ▸ .self enclosing
    · next other =>
      cases found
      exact .name other
  | rename ident localName =>
    cases found
    split
    · next self => exact self ▸ .renameSelf
    · next other => exact .rename other
  | glob =>
    cases found
    exact .glob

theorem PlacedLeaf.import?_isSome (p : PlacedLeaf) : (p.leaf.import? p.path).isSome ↔ ¬ p.Nameless := by
  obtain ⟨position, path, leaf⟩ := p
  cases leaf with
  | name ident =>
    by_cases self : ident = "self"
    · simp [Leaf.import?, Nameless, self]
    · simp [Leaf.import?, Nameless, self]
  | rename ident localName => simp [Leaf.import?, Nameless]
  | glob => simp [Leaf.import?, Nameless]

end ApiSchema.Source

namespace ApiSchema.Import

open Source

mutual

/-- Below a path that is already walked, the imports of a tree are those of its leaves. -/
theorem ofTree_leaves : (tree : UseTree) → (base : List String) →
    ofTree base tree = tree.leaves.filterMap fun p => p.leaf.import? (base ++ p.path)
  | .name ident, base => by
    by_cases self : ident = "self"
    · subst self
      rw [ofTree]
      cases ends : base.getLast? <;> simp [UseTree.leaves, Leaf.import?, ends]
    · rw [ofTree.eq_3 _ _ self]
      simp [UseTree.leaves, Leaf.import?, self]
  | .rename ident localName, base => by simp [ofTree, UseTree.leaves, Leaf.import?]
  | .glob, base => by simp [ofTree, UseTree.leaves, Leaf.import?]
  | .path ident rest, base => by
    rw [ofTree, UseTree.leaves, List.filterMap_map, ofTree_leaves rest]
    simp
  | .group trees, base => by
    rw [ofTree, UseTree.leaves]
    exact ofTrees_leaves trees base 0

theorem ofTrees_leaves : (trees : List UseTree) → (base : List String) → (k : Nat) →
    ofTrees base trees = (UseTree.leavesFrom k trees).filterMap fun p => p.leaf.import? (base ++ p.path)
  | [], base, k => by simp [ofTrees, UseTree.leavesFrom]
  | tree :: rest, base, k => by
    rw [ofTrees, UseTree.leavesFrom, List.filterMap_append, List.filterMap_map, ofTree_leaves tree,
      ofTrees_leaves rest base (k + 1)]
    rfl

end

def treeOf : Item → UseTree
  | .imports tree => tree
  | _ => .group []

/-- The items of a scope are like the members of a group. -/
theorem ofItems_eq (items : List Item) : ofItems items = ofTrees [] (items.map treeOf) := by
  induction items with
  | nil => rfl
  | cons item rest ih =>
    rw [List.map_cons, ofTrees, ← ih]
    cases item with
    | imports tree => rfl
    | _ => simp [ofItems, treeOf, ofTree, ofTrees]

/-- The leaf is one of the import trees among the items; the first index of its position is that of the item. -/
inductive LeafOf (items : List Item) : PlacedLeaf → Prop where
  | item {k : Nat} {tree : UseTree} {p : PlacedLeaf} (here : items[k]? = some (.imports tree))
      (inner : tree.LeafOf p) : LeafOf items { p with position := k :: p.position }

theorem mem_leavesOf {items : List Item} {p : PlacedLeaf} :
    p ∈ UseTree.leavesFrom 0 (items.map treeOf) ↔ LeafOf items p := by
  rw [UseTree.mem_leavesFrom]
  constructor
  · rintro ⟨k, tree, q, here, inner, rfl⟩
    rw [List.getElem?_map, Option.map_eq_some_iff] at here
    obtain ⟨item, place, rfl⟩ := here
    rw [Nat.zero_add]
    cases item with
    | imports tree => exact .item place inner
    | _ =>
      obtain _ | _ | _ | _ | ⟨none, _⟩ := inner
      cases none
  · rintro ⟨here, inner⟩
    refine ⟨_, _, _, ?_, inner, by rw [Nat.zero_add]⟩
    rw [List.getElem?_map, here]
    rfl

/-- Walk over import trees in which all of them share one path. -/
structure Walk where
  path : List String := []
  imports : List Import := []

namespace Walk

mutual

/-- A name is put at the end of the shared path for the tree below it and taken off after that; a leaf adds
what it brings under the path as it is then. -/
def visit : UseTree → Walk → Walk
  | .path ident rest, w =>
    let below := visit rest { w with path := w.path ++ [ident] }
    { below with path := below.path.dropLast }
  | .group trees, w => visitAll trees w
  | .name ident, w => { w with imports := w.imports ++ ((Leaf.name ident).import? w.path).toList }
  | .rename ident localName, w =>
    { w with imports := w.imports ++ ((Leaf.rename ident localName).import? w.path).toList }
  | .glob, w => { w with imports := w.imports ++ (Leaf.glob.import? w.path).toList }

def visitAll : List UseTree → Walk → Walk
  | [], w => w
  | tree :: rest, w => visitAll rest (visit tree w)

end

mutual

/-- After a tree the shared path is what it was before, and the imports of the tree are added. -/
theorem visit_eq : (tree : UseTree) → (w : Walk) →
    w.visit tree = { w with imports := w.imports ++ ofTree w.path tree }
  | .name ident, w => by
    rw [visit, ofTree_leaves]
    cases found : (Leaf.name ident).import? w.path <;> simp [UseTree.leaves, found]
  | .rename ident localName, w => by rw [visit]; simp [ofTree, Leaf.import?]
  | .glob, w => by rw [visit]; simp [ofTree, Leaf.import?]
  | .path ident rest, w => by
    rw [visit, visit_eq rest, ofTree]
    simp
  | .group trees, w => by rw [visit, visitAll_eq trees, ofTree]

theorem visitAll_eq : (trees : List UseTree) → (w : Walk) →
    w.visitAll trees = { w with imports := w.imports ++ ofTrees w.path trees }
  | [], w => by simp [visitAll, ofTrees]
  | tree :: rest, w => by
    rw [visitAll, visit_eq tree, visitAll_eq rest, ofTrees]
    simp

end

def visitItems (items : List Item) (w : Walk) : Walk := w.visitAll (items.map treeOf)

end Walk

structure Carries (p : PlacedLeaf) (i : Import) : Prop where
  brings : p.leaf.Brings p.path i
  aliased : i.aliased = true ↔ ∃ ident localName, p.leaf = .rename ident localName
  glob : i.glob = true ↔ p.leaf = .glob

theorem Carries.ofBrings {p : PlacedLeaf} {i : Import} (brings : p.leaf.Brings p.path i) : Carries p i := by
  obtain ⟨position, path, leaf⟩ := p
  refine ⟨brings, ?_, ?_⟩
  · cases brings <;> simp
  · cases brings <;> simp

/-- All leaves but the bare ones have an import. -/
theorem carries_imports (leaves : List PlacedLeaf) :
    List.Forall₂ Carries (leaves.filter fun p => ¬ p.Nameless) (leaves.filterMap fun p => p.leaf.import? p.path) := by
  induction leaves with
  | nil => exact .nil
  | cons p rest ih =>
    have bare := p.import?_isSome
    cases found : p.leaf.import? p.path with
    | none =>
      have alone : p.Nameless := by simpa [found] using bare
      rw [List.filter_cons_of_neg (by simpa using alone), List.filterMap_cons, found]
      exact ih
    | some i =>
      have stands : ¬ p.Nameless := by simpa [found] using bare
      rw [List.filter_cons_of_pos (by simpa using stands), List.filterMap_cons, found]
      exact .cons (.ofBrings (Leaf.import?_brings found)) ih

/-- The imports of a scope are those of the leaves of its import trees: one for each leaf, in source order,
with the names from the root to the leaf as target. Only a bare `self` outside of any path has none. A walk
over the trees with one shared path leaves that path, after each tree, as it was before, and finds the same
imports. -/
theorem ofItems_leaves (items : List Item) :
    (∃ leaves : List PlacedLeaf, leaves.Pairwise (fun p q => p.position < q.position) ∧
      (∀ p, p ∈ leaves ↔ LeafOf items p ∧ ¬ p.Nameless) ∧ List.Forall₂ Carries leaves (ofItems items)) ∧
    (∀ (tree : UseTree) (w : Walk), w.visit tree = { w with imports := w.imports ++ ofTree w.path tree }) ∧
    ({} : Walk).visitItems items = { path := [], imports := ofItems items } := by
  refine ⟨?_, Walk.visit_eq, ?_⟩
  · refine ⟨(UseTree.leavesFrom 0 (items.map treeOf)).filter fun p => ¬ p.Nameless, ?_, fun p => ?_, ?_⟩
    · exact (UseTree.leavesFrom_ordered _ 0).filter _
    · rw [List.mem_filter, mem_leavesOf, decide_eq_true_iff]
    · rw [ofItems_eq, ofTrees_leaves _ _ 0]
      exact carries_imports _
  · rw [Walk.visitItems, Walk.visitAll_eq, ofItems_eq]
    rfl

/-- A `self` behind other leaves of its group still stands for the path of the group. -/
example : ofItems [.imports (.path "chrono" (.group [.name "DateTime", .rename "Utc" "Zone", .name "self"]))] =
    [{ localName := "DateTime", target := ["chrono", "DateTime"] },
      { localName := "Zone", target := ["chrono", "Utc"], aliased := true },
      { localName := "chrono", target := ["chrono"] }] := rfl

end ApiSchema.Import
