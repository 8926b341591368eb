import Rollcall.Proofs.Namespaces

/-!
# Comments and assignments

Comments may stand anywhere in a syntax tree, and assignments to properties anywhere among arguments, without effect on
what the tree declares: a tree with such insertions has the declarations of the tree without them, up to the places
where they stand (`Declaration.collect_of_annotates`).

The proof compares both trees with their bare form, which has neither comments nor assignments nor places
(`Annotates.bareRow_eq`).  Every reading of a node then only has to be compared with the reading of its bare form.
-/

namespace Rollcall

open WrittenArgument (isAssignment)

/-! ### Insertions -/

/-- Whether nodes of a kind list arguments. -/
def SyntaxKind.listsArguments : SyntaxKind → Bool
  | .attributeArgumentList => true
  | .argumentList => true
  | _ => false

/-- Whether the second row is the first one with insertions, both as the children of a node of some kind.  Comments may
be inserted in every row, assignments to properties among arguments; what is there keeps its text but not its place. -/
inductive Annotates : SyntaxKind → List Node → List Node → Prop
  | nil {kind : SyntaxKind} : Annotates kind [] []
  | comment {kind : SyntaxKind} {n : Node} {row row' : List Node} : n.kind = .comment → n.field = none →
      Annotates kind row row' → Annotates kind row (n :: row')
  | assignment {kind : SyntaxKind} {n : Node} {row row' : List Node} : kind.listsArguments = true →
      n.kind = .attributeArgument → isAssignment n = true → Annotates kind row row' → Annotates kind row (n :: row')
  | node {kind : SyntaxKind} {n : Node} {row row' : List Node} (span : Span) {children : List Node} :
      Annotates n.kind n.children children → Annotates kind row row' →
      Annotates kind (n :: row) ({ n with span, children } :: row')

/-- Whether in a tree every attribute has a labelled name and every base with constructor arguments a labelled type. -/
inductive Node.IsLabelled : Node → Prop
  | mk {n : Node} (name : n.kind = .attribute → (n.child? .name).isSome = true)
      (type : n.kind = .primaryConstructorBase → (n.child? .type).isSome = true)
      (children : ∀ c ∈ n.children, c.IsLabelled) : n.IsLabelled

/-! ### Bare trees -/

/-- Whether a node has no effect as a child of a node of some kind. -/
def Node.isInert (parent : SyntaxKind) (n : Node) : Bool :=
  n.kind == .comment && n.field.isNone ||
    parent.listsArguments && n.kind == .attributeArgument && isAssignment n

mutual

/-- A node without the inert nodes below it and without its place. -/
def Node.bare : Node → Node
  | ⟨kind, text, _, isNamed, field, children⟩ => ⟨kind, text, default, isNamed, field, bareRow kind children⟩

/-- A row of children without its inert nodes, and the others bare. -/
def Node.bareRow (parent : SyntaxKind) : List Node → List Node
  | [] => []
  | n :: row => if n.isInert parent then bareRow parent row else n.bare :: bareRow parent row

end

namespace Node

variable {n : Node} {parent : SyntaxKind} {row : List Node}

@[simp] theorem kind_bare (n : Node) : n.bare.kind = n.kind := by cases n; rfl

@[simp] theorem text_bare (n : Node) : n.bare.text = n.text := by cases n; rfl

@[simp] theorem isNamed_bare (n : Node) : n.bare.isNamed = n.isNamed := by cases n; rfl

@[simp] theorem field_bare (n : Node) : n.bare.field = n.field := by cases n; rfl

@[simp] theorem span_bare (n : Node) : n.bare.span = default := by cases n; rfl

@[simp] theorem children_bare (n : Node) : n.bare.children = bareRow n.kind n.children := by cases n; rfl

theorem bareRow_eq (parent : SyntaxKind) (row : List Node) :
    bareRow parent row = (row.filter fun n => !n.isInert parent).map bare := by
  induction row with
  | nil => rfl
  | cons n row ih =>
    rw [bareRow, ih]
    cases hn : n.isInert parent <;> simp [hn]

private theorem mem_bareRow {c : Node} : c ∈ bareRow parent row ↔ ∃ n ∈ row, n.isInert parent = false ∧ n.bare = c := by
  simp [bareRow_eq, and_assoc]

private theorem kind_of_isInert (h : n.isInert parent = true) : n.kind = .comment ∨ n.kind = .attributeArgument := by
  simp only [isInert, Bool.or_eq_true, Bool.and_eq_true, beq_iff_eq] at h
  exact h.imp And.left fun h => h.1.2

private theorem kind_ne_of_isInert (h : n.isInert parent = true) {kind : SyntaxKind}
    (hkind : kind ≠ .comment ∧ kind ≠ .attributeArgument) : (n.kind == kind) = false := by
  rw [beq_eq_false_iff_ne]
  rcases kind_of_isInert h with hk | hk
  · exact hk ▸ hkind.1.symm
  · exact hk ▸ hkind.2.symm

private theorem not_declares_of_isInert (h : n.isInert parent = true) : n.kind.declares = false := by
  rcases kind_of_isInert h with hk | hk <;> rw [hk] <;> rfl

/-- Away from arguments only comments are inert. -/
private theorem comment_of_isInert (hp : parent.listsArguments = false) (h : n.isInert parent = true) :
    n.kind = .comment ∧ n.field = none := by
  simpa [isInert, hp] using h

private theorem isAssignment_of_isInert (hk : n.kind = .attributeArgument) (h : n.isInert parent = true) :
    isAssignment n = true := by
  simp [isInert, hk] at h
  exact h.2

end Node

/-! ### Insertions do not show in bare trees -/

namespace Annotates

variable {parent : SyntaxKind} {row row' : List Node}

/-- Looking for a kind of node other than the inserted ones. -/
private theorem any_kind (h : Annotates parent row row') {p : SyntaxKind → Bool} (hc : p .comment = false)
    (ha : p .attributeArgument = false) : (row'.any fun n => p n.kind) = row.any fun n => p n.kind := by
  induction h with
  | nil => rfl
  | comment hk _ _ ih => rw [List.any_cons, hk, hc, Bool.false_or, ih]
  | assignment _ hk _ _ ih => rw [List.any_cons, hk, ha, Bool.false_or, ih]
  | node _ _ _ _ ih => rw [List.any_cons, List.any_cons, ih]

/-- A row with insertions has the bare form of the row without them. -/
theorem bareRow_eq (h : Annotates parent row row') : Node.bareRow parent row' = Node.bareRow parent row := by
  induction h with
  | nil => rfl
  | comment hk hf _ ih =>
    rw [Node.bareRow, if_pos (by simp [Node.isInert, hk, hf]), ih]
  | assignment hp hk ha _ ih =>
    rw [Node.bareRow, if_pos (by simp [Node.isInert, hp, hk, ha]), ih]
  | @node parent n row row' span children hn _ ihn ih =>
    have hassigns : isAssignment { n with span, children } = isAssignment n :=
      hn.any_kind (p := fun kind => kind == .nameEquals || kind == .equals) rfl rfl
    have hinert : { n with span, children }.isInert parent = n.isInert parent := by
      rw [Node.isInert, Node.isInert, hassigns]
    have hbare : { n with span, children }.bare = n.bare := by
      cases n
      simp only [Node.bare, ihn]
    rw [Node.bareRow, Node.bareRow, hinert, hbare, ih]

end Annotates

/-! ### Reading bare rows -/

namespace Node

variable {n : Node} {parent : SyntaxKind} {row : List Node}

private theorem filter_bareRow {p : Node → Bool} (hbare : ∀ n, p n.bare = p n)
    (hinert : ∀ n, n.isInert parent = true → p n = false) :
    (bareRow parent row).filter p = (row.filter p).map bare := by
  rw [bareRow_eq, List.filter_map, List.filter_filter]
  refine congrArg _ (List.filter_congr fun n _ => ?_)
  cases hn : n.isInert parent with
  | true => simp [hinert n hn]
  | false => simp [hbare]

private theorem any_bareRow {p : Node → Bool} (hbare : ∀ n, p n.bare = p n)
    (hinert : ∀ n, n.isInert parent = true → p n = false) : (bareRow parent row).any p = row.any p := by
  have hany (row : List Node) : row.any p = (row.filter p).any fun _ => true := by simp
  rw [hany, filter_bareRow hbare hinert, List.any_map, hany row]
  rfl

private theorem filterMap_bareRow {β : Type} {f g : Node → Option β}
    (hbare : ∀ n ∈ row, n.isInert parent = false → f n.bare = g n)
    (hinert : ∀ n ∈ row, n.isInert parent = true → g n = none) :
    (bareRow parent row).filterMap f = row.filterMap g := by
  rw [bareRow_eq, List.filterMap_map, List.filterMap_filter]
  refine List.filterMap_congr fun n hn => ?_
  cases hi : n.isInert parent with
  | true => simp [hinert n hn hi]
  | false => simpa using hbare n hn hi

private theorem child?_bare (hn : n.kind.listsArguments = false) (f : Field) :
    n.bare.child? f = (n.child? f).map bare := by
  have hfield : ((bareRow n.kind n.children).filter fun c => c.field == some f) =
      (n.children.filter fun c => c.field == some f).map bare :=
    filter_bareRow (by simp) fun c hc => by simp [(comment_of_isInert hn hc).2]
  rw [child?, child?, children_bare, ← List.head?_filter, hfield, List.head?_map, List.head?_filter]

private theorem ofKind_bare {kind : SyntaxKind} (hkind : kind ≠ .comment ∧ kind ≠ .attributeArgument) (n : Node) :
    (n.bare.children.filter fun c => c.kind == kind) = (n.children.filter fun c => c.kind == kind).map bare := by
  rw [children_bare]
  exact filter_bareRow (by simp) fun c hi => kind_ne_of_isInert hi hkind

private theorem filter_namedChildren_bare {p : Node → Bool} (hbare : ∀ c, p c.bare = p c)
    (hinert : ∀ c, c.isInert n.kind = true → p c = false) :
    n.bare.namedChildren.filter p = (n.namedChildren.filter p).map bare := by
  rw [namedChildren, namedChildren, List.filter_filter, List.filter_filter, children_bare]
  exact filter_bareRow (by simp [hbare]) fun c hc => by rw [hinert c hc, Bool.false_and]

private theorem filterMap_namedChildren_bare {β : Type} {f g : Node → Option β}
    (hbare : ∀ c ∈ n.children, c.isInert n.kind = false → f c.bare = g c)
    (hinert : ∀ c ∈ n.children, c.isInert n.kind = true → g c = none) :
    n.bare.namedChildren.filterMap f = n.namedChildren.filterMap g := by
  rw [namedChildren, namedChildren, List.filterMap_filter, List.filterMap_filter, children_bare]
  refine filterMap_bareRow (fun c hc hi => ?_) fun c hc hi => ?_
  · rw [isNamed_bare, hbare c hc hi]
  · rw [hinert c hc hi, ite_self]

private theorem namedOfKind_bare {kind : SyntaxKind} (hkind : kind ≠ .comment ∧ kind ≠ .attributeArgument) (n : Node) :
    n.bare.namedOfKind kind = (n.namedOfKind kind).map bare :=
  filter_namedChildren_bare (by simp) fun _ hc => kind_ne_of_isInert hc hkind

private theorem mem_children_of_mem_namedOfKind {c : Node} {kind : SyntaxKind} (h : c ∈ n.namedOfKind kind) :
    c ∈ n.children ∧ c.kind = kind := by
  obtain ⟨hc, hk⟩ := List.mem_filter.mp h
  exact ⟨mem_children_of_mem_namedChildren hc, beq_iff_eq.mp hk⟩

private theorem eraseP_bareRow (hp : parent.listsArguments = false) (f : Field) (row : List Node) :
    ((bareRow parent row).eraseP fun c => c.field == some f) =
      bareRow parent (row.eraseP fun c => c.field == some f) := by
  induction row with
  | nil => rfl
  | cons n row ih =>
    cases hi : n.isInert parent with
    | true =>
      rw [List.eraseP_cons_of_neg (by simp [(comment_of_isInert hp hi).2]), bareRow, bareRow, if_pos hi, if_pos hi, ih]
    | false =>
      have hi : ¬ n.isInert parent = true := by simp [hi]
      rw [bareRow, if_neg hi, List.eraseP_cons, List.eraseP_cons, field_bare]
      cases n.field == some f with
      | true => rfl
      | false => rw [cond_false, cond_false, bareRow, if_neg hi, ih]

/-- What nodes of one kind below a node yield is yielded by their bare forms. -/
private theorem flatMap_namedOfKind_bare {β : Type} {f : Node → List β} {kind : SyntaxKind}
    (hkind : kind ≠ .comment ∧ kind ≠ .attributeArgument) (hf : ∀ c ∈ n.children, c.kind = kind → f c.bare = f c) :
    (n.bare.namedOfKind kind).flatMap f = (n.namedOfKind kind).flatMap f := by
  rw [namedOfKind_bare hkind, List.flatMap_map]
  refine List.flatMap_congr fun c hmem => ?_
  obtain ⟨hmem, hk⟩ := mem_children_of_mem_namedOfKind hmem
  exact hf c hmem hk

namespace IsLabelled

theorem name (h : n.IsLabelled) (hk : n.kind = .attribute) : (n.child? .name).isSome = true := by
  cases h with
  | mk name _ _ => exact name hk

theorem type (h : n.IsLabelled) (hk : n.kind = .primaryConstructorBase) : (n.child? .type).isSome = true := by
  cases h with
  | mk _ type _ => exact type hk

theorem children {c : Node} (h : n.IsLabelled) (hc : c ∈ n.children) : c.IsLabelled := by
  cases h with
  | mk _ _ children => exact children c hc

theorem bare (h : n.IsLabelled) : n.bare.IsLabelled := by
  induction h with
  | @mk n name type _ ih =>
    refine .mk (fun hk => ?_) (fun hk => ?_) fun c hc => ?_
    · rw [kind_bare] at hk
      rw [child?_bare (by rw [hk]; rfl), Option.isSome_map, name hk]
    · rw [kind_bare] at hk
      rw [child?_bare (by rw [hk]; rfl), Option.isSome_map, type hk]
    · rw [children_bare] at hc
      obtain ⟨d, hd, -, rfl⟩ := mem_bareRow.mp hc
      exact ih d hd

/-- The labels of a bare node reach the nodes that are not inert. -/
private theorem of_mem_children {c : Node} (h : n.bare.IsLabelled) (hc : c ∈ n.children)
    (hi : c.isInert n.kind = false) : c.bare.IsLabelled :=
  h.children (by rw [children_bare]; exact mem_bareRow.mpr ⟨c, hc, hi, rfl⟩)

end IsLabelled

end Node

/-! ### Headers -/

namespace WrittenArgument

variable {n : Node}

private theorem isAssignment_bare (n : Node) : isAssignment n.bare = isAssignment n := by
  rw [isAssignment, isAssignment, Node.children_bare]
  refine Node.any_bareRow (by simp) fun c hc => ?_
  rw [Node.kind_ne_of_isInert hc (by decide), Node.kind_ne_of_isInert hc (by decide)]
  rfl

private theorem operandNode?_bare (hk : n.kind = .typeofExpression) :
    operandNode? n.bare = (operandNode? n).map Node.bare := by
  have hn : n.kind.listsArguments = false := by rw [hk]; rfl
  have hvalues : (n.bare.namedChildren.filter fun c => c.kind != .comment) =
      (n.namedChildren.filter fun c => c.kind != .comment).map Node.bare :=
    Node.filter_namedChildren_bare (by simp) fun c hc => by simp [(Node.comment_of_isInert hn hc).1]
  rw [operandNode?, operandNode?, Node.child?_bare hn, hvalues, List.head?_map]
  cases n.child? .type <;> rfl

private theorem ofValue_bare (value : Node) : ofValue value.bare = ofValue value := by
  unfold ofValue
  rw [Node.kind_bare, Node.text_bare]
  by_cases hk : value.kind = .typeofExpression
  · rw [operandNode?_bare hk]
    cases operandNode? value <;> simp
  · rw [if_neg (by simp [hk]), if_neg (by simp [hk])]

private theorem ofNode?_bare (hk : n.kind = .attributeArgument) : ofNode? n.bare = ofNode? n := by
  have hn : n.kind.listsArguments = false := by rw [hk]; rfl
  have hvalues : (n.bare.namedChildren.filter fun c => c.kind != .nameColon && c.kind != .comment) =
      (n.namedChildren.filter fun c => c.kind != .nameColon && c.kind != .comment).map Node.bare :=
    Node.filter_namedChildren_bare (by simp) fun c hc => by simp [(Node.comment_of_isInert hn hc).1]
  rw [ofNode?, ofNode?, isAssignment_bare, hvalues, List.getLast?_map]
  cases (n.namedChildren.filter fun c => c.kind != .nameColon && c.kind != .comment).getLast? with
  | none => rfl
  | some value => simp [ofValue_bare]

end WrittenArgument

namespace WrittenAttribute

variable {n : Node}

private theorem argumentsOf_bare (n : Node) : argumentsOf n.bare = argumentsOf n := by
  refine Node.flatMap_namedOfKind_bare (by decide) fun list _ _ => ?_
  rw [Node.namedOfKind, Node.namedOfKind, List.filterMap_filter, List.filterMap_filter]
  refine Node.filterMap_namedChildren_bare (fun c _ _ => ?_) fun c _ hc => ?_
  · by_cases hk : c.kind = .attributeArgument
    · simp [WrittenArgument.ofNode?_bare hk]
    · simp [hk]
  · by_cases hk : c.kind = .attributeArgument
    · simp [WrittenArgument.ofNode?, Node.isAssignment_of_isInert hk hc]
    · simp [hk]

private theorem ofNode?_bare (hk : n.kind = .attribute) (h : n.bare.IsLabelled) : ofNode? n.bare = ofNode? n := by
  have hname := h.name ((Node.kind_bare n).trans hk)
  rw [Node.child?_bare (by rw [hk]; rfl), Option.isSome_map] at hname
  obtain ⟨name, hname⟩ := Option.isSome_iff_exists.mp hname
  simp [ofNode?, nameNode?, Node.child?_bare (n := n) (by rw [hk]; rfl), hname, argumentsOf_bare]

end WrittenAttribute

namespace Header

variable {n : Node}

/-- A header without its place. -/
def unplaced (header : Header) : Header :=
  { header with span := default }

private theorem arityOf_bare (n : Node) : arityOf n.bare = arityOf n := by
  rw [arityOf, arityOf, List.length_flatMap, List.length_flatMap, Node.namedOfKind_bare (by decide),
    List.map_map]
  refine congrArg List.sum (List.map_congr_left fun list _ => ?_)
  rw [Function.comp_apply, Node.namedOfKind_bare (by decide), List.length_map]

private theorem baseOf?_bare {entry : Node} (h : entry.bare.IsLabelled) : baseOf? entry.bare = baseOf? entry := by
  unfold baseOf?
  rw [Node.kind_bare, Node.text_bare]
  split
  · rfl
  · rfl
  · next hk =>
    have htype := h.type ((Node.kind_bare entry).trans hk)
    rw [Node.child?_bare (by rw [hk]; rfl)] at htype ⊢
    obtain ⟨type, htype⟩ := Option.isSome_iff_exists.mp (Option.isSome_map.symm.trans htype)
    simp [htype]
  · rfl

private theorem basesOf_bare (h : n.bare.IsLabelled) : basesOf n.bare = basesOf n := by
  refine Node.flatMap_namedOfKind_bare (by decide) fun list hlist hk => ?_
  have hlabels := h.of_mem_children hlist (by simp [Node.isInert, hk])
  have hn : list.kind.listsArguments = false := by rw [hk]; rfl
  refine Node.filterMap_namedChildren_bare (fun entry hentry hi => ?_) fun entry _ hi => ?_
  · exact baseOf?_bare (hlabels.of_mem_children hentry hi)
  · rw [baseOf?, (Node.comment_of_isInert hn hi).1]

private theorem attributesOf_bare (h : n.bare.IsLabelled) : attributesOf n.bare = attributesOf n := by
  rw [attributesOf, attributesOf, Node.ofKind_bare (by decide), List.flatMap_map]
  refine List.flatMap_congr fun list hlist => ?_
  obtain ⟨hlist, hk⟩ := List.mem_filter.mp hlist
  have hlabels := h.of_mem_children hlist (by simp [Node.isInert, beq_iff_eq.mp hk])
  rw [Node.namedOfKind_bare (by decide), List.filterMap_map]
  refine List.filterMap_congr fun written hmem => ?_
  obtain ⟨hmem, hk⟩ := Node.mem_children_of_mem_namedOfKind hmem
  exact WrittenAttribute.ofNode?_bare hk (hlabels.of_mem_children hmem (by simp [Node.isInert, hk]))

private theorem isPartialNode_bare (n : Node) : isPartialNode n.bare = isPartialNode n := by
  rw [isPartialNode, isPartialNode, Node.children_bare]
  refine Node.any_bareRow (by simp) fun c hc => ?_
  rw [Node.kind_ne_of_isInert hc (by decide), Bool.false_and]

private theorem kindOf_bare (kind : TypeKind) (n : Node) : kindOf kind n.bare = kindOf kind n := by
  rw [kindOf, kindOf, Node.children_bare,
    Node.any_bareRow (by simp) fun c hc => Node.kind_ne_of_isInert hc (by decide)]

/-- What a type declaration says about itself does not depend on what is inert. -/
private theorem ofNode?_bare (h : n.bare.IsLabelled) : ofNode? n.bare = (ofNode? n).map unplaced := by
  unfold ofNode?
  rw [Node.kind_bare]
  split
  · next kind hk =>
    rw [Node.child?_bare (by rw [hk]; rfl), kindOf_bare, arityOf_bare, isPartialNode_bare, basesOf_bare h,
      attributesOf_bare h, Option.map_map, Option.map_map]
    congr 1
    funext name
    simp [unplaced]
  · rfl

end Header

/-! ### Outlines -/

mutual

/-- A type without its place and the places of the types inside it. -/
def TypeOutline.unplaced : TypeOutline → TypeOutline
  | .mk header members => .mk header.unplaced (unplacedAll members)

/-- Types without their places. -/
def TypeOutline.unplacedAll : List TypeOutline → List TypeOutline
  | [] => []
  | type :: types => type.unplaced :: unplacedAll types

end

mutual

/-- A member without the places of its types. -/
def Member.unplaced : Member → Member
  | .type outline => .type outline.unplaced
  | .space name directives members => .space name directives (unplacedAll members)

/-- Members without the places of their types. -/
def Member.unplacedAll : List Member → List Member
  | [] => []
  | member :: members => member.unplaced :: unplacedAll members

end

/-- An outline without the places of its types. -/
def Outline.unplaced (outline : Outline) : Outline :=
  ⟨outline.directives, Member.unplacedAll outline.members⟩

private theorem TypeOutline.unplacedAll_eq (types : List TypeOutline) : unplacedAll types = types.map unplaced := by
  induction types with
  | nil => rfl
  | cons type types ih => rw [unplacedAll, ih, List.map_cons]

namespace TypeOutline

variable {n : Node}

private theorem bodyOf?_bare (hn : n.kind.listsArguments = false) : bodyOf? n.bare = (bodyOf? n).map Node.bare := by
  rw [bodyOf?, bodyOf?, Node.child?_bare hn, Node.namedOfKind_bare (by decide), List.head?_map]
  cases n.child? .body <;> rfl

/-- The type that a node declares does not depend on what is inert. -/
private theorem ofNode?_bare (h : n.bare.IsLabelled) : ofNode? n.bare = (ofNode? n).map unplaced := by
  induction hsize : sizeOf n using Nat.strongRecOn generalizing n with
  | _ size ih =>
    rw [ofNode?_eq, ofNode?_eq n, Header.ofNode?_bare h, Option.map_map, Option.map_map]
    cases hheader : Header.ofNode? n with
    | none => rfl
    | some header =>
      have hn : n.kind.listsArguments = false := by
        unfold Header.ofNode? at hheader
        split at hheader
        · next hk => rw [hk]; rfl
        · cases hheader
      have hbodies := bodyOf?_bare hn
      simp only [Option.map_some, Function.comp_apply, unplaced, unplacedAll_eq]
      cases hbody : bodyOf? n with
      | none => simp [hbodies, hbody]
      | some body =>
        rw [hbody, Option.map_some] at hbodies
        have hlabels := h.children (mem_children_of_bodyOf? hbodies)
        have hlt := Node.sizeOf_lt_of_mem_children (mem_children_of_bodyOf? hbody)
        have hmembers : body.bare.namedChildren.filterMap ofNode? =
            (body.namedChildren.filterMap ofNode?).map unplaced := by
          rw [List.map_filterMap]
          refine Node.filterMap_namedChildren_bare (fun c hc hi => ?_) fun c _ hi => ?_
          · have hlt' := Node.sizeOf_lt_of_mem_children hc
            exact ih (sizeOf c) (by omega) (hlabels.of_mem_children hc hi) rfl
          · rw [ofNode?_of_not_declares (Node.not_declares_of_isInert hi), Option.map_none]
        simp [hbodies, hmembers]

end TypeOutline

private theorem Directive.ofNode?_bare (n : Node) : ofNode? n.bare = ofNode? n := by
  simp [ofNode?]

namespace Outline

open Node (bareRow)

variable {n : Node} {parent : SyntaxKind} {row : List Node} {rest : Outline}

private theorem ownMembers_bare (hn : n.kind.listsArguments = false) :
    ownMembers n.bare = bareRow n.kind (ownMembers n) := by
  rw [ownMembers, ownMembers, Node.children_bare, Node.eraseP_bareRow hn]

private theorem spaceMember_bare (name : Node) (body : Outline) :
    spaceMember name.bare body.unplaced = (spaceMember name body).unplaced := by
  simp [spaceMember, unplaced, Member.unplaced]

private theorem before_inert (hi : n.isInert parent = true) (row : List Node) (rest : Outline) :
    before (n :: row) rest = before row rest := by
  have hdirective : Directive.ofNode? n = none := by
    simp [Directive.ofNode?, Node.kind_ne_of_isInert hi]
  rw [before_cons_of_not_declares (Node.not_declares_of_isInert hi), hdirective]
  rfl

/-- A bare node declares the same, if the rows that it holds do. -/
private theorem before_cons_bare (h : n.bare.IsLabelled)
    (htail : before (bareRow parent row) rest.unplaced = (before row rest).unplaced)
    (hbody : n.kind = .namespaceDeclaration → ∀ body, n.child? .body = some body →
      before (bareRow body.kind body.children) empty = (before body.children empty).unplaced)
    (hown : n.kind = .fileScopedNamespace →
      before (bareRow n.kind (ownMembers n)) (before row rest).unplaced =
        (before (ownMembers n) (before row rest)).unplaced) :
    before (n.bare :: bareRow parent row) rest.unplaced = (before (n :: row) rest).unplaced := by
  rw [before, before, htail, Directive.ofNode?_bare, Node.kind_bare, TypeOutline.ofNode?_bare h]
  split
  · next hk =>
    -- a namespace with a body
    have hn : n.kind.listsArguments = false := by rw [hk]; rfl
    rw [Node.child?_bare hn, Node.child?_bare hn]
    cases n.child? .name with
    | none => rfl
    | some name =>
      cases hb : n.child? .body with
      | none => rfl
      | some body =>
        simp only [Option.map_some, Node.children_bare, hbody hk body hb, spaceMember_bare]
        rfl
  · next hk =>
    -- a namespace that holds the rest of the row
    have hn : n.kind.listsArguments = false := by rw [hk]; rfl
    rw [Node.child?_bare hn, ownMembers_bare hn, hown hk]
    cases n.child? .name with
    | none => rfl
    | some name =>
      simp only [Option.map_some, spaceMember_bare]
      rfl
  · cases TypeOutline.ofNode? n <;> rfl

/-- The outline of a row does not depend on what is inert. -/
private theorem before_bareRow (h : ∀ n ∈ bareRow parent row, n.IsLabelled) (rest : Outline) :
    before (bareRow parent row) rest.unplaced = (before row rest).unplaced := by
  -- a row leads to smaller ones: its tail, the body of a block and the own members of a file-scoped namespace
  induction hsize : sizeOf row using Nat.strongRecOn generalizing parent row rest with
  | _ size ih =>
    cases row with
    | nil => rw [bareRow, before, before]
    | cons n row =>
      rw [List.cons.sizeOf_spec] at hsize
      rw [bareRow] at h ⊢
      by_cases hi : n.isInert parent = true
      · rw [if_pos hi] at h ⊢
        rw [before_inert hi, ih (sizeOf row) (by omega) h rest rfl]
      · rw [if_neg hi] at h ⊢
        obtain ⟨hn, htail⟩ := List.forall_mem_cons.mp h
        refine before_cons_bare hn (ih (sizeOf row) (by omega) htail rest rfl) (fun hk body hb => ?_) fun hk => ?_
        · have hbody : n.bare.child? .body = some body.bare := by
            rw [Node.child?_bare (by rw [hk]; rfl), hb, Option.map_some]
          have hlabels := hn.children (Node.mem_children_of_child? hbody)
          have := Node.sizeOf_lt_of_mem_children (Node.mem_children_of_child? hb)
          have := sizeOf_children_lt body
          refine ih (sizeOf body.children) (by omega) (fun c hc => hlabels.children ?_) empty rfl
          rw [Node.children_bare]
          exact hc
        · have := sizeOf_ownMembers_le n
          have := sizeOf_children_lt n
          refine ih (sizeOf (ownMembers n)) (by omega) (fun c hc => hn.children ?_) _ rfl
          rw [← ownMembers_bare (by rw [hk]; rfl)] at hc
          exact List.mem_of_mem_eraseP hc

/-- A tree with insertions has the outline of the tree without them, up to places. -/
private theorem unplaced_ofNode_of_annotates {tree tree' : Node} (hlabels : tree.IsLabelled)
    (h : Annotates tree.kind tree.children tree'.children) : (ofNode tree').unplaced = (ofNode tree).unplaced := by
  have hbare (c : Node) (hc : c ∈ bareRow tree.kind tree.children) : c.IsLabelled :=
    hlabels.bare.children (by rw [Node.children_bare]; exact hc)
  calc (ofNode tree').unplaced
      = before (bareRow tree.kind tree'.children) empty := (before_bareRow (h.bareRow_eq ▸ hbare) empty).symm
    _ = before (bareRow tree.kind tree.children) empty := by rw [h.bareRow_eq]
    _ = (ofNode tree).unplaced := before_bareRow hbare empty

end Outline

/-! ### Declarations -/

namespace Declaration

/-- A declaration without its place. -/
def unplaced (declaration : Declaration) : Declaration :=
  { declaration with location := default }

mutual

private theorem map_ofType_unplaced (file : File) (scope : Scope) (type : TypeOutline) :
    (ofType file scope type.unplaced).map unplaced = (ofType file scope type).map unplaced := by
  obtain ⟨header, members⟩ := type
  rw [TypeOutline.unplaced, ofType, ofType, List.map_cons, List.map_cons, map_ofTypes_unplaced _ _ members]
  rfl

private theorem map_ofTypes_unplaced (file : File) (scope : Scope) (types : List TypeOutline) :
    (ofTypes file scope (TypeOutline.unplacedAll types)).map unplaced = (ofTypes file scope types).map unplaced := by
  cases types with
  | nil => rfl
  | cons type types =>
    rw [TypeOutline.unplacedAll, ofTypes, ofTypes, List.map_append, List.map_append, map_ofType_unplaced,
      map_ofTypes_unplaced _ _ types]

end

mutual

private theorem map_ofMember_unplaced (file : File) (scope : Scope) (member : Member) :
    (ofMember file scope member.unplaced).map unplaced = (ofMember file scope member).map unplaced := by
  cases member with
  | type type => rw [Member.unplaced, ofMember, ofMember, map_ofType_unplaced]
  | space name directives members => rw [Member.unplaced, ofMember, ofMember, map_ofMembers_unplaced _ _ members]

private theorem map_ofMembers_unplaced (file : File) (scope : Scope) (members : List Member) :
    (ofMembers file scope (Member.unplacedAll members)).map unplaced = (ofMembers file scope members).map unplaced := by
  cases members with
  | nil => rfl
  | cons member members =>
    rw [Member.unplacedAll, ofMembers, ofMembers, List.map_append, List.map_append, map_ofMember_unplaced,
      map_ofMembers_unplaced _ _ members]

end

/-- Comments and assignments to properties have no effect: however many are inserted, wherever in the tree, the
declarations stay the same in number, order and every part but their places. -/
theorem collect_of_annotates {tree tree' : Node} (hlabels : tree.IsLabelled)
    (h : Annotates tree.kind tree.children tree'.children) (file : File) (root : Scope) :
    (collect file root tree').map unplaced = (collect file root tree).map unplaced := by
  have houtline := Outline.unplaced_ofNode_of_annotates hlabels h
  have hcollect (tree : Node) : (collect file root tree).map unplaced =
      (ofOutline file root (Outline.ofNode tree).unplaced).map unplaced :=
    (map_ofMembers_unplaced _ _ _).symm
  rw [hcollect, hcollect, houtline]

end Declaration

namespace ParsedFile

/-- A part of a generic class with an attribute, a base with constructor arguments and a class inside.  Comments stand
around the children of every node and assignments around the argument of the attribute. -/
def annotatedTree (span : Span) (comments assignments : List Node) : Node :=
  let leaf (kind : SyntaxKind) (text : String) (field : Option Field) : Node := ⟨kind, text, span, true, field, []⟩
  let inner (kind : SyntaxKind) (field : Option Field) (children : List Node) : Node :=
    ⟨kind, "", span, true, field, comments ++ children ++ comments⟩
  let name (text : String) := leaf (.other "identifier") text (some .name)
  let argument := inner .attributeArgument none
    [inner .typeofExpression none [leaf (.other "identifier") "Model" none]]
  let mark := inner .attribute none
    [name "Mark", inner .attributeArgumentList none (assignments ++ argument :: assignments)]
  let base := inner .primaryConstructorBase none
    [leaf (.other "identifier") "Base" (some .type), leaf .argumentList "(1)" none]
  inner (.other "compilation_unit") none
    [inner (.typeDeclaration .classType) none
      [inner .attributeList none [mark], leaf .modifier "partial" none, name "Outer",
        inner .typeParameterList none [leaf .typeParameter "T" none], inner .baseList none [base],
        inner .declarationList (some .body) [inner (.typeDeclaration .classType) none [name "Inner"]]]]

/-- A comment. -/
def commentNode : Node :=
  ⟨.comment, "/* note */", default, true, none, []⟩

/-- An assignment to a property. -/
def assignmentNode : Node :=
  ⟨.attributeArgument, "Order = 1", default, true, none,
    [⟨.other "identifier", "Order", default, true, none, []⟩, ⟨.equals, "=", default, false, none, []⟩,
      ⟨.integerLiteral, "1", default, true, none, []⟩]⟩

private theorem isLabelled_annotatedTree : (annotatedTree default [] []).IsLabelled := by
  refine .mk (by decide) (by decide) ?_
  repeat' first
    | exact List.forall_mem_nil _
    | refine List.forall_mem_cons.mpr ⟨.mk (by decide) (by decide) ?_, ?_⟩

private theorem annotates_annotatedTree (span : Span) :
    Annotates (.other "compilation_unit") (annotatedTree default [] []).children
      (annotatedTree span [commentNode, commentNode] [assignmentNode]).children := by
  repeat' first
    | exact .nil
    | refine .comment rfl rfl ?_
    | refine .assignment rfl rfl rfl ?_
    | refine .node span ?_ ?_

end ParsedFile

open ParsedFile in
theorem Declaration.collect_of_annotates_class :
    let collected (tree : Node) := collect ⟨"A.cs", false⟩ .empty tree
    let annotated := annotatedTree ⟨7, 9, ⟨1, 0⟩, ⟨1, 2⟩⟩ [commentNode, commentNode] [assignmentNode]
    ((collected annotated).map fun d => (d.fullName, d.isPartial, d.bases, d.attributes)) =
        [("Outer`1", true, ["Base"], [⟨"Mark", [.typeof "Model"]⟩]), ("Outer`1.Inner", false, [], [])] ∧
      (collected annotated).map unplaced = (collected (annotatedTree default [] [])).map unplaced :=
  ⟨by decide +kernel, collect_of_annotates isLabelled_annotatedTree (annotates_annotatedTree _) _ _⟩

end Rollcall
