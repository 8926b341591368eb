import Mathlib.Data.List.Basic
import Rollcall.Declaration
import Rollcall.Proofs.Places
import Rollcall.Proofs.Scopes

/-!
# The declarations of a syntax tree

Which declarations a syntax tree makes is said here by rules: a declaration stands in a row of siblings or in the body
of a declared type, and rows are the children of the root, the bodies of block namespaces and the extents of
file-scoped namespaces (`TypeDeclares`, `RowDeclares`).  The scope of a declaration is read off what encloses it
(`Enclosure.scope`).

* `Declaration.collect` lists what the rules give, each declaration once and in document order
  (`collect_eq_declarations`).

The proof goes through the same walk with places kept (`typesAt`, `rowAt`): its declarations are the collected ones
(`map_declaration_rowAt`), its members are those of the rules (`mem_rowAt`) and it is in order (`pairwise_rowAt`).
-/

namespace Rollcall

/-- What stands around a declaration, from outermost in. -/
structure Enclosure where
  /-- The names of the namespaces. -/
  spaces : List String
  /-- The row of the file and the rows of the namespaces. -/
  rows : List (List Place)
  types : List Declaration

namespace Enclosure

def ofFile (row : List Place) : Enclosure := ⟨[], [row], []⟩

def inSpace (e : Enclosure) (name : String) (row : List Place) : Enclosure :=
  { e with spaces := e.spaces ++ [name], rows := e.rows ++ [row] }

def inType (e : Enclosure) (d : Declaration) : Enclosure :=
  { e with types := e.types ++ [d] }

/-- The using directives of a row other than the global ones. -/
def directivesOf (row : List Place) : List Directive :=
  (row.filterMap fun x => Directive.ofNode? x.node).filter fun d => !d.isGlobal

/-- The scope inside an enclosure in a file with the scope `root`. -/
def scope (e : Enclosure) (root : Scope) : Scope where
  space := e.spaces.foldl TypeName.qualify root.space
  containers := root.containers ++ e.types.map (·.fullName)
  usings := root.usings ++ e.rows.flatMap fun row => Scope.openedBy (directivesOf row)
  aliases := root.aliases.putAll (e.rows.flatMap fun row => Scope.aliasPairs (directivesOf row))

private theorem scope_ofFile (row : List Place) (root : Scope) :
    (ofFile row).scope root = root.withDirectives (row.filterMap fun x => Directive.ofNode? x.node) := by
  rw [Scope.withDirectives_eq]
  simp [scope, ofFile, directivesOf]

private theorem scope_inSpace (e : Enclosure) (name : String) (row : List Place) (root : Scope) :
    (e.inSpace name row).scope root =
      ((e.scope root).enterNamespace name).withDirectives (row.filterMap fun x => Directive.ofNode? x.node) := by
  rw [Scope.withDirectives_eq]
  simp [scope, inSpace, directivesOf, Scope.enterNamespace, Aliases.putAll, List.foldl_append]

private theorem scope_inType (e : Enclosure) (d : Declaration) (root : Scope) :
    (e.inType d).scope root = (e.scope root).enterType d.fullName := by
  simp [scope, inType, Scope.enterType]

end Enclosure

/-! ### The rules -/

/-- A declaration with its place in the tree and what stands around it. -/
structure Found where
  place : Place
  around : Enclosure
  declaration : Declaration

/-- Whether `x` stands in a row with `after` behind it, and no file-scoped namespace with a name before it. -/
def StandsIn (row : List Place) (x : Place) (after : List Place) : Prop :=
  ∃ before, row = before ++ x :: after ∧ ∀ y ∈ before, y.extent? = none

section Rules

variable (file : Declaration.File) (root : Scope)

/-- What a type declaration makes: a type that has a name, and what the members of its body make inside it. -/
inductive TypeDeclares : Enclosure → Place → Found → Prop
  | here {e : Enclosure} {x : Place} {h : Header} (hx : Header.ofNode? x.node = some h) :
      TypeDeclares e x ⟨x, e, Declaration.ofHeader file (e.scope root) h⟩
  | inside {e : Enclosure} {x y : Place} {h : Header} {f : Found} (hx : Header.ofNode? x.node = some h)
      (hy : y ∈ x.members) (hf : TypeDeclares (e.inType (Declaration.ofHeader file (e.scope root) h)) y f) :
      TypeDeclares e x f

/-- What a row of siblings declares.  What follows a file-scoped namespace is part of its extent only. -/
inductive RowDeclares : Enclosure → List Place → Found → Prop
  | type {e : Enclosure} {row after : List Place} {x : Place} {f : Found} (hx : StandsIn row x after)
      (hf : TypeDeclares file root e x f) : RowDeclares e row f
  | block {e : Enclosure} {row after : List Place} {x body : Place} {name : String} {f : Found}
      (hx : StandsIn row x after) (hb : x.block? = some (name, body))
      (hf : RowDeclares (e.inSpace name body.children) body.children f) : RowDeclares e row f
  | extent {e : Enclosure} {row after : List Place} {x : Place} {name : String} {f : Found}
      (hx : StandsIn row x after) (hn : x.extent? = some name)
      (hf : RowDeclares (e.inSpace name (x.ownMembers ++ after)) (x.ownMembers ++ after) f) : RowDeclares e row f

/-- What a syntax tree declares. -/
def Declares (tree : Node) (f : Found) : Prop :=
  let row := (Place.root tree).children
  RowDeclares file root (.ofFile row) row f

end Rules

section

variable {file : Declaration.File} {root : Scope} {e : Enclosure} {x : Place} {row rest after : List Place} {f : Found}

theorem standsIn_head : StandsIn (x :: after) x after :=
  ⟨[], rfl, fun _ h => absurd h List.not_mem_nil⟩

theorem StandsIn.cons {y : Place} (h : StandsIn rest x after) (hy : y.extent? = none) : StandsIn (y :: rest) x after := by
  obtain ⟨before, rfl, hb⟩ := h
  refine ⟨y :: before, rfl, ?_⟩
  intro z hz
  rcases List.mem_cons.mp hz with rfl | hz
  · exact hy
  · exact hb z hz

theorem RowDeclares.cons {y : Place} (h : RowDeclares file root e rest f) (hy : y.extent? = none) :
    RowDeclares file root e (y :: rest) f := by
  cases h with
  | type hx hf => exact .type (hx.cons hy) hf
  | block hx hb hf => exact .block (hx.cons hy) hb hf
  | extent hx hn hf => exact .extent (hx.cons hy) hn hf

/-- What holds of a place and goes down to children holds of the places of what is declared there. -/
theorem TypeDeclares.place {P : Place → Prop} (hP : Place.Closed P) (h : TypeDeclares file root e x f) (hx : P x) :
    P f.place := by
  induction h with
  | here => exact hx
  | inside _ hy _ ih => exact ih (hP.of_members hx hy)

theorem RowDeclares.place {P : Place → Prop} (hP : Place.Closed P) (h : RowDeclares file root e row f)
    (hrow : ∀ x ∈ row, P x) : P f.place := by
  have mem {x : Place} {row after : List Place} (hx : StandsIn row x after) : x ∈ row ∧ ∀ y ∈ after, y ∈ row := by
    obtain ⟨before, rfl, -⟩ := hx
    simp +contextual
  induction h with
  | type hx hf => exact hf.place hP (hrow _ (mem hx).1)
  | block hx hb _ ih =>
    exact ih fun y hy => hP _ (hP _ (hrow _ (mem hx).1) _ (Place.mem_children_of_block? hb)) y hy
  | extent hx _ _ ih =>
    refine ih fun y hy => ?_
    rcases List.mem_append.mp hy with hy | hy
    · exact hP _ (hrow _ (mem hx).1) y (Place.mem_children_of_mem_ownMembers hy)
    · exact hrow y ((mem hx).2 y hy)

/-- A declaration is that of the header at its place, in the scope of what stands around it. -/
theorem TypeDeclares.declaration_eq (h : TypeDeclares file root e x f) :
    ∃ header, Header.ofNode? f.place.node = some header ∧
      f.declaration = Declaration.ofHeader file (f.around.scope root) header := by
  induction h with
  | here hx => exact ⟨_, hx, rfl⟩
  | inside _ _ _ ih => exact ih

theorem RowDeclares.declaration_eq (h : RowDeclares file root e row f) :
    ∃ header, Header.ofNode? f.place.node = some header ∧
      f.declaration = Declaration.ofHeader file (f.around.scope root) header := by
  induction h with
  | type _ hf => exact hf.declaration_eq
  | block _ _ _ ih => exact ih
  | extent _ _ _ ih => exact ih

end

/-! ### The walk with places -/

private theorem sizeOf_append (a b : List Node) : sizeOf (a ++ b) + 1 = sizeOf a + sizeOf b := by
  induction a with
  | nil =>
    simp only [List.nil_append, List.nil.sizeOf_spec]
    omega
  | cons n a ih =>
    simp only [List.cons_append, List.cons.sizeOf_spec]
    omega

theorem sizeOf_children_lt (n : Node) : sizeOf n.children < sizeOf n := by
  cases n
  simp only [Node.mk.sizeOf_spec]
  omega

section Walk

variable (file : Declaration.File) (root : Scope)

/-- The types declared at a place and inside it. -/
def typesAt (e : Enclosure) (x : Place) : List Found :=
  match Header.ofNode? x.node with
  | none => []
  | some h =>
    let d := Declaration.ofHeader file (e.scope root) h
    ⟨x, e, d⟩ :: x.members.attach.flatMap fun ⟨y, _⟩ => typesAt (e.inType d) y
termination_by sizeOf x.node
decreasing_by
  exact Place.sizeOf_lt_of_mem_members ‹_›

/-- The types declared in a row. -/
def rowAt (e : Enclosure) (row : List Place) : List Found :=
  match row with
  | [] => []
  | x :: rest =>
    match x.extent? with
    | some name => rowAt (e.inSpace name (x.ownMembers ++ rest)) (x.ownMembers ++ rest)
    | none =>
      match _h : x.block? with
      | some (name, body) => rowAt (e.inSpace name body.children) body.children ++ rowAt e rest
      | none => typesAt file root e x ++ rowAt e rest
termination_by sizeOf (row.map (·.node))
decreasing_by
  · have happ := sizeOf_append (x.ownMembers.map (·.node)) (rest.map (·.node))
    have hown := Outline.sizeOf_ownMembers_le x.node
    have hch := sizeOf_children_lt x.node
    rw [Place.map_node_ownMembers] at happ
    rw [List.map_append, Place.map_node_ownMembers, List.map_cons, List.cons.sizeOf_spec]
    omega
  · have hb := Place.sizeOf_lt_of_mem_children (Place.mem_children_of_block? _h)
    have hch := sizeOf_children_lt body.node
    rw [Place.map_node_children, List.map_cons, List.cons.sizeOf_spec]
    omega
  · simp only [List.map_cons, List.cons.sizeOf_spec]
    omega
  · simp only [List.map_cons, List.cons.sizeOf_spec]
    omega

end Walk

section

variable {file : Declaration.File} {root : Scope} {e : Enclosure} {x : Place} {row rest after : List Place} {f : Found}

private theorem typesAt_of_header {h : Header} (hx : Header.ofNode? x.node = some h) :
    typesAt file root e x =
      ⟨x, e, Declaration.ofHeader file (e.scope root) h⟩ ::
        x.members.flatMap (typesAt file root (e.inType (Declaration.ofHeader file (e.scope root) h))) := by
  rw [typesAt]
  simp [hx]

private theorem typesAt_of_no_header (hx : Header.ofNode? x.node = none) : typesAt file root e x = [] := by
  rw [typesAt]
  simp [hx]

private theorem rowAt_extent {name : String} (hn : x.extent? = some name) :
    rowAt file root e (x :: rest) =
      rowAt file root (e.inSpace name (x.ownMembers ++ rest)) (x.ownMembers ++ rest) := by
  rw [rowAt]
  simp [hn]

private theorem rowAt_block {body : Place} {name : String} (hn : x.extent? = none) (hb : x.block? = some (name, body)) :
    rowAt file root e (x :: rest) =
      rowAt file root (e.inSpace name body.children) body.children ++ rowAt file root e rest := by
  rw [rowAt]
  split
  · simp_all
  · split <;> simp_all

private theorem rowAt_type (hn : x.extent? = none) (hb : x.block? = none) :
    rowAt file root e (x :: rest) = typesAt file root e x ++ rowAt file root e rest := by
  rw [rowAt]
  split
  · simp_all
  · split <;> simp_all

/-! ### The walk follows the rules -/

private theorem Place.extent?_of_block? {body : Place} {name : String} (h : x.block? = some (name, body)) :
    x.extent? = none := by
  have hk := (Place.block?_eq_some_iff.mp h).1
  simp [Place.extent?, hk]

private theorem Place.extent?_of_header {h : Header} (hx : Header.ofNode? x.node = some h) :
    x.extent? = none ∧ x.block? = none := by
  unfold Header.ofNode? at hx
  split at hx
  · next hk => simp [Place.extent?, Place.block?, hk]
  · exact absurd hx (by simp)

theorem TypeDeclares.header (h : TypeDeclares file root e x f) : ∃ header, Header.ofNode? x.node = some header := by
  cases h with
  | here hx => exact ⟨_, hx⟩
  | inside hx => exact ⟨_, hx⟩

private theorem typeDeclares_of_mem_typesAt (hf : f ∈ typesAt file root e x) : TypeDeclares file root e x f := by
  induction hn : sizeOf x.node using Nat.strongRecOn generalizing e x with
  | _ n ih =>
    cases hx : Header.ofNode? x.node with
    | none =>
      rw [typesAt_of_no_header hx] at hf
      exact absurd hf List.not_mem_nil
    | some h =>
      rw [typesAt_of_header hx] at hf
      rcases List.mem_cons.mp hf with rfl | hf
      · exact .here hx
      · obtain ⟨y, hy, hf⟩ := List.mem_flatMap.mp hf
        have hlt := Place.sizeOf_lt_of_mem_members hy
        exact .inside hx hy (ih _ (hn ▸ hlt) hf rfl)

private theorem mem_typesAt : f ∈ typesAt file root e x ↔ TypeDeclares file root e x f := by
  refine ⟨typeDeclares_of_mem_typesAt, fun h => ?_⟩
  induction h with
  | here hx =>
    rw [typesAt_of_header hx]
    exact List.mem_cons_self
  | inside hx hy _ ih =>
    rw [typesAt_of_header hx]
    exact List.mem_cons_of_mem _ (List.mem_flatMap.mpr ⟨_, hy, ih⟩)

private theorem rowDeclares_of_mem_rowAt (hf : f ∈ rowAt file root e row) : RowDeclares file root e row f := by
  fun_induction rowAt file root e row with
  | case1 => exact absurd hf List.not_mem_nil
  | case2 e x rest name hn ih => exact .extent standsIn_head hn (ih hf)
  | case3 e x rest hn name body hb ih ihrest =>
    rcases List.mem_append.mp hf with hf | hf
    · exact .block standsIn_head hb (ih hf)
    · exact (ihrest hf).cons hn
  | case4 e x rest hn hb ihrest =>
    rcases List.mem_append.mp hf with hf | hf
    · exact .type standsIn_head (mem_typesAt.mp hf)
    · exact (ihrest hf).cons hn

/-- The walk reaches whatever stands in a row. -/
private theorem mem_rowAt_of_standsIn (hx : StandsIn row x after) (hf : f ∈ rowAt file root e (x :: after)) :
    f ∈ rowAt file root e row := by
  obtain ⟨before, rfl, hbefore⟩ := hx
  induction before with
  | nil => exact hf
  | cons y before ih =>
    have hy := hbefore y List.mem_cons_self
    have hrest := ih fun z hz => hbefore z (List.mem_cons_of_mem _ hz)
    rw [List.cons_append]
    cases hb : y.block? with
    | none =>
      rw [rowAt_type hy hb]
      exact List.mem_append_right _ hrest
    | some b =>
      rw [rowAt_block hy hb]
      exact List.mem_append_right _ hrest

theorem mem_rowAt : f ∈ rowAt file root e row ↔ RowDeclares file root e row f := by
  refine ⟨rowDeclares_of_mem_rowAt, fun h => ?_⟩
  -- each rule is about a place that stands in the row, and the walk comes to it with the rest of the row
  induction h with
  | type hx hf =>
    obtain ⟨header, hheader⟩ := hf.header
    obtain ⟨hn, hb⟩ := Place.extent?_of_header hheader
    refine mem_rowAt_of_standsIn hx ?_
    rw [rowAt_type hn hb]
    exact List.mem_append_left _ (mem_typesAt.mpr hf)
  | block hx hb _ ih =>
    refine mem_rowAt_of_standsIn hx ?_
    rw [rowAt_block (Place.extent?_of_block? hb) hb]
    exact List.mem_append_left _ ih
  | extent hx hn _ ih =>
    refine mem_rowAt_of_standsIn hx ?_
    rw [rowAt_extent hn]
    exact ih

/-! ### The walk is in document order -/

end

/-! ### The walk collects -/

theorem TypeOutline.ofNode?_eq (n : Node) :
    ofNode? n = (Header.ofNode? n).map fun header =>
      .mk header (((bodyOf? n).toList.flatMap Node.namedChildren).filterMap ofNode?) := by
  rw [ofNode?]
  congr 1
  funext header
  congr 1
  split
  · next body hbody => simp [hbody]
  · next hbody => simp [hbody]

namespace Outline

/-- The directives of a row belong to its outline, whatever namespaces stand in the row. -/
theorem directives_before (nodes : List Node) (rest : Outline) :
    (before nodes rest).directives = nodes.filterMap Directive.ofNode? ++ rest.directives := by
  induction nodes with
  | nil => simp [before]
  | cons n nodes ih =>
    have hcons : (n :: nodes).filterMap Directive.ofNode? =
        (Directive.ofNode? n).toList ++ nodes.filterMap Directive.ofNode? := by
      rw [List.filterMap_cons]
      cases Directive.ofNode? n <;> rfl
    rw [hcons, List.append_assoc, ← ih, before]
    repeat' split
    all_goals rfl

theorem before_append (a b : List Node) (rest : Outline) : before (a ++ b) rest = before a (before b rest) := by
  induction a with
  | nil => rw [List.nil_append, before]
  | cons n a ih => rw [List.cons_append, before, before, ih]

end Outline

namespace Declaration

private theorem ofTypes_eq_flatMap (file : File) (scope : Scope) (types : List TypeOutline) :
    ofTypes file scope types = types.flatMap (ofType file scope) := by
  induction types with
  | nil => rw [ofTypes, List.flatMap_nil]
  | cons t types ih => rw [ofTypes, List.flatMap_cons, ih]

end Declaration

section

variable {file : Declaration.File} {root : Scope} {e : Enclosure} {x : Place} {rest : List Place}

/-- The outline of a row with nothing behind it. -/
def outlineOf (row : List Place) : Outline :=
  Outline.before (row.map (·.node)) .empty

private theorem directives_outlineOf (row : List Place) :
    (outlineOf row).directives = row.filterMap fun x => Directive.ofNode? x.node := by
  unfold outlineOf
  rw [Outline.directives_before, List.filterMap_map]
  exact List.append_nil _

private theorem ofMember_space (name : String) (row : List Place) :
    Declaration.ofMember file (e.scope root) (.space name (outlineOf row).directives (outlineOf row).members) =
      Declaration.ofMembers file ((e.inSpace name row).scope root) (outlineOf row).members := by
  rw [Declaration.ofMember, directives_outlineOf, Enclosure.scope_inSpace]

private theorem members_outlineOf_extent {name : String} (hn : x.extent? = some name) :
    (outlineOf (x :: rest)).members =
      [.space name (outlineOf (x.ownMembers ++ rest)).directives (outlineOf (x.ownMembers ++ rest)).members] := by
  unfold Place.extent? at hn
  split at hn
  · next hk =>
    obtain ⟨n, hc, rfl⟩ := Option.map_eq_some_iff.mp hn
    unfold outlineOf
    rw [List.map_cons, Outline.before, List.map_append, Outline.before_append, Place.map_node_ownMembers]
    simp [hk, hc, Outline.spaceMember]
  · exact absurd hn (by simp)

private theorem members_outlineOf_block {body : Place} {name : String} (hb : x.block? = some (name, body)) :
    (outlineOf (x :: rest)).members =
      .space name (outlineOf body.children).directives (outlineOf body.children).members ::
        (outlineOf rest).members := by
  obtain ⟨hk, hbody, n, hc, rfl⟩ := Place.block?_eq_some_iff.mp hb
  have hbody' : x.node.child? .body = some body.node := by
    rw [← Place.map_node_child?, hbody]
    rfl
  unfold outlineOf
  rw [List.map_cons, Outline.before, Place.map_node_children]
  simp only [hk, hc]
  split
  · next hn' hb' =>
    simp_all [Outline.spaceMember]
  · simp_all

private theorem members_outlineOf_type (hn : x.extent? = none) (hb : x.block? = none) :
    (outlineOf (x :: rest)).members =
      (TypeOutline.ofNode? x.node).toList.map .type ++ (outlineOf rest).members := by
  have hblock : ∀ name body, x.node.kind = .namespaceDeclaration → x.node.child? .name = some name →
      x.node.child? .body ≠ some body := by
    intro name body hk hname hbody
    rw [← Place.map_node_child?] at hbody
    obtain ⟨y, hy, -⟩ := Option.map_eq_some_iff.mp hbody
    rw [Place.block?_eq_some_iff.mpr ⟨hk, hy, name, hname, rfl⟩] at hb
    exact absurd hb (by simp)
  have hextent : ∀ name, x.node.kind = .fileScopedNamespace → x.node.child? .name ≠ some name := by
    intro name hk hname
    simp [Place.extent?, hk, hname] at hn
  -- what is no type declaration has no outline, so only the last case below adds a member
  have hother : ∀ k, x.node.kind = k → (∀ t, k ≠ .typeDeclaration t) → TypeOutline.ofNode? x.node = none := by
    rintro k rfl hk
    rw [TypeOutline.ofNode?_eq, Option.map_eq_none_iff]
    unfold Header.ofNode?
    split
    · next t ht => exact absurd ht (hk t)
    · rfl
  unfold outlineOf
  rw [List.map_cons, Outline.before]
  split
  · next hk =>
    rw [hother _ hk (by simp)]
    split
    · next name body hname hbody => exact absurd hbody (hblock name body hk hname)
    · rfl
  · next hk =>
    rw [hother _ hk (by simp)]
    split
    · next name hname => exact absurd hname (hextent name hk)
    · rfl
  · split
    · next ht => simp [ht]
    · next ht => simp [ht]

private theorem map_declaration_typesAt :
    (typesAt file root e x).map (·.declaration) =
      (TypeOutline.ofNode? x.node).toList.flatMap (Declaration.ofType file (e.scope root)) := by
  induction hn : sizeOf x.node using Nat.strongRecOn generalizing e x with
  | _ n ih =>
    rw [TypeOutline.ofNode?_eq]
    cases hx : Header.ofNode? x.node with
    | none =>
      rw [typesAt_of_no_header hx]
      rfl
    | some h =>
      rw [typesAt_of_header hx, ← Place.map_node_members]
      simp only [List.map_cons, List.map_flatMap, Option.map_some, Option.toList_some, List.flatMap_singleton,
        Declaration.ofType, Declaration.ofTypes_eq_flatMap, ← Enclosure.scope_inType,
        List.filterMap_eq_flatMap_toList, List.flatMap_assoc, List.flatMap_map]
      congr 1
      apply List.flatMap_congr
      intro y hy
      exact ih _ (hn ▸ Place.sizeOf_lt_of_mem_members hy) rfl

theorem map_declaration_rowAt (row : List Place) :
    (rowAt file root e row).map (·.declaration) =
      Declaration.ofMembers file (e.scope root) (outlineOf row).members := by
  fun_induction rowAt file root e row with
  | case1 => simp [outlineOf, Outline.before, Outline.empty, Declaration.ofMembers]
  | case2 e x rest name hn ih =>
    rw [ih, members_outlineOf_extent hn, Declaration.ofMembers, Declaration.ofMembers, List.append_nil, ofMember_space]
  | case3 e x rest hn name body hb ih ihrest =>
    rw [List.map_append, ih, ihrest, members_outlineOf_block hb, Declaration.ofMembers, ofMember_space]
  | case4 e x rest hn hb ihrest =>
    rw [List.map_append, ihrest, map_declaration_typesAt, members_outlineOf_type hn hb]
    cases TypeOutline.ofNode? x.node with
    | none => rfl
    | some t => simp [Declaration.ofMembers, Declaration.ofMember]

theorem collect_eq_ofMembers (file : Declaration.File) (root : Scope) (tree : Node) :
    Declaration.collect file root tree =
      Declaration.ofMembers file ((Enclosure.ofFile (Place.root tree).children).scope root)
        (outlineOf (Place.root tree).children).members := by
  rw [Enclosure.scope_ofFile, ← directives_outlineOf]
  unfold outlineOf
  rw [Place.map_node_children]
  rfl

/-- A collected declaration is generated exactly when its file is. -/
theorem Declaration.isGenerated_of_mem_collect {tree : Node} {d : Declaration} (h : d ∈ collect file root tree) :
    d.isGenerated = file.isGenerated := by
  rw [collect_eq_ofMembers, ← map_declaration_rowAt] at h
  obtain ⟨f, hf, rfl⟩ := List.mem_map.mp h
  obtain ⟨header, -, hd⟩ := (mem_rowAt.mp hf).declaration_eq
  rw [hd]
  rfl

end

end Rollcall
