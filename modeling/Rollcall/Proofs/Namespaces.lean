import Rollcall.Proofs.Globals

/-!
# The forms of a namespace

A namespace is written in one of three forms: as a file-scoped namespace with its members behind it, as a file-scoped
namespace that holds its members, or as a block (`WritesSpace`).  The form makes no difference to what a file declares,
nor to what names mean there (`collect_writesSpace`).

* Directives among members that stand behind a file-scoped namespace take effect twice, in the file and in the
  namespace.  That opens namespaces again and gives aliases the targets they have, so the scopes are equal up to
  namespaces that are opened again (`SameButRepeats`).
* Whatever form it has, the outline of a namespace is that of its members under its name (`WritesSpace.outline`).
-/

namespace Rollcall

/-! ### Scopes that differ in repeated namespaces -/

namespace Scope

/-- Scopes that are equal up to namespaces that are opened again. -/
structure SameButRepeats (s s' : Scope) : Prop where
  space : s'.space = s.space
  containers : s'.containers = s.containers
  aliases : s'.aliases = s.aliases
  usings : s'.usings.eraseDups = s.usings.eraseDups

namespace SameButRepeats

variable {s s' s'' : Scope}

theorem symm (h : SameButRepeats s s') : SameButRepeats s' s :=
  ⟨h.space.symm, h.containers.symm, h.aliases.symm, h.usings.symm⟩

theorem trans (h : SameButRepeats s s') (h' : SameButRepeats s' s'') : SameButRepeats s s'' :=
  ⟨h'.space.trans h.space, h'.containers.trans h.containers, h'.aliases.trans h.aliases, h'.usings.trans h.usings⟩

private theorem sameNames (h : SameButRepeats s s') : SameNames s s' := by
  refine ⟨h.space, h.containers, h.aliases, fun find => ?_⟩
  rw [← findSome?_eraseDups, h.usings, findSome?_eraseDups]

end SameButRepeats

private theorem isKept_sameButRepeats : IsKept SameButRepeats where
  qualifier h := h.sameNames.qualifier
  enterNamespace h name := ⟨congrArg (TypeName.qualify · name) h.space, h.containers, h.aliases, h.usings⟩
  enterType h fullName := ⟨h.space, congrArg (· ++ [fullName]) h.containers, h.aliases, h.usings⟩
  withDirectives h directives := by
    rw [withDirectives_eq, withDirectives_eq]
    exact ⟨h.space, h.containers, congrArg (Aliases.putAll · _) h.aliases, eraseDups_append_congr h.usings _⟩

/-- Directives that a namespace shares with its file open no further namespace and change no alias. -/
private theorem sameButRepeats_withDirectives (s : Scope) (name : String) (first shared : List Directive) :
    SameButRepeats (((s.withDirectives first).enterNamespace name).withDirectives shared)
      (((s.withDirectives (first ++ shared)).enterNamespace name).withDirectives shared) := by
  simp only [withDirectives_eq, enterNamespace, List.filter_append, openedBy, aliasPairs, List.filterMap_append,
    Aliases.putAll, List.foldl_append, ← List.append_assoc]
  exact ⟨rfl, rfl, Aliases.putAll_putAll_self _ _, eraseDups_append_self _ _⟩

end Scope

/-! ### Nodes without effect -/

/-- Whether nodes of a kind declare types or namespaces. -/
def SyntaxKind.declares : SyntaxKind → Bool
  | .namespaceDeclaration => true
  | .fileScopedNamespace => true
  | .typeDeclaration _ => true
  | _ => false

/-- Whether a node is a declaration or a directive, and no punctuation or comment. -/
def Node.counts (n : Node) : Bool :=
  n.kind.declares || n.kind == .usingDirective

theorem TypeOutline.ofNode?_of_not_declares {n : Node} (hn : n.kind.declares = false) : ofNode? n = none := by
  rw [ofNode?_eq, Header.ofNode?]
  split
  · next kind hk => simp [hk, SyntaxKind.declares] at hn
  · rfl

namespace Outline

variable {n : Node} {nodes : List Node}

theorem before_cons_of_not_declares (hn : n.kind.declares = false) (nodes : List Node) (rest : Outline) :
    before (n :: nodes) rest =
      ⟨(Directive.ofNode? n).toList ++ (before nodes rest).directives, (before nodes rest).members⟩ := by
  rw [before, TypeOutline.ofNode?_of_not_declares hn]
  split
  · next hk => simp [hk, SyntaxKind.declares] at hn
  · next hk => simp [hk, SyntaxKind.declares] at hn
  · rfl

/-- Of nodes that declare nothing only the directives matter. -/
private theorem before_of_not_declares (hnodes : ∀ n ∈ nodes, n.kind.declares = false) (rest : Outline) :
    before nodes rest = ⟨nodes.filterMap Directive.ofNode? ++ rest.directives, rest.members⟩ := by
  induction nodes with
  | nil => rw [before]; rfl
  | cons n nodes ih =>
    obtain ⟨hn, hnodes⟩ := List.forall_mem_cons.mp hnodes
    rw [before_cons_of_not_declares hn, ih hnodes, List.filterMap_cons]
    cases Directive.ofNode? n <;> rfl

/-- Punctuation and comments have no effect. -/
private theorem before_filter_counts (nodes : List Node) (rest : Outline) :
    before (nodes.filter (·.counts)) rest = before nodes rest := by
  induction nodes with
  | nil => rfl
  | cons n nodes ih =>
    cases hn : n.counts with
    | true => rw [List.filter_cons_of_pos hn, before, before, ih]
    | false =>
      obtain ⟨hdeclares, husing⟩ := Bool.or_eq_false_iff.mp hn
      have hdirective : Directive.ofNode? n = none := by simp [Directive.ofNode?, husing]
      rw [List.filter_cons_of_neg (by simp [hn]), ih, before_cons_of_not_declares hdeclares, hdirective]
      rfl

private theorem before_block {name body : Node} (hk : n.kind = .namespaceDeclaration) (hn : n.child? .name = some name)
    (hb : n.child? .body = some body) (nodes : List Node) (rest : Outline) :
    before (n :: nodes) rest =
      ⟨(before nodes rest).directives, spaceMember name (before body.children empty) :: (before nodes rest).members⟩ := by
  have hdirective : Directive.ofNode? n = none := by simp [Directive.ofNode?, hk]
  rw [before]
  simp only [hk, hdirective]
  split
  · next hname hbody =>
    cases hn.symm.trans hname
    cases hb.symm.trans hbody
    rfl
  · next hnone => exact absurd hb (hnone name body hn)

private theorem before_fileScoped {name : Node} (hk : n.kind = .fileScopedNamespace) (hn : n.child? .name = some name)
    (nodes : List Node) (rest : Outline) :
    before (n :: nodes) rest =
      ⟨(before nodes rest).directives, [spaceMember name (before (ownMembers n) (before nodes rest))]⟩ := by
  have hdirective : Directive.ofNode? n = none := by simp [Directive.ofNode?, hk]
  rw [before]
  simp only [hk, hn, hdirective]
  rfl

end Outline

/-! ### The three forms -/

/-- Whether a row of nodes writes a namespace with some name and members.  Punctuation and comments may stand around the
members. -/
inductive WritesSpace (name : String) (members : List Node) : List Node → Prop
  /-- The members stand behind a file-scoped namespace. -/
  | heading {n nameNode : Node} (hk : n.kind = .fileScopedNamespace) (hn : n.child? .name = some nameNode)
      (ht : nameNode.text = name) (hm : (Outline.ownMembers n).filter (·.counts) = []) :
      WritesSpace name members (n :: members)
  /-- A file-scoped namespace holds the members. -/
  | holding {n nameNode : Node} (hk : n.kind = .fileScopedNamespace) (hn : n.child? .name = some nameNode)
      (ht : nameNode.text = name)
      (hm : (Outline.ownMembers n).filter (·.counts) = members.filter (·.counts)) : WritesSpace name members [n]
  /-- The members are the body of a block. -/
  | block {n nameNode body : Node} (hk : n.kind = .namespaceDeclaration) (hn : n.child? .name = some nameNode)
      (ht : nameNode.text = name) (hb : n.child? .body = some body)
      (hm : body.children.filter (·.counts) = members.filter (·.counts)) : WritesSpace name members [n]

namespace WritesSpace

variable {name : String} {members row : List Node}

/-- The outline of a namespace is that of its members.  The directives among them may be read in front of it as
well. -/
theorem outline (h : WritesSpace name members row) :
    ∃ shared, (shared = [] ∨ shared = (Outline.before members .empty).directives) ∧
      Outline.before row .empty = ⟨shared, [.space (TypeName.key name) (Outline.before members .empty).directives
        (Outline.before members .empty).members]⟩ := by
  have hsame {nodes nodes' : List Node} (hm : nodes.filter (·.counts) = nodes'.filter (·.counts)) (rest : Outline) :
      Outline.before nodes rest = Outline.before nodes' rest := by
    rw [← Outline.before_filter_counts nodes, hm, Outline.before_filter_counts]
  cases h with
  | @heading n nameNode hk hn ht hm =>
    have hnone : Outline.before (Outline.ownMembers n) (Outline.before members .empty) =
        Outline.before [] (Outline.before members .empty) := hsame hm _
    refine ⟨_, .inr rfl, ?_⟩
    rw [Outline.before_fileScoped hk hn, hnone, Outline.before, Outline.spaceMember, ht]
  | @holding n nameNode hk hn ht hm =>
    refine ⟨[], .inl rfl, ?_⟩
    rw [Outline.before_fileScoped hk hn, Outline.before, hsame hm, Outline.spaceMember, ht]
    rfl
  | @block n nameNode body hk hn ht hb hm =>
    refine ⟨[], .inl rfl, ?_⟩
    rw [Outline.before_block hk hn hb, Outline.before, hsame hm, Outline.spaceMember, ht]
    rfl

end WritesSpace

namespace Declaration

/-- Declarations that are equal up to namespaces that their scopes open again, so that every name means the same in both
scopes. -/
structure SameButRepeats (d d' : Declaration) : Prop extends Alike d d' where
  scope : Scope.SameButRepeats d.scope d'.scope

variable {name : String} {first members row row' : List Node} {tree tree' : Node}

/-- A file that ends with a namespace declares what the members declare in the scope of the namespace. -/
private theorem exists_collect_eq (file : File) (root : Scope) (hfirst : ∀ n ∈ first, n.kind.declares = false)
    (hrow : WritesSpace name members row) (htree : tree.children = first ++ row) :
    ∃ scope, collect file root tree = ofMembers file scope (Outline.before members .empty).members ∧
      Scope.SameButRepeats
        (((root.withDirectives (first.filterMap Directive.ofNode?)).enterNamespace (TypeName.key name)).withDirectives
          (Outline.before members .empty).directives) scope := by
  obtain ⟨shared, hshared, houtline⟩ := hrow.outline
  have hcollect : collect file root tree = ofMembers file
      (((root.withDirectives (first.filterMap Directive.ofNode? ++ shared)).enterNamespace
        (TypeName.key name)).withDirectives (Outline.before members .empty).directives)
      (Outline.before members .empty).members := by
    rw [collect, ofOutline, Outline.ofNode, htree, Outline.before_append, houtline, Outline.before_of_not_declares hfirst,
      ofMembers, ofMembers, ofMember, List.append_nil]
  refine ⟨_, hcollect, ?_⟩
  rcases hshared with rfl | rfl
  · rw [List.append_nil]
    exact ⟨rfl, rfl, rfl, rfl⟩
  · exact Scope.sameButRepeats_withDirectives root _ _ _

/-- The form in which a namespace is written makes no difference to what a file declares and to what names mean. -/
theorem collect_writesSpace (file : File) (root : Scope) (hfirst : ∀ n ∈ first, n.kind.declares = false)
    (hrow : WritesSpace name members row) (hrow' : WritesSpace name members row')
    (htree : tree.children = first ++ row) (htree' : tree'.children = first ++ row') :
    List.Forall₂ SameButRepeats (collect file root tree) (collect file root tree') := by
  obtain ⟨scope, hcollect, hscope⟩ := exists_collect_eq file root hfirst hrow htree
  obtain ⟨scope', hcollect', hscope'⟩ := exists_collect_eq file root hfirst hrow' htree'
  rw [hcollect, hcollect']
  refine (differIn_ofMembers Scope.isKept_sameButRepeats (hscope.symm.trans hscope') file _).imp fun d d' hd => ?_
  exact ⟨DifferIn.alike ⟨hd.eq, hd.scope.sameNames⟩, hd.scope⟩

end Declaration

namespace ParsedFile

/-- A mark of punctuation. -/
def markNode (text : String) : Node :=
  ⟨.other text, text, default, false, none, []⟩

/-- A file-scoped namespace that holds some nodes. -/
def fileSpaceNode (name : String) (held : List Node) : Node :=
  ⟨.fileScopedNamespace, "", default, true, none,
    ⟨.other "identifier", name, default, true, some .name, []⟩ :: held⟩

/-- Members with directives of their own, one of which names a namespace that the file opens as well. -/
def spaceMembers : List Node :=
  [directiveNode "using Own;", directiveNode "using Model = Own.New;", classNode "A" "Model",
    spaceNode "Inner" [directiveNode "using Lib;", classNode "B" "A"]]

/-- The members as the rest of a file, as what a file-scoped namespace holds, and as the body of a block. -/
def spaceRows : List (List Node) :=
  [fileSpaceNode "App" [markNode ";"] :: spaceMembers, [fileSpaceNode "App" (markNode ";" :: spaceMembers)],
    [spaceNode "App" (markNode "\x7b" :: spaceMembers ++ [markNode "\x7d"])]]

private theorem writesSpace_spaceRows : ∀ row ∈ spaceRows, WritesSpace "App" spaceMembers row := by
  simp only [spaceRows, List.forall_mem_cons, List.not_mem_nil, false_imp_iff, implies_true, and_true]
  exact ⟨.heading rfl rfl rfl rfl, .holding rfl rfl rfl rfl, .block rfl rfl rfl rfl rfl⟩

end ParsedFile

open ParsedFile in
theorem Declaration.collect_writesSpace_repeated :
    let declared (row : List Node) :=
      collect ⟨"A.cs", false⟩ .empty (ofChildren "A.cs" (directiveNode "using Lib;" :: row)).tree
    (spaceRows.map fun row => (declared row).map fun d => (d.fullName, d.scope.usings)) =
        [[("App.A", ["Lib", "Own", "Own"]), ("App.Inner.B", ["Lib", "Own", "Own", "Lib"])],
          [("App.A", ["Lib", "Own"]), ("App.Inner.B", ["Lib", "Own", "Lib"])],
          [("App.A", ["Lib", "Own"]), ("App.Inner.B", ["Lib", "Own", "Lib"])]] ∧
      ∀ row ∈ spaceRows, ∀ row' ∈ spaceRows, List.Forall₂ SameButRepeats (declared row) (declared row') := by
  have hfirst : ∀ n ∈ [directiveNode "using Lib;"], n.kind.declares = false := by decide
  refine ⟨by decide +kernel, fun row hrow row' hrow' => ?_⟩
  exact collect_writesSpace _ _ hfirst (writesSpace_spaceRows row hrow) (writesSpace_spaceRows row' hrow') rfl rfl

end Rollcall
