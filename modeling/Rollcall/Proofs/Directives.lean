import Rollcall.Proofs.Collecting

/-!
# Global directives where they stand

A global directive has no effect in the row where it stands: a tree without it declares the same (`LacksGlobals.before`,
`sameDeclarations_before_filter`).  Its ordinary form, which lacks the word `global`, brings into scope what the
directive brings (`ofText_of_isOrdinaryText`).
-/

namespace Rollcall

open Text

/-! ### The ordinary form of a directive -/

/-- Whether a text separates words. -/
def Text.IsGap (cs : List Char) : Prop :=
  cs ≠ [] ∧ ∀ c ∈ cs, isBlank c = true

instance (cs : List Char) : Decidable (Text.IsGap cs) :=
  decidable_of_iff (cs ≠ [] ∧ cs.all isBlank = true) (by rw [List.all_eq_true, Text.IsGap])

theorem Text.dropEndWhile_append_cons {p : Char → Bool} {c : Char} (cs ds : List Char) (hc : p c = false) :
    dropEndWhile p (cs ++ c :: ds) = cs ++ c :: dropEndWhile p ds := by
  have hdrop : (c :: cs.reverse).dropWhile p = c :: cs.reverse := by simp [hc]
  have happend : (ds.reverse ++ c :: cs.reverse).dropWhile p = ds.reverse.dropWhile p ++ c :: cs.reverse := by
    rw [List.dropWhile_append, hdrop]
    split
    · next h => rw [List.isEmpty_iff.mp h, List.nil_append]
    · rfl
  simp [dropEndWhile, happend]

theorem Text.trim_cons_append_cons {b c : Char} (cs ds : List Char) (hb : isBlank b = false) (hc : isBlank c = false) :
    trim (b :: cs ++ c :: ds) = b :: cs ++ c :: dropEndWhile isBlank ds := by
  have hdrop : (b :: cs ++ c :: ds).dropWhile isBlank = b :: cs ++ c :: ds := by simp [hb]
  rw [trim, hdrop, dropEndWhile_append_cons _ _ hc]

namespace Directive

theorem afterWord?_append {word gap cs : List Char} (h : IsGap gap) :
    afterWord? word (word ++ (gap ++ cs)) = some (cs.dropWhile isBlank) := by
  obtain ⟨hne, hblank⟩ := h
  cases gap with
  | nil => exact absurd rfl hne
  | cons b gap =>
    have hstart : afterStart? word (word ++ (b :: gap ++ cs)) = some (b :: (gap ++ cs)) :=
      afterStart?_eq_some_iff.mpr rfl
    have hgap : ∀ c ∈ gap, isBlank c = true := fun c hc => hblank c (List.mem_cons_of_mem _ hc)
    simp only [afterWord?, hstart, hblank b List.mem_cons_self, if_true, List.dropWhile_append_of_pos hgap]

theorem dropUsing_using {gap cs : List Char} (h : IsGap gap) :
    dropUsing ("using".toList ++ (gap ++ cs)) = cs.dropWhile isBlank := by
  have hglobal : afterWord? "global".toList ("using".toList ++ (gap ++ cs)) = none := rfl
  rw [dropUsing, hglobal, afterWord?_append h]
  rfl

theorem dropUsing_global {first second cs : List Char} (hfirst : IsGap first) (hsecond : IsGap second) :
    dropUsing ("global".toList ++ (first ++ ("using".toList ++ (second ++ cs)))) = cs.dropWhile isBlank := by
  have husing : ("using".toList ++ (second ++ cs)).dropWhile isBlank = "using".toList ++ (second ++ cs) := rfl
  rw [dropUsing, afterWord?_append hfirst, Option.bind_some, husing, afterWord?_append hsecond]

/-- Whether `ordinary` is the text of a global directive without the word `global`.  Behind the words stands what the
directive names, more than blanks and semicolons. -/
def IsOrdinaryText (text ordinary : String) : Prop :=
  ∃ first second named : List Char, IsGap first ∧ IsGap second ∧ (∃ c ∈ named, isBlank c = false ∧ c ≠ ';') ∧
    text.toList = "global".toList ++ (first ++ ("using".toList ++ (second ++ named))) ∧
    ordinary.toList = "using".toList ++ (second ++ named)

/-- What is left of the end of a directive. -/
def closing (cs : List Char) : List Char :=
  dropEndWhile isBlank (dropEndWhile (· == ';') (dropEndWhile isBlank cs))

/-- A directive loses what its end loses. -/
theorem body_cons_append_cons {b c : Char} (cs ds : List Char) (hb : isBlank b = false) (hc : isBlank c = false)
    (hs : c ≠ ';') :
    body (b :: cs ++ c :: ds) = dropUsing (b :: cs ++ c :: closing ds) := by
  have hs : (c == ';') = false := beq_eq_false_iff_ne.mpr hs
  rw [body, trim_cons_append_cons _ _ hb hc, dropEndWhile_append_cons (p := (· == ';')) _ _ hs,
    trim_cons_append_cons _ _ hb hc, closing]

theorem startsGlobal_of_isOrdinaryText {text ordinary : String} (h : IsOrdinaryText text ordinary) :
    startsGlobal ordinary = false := by
  obtain ⟨-, second, named, -, -, -, -, ho⟩ := h
  have htrim : trim ordinary.toList = 'u' :: dropEndWhile isBlank ("sing".toList ++ (second ++ named)) := by
    rw [ho]
    exact dropEndWhile_append_cons [] ("sing".toList ++ (second ++ named)) rfl
  have hword : afterWord? "global".toList (trim ordinary.toList) = none := by
    rw [htrim]
    rfl
  rw [startsGlobal, hword]
  rfl

private theorem importOf_of_isOrdinaryText {text ordinary : String} (h : IsOrdinaryText text ordinary) :
    importOf ordinary = importOf text := by
  obtain ⟨first, second, named, hfirst, hsecond, ⟨c, hmem, hc, hs⟩, ht, ho⟩ := h
  obtain ⟨before, after, rfl⟩ := List.append_of_mem hmem
  have hordinary : body ordinary.toList = (before ++ c :: closing after).dropWhile isBlank := by
    have := body_cons_append_cons (b := 'u') ("sing".toList ++ (second ++ before)) after rfl hc hs
    rw [← dropUsing_using hsecond, ho]
    simpa using this
  have hglobal : body text.toList = (before ++ c :: closing after).dropWhile isBlank := by
    have := body_cons_append_cons (b := 'g') ("lobal".toList ++ (first ++ ("using".toList ++ (second ++ before)))) after
      rfl hc hs
    rw [← dropUsing_global hfirst hsecond, ht]
    simpa using this
  rw [importOf, importOf, hordinary, hglobal]

/-- The ordinary form of a global directive is not global and brings the same. -/
theorem ofText_of_isOrdinaryText {text ordinary : String} (h : IsOrdinaryText text ordinary) :
    ofText ordinary = ⟨false, importOf text⟩ := by
  rw [ofText, startsGlobal_of_isOrdinaryText h, importOf_of_isOrdinaryText h]

end Directive

/-! ### Global directives where they stand -/

/-- Whether a node is a global using directive. -/
def Node.isGlobalUsing (n : Node) : Bool :=
  n.kind == .usingDirective && Directive.startsGlobal n.text

/-- Whether nodes of a kind hold declarations. -/
def SyntaxKind.holdsDeclarations : SyntaxKind → Bool
  | .namespaceDeclaration => true
  | .fileScopedNamespace => true
  | .typeDeclaration _ => true
  | .declarationList => true
  | _ => false

/-- Whether the second row of nodes is the first one without some global directives, from the row itself and from the
namespaces and types in it. -/
inductive LacksGlobals : List Node → List Node → Prop
  | nil : LacksGlobals [] []
  | drop {n : Node} {nodes kept : List Node} : n.isGlobalUsing = true → n.field = none → LacksGlobals nodes kept →
      LacksGlobals (n :: nodes) kept
  | keep {n : Node} {nodes kept : List Node} : LacksGlobals nodes kept → LacksGlobals (n :: nodes) (n :: kept)
  | within {n : Node} {children nodes kept : List Node} : n.kind.holdsDeclarations = true →
      LacksGlobals n.children children → LacksGlobals nodes kept →
      LacksGlobals (n :: nodes) ({ n with children } :: kept)

private theorem Node.kind_of_isGlobalUsing {n : Node} (h : n.isGlobalUsing = true) : n.kind = .usingDirective :=
  beq_iff_eq.mp (Bool.and_eq_true_iff.mp h).1

theorem Directive.ofNode?_of_isGlobalUsing {n : Node} (h : n.isGlobalUsing = true) :
    ofNode? n = some ⟨true, importOf n.text⟩ := by
  obtain ⟨hk, hg⟩ := Bool.and_eq_true_iff.mp h
  rw [ofNode?, if_pos hk, ofText, hg]

theorem Directive.isGlobal_of_ofNode? {n : Node} {d : Directive} (h : ofNode? n = some d) :
    d.isGlobal = n.isGlobalUsing := by
  obtain ⟨hk, hd⟩ := Option.ite_none_right_eq_some.mp h
  cases hd
  simp [Node.isGlobalUsing, hk, ofText]

private theorem Node.typeOutline_of_isGlobalUsing {n : Node} (h : n.isGlobalUsing = true) :
    TypeOutline.ofNode? n = none := by
  rw [TypeOutline.ofNode?_eq, Header.ofNode?, kind_of_isGlobalUsing h]
  rfl

/-- Whether the second node is the first one without some global directives inside. -/
structure Node.SameButGlobals (n n' : Node) : Prop where
  kind : n'.kind = n.kind
  text : n'.text = n.text
  span : n'.span = n.span
  isNamed : n'.isNamed = n.isNamed
  field : n'.field = n.field
  children : LacksGlobals n.children n'.children

namespace LacksGlobals

variable {nodes kept : List Node} {n n' : Node}

theorem refl (nodes : List Node) : LacksGlobals nodes nodes := by
  induction nodes with
  | nil => exact .nil
  | cons n nodes ih => exact .keep ih

/-- The first node of a row is left out or kept up to global directives inside. -/
private theorem cons_cases (h : LacksGlobals (n :: nodes) kept) :
    n.isGlobalUsing = true ∧ n.field = none ∧ LacksGlobals nodes kept ∨
      ∃ n' kept', kept = n' :: kept' ∧ n.SameButGlobals n' ∧ LacksGlobals nodes kept' := by
  cases h with
  | drop hn hf h => exact .inl ⟨hn, hf, h⟩
  | keep h => exact .inr ⟨n, _, rfl, ⟨rfl, rfl, rfl, rfl, rfl, refl _⟩, h⟩
  | within hn hc h => exact .inr ⟨_, _, rfl, ⟨rfl, rfl, rfl, rfl, rfl, hc⟩, h⟩

/-- Looking for a node other than a global directive, and not by its children, finds the same node in both rows. -/
private theorem rel_find? {p : Node → Bool} (hp : ∀ n n' : Node, n.SameButGlobals n' → p n' = p n)
    (hglobal : ∀ n, n.isGlobalUsing = true → n.field = none → p n = false) (h : LacksGlobals nodes kept) :
    Option.Rel Node.SameButGlobals (nodes.find? p) (kept.find? p) := by
  induction nodes generalizing kept with
  | nil =>
    cases h
    exact .none
  | cons n nodes ih =>
    rcases h.cons_cases with ⟨hn, hf, h⟩ | ⟨n', kept, rfl, hn, h⟩
    · rw [List.find?_cons, hglobal n hn hf]
      exact ih h
    · rw [List.find?_cons, List.find?_cons, hp n n' hn]
      cases p n with
      | true => exact .some hn
      | false => exact ih h

/-- What is read from the nodes of a row other than its global directives. -/
private theorem filterMap_eq {β : Type} {f : Node → Option β} (hglobal : ∀ n, n.isGlobalUsing = true → f n = none)
    (hf : ∀ n ∈ nodes, ∀ n', n.SameButGlobals n' → f n' = f n) (h : LacksGlobals nodes kept) :
    kept.filterMap f = nodes.filterMap f := by
  induction nodes generalizing kept with
  | nil =>
    cases h
    rfl
  | cons n nodes ih =>
    have ih {kept : List Node} (h : LacksGlobals nodes kept) : kept.filterMap f = nodes.filterMap f :=
      ih (fun m hm => hf m (List.mem_cons_of_mem n hm)) h
    rcases h.cons_cases with ⟨hn, -, h⟩ | ⟨n', kept, rfl, hn, h⟩
    · rw [List.filterMap_cons_none (hglobal n hn), ih h]
    · rw [List.filterMap_cons, List.filterMap_cons, hf n List.mem_cons_self n' hn, ih h]

/-- Nodes that neither are directives nor hold declarations are all kept as they are. -/
private theorem filter_eq {p : Node → Bool} {kind : SyntaxKind} (hp : ∀ n, p n = true → n.kind = kind)
    (hu : kind ≠ .usingDirective) (hd : kind.holdsDeclarations = false) (h : LacksGlobals nodes kept) :
    kept.filter p = nodes.filter p := by
  induction h with
  | nil => rfl
  | @drop n nodes kept hn hf h ih =>
    have hpn : ¬ p n = true := fun hpn => hu ((hp n hpn).symm.trans (Node.kind_of_isGlobalUsing hn))
    rw [List.filter_cons_of_neg hpn, ih]
  | keep h ih => rw [List.filter_cons, List.filter_cons, ih]
  | @within n children nodes kept hn hc h ihc ih =>
    have hpn (m : Node) (hm : m.kind.holdsDeclarations = true) : ¬ p m = true := by
      intro hpm
      rw [hp m hpm, hd] at hm
      exact absurd hm (by decide)
    rw [List.filter_cons_of_neg (hpn n hn), List.filter_cons_of_neg (hpn { n with children } hn), ih]

end LacksGlobals

namespace Node.SameButGlobals

variable {n n' : Node}

private theorem map_eq {β : Type} {f : Node → β} {c c' : Option Node} (h : Option.Rel SameButGlobals c c')
    (hf : ∀ n n' : Node, n.SameButGlobals n' → f n' = f n) : c'.map f = c.map f := by
  cases h with
  | none => rfl
  | some h => exact congrArg some (hf _ _ h)

private theorem rel_child? (h : n.SameButGlobals n') (f : Field) :
    Option.Rel SameButGlobals (n.child? f) (n'.child? f) :=
  h.children.rel_find? (fun _ _ hn => by rw [hn.field]) fun _ _ hf => by simp [hf]

private theorem ofKind_eq (h : n.SameButGlobals n') {kind : SyntaxKind} (hu : kind ≠ .usingDirective)
    (hd : kind.holdsDeclarations = false) :
    (n'.children.filter fun c => c.kind == kind) = n.children.filter fun c => c.kind == kind :=
  h.children.filter_eq (fun _ => beq_iff_eq.mp) hu hd

private theorem namedOfKind_eq (h : n.SameButGlobals n') {kind : SyntaxKind} (hu : kind ≠ .usingDirective)
    (hd : kind.holdsDeclarations = false) : n'.namedOfKind kind = n.namedOfKind kind := by
  have hnamed (m : Node) : m.namedOfKind kind = (m.children.filter fun c => c.kind == kind).filter (·.isNamed) := by
    simp only [namedOfKind, namedChildren, List.filter_filter, Bool.and_comm]
  rw [hnamed, hnamed, h.ofKind_eq hu hd]

private theorem kindOf_eq (h : n.SameButGlobals n') (kind : TypeKind) :
    Header.kindOf kind n' = Header.kindOf kind n := by
  have hany (m : Node) : (m.children.any fun c => c.kind == .structKeyword) =
      (m.children.filter fun c => c.kind == .structKeyword).any fun _ => true := by
    simp only [List.any_filter, Bool.and_true]
  unfold Header.kindOf
  rw [hany, hany, h.ofKind_eq (by decide) rfl]

private theorem isPartialNode_eq (h : n.SameButGlobals n') : Header.isPartialNode n' = Header.isPartialNode n := by
  unfold Header.isPartialNode
  rw [← List.any_filter, ← List.any_filter, h.ofKind_eq (by decide) rfl]

/-- Global directives are no part of what a type declaration says about itself. -/
private theorem header_eq (h : n.SameButGlobals n') : Header.ofNode? n' = Header.ofNode? n := by
  have harity : Header.arityOf n' = Header.arityOf n := by
    rw [Header.arityOf, Header.arityOf, h.namedOfKind_eq (by decide) rfl]
  have hbases : Header.basesOf n' = Header.basesOf n := by
    rw [Header.basesOf, Header.basesOf, h.namedOfKind_eq (by decide) rfl]
  have hattributes : Header.attributesOf n' = Header.attributesOf n := by
    rw [Header.attributesOf, Header.attributesOf, h.ofKind_eq (by decide) rfl]
  unfold Header.ofNode?
  rw [h.kind]
  split
  · simp only [h.kindOf_eq, harity, h.isPartialNode_eq, hbases, hattributes, h.span]
    exact map_eq (h.rel_child? .name) fun c c' hc => by rw [hc.text]
  · rfl

private theorem rel_bodyOf? (h : n.SameButGlobals n') :
    Option.Rel SameButGlobals (TypeOutline.bodyOf? n) (TypeOutline.bodyOf? n') := by
  have hlist (m : Node) : (m.namedOfKind .declarationList).head? =
      m.children.find? fun c => c.kind == .declarationList && c.isNamed := by
    rw [namedOfKind, namedChildren, List.filter_filter, List.head?_filter]
  have hfirst : Option.Rel SameButGlobals (n.namedOfKind .declarationList).head?
      (n'.namedOfKind .declarationList).head? := by
    rw [hlist, hlist]
    refine h.children.rel_find? (fun c c' hc => by rw [hc.kind, hc.isNamed]) fun c hc _ => ?_
    rw [kind_of_isGlobalUsing hc]
    rfl
  have hbody := h.rel_child? .body
  unfold TypeOutline.bodyOf?
  generalize n.child? .body = body at hbody
  generalize n'.child? .body = body' at hbody
  cases hbody with
  | none => exact hfirst
  | some hc => exact .some hc

/-- Global directives in a type have no effect. -/
private theorem typeOutline_eq (h : n.SameButGlobals n') : TypeOutline.ofNode? n' = TypeOutline.ofNode? n := by
  induction hsize : sizeOf n using Nat.strongRecOn generalizing n n' with
  | _ size ih =>
    rw [TypeOutline.ofNode?_eq, TypeOutline.ofNode?_eq n, h.header_eq]
    have hbody := h.rel_bodyOf?
    have hsub (body : Node) (hb : TypeOutline.bodyOf? n = some body) : sizeOf body < size :=
      hsize ▸ sizeOf_lt_of_mem_children (TypeOutline.mem_children_of_bodyOf? hb)
    generalize TypeOutline.bodyOf? n = body at hbody hsub
    generalize TypeOutline.bodyOf? n' = body' at hbody
    cases hbody with
    | none => rfl
    | @some body body' hb =>
      have hmembers : body'.namedChildren.filterMap TypeOutline.ofNode? =
          body.namedChildren.filterMap TypeOutline.ofNode? := by
        rw [namedChildren, namedChildren, List.filterMap_filter, List.filterMap_filter]
        refine hb.children.filterMap_eq (fun c hc => ?_) fun c hc c' hcc => ?_
        · rw [typeOutline_of_isGlobalUsing hc, ite_self]
        · have hlt := sizeOf_lt_of_mem_children hc
          have := hsub body rfl
          rw [hcc.isNamed, ih (sizeOf c) (by omega) hcc rfl]
      simp [hmembers]

end Node.SameButGlobals

namespace Outline

/-- Whether outlines declare the same in every scope and have the same directives other than the global ones. -/
structure SameDeclarations (o o' : Outline) : Prop where
  directives : (o'.directives.filter fun d => !d.isGlobal) = o.directives.filter fun d => !d.isGlobal
  members : ∀ file scope, Declaration.ofMembers file scope o'.members = Declaration.ofMembers file scope o.members

theorem SameDeclarations.refl (o : Outline) : SameDeclarations o o := ⟨rfl, fun _ _ => rfl⟩

/-- A namespace is read through the declarations of its body. -/
theorem SameDeclarations.spaceMember {body body' : Outline} {name name' : Node} (h : SameDeclarations body body')
    (hname : name'.text = name.text) (file : Declaration.File) (scope : Scope) :
    Declaration.ofMember file scope (spaceMember name' body') =
      Declaration.ofMember file scope (spaceMember name body) := by
  rw [Outline.spaceMember, Outline.spaceMember, Declaration.ofMember, Declaration.ofMember, h.members, hname,
    Scope.withDirectives, Scope.withDirectives, h.directives]

theorem SameDeclarations.cons {o o' : Outline} {m m' : Member} (h : SameDeclarations o o')
    (hm : ∀ file scope, Declaration.ofMember file scope m' = Declaration.ofMember file scope m)
    (file : Declaration.File) (scope : Scope) :
    Declaration.ofMembers file scope (m' :: o'.members) = Declaration.ofMembers file scope (m :: o.members) := by
  rw [Declaration.ofMembers, Declaration.ofMembers, hm, h.members]

end Outline

namespace LacksGlobals

open Outline

variable {nodes kept : List Node} {rest rest' : Outline}

private theorem eraseP_field (f : Field) (h : LacksGlobals nodes kept) :
    LacksGlobals (nodes.eraseP fun c => c.field == some f) (kept.eraseP fun c => c.field == some f) := by
  induction h with
  | nil => exact .nil
  | @drop n nodes kept hn hf h ih =>
    rw [List.eraseP_cons_of_neg (by simp [hf])]
    exact .drop hn hf ih
  | @keep n nodes kept h ih =>
    rw [List.eraseP_cons, List.eraseP_cons]
    cases n.field == some f with
    | true => exact h
    | false => exact .keep ih
  | @within n children nodes kept hn hc h ihc ih =>
    rw [List.eraseP_cons, List.eraseP_cons]
    cases n.field == some f with
    | true => exact h
    | false => exact .within hn hc ih

private theorem directives_before_eq (h : LacksGlobals nodes kept)
    (hr : (rest'.directives.filter fun d => !d.isGlobal) = rest.directives.filter fun d => !d.isGlobal) :
    ((before kept rest').directives.filter fun d => !d.isGlobal) =
      (before nodes rest).directives.filter fun d => !d.isGlobal := by
  have hrow : (kept.filterMap Directive.ofNode?).filter (fun d => !d.isGlobal) =
      (nodes.filterMap Directive.ofNode?).filter fun d => !d.isGlobal := by
    rw [List.filter_filterMap, List.filter_filterMap]
    refine h.filterMap_eq (fun n hn => ?_) fun n _ n' hn => ?_
    · simp [Directive.ofNode?_of_isGlobalUsing hn, Option.filter]
    · rw [Directive.ofNode?, Directive.ofNode?, hn.kind, hn.text]
  rw [directives_before, directives_before, List.filter_append, List.filter_append, hrow, hr]

/-- A node declares the same without global directives inside, if the rows that it holds do. -/
private theorem members_before_cons {n n' : Node} (hn : n.SameButGlobals n')
    (htail : SameDeclarations (before nodes rest) (before kept rest'))
    (hbody : ∀ body body', n.child? .body = some body → body.SameButGlobals body' →
      SameDeclarations (before body.children empty) (before body'.children empty))
    (hown : SameDeclarations (before (ownMembers n) (before nodes rest))
      (before (ownMembers n') (before kept rest'))) (file : Declaration.File) (scope : Scope) :
    Declaration.ofMembers file scope (before (n' :: kept) rest').members =
      Declaration.ofMembers file scope (before (n :: nodes) rest).members := by
  have hname := hn.rel_child? .name
  have hbodies := hn.rel_child? .body
  rw [before, before, hn.kind, hn.typeOutline_eq]
  generalize n.child? .name = name at hname ⊢
  generalize n'.child? .name = name' at hname ⊢
  generalize n.child? .body = body at hbodies hbody ⊢
  generalize n'.child? .body = body' at hbodies ⊢
  split
  · -- a namespace with a body
    cases hname with
    | none => exact htail.members file scope
    | some hname =>
      cases hbodies with
      | none => exact htail.members file scope
      | some hbodies => exact htail.cons ((hbody _ _ rfl hbodies).spaceMember hname.text) file scope
  · -- a namespace that holds the rest of the row
    cases hname with
    | none => exact htail.members file scope
    | some hname => exact (SameDeclarations.refl empty).cons (hown.spaceMember hname.text) file scope
  · cases TypeOutline.ofNode? n with
    | none => exact htail.members file scope
    | some type => exact htail.cons (fun _ _ => rfl) file scope

/-- Global directives have no effect where they stand. -/
theorem before (h : LacksGlobals nodes kept) (hr : SameDeclarations rest rest') :
    SameDeclarations (before nodes rest) (before kept rest') := by
  refine ⟨h.directives_before_eq hr.directives, ?_⟩
  -- a row leads to smaller ones: its tail, the body of a block and the own members of a file-scoped namespace
  induction hsize : sizeOf nodes using Nat.strongRecOn generalizing nodes kept rest rest' with
  | _ size ih =>
    cases nodes with
    | nil =>
      cases h
      rw [Outline.before, Outline.before]
      exact hr.members
    | cons n nodes =>
      rw [List.cons.sizeOf_spec] at hsize
      have ih {row row' : List Node} {o o' : Outline} (h : LacksGlobals row row') (ho : SameDeclarations o o')
          (hlt : sizeOf row < size) : SameDeclarations (Outline.before row o) (Outline.before row' o') :=
        ⟨h.directives_before_eq ho.directives, ih _ hlt h ho rfl⟩
      rcases h.cons_cases with ⟨hn, -, h⟩ | ⟨n', kept, rfl, hn, h⟩
      · rw [Outline.before, Node.kind_of_isGlobalUsing hn, Node.typeOutline_of_isGlobalUsing hn]
        exact (ih h hr (by omega)).members
      · have htail := ih h hr (by omega)
        refine members_before_cons hn htail (fun body body' hb hbody => ?_) ?_
        · have := Node.sizeOf_lt_of_mem_children (Node.mem_children_of_child? hb)
          have := sizeOf_children_lt body
          exact ih hbody.children (.refl empty) (by omega)
        · have := sizeOf_ownMembers_le n
          have := sizeOf_children_lt n
          exact ih (hn.children.eraseP_field .name) htail (by omega)

theorem isGlobalUsing_eq_false (h : LacksGlobals nodes kept) (hn : ∀ n ∈ nodes, n.isGlobalUsing = false) :
    ∀ n ∈ kept, n.isGlobalUsing = false := by
  induction h with
  | nil => exact hn
  | drop _ _ _ ih => exact ih (List.forall_mem_cons.mp hn).2
  | keep _ ih =>
    obtain ⟨hhead, htail⟩ := List.forall_mem_cons.mp hn
    exact List.forall_mem_cons.mpr ⟨hhead, ih htail⟩
  | within _ _ _ _ ih =>
    obtain ⟨hhead, htail⟩ := List.forall_mem_cons.mp hn
    exact List.forall_mem_cons.mpr ⟨hhead, ih htail⟩

end LacksGlobals

namespace Outline

theorem SameDeclarations.trans {o o' o'' : Outline} (h : SameDeclarations o o') (h' : SameDeclarations o' o'') :
    SameDeclarations o o'' :=
  ⟨h'.directives.trans h.directives, fun file scope => (h'.members file scope).trans (h.members file scope)⟩

/-- A row declares the same without its global directives. -/
theorem sameDeclarations_before_filter (nodes : List Node) (rest : Outline) :
    SameDeclarations (before nodes rest) (before (nodes.filter fun n => !n.isGlobalUsing) rest) := by
  induction nodes with
  | nil => exact .refl _
  | cons n nodes ih =>
    cases hn : n.isGlobalUsing with
    | true =>
      rw [List.filter_cons_of_neg (by simp [hn])]
      refine SameDeclarations.trans ⟨?_, ?_⟩ ih
      · rw [directives_before, directives_before, List.filterMap_cons_some (Directive.ofNode?_of_isGlobalUsing hn)]
        rfl
      · rw [before, Node.kind_of_isGlobalUsing hn, Node.typeOutline_of_isGlobalUsing hn]
        exact fun _ _ => rfl
    | false =>
      have hcons := (LacksGlobals.refl [n]).before ih
      rw [← before_append, ← before_append] at hcons
      rw [List.filter_cons_of_pos (by simp [hn])]
      exact hcons

end Outline

end Rollcall
