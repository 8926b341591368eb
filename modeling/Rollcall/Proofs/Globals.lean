import Mathlib.Data.List.Forall2
import Rollcall.Proofs.Directives
import Rollcall.Proofs.Lists
import Rollcall.Proofs.Loading

/-!
# Global directives spelled out

The global directives of a program mean the same as ordinary ones in front of each of its files.  Files that *spell out*
the global directives hold no global directive at their roots and start with the ordinary forms of all of them
(`SpellsOut`).  What such files declare differs from the original declarations in the scopes only, and any name
means the same in both scopes (`declarationsOf_spellsOut`).

Global namespaces are opened once and ordinary ones as often as they are written, so the scopes are equal only up to
namespaces that are opened again (`SameNames`).
-/

namespace Rollcall

/-! ### Scopes in which names mean the same -/

namespace Scope

/-- Scopes that may differ in namespaces opened again. -/
structure SameNames (s s' : Scope) : Prop where
  space : s'.space = s.space
  containers : s'.containers = s.containers
  aliases : s'.aliases = s.aliases
  usings : ∀ find : String → Option Symbol, s'.usings.findSome? find = s.usings.findSome? find

variable {s s' : Scope}

theorem SameNames.enterNamespace (h : SameNames s s') (name : String) :
    SameNames (s.enterNamespace name) (s'.enterNamespace name) :=
  ⟨congrArg (TypeName.qualify · name) h.space, h.containers, h.aliases, h.usings⟩

theorem SameNames.enterType (h : SameNames s s') (fullName : String) :
    SameNames (s.enterType fullName) (s'.enterType fullName) :=
  ⟨h.space, congrArg (· ++ [fullName]) h.containers, h.aliases, h.usings⟩

theorem SameNames.withDirectives (h : SameNames s s') (directives : List Directive) :
    SameNames (s.withDirectives directives) (s'.withDirectives directives) := by
  rw [withDirectives_eq, withDirectives_eq]
  refine ⟨h.space, h.containers, congrArg (Aliases.putAll · _) h.aliases, fun find => ?_⟩
  rw [List.findSome?_append, List.findSome?_append, h.usings find]

theorem SameNames.qualifier (h : SameNames s s') : s'.qualifier = s.qualifier := by
  rw [Scope.qualifier, Scope.qualifier, h.containers, h.space]

theorem SameNames.aliased? (h : SameNames s s') : s'.aliased? = s.aliased? := by
  funext name
  rw [Scope.aliased?, Scope.aliased?, h.aliases]

private theorem SameNames.findSome?_candidates (h : SameNames s s') (name : String) (find : String → Option Symbol) :
    (s'.candidates name).findSome? find = (s.candidates name).findSome? find := by
  simp only [candidates, namespaceCandidates, List.findSome?_append, List.findSome?_cons, List.findSome?_map,
    h.containers, h.space, h.usings]

end Scope

namespace Program

open Scope

variable {s s' : Scope}

private theorem resolveIn?_eq_of_sameNames (h : SameNames s s') (p : Program) : p.resolveIn? s' = p.resolveIn? s := by
  funext written
  simp only [resolveIn?, h.aliased?, h.findSome?_candidates]

private theorem resolveAttributeIn?_eq_of_sameNames (h : SameNames s s') (p : Program) :
    p.resolveAttributeIn? s' = p.resolveAttributeIn? s := by
  funext written
  simp only [resolveAttributeIn?, resolveIn?_eq_of_sameNames h p]

private theorem bindArgument_eq_of_sameNames (h : SameNames s s') (p : Program) :
    p.bindArgument s' = p.bindArgument s := by
  funext argument
  cases argument with
  | typeof operand => simp only [bindArgument, resolveOperandIn?, resolveIn?_eq_of_sameNames h p]
  | constant value => rfl
  | unevaluated => rfl

end Program

/-! ### Declarations in related scopes -/

/-- Whether a relation between scopes is kept by everything that leads from a scope to one inside it. -/
structure Scope.IsKept (R : Scope → Scope → Prop) : Prop where
  qualifier : ∀ {s s' : Scope}, R s s' → s'.qualifier = s.qualifier
  enterNamespace : ∀ {s s' : Scope}, R s s' → ∀ name, R (s.enterNamespace name) (s'.enterNamespace name)
  enterType : ∀ {s s' : Scope}, R s s' → ∀ fullName, R (s.enterType fullName) (s'.enterType fullName)
  withDirectives : ∀ {s s' : Scope}, R s s' → ∀ directives, R (s.withDirectives directives) (s'.withDirectives directives)

private theorem Scope.isKept_sameNames : IsKept SameNames :=
  ⟨SameNames.qualifier, SameNames.enterNamespace, SameNames.enterType, SameNames.withDirectives⟩

namespace Declaration

open Scope

/-- Declarations that differ in their scopes only, where the scopes are related. -/
structure DifferIn (R : Scope → Scope → Prop) (d d' : Declaration) : Prop where
  eq : { d' with scope := d.scope } = d
  scope : R d.scope d'.scope

variable {R : Scope → Scope → Prop} {s s' : Scope}

private theorem differIn_ofHeader (hR : IsKept R) (h : R s s') (file : File) (header : Header) :
    DifferIn R (ofHeader file s header) (ofHeader file s' header) where
  eq := by simp only [ofHeader, hR.qualifier h]
  scope := h

theorem DifferIn.fullName_eq {d d' : Declaration} (h : DifferIn R d d') : d'.fullName = d.fullName := by
  rw [← h.eq]

mutual

private theorem differIn_ofType {s s' : Scope} (hR : IsKept R) (h : R s s') (file : File) :
    ∀ type : TypeOutline, List.Forall₂ (DifferIn R) (ofType file s type) (ofType file s' type)
  | .mk header members => by
    have hname : (ofHeader file s' header).fullName = (ofHeader file s header).fullName :=
      (differIn_ofHeader hR h file header).fullName_eq
    rw [ofType, ofType, hname]
    exact .cons (differIn_ofHeader hR h file header) (differIn_ofTypes hR (hR.enterType h _) file members)

private theorem differIn_ofTypes {s s' : Scope} (hR : IsKept R) (h : R s s') (file : File) :
    ∀ types : List TypeOutline, List.Forall₂ (DifferIn R) (ofTypes file s types) (ofTypes file s' types)
  | [] => by
    rw [ofTypes, ofTypes]
    exact .nil
  | type :: types => by
    rw [ofTypes, ofTypes]
    exact List.rel_append (differIn_ofType hR h file type) (differIn_ofTypes hR h file types)

end

mutual

private theorem differIn_ofMember {s s' : Scope} (hR : IsKept R) (h : R s s') (file : File) :
    ∀ member : Member, List.Forall₂ (DifferIn R) (ofMember file s member) (ofMember file s' member)
  | .type type => by
    rw [ofMember, ofMember]
    exact differIn_ofType hR h file type
  | .space name directives members => by
    rw [ofMember, ofMember]
    exact differIn_ofMembers hR (hR.withDirectives (hR.enterNamespace h name) directives) file members

/-- Members that stand in related scopes declare the same but for the scopes, which are related again. -/
theorem differIn_ofMembers {s s' : Scope} (hR : IsKept R) (h : R s s') (file : File) :
    ∀ members : List Member, List.Forall₂ (DifferIn R) (ofMembers file s members) (ofMembers file s' members)
  | [] => by
    rw [ofMembers, ofMembers]
    exact .nil
  | member :: members => by
    rw [ofMembers, ofMembers]
    exact List.rel_append (differIn_ofMember hR h file member) (differIn_ofMembers hR h file members)

end

/-- Declarations that differ in their scopes only, where every name means the same in both scopes, whatever types are
known. -/
structure Alike (d d' : Declaration) : Prop where
  eq : { d' with scope := d.scope } = d
  resolveIn? : ∀ p : Program, p.resolveIn? d'.scope = p.resolveIn? d.scope
  resolveAttributeIn? : ∀ p : Program, p.resolveAttributeIn? d'.scope = p.resolveAttributeIn? d.scope
  bindArgument : ∀ p : Program, p.bindArgument d'.scope = p.bindArgument d.scope

theorem DifferIn.alike {d d' : Declaration} (h : DifferIn SameNames d d') : Alike d d' where
  eq := h.eq
  resolveIn? := Program.resolveIn?_eq_of_sameNames h.scope
  resolveAttributeIn? := Program.resolveAttributeIn?_eq_of_sameNames h.scope
  bindArgument := Program.bindArgument_eq_of_sameNames h.scope

private theorem alike_ofMembers (h : SameNames s s') (file : File) (members : List Member) :
    List.Forall₂ Alike (ofMembers file s members) (ofMembers file s' members) :=
  (differIn_ofMembers isKept_sameNames h file members).imp fun _ _ hd => hd.alike

end Declaration

/-! ### Files that spell out the global directives -/

/-- Whether the second node is the ordinary form of a global directive. -/
structure Node.IsOrdinaryForm (n n' : Node) : Prop where
  kind : n'.kind = .usingDirective
  text : Directive.IsOrdinaryText n.text n'.text

namespace ParsedFile

/-- The global directives at the roots of files, in order. -/
def globalUsings (files : List ParsedFile) : List Node :=
  files.flatMap fun f => f.tree.children.filter (·.isGlobalUsing)

/-- Whether the second file is the first one without its global directives and with other directives in front.  Global
directives in namespaces and types may stay. -/
structure StartsWith (forms : List Node) (f f' : ParsedFile) : Prop where
  path : f'.path = f.path
  isGenerated : f'.isGenerated = f.isGenerated
  children : ∃ kept, LacksGlobals (f.tree.children.filter fun n => !n.isGlobalUsing) kept ∧
    f'.tree.children = forms ++ kept

/-- Whether the second files are the first ones with the ordinary forms of all global directives in front of each, and
without the global directives. -/
def SpellsOut (files files' : List ParsedFile) : Prop :=
  ∃ forms, List.Forall₂ Node.IsOrdinaryForm (globalUsings files) forms ∧
    List.Forall₂ (StartsWith forms) files files'

end ParsedFile

namespace Outline

private theorem before_forms {globals forms : List Node} (h : List.Forall₂ Node.IsOrdinaryForm globals forms)
    (rest : Outline) :
    before forms rest =
      ⟨globals.map (fun n => ⟨false, Directive.importOf n.text⟩) ++ rest.directives, rest.members⟩ := by
  induction h with
  | nil => rw [before]; rfl
  | @cons n n' globals forms hn h ih =>
    have htype : TypeOutline.ofNode? n' = none := by
      rw [TypeOutline.ofNode?_eq, Header.ofNode?, hn.kind]
      rfl
    rw [before, ih, Directive.ofNode?, hn.kind, htype, Directive.ofText_of_isOrdinaryText hn.text]
    rfl

end Outline

namespace Scope

/-- The directives with the same imports, none of them global. -/
def ordinary (directives : List Directive) : List Directive :=
  directives.map fun d => ⟨false, d.brings⟩

private theorem openedBy_ordinary (directives : List Directive) :
    openedBy (ordinary directives) = openedBy directives := by
  rw [ordinary, openedBy, List.filterMap_map]
  rfl

private theorem aliasPairs_ordinary (directives : List Directive) :
    aliasPairs (ordinary directives) = aliasPairs directives := by
  rw [ordinary, aliasPairs, List.filterMap_map]
  rfl

/-- Global directives give the same names to a file as their ordinary forms in front of the file's own directives. -/
private theorem sameNames_ofGlobals {directives own own' : List Directive}
    (h : (own'.filter fun d => !d.isGlobal) = own.filter fun d => !d.isGlobal) :
    SameNames ((ofGlobals directives).withDirectives own)
      (empty.withDirectives (ordinary (directives.filter (·.isGlobal)) ++ own')) := by
  have hfilter : ((ordinary (directives.filter (·.isGlobal)) ++ own').filter fun d => !d.isGlobal) =
      ordinary (directives.filter (·.isGlobal)) ++ own.filter fun d => !d.isGlobal := by
    rw [List.filter_append, h, ordinary, List.filter_map]
    simp
  have hopened (a b : List Directive) : openedBy (a ++ b) = openedBy a ++ openedBy b := List.filterMap_append
  have haliases (a b : List Directive) : aliasPairs (a ++ b) = aliasPairs a ++ aliasPairs b := List.filterMap_append
  rw [withDirectives_eq, withDirectives_eq, hfilter, hopened, haliases, openedBy_ordinary, aliasPairs_ordinary]
  refine ⟨rfl, rfl, ?_, fun find => ?_⟩
  · exact List.foldl_append
  · show (openedBy _ ++ openedBy _).findSome? find = ((openedBy _).eraseDups ++ openedBy _).findSome? find
    rw [List.findSome?_append, List.findSome?_append, findSome?_eraseDups]

end Scope

namespace ParsedFile

variable {files files' : List ParsedFile} {f f' : ParsedFile} {forms : List Node}

theorem filter_isGlobal_directives (files : List ParsedFile) :
    (files.flatMap fun f => (Outline.ofNode f.tree).directives).filter (·.isGlobal) =
      (globalUsings files).map fun n => ⟨true, Directive.importOf n.text⟩ := by
  have hrow (nodes : List Node) : (nodes.filterMap Directive.ofNode?).filter (·.isGlobal) =
      (nodes.filter (·.isGlobalUsing)).map fun n => ⟨true, Directive.importOf n.text⟩ := by
    rw [List.filter_filterMap, ← List.filterMap_eq_map, List.filterMap_filter]
    refine List.filterMap_congr fun n _ => ?_
    cases hn : n.isGlobalUsing with
    | true => simp [Directive.ofNode?_of_isGlobalUsing hn, Option.filter]
    | false =>
      cases hd : Directive.ofNode? n with
      | none => rfl
      | some d => simp [Option.filter, Directive.isGlobal_of_ofNode? hd, hn]
  have hfile (f : ParsedFile) : (Outline.ofNode f.tree).directives = f.tree.children.filterMap Directive.ofNode? := by
    rw [Outline.ofNode, Outline.directives_before]
    exact List.append_nil _
  simp only [globalUsings, List.filter_flatMap, List.map_flatMap, hfile, hrow]

private theorem ordinary_directives (files : List ParsedFile) :
    Scope.ordinary ((files.flatMap fun f => (Outline.ofNode f.tree).directives).filter (·.isGlobal)) =
      (globalUsings files).map fun n => ⟨false, Directive.importOf n.text⟩ := by
  simp only [filter_isGlobal_directives, Scope.ordinary, List.map_map, Function.comp_def]

private theorem globalUsings_eq_nil {globals : List Node} (hforms : List.Forall₂ Node.IsOrdinaryForm globals forms)
    (hfiles : List.Forall₂ (StartsWith forms) files files') : globalUsings files' = [] := by
  rw [globalUsings, List.flatMap_eq_nil_iff]
  intro f' hf'
  obtain ⟨i, hi⟩ := List.getElem?_of_mem hf'
  obtain ⟨f, -, hf⟩ := exists_left_of_forall₂ hfiles hi
  obtain ⟨kept, hkept, hchildren⟩ := hf.children
  rw [hchildren, List.filter_eq_nil_iff]
  intro n hn
  rcases List.mem_append.mp hn with hn | hn
  · obtain ⟨j, hj⟩ := List.getElem?_of_mem hn
    obtain ⟨m, -, hm⟩ := exists_left_of_forall₂ hforms hj
    simp [Node.isGlobalUsing, Directive.startsGlobal_of_isOrdinaryText hm.text]
  · simp [hkept.isGlobalUsing_eq_false (fun m hm => by simpa using (List.mem_filter.mp hm).2) n hn]

private theorem rootScope_eq_empty (h : globalUsings files = []) : rootScope files = Scope.empty := by
  rw [rootScope, Scope.ofGlobals, filter_isGlobal_directives, h]
  rfl

private theorem StartsWith.alike_declarations (hforms : List.Forall₂ Node.IsOrdinaryForm (globalUsings files) forms)
    (hroot : rootScope files' = Scope.empty) (h : StartsWith forms f f') :
    List.Forall₂ Declaration.Alike (declarations files f) (declarations files' f') := by
  obtain ⟨kept, hkept, hchildren⟩ := h.children
  have hsame : Outline.SameDeclarations (Outline.ofNode f.tree) (Outline.before kept .empty) :=
    (Outline.sameDeclarations_before_filter f.tree.children .empty).trans (hkept.before (.refl .empty))
  have hnew : Outline.ofNode f'.tree =
      ⟨(globalUsings files).map (fun n => ⟨false, Directive.importOf n.text⟩) ++
        (Outline.before kept .empty).directives, (Outline.before kept .empty).members⟩ := by
    rw [Outline.ofNode, hchildren, Outline.before_append, Outline.before_forms hforms]
  rw [declarations, declarations, Declaration.collect, Declaration.collect, Declaration.ofOutline,
    Declaration.ofOutline, hroot, h.path, h.isGenerated, hnew, hsame.members]
  refine Declaration.alike_ofMembers ?_ _ _
  rw [rootScope, ← ordinary_directives]
  exact Scope.sameNames_ofGlobals hsame.directives

end ParsedFile

/-- Global directives mean the same as their ordinary forms in front of every file. -/
theorem Program.declarationsOf_spellsOut {files files' : List ParsedFile} (h : ParsedFile.SpellsOut files files') :
    List.Forall₂ Declaration.Alike (declarationsOf files) (declarationsOf files') := by
  obtain ⟨forms, hforms, hfiles⟩ := h
  have hroot := ParsedFile.rootScope_eq_empty (ParsedFile.globalUsings_eq_nil hforms hfiles)
  rw [declarationsOf_eq, declarationsOf_eq]
  exact List.rel_flatMap hfiles fun f f' hf => hf.alike_declarations hforms hroot

namespace ParsedFile

/-- A source with some nodes at its root. -/
def ofChildren (path : String) (children : List Node) : ParsedFile :=
  ⟨Path.ofString path, false, ByteArray.empty, ⟨.other "compilation_unit", "", default, true, none, children⟩⟩

/-- A using directive with some text. -/
def directiveNode (text : String) : Node :=
  ⟨.usingDirective, text, default, true, none, []⟩

/-- A class with a written base. -/
def classNode (name base : String) : Node :=
  ⟨.typeDeclaration .classType, "", default, true, none,
    [⟨.other "identifier", name, default, true, some .name, []⟩,
      ⟨.baseList, "", default, true, none, [⟨.other "identifier", base, default, true, none, []⟩]⟩]⟩

/-- A namespace with members. -/
def spaceNode (name : String) (members : List Node) : Node :=
  ⟨.namespaceDeclaration, "", default, true, none,
    [⟨.other "identifier", name, default, true, some .name, []⟩,
      ⟨.declarationList, "", default, true, some .body, members⟩]⟩

/-- Files that open a namespace twice for all files and give an alias twice, which the second file gives once more for
itself. -/
def repeatedGlobals : List ParsedFile :=
  [ofChildren "A.cs" [directiveNode "global using Lib;", directiveNode "global using Model = Lib.Old;",
      classNode "A" "Model"],
    ofChildren "B.cs" [directiveNode "global  using Lib;", directiveNode "global using Model = Lib.New;",
      directiveNode "using Model = Own;", spaceNode "N" [directiveNode "global using Other;", classNode "B" "Model"]]]

/-- The same files with the global directives spelled out. -/
def spelledOutGlobals : List ParsedFile :=
  let forms := ["using Lib;", "using Model = Lib.Old;", "using Lib;", "using Model = Lib.New;"].map directiveNode
  [ofChildren "A.cs" (forms ++ [classNode "A" "Model"]),
    ofChildren "B.cs" (forms ++ [directiveNode "using Model = Own;", spaceNode "N" [classNode "B" "Model"]])]

private theorem spellsOut_repeatedGlobals : SpellsOut repeatedGlobals spelledOutGlobals := by
  refine ⟨["using Lib;", "using Model = Lib.Old;", "using Lib;", "using Model = Lib.New;"].map directiveNode, ?_, ?_⟩
  · refine .cons ⟨rfl, [' '], [' '], "Lib;".toList, ?_, ?_, ⟨'L', ?_⟩, rfl, rfl⟩ <|
      .cons ⟨rfl, [' '], [' '], "Model = Lib.Old;".toList, ?_, ?_, ⟨'L', ?_⟩, rfl, rfl⟩ <|
      .cons ⟨rfl, [' ', ' '], [' '], "Lib;".toList, ?_, ?_, ⟨'L', ?_⟩, rfl, rfl⟩ <|
      .cons ⟨rfl, [' '], [' '], "Model = Lib.New;".toList, ?_, ?_, ⟨'L', ?_⟩, rfl, rfl⟩ .nil
    all_goals decide
  · have hinside : LacksGlobals [directiveNode "global using Other;", classNode "B" "Model"] [classNode "B" "Model"] :=
      .drop (by decide) rfl (.keep .nil)
    have hspace : LacksGlobals
        [spaceNode "N" [directiveNode "global using Other;", classNode "B" "Model"]]
        [spaceNode "N" [classNode "B" "Model"]] :=
      .within rfl (.keep (.within rfl hinside .nil)) .nil
    exact .cons ⟨rfl, rfl, _, .keep .nil, rfl⟩ (.cons ⟨rfl, rfl, _, .keep hspace, rfl⟩ .nil)

end ParsedFile

theorem Program.declarationsOf_spellsOut_repeated :
    ParsedFile.SpellsOut ParsedFile.repeatedGlobals ParsedFile.spelledOutGlobals ∧
      ((declarationsOf ParsedFile.repeatedGlobals).map fun d => (d.fullName, d.scope.aliases.target? "Model")) =
        [("A", some "Lib.New"), ("N.B", some "Own")] ∧
      List.Forall₂ Declaration.Alike (declarationsOf ParsedFile.repeatedGlobals)
        (declarationsOf ParsedFile.spelledOutGlobals) :=
  ⟨ParsedFile.spellsOut_repeatedGlobals, by decide +kernel,
    declarationsOf_spellsOut ParsedFile.spellsOut_repeatedGlobals⟩

end Rollcall
