import Rollcall.Proofs.Globals
import Rollcall.Proofs.Graphs

/-!
# The order of files

The order in which the files of a program are loaded shows in its serial numbers, in the order of its declared names and of
the parts of its types, and in the locations of its symbols.  It does not show in the audit when the files leave
nothing to be decided by it (`OrderFree`): the registry has the same full name and the findings are the same up to
their order (`analyze_ofFiles_perm`).

* Declarations in another order make graphs of the same shape (`sameShape_bind`), because the types of one full name have
  the same parts (`resolve?_bind_cases`) and only one part can give a base.
* Files in another order have the same global scope (`rootScope_eq_of_perm`), so they declare the same
  (`perm_declarationsOf`).
-/

namespace Rollcall

/-! ### Declarations in another order -/

namespace Declaration

variable {declarations declarations' : List Declaration}

/-- Whether nothing about the types that declarations make up depends on which declaration comes first. -/
structure Agree (declarations : List Declaration) : Prop where
  /-- The declarations of a full name have one kind. -/
  kind : ∀ d ∈ declarations, ∀ e ∈ declarations, d.fullName = e.fullName → d.kind = e.kind
  /-- At most one declaration of a full name has bases. -/
  bases : declarations.Pairwise fun d e => d.fullName = e.fullName → d.bases = [] ∨ e.bases = []

private theorem unambiguous_perm (h : declarations.Perm declarations') {fullName : String} :
    Unambiguous declarations' fullName ↔ Unambiguous declarations fullName := by
  unfold Unambiguous
  simp only [h.countP_eq, h.mem_iff]

end Declaration

namespace Program

variable {p : Program} {declarations declarations' : List Declaration} {fullName : String} {g k : TypeGroup}
  {s t : Symbol}

theorem isSome_symbolNamed?_iff_exists :
    (symbolNamed? (p.newTypes declarations) fullName).isSome = true ↔
      ∃ d ∈ declarations, d.fullName = fullName ∧ Declaration.Unambiguous declarations fullName := by
  constructor
  · intro h
    obtain ⟨s, hs⟩ := Option.isSome_iff_exists.mp h
    obtain ⟨g, hg, rfl⟩ := symbolNamed?_newTypes.mp hs
    obtain ⟨⟨d, hd, hname⟩, -⟩ := TypeGroup.mem_ofDeclarations.mp (mem_symbolsFrom hg).1
    rw [← hname] at h ⊢
    exact ⟨d, hd, rfl, (isSome_symbolNamed?_iff hd).mp h⟩
  · rintro ⟨d, hd, rfl, hu⟩
    exact (isSome_symbolNamed?_iff hd).mpr hu

private theorem isSome_symbolNamed?_perm (h : declarations.Perm declarations') (fullName : String) :
    (symbolNamed? (p.newTypes declarations') fullName).isSome =
      (symbolNamed? (p.newTypes declarations) fullName).isSome := by
  rw [Bool.eq_iff_iff, isSome_symbolNamed?_iff_exists, isSome_symbolNamed?_iff_exists]
  simp only [h.mem_iff, Declaration.unambiguous_perm h]

/-- A new type has the kind of one of its declarations. -/
private theorem kind_of_mem_newTypes (h : (g, s) ∈ p.newTypes declarations) :
    ∃ d ∈ declarations, d.fullName = s.fullName ∧ d.kind = s.kind := by
  obtain ⟨hg, -, hs, -⟩ := mem_symbolsFrom h
  obtain ⟨⟨d, hd, hname⟩, hparts⟩ := TypeGroup.mem_ofDeclarations.mp hg
  have hmem : d ∈ g.parts := by
    rw [hparts, List.mem_filter]
    exact ⟨hd, by simpa using hname⟩
  obtain ⟨e, rest, he⟩ := List.exists_cons_of_ne_nil (List.ne_nil_of_mem hmem)
  have hkind : s.kind = e.kind := by
    rw [hs]
    simp [TypeGroup.symbol, he]
  have heg : e ∈ declarations.filter fun d => d.fullName == g.fullName := by
    rw [← hparts, he]
    exact List.mem_cons_self
  obtain ⟨hed, hename⟩ := List.mem_filter.mp heg
  exact ⟨e, hed, by rw [fullName_of_mem_newTypes h]; simpa using hename, hkind.symm⟩

/-! ### Programs of external types -/

/-- Whether a program has external types only, none of which has a base or attributes, and no sites. -/
structure IsBare (p : Program) : Prop where
  external : ∀ r ∈ p.records, r = ⟨r.symbol, none, [], false⟩
  serials : p.records.Pairwise fun r r' => r.symbol.serial ≠ r'.symbol.serial
  noSites : p.sites = []

private theorem isBare_withFramework (assembly : String) (isReferenced : Bool) :
    IsBare (withFramework assembly isReferenced) := by
  cases isReferenced with
  | false => exact ⟨by simp [withFramework, empty], .nil, sites_withFramework _ _⟩
  | true => exact ⟨by simp [withFramework, frameworkTypes, addExternal, add, empty],
      by simp [withFramework, frameworkTypes, addExternal, add, empty], sites_withFramework _ _⟩

private theorem pairwise_serial_records_bind (hp : IsBare p) (declarations : List Declaration) :
    (p.bind declarations).1.records.Pairwise fun r r' => r.symbol.serial ≠ r'.symbol.serial := by
  rw [records_bind]
  refine List.pairwise_append.mpr ⟨hp.serials, ?_, fun r hr r' hr' => ?_⟩
  · exact List.pairwise_map.mpr (pairwise_serial_newTypes p declarations)
  · obtain ⟨x, hx, rfl⟩ := List.mem_map.mp hr'
    have := serial_lt_nextSymbol (symbol_mem_symbols hr)
    have := nextSymbol_le_of_mem_newTypes hx
    dsimp only
    omega

/-- An external type keeps its record. -/
private theorem record?_bind_external (hp : IsBare p) {r : TypeRecord} (hr : r ∈ p.records) :
    (p.bind declarations).1.record? r.symbol = some ⟨r.symbol, none, [], false⟩ := by
  rw [record?_of_mem (pairwise_serial_records_bind hp declarations), ← hp.external r hr]
  rw [records_bind]
  exact List.mem_append_left _ hr

private theorem isDeclared_of_isBare (hp : IsBare p) : ∀ r ∈ p.records, r.isDeclared = false := by
  intro r hr
  rw [hp.external r hr]

/-- The declared types are the new ones. -/
private theorem lookup?_bind (hp : IsBare p) (declarations : List Declaration) (fullName : String) :
    (p.bind declarations).1.lookup? fullName = symbolNamed? (p.newTypes declarations) fullName := by
  apply Option.ext
  intro s
  constructor
  · intro h
    obtain ⟨r, hr, rfl, hd, rfl⟩ := exists_record_of_lookup? h
    obtain ⟨g, hg⟩ := exists_newType_of_isDeclared (isDeclared_of_isBare hp) hr hd
    exact symbolNamed?_newTypes.mpr ⟨g, hg, (fullName_of_mem_newTypes hg).symm⟩
  · intro h
    obtain ⟨g, hg, rfl⟩ := symbolNamed?_newTypes.mp h
    rw [← fullName_of_mem_newTypes hg]
    exact lookup?_of_mem_newTypes hg

private theorem mem_declaredNames_bind (hp : IsBare p) {name : String} :
    name ∈ (p.bind declarations).1.declaredNames ↔
      ∃ fullName, (symbolNamed? (p.newTypes declarations) fullName).isSome = true ∧
        TypeName.lastSegment fullName = name := by
  simp only [declaredNames, List.mem_eraseDups, List.mem_map, List.mem_filter]
  constructor
  · rintro ⟨r, ⟨hr, hd⟩, rfl⟩
    obtain ⟨g, hg⟩ := exists_newType_of_isDeclared (isDeclared_of_isBare hp) hr hd
    have hnamed := symbolNamed?_newTypes.mpr ⟨g, hg, (fullName_of_mem_newTypes hg).symm⟩
    exact ⟨r.symbol.fullName, by rw [hnamed]; rfl, rfl⟩
  · rintro ⟨fullName, hsome, rfl⟩
    obtain ⟨s, hs⟩ := Option.isSome_iff_exists.mp hsome
    obtain ⟨g, hg, rfl⟩ := symbolNamed?_newTypes.mp hs
    have hrecord := List.mem_of_find?_eq_some (record?_bind hg)
    exact ⟨_, ⟨hrecord, rfl⟩, congrArg TypeName.lastSegment (fullName_of_mem_newTypes hg)⟩

/-- A type that a name stands for is a new one or an external one. -/
private theorem new_or_external_of_resolve? (h : (p.bind declarations).1.resolve? fullName = some s) :
    (∃ g, (g, s) ∈ p.newTypes declarations ∧ g.fullName = fullName) ∨
      symbolNamed? (p.newTypes declarations) fullName = none ∧ p.resolve? fullName = some s := by
  rw [resolve?_bind] at h
  cases hs : symbolNamed? (p.newTypes declarations) fullName with
  | some u =>
    rw [hs, Option.some_or] at h
    cases h
    exact .inl (symbolNamed?_newTypes.mp hs)
  | none =>
    rw [hs, Option.none_or] at h
    exact .inr ⟨rfl, h⟩

private theorem coherent_bind (hp : IsBare p) (declarations : List Declaration) : Coherent (p.bind declarations).1 where
  eq_of_serial hs ht hserial := by
    obtain ⟨r, hr, rfl⟩ := exists_record_of_resolve? hs
    obtain ⟨r', hr', rfl⟩ := exists_record_of_resolve? ht
    rw [eq_of_key_eq (pairwise_serial_records_bind hp declarations) hr hr' hserial]
  currentBase hs hb := by
    -- a new type binds its base in the program itself, and an external one has none
    rcases new_or_external_of_resolve? hs with ⟨g, hg, -⟩ | ⟨-, hold⟩
    · rw [baseOf?_bind hg] at hb
      exact (base?_current hb).1
    · obtain ⟨r, hr, rfl⟩ := exists_record_of_resolve? hold
      rw [baseOf?, record?_bind_external hp hr] at hb
      exact absurd hb (by simp)

/-! ### The same types in another order -/

/-- The types of one full name are new ones with the same parts, or the same external one. -/
theorem resolve?_bind_cases (h : declarations.Perm declarations')
    (hs : (p.bind declarations).1.resolve? fullName = some s)
    (ht : (p.bind declarations').1.resolve? fullName = some t) :
    (∃ g k, (g, s) ∈ p.newTypes declarations ∧ (k, t) ∈ p.newTypes declarations' ∧ g.parts.Perm k.parts) ∨
      t = s ∧ ∃ r ∈ p.records, r.symbol = s := by
  have hsome := isSome_symbolNamed?_perm (p := p) h fullName
  rcases new_or_external_of_resolve? hs with ⟨g, hg, hgn⟩ | ⟨hnone, hold⟩
  · rcases new_or_external_of_resolve? ht with ⟨k, hk, hkn⟩ | ⟨hnone', -⟩
    · refine .inl ⟨g, k, hg, hk, ?_⟩
      rw [parts_of_mem_newTypes hg, parts_of_mem_newTypes hk, fullName_of_mem_newTypes hg, fullName_of_mem_newTypes hk,
        hgn, hkn]
      exact h.filter _
    · rw [hnone', symbolNamed?_newTypes.mpr ⟨g, hg, hgn⟩] at hsome
      exact absurd hsome (by simp)
  · rcases new_or_external_of_resolve? ht with ⟨k, hk, hkn⟩ | ⟨-, hold'⟩
    · rw [hnone, symbolNamed?_newTypes.mpr ⟨k, hk, hkn⟩] at hsome
      exact absurd hsome (by simp)
    · exact .inr ⟨Option.some.inj (hold'.symm.trans hold), exists_record_of_resolve? hold⟩

private theorem sameTypes_bind (hd : Declaration.Agree declarations) (h : declarations.Perm declarations') :
    SameTypes (p.bind declarations).1 (p.bind declarations').1 := by
  intro fullName
  have hsome : ((p.bind declarations').1.resolve? fullName).isSome =
      ((p.bind declarations).1.resolve? fullName).isSome := by
    simp only [resolve?_bind, Option.isSome_or, isSome_symbolNamed?_perm h]
  rcases none_or_some_of_isSome_eq hsome with ⟨ht, hs⟩ | ⟨t, s, ht, hs⟩
  · rw [ht, hs]
  · rw [ht, hs, Option.map_some, Option.map_some]
    rcases resolve?_bind_cases h hs ht with ⟨g, k, hg, hk, -⟩ | ⟨rfl, -⟩
    · -- each type has the kind of some declaration, and these agree
      obtain ⟨d, hdm, hdn, hdk⟩ := kind_of_mem_newTypes hg
      obtain ⟨e, hem, hen, hek⟩ := kind_of_mem_newTypes hk
      have hname : t.fullName = s.fullName := (fullName_of_resolve? ht).trans (fullName_of_resolve? hs).symm
      have hkind := hd.kind d hdm e (h.mem_iff.mpr hem) (hdn.trans (hname.symm.trans hen.symm))
      rw [Symbol.nameAndKind, Symbol.nameAndKind, hname, ← hdk, ← hek, hkind]
    · rfl

/-- The base of a type does not depend on the order of its parts when only one of them has bases. -/
private theorem base?_perm {p q : Program} (htypes : SameTypes p q) (hparts : g.parts.Perm k.parts)
    (hbases : g.parts.Pairwise fun d e => d.bases = [] ∨ e.bases = []) :
    (k.base? q).map Symbol.nameAndKind = (g.base? p).map Symbol.nameAndKind := by
  have hnone {d : Declaration} (h : d.bases = []) : (TypeGroup.baseOfPart? p d).map Symbol.nameAndKind = none := by
    simp [TypeGroup.baseOfPart?, h]
  rw [TypeGroup.base?, TypeGroup.base?, List.map_findSome?, List.map_findSome?]
  calc k.parts.findSome? (Option.map Symbol.nameAndKind ∘ TypeGroup.baseOfPart? q)
      = k.parts.findSome? (Option.map Symbol.nameAndKind ∘ TypeGroup.baseOfPart? p) :=
        congrArg (List.findSome? · _) (funext htypes.baseOfPart?)
    _ = g.parts.findSome? (Option.map Symbol.nameAndKind ∘ TypeGroup.baseOfPart? p) :=
        (findSome?_eq_of_perm hparts (hbases.imp fun hde => hde.imp hnone hnone)).symm

/-- Whether a type registers nothing can be seen from its parts in any order. -/
private theorem isEmpty_entriesOf_bind (h : (g, s) ∈ p.newTypes declarations) :
    ((p.bind declarations).1.entriesOf s).isEmpty = true ↔ ∀ part ∈ g.parts, ∀ written ∈ part.attributes,
      ((p.bind declarations).1.bindAttribute part.scope written).type ≠ some registrationAttribute := by
  rw [entriesOf, List.isEmpty_iff, List.filter_eq_nil_iff, attributesOf_bind h, ← parts_of_mem_newTypes h]
  simp only [List.mem_flatMap, List.mem_map, beq_iff_eq, forall_exists_index, and_imp]
  constructor
  · intro hall part hpart written hwritten
    exact hall _ part hpart written hwritten rfl
  · rintro hall a part hpart written hwritten rfl
    exact hall part hpart written hwritten

/-- Declarations in another order make a graph of the same shape. -/
theorem sameShape_bind (hp : IsBare p) (hd : Declaration.Agree declarations) (h : declarations.Perm declarations') :
    SameShape (p.bind declarations).1 (p.bind declarations').1 where
  assembly := by rw [assembly_bind, assembly_bind]
  types := sameTypes_bind hd h
  declared fullName := by rw [lookup?_bind hp, lookup?_bind hp, isSome_symbolNamed?_perm h]
  names name := by simp only [mem_declaredNames_bind hp, isSome_symbolNamed?_perm h]
  base hs ht := by
    rcases resolve?_bind_cases h hs ht with ⟨g, k, hg, hk, hparts⟩ | ⟨rfl, r, hr, rfl⟩
    · -- the parts of a type have one full name, so at most one of them has bases
      rw [baseOf?_bind hg, baseOf?_bind hk]
      refine base?_perm (sameTypes_bind hd h) hparts ?_
      rw [parts_of_mem_newTypes hg]
      refine (hd.bases.filter _).imp_of_mem fun {d e} hdm hem hde => hde ?_
      have hdn := (List.mem_filter.mp hdm).2
      have hen := (List.mem_filter.mp hem).2
      exact (beq_iff_eq.mp hdn).trans (beq_iff_eq.mp hen).symm
    · rw [baseOf?, baseOf?, record?_bind_external hp hr, record?_bind_external hp hr]
  registers hs ht := by
    rcases resolve?_bind_cases h hs ht with ⟨g, k, hg, hk, hparts⟩ | ⟨rfl, r, hr, rfl⟩
    · rw [Bool.eq_iff_iff, isEmpty_entriesOf_bind hg, isEmpty_entriesOf_bind hk]
      simp only [hparts.mem_iff, (sameTypes_bind hd h).type_bindAttribute]
    · rw [entriesOf, entriesOf, attributesOf, attributesOf, record?_bind_external hp hr, record?_bind_external hp hr]

/-! ### The audit in another order -/

/-- The audit of bound declarations reports those that the registry misses and that are not generated. -/
private theorem findings_bind (hp : IsBare p) (declarations : List Declaration) :
    ((p.bind declarations).1.analyze none).findings =
      match registry? (p.bind declarations).1 with
      | none => []
      | some registry => declarations.filterMap fun d =>
          if d.isGenerated = false ∧ (p.bind declarations).1.Misses declarations registry d then
            some ⟨"CRY001", d.fullName, some d.location⟩
          else none := by
  rw [findings_analyze]
  cases hregistry : registry? (p.bind declarations).1 with
  | none => rfl
  | some registry =>
    obtain ⟨fullName, hlookup⟩ := lookup?_of_registry? hregistry
    rw [lookup?_bind hp] at hlookup
    obtain ⟨k, hk, -⟩ := symbolNamed?_newTypes.mp hlookup
    refine filterMap_sites_bind _ hp.noSites fun i d hd => ?_
    rw [checkSite_bind hk hd]
    show (if d.isGenerated = true then none else _) = _
    cases d.isGenerated <;> simp

/-- Whether a registry misses a model depends neither on the order of the declarations nor on serial numbers. -/
private theorem misses_perm {p q : Program} (htypes : SameTypes p q) (h : declarations.Perm declarations')
    {registry registry' : Symbol} (hname : registry'.fullName = registry.fullName) {d : Declaration} :
    q.Misses declarations' registry' d ↔ p.Misses declarations registry d := by
  constructor
  · rintro ⟨hrecord, hmarked, hunambiguous, hnone⟩
    refine ⟨hrecord, hmarked, (Declaration.unambiguous_perm h).mp hunambiguous, fun part hpart hn a ha => ?_⟩
    rw [← htypes.registers_iff]
    exact hnone part (h.mem_iff.mp hpart) (hn.trans hname.symm) a ha
  · rintro ⟨hrecord, hmarked, hunambiguous, hnone⟩
    refine ⟨hrecord, hmarked, (Declaration.unambiguous_perm h).mpr hunambiguous, fun part hpart hn a ha => ?_⟩
    rw [htypes.registers_iff]
    exact hnone part (h.mem_iff.mpr hpart) (hn.trans hname) a ha

/-- Declarations in another order give the same findings when the registry has the same full name. -/
private theorem findings_bind_perm (hp : IsBare p) (hd : Declaration.Agree declarations)
    (h : declarations.Perm declarations')
    (hregistry : (p.bind declarations').1.registryName? = (p.bind declarations).1.registryName?) :
    ((p.bind declarations').1.analyze none).findings.Perm ((p.bind declarations).1.analyze none).findings := by
  rw [findings_bind hp, findings_bind hp]
  rcases none_or_some_of_map_eq hregistry with ⟨hr', hr⟩ | ⟨registry', registry, hr', hr, hname⟩
  · rw [hr', hr]
  · simp only [hr', hr, misses_perm (sameTypes_bind hd h) h hname]
    exact h.symm.filterMap _

end Program

namespace ParsedFile

variable {files files' : List ParsedFile}

/-- Whether a file has global directives. -/
def hasGlobals (f : ParsedFile) : Bool :=
  f.tree.children.any (·.isGlobalUsing)

/-- Whether nothing is left to be decided by the order of files. -/
structure OrderFree (assembly : String) (files : List ParsedFile) : Prop where
  /-- All global directives stand in one file. -/
  globals : files.Pairwise fun f g => f.hasGlobals = false ∨ g.hasGlobals = false
  declarations : Declaration.Agree (Program.declarationsOf files)
  /-- At most one simple name leads to a registry. -/
  registry : ∀ name ∈ (Program.ofFiles assembly files).1.registryLikeNames,
    ∀ other ∈ (Program.ofFiles assembly files).1.registryLikeNames,
    ((Program.ofFiles assembly files).1.registryNamed? name).isSome = true →
    ((Program.ofFiles assembly files).1.registryNamed? other).isSome = true → name = other

theorem rootScope_eq_of_perm (h : files.Perm files')
    (hglobals : files.Pairwise fun f g => f.hasGlobals = false ∨ g.hasGlobals = false) :
    rootScope files' = rootScope files := by
  have hnone {f : ParsedFile} (hf : f.hasGlobals = false) : f.tree.children.filter (·.isGlobalUsing) = [] := by
    simpa [hasGlobals, List.filter_eq_nil_iff] using hf
  have hsame : globalUsings files = globalUsings files' :=
    flatMap_eq_of_perm h (hglobals.imp fun hfg => hfg.imp hnone hnone)
  simp only [rootScope, Scope.ofGlobals, filter_isGlobal_directives, hsame]

theorem perm_declarationsOf (h : files.Perm files') (hroot : rootScope files' = rootScope files) :
    (Program.declarationsOf files).Perm (Program.declarationsOf files') := by
  have hsame : declarations files' = declarations files := by
    funext f
    rw [declarations, declarations, hroot]
  rw [Program.declarationsOf_eq, Program.declarationsOf_eq, hsame]
  exact h.flatMap_right _

end ParsedFile

/-- The order of files does not show in the audit: the registry has the same full name, or there is none either way, and
the findings are the same up to their order. -/
theorem Program.analyze_ofFiles_perm {assembly : String} {files files' : List ParsedFile}
    (hfiles : ParsedFile.OrderFree assembly files) (h : files.Perm files') :
    (ofFiles assembly files').1.registryName? = (ofFiles assembly files).1.registryName? ∧
      ((ofFiles assembly files').1.analyze none).findings.Perm ((ofFiles assembly files).1.analyze none).findings := by
  have hdeclarations := ParsedFile.perm_declarationsOf h (ParsedFile.rootScope_eq_of_perm h hfiles.globals)
  have hreferenced : (files'.any fun f => namesFramework f.bytes) = files.any fun f => namesFramework f.bytes :=
    h.symm.any_eq
  have hbare := isBare_withFramework assembly (files.any fun f => namesFramework f.bytes)
  have hregistry := (sameShape_bind hbare hfiles.declarations hdeclarations).registryName? (coherent_bind hbare _)
    (coherent_bind hbare _) hfiles.registry
  simp only [ofFiles, hreferenced]
  exact ⟨hregistry, findings_bind_perm hbare hfiles.declarations hdeclarations hregistry⟩

namespace ParsedFile

/-- A list with one attribute whose arguments name types. -/
def attributeListNode (name : String) (types : List String) : Node :=
  let typeofNode (type : String) : Node :=
    ⟨.typeofExpression, "", default, true, none, [⟨.other "identifier", type, default, true, some .type, []⟩]⟩
  let arguments := types.map fun type => ⟨.attributeArgument, "", default, true, none, [typeofNode type]⟩
  ⟨.attributeList, "", default, true, none,
    [⟨.attribute, "", default, true, none,
      [⟨.other "identifier", name, default, true, some .name, []⟩,
        ⟨.attributeArgumentList, "", default, true, none, arguments⟩]⟩]⟩

/-- A part of a type with an attribute and written bases. -/
def partNode (kind : TypeKind) (name : String) (attributes : Node) (bases : List String) : Node :=
  ⟨.typeDeclaration kind, "", default, true, none,
    [attributes, ⟨.modifier, "partial", default, true, none, []⟩,
      ⟨.other "identifier", name, default, true, some .name, []⟩,
      ⟨.baseList, "", default, true, none,
        bases.map fun base => ⟨.other "identifier", base, default, true, none, []⟩⟩]⟩

/-- A file with the directive that the others need, and two files that each declare two models and a part of the
registry, which registers a model of the other file.  Only one part has a base. -/
def scatteredRegistry : List ParsedFile :=
  let model (name : String) := partNode .recordType name (attributeListNode "SerializationModel" []) []
  let registry (type : String) :=
    partNode .classType "AppSourceGenerationContext" (attributeListNode "JsonSerializable" [type])
  [{ ofChildren "Usings.cs" [directiveNode "global using System.Text.Json.Serialization;"] with
      bytes := frameworkNamespace.toUTF8 },
    ofChildren "A.cs" [spaceNode "App" [model "A", model "C", registry "D" ["JsonSerializerContext"]]],
    ofChildren "B.cs" [spaceNode "App" [model "B", model "D", registry "C" []]]]

private theorem orderFree_scatteredRegistry : OrderFree "App" scatteredRegistry where
  globals := by decide +kernel
  declarations := ⟨by decide +kernel, by decide +kernel⟩
  registry := by decide +kernel

end ParsedFile

open ParsedFile in
theorem Program.analyze_ofFiles_perm_scattered :
    let loaded (files : List ParsedFile) := (ofFiles "App" files).1
    let findings (files : List ParsedFile) := ((loaded files).analyze none).findings
    ((loaded scatteredRegistry).registryName? = some "App.AppSourceGenerationContext" ∧
        (findings scatteredRegistry).map (·.subject) = ["App.A", "App.B"] ∧
        (findings scatteredRegistry.reverse).map (·.subject) = ["App.B", "App.A"]) ∧
      OrderFree "App" scatteredRegistry ∧
      (loaded scatteredRegistry.reverse).registryName? = (loaded scatteredRegistry).registryName? ∧
      (findings scatteredRegistry.reverse).Perm (findings scatteredRegistry) :=
  ⟨by decide +kernel, orderFree_scatteredRegistry,
    analyze_ofFiles_perm orderFree_scatteredRegistry scatteredRegistry.reverse_perm.symm⟩

end Rollcall
