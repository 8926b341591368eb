import Mathlib.Data.List.Basic
import Rollcall.Loading
import Rollcall.Proofs.Analyses
import Rollcall.Proofs.Binding
import Rollcall.Proofs.Collecting

/-!
# The audit of loaded files

What the audit of a program finds that is loaded from parsed files, said in terms of the files: which declarations are
reported, and under which name and location (`findings_ofFiles`).

In a loaded program every symbol that a written name can stand for is the current entry under its full name, so that
comparing symbols is the same as comparing full names (`same_iff_fullName_eq`), also where a declared type has
taken the place of a framework type.
-/

namespace Rollcall

/-! ### Declarations of files -/

/-- The scope that the global directives of all files give to each of them. -/
def ParsedFile.rootScope (files : List ParsedFile) : Scope :=
  Scope.ofGlobals (files.flatMap fun f => (Outline.ofNode f.tree).directives)

/-- The declarations of one of several files. -/
def ParsedFile.declarations (files : List ParsedFile) (f : ParsedFile) : List Declaration :=
  Declaration.collect ⟨f.path.render, f.isGenerated⟩ (rootScope files) f.tree

theorem Program.declarationsOf_eq (files : List ParsedFile) :
    Program.declarationsOf files = files.flatMap (ParsedFile.declarations files) := by
  unfold declarationsOf ParsedFile.declarations ParsedFile.rootScope Declaration.collect
  simp only [List.flatMap_map]

/-! ### Which declarations are reported -/

namespace Program

/-- Whether a written attribute registers the type with some full name: its name is bound to the registration attribute,
and its first argument names that type by `typeof`. -/
def Registers (p : Program) (scope : Scope) (a : WrittenAttribute) (fullName : String) : Prop :=
  (∃ t, p.resolveAttributeIn? scope a.name = some t ∧ t.fullName = registrationAttribute) ∧
    ∃ operand s, a.arguments.head? = some (.typeof operand) ∧ p.bindArgument scope (.typeof operand) = .type s ∧
      s.fullName = fullName

/-- Whether a registry misses the model that `d` declares, one of the declarations of a program. -/
structure Misses (p : Program) (declarations : List Declaration) (registry : Symbol) (d : Declaration) : Prop where
  isRecord : d.kind = .recordType
  isMarked : "SerializationModel" ∈ d.attributes.map (·.name)
  isUnambiguous : Declaration.Unambiguous declarations d.fullName
  /-- No part of the registry registers it. -/
  isUnregistered : ∀ part ∈ declarations, part.fullName = registry.fullName →
    ∀ a ∈ part.attributes, ¬ p.Registers part.scope a d.fullName

instance (declarations : List Declaration) (fullName : String) :
    Decidable (Declaration.Unambiguous declarations fullName) :=
  inferInstanceAs (Decidable (_ ∨ _))

/-- The full name of the type that the first argument names. -/
private def firstOperand? (p : Program) (scope : Scope) (a : WrittenAttribute) : Option String :=
  match a.arguments with
  | .typeof operand :: _ => (p.resolveOperandIn? scope operand).map (·.fullName)
  | _ => none

theorem bindArgument_typeof {p : Program} {scope : Scope} {operand : String} {s : Symbol} :
    p.bindArgument scope (.typeof operand) = .type s ↔ p.resolveOperandIn? scope operand = some s := by
  unfold bindArgument
  cases h : p.resolveOperandIn? scope operand <;> simp [h]

private theorem registers_iff_firstOperand? {p : Program} {scope : Scope} {a : WrittenAttribute} {fullName : String} :
    (p.resolveAttributeIn? scope a.name).map (·.fullName) = some registrationAttribute ∧
        p.firstOperand? scope a = some fullName ↔
      p.Registers scope a fullName := by
  unfold Registers
  rw [Option.map_eq_some_iff]
  refine and_congr Iff.rfl ?_
  unfold firstOperand?
  split
  · next operand rest h =>
    simp only [h, List.head?_cons, Option.some.injEq, WrittenArgument.typeof.injEq, bindArgument_typeof,
      Option.map_eq_some_iff]
    constructor
    · rintro ⟨s, hs, hn⟩
      exact ⟨operand, s, rfl, hs, hn⟩
    · rintro ⟨_, s, rfl, hs, hn⟩
      exact ⟨s, hs, hn⟩
  · next h =>
    constructor
    · intro hf
      exact absurd hf (by simp)
    · rintro ⟨operand, s, ho, -⟩
      obtain ⟨rest, hr⟩ := List.head?_eq_some_iff.mp ho
      exact absurd hr (h operand rest)

instance (p : Program) (scope : Scope) (a : WrittenAttribute) (fullName : String) :
    Decidable (p.Registers scope a fullName) :=
  decidable_of_iff _ registers_iff_firstOperand?

instance (p : Program) (declarations : List Declaration) (registry : Symbol) (d : Declaration) :
    Decidable (p.Misses declarations registry d) :=
  decidable_of_iff (d.kind = .recordType ∧ "SerializationModel" ∈ d.attributes.map (·.name) ∧
      Declaration.Unambiguous declarations d.fullName ∧
      ∀ part ∈ declarations, part.fullName = registry.fullName →
        ∀ a ∈ part.attributes, ¬ p.Registers part.scope a d.fullName)
    ⟨fun ⟨hr, hm, hu, hn⟩ => ⟨hr, hm, hu, hn⟩, fun ⟨hr, hm, hu, hn⟩ => ⟨hr, hm, hu, hn⟩⟩

/-! ### Symbols of a loaded program -/

private theorem isDeclared_withFramework (assembly : String) (isReferenced : Bool) :
    ∀ r ∈ (withFramework assembly isReferenced).records, r.isDeclared = false := by
  cases isReferenced with
  | false => simp [withFramework, empty]
  | true => simp [withFramework, frameworkTypes, addExternal, add, empty]

/-- A new symbol is the same as a symbol that some name stands for exactly when their full names are equal. -/
theorem same_iff_fullName_eq {p : Program} {declarations : List Declaration} {g : TypeGroup} {s t : Symbol}
    (hs : (g, s) ∈ p.newTypes declarations) (ht : (p.bind declarations).1.resolve? t.fullName = some t) :
    t.serial = s.serial ↔ t.fullName = s.fullName := by
  have hs' : (p.bind declarations).1.resolve? s.fullName = some s := by
    rw [resolve?_bind, symbolNamed?_newTypes.mpr ⟨g, hs, (fullName_of_mem_newTypes hs).symm⟩]
    rfl
  constructor
  · intro hserial
    -- the record of `t` is not an old one, because old serial numbers are smaller
    obtain ⟨r, hr, rfl⟩ := exists_record_of_resolve? ht
    rw [records_bind] at hr
    rcases List.mem_append.mp hr with hold | hnew
    · have := serial_lt_nextSymbol (symbol_mem_symbols hold)
      have := nextSymbol_le_of_mem_newTypes hs
      omega
    · obtain ⟨x, hx, rfl⟩ := List.mem_map.mp hnew
      have := eq_of_key_eq (pairwise_serial_newTypes p declarations) hx hs hserial
      rw [this]
  · intro hname
    rw [hname, hs'] at ht
    rw [Option.some.inj ht]

variable {p : Program} {declarations : List Declaration} {g k : TypeGroup} {s registry : Symbol}

/-- A written attribute registers a full name exactly when its bound form is a registration whose first argument is a type
of that name. -/
private theorem registers_iff_bindAttribute {scope : Scope} {written : WrittenAttribute} {fullName : String} :
    p.Registers scope written fullName ↔
      (p.bindAttribute scope written).type = some registrationAttribute ∧
        ∃ t, (p.bindAttribute scope written).arguments.head? = some (.type t) ∧ t.fullName = fullName := by
  unfold Registers
  rw [type_bindAttribute, Option.map_eq_some_iff]
  refine and_congr Iff.rfl ?_
  have hargs : (p.bindAttribute scope written).arguments.head? =
      written.arguments.head?.map (p.bindArgument scope) := by
    rw [← List.head?_map]
    simp only [bindAttribute]
  rw [hargs]
  constructor
  · rintro ⟨operand, t, ho, ht, hn⟩
    exact ⟨t, by rw [ho, Option.map_some, ht], hn⟩
  · rintro ⟨t, ht, hn⟩
    obtain ⟨argument, ha, hb⟩ := Option.map_eq_some_iff.mp ht
    cases argument with
    | typeof operand => exact ⟨operand, t, ha, hb, hn⟩
    | constant value => exact absurd hb (by simp [bindArgument])
    | unevaluated => exact absurd hb (by simp [bindArgument])

/-- A declared registry registers a new symbol exactly when an attribute of one of its parts registers the full name. -/
private theorem isRegistered_bind_iff (hr : (k, registry) ∈ p.newTypes declarations)
    (hs : (g, s) ∈ p.newTypes declarations) :
    isRegistered ((p.bind declarations).1.entriesOf registry) s = true ↔
      ∃ part ∈ declarations, part.fullName = registry.fullName ∧
        ∃ written ∈ part.attributes, (p.bind declarations).1.Registers part.scope written s.fullName := by
  rw [isRegistered_entriesOf_iff]
  constructor
  · rintro ⟨a, ha, htype, t, ht, hserial⟩
    obtain ⟨part, hp, hn, written, hw, rfl⟩ := (mem_attributesOf_bind hr).mp ha
    refine ⟨part, hp, hn, written, hw, registers_iff_bindAttribute.mpr ⟨htype, t, ht, ?_⟩⟩
    exact (same_iff_fullName_eq hs (resolve?_of_mem_bindAttribute (List.mem_of_head? ht))).mp hserial
  · rintro ⟨part, hp, hn, written, hw, hreg⟩
    obtain ⟨htype, t, ht, hname⟩ := registers_iff_bindAttribute.mp hreg
    refine ⟨_, (mem_attributesOf_bind hr).mpr ⟨part, hp, hn, written, hw, rfl⟩, htype, t, ht, ?_⟩
    exact (same_iff_fullName_eq hs (resolve?_of_mem_bindAttribute (List.mem_of_head? ht))).mpr hname

/-- The check of the site of a declaration reports exactly the models that the registry misses. -/
theorem checkSite_bind (hr : (k, registry) ∈ p.newTypes declarations) {i : Nat} {d : Declaration}
    (hd : declarations[i]? = some d) :
    (p.bind declarations).1.checkSite ((p.bind declarations).1.entriesOf registry) (siteOf (p.nextSite + i) d) =
      if (p.bind declarations).1.Misses declarations registry d then
        some ⟨"CRY001", d.fullName, some d.location⟩
      else none := by
  apply Option.ext
  intro f
  rw [checkSite_eq_some_iff, symbolOf?_bind hd]
  have hmem := List.mem_of_getElem? hd
  rw [Option.ite_none_right_eq_some]
  constructor
  · rintro ⟨hk, hm, s, hs, hreg, rfl⟩
    have hsome : (symbolNamed? (p.newTypes declarations) d.fullName).isSome = true := by rw [hs]; rfl
    obtain ⟨g, hg, hname⟩ := symbolNamed?_newTypes.mp hs
    have hsn : s.fullName = d.fullName := by rw [fullName_of_mem_newTypes hg, hname]
    rw [isRegistered_bind_iff hr hg, hsn] at hreg
    refine ⟨⟨hk, hm, (isSome_symbolNamed?_iff hmem).mp hsome, ?_⟩, by rw [← hsn]; rfl⟩
    intro part hp hn a ha hra
    exact hreg ⟨part, hp, hn, a, ha, hra⟩
  · rintro ⟨⟨hk, hm, hu, hn⟩, hf⟩
    obtain ⟨s, hs⟩ := Option.isSome_iff_exists.mp ((isSome_symbolNamed?_iff (p := p) hmem).mpr hu)
    obtain ⟨g, hg, hname⟩ := symbolNamed?_newTypes.mp hs
    have hsn : s.fullName = d.fullName := by rw [fullName_of_mem_newTypes hg, hname]
    refine ⟨hk, hm, s, hs, ?_, by rw [hsn]; exact (Option.some.inj hf).symm⟩
    rw [isRegistered_bind_iff hr hg, hsn]
    rintro ⟨part, hp, hpn, a, ha, hra⟩
    exact hn part hp hpn a ha hra

/-- What is said about each site of a bound program can be said about the declarations. -/
theorem filterMap_sites_bind {α : Type} {onSite : Site → Option α} (onDeclaration : Declaration → Option α)
    (hp : p.sites = [])
    (h : ∀ i d, declarations[i]? = some d → onSite (siteOf (p.nextSite + i) d) = onDeclaration d) :
    (p.bind declarations).1.sites.filterMap onSite = declarations.filterMap onDeclaration := by
  rw [sites_bind, hp, List.nil_append, List.filterMap_map]
  conv => rhs; rw [← List.zipIdx_map_fst p.nextSite declarations, List.filterMap_map]
  apply List.filterMap_congr
  rintro ⟨d, serial⟩ hd
  obtain ⟨hle, hd⟩ := List.mk_mem_zipIdx_iff_le_and_getElem?_sub.mp hd
  have := h _ d hd
  rwa [Nat.add_sub_cancel' hle] at this

theorem sites_withFramework (assembly : String) (isReferenced : Bool) :
    (withFramework assembly isReferenced).sites = [] := by
  cases isReferenced <;> rfl

/-- The audit of loaded files finds nothing without a registry.  With one it finds, file by file and in the order of the
declarations, the models that the registry misses in files that are not generated. -/
theorem findings_ofFiles (assembly : String) (files : List ParsedFile) :
    ((ofFiles assembly files).1.analyze none).findings =
      match registry? (ofFiles assembly files).1 with
      | none => []
      | some registry => files.flatMap fun file =>
          ((file.declarations files).filter fun d => file.isGenerated = false ∧
            (ofFiles assembly files).1.Misses (declarationsOf files) registry d).map
              fun d => ⟨"CRY001", d.fullName, some d.location⟩ := by
  let p := withFramework assembly (files.any fun f => namesFramework f.bytes)
  have hq : (ofFiles assembly files).1 = (p.bind (declarationsOf files)).1 := rfl
  rw [findings_analyze, hq]
  cases hreg : registry? (p.bind (declarationsOf files)).1 with
  | none => rfl
  | some registry =>
    obtain ⟨fullName, hl⟩ := lookup?_of_registry? hreg
    obtain ⟨r, hr, rfl, hd, -⟩ := exists_record_of_lookup? hl
    obtain ⟨k, hk⟩ := exists_newType_of_isDeclared (isDeclared_withFramework _ _) hr hd
    simp only
    rw [filterMap_sites_bind
      (fun d => if d.isGenerated then none
        else if (p.bind (declarationsOf files)).1.Misses (declarationsOf files) r.symbol d then
          some ⟨"CRY001", d.fullName, some d.location⟩ else none)
      (sites_withFramework _ _)]
    · rw [declarationsOf_eq, List.filterMap_flatMap]
      apply List.flatMap_congr
      intro file hfile
      rw [← List.filterMap_eq_map, List.filterMap_filter]
      apply List.filterMap_congr
      intro d hd
      rw [Declaration.isGenerated_of_mem_collect hd]
      cases file.isGenerated <;> simp
    · intro i d hd
      rw [← checkSite_bind hk hd]
      rfl

end Program

end Rollcall
