import Rollcall.Proofs.Graphs
import Rollcall.Proofs.Histories

/-!
# Which type is the registry

A simple name *nominates* a type when it ends as the names of registries do, the type is the first that its registry names
lead to, the type derives from the base of all registries, and it carries a registration (`Nominates`).  The registry is
what the first of the declared names nominates that nominates anything (`registry?_after`).
-/

namespace Rollcall

namespace Program

/-! ### Nominations -/

/-- Whether a simple name leads to `r` as a registry that derives from `base`. -/
structure Nominates (p : Program) (base : Symbol) (name : String) (r : Symbol) : Prop where
  ending : ∃ stem, name = stem ++ "SourceGenerationContext"
  /-- The root namespace of the assembly is tried when `Converters` declares no type of that name. -/
  firstHit : p.lookup? (p.assembly ++ ".Converters." ++ name) = some r ∨
    p.lookup? (p.assembly ++ ".Converters." ++ name) = none ∧ p.lookup? (p.assembly ++ "." ++ name) = some r
  derives : p.Derives r base
  registers : ∃ a ∈ p.attributesOf r, a.type = some "System.Text.Json.Serialization.JsonSerializableAttribute"

variable {p : Program} {base r : Symbol} {name : String}

private theorem mem_symbols_of_resolve? {fullName : String} (h : p.resolve? fullName = some r) : r ∈ p.symbols := by
  obtain ⟨record, hrecord, rfl⟩ := exists_record_of_resolve? h
  exact symbol_mem_symbols hrecord

private theorem registryCandidate?_eq_some_iff : p.registryCandidate? name = some r ↔
    p.lookup? (p.assembly ++ ".Converters." ++ name) = some r ∨
      p.lookup? (p.assembly ++ ".Converters." ++ name) = none ∧ p.lookup? (p.assembly ++ "." ++ name) = some r := by
  rw [registryCandidate?, registryNames, List.findSome?_cons, List.findSome?_cons]
  cases p.lookup? (p.assembly ++ ".Converters." ++ name) with
  | some t => simp
  | none => cases p.lookup? (p.assembly ++ "." ++ name) <;> simp

theorem isEmpty_entriesOf_eq_false_iff :
    (p.entriesOf r).isEmpty = false ↔ ∃ a ∈ p.attributesOf r, a.type = some registrationAttribute := by
  rw [List.isEmpty_eq_false_iff_exists_mem]
  simp only [entriesOf, List.mem_filter, beq_iff_eq]

private theorem isSuffixOf_toList_iff {ending : String} :
    ending.toList.isSuffixOf name.toList = true ↔ ∃ stem, name = stem ++ ending := by
  rw [List.isSuffixOf_iff_suffix]
  constructor
  · rintro ⟨stem, hstem⟩
    refine ⟨String.ofList stem, String.toList_injective ?_⟩
    rw [String.toList_append, String.toList_ofList, hstem]
  · rintro ⟨stem, rfl⟩
    exact ⟨stem.toList, String.toList_append.symm⟩

private theorem Nominates.lookup?_fullName (h : p.Nominates base name r) : p.lookup? r.fullName = some r ∧
    (r.fullName = p.assembly ++ ".Converters." ++ name ∨
      r.fullName = p.assembly ++ "." ++ name ∧ p.lookup? (p.assembly ++ ".Converters." ++ name) = none) := by
  rcases h.firstHit with hr | ⟨hnone, hr⟩
  · have hname := fullName_of_resolve? (resolve?_of_lookup? hr)
    exact ⟨by rw [hname, hr], .inl hname⟩
  · have hname := fullName_of_resolve? (resolve?_of_lookup? hr)
    exact ⟨by rw [hname, hr], .inr ⟨hname, hnone⟩⟩

private theorem dot_not_mem_of_mem_declaredNames (h : name ∈ p.declaredNames) : '.' ∉ name.toList := by
  obtain ⟨r, -, rfl⟩ := List.mem_map.mp (List.mem_eraseDups.mp h)
  exact (TypeName.isLastSegment_lastSegment r.symbol.fullName).1

/-- A type in `Converters` hides the type of the same name in the namespace of the assembly. -/
private theorem Nominates.fullName_ne (h : p.Nominates base name r) {other : String} (hother : other ∈ p.declaredNames)
    (hsome : (p.lookup? (p.assembly ++ ".Converters." ++ other)).isSome = true) :
    r.fullName ≠ p.assembly ++ "." ++ other := by
  intro heq
  rcases h.lookup?_fullName.2 with hname | ⟨hname, hnone⟩
  · -- a simple name has no dot in it
    have hsplit : ".Converters." ++ name = "." ++ ("Converters." ++ name) := by
      rw [← String.append_assoc]
      rfl
    rw [heq, String.append_assoc, String.append_assoc, hsplit, String.append_right_inj, String.append_right_inj] at hname
    have hdot := dot_not_mem_of_mem_declaredNames hother
    rw [hname] at hdot
    simp at hdot
  · rw [heq, String.append_right_inj] at hname
    rw [hname, hnone] at hsome
    exact absurd hsome (by simp)

/-- The type that a declared name makes the registry. -/
def nominee? (p : Program) (name : String) : Option Symbol :=
  if registryEnding.toList.isSuffixOf name.toList then p.registryNamed? name else none

private theorem registry?_eq_findSome?_nominee? (p : Program) : p.registry? = p.declaredNames.findSome? p.nominee? := by
  rw [registry?_eq_findSome?, registryLikeNames, ← List.head?_filterMap, List.filterMap_filter, List.head?_filterMap]
  rfl

end Program

private theorem Session.Sound.nominee?_eq_some_iff {session : Session} (h : session.Sound) {p : Program}
    (hp : p ∈ session.programs) {name : String} {r : Symbol} :
    p.nominee? name = some r ↔ ∃ base, p.resolve? registryBase = some base ∧ p.Nominates base name r := by
  have hinherits {base : Symbol} (hbase : p.resolve? registryBase = some base) :
      p.inherits r base = true ↔ p.Derives r base :=
    h.inherits_iff hp (h.mentioned p hp base (Program.mem_symbols_of_resolve? hbase))
  rw [Program.nominee?, Option.ite_none_right_eq_some, Program.registryNamed?, Option.bind_eq_some_iff]
  simp only [Option.filter_eq_some_iff, Program.qualifies, Bool.and_eq_true, Bool.not_eq_true',
    Program.isEmpty_entriesOf_eq_false_iff, Program.registryCandidate?_eq_some_iff]
  constructor
  · rintro ⟨hending, base, hbase, hhit, hderives, hregisters⟩
    exact ⟨base, hbase, Program.isSuffixOf_toList_iff.mp hending, hhit, (hinherits hbase).mp hderives, hregisters⟩
  · rintro ⟨base, hbase, hending, hhit, hderives, hregisters⟩
    exact ⟨Program.isSuffixOf_toList_iff.mpr hending, base, hbase, hhit, (hinherits hbase).mpr hderives, hregisters⟩

namespace Session

/-- The registry is what the first of the declared names nominates that nominates a type.  So it is declared, it is the
type that was added last under its full name, and it stands in the namespace of the assembly or in `Converters`, where a
type of the same name hides it in the namespace of the assembly whether it qualifies or not. -/
theorem registry?_after (commands : List Command) {n : Nat} {p : Program}
    (hp : (after commands).programs[n]? = some p) :
    (∀ r, p.registry? = some r ↔ ∃ base earlier name later,
      p.resolve? "System.Text.Json.Serialization.JsonSerializerContext" = some base ∧
        p.declaredNames = earlier ++ name :: later ∧ p.Nominates base name r ∧
        ∀ other ∈ earlier, ∀ t, ¬ p.Nominates base other t) ∧
    (p.registry? = none ↔ ∀ base,
      p.resolve? "System.Text.Json.Serialization.JsonSerializerContext" = some base →
        ∀ name ∈ p.declaredNames, ∀ r, ¬ p.Nominates base name r) ∧
    ∀ r, p.registry? = some r →
      (∃ record, p.latest? r.fullName = some record ∧ record.isDeclared = true ∧ record.symbol = r) ∧
        (∃ name ∈ p.declaredNames,
          r.fullName = p.assembly ++ ".Converters." ++ name ∨ r.fullName = p.assembly ++ "." ++ name) ∧
        ∀ name ∈ p.declaredNames, (p.lookup? (p.assembly ++ ".Converters." ++ name)).isSome = true →
          r.fullName ≠ p.assembly ++ "." ++ name := by
  have hnominee {name : String} {r : Symbol} :
      p.nominee? name = some r ↔ ∃ base, p.resolve? registryBase = some base ∧ p.Nominates base name r :=
    (sound_after commands).nominee?_eq_some_iff (List.mem_of_getElem? hp)
  have hregistry (r : Symbol) : p.registry? = some r ↔ ∃ base earlier name later,
      p.resolve? registryBase = some base ∧ p.declaredNames = earlier ++ name :: later ∧ p.Nominates base name r ∧
        ∀ other ∈ earlier, ∀ t, ¬ p.Nominates base other t := by
    rw [Program.registry?_eq_findSome?_nominee?, List.findSome?_eq_some_iff]
    constructor
    · rintro ⟨earlier, name, later, hsplit, hname, hearlier⟩
      obtain ⟨base, hbase, hr⟩ := hnominee.mp hname
      refine ⟨base, earlier, name, later, hbase, hsplit, hr, fun other hother t ht => ?_⟩
      exact absurd ((hearlier other hother).symm.trans (hnominee.mpr ⟨base, hbase, ht⟩)) (by simp)
    · rintro ⟨base, earlier, name, later, hbase, hsplit, hr, hearlier⟩
      refine ⟨earlier, name, later, hsplit, hnominee.mpr ⟨base, hbase, hr⟩, fun other hother => ?_⟩
      refine Option.eq_none_iff_forall_ne_some.mpr fun t ht => ?_
      obtain ⟨base', hbase', ht⟩ := hnominee.mp ht
      cases hbase.symm.trans hbase'
      exact hearlier other hother t ht
  refine ⟨hregistry, ?_, fun r hr => ?_⟩
  · rw [Program.registry?_eq_findSome?_nominee?, List.findSome?_eq_none_iff]
    constructor
    · intro hnone base hbase name hname r hr
      exact absurd ((hnone name hname).symm.trans (hnominee.mpr ⟨base, hbase, hr⟩)) (by simp)
    · intro hnone name hname
      refine Option.eq_none_iff_forall_ne_some.mpr fun r hr => ?_
      obtain ⟨base, hbase, hr⟩ := hnominee.mp hr
      exact hnone base hbase name hname r hr
  · obtain ⟨base, earlier, name, later, -, hsplit, hr, -⟩ := (hregistry r).mp hr
    obtain ⟨hlookup, hname⟩ := hr.lookup?_fullName
    obtain ⟨record, hrecord, hsymbol⟩ := Option.map_eq_some_iff.mp hlookup
    obtain ⟨hlatest, hdeclared⟩ := Option.filter_eq_some_iff.mp hrecord
    refine ⟨⟨record, hlatest, hdeclared, hsymbol⟩, ⟨name, by simp [hsplit], ?_⟩, fun other hother hsome => ?_⟩
    · exact hname.imp_right And.left
    · exact hr.fullName_ne hother hsome

/-- A history in which a type of `Converters` that is its own base hides a type that would qualify, so that the registry
is found under the next name, two steps away from the base. -/
theorem registry?_after_hidden :
    let registration : GivenAttribute := ⟨some registrationAttribute, []⟩
    let commands : List Command := [
      .newProgram "App",
      .addExternal 0 registryBase .classType none,
      .declare 0 "App.Converters.FirstSourceGenerationContext" .classType none none [registration],
      .setBase 0 1 (some 1),
      .declare 0 "App.FirstSourceGenerationContext" .classType none (some 0) [registration],
      .declare 0 "App.Context" .classType none (some 0) [],
      .declare 0 "App.SecondSourceGenerationContext" .classType none (some 3) [registration]]
    let second : Symbol := ⟨4, "App.SecondSourceGenerationContext", .classType, none⟩
    ∃ p, (after commands).programs[0]? = some p ∧ p.registry? = some second ∧
      ∃ base earlier name later, p.resolve? registryBase = some base ∧ p.declaredNames = earlier ++ name :: later ∧
        p.Nominates base name second ∧ ∀ other ∈ earlier, ∀ t, ¬ p.Nominates base other t := by
  intro registration commands second
  obtain ⟨p, hp, hregistry⟩ : ∃ p, (after commands).programs[0]? = some p ∧ p.registry? = some second :=
    ⟨_, rfl, by decide +kernel⟩
  exact ⟨p, hp, hregistry, ((registry?_after commands hp).1 second).mp hregistry⟩

end Session

end Rollcall
