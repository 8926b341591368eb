import Rollcall.Proofs.Registries

/-!
# More registrations

The attributes of the registry serve twice: without a registration it would not be the registry, and the registrations
decide what is found.  When the registry gets attributes besides those that it has,

* it stays the registry, whatever other types might have been it (`registry?_setAttributes?`);
* the findings that are left are those at the sites whose types it does not register then (`findings_setAttributes?`).

So one more registration takes away the findings at the sites of one type, and these only
(`findings_after_registration`).
-/

namespace Rollcall

namespace Program

variable {p q : Program} {r t : Symbol} {attributes : List Attribute}

/-! ### What depends on the added types and on the bases -/

private theorem lookup?_congr (h : q.records.map (·.head) = p.records.map (·.head)) : q.lookup? = p.lookup? := by
  have hlookup (p : Program) (fullName : String) :
      p.lookup? fullName = (((p.latest? fullName).map (·.head)).filter (·.2)).map (·.1) := by
    rw [lookup?, Option.filter_map, Option.map_map]
    rfl
  funext fullName
  rw [hlookup, hlookup, latest?, latest?, map_head_find?, map_head_find?, h]

private theorem declaredNames_congr (h : q.records.map (·.head) = p.records.map (·.head)) :
    q.declaredNames = p.declaredNames := by
  have hnames (p : Program) :
      p.declaredNames = (((p.records.map (·.head)).filter (·.2)).map (·.1.name)).eraseDups := by
    rw [declaredNames, List.filter_map, List.map_map]
    rfl
  rw [hnames, hnames, h]

private theorem inherits_congr (h : q.baseOf? = p.baseOf?) : q.inherits = p.inherits := by
  funext s base
  rw [Bool.eq_iff_iff, inherits_iff_derives, inherits_iff_derives]
  simp only [Derives, h]

private theorem entriesOf_congr {s : Symbol} (h : s.serial = t.serial) : p.entriesOf s = p.entriesOf t := by
  simp only [entriesOf, attributesOf, record?, Symbol.same, h]

/-! ### Other attributes -/

private theorem map_head_setAttributes? (hq : p.setAttributes? r attributes = some q) :
    q.records.map (·.head) = p.records.map (·.head) := by
  obtain ⟨-, rfl⟩ := setAttributes?_eq_some_iff.mp hq
  exact map_head_update p r fun _ => rfl

private theorem record?_setAttributes? (hq : p.setAttributes? r attributes = some q) (t : Symbol) :
    q.record? t = (p.record? t).map fun record => if record.symbol.same r then { record with attributes } else record := by
  obtain ⟨-, rfl⟩ := setAttributes?_eq_some_iff.mp hq
  exact record?_update_eq_map p r t fun _ => rfl

private theorem baseOf?_setAttributes? (hq : p.setAttributes? r attributes = some q) : q.baseOf? = p.baseOf? := by
  funext t
  rw [baseOf?, baseOf?, record?_setAttributes? hq]
  cases p.record? t with
  | none => rfl
  | some record =>
    show (if record.symbol.same r then { record with attributes } else record).base = record.base
    split <;> rfl

private theorem attributesOf_setAttributes? (hq : p.setAttributes? r attributes = some q) :
    q.attributesOf r = attributes := by
  obtain ⟨howns, -⟩ := setAttributes?_eq_some_iff.mp hq
  have hsome : (p.record? r).isSome = true := List.find?_isSome.mpr (List.any_eq_true.mp howns)
  obtain ⟨record, hrecord⟩ := Option.isSome_iff_exists.mp hsome
  have hsame : record.symbol.same r = true := Symbol.same_iff.mpr (serial_of_record? hrecord)
  rw [attributesOf, record?_setAttributes? hq, hrecord, Option.map_some, if_pos hsame]
  rfl

private theorem attributesOf_setAttributes?_of_ne (hq : p.setAttributes? r attributes = some q)
    (ht : t.serial ≠ r.serial) : q.attributesOf t = p.attributesOf t := by
  rw [attributesOf, attributesOf, record?_setAttributes? hq]
  cases hrecord : p.record? t with
  | none => rfl
  | some record =>
    have hsame : ¬ record.symbol.same r = true := by
      rw [Symbol.same_iff, serial_of_record? hrecord]
      exact ht
    rw [Option.map_some, if_neg hsame]

/-! ### More attributes of the registry -/

private theorem owns_of_registry? (hr : p.registry? = some r) : p.owns r = true := by
  obtain ⟨fullName, hlookup⟩ := lookup?_of_registry? hr
  obtain ⟨record, hrecord, rfl, -⟩ := exists_record_of_lookup? hlookup
  exact List.any_eq_true.mpr ⟨record, hrecord, Symbol.same_iff.mpr rfl⟩

private theorem exists_registration_of_registry? (hr : p.registry? = some r) :
    ∃ a ∈ p.attributesOf r, a.type = some registrationAttribute := by
  rw [registry?_eq_findSome?] at hr
  obtain ⟨name, -, hname⟩ := List.exists_of_findSome?_eq_some hr
  obtain ⟨base, -, hcandidate⟩ := Option.bind_eq_some_iff.mp hname
  have hqualifies := (Option.filter_eq_some_iff.mp hcandidate).2
  rw [qualifies, Bool.and_eq_true, Bool.not_eq_true', isEmpty_entriesOf_eq_false_iff] at hqualifies
  exact hqualifies.2

/-- Every type carries a registration after the change exactly when it did before. -/
private theorem qualifies_setAttributes? (hr : p.registry? = some r) (hq : p.setAttributes? r attributes = some q)
    (hmore : p.attributesOf r ⊆ attributes) : q.qualifies = p.qualifies := by
  funext base t
  rw [qualifies, qualifies, inherits_congr (baseOf?_setAttributes? hq)]
  by_cases ht : t.serial = r.serial
  · obtain ⟨a, ha, htype⟩ := exists_registration_of_registry? hr
    have hold : (p.entriesOf r).isEmpty = false := isEmpty_entriesOf_eq_false_iff.mpr ⟨a, ha, htype⟩
    have hnew : (q.entriesOf r).isEmpty = false := by
      rw [isEmpty_entriesOf_eq_false_iff, attributesOf_setAttributes? hq]
      exact ⟨a, hmore ha, htype⟩
    rw [entriesOf_congr ht, entriesOf_congr ht, hold, hnew]
  · rw [entriesOf, entriesOf, attributesOf_setAttributes?_of_ne hq ht]

theorem registry?_setAttributes? (hr : p.registry? = some r) (hq : p.setAttributes? r attributes = some q)
    (hmore : p.attributesOf r ⊆ attributes) : q.registry? = some r := by
  have hheads := map_head_setAttributes? hq
  have hassembly : q.assembly = p.assembly := by
    obtain ⟨-, rfl⟩ := setAttributes?_eq_some_iff.mp hq
    rfl
  have hresolve : q.resolve? = p.resolve? := by
    refine resolve?_congr ?_
    have hsymbols := congrArg (List.map Prod.fst) hheads
    rwa [List.map_map, List.map_map] at hsymbols
  have hnamed : q.registryNamed? = p.registryNamed? := by
    funext name
    simp only [registryNamed?, registryCandidate?, registryNames, hresolve, lookup?_congr hheads, hassembly,
      qualifies_setAttributes? hr hq hmore]
  rw [registry?_eq_findSome?, registryLikeNames, declaredNames_congr hheads, hnamed, ← hr, registry?_eq_findSome?,
    registryLikeNames]

/-- A site of a type that the registry registers then is fine, and about all others the check says what it said before. -/
private theorem finding_check_setAttributes? (hr : p.registry? = some r) (hq : p.setAttributes? r attributes = some q)
    (hmore : p.attributesOf r ⊆ attributes) (site : Site) :
    ((Analysis.new .byConvention).check q site).2.1 =
      if (p.symbolOf? site).any (isRegistered (q.entriesOf r)) then none
      else ((Analysis.new .byConvention).check p site).2.1 := by
  have hsymbol : q.symbolOf? site = p.symbolOf? site := by
    rw [symbolOf?, symbolOf?, bindings_setAttributes? hq]
  have hkept {s : Symbol} (h : isRegistered (p.entriesOf r) s = true) : isRegistered (q.entriesOf r) s = true := by
    rw [isRegistered_entriesOf_iff] at h ⊢
    obtain ⟨a, ha, hregisters⟩ := h
    rw [attributesOf_setAttributes? hq]
    exact ⟨a, hmore ha, hregisters⟩
  rw [finding_check_new (registry?_setAttributes? hr hq hmore), finding_check_new hr, checkSite, checkSite, hsymbol]
  cases p.symbolOf? site with
  | none => simp
  | some s =>
    by_cases hnew : isRegistered (q.entriesOf r) s = true
    · simp [hnew]
    · have hold : ¬ isRegistered (p.entriesOf r) s = true := fun h => hnew (hkept h)
      simp [hnew, hold]

theorem findings_setAttributes? (hr : p.registry? = some r) (hq : p.setAttributes? r attributes = some q)
    (hmore : p.attributesOf r ⊆ attributes) :
    (q.analyze none).findings = (Analysis.new .byConvention).findingsAt p
      (p.sites.filter fun site => !(p.symbolOf? site).any (isRegistered (q.entriesOf r))) := by
  have hsites : q.sites = p.sites := by
    rw [sites, sites, bindings_setAttributes? hq]
  rw [findings_analyze_eq_findingsAt, Analysis.findingsAt, Analysis.findingsAt, List.filterMap_filter, hsites]
  refine List.filterMap_congr fun site _ => ?_
  rw [finding_check_setAttributes? hr hq hmore]
  cases (p.symbolOf? site).any (isRegistered (q.entriesOf r)) <;> rfl

/-- One more registration registers one more type. -/
private theorem isRegistered_of_registration {earlier later : List Attribute} {x s : Symbol} {arguments : List Argument}
    (hsplit : p.attributesOf r = earlier ++ later)
    (hq : p.setAttributes? r (earlier ++ ⟨some registrationAttribute, .type x :: arguments⟩ :: later) = some q) :
    isRegistered (q.entriesOf r) s = true ↔ isRegistered (p.entriesOf r) s = true ∨ x.serial = s.serial := by
  have hregisters : (⟨some registrationAttribute, .type x :: arguments⟩ : Attribute).registers s = x.same s := rfl
  rw [entriesOf, entriesOf, attributesOf_setAttributes? hq, hsplit, ← Symbol.same_iff, ← hregisters]
  simp only [isRegistered, List.any_filter, List.any_append, List.any_cons, beq_self_eq_true, Bool.true_and,
    Bool.or_eq_true]
  exact or_left_comm.trans or_comm

private theorem exists_symbol_of_finding_check (hr : p.registry? = some r) {site : Site} {f : Finding}
    (hf : ((Analysis.new .byConvention).check p site).2.1 = some f) :
    ∃ s ∈ p.symbols, p.symbolOf? site = some s ∧ ¬ isRegistered (p.entriesOf r) s = true := by
  rw [finding_check_new hr] at hf
  obtain ⟨-, hcheck⟩ := Option.ite_none_left_eq_some.mp hf
  obtain ⟨-, -, s, hs, hmissed, -⟩ := checkSite_eq_some_iff.mp hcheck
  obtain ⟨b, hb, hbs⟩ := Option.bind_eq_some_iff.mp hs
  have hmem : b ∈ p.bindings := List.mem_reverse.mp (List.mem_of_find?_eq_some hb)
  exact ⟨s, mem_symbols.mpr (.inr ⟨b, hmem, hbs⟩), hs, hmissed⟩

/-- When the type of every finding is registered nothing is found any more. -/
private theorem findings_setAttributes?_eq_nil (hr : p.registry? = some r) (hq : p.setAttributes? r attributes = some q)
    (hmore : p.attributesOf r ⊆ attributes)
    (hall : ∀ site ∈ p.sites, ∀ f, ((Analysis.new .byConvention).check p site).2.1 = some f →
      ∃ x arguments, p.symbolOf? site = some x ∧ ⟨some registrationAttribute, .type x :: arguments⟩ ∈ attributes) :
    (q.analyze none).findings = [] := by
  rw [findings_setAttributes? hr hq hmore, Analysis.findingsAt, List.filterMap_eq_nil_iff]
  intro site hsite
  obtain ⟨hsite, hkept⟩ := List.mem_filter.mp hsite
  cases hf : ((Analysis.new .byConvention).check p site).2.1 with
  | none => rfl
  | some f =>
    obtain ⟨x, arguments, hx, hregistration⟩ := hall site hsite f hf
    have hregistered : isRegistered (q.entriesOf r) x = true := by
      rw [isRegistered_entriesOf_iff, attributesOf_setAttributes? hq]
      exact ⟨_, hregistration, rfl, x, rfl, rfl⟩
    rw [hx] at hkept
    simp [hregistered] at hkept

end Program

/-- Which sites are left out does not matter as far as they have no findings. -/
private theorem Analysis.findingsAt_filter_congr {a : Analysis} {p : Program} {sites : List Site}
    {kept kept' : Site → Bool} (h : ∀ site ∈ sites, ∀ f, (a.check p site).2.1 = some f → kept site = kept' site) :
    a.findingsAt p (sites.filter kept) = a.findingsAt p (sites.filter kept') := by
  rw [findingsAt, findingsAt, List.filterMap_filter, List.filterMap_filter]
  refine List.filterMap_congr fun site hsite => ?_
  cases hf : (a.check p site).2.1 with
  | none => simp
  | some f => rw [h site hsite f hf]

/-- In a session a registration leaves the registry what it is, and takes away the findings at the sites of the very type
that it registers. -/
private theorem Session.Sound.analyze_of_registration {session : Session} (h : session.Sound) {p q : Program}
    (hp : p ∈ session.programs) {r x : Symbol} (hr : p.registry? = some r) (hx : x ∈ session.symbols)
    {earlier later : List Attribute} {arguments : List Argument} (hsplit : p.attributesOf r = earlier ++ later)
    (hq : p.setAttributes? r (earlier ++ ⟨some registrationAttribute, .type x :: arguments⟩ :: later) = some q) :
    q.registry? = some r ∧
      (q.analyze none).findings = (Analysis.new .byConvention).findingsAt p
        (p.sites.filter fun site => p.symbolOf? site ≠ some x) := by
  have hmore : p.attributesOf r ⊆ earlier ++ ⟨some registrationAttribute, .type x :: arguments⟩ :: later := by
    rw [hsplit]
    exact ((List.sublist_cons_self _ later).append_left earlier).subset
  refine ⟨Program.registry?_setAttributes? hr hq hmore, ?_⟩
  rw [Program.findings_setAttributes? hr hq hmore]
  refine Analysis.findingsAt_filter_congr fun site _ f hf => ?_
  obtain ⟨s, hs, hbound, hmissed⟩ := Program.exists_symbol_of_finding_check hr hf
  -- the type of a finding was not registered before, so that it is registered now only as the new one
  have hnew : isRegistered (q.entriesOf r) s = true ↔ s = x := by
    rw [Program.isRegistered_of_registration hsplit hq, or_iff_right hmissed]
    constructor
    · intro hserial
      exact h.symbols.eq_of_serial_eq (h.mentioned p hp s hs) hx hserial.symm
    · rintro rfl
      rfl
  rw [hbound, Bool.eq_iff_iff]
  simp [← hnew]

namespace Session

/-- One more registration of a type, put anywhere among the attributes of the registry, leaves it the registry and takes
away the findings at the sites of that very type.  More attributes of any kind take findings away and bring none, and when
they register the type of every finding nothing is found any more. -/
theorem findings_after_registration (commands : List Command) {n : Nat} {p : Program}
    (hp : (after commands).programs[n]? = some p) {r : Symbol} (hr : p.registry? = some r) :
    let fresh := Analysis.new .byConvention
    (p.analyze none).findings = fresh.findingsAt p p.sites ∧
    (∀ x ∈ (after commands).symbols, ∀ earlier later arguments, p.attributesOf r = earlier ++ later →
      ∃ q, p.setAttributes? r (earlier ++ ⟨some registrationAttribute, .type x :: arguments⟩ :: later) = some q ∧
        q.registry? = some r ∧
        (q.analyze none).findings = fresh.findingsAt p (p.sites.filter fun site => p.symbolOf? site ≠ some x)) ∧
    ∀ attributes, p.attributesOf r ⊆ attributes →
      ∃ q, p.setAttributes? r attributes = some q ∧ q.registry? = some r ∧
        (q.analyze none).findings.Sublist (p.analyze none).findings ∧
        ((∀ site ∈ p.sites, ∀ f, (fresh.check p site).2.1 = some f → ∃ x arguments, p.symbolOf? site = some x ∧
            ⟨some registrationAttribute, .type x :: arguments⟩ ∈ attributes) →
          (q.analyze none).findings = []) := by
  intro fresh
  have hset (attributes : List Attribute) : ∃ q, p.setAttributes? r attributes = some q :=
    ⟨_, Program.setAttributes?_eq_some_iff.mpr ⟨Program.owns_of_registry? hr, rfl⟩⟩
  refine ⟨p.findings_analyze_eq_findingsAt, ?_, ?_⟩
  · intro x hx earlier later arguments hsplit
    obtain ⟨q, hq⟩ := hset (earlier ++ ⟨some registrationAttribute, .type x :: arguments⟩ :: later)
    exact ⟨q, hq, (sound_after commands).analyze_of_registration (List.mem_of_getElem? hp) hr hx hsplit hq⟩
  · intro attributes hmore
    obtain ⟨q, hq⟩ := hset attributes
    refine ⟨q, hq, Program.registry?_setAttributes? hr hq hmore, ?_, Program.findings_setAttributes?_eq_nil hr hq hmore⟩
    rw [Program.findings_setAttributes? hr hq hmore, p.findings_analyze_eq_findingsAt]
    exact List.filter_sublist.filterMap _

/-- A history with two types of one name, the first of which is declared at two sites.  A registration of it in front of
the other attributes leaves the finding about the second, and registrations of both leave none. -/
theorem findings_after_registration_partial :
    let model : SiteDraft := ⟨.recordType, "Model", ["SerializationModel"], none, false⟩
    let commands : List Command := [
      .newProgram "App",
      .addExternal 0 registryBase .classType none,
      .declare 0 "App.Model" .recordType none none [],
      .declare 0 "App.Model" .recordType none none [],
      .declare 0 "App.SourceGenerationContext" .classType none (some 0) [⟨some registrationAttribute, []⟩],
      .addNewSite 0 model (some 1),
      .addNewSite 0 model (some 2),
      .addNewSite 0 model (some 1)]
    let first : Symbol := ⟨1, "App.Model", .recordType, none⟩
    let second : Symbol := ⟨2, "App.Model", .recordType, none⟩
    let registry : Symbol := ⟨3, "App.SourceGenerationContext", .classType, none⟩
    let registration (arguments : List Argument) : Attribute := ⟨some registrationAttribute, arguments⟩
    ∃ p q all, (after commands).programs[0]? = some p ∧ p.registry? = some registry ∧
      (p.analyze none).findings.length = 3 ∧
      p.setAttributes? registry [registration [.type first], registration []] = some q ∧ q.registry? = some registry ∧
      (q.analyze none).findings.length = 1 ∧
      p.setAttributes? registry [registration [.type first], registration [], registration [.type second]] = some all ∧
      (all.analyze none).findings = [] := by
  intro model commands first second registry registration
  obtain ⟨p, hp, hregistry, hattributes, hsites, hthree, hone⟩ : ∃ p, (after commands).programs[0]? = some p ∧
      p.registry? = some registry ∧ p.attributesOf registry = [registration []] ∧
      (∀ site ∈ p.sites, p.symbolOf? site = some first ∨ p.symbolOf? site = some second) ∧
      (p.analyze none).findings.length = 3 ∧
      ((Analysis.new .byConvention).findingsAt p
        (p.sites.filter fun site => p.symbolOf? site ≠ some first)).length = 1 :=
    ⟨_, rfl, by decide +kernel, by decide +kernel, by decide +kernel, by decide +kernel, by decide +kernel⟩
  have hfirst : first ∈ (after commands).symbols := by decide +kernel
  obtain ⟨-, hinsert, hmore⟩ := findings_after_registration commands hp hregistry
  obtain ⟨q, hq, hqregistry, hqfindings⟩ := hinsert first hfirst [] [registration []] [] hattributes
  obtain ⟨all, hall, -, -, hnone⟩ := hmore [registration [.type first], registration [], registration [.type second]]
    (by rw [hattributes]; simp)
  refine ⟨p, q, all, hp, hregistry, hthree, hq, hqregistry, by rw [hqfindings, hone], hall, hnone ?_⟩
  intro site hsite f _
  rcases hsites site hsite with hs | hs
  · exact ⟨first, [], hs, by simp [registration]⟩
  · exact ⟨second, [], hs, by simp [registration]⟩

end Session

end Rollcall
