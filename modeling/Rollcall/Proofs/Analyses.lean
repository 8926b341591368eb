import Rollcall.Proofs.Programs
import Rollcall.Proofs.Runs

/-!
# What an analysis finds

A fresh analysis that nobody cancels looks for the registry and, if there is one, checks every site in order
(`findings_analyze`).

* The check of a site reports a marked record that is bound to a symbol and not registered
  (`checkSite_eq_some_iff`).
* A registry registers a symbol by an attribute whose first argument is a type with the serial number of the symbol
  (`isRegistered_entriesOf_iff`).
* The registry is a type declared under one of the registry names (`lookup?_of_registry?`).
-/

namespace Rollcall

/-! ### Fresh analyses -/

theorem Analysis.ensure_new (p : Program) :
    ((Analysis.new .byConvention).ensure p).2.1 = Lookup.of p p.registry? := rfl

namespace Program

/-- A fresh analysis finds what its checks of all sites give. -/
theorem findings_analyze_eq_findingsAt (p : Program) :
    (p.analyze none).findings = (Analysis.new .byConvention).findingsAt p p.sites :=
  Analysis.findings_run_none _ p _

/-- What a fresh analysis says about a site goes by the entries of the registry. -/
theorem finding_check_new {p : Program} {registry : Symbol} (h : p.registry? = some registry) (site : Site) :
    ((Analysis.new .byConvention).check p site).2.1 =
      if site.isGenerated then none else p.checkSite (p.entriesOf registry) site := by
  rw [Analysis.finding_check, Analysis.ensure_new, h]
  simp [Analysis.findingAt, Lookup.of]

/-- A fresh analysis finds nothing without a registry, and else what the checks of the sites give that are not
generated. -/
theorem findings_analyze (p : Program) :
    (p.analyze none).findings =
      match p.registry? with
      | none => []
      | some registry => p.sites.filterMap fun site =>
          if site.isGenerated then none else p.checkSite (p.entriesOf registry) site := by
  rw [findings_analyze_eq_findingsAt]
  cases hregistry : p.registry? with
  | none => exact Analysis.findingsAt_of_registry_none (by rw [Analysis.ensure_new]; exact hregistry) p.sites
  | some registry => exact congrArg (List.filterMap · p.sites) (funext (finding_check_new hregistry))

theorem checkSite_eq_some_iff {p : Program} {entries : List Attribute} {site : Site} {f : Finding} :
    p.checkSite entries site = some f ↔
      site.kind = .recordType ∧ modelMarker ∈ site.attributeNames ∧
        ∃ s, p.symbolOf? site = some s ∧ ¬ isRegistered entries s = true ∧
          f = ⟨Rule.unregisteredModel.id, s.fullName, site.location⟩ := by
  unfold checkSite Site.isMarked
  by_cases hk : site.kind = .recordType
  · by_cases hm : modelMarker ∈ site.attributeNames
    · cases hs : p.symbolOf? site with
      | none => simp [hk, hm]
      | some s =>
        by_cases hr : isRegistered entries s = true
        · simp [hk, hm, hr]
        · simp only [hk, hm, hr, beq_self_eq_true, List.contains_eq_mem, decide_true, Bool.and_self, ↓reduceIte,
            Option.some.injEq, Bool.false_eq_true, true_and, exists_eq_left', not_false_eq_true]
          exact eq_comm
    · simp [hk, hm]
  · simp [hk]

theorem registers_iff {a : Attribute} {s : Symbol} :
    a.registers s = true ↔ ∃ t, a.arguments.head? = some (.type t) ∧ t.serial = s.serial := by
  unfold Attribute.registers
  split
  · next t rest h => simp [h, Symbol.same_iff]
  · next h =>
    constructor
    · intro hf
      exact absurd hf (by simp)
    · rintro ⟨t, ht, -⟩
      cases harg : a.arguments with
      | nil => simp [harg] at ht
      | cons x rest =>
        simp only [harg, List.head?_cons, Option.some.injEq] at ht
        exact absurd harg (ht ▸ h t rest)

theorem isRegistered_entriesOf_iff {p : Program} {registry s : Symbol} :
    isRegistered (p.entriesOf registry) s = true ↔
      ∃ a ∈ p.attributesOf registry, a.type = some registrationAttribute ∧
        ∃ t, a.arguments.head? = some (.type t) ∧ t.serial = s.serial := by
  unfold isRegistered entriesOf
  simp only [List.any_eq_true, List.mem_filter, beq_iff_eq, registers_iff, and_assoc]

/-! ### The registry -/

private theorem registryCandidate?_of_locateAmong {p : Program} {base registry : Symbol} {names : List String}
    (h : (p.locateAmong base names).1 = some registry) :
    ∃ name ∈ names, p.registryCandidate? name = some registry := by
  induction names with
  | nil => exact absurd h (by simp [locateAmong])
  | cons name names ih =>
    unfold locateAmong at h
    split at h
    · obtain ⟨n, hn, hc⟩ := ih h
      exact ⟨n, List.mem_cons_of_mem _ hn, hc⟩
    · next candidate hc =>
      split at h
      · cases h
        exact ⟨name, List.mem_cons_self .., hc⟩
      · obtain ⟨n, hn, hc'⟩ := ih h
        exact ⟨n, List.mem_cons_of_mem _ hn, hc'⟩

/-- The registry is the declared type that its full name stands for. -/
theorem lookup?_of_registry? {p : Program} {registry : Symbol} (h : p.registry? = some registry) :
    ∃ fullName, p.lookup? fullName = some registry := by
  unfold registry? locate at h
  split at h
  · exact absurd h (by simp)
  · obtain ⟨name, -, hc⟩ := registryCandidate?_of_locateAmong h
    obtain ⟨fullName, -, hl⟩ := List.exists_of_findSome?_eq_some hc
    exact ⟨fullName, hl⟩

end Program

end Rollcall
