import Mathlib.Data.Nat.Find
import Rollcall.Analysis

/-!
# Runs and their tokens

A run asks its token before every site, checks the site when the answer is no, and keeps and reports the finding.  The
check goes through the memo of the analysis, which the look-up at the start of the run has filled, so it changes nothing
but the findings and the reporter (`visit_of_found`).

* The visits end at the first site for which the token is set (`visitAll_eq`).
* So a run finds what the checks of the sites before that one give, the reporter is told exactly this, and the token is
  asked once for every site that the run comes to (`run_cancellable`).
-/

namespace Rollcall

namespace Cancellation

/-- The answer to the question that follows after `n` more. -/
def answer (c : Cancellation) (n : Nat) : Bool :=
  c.answers (c.asked + n)

/-- The token after `n` more questions. -/
def askTimes (c : Cancellation) (n : Nat) : Cancellation :=
  { c with asked := c.asked + n }

private theorem askTimes_zero (c : Cancellation) : c.askTimes 0 = c := rfl

private theorem isSet_eq_answer (c : Cancellation) : c.isSet = c.answer 0 := rfl

private theorem answer_ask (c : Cancellation) (n : Nat) : c.ask.answer n = c.answer (n + 1) := by
  show c.answers (c.asked + 1 + n) = c.answers (c.asked + (n + 1))
  rw [Nat.add_assoc, Nat.add_comm 1 n]

private theorem askTimes_ask (c : Cancellation) (n : Nat) : c.ask.askTimes n = c.askTimes (n + 1) := by
  show { c with asked := c.asked + 1 + n } = { c with asked := c.asked + (n + 1) }
  rw [Nat.add_assoc, Nat.add_comm 1 n]

end Cancellation

namespace Analysis

variable {σ : Type} {a : Analysis} {found : Lookup}

/-! ### The memo -/

theorem ensure_of_found (h : a.found = some found) (p : Program) : a.ensure p = (a, found, []) := by
  unfold ensure
  rw [h]

/-- The look-up fills the memo with what it found. -/
theorem found_ensure (a : Analysis) (p : Program) : (a.ensure p).1.found = some (a.ensure p).2.1 := by
  unfold ensure
  cases h : a.found with
  | none => rfl
  | some found => exact h

private theorem findingAt_of_isGenerated {p : Program} {site : Site} (h : site.isGenerated = true) (found : Lookup) :
    findingAt p found site = none := by
  simp [findingAt, h]

/-- A check gives what the look-up leads to, whether it was made before or not. -/
theorem finding_check (a : Analysis) (p : Program) (site : Site) :
    (a.check p site).2.1 = findingAt p (a.ensure p).2.1 site := by
  unfold check
  by_cases hg : site.isGenerated = true
  · rw [if_pos hg, findingAt_of_isGenerated hg]
  · rw [if_neg hg]

private theorem check_of_found (h : a.found = some found) (p : Program) (site : Site) :
    a.check p site = (a, findingAt p found site, []) := by
  unfold check
  by_cases hg : site.isGenerated = true
  · rw [if_pos hg, findingAt_of_isGenerated hg]
  · rw [if_neg hg, ensure_of_found h]

/-! ### Visits -/

namespace Progress

/-- What a run has done once it has kept and reported some more findings. -/
def keep (w : Progress σ) (findings : List Finding) : Progress σ :=
  { w with
    findings := w.findings ++ findings
    reporter := w.reporter.map fun r => findings.foldl Reporter.report r }

private theorem keep_nil (w : Progress σ) : w.keep [] = w := by
  simp [keep]

private theorem keep_keep (w : Progress σ) (first second : List Finding) :
    (w.keep first).keep second = w.keep (first ++ second) := by
  simp [keep, Function.comp_def]

/-- Once the look-up was made, a visit keeps and reports the finding at the site and does nothing else. -/
theorem visit_of_found {w : Progress σ} (h : w.analysis.found = some found) (p : Program) (site : Site) :
    w.visit p site = w.keep (findingAt p found site).toList := by
  unfold visit
  rw [check_of_found h]
  cases findingAt p found site with
  | none => simp [keep]
  | some f => simp [keep]

/-- The visits end before the first site for which the token is set, and the token was asked for that site, too. -/
theorem visitAll_eq {p : Program} {w : Progress σ} {token : Option Cancellation} {sites : List Site} {k : Nat}
    (hw : w.analysis.found = some found) (hpass : ∀ i < k, token.any (·.answer i) = false)
    (hstop : k < sites.length → token.any (·.answer k) = true) :
    visitAll p sites w token =
      ({ w.keep ((sites.take k).filterMap (findingAt p found)) with
          events := w.events ++ if k < sites.length then [.cancelled p.assembly] else [] },
        token.map (·.askTimes (min (k + 1) sites.length))) := by
  induction sites generalizing w token k with
  | nil => simp [visitAll, keep_nil, Cancellation.askTimes_zero]
  | cons site sites ih =>
    unfold visitAll
    cases k with
    | zero =>
      have hset : token.any (·.isSet) = true := by
        simpa only [Cancellation.isSet_eq_answer] using hstop (by simp)
      have hmin : min 1 (sites.length + 1) = 1 := by omega
      rw [if_pos hset]
      simp only [List.take_zero, List.filterMap_nil, keep_nil, List.length_cons, Nat.zero_add, hmin, Nat.succ_pos,
        if_true]
      rfl
    | succ k =>
      have hset : token.any (·.isSet) = false := by
        simpa only [Cancellation.isSet_eq_answer] using hpass 0 (by omega)
      -- the questions that are still to be asked are one fewer
      have hshift (i : Nat) : (token.map (·.ask)).any (·.answer i) = token.any (·.answer (i + 1)) := by
        cases token with
        | none => rfl
        | some c => exact c.answer_ask i
      have hvisit : (w.visit p site).analysis.found = some found := by
        rw [visit_of_found hw]
        exact hw
      have hpass' : ∀ i < k, (token.map (·.ask)).any (·.answer i) = false := by
        intro i hi
        rw [hshift]
        exact hpass (i + 1) (by omega)
      have hstop' : k < sites.length → (token.map (·.ask)).any (·.answer k) = true := by
        intro hlt
        rw [hshift]
        exact hstop (by simpa using hlt)
      have hmin : min (k + 1 + 1) (sites.length + 1) = min (k + 1) sites.length + 1 := by omega
      rw [if_neg (by simp [hset]), ih hvisit hpass' hstop', visit_of_found hw, keep_keep]
      simp only [List.length_cons, List.take_succ_cons, List.filterMap_cons, hmin, Option.map_map]
      refine Prod.ext ?_ ?_
      · cases findingAt p found site <;> simp [keep]
      · cases token with
        | none => rfl
        | some c => exact congrArg some (c.askTimes_ask _)

end Progress

/-! ### Runs -/

/-- A run without a registry does nothing, and asks nothing. -/
private theorem run_of_registry_none (p : Program) (reporter : Option (Reporter σ)) (token : Option Cancellation)
    (h : (a.ensure p).2.1.registry = none) :
    a.run p reporter token =
      ((a.ensure p).1, ⟨[], (a.ensure p).2.2 ++ [.noRegistry p.assembly], reporter, token⟩) := by
  unfold run
  simp only [h]

/-- A run with a registry keeps and reports what it finds up to the site for which the token is set. -/
private theorem run_of_registry {p : Program} (reporter : Option (Reporter σ)) {token : Option Cancellation} {k : Nat}
    (h : (a.ensure p).2.1.registry ≠ none) (hpass : ∀ i < k, token.any (·.answer i) = false)
    (hstop : k < p.sites.length → token.any (·.answer k) = true) :
    ∃ events, a.run p reporter token =
      ((a.ensure p).1,
        ⟨(p.sites.take k).filterMap (findingAt p (a.ensure p).2.1), events,
          reporter.map fun r => ((p.sites.take k).filterMap (findingAt p (a.ensure p).2.1)).foldl Reporter.report r,
          token.map (·.askTimes (min (k + 1) p.sites.length))⟩) := by
  obtain ⟨registry, hregistry⟩ := Option.ne_none_iff_exists'.mp h
  have hvisits := Progress.visitAll_eq (p := p) (w := ⟨(a.ensure p).1, [], (a.ensure p).2.2, reporter⟩)
    (found_ensure a p) hpass hstop
  unfold run
  simp only [hregistry, hvisits]
  exact ⟨_, rfl⟩

/-- What the checks of sites give, in order. -/
def findingsAt (a : Analysis) (p : Program) (sites : List Site) : List Finding :=
  sites.filterMap fun site => (a.check p site).2.1

private theorem findingsAt_eq (a : Analysis) (p : Program) (sites : List Site) :
    a.findingsAt p sites = sites.filterMap (findingAt p (a.ensure p).2.1) :=
  congrArg (List.filterMap · sites) (funext (a.finding_check p))

theorem findingsAt_of_registry_none {p : Program} (h : (a.ensure p).2.1.registry = none) (sites : List Site) :
    a.findingsAt p sites = [] := by
  rw [findingsAt_eq, List.filterMap_eq_nil_iff]
  intro site _
  simp [findingAt, h]

/-- A token is set for the first time at some question, or never. -/
private theorem exists_first_set (token : Option Cancellation) (n : Nat) :
    ∃ k, (∀ i < k, token.any (·.answer i) = false) ∧ (k < n → token.any (·.answer k) = true) := by
  by_cases h : ∃ k, token.any (·.answer k) = true
  · refine ⟨Nat.find h, fun i hi => ?_, fun _ => Nat.find_spec h⟩
    exact Bool.eq_false_iff.mpr (Nat.find_min h hi)
  · refine ⟨n, fun i _ => ?_, fun hn => absurd hn (Nat.lt_irrefl n)⟩
    exact Bool.eq_false_iff.mpr fun hi => h ⟨i, hi⟩

/-- What a run gives when the token is first set for site number `k`, or not at all. -/
theorem run_eq {p : Program} (reporter : Option (Reporter σ)) (token : Option Cancellation) {k : Nat}
    (hpass : ∀ i < k, token.any (·.answer i) = false)
    (hstop : k < p.sites.length → token.any (·.answer k) = true) :
    (a.run p reporter token).2.findings = a.findingsAt p (p.sites.take k) ∧
      (a.run p reporter token).2.reporter =
        reporter.map (fun r => (a.run p reporter token).2.findings.foldl Reporter.report r) ∧
      (a.run p reporter token).2.cancellation =
        if (a.ensure p).2.1.registry = none then token
        else token.map (·.askTimes (min (k + 1) p.sites.length)) := by
  by_cases h : (a.ensure p).2.1.registry = none
  · rw [run_of_registry_none p reporter token h, findingsAt_of_registry_none h, if_pos h]
    simp
  · obtain ⟨events, hrun⟩ := run_of_registry reporter h hpass hstop
    rw [hrun, findingsAt_eq, if_neg h]
    exact ⟨rfl, rfl, rfl⟩

/-- A run leaves the analysis as the look-up at its start has made it. -/
theorem analysis_run (a : Analysis) (p : Program) (reporter : Option (Reporter σ)) (token : Option Cancellation) :
    (a.run p reporter token).1 = (a.ensure p).1 := by
  by_cases h : (a.ensure p).2.1.registry = none
  · rw [run_of_registry_none p reporter token h]
  · obtain ⟨k, hpass, hstop⟩ := exists_first_set token p.sites.length
    obtain ⟨events, hrun⟩ := run_of_registry reporter h hpass hstop
    rw [hrun]

/-- A run without a token finds what the checks of all sites give. -/
theorem findings_run_none (a : Analysis) (p : Program) (reporter : Option (Reporter σ)) :
    (a.run p reporter none).2.findings = a.findingsAt p p.sites := by
  have h := run_eq (a := a) (p := p) (k := p.sites.length) reporter none (fun _ _ => rfl)
    (fun hlt => absurd hlt (Nat.lt_irrefl _))
  rw [h.1, List.take_length]

/-- A run finds what the checks of the sites give that stand before the first site for which the token is set.  This is a
prefix of what it finds when nobody cancels it.  The reporter is told every finding once and in the same order.  The token
is asked once for each site that the run comes to, and never without a registry. -/
theorem run_cancellable (a : Analysis) (p : Program) (reporter : Option (Reporter σ)) (token : Cancellation) :
    let run := (a.run p reporter (some token)).2
    (∀ k, (∀ i < k, token.answer i = false) → token.answer k = true →
      run.findings = a.findingsAt p (p.sites.take k)) ∧
    ((∀ i, token.answer i = false) → run.findings = a.findingsAt p p.sites) ∧
    (a.run p reporter none).2.findings = a.findingsAt p p.sites ∧
    run.findings <+: (a.run p reporter none).2.findings ∧
    run.reporter = reporter.map (fun r => run.findings.foldl Reporter.report r) ∧
    match (a.ensure p).2.1.registry with
    | none => run.cancellation = some token
    | some _ =>
      (∀ k, (∀ i < k, token.answer i = false) → token.answer k = true →
        run.cancellation = some (token.askTimes (min (k + 1) p.sites.length))) ∧
      ((∀ i, token.answer i = false) → run.cancellation = some (token.askTimes p.sites.length)) := by
  intro run
  have hset {k : Nat} (hpass : ∀ i < k, token.answer i = false) (hk : token.answer k = true) :=
    run_eq (a := a) (p := p) reporter (some token) hpass fun _ => hk
  have hnever (hpass : ∀ i, token.answer i = false) :=
    run_eq (a := a) (p := p) (k := p.sites.length) reporter (some token) (fun i _ => hpass i)
      (fun hlt => absurd hlt (Nat.lt_irrefl _))
  have hnone := a.findings_run_none p reporter
  obtain ⟨k, hpass, hstop⟩ := exists_first_set (some token) p.sites.length
  obtain ⟨hfindings, hreporter, htoken⟩ := run_eq (a := a) reporter (some token) hpass hstop
  refine ⟨fun k hpass hk => (hset hpass hk).1, fun hpass => ?_, hnone, ?_, hreporter, ?_⟩
  · rw [(hnever hpass).1, List.take_length]
  · rw [hnone, hfindings]
    exact (List.take_prefix k p.sites).filterMap _
  · cases hregistry : (a.ensure p).2.1.registry with
    | none => rwa [if_pos hregistry] at htoken
    | some registry =>
      have hsome : (a.ensure p).2.1.registry ≠ none := by simp [hregistry]
      refine ⟨fun k hpass hk => ?_, fun hpass => ?_⟩
      · have h := (hset hpass hk).2.2
        rwa [if_neg hsome] at h
      · have h := (hnever hpass).2.2
        rwa [if_neg hsome, Nat.min_eq_right (Nat.le_succ _)] at h

/-- Of three sites, the second of which is bound to no type, a token that is set at the third question spares the third. -/
theorem run_cancellable_third :
    let site (n : Nat) : Site := ⟨n, .recordType, "Model", ["SerializationModel"], none, false⟩
    let model (n : Nat) : Symbol := ⟨n, "App.Model", .recordType, none⟩
    let p : Program := ⟨"App", [], [(site 0, some (model 0)), (site 1, none), (site 2, some (model 1))]⟩
    let a := Analysis.new (.fixed (some (model 2)))
    let token : Cancellation := ⟨fun i => i == 2, 0⟩
    let run := (a.run p (some (.collecting [])) (some token)).2
    (∀ i < 2, token.answer i = false) ∧ token.answer 2 = true ∧
      run.findings = a.findingsAt p (p.sites.take 2) ∧ (a.findingsAt p (p.sites.take 2)).length = 1 ∧
      (a.findingsAt p p.sites).length = 2 ∧ run.cancellation = some (token.askTimes 3) := by
  intro site model p a token run
  have hpass : ∀ i < 2, token.answer i = false := by decide
  have hset : token.answer 2 = true := by decide
  obtain ⟨hfindings, -, -, -, -, htoken, -⟩ := run_cancellable a p (some (.collecting [])) token
  exact ⟨hpass, hset, hfindings 2 hpass hset, by decide, by decide, htoken 2 hpass hset⟩

end Analysis

end Rollcall
