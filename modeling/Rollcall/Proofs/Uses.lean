import Rollcall.Proofs.Runs

/-!
# Uses of one analysis

An analysis is asked for its registry and its entries, checks sites and makes runs, while its program may change between
any two uses.  The first use that needs the registry looks it up, and all uses after it go by what was found then.

* A use that needs no registry leaves the analysis as it is (`analysis_use_of_not_looksUp`), any other leaves it as the
  look-up does (`analysis_use_of_looksUp`).
* After the look-up nothing changes the analysis any more (`analysis_after_of_found`), so the answer to every read is what
  the first use that needed the registry found (`found_after_first`).
-/

namespace Rollcall

private theorem entries_lookup (p : Program) (registry : Option Symbol) :
    (Lookup.of p registry).entries = match registry with
      | none => []
      | some registry => (p.attributesOf registry).filter fun a => a.type == some registrationAttribute := by
  cases registry with
  | none => rfl
  | some registry => rfl

/-- Something that is done with an analysis, or to its program meanwhile. -/
inductive Use : Type 1 where
  | registry
  | entries
  | check (site : Site)
  | run {σ : Type} (reporter : Option (Reporter σ)) (token : Option Cancellation)
  /-- Whatever happens to the program. -/
  | change (p : Program)

/-- Whether a use needs the registry. -/
def Use.looksUp : Use → Bool
  | .registry => true
  | .entries => true
  | .check site => !site.isGenerated
  | .run _ _ => true
  | .change _ => false

/-- What a use tells. -/
inductive Answer where
  | registry (value : Option Symbol)
  | entries (values : List Attribute)
  | finding (value : Option Finding)
  | findings (values : List Finding)
  | nothing
  deriving DecidableEq

/-- An analysis and the program it is about. -/
structure Stage where
  analysis : Analysis
  program : Program

namespace Stage

/-- A use, with the stage after it. -/
def use (s : Stage) : Use → Stage × Answer
  | .registry =>
    let (a, found, _) := s.analysis.ensure s.program
    (⟨a, s.program⟩, .registry found.registry)
  | .entries =>
    let (a, found, _) := s.analysis.ensure s.program
    (⟨a, s.program⟩, .entries found.entries)
  | .check site =>
    let (a, finding, _) := s.analysis.check s.program site
    (⟨a, s.program⟩, .finding finding)
  | .run reporter token =>
    let (a, run) := s.analysis.run s.program reporter token
    (⟨a, s.program⟩, .findings run.findings)
  | .change p => (⟨s.analysis, p⟩, .nothing)

/-- The stage after some uses, one after the other. -/
def after (s : Stage) (uses : List Use) : Stage :=
  uses.foldl (fun s u => (s.use u).1) s

/-- What the uses tell, one after the other. -/
def answers (s : Stage) : List Use → List Answer
  | [] => []
  | u :: uses => (s.use u).2 :: (s.use u).1.answers uses

/-- A new analysis of a program. -/
def new (l : Locator) (p : Program) : Stage :=
  ⟨Analysis.new l, p⟩

private theorem after_append (s : Stage) (uses more : List Use) : s.after (uses ++ more) = (s.after uses).after more :=
  List.foldl_append

private theorem getElem?_answers (s : Stage) (uses : List Use) (i : Nat) :
    (s.answers uses)[i]? = uses[i]?.map fun u => ((s.after (uses.take i)).use u).2 := by
  induction uses generalizing s i with
  | nil => rfl
  | cons u uses ih =>
    cases i with
    | zero => rfl
    | succ i => exact ih (s.use u).1 i

/-! ### The analysis after one use -/

theorem analysis_use_of_not_looksUp (s : Stage) {u : Use} (hu : u.looksUp = false) :
    (s.use u).1.analysis = s.analysis := by
  cases u with
  | check site =>
    have hgenerated : site.isGenerated = true := by simpa [Use.looksUp] using hu
    show (s.analysis.check s.program site).1 = _
    unfold Analysis.check
    rw [if_pos hgenerated]
  | change p => rfl
  | registry => exact absurd hu (by simp [Use.looksUp])
  | entries => exact absurd hu (by simp [Use.looksUp])
  | run reporter token => exact absurd hu (by simp [Use.looksUp])

theorem analysis_use_of_looksUp (s : Stage) {u : Use} (hu : u.looksUp = true) :
    (s.use u).1.analysis = (s.analysis.ensure s.program).1 := by
  cases u with
  | registry => rfl
  | entries => rfl
  | check site =>
    have hwritten : ¬ site.isGenerated = true := by simpa [Use.looksUp] using hu
    show (s.analysis.check s.program site).1 = _
    unfold Analysis.check
    rw [if_neg hwritten]
  | run reporter token => exact s.analysis.analysis_run s.program reporter token
  | change p => exact absurd hu (by simp [Use.looksUp])

private theorem analysis_use_of_found {s : Stage} {found : Lookup} (h : s.analysis.found = some found) (u : Use) :
    (s.use u).1.analysis = s.analysis := by
  cases hu : u.looksUp with
  | false => exact s.analysis_use_of_not_looksUp hu
  | true => rw [s.analysis_use_of_looksUp hu, Analysis.ensure_of_found h]

/-! ### The analysis after all uses -/

private theorem analysis_after_of_not_looksUp (s : Stage) {uses : List Use} (h : ∀ u ∈ uses, u.looksUp = false) :
    (s.after uses).analysis = s.analysis := by
  induction uses generalizing s with
  | nil => rfl
  | cons u uses ih =>
    calc ((s.use u).1.after uses).analysis = (s.use u).1.analysis := ih _ fun w hw => h w (List.mem_cons_of_mem u hw)
      _ = s.analysis := s.analysis_use_of_not_looksUp (h u List.mem_cons_self)

theorem analysis_after_of_found {s : Stage} {found : Lookup} (h : s.analysis.found = some found) (uses : List Use) :
    (s.after uses).analysis = s.analysis := by
  induction uses generalizing s with
  | nil => rfl
  | cons u uses ih =>
    have hfirst : (s.use u).1.analysis = s.analysis := analysis_use_of_found h u
    calc ((s.use u).1.after uses).analysis = (s.use u).1.analysis := ih (by rw [hfirst, h])
      _ = s.analysis := hfirst

section First

variable (l : Locator) (p : Program) {earlier : List Use} {u : Use}

private theorem analysis_after_first (hearlier : ∀ w ∈ earlier, w.looksUp = false) (hu : u.looksUp = true)
    (later : List Use) :
    let q := ((new l p).after earlier).program
    ((new l p).after (earlier ++ u :: later)).analysis = ⟨l, some (Lookup.of q (l.locate 0 q).1), 1⟩ := by
  intro q
  have hnew : ((new l p).after earlier).analysis = Analysis.new l := (new l p).analysis_after_of_not_looksUp hearlier
  have hfirst : (((new l p).after earlier).use u).1.analysis = ⟨l, some (Lookup.of q (l.locate 0 q).1), 1⟩ := by
    rw [analysis_use_of_looksUp _ hu, hnew]
    rfl
  rw [after_append]
  show ((((new l p).after earlier).use u).1.after later).analysis = _
  rw [analysis_after_of_found (by rw [hfirst]), hfirst]

/-- What is found at any time from the first use on that needs the registry. -/
theorem found_after_first (hearlier : ∀ w ∈ earlier, w.looksUp = false) (hu : u.looksUp = true) (later : List Use)
    {i : Nat} (hi : earlier.length ≤ i) :
    let q := ((new l p).after earlier).program
    let s := (new l p).after ((earlier ++ u :: later).take i)
    (s.analysis.ensure s.program).2.1 = Lookup.of q (l.locate 0 q).1 := by
  intro q s
  obtain ⟨n, rfl⟩ := Nat.exists_eq_add_of_le hi
  have hs : s = (new l p).after (earlier ++ (u :: later).take n) := by
    simp only [s, List.take_length_add_append]
  cases n with
  | zero =>
    have hnew : s.analysis = Analysis.new l := by
      rw [hs, List.take_zero, List.append_nil]
      exact (new l p).analysis_after_of_not_looksUp hearlier
    have hq : s.program = q := by rw [hs, List.take_zero, List.append_nil]
    rw [hnew, hq]
    rfl
  | succ n =>
    have hfound : s.analysis = ⟨l, some (Lookup.of q (l.locate 0 q).1), 1⟩ := by
      rw [hs, List.take_succ_cons]
      exact analysis_after_first l p hearlier hu (later.take n)
    rw [hfound, Analysis.ensure_of_found rfl]

/-- No read of the registry comes before the first use that needs it. -/
private theorem length_le_of_looksUp (hearlier : ∀ w ∈ earlier, w.looksUp = false) {uses : List Use} {w : Use}
    (hw : w.looksUp = true) {i : Nat} (hi : (earlier ++ uses)[i]? = some w) : earlier.length ≤ i := by
  by_contra hlt
  rw [List.getElem?_append_left (by omega)] at hi
  rw [hearlier w (List.mem_of_getElem? hi)] at hw
  exact absurd hw (by decide)

end First

/-- However an analysis is used and its program changed meanwhile, the locator is called at most once.  The call is made by the
first use that needs the registry, which a check of a generated site does not.  All reads of the registry give what this
call gave, and all reads of the entries the registrations which that registry had then. -/
theorem answers_frozen (l : Locator) (p : Program) (uses : List Use) :
    ((new l p).after uses).analysis.calls ≤ 1 ∧
    ((∀ u ∈ uses, u.looksUp = false) → ((new l p).after uses).analysis.calls = 0) ∧
    (∀ earlier site later, uses = earlier ++ .check site :: later → site.isGenerated = true →
      ((new l p).after (earlier ++ [.check site])).analysis = ((new l p).after earlier).analysis) ∧
    ∀ earlier u later, uses = earlier ++ u :: later → (∀ w ∈ earlier, w.looksUp = false) → u.looksUp = true →
      let q := ((new l p).after earlier).program
      ((new l p).after earlier).analysis.calls = 0 ∧
      ((new l p).after (earlier ++ [u])).analysis.calls = 1 ∧
      (∀ i : Nat, uses[i]? = some Use.registry →
        ((new l p).answers uses)[i]? = some (Answer.registry (l.locate 0 q).1)) ∧
      ∀ i : Nat, uses[i]? = some Use.entries →
        ((new l p).answers uses)[i]? = some (Answer.entries (match (l.locate 0 q).1 with
          | none => []
          | some registry => (q.attributesOf registry).filter fun a => a.type == some registrationAttribute)) := by
  have hunused {us : List Use} (h : ∀ u ∈ us, u.looksUp = false) : ((new l p).after us).analysis.calls = 0 := by
    rw [analysis_after_of_not_looksUp _ h]
    rfl
  refine ⟨?_, hunused, ?_, ?_⟩
  · cases hfind : uses.find? Use.looksUp with
    | none =>
      have hidle : ∀ u ∈ uses, u.looksUp = false := fun u hu => Bool.eq_false_iff.mpr (List.find?_eq_none.mp hfind u hu)
      rw [hunused hidle]
      exact Nat.zero_le 1
    | some u =>
      obtain ⟨hu, earlier, later, rfl, hearlier⟩ := List.find?_eq_some_iff_append.mp hfind
      rw [analysis_after_first l p (fun w hw => by simpa using hearlier w hw) hu later]
  · rintro earlier site later - hgenerated
    rw [after_append]
    exact analysis_use_of_not_looksUp _ (by simp [Use.looksUp, hgenerated])
  · rintro earlier u later rfl hearlier hu q
    refine ⟨hunused hearlier, ?_, fun i hi => ?_, fun i hi => ?_⟩
    · rw [analysis_after_first l p hearlier hu []]
    · have hfound := found_after_first l p hearlier hu later (length_le_of_looksUp hearlier rfl hi)
      rw [getElem?_answers, hi]
      exact congrArg (fun found => some (Answer.registry found.registry)) hfound
    · have hfound := found_after_first l p hearlier hu later (length_le_of_looksUp hearlier rfl hi)
      rw [getElem?_answers, hi]
      refine (congrArg (fun found => some (Answer.entries found.entries)) hfound).trans ?_
      rw [entries_lookup]

/-- The locator would give another registry at every call, and the program loses all attributes after the first use. -/
theorem answers_frozen_changed :
    let registry (n : Nat) : Symbol := ⟨n, "App.Context", .classType, none⟩
    let entry : Attribute := ⟨some registrationAttribute, []⟩
    let l : Locator := ⟨fun call _ => (some (registry call), [])⟩
    let bare : Program := ⟨"App", [⟨registry 0, none, [], true⟩], []⟩
    let full : Program := ⟨"App", [⟨registry 0, none, [entry], true⟩], []⟩
    let site : Site := ⟨0, .recordType, "Model", ["SerializationModel"], none, true⟩
    let earlier : List Use := [.check site, .change full]
    let later : List Use := [.change bare, .entries, .registry]
    (∀ w ∈ earlier, w.looksUp = false) ∧ Use.registry.looksUp = true ∧
      ((new l bare).after (earlier ++ .registry :: later)).analysis.calls = 1 ∧
      ((new l bare).answers (earlier ++ .registry :: later))[2]? = some (.registry (some (registry 0))) ∧
      ((new l bare).answers (earlier ++ .registry :: later))[4]? = some (.entries [entry]) ∧
      ((new l bare).answers (earlier ++ .registry :: later))[5]? = some (.registry (some (registry 0))) := by
  intro registry entry l bare full site earlier later
  have hearlier : ∀ w ∈ earlier, w.looksUp = false := by simp [earlier, Use.looksUp, site]
  obtain ⟨-, -, -, hall⟩ := answers_frozen l bare (earlier ++ .registry :: later)
  obtain ⟨-, -, hregistry, hentries⟩ := hall earlier .registry later rfl hearlier rfl
  exact ⟨hearlier, rfl, rfl, hregistry 2 rfl, hentries 4 rfl, hregistry 5 rfl⟩

end Stage

end Rollcall
