import Rollcall.Proofs.Operands
import Rollcall.Proofs.Orders

/-!
# Names that meet an ambiguous type

A full name whose declarations are in conflict gets no type, so a look-up does not see it.  Where such a full name is the
first of a name's candidates that the sources declare, the look-up goes on to the next candidates: the name stands for
nothing only if none of them is known (`SkipsConflict`).  In every other case it stands for the first candidate that is
declared or external (`resolveIn?_bind_first`).
-/

namespace Rollcall.Program

/-- Whether declarations that are bound to `p` give a full name a type, or `p` has one. -/
def Provides (p : Program) (declarations : List Declaration) (fullName : String) : Prop :=
  (∃ d ∈ declarations, d.fullName = fullName ∧ Declaration.Unambiguous declarations fullName) ∨
    (p.resolve? fullName).isSome = true

/-- Whether the declarations of a full name are in conflict and `p` has no type for it either. -/
structure InConflict (p : Program) (declarations : List Declaration) (fullName : String) : Prop where
  isDeclared : ∃ d ∈ declarations, d.fullName = fullName
  isAmbiguous : ¬ Declaration.Unambiguous declarations fullName
  isUnknown : p.resolve? fullName = none

/-- Whether a candidate in conflict is passed over for one behind it. -/
def SkipsConflict (p : Program) (declarations : List Declaration) (candidate : String) (later : List String) : Prop :=
  p.InConflict declarations candidate ∧ ∃ other ∈ later, p.Provides declarations other

variable {p : Program} {declarations : List Declaration} {fullName candidate written : String}
  {earlier later : List String} {s : Scope}

private theorem isSome_resolve?_bind_iff :
    ((p.bind declarations).1.resolve? fullName).isSome = true ↔ p.Provides declarations fullName := by
  rw [resolve?_bind, Option.isSome_or, Bool.or_eq_true, isSome_symbolNamed?_iff_exists]
  rfl

private theorem resolve?_bind_eq_none_iff :
    (p.bind declarations).1.resolve? fullName = none ↔ ¬ p.Provides declarations fullName := by
  rw [← isSome_resolve?_bind_iff, Option.not_isSome_iff_eq_none]

/-- A full name that is declared or external has a type unless its declarations are in conflict. -/
private theorem inConflict_iff (h : (∃ d ∈ declarations, d.fullName = fullName) ∨ (p.resolve? fullName).isSome = true) :
    p.InConflict declarations fullName ↔ ¬ p.Provides declarations fullName := by
  constructor
  · rintro ⟨-, hambiguous, hunknown⟩ (⟨-, -, -, hu⟩ | hsome)
    · exact hambiguous hu
    · simp [hunknown] at hsome
  · intro hnot
    have hunknown : ¬ (p.resolve? fullName).isSome = true := fun hsome => hnot (.inr hsome)
    obtain ⟨d, hd, hname⟩ := h.resolve_right hunknown
    exact ⟨⟨d, hd, hname⟩, fun hu => hnot (.inl ⟨d, hd, hname, hu⟩), Option.not_isSome_iff_eq_none.mp hunknown⟩

/-- A look-up without an alias starts from the first candidate that is declared or external. -/
private theorem resolveIn?_bind_eq (hname : TypeName.key written ≠ "")
    (halias : s.aliases.target? (TypeName.head (TypeName.key written)) = none)
    (hsplit : s.candidates (TypeName.key written) = earlier ++ candidate :: later)
    (hearlier : ∀ c ∈ earlier, ¬ p.Provides declarations c) :
    (p.bind declarations).1.resolveIn? s written =
      ((p.bind declarations).1.resolve? candidate).or (later.findSome? (p.bind declarations).1.resolve?) := by
  have hnone : earlier.findSome? (p.bind declarations).1.resolve? = none := by
    rw [List.findSome?_eq_none_iff]
    exact fun c hc => resolve?_bind_eq_none_iff.mpr (hearlier c hc)
  simp only [resolveIn?, if_neg hname, Scope.aliased?_of_target? halias, hsplit, List.findSome?_append, hnone,
    Option.none_or, List.findSome?_cons]
  cases (p.bind declarations).1.resolve? candidate <;> rfl

/-- Behind a candidate in conflict a look-up finds a type of another full name, if it finds one. -/
private theorem findSome?_later_iff (hconflict : p.InConflict declarations candidate) :
    (∀ t, later.findSome? (p.bind declarations).1.resolve? = some t → t.fullName = candidate) ↔
      ∀ other ∈ later, ¬ p.Provides declarations other := by
  have hcandidate : ¬ p.Provides declarations candidate := (inConflict_iff (.inl hconflict.isDeclared)).mp hconflict
  constructor
  · intro h other hother hprovides
    cases hfound : later.findSome? (p.bind declarations).1.resolve? with
    | none =>
      have hnone := List.findSome?_eq_none_iff.mp hfound other hother
      exact resolve?_bind_eq_none_iff.mp hnone hprovides
    | some t =>
      obtain ⟨c, -, hc⟩ := List.exists_of_findSome?_eq_some hfound
      have hknown : ((p.bind declarations).1.resolve? candidate).isSome = true := by
        rw [← h t hfound, fullName_of_resolve? hc, hc]
        rfl
      exact hcandidate (isSome_resolve?_bind_iff.mp hknown)
  · intro h t ht
    obtain ⟨c, hc, hct⟩ := List.exists_of_findSome?_eq_some ht
    have hknown : ((p.bind declarations).1.resolve? c).isSome = true := by
      rw [hct]
      rfl
    exact absurd (isSome_resolve?_bind_iff.mp hknown) (h c hc)

/-- A look-up goes past its first candidate exactly where it skips a conflict. -/
private theorem resolveIn?_bind_fullName_iff (hname : TypeName.key written ≠ "")
    (halias : s.aliases.target? (TypeName.head (TypeName.key written)) = none)
    (hsplit : s.candidates (TypeName.key written) = earlier ++ candidate :: later)
    (hearlier : ∀ c ∈ earlier, ¬ p.Provides declarations c)
    (hcandidate : (∃ d ∈ declarations, d.fullName = candidate) ∨ (p.resolve? candidate).isSome = true) :
    (∀ t, (p.bind declarations).1.resolveIn? s written = some t → t.fullName = candidate) ↔
      ¬ p.SkipsConflict declarations candidate later := by
  rw [resolveIn?_bind_eq hname halias hsplit hearlier]
  by_cases hconflict : p.InConflict declarations candidate
  · have hunknown : (p.bind declarations).1.resolve? candidate = none :=
      resolve?_bind_eq_none_iff.mpr ((inConflict_iff hcandidate).mp hconflict)
    rw [hunknown, Option.none_or, findSome?_later_iff hconflict]
    simp [SkipsConflict, hconflict]
  · have hprovides := hconflict
    rw [inConflict_iff hcandidate, not_not, ← isSome_resolve?_bind_iff] at hprovides
    obtain ⟨t, ht⟩ := Option.isSome_iff_exists.mp hprovides
    simp [SkipsConflict, hconflict, ht, fullName_of_resolve? ht]

/-- After any declarations are bound, in any scope without an alias for a name's first segment, let `candidate` be the
first candidate of the name that is declared or external.  The name stands for it unless its declarations are in
conflict.  Neither the name nor the operand of that name stands for another type unless a conflict is skipped. -/
theorem resolveIn?_bind_first (p : Program) (declarations : List Declaration)
    (halias : s.aliases.target? (TypeName.head (TypeName.key written)) = none)
    (hsplit : s.candidates (TypeName.key written) = earlier ++ candidate :: later)
    (hearlier : ∀ c ∈ earlier, (∀ d ∈ declarations, d.fullName ≠ c) ∧ p.resolve? c = none)
    (hcandidate : (∃ d ∈ declarations, d.fullName = candidate) ∨ (p.resolve? candidate).isSome = true) :
    let q := (p.bind declarations).1
    (TypeName.key written ≠ "" → ¬ p.InConflict declarations candidate →
        ∃ t, q.resolveIn? s written = some t ∧ t.fullName = candidate) ∧
      ((∀ t, q.resolveIn? s written = some t → t.fullName = candidate) ↔
        TypeName.key written = "" ∨ ¬ p.SkipsConflict declarations candidate later) ∧
      ((∀ t, q.bindArgument s (.typeof written) = .type t → t.fullName = candidate) ↔
        TypeName.IsConstructed written ∨ TypeName.key written = "" ∨
          ¬ p.SkipsConflict declarations candidate later) := by
  intro q
  have hnone : ∀ c ∈ earlier, ¬ p.Provides declarations c := by
    rintro c hc (⟨d, hd, hdc, -⟩ | hsome)
    · exact (hearlier c hc).1 d hd hdc
    · simp [(hearlier c hc).2] at hsome
  have hskips : (∀ t, q.resolveIn? s written = some t → t.fullName = candidate) ↔
      TypeName.key written = "" ∨ ¬ p.SkipsConflict declarations candidate later := by
    by_cases hname : TypeName.key written = ""
    · exact iff_of_true (fun t ht => absurd hname (ne_empty_of_resolveIn? ht)) (.inl hname)
    · rw [resolveIn?_bind_fullName_iff hname halias hsplit hnone hcandidate]
      exact (or_iff_right hname).symm
  refine ⟨fun hname hconflict => ?_, hskips, ?_⟩
  · rw [inConflict_iff hcandidate, not_not, ← isSome_resolve?_bind_iff] at hconflict
    obtain ⟨t, ht⟩ := Option.isSome_iff_exists.mp hconflict
    refine ⟨t, ?_, fullName_of_resolve? ht⟩
    rw [resolveIn?_bind_eq hname halias hsplit hnone, ht]
    rfl
  · by_cases hc : TypeName.IsConstructed written
    · exact iff_of_true (fun t ht => absurd hc (not_isConstructed_of_bindArgument ht)) (.inl hc)
    · simp only [bindArgument_typeof_iff_of_plain hc, hskips, hc, false_or]

open ParsedFile

/-- A file with two classes of one name in a namespace, a class in a namespace inside that one, and more behind. -/
def conflictingModels (others : List Node) : ParsedFile :=
  ofChildren "A.cs" <|
    spaceNode "App" [classNode "Model" "Base", classNode "Model" "Base",
      spaceNode "Inner" [classNode "Registry" "Base"]] :: others

/-- A name that meets a conflict and nothing behind it. -/
theorem resolveIn?_bind_first_conflict :
    let p := empty "App"
    let declarations := declarationsOf [conflictingModels []]
    let s : Scope := ⟨"App.Inner", [], ["Lib"], .empty⟩
    s.aliases.target? (TypeName.head (TypeName.key "Model")) = none ∧
      s.candidates (TypeName.key "Model") = ["App.Inner.Model"] ++ "App.Model" :: ["Model", "Lib.Model"] ∧
      (∀ c ∈ ["App.Inner.Model"], (∀ d ∈ declarations, d.fullName ≠ c) ∧ p.resolve? c = none) ∧
      (∃ d ∈ declarations, d.fullName = "App.Model") ∧
      (p.bind declarations).1.resolveIn? s "Model" = none ∧
      ¬ p.SkipsConflict declarations "App.Model" ["Model", "Lib.Model"] := by
  have hsplit : (⟨"App.Inner", [], ["Lib"], .empty⟩ : Scope).candidates (TypeName.key "Model") =
      ["App.Inner.Model"] ++ "App.Model" :: ["Model", "Lib.Model"] := by
    decide +kernel
  have hearlier : ∀ c ∈ ["App.Inner.Model"],
      (∀ d ∈ declarationsOf [conflictingModels []], d.fullName ≠ c) ∧ (empty "App").resolve? c = none := by
    decide +kernel
  have hdeclared : ∃ d ∈ declarationsOf [conflictingModels []], d.fullName = "App.Model" := by decide +kernel
  have hnone : ((empty "App").bind (declarationsOf [conflictingModels []])).1.resolveIn?
      ⟨"App.Inner", [], ["Lib"], .empty⟩ "Model" = none := by
    decide +kernel
  have hfirst := (resolveIn?_bind_first _ _ rfl hsplit hearlier (.inl hdeclared)).2.1
  rw [hnone] at hfirst
  exact ⟨rfl, hsplit, hearlier, hdeclared, hnone, (hfirst.mp (by simp)).resolve_left (by decide)⟩

/-- A name that meets a conflict stands for another type of the global namespace. -/
theorem resolveIn?_past_conflict :
    let files := [conflictingModels [classNode "Model" "Base"]]
    let s : Scope := ⟨"App.Inner", [], [], .empty⟩
    ((declarationsOf files).map fun d => (d.fullName, d.scope.space)) =
        [("App.Model", "App"), ("App.Model", "App"), ("App.Inner.Registry", "App.Inner"), ("Model", "")] ∧
      s.candidates "Model" = ["App.Inner.Model", "App.Model", "Model"] ∧
      (ofFiles "App" files).1.resolve? "App.Model" = none ∧
      ((ofFiles "App" files).1.resolveIn? s "Model").map (·.fullName) = some "Model" ∧
      ((ofFiles "App" files).1.bindArgument s (.typeof "Model")).symbol?.map (·.fullName) = some "Model" := by
  decide +kernel

end Rollcall.Program
