import Rollcall.Proofs.Binding

/-!
# The order of look-up

The rule of precedence for names: a name is looked for in the types around it from the innermost out, in the namespaces
around it outward, among what the directives bring, opened namespaces and aliases alike, and last in the global namespace.
The first of these levels that knows the name decides (`FindsIn`, `Scope.precedence`).

`Program.resolveIn?` tries an alias before everything else, and the global namespace before the opened ones.

* Its result follows the rule except in three situations (`resolveIn?_precedence_iff`, `Departs`).
* A name behind `global::` is looked up like the name alone.  So it stands for the type with that very full name except
  when something in the scope captures it (`resolveIn?_global`, `Captures`).
-/

namespace Rollcall

open Text

/-! ### Qualified names -/

private theorem TypeName.qualified_ne (qualifier name : String) : qualifier ++ "." ++ name ≠ name := by
  intro h
  have hlength := congrArg String.length h
  simp only [String.length_append] at hlength
  have : ".".length = 1 := rfl
  omega

theorem TypeName.intercalate_append {a b : List String} (ha : a ≠ []) (hb : b ≠ []) :
    ".".intercalate (a ++ b) = ".".intercalate a ++ "." ++ ".".intercalate b := by
  induction a with
  | nil => exact absurd rfl ha
  | cons x a ih =>
    cases a with
    | nil =>
      obtain ⟨y, b, rfl⟩ := List.exists_cons_of_ne_nil hb
      simp [String.intercalate_cons_cons]
    | cons y a =>
      have ih := ih (List.cons_ne_nil y a)
      rw [List.cons_append] at ih
      simp only [List.cons_append, String.intercalate_cons_cons, ih, String.append_assoc]

private theorem TypeName.intercalate_concat (parts : List String) (name : String) (hparts : parts ≠ []) :
    ".".intercalate (parts ++ [name]) = ".".intercalate parts ++ "." ++ name := by
  rw [intercalate_append hparts (List.cons_ne_nil name []), String.intercalate_singleton]

theorem TypeName.segments_ne_nil (name : String) : segments name ≠ [] := by
  rw [segments, Ne, List.map_eq_nil_iff]
  exact pieces_ne_nil _ _

/-- The key of a name does not show a `global::` in front of it. -/
private theorem TypeName.key_global {written : String}
    (h : afterStart? globalQualifier (unblank written.toList) = none) : key ("global::" ++ written) = key written := by
  have hunblank : unblank ("global::" ++ written).toList = globalQualifier ++ unblank written.toList := by
    rw [String.toList_append, unblank_append]
    rfl
  have hdrop : afterStart? globalQualifier (globalQualifier ++ unblank written.toList) = some (unblank written.toList) :=
    afterStart?_eq_some_iff.mpr rfl
  simp only [key, keyChars, dropGlobal, hunblank, hdrop, h, Option.getD_some, Option.getD_none]

namespace Scope

/-- The namespaces around, from the innermost out. -/
def enclosing (s : Scope) : List String :=
  if s.space = "" then []
  else
    let parts := TypeName.segments s.space
    (List.range parts.length).reverse.map fun k => ".".intercalate (parts.take (k + 1))

/-- What may qualify a name from around it: the types and then the namespaces, each from the innermost out. -/
def around (s : Scope) : List String :=
  s.containers.reverse ++ s.enclosing

private theorem namespaceCandidates_eq (s : Scope) (name : String) :
    s.namespaceCandidates name = s.enclosing.map (· ++ "." ++ name) := by
  unfold namespaceCandidates enclosing
  split
  · rfl
  · rw [List.map_map]
    refine List.map_congr_left fun k _ => ?_
    have hne : (TypeName.segments s.space).take (k + 1) ≠ [] := by
      simp [List.take_eq_nil_iff, TypeName.segments_ne_nil]
    exact TypeName.intercalate_concat _ name hne

theorem candidates_eq (s : Scope) (name : String) :
    s.candidates name = s.around.map (· ++ "." ++ name) ++ name :: s.usings.map (· ++ "." ++ name) := by
  rw [candidates, namespaceCandidates_eq, around, List.map_append]

end Scope

namespace Program

/-- The type known under a name with the first of some qualifiers for which there is one. -/
def firstUnder? (p : Program) (qualifiers : List String) (name : String) : Option Symbol :=
  qualifiers.findSome? fun q => p.resolve? (q ++ "." ++ name)

variable {p : Program} {s : Scope} {name : String}

private theorem firstUnder?_cons (q : String) (qualifiers : List String) :
    p.firstUnder? (q :: qualifiers) name = (p.resolve? (q ++ "." ++ name)).or (p.firstUnder? qualifiers name) := by
  rw [firstUnder?, List.findSome?_cons]
  cases p.resolve? (q ++ "." ++ name) <;> rfl

private theorem firstUnder?_eq_none_iff {qualifiers : List String} :
    p.firstUnder? qualifiers name = none ↔ ∀ q ∈ qualifiers, p.resolve? (q ++ "." ++ name) = none :=
  List.findSome?_eq_none_iff

theorem exists_of_firstUnder? {qualifiers : List String} {t : Symbol} (h : p.firstUnder? qualifiers name = some t) :
    ∃ q ∈ qualifiers, p.resolve? (q ++ "." ++ name) = some t :=
  List.exists_of_findSome?_eq_some h

/-- A type that is known under a qualified name is not the one known under the name alone. -/
private theorem ne_of_resolve?_qualified {q : String} {t u : Symbol} (ht : p.resolve? (q ++ "." ++ name) = some t)
    (hu : p.resolve? name = some u) : t ≠ u := by
  rintro rfl
  exact TypeName.qualified_ne q name ((fullName_of_resolve? ht).symm.trans (fullName_of_resolve? hu))

/-! ### The two ways of a look-up -/

theorem resolveIn?_of_aliased {written target : String} (hne : TypeName.key written ≠ "")
    (h : s.aliased? (TypeName.key written) = some target) : p.resolveIn? s written = p.resolve? target := by
  simp only [resolveIn?, if_neg hne, h]

theorem resolveIn?_of_not_aliased {written : String} (hne : TypeName.key written ≠ "")
    (h : s.aliased? (TypeName.key written) = none) :
    p.resolveIn? s written =
      (p.firstUnder? s.around (TypeName.key written)).or
        ((p.resolve? (TypeName.key written)).or (p.firstUnder? s.usings (TypeName.key written))) := by
  simp only [resolveIn?, if_neg hne, h, Scope.candidates_eq, List.findSome?_append, List.findSome?_cons,
    List.findSome?_map, firstUnder?, Function.comp_def]
  cases p.resolve? (TypeName.key written) <;> rfl

end Program

/-! ### Look-up by levels -/

/-- What a look-up on levels of full names finds: a type that is known on the first level that knows any. -/
inductive FindsIn (p : Program) : List (List String) → Option Symbol → Prop
  | nothing : FindsIn p [] none
  | here {level : List String} {levels : List (List String)} {fullName : String} {t : Symbol} (hn : fullName ∈ level)
      (ht : p.resolve? fullName = some t) : FindsIn p (level :: levels) (some t)
  | beyond {level : List String} {levels : List (List String)} {r : Option Symbol}
      (hlevel : ∀ fullName ∈ level, p.resolve? fullName = none) (h : FindsIn p levels r) : FindsIn p (level :: levels) r

/-- The full names that a name may stand for, by the levels of the rule of precedence.  Opened namespaces and aliases are
on one level. -/
def Scope.precedence (s : Scope) (name : String) : List (List String) :=
  s.around.map (fun q => [q ++ "." ++ name]) ++
    [(s.aliased? name).toList ++ s.usings.map (· ++ "." ++ name), [name]]

namespace FindsIn

variable {p : Program} {level : List String} {levels : List (List String)} {r : Option Symbol}

private theorem nil_iff : FindsIn p [] r ↔ r = none := by
  constructor
  · rintro ⟨⟩
    rfl
  · rintro rfl
    exact .nothing

private theorem cons_iff : FindsIn p (level :: levels) r ↔
    (∃ fullName ∈ level, (p.resolve? fullName).isSome = true ∧ r = p.resolve? fullName) ∨
      (∀ fullName ∈ level, p.resolve? fullName = none) ∧ FindsIn p levels r := by
  constructor
  · intro h
    cases h with
    | here hn ht => exact .inl ⟨_, hn, by rw [ht]; rfl, ht.symm⟩
    | beyond hlevel h => exact .inr ⟨hlevel, h⟩
  · rintro (⟨fullName, hn, hsome, rfl⟩ | ⟨hlevel, h⟩)
    · obtain ⟨t, ht⟩ := Option.isSome_iff_exists.mp hsome
      rw [ht]
      exact .here hn ht
    · exact .beyond hlevel h

instance decidable (p : Program) : (levels : List (List String)) → (r : Option Symbol) → Decidable (FindsIn p levels r)
  | [], _ => decidable_of_iff _ nil_iff.symm
  | _ :: levels, r =>
    have := decidable p levels r
    decidable_of_iff _ cons_iff.symm

/-- Names that are tried one after the other are levels of their own. -/
private theorem map_append_iff {name : String} {qualifiers : List String} :
    FindsIn p (qualifiers.map (fun q => [q ++ "." ++ name]) ++ levels) r ↔
      match p.firstUnder? qualifiers name with
      | some t => r = some t
      | none => FindsIn p levels r := by
  induction qualifiers with
  | nil => rfl
  | cons q qualifiers ih =>
    rw [List.map_cons, List.cons_append, cons_iff, ih, Program.firstUnder?_cons]
    simp only [List.mem_singleton, exists_eq_left, forall_eq]
    cases p.resolve? (q ++ "." ++ name) <;> simp

/-- Nothing is found when no name is known. -/
private theorem none_iff :
    FindsIn p levels none ↔ ∀ level ∈ levels, ∀ fullName ∈ level, p.resolve? fullName = none := by
  induction levels with
  | nil => simp [nil_iff]
  | cons level levels ih =>
    rw [cons_iff, ih, List.forall_mem_cons]
    refine or_iff_right ?_
    rintro ⟨fullName, -, hsome, hnone⟩
    rw [← hnone] at hsome
    exact absurd hsome (by simp)

end FindsIn

private theorem Scope.mem_precedence {s : Scope} {name fullName : String} :
    (∃ level ∈ s.precedence name, fullName ∈ level) ↔
      s.aliased? name = some fullName ∨ fullName = name ∨ ∃ q ∈ s.around ++ s.usings, fullName = q ++ "." ++ name := by
  simp only [precedence, List.mem_append, List.mem_map, List.mem_cons, List.not_mem_nil, or_false]
  constructor
  · rintro ⟨level, ⟨q, hq, rfl⟩ | rfl | rfl, hn⟩
    · exact .inr (.inr ⟨q, .inl hq, List.mem_singleton.mp hn⟩)
    · rcases List.mem_append.mp hn with hn | hn
      · exact .inl (Option.mem_toList.mp hn)
      · obtain ⟨q, hq, rfl⟩ := List.mem_map.mp hn
        exact .inr (.inr ⟨q, .inr hq, rfl⟩)
    · exact .inr (.inl (List.mem_singleton.mp hn))
  · rintro (ha | rfl | ⟨q, hq | hq, rfl⟩)
    · exact ⟨_, .inr (.inl rfl), List.mem_append_left _ (Option.mem_toList.mpr ha)⟩
    · exact ⟨_, .inr (.inr rfl), List.mem_singleton.mpr rfl⟩
    · exact ⟨_, .inl ⟨q, hq, rfl⟩, List.mem_singleton.mpr rfl⟩
    · exact ⟨_, .inr (.inl rfl), List.mem_append_right _ (List.mem_map.mpr ⟨q, hq, rfl⟩)⟩

/-! ### Where the look-up departs from the rule -/

namespace Program

/-- The situations in which the look-up of a name departs from the rule of precedence. -/
inductive Departs (p : Program) (s : Scope) (name : String) : Prop
  /-- An alias hides another type that is reached from around. -/
  | aliasFirst {target : String} {t u : Symbol} (ha : s.aliased? name = some target) (ht : p.resolve? target = some t)
      (hu : p.firstUnder? s.around name = some u) (hne : u ≠ t)
  /-- An alias for no known type hides a known one. -/
  | aliasOnly {target fullName : String} (ha : s.aliased? name = some target) (ht : p.resolve? target = none)
      (hn : fullName = name ∨ ∃ q ∈ s.around ++ s.usings, fullName = q ++ "." ++ name)
      (hsome : (p.resolve? fullName).isSome = true)
  /-- A type of the global namespace hides one of an opened namespace. -/
  | globalFirst {q : String} (ha : s.aliased? name = none) (hnone : p.firstUnder? s.around name = none)
      (hglobal : (p.resolve? name).isSome = true) (hq : q ∈ s.usings)
      (hsome : (p.resolve? (q ++ "." ++ name)).isSome = true)

variable {p : Program} {s : Scope} {name target : String}

/-- A known target of an alias is what the rule gives unless another type is reached from around. -/
private theorem findsIn_known_target_iff {t : Symbol} (ha : s.aliased? name = some target)
    (ht : p.resolve? target = some t) : FindsIn p (s.precedence name) (some t) ↔ ¬ p.Departs s name := by
  have honly : p.Departs s name → ∃ u, p.firstUnder? s.around name = some u ∧ u ≠ t := by
    rintro (⟨ha', ht', hu, hne⟩ | ⟨ha', ht', -, -⟩ | ⟨ha', -, -, -, -⟩)
    · cases ha.symm.trans ha'
      cases ht.symm.trans ht'
      exact ⟨_, hu, hne⟩
    · cases ha.symm.trans ha'
      exact absurd (ht.symm.trans ht') (by simp)
    · exact absurd (ha.symm.trans ha') (by simp)
  rw [Scope.precedence, FindsIn.map_append_iff]
  cases hu : p.firstUnder? s.around name with
  | some u =>
    simp only [Option.some.injEq]
    constructor
    · rintro rfl hdeparts
      obtain ⟨v, hv, hne⟩ := honly hdeparts
      exact hne (Option.some.inj (hv.symm.trans hu))
    · intro hnot
      by_contra hne
      exact hnot (.aliasFirst ha ht hu (Ne.symm hne))
  | none =>
    -- nothing is around, and the target is on the level of the directives
    refine iff_of_true (.here (by simp [ha]) ht) fun hdeparts => ?_
    obtain ⟨v, hv, -⟩ := honly hdeparts
    exact absurd (hu.symm.trans hv) (by simp)

/-- An alias for no known type is what the rule gives unless the name is known otherwise. -/
private theorem findsIn_unknown_target_iff (ha : s.aliased? name = some target) (ht : p.resolve? target = none) :
    FindsIn p (s.precedence name) none ↔ ¬ p.Departs s name := by
  rw [FindsIn.none_iff]
  constructor
  · rintro hall (⟨ha', ht', -, -⟩ | ⟨-, -, hn, hsome⟩ | ⟨ha', -, -, -, -⟩)
    · cases ha.symm.trans ha'
      exact absurd (ht.symm.trans ht') (by simp)
    · obtain ⟨level, hlevel, hmem⟩ := Scope.mem_precedence.mpr (.inr hn)
      rw [hall level hlevel _ hmem] at hsome
      exact absurd hsome (by simp)
    · exact absurd (ha.symm.trans ha') (by simp)
  · intro hnot level hlevel fullName hmem
    rcases Scope.mem_precedence.mp ⟨level, hlevel, hmem⟩ with ha' | hn
    · cases ha.symm.trans ha'
      exact ht
    · by_contra hsome
      exact hnot (.aliasOnly ha ht hn (Option.isSome_iff_ne_none.mpr hsome))

/-- Without an alias the rule is followed unless the global namespace hides an opened one. -/
private theorem findsIn_candidate_iff (ha : s.aliased? name = none) :
    FindsIn p (s.precedence name)
        ((p.firstUnder? s.around name).or ((p.resolve? name).or (p.firstUnder? s.usings name))) ↔
      ¬ p.Departs s name := by
  have honly : p.Departs s name → p.firstUnder? s.around name = none ∧ (p.resolve? name).isSome = true ∧
      p.firstUnder? s.usings name ≠ none := by
    rintro (⟨ha', -, -, -⟩ | ⟨ha', -, -, -⟩ | ⟨-, hnone, hglobal, hq, hsome⟩)
    · exact absurd (ha.symm.trans ha') (by simp)
    · exact absurd (ha.symm.trans ha') (by simp)
    · refine ⟨hnone, hglobal, fun h => ?_⟩
      rw [firstUnder?_eq_none_iff.mp h _ hq] at hsome
      exact absurd hsome (by simp)
  rw [Scope.precedence, FindsIn.map_append_iff]
  cases hu : p.firstUnder? s.around name with
  | some u =>
    refine iff_of_true rfl fun hdeparts => ?_
    exact absurd (hu.symm.trans (honly hdeparts).1) (by simp)
  | none =>
    simp only [ha, Option.toList_none, List.nil_append, Option.none_or]
    cases hg : p.resolve? name with
    | some g =>
      constructor
      · intro h hdeparts
        rcases FindsIn.cons_iff.mp h with ⟨fullName, hn, -, hr⟩ | ⟨hnone, -⟩
        · obtain ⟨q, -, rfl⟩ := List.mem_map.mp hn
          exact ne_of_resolve?_qualified hr.symm hg rfl
        · refine (honly hdeparts).2.2 (firstUnder?_eq_none_iff.mpr fun q hq => ?_)
          exact hnone _ (List.mem_map.mpr ⟨q, hq, rfl⟩)
      · intro hnot
        refine .beyond (fun fullName hn => ?_) (.here (List.mem_singleton.mpr rfl) hg)
        obtain ⟨q, hq, rfl⟩ := List.mem_map.mp hn
        by_contra hsome
        exact hnot (.globalFirst ha hu (by rw [hg]; rfl) hq (Option.isSome_iff_ne_none.mpr hsome))
    | none =>
      refine iff_of_true ?_ fun hdeparts => absurd (honly hdeparts).2.1 (by simp [hg])
      cases hv : p.firstUnder? s.usings name with
      | some v =>
        obtain ⟨q, hq, hqv⟩ := exists_of_firstUnder? hv
        exact .here (List.mem_map.mpr ⟨q, hq, rfl⟩) hqv
      | none =>
        have husings := firstUnder?_eq_none_iff.mp hv
        exact .beyond (by simpa using husings) (.beyond (by simpa using hg) .nothing)

/-- The result of a look-up follows the rule of precedence except in the situations in which it departs from it. -/
theorem resolveIn?_precedence_iff (p : Program) (s : Scope) {written : String} (hne : TypeName.key written ≠ "") :
    FindsIn p (s.precedence (TypeName.key written)) (p.resolveIn? s written) ↔
      ¬ p.Departs s (TypeName.key written) := by
  cases ha : s.aliased? (TypeName.key written) with
  | some target =>
    rw [resolveIn?_of_aliased hne ha]
    cases ht : p.resolve? target with
    | some t => exact findsIn_known_target_iff ha ht
    | none => exact findsIn_unknown_target_iff ha ht
  | none =>
    rw [resolveIn?_of_not_aliased hne ha]
    exact findsIn_candidate_iff ha

/-- A program that declares classes with some full names. -/
def ofFullNames (fullNames : List String) : Program where
  assembly := "App"
  records := fullNames.zipIdx.map fun (fullName, serial) => ⟨⟨serial, fullName, .classType, none⟩, none, [], true⟩
  bindings := []

/-- A generic type of an outer namespace comes before one of an opened namespace. -/
theorem resolveIn?_precedence_iff_generic :
    let p := ofFullNames ["Lib.Box`1", "N.Box`1"]
    let s : Scope := ⟨"N.M", ["N.M.Outer"], ["Lib"], ⟨[("Al", "Lib")]⟩⟩
    TypeName.key "Box<int>" ≠ "" ∧ (p.resolveIn? s "Box<int>").map (·.fullName) = some "N.Box`1" ∧
      ¬ p.Departs s (TypeName.key "Box<int>") :=
  ⟨by decide, by decide +kernel, (resolveIn?_precedence_iff _ _ (by decide)).mp (by decide +kernel)⟩

/-- An alias comes before a type of the namespace around, and a type of the global namespace before one of an opened
namespace. -/
theorem resolveIn?_against_precedence :
    (let p := ofFullNames ["N.A", "Lib.A"]
      let s : Scope := ⟨"N", [], [], ⟨[("A", "Lib.A")]⟩⟩
      (p.resolveIn? s "A").map (·.fullName) = some "Lib.A" ∧ FindsIn p (s.precedence "A") (p.resolve? "N.A") ∧
        ¬ FindsIn p (s.precedence "A") (p.resolveIn? s "A")) ∧
      let p := ofFullNames ["Lib.A", "A"]
      let s : Scope := ⟨"", [], ["Lib"], .empty⟩
      (p.resolveIn? s "A").map (·.fullName) = some "A" ∧ FindsIn p (s.precedence "A") (p.resolve? "Lib.A") ∧
        ¬ FindsIn p (s.precedence "A") (p.resolveIn? s "A") := by
  decide +kernel

/-! ### Names behind `global::` -/

/-- The situations in which a name behind `global::` stands for something else than the type with that full name. -/
inductive Captures (p : Program) (s : Scope) (name : String) : Prop
  /-- The first segment is an alias. -/
  | byAlias {target : String} (ha : s.aliased? name = some target) (hne : p.resolve? target ≠ p.resolve? name)
  /-- A type or a namespace around knows the name. -/
  | byAround {q : String} (ha : s.aliased? name = none) (hq : q ∈ s.around)
      (hsome : (p.resolve? (q ++ "." ++ name)).isSome = true)
  /-- No type has that full name, but an opened namespace knows the name. -/
  | byUsing {q : String} (ha : s.aliased? name = none) (hnone : p.resolve? name = none) (hq : q ∈ s.usings)
      (hsome : (p.resolve? (q ++ "." ++ name)).isSome = true)

variable {written : String}

private theorem resolve?_eq_of_not_captures (hnot : ¬ p.Captures s (TypeName.key written))
    (hne : TypeName.key written ≠ "") : p.resolveIn? s written = p.resolve? (TypeName.key written) := by
  cases ha : s.aliased? (TypeName.key written) with
  | some target =>
    rw [resolveIn?_of_aliased hne ha]
    by_contra h
    exact hnot (.byAlias ha h)
  | none =>
    have haround : p.firstUnder? s.around (TypeName.key written) = none := by
      refine firstUnder?_eq_none_iff.mpr fun q hq => ?_
      by_contra hsome
      exact hnot (.byAround ha hq (Option.isSome_iff_ne_none.mpr hsome))
    rw [resolveIn?_of_not_aliased hne ha, haround, Option.none_or]
    cases hname : p.resolve? (TypeName.key written) with
    | some t => rfl
    | none =>
      refine firstUnder?_eq_none_iff.mpr fun q hq => ?_
      by_contra hsome
      exact hnot (.byUsing ha hname hq (Option.isSome_iff_ne_none.mpr hsome))

private theorem not_captures_of_resolve?_eq (h : p.resolveIn? s written = p.resolve? (TypeName.key written))
    (hne : TypeName.key written ≠ "") : ¬ p.Captures s (TypeName.key written) := by
  -- a type under a qualified name has another full name, so it is not the one that `h` speaks of
  have hqualified {qualifiers : List String} {t : Symbol}
      (ht : p.firstUnder? qualifiers (TypeName.key written) = some t) : p.resolveIn? s written ≠ some t := by
    intro hr
    obtain ⟨q, -, hq⟩ := exists_of_firstUnder? ht
    exact ne_of_resolve?_qualified hq (h.symm.trans hr) rfl
  have hknown {qualifiers : List String} {q : String} (hq : q ∈ qualifiers)
      (hsome : (p.resolve? (q ++ "." ++ TypeName.key written)).isSome = true) :
      ∃ t, p.firstUnder? qualifiers (TypeName.key written) = some t := by
    refine Option.ne_none_iff_exists'.mp fun hnone => ?_
    rw [firstUnder?_eq_none_iff.mp hnone q hq] at hsome
    exact absurd hsome (by simp)
  rintro (⟨ha, hdiffer⟩ | ⟨ha, hq, hsome⟩ | ⟨ha, hnone, hq, hsome⟩)
  · exact hdiffer ((resolveIn?_of_aliased hne ha).symm.trans h)
  · obtain ⟨t, ht⟩ := hknown hq hsome
    refine hqualified ht ?_
    rw [resolveIn?_of_not_aliased hne ha, ht]
    rfl
  · obtain ⟨t, ht⟩ := hknown hq hsome
    cases haround : p.firstUnder? s.around (TypeName.key written) with
    | some u =>
      refine hqualified haround ?_
      rw [resolveIn?_of_not_aliased hne ha, haround]
      rfl
    | none =>
      refine hqualified ht ?_
      rw [resolveIn?_of_not_aliased hne ha, haround, hnone, ht]
      rfl

/-- A name behind `global::` is looked up like the name alone.  It stands for the type with that full name exactly when
nothing captures it. -/
theorem resolveIn?_global (p : Program) (s : Scope)
    (hplain : afterStart? TypeName.globalQualifier (unblank written.toList) = none)
    (hne : TypeName.key written ≠ "") :
    p.resolveIn? s ("global::" ++ written) = p.resolveIn? s written ∧
      (p.resolveIn? s ("global::" ++ written) = p.resolve? (TypeName.key written) ↔
        ¬ p.Captures s (TypeName.key written)) := by
  have hsame : p.resolveIn? s ("global::" ++ written) = p.resolveIn? s written := by
    simp only [resolveIn?, TypeName.key_global hplain]
  refine ⟨hsame, ?_⟩
  rw [hsame]
  exact ⟨fun h => not_captures_of_resolve?_eq h hne, fun h => resolve?_eq_of_not_captures h hne⟩

/-- A generic name that no alias, type or namespace around captures. -/
theorem resolveIn?_global_generic :
    let p := ofFullNames ["Lib.Box`1", "N.Box`1"]
    let s : Scope := ⟨"N.M", ["N.M.Outer"], ["Lib"], ⟨[("Al", "Lib")]⟩⟩
    afterStart? TypeName.globalQualifier (unblank "N . Box<int>".toList) = none ∧ TypeName.key "N . Box<int>" ≠ "" ∧
      (p.resolveIn? s ("global::" ++ "N . Box<int>")).map (·.fullName) = some "N.Box`1" ∧
      ¬ p.Captures s (TypeName.key "N . Box<int>") :=
  ⟨by decide, by decide, by decide +kernel,
    (resolveIn?_global _ _ (by decide) (by decide)).2.mp (by decide +kernel)⟩

/-- A name behind `global::` is captured by a namespace around it and by an alias, and by an opened namespace when no type
has that full name. -/
theorem resolveIn?_global_captured :
    let p := ofFullNames ["N.A", "A", "Lib.B"]
    let inSpace : Scope := ⟨"N", [], [], .empty⟩
    let withAlias : Scope := ⟨"", [], [], ⟨[("A", "Lib.B")]⟩⟩
    let withUsing : Scope := ⟨"", [], ["Lib"], .empty⟩
    (p.resolveIn? inSpace ("global::" ++ "A")).map (·.fullName) = some "N.A" ∧
      p.resolveIn? inSpace ("global::" ++ "A") ≠ p.resolve? (TypeName.key "A") ∧
      (p.resolveIn? withAlias ("global::" ++ "A")).map (·.fullName) = some "Lib.B" ∧
      p.resolveIn? withAlias ("global::" ++ "A") ≠ p.resolve? (TypeName.key "A") ∧
      (p.resolveIn? withUsing ("global::" ++ "B")).map (·.fullName) = some "Lib.B" ∧
      p.resolveIn? withUsing ("global::" ++ "B") ≠ p.resolve? (TypeName.key "B") := by
  decide +kernel

end Program

end Rollcall
