import Mathlib.Dynamics.PeriodicPts.Defs
import Mathlib.Logic.Relation
import Rollcall.Proofs.Sessions

/-!
# Walks along the bases

A type *derives* from another that is reached from it by one or more steps to the base (`Derives`).  The walk of
`inherits` finds this out although bases may form a circle.

* Every round of the walk that goes on uses up a type of the program, so it ends after at most one round more than the
  program has types (`exists_walk`).
* The types that a walk has seen lead only to each other and to the type where it stands (`Explored`).  So a walk that
  comes back to one of them has missed nothing (`serial_ne_of_meets_eq_false`).
* In a session two symbols with one serial number are one, so that deriving is about the very symbol asked for
  (`Session.Sound.inherits_iff`), and steps can be counted (`derives_iff_iterate`).
-/

namespace Rollcall

namespace Program

/-- Whether `b` is reached from `a` by one or more steps to the base. -/
def Derives (p : Program) : Symbol → Symbol → Prop :=
  Relation.TransGen fun a b => p.baseOf? a = some b

variable {p : Program} {s b base : Symbol} {seen : List Nat} {current : Option Symbol}

private theorem baseOf?_congr {a : Symbol} (h : a.serial = s.serial) : p.baseOf? a = p.baseOf? s := by
  simp only [baseOf?, record?, Symbol.same, h]

/-! ### The rounds of a walk -/

/-- The walk that has seen some types and stands at `current` makes so many rounds and gives this answer. -/
inductive Walk (p : Program) (base : Symbol) : List Nat → Option Symbol → Nat → Bool → Prop
  | atEnd (seen : List Nat) : Walk p base seen none 0 false
  | cameBack {seen : List Nat} {s : Symbol} (hseen : s.serial ∈ seen) : Walk p base seen (some s) 0 false
  | met {seen : List Nat} {s : Symbol} (hseen : s.serial ∉ seen) (hs : s.serial = base.serial) :
      Walk p base seen (some s) 1 true
  | onward {seen : List Nat} {s : Symbol} {rounds : Nat} {answer : Bool} (hseen : s.serial ∉ seen)
      (hs : s.serial ≠ base.serial) (rest : Walk p base (s.serial :: seen) (p.baseOf? s) rounds answer) :
      Walk p base seen (some s) (rounds + 1) answer

/-- The walk makes at most one round more than there are types that it has not seen. -/
theorem exists_walk (p : Program) (base : Symbol) (seen : List Nat) (current : Option Symbol) :
    ∃ rounds ≤ (p.unseen seen).length + current.toList.length,
      p.Walk base seen current rounds (p.meets base seen current) := by
  fun_induction p.meets base seen current with
  | case1 seen => exact ⟨0, Nat.zero_le _, .atEnd seen⟩
  | case2 seen s hseen => exact ⟨0, Nat.zero_le _, .cameBack hseen⟩
  | case3 seen s hseen hs =>
    exact ⟨1, Nat.le_add_left 1 _, .met hseen (Symbol.same_iff.mp hs)⟩
  | case4 seen s hseen hs ih =>
    obtain ⟨rounds, hle, hwalk⟩ := ih
    refine ⟨rounds + 1, ?_, .onward hseen (fun h => hs (Symbol.same_iff.mpr h)) hwalk⟩
    cases hbase : p.baseOf? s with
    | none =>
      have hunseen : (p.unseen (s.serial :: seen)).length ≤ (p.unseen seen).length := by
        rw [unseen_cons]
        exact List.length_filter_le _ _
      simp only [hbase, Option.toList_none, List.length_nil, Option.toList_some, List.length_singleton] at hle ⊢
      omega
    | some b =>
      have hunseen := length_unseen_lt hseen hbase
      simp only [hbase, Option.toList_some, List.length_singleton] at hle ⊢
      omega

/-! ### What a walk meets -/

/-- A walk meets only types that it comes to. -/
private theorem exists_of_meets (h : p.meets base seen current = true) : ∃ s b, current = some s ∧
    Relation.ReflTransGen (fun a b => p.baseOf? a = some b) s b ∧ b.serial = base.serial := by
  fun_induction p.meets base seen current with
  | case1 seen => exact absurd h (by simp)
  | case2 seen s hseen => exact absurd h (by simp)
  | case3 seen s hseen hs => exact ⟨s, s, rfl, .refl, Symbol.same_iff.mp hs⟩
  | case4 seen s hseen hs ih =>
    obtain ⟨c, b, hc, hcb, hb⟩ := ih h
    exact ⟨s, b, rfl, .head hc hcb, hb⟩

/-- Whether the types seen lead only to each other and to the current one, and none of them is the base looked for. -/
def Explored (p : Program) (base : Symbol) (seen : List Nat) (current : Option Symbol) : Prop :=
  ∀ t : Symbol, t.serial ∈ seen →
    t.serial ≠ base.serial ∧ ∀ u, p.baseOf? t = some u → u.serial ∈ seen ∨ current = some u

private theorem Explored.onward (h : p.Explored base seen (some s)) (hs : s.serial ≠ base.serial) :
    p.Explored base (s.serial :: seen) (p.baseOf? s) := by
  intro t ht
  rcases List.mem_cons.mp ht with hts | ht
  · refine ⟨by rwa [hts], fun u hu => .inr ?_⟩
    rw [← hu, baseOf?_congr hts]
  · obtain ⟨hne, hbase⟩ := h t ht
    refine ⟨hne, fun u hu => .inl ?_⟩
    rcases hbase u hu with hu | hu
    · exact List.mem_cons_of_mem _ hu
    · rw [Option.some.inj hu]
      exact List.mem_cons_self

/-- What the types seen lead to was seen, once the walk stands nowhere new. -/
private theorem Explored.serial_mem (h : p.Explored base seen current) (hcurrent : ∀ u ∈ current, u.serial ∈ seen)
    {t u : Symbol} (ht : t.serial ∈ seen) (hu : Relation.ReflTransGen (fun a b => p.baseOf? a = some b) t u) :
    u.serial ∈ seen := by
  induction hu with
  | refl => exact ht
  | tail _ hstep ih =>
    rcases (h _ ih).2 _ hstep with hmem | hmem
    · exact hmem
    · exact hcurrent _ hmem

/-- A walk that does not meet the base has missed nothing: neither the types seen nor the current one lead to it. -/
theorem serial_ne_of_meets_eq_false (h : p.meets base seen current = false) (hexplored : p.Explored base seen current)
    {t u : Symbol} (ht : t.serial ∈ seen ∨ current = some t)
    (hu : Relation.ReflTransGen (fun a b => p.baseOf? a = some b) t u) : u.serial ≠ base.serial := by
  fun_induction p.meets base seen current with
  | case1 seen =>
    have hmem : t.serial ∈ seen := ht.resolve_right (by simp)
    exact (hexplored u (hexplored.serial_mem (by simp) hmem hu)).1
  | case2 seen s hseen =>
    have hcurrent : ∀ u ∈ some s, u.serial ∈ seen := by
      intro u hu
      rwa [← Option.some.inj hu]
    have hmem : t.serial ∈ seen := ht.elim id (hcurrent t)
    exact (hexplored u (hexplored.serial_mem hcurrent hmem hu)).1
  | case3 seen s hseen hs => exact absurd h (by simp)
  | case4 seen s hseen hs ih =>
    refine ih h (hexplored.onward fun hs' => hs (Symbol.same_iff.mpr hs')) (.inl ?_)
    rcases ht with ht | ht
    · exact List.mem_cons_of_mem _ ht
    · rw [Option.some.inj ht]
      exact List.mem_cons_self

/-- A type inherits from exactly the types from which it derives, as far as serial numbers tell. -/
theorem inherits_iff_derives : p.inherits s base = true ↔ ∃ b, p.Derives s b ∧ b.serial = base.serial := by
  constructor
  · intro h
    obtain ⟨c, b, hc, hcb, hb⟩ := exists_of_meets h
    exact ⟨b, .head' hc hcb, hb⟩
  · rintro ⟨b, hsb, hb⟩
    obtain ⟨c, hc, hcb⟩ := Relation.TransGen.head'_iff.mp hsb
    by_contra h
    have hempty : p.Explored base [] (p.baseOf? s) := fun t ht => absurd ht List.not_mem_nil
    exact serial_ne_of_meets_eq_false (Bool.eq_false_iff.mpr h) hempty (.inr hc) hcb hb

/-! ### Ancestors among the symbols of a session -/

private theorem exists_record_of_baseOf? (h : p.baseOf? s = some b) :
    ∃ r ∈ p.records, r.symbol.serial = s.serial ∧ r.base = some b := by
  obtain ⟨r, hr, hb⟩ := Option.bind_eq_some_iff.mp h
  exact ⟨r, List.mem_of_find?_eq_some hr, serial_of_record? hr, hb⟩

theorem Derives.mem_symbols (h : p.Derives s b) : b ∈ p.symbols := by
  have hbase {a : Symbol} (hb : p.baseOf? a = some b) : b ∈ p.symbols := by
    obtain ⟨r, hr, -, hb⟩ := exists_record_of_baseOf? hb
    exact Program.mem_symbols.mpr (.inl ⟨r, hr, TypeRecord.mem_symbols.mpr (.inr (.inl hb))⟩)
  cases h with
  | single hb => exact hbase hb
  | tail _ hb => exact hbase hb

/-- To derive is to be reached by some number of steps to the base. -/
theorem derives_iff_iterate :
    p.Derives s b ↔ ∃ steps, 1 ≤ steps ∧ (Option.bind · p.baseOf?)^[steps] (some s) = some b := by
  constructor
  · intro h
    induction h with
    | single hb => exact ⟨1, Nat.le_refl 1, hb⟩
    | tail _ hb ih =>
      obtain ⟨steps, hle, hsteps⟩ := ih
      refine ⟨steps + 1, by omega, ?_⟩
      rw [Function.iterate_succ_apply', hsteps]
      exact hb
  · rintro ⟨steps, hle, hsteps⟩
    induction steps, hle using Nat.le_induction generalizing b with
    | base => exact .single hsteps
    | succ steps hle ih =>
      rw [Function.iterate_succ_apply', Option.bind_eq_some_iff] at hsteps
      obtain ⟨c, hc, hb⟩ := hsteps
      exact .tail (ih hc) hb

end Program

namespace Session

theorem Sound.inherits_iff {session : Session} (h : session.Sound) {p : Program} (hp : p ∈ session.programs)
    {s base : Symbol} (hbase : base ∈ session.symbols) : p.inherits s base = true ↔ p.Derives s base := by
  rw [Program.inherits_iff_derives]
  constructor
  · rintro ⟨b, hb, hserial⟩
    have hbs := h.mentioned p hp b hb.mem_symbols
    rwa [← h.symbols.eq_of_serial_eq hbs hbase hserial]
  · intro hd
    exact ⟨base, hd, rfl⟩

/-- The walk along the bases ends after at most one round more than the program has types, and it meets exactly the symbols
that some number of steps to the base leads to.  So a type inherits from itself exactly when it lies on a circle. -/
theorem inherits_after (commands : List Command) {n : Nat} {p : Program}
    (hp : (after commands).programs[n]? = some p) {s b : Symbol} (hs : s ∈ (after commands).symbols)
    (hb : b ∈ (after commands).symbols) :
    (∃ rounds ≤ p.records.length + 1, p.Walk b [] (p.baseOf? s) rounds (p.inherits s b)) ∧
      (p.inherits s b = true ↔ ∃ steps, 1 ≤ steps ∧ (Option.bind · p.baseOf?)^[steps] (some s) = some b) ∧
      (p.inherits s s = true ↔ some s ∈ Function.periodicPts (Option.bind · p.baseOf?)) := by
  have hsound := sound_after commands
  have hmem := List.mem_of_getElem? hp
  refine ⟨?_, ?_, ?_⟩
  · obtain ⟨rounds, hle, hwalk⟩ := p.exists_walk b [] (p.baseOf? s)
    have hunseen : (p.unseen []).length ≤ p.records.length := List.length_filter_le _ _
    have hcurrent : (p.baseOf? s).toList.length ≤ 1 := Option.length_toList_le
    exact ⟨rounds, by omega, hwalk⟩
  · rw [hsound.inherits_iff hmem hb, Program.derives_iff_iterate]
  · rw [hsound.inherits_iff hmem hs, Program.derives_iff_iterate]
    rfl

/-- A history in which the walk from `third` enters a circle on which `third` does not lie, and in which another type takes
the name of `first` afterwards. -/
theorem inherits_after_circle :
    let commands : List Command := [
      .newProgram "App",
      .declare 0 "App.First" .classType none none [],
      .declare 0 "App.Second" .classType none (some 0) [],
      .setBase 0 0 (some 1),
      .declare 0 "App.Third" .classType none (some 0) [],
      .declare 0 "App.First" .classType none none []]
    let second : Symbol := ⟨1, "App.Second", .classType, none⟩
    let third : Symbol := ⟨2, "App.Third", .classType, none⟩
    ∃ p, (after commands).programs[0]? = some p ∧
      third ∈ (after commands).symbols ∧ second ∈ (after commands).symbols ∧
      (∃ rounds ≤ p.records.length + 1, p.Walk second [] (p.baseOf? third) rounds true) ∧
      (∃ steps, 1 ≤ steps ∧ (Option.bind · p.baseOf?)^[steps] (some third) = some second) ∧
      some third ∉ Function.periodicPts (Option.bind · p.baseOf?) ∧
      some second ∈ Function.periodicPts (Option.bind · p.baseOf?) := by
  intro commands second third
  obtain ⟨p, hp, hsecond, hthird, hself⟩ : ∃ p, (after commands).programs[0]? = some p ∧
      p.inherits third second = true ∧ p.inherits third third = false ∧ p.inherits second second = true :=
    ⟨_, rfl, by decide +kernel, by decide +kernel, by decide +kernel⟩
  have hs : third ∈ (after commands).symbols := by decide +kernel
  have hb : second ∈ (after commands).symbols := by decide +kernel
  obtain ⟨hwalk, hsteps, hcircle⟩ := inherits_after commands hp hs hb
  rw [hsecond] at hwalk
  refine ⟨p, hp, hs, hb, hwalk, hsteps.mp hsecond, fun h => ?_, (inherits_after commands hp hb hb).2.2.mp hself⟩
  exact absurd (hcircle.mpr h) (by simp [hthird])

end Session

end Rollcall
