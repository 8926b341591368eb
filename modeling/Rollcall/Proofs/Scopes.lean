import Rollcall.Scope

/-!
# Aliases in order

Aliases form a list without repeated names.  Giving a new target to a known alias does not move it, so merging aliases
that were collected apart is the same as giving the targets one after the other (`putAll_aliasesOf`), and giving the same
targets once more changes nothing (`putAll_putAll_self`).
-/

namespace Rollcall

namespace Aliases

/-! ### One alias -/

private theorem mem_names_putEntry {name target n : String} {l : List (String × String)} :
    n ∈ (putEntry name target l).map (·.1) ↔ n = name ∨ n ∈ l.map (·.1) := by
  induction l with
  | nil => simp [putEntry]
  | cons e l ih =>
    obtain ⟨m, t⟩ := e
    unfold putEntry
    split
    · next h =>
      subst h
      simp
    · rw [List.map_cons, List.mem_cons, ih, List.map_cons, List.mem_cons]
      exact or_left_comm

private theorem nodup_putEntry {name target : String} {l : List (String × String)} (h : (l.map (·.1)).Nodup) :
    ((putEntry name target l).map (·.1)).Nodup := by
  induction l with
  | nil => simp [putEntry]
  | cons e l ih =>
    obtain ⟨m, t⟩ := e
    rw [List.map_cons, List.nodup_cons] at h
    unfold putEntry
    split
    · rw [List.map_cons, List.nodup_cons]
      exact h
    · next hm =>
      rw [List.map_cons, List.nodup_cons]
      refine ⟨?_, ih h.2⟩
      intro hmem
      rcases mem_names_putEntry.mp hmem with rfl | hmem
      · exact hm rfl
      · exact h.1 hmem

private theorem putEntry_putEntry (name target old : String) (l : List (String × String)) :
    putEntry name target (putEntry name old l) = putEntry name target l := by
  induction l with
  | nil => simp [putEntry]
  | cons e l ih =>
    obtain ⟨m, t⟩ := e
    by_cases h : m = name
    · simp [putEntry, h]
    · simp [putEntry, h, ih]

/-- A known alias keeps its place, so its new target may be given before or behind that of another alias. -/
private theorem putEntry_comm {name name' target target' : String} {l : List (String × String)}
    (hl : name ∈ l.map (·.1)) (hne : name' ≠ name) :
    putEntry name target (putEntry name' target' l) = putEntry name' target' (putEntry name target l) := by
  induction l with
  | nil => exact absurd hl List.not_mem_nil
  | cons e l ih =>
    obtain ⟨m, t⟩ := e
    by_cases hm : m = name
    · have hm' : m ≠ name' := fun h => hne (h ▸ hm)
      simp [putEntry, hm, hne.symm]
    · have hl : name ∈ l.map (·.1) := by
        rcases List.mem_cons.mp hl with h | h
        · exact absurd h.symm hm
        · exact h
      by_cases hm' : m = name'
      · simp [putEntry, hm', hne]
      · simp [putEntry, hm, hm', ih hl]

/-! ### Several aliases -/

private theorem put_putAll {a : Aliases} {name target : String} {pairs : List (String × String)}
    (ha : name ∈ a.entries.map (·.1)) (hp : name ∉ pairs.map (·.1)) :
    (a.putAll pairs).put name target = (a.put name target).putAll pairs := by
  induction pairs generalizing a with
  | nil => rfl
  | cons e pairs ih =>
    obtain ⟨n, t⟩ := e
    rw [List.map_cons, List.mem_cons, not_or] at hp
    have ha' : name ∈ (a.put n t).entries.map (·.1) := mem_names_putEntry.mpr (.inr ha)
    have hcomm : (a.put n t).put name target = (a.put name target).put n t :=
      congrArg Aliases.mk (putEntry_comm ha (Ne.symm hp.1))
    show ((a.put n t).putAll pairs).put name target = ((a.put name target).put n t).putAll pairs
    rw [ih ha' hp.2, hcomm]

private theorem putAll_entries_put {a b : Aliases} {name target : String} (hb : (b.entries.map (·.1)).Nodup) :
    a.putAll (b.put name target).entries = (a.putAll b.entries).put name target := by
  obtain ⟨entries⟩ := b
  show a.putAll (putEntry name target entries) = (a.putAll entries).put name target
  induction entries generalizing a with
  | nil => rfl
  | cons e entries ih =>
    obtain ⟨n, t⟩ := e
    rw [List.map_cons, List.nodup_cons] at hb
    unfold putEntry
    split
    · next h =>
      subst h
      have hn : n ∈ (a.put n t).entries.map (·.1) := mem_names_putEntry.mpr (.inl rfl)
      have hput : (a.put n t).put n target = a.put n target := congrArg Aliases.mk (putEntry_putEntry n target t _)
      show (a.put n target).putAll entries = ((a.put n t).putAll entries).put n target
      rw [put_putAll hn hb.1, hput]
    · exact ih hb.2

private theorem putAll_entries_putAll {a b : Aliases} (pairs : List (String × String))
    (hb : (b.entries.map (·.1)).Nodup) : a.putAll (b.putAll pairs).entries = (a.putAll b.entries).putAll pairs := by
  induction pairs generalizing b with
  | nil => rfl
  | cons e pairs ih =>
    obtain ⟨n, t⟩ := e
    have hb' : ((b.put n t).entries.map (·.1)).Nodup := nodup_putEntry hb
    show a.putAll ((b.put n t).putAll pairs).entries = ((a.putAll b.entries).put n t).putAll pairs
    rw [ih hb', putAll_entries_put hb]

private theorem mem_names_putAll {a : Aliases} {n : String} {pairs : List (String × String)}
    (h : n ∈ a.entries.map (·.1)) : n ∈ (a.putAll pairs).entries.map (·.1) := by
  induction pairs generalizing a with
  | nil => exact h
  | cons e pairs ih => exact ih (mem_names_putEntry.mpr (.inr h))

/-- The target of a known alias does not matter when the alias gets another one afterwards. -/
private theorem putAll_put {a : Aliases} {name target : String} {pairs : List (String × String)}
    (ha : name ∈ a.entries.map (·.1)) (hp : name ∈ pairs.map (·.1)) :
    (a.put name target).putAll pairs = a.putAll pairs := by
  induction pairs generalizing a with
  | nil => exact absurd hp List.not_mem_nil
  | cons e pairs ih =>
    obtain ⟨n, t⟩ := e
    show ((a.put name target).put n t).putAll pairs = (a.put n t).putAll pairs
    by_cases hn : n = name
    · subst hn
      have hput : (a.put n target).put n t = a.put n t := congrArg Aliases.mk (putEntry_putEntry n t target _)
      rw [hput]
    · have hp : name ∈ pairs.map (·.1) := by
        rcases List.mem_cons.mp hp with h | h
        · exact absurd h.symm hn
        · exact h
      have hcomm : (a.put name target).put n t = (a.put n t).put name target :=
        congrArg Aliases.mk (putEntry_comm ha hn).symm
      have hknown : name ∈ (a.put n t).entries.map (·.1) := mem_names_putEntry.mpr (.inr ha)
      rw [hcomm, ih hknown hp]

/-- Giving targets once more changes nothing. -/
theorem putAll_putAll_self (a : Aliases) (pairs : List (String × String)) :
    (a.putAll pairs).putAll pairs = a.putAll pairs := by
  induction pairs generalizing a with
  | nil => rfl
  | cons e pairs ih =>
    obtain ⟨n, t⟩ := e
    have hn : n ∈ (a.put n t).entries.map (·.1) := mem_names_putEntry.mpr (.inl rfl)
    show (((a.put n t).putAll pairs).put n t).putAll pairs = (a.put n t).putAll pairs
    by_cases hp : n ∈ pairs.map (·.1)
    · rw [putAll_put (mem_names_putAll hn) hp, ih]
    · have hput : (a.put n t).put n t = a.put n t := congrArg Aliases.mk (putEntry_putEntry n t t _)
      rw [put_putAll hn hp, hput, ih]

end Aliases

namespace Scope

/-- The aliases of directives with their targets, in order. -/
def aliasPairs (directives : List Directive) : List (String × String) :=
  directives.filterMap fun d =>
    match d.brings with
    | .aliasFor name target => some (name, target)
    | _ => none

/-- Merging the aliases of directives gives each its target in the order of the directives. -/
theorem putAll_aliasesOf (a : Aliases) (directives : List Directive) :
    a.putAll (aliasesOf directives).entries = a.putAll (aliasPairs directives) :=
  Aliases.putAll_entries_putAll (aliasPairs directives) .nil

/-- Directives other than the global ones add their namespaces behind those opened before, and their aliases. -/
theorem withDirectives_eq (s : Scope) (directives : List Directive) :
    s.withDirectives directives =
      { s with
        usings := s.usings ++ openedBy (directives.filter fun d => !d.isGlobal)
        aliases := s.aliases.putAll (aliasPairs (directives.filter fun d => !d.isGlobal)) } := by
  simp only [withDirectives, withUsings, putAll_aliasesOf]

end Scope

end Rollcall
