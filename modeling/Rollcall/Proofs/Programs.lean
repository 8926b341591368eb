import Rollcall.Program.Basic

/-!
# Questions to a program

What the questions to a program depend on, and what a change does to their answers.

* A look-up by full name sees the symbols of the records only (`resolve?_congr`), and what it finds is itself the
  current entry under its own full name (`resolve?_fullName`).
* The numbers `nextSymbol` and `nextSite` are new to the program (`serial_lt_nextSymbol`, `serial_lt_nextSite`).
* A change makes a program mention only what it mentioned before and what the change brings (`mem_symbols_add`, …).
-/

namespace Rollcall

theorem Symbol.same_iff {s t : Symbol} : s.same t = true ↔ s.serial = t.serial := by
  simp [Symbol.same]

/-- Entries of a list with different keys are equal when their keys are. -/
theorem eq_of_key_eq {α β : Type} {key : α → β} {l : List α} (hl : l.Pairwise fun a b => key a ≠ key b)
    {a b : α} (ha : a ∈ l) (hb : b ∈ l) (h : key a = key b) : a = b := by
  induction l with
  | nil => exact absurd ha List.not_mem_nil
  | cons c l ih =>
    rw [List.pairwise_cons] at hl
    rcases List.mem_cons.mp ha with rfl | hal
    · rcases List.mem_cons.mp hb with rfl | hbl
      · rfl
      · exact absurd h (hl.1 b hbl)
    · rcases List.mem_cons.mp hb with rfl | hbl
      · exact absurd h.symm (hl.1 a hal)
      · exact ih hl.2 hal hbl

/-- A search finds the only entry that it can find. -/
theorem find?_eq_some_of_unique {α : Type} {test : α → Bool} {l : List α} {a : α} (ha : a ∈ l)
    (htest : test a = true) (hu : ∀ b ∈ l, test b = true → b = a) : l.find? test = some a := by
  obtain ⟨b, hb⟩ := Option.isSome_iff_exists.mp (List.find?_isSome.mpr ⟨a, ha, htest⟩)
  rw [hb, hu b (List.mem_of_find?_eq_some hb) (List.find?_some hb)]

/-- A number of a list is below the greatest one plus one. -/
private theorem lt_foldr_max_succ {n : Nat} {l : List Nat} (h : n ∈ l) : n < (l.map (· + 1)).foldr max 0 := by
  induction l with
  | nil => exact absurd h List.not_mem_nil
  | cons m l ih =>
    simp only [List.map_cons, List.foldr_cons]
    rcases List.mem_cons.mp h with rfl | h
    · omega
    · have := ih h
      omega

theorem TypeRecord.mem_symbols {r : TypeRecord} {t : Symbol} :
    t ∈ r.symbols ↔ t = r.symbol ∨ r.base = some t ∨ ∃ a ∈ r.attributes, t ∈ a.symbols := by
  simp [TypeRecord.symbols]

namespace Program

/-! ### Look-ups by full name -/

theorem resolve?_eq_find? (p : Program) (fullName : String) :
    p.resolve? fullName = (p.records.map (·.symbol)).reverse.find? (·.fullName == fullName) := by
  unfold resolve? latest?
  rw [← List.map_reverse, List.find?_map]
  rfl

/-- Look-ups by full name depend on the symbols of the records only. -/
theorem resolve?_congr {p q : Program} (h : p.records.map (·.symbol) = q.records.map (·.symbol)) :
    p.resolve? = q.resolve? := by
  funext fullName
  rw [resolve?_eq_find?, resolve?_eq_find?, h]

theorem fullName_of_resolve? {p : Program} {fullName : String} {s : Symbol} (h : p.resolve? fullName = some s) :
    s.fullName = fullName := by
  rw [resolve?_eq_find?] at h
  simpa using List.find?_some h

/-- What a look-up finds is the current entry under its own full name. -/
theorem resolve?_fullName {p : Program} {fullName : String} {s : Symbol} (h : p.resolve? fullName = some s) :
    p.resolve? s.fullName = some s := by
  rw [fullName_of_resolve? h, h]

theorem exists_record_of_resolve? {p : Program} {fullName : String} {s : Symbol}
    (h : p.resolve? fullName = some s) : ∃ r ∈ p.records, r.symbol = s := by
  rw [resolve?_eq_find?] at h
  have := List.mem_of_find?_eq_some h
  simpa using this

theorem exists_record_of_lookup? {p : Program} {fullName : String} {s : Symbol} (h : p.lookup? fullName = some s) :
    ∃ r ∈ p.records, r.symbol = s ∧ r.isDeclared = true ∧ s.fullName = fullName := by
  unfold lookup? latest? at h
  obtain ⟨r, hr, rfl⟩ := Option.map_eq_some_iff.mp h
  obtain ⟨hr, hd⟩ := Option.filter_eq_some_iff.mp hr
  have hm := List.mem_of_find?_eq_some hr
  have hn := List.find?_some hr
  exact ⟨r, by simpa using hm, rfl, hd, by simpa using hn⟩

/-! ### New serial numbers -/

theorem serial_lt_nextSymbol {p : Program} {s : Symbol} (h : s ∈ p.symbols) : s.serial < p.nextSymbol := by
  have := lt_foldr_max_succ (List.mem_map.mpr ⟨s, h, rfl⟩ : s.serial ∈ p.symbols.map (·.serial))
  rwa [List.map_map] at this

theorem serial_lt_nextSite {p : Program} {site : Site} (h : site ∈ p.sites) : site.serial < p.nextSite := by
  have := lt_foldr_max_succ (List.mem_map.mpr ⟨site, h, rfl⟩ : site.serial ∈ p.sites.map (·.serial))
  rwa [List.map_map] at this

theorem symbol_mem_symbols {p : Program} {r : TypeRecord} (h : r ∈ p.records) : r.symbol ∈ p.symbols :=
  List.mem_append_left _ (List.mem_flatMap.mpr ⟨r, h, TypeRecord.mem_symbols.mpr (.inl rfl)⟩)

/-! ### Symbols that a program mentions -/

theorem mem_symbols {p : Program} {t : Symbol} :
    t ∈ p.symbols ↔ (∃ r ∈ p.records, t ∈ r.symbols) ∨ ∃ b ∈ p.bindings, b.2 = some t := by
  simp [symbols, List.mem_append, List.mem_flatMap, List.mem_filterMap]

theorem mem_symbols_add {p : Program} {r : TypeRecord} {t : Symbol} (h : t ∈ (p.add r).symbols) :
    t ∈ p.symbols ∨ t ∈ r.symbols := by
  rw [mem_symbols] at h ⊢
  rcases h with ⟨r', hr', ht⟩ | hb
  · rcases List.mem_append.mp hr' with hold | hnew
    · exact .inl (.inl ⟨r', hold, ht⟩)
    · rw [List.mem_singleton.mp hnew] at ht
      exact .inr ht
  · exact .inl (.inr hb)

theorem mem_symbols_addSite {p : Program} {site : Site} {symbol : Option Symbol} {t : Symbol}
    (h : t ∈ (p.addSite site symbol).symbols) : t ∈ p.symbols ∨ symbol = some t := by
  rw [mem_symbols] at h ⊢
  rcases h with hr | ⟨b, hb, ht⟩
  · exact .inl (.inl hr)
  · rcases List.mem_append.mp hb with hold | hnew
    · exact .inl (.inr ⟨b, hold, ht⟩)
    · rw [List.mem_singleton.mp hnew] at ht
      exact .inr ht

theorem mem_sites_addSite {p : Program} {site x : Site} {symbol : Option Symbol}
    (h : x ∈ (p.addSite site symbol).sites) : x ∈ p.sites ∨ x = site := by
  simpa [sites, addSite] using h

private theorem mem_symbols_update {p : Program} {s : Symbol} {change : TypeRecord → TypeRecord} {t : Symbol}
    (h : t ∈ (p.update s change).symbols) : t ∈ p.symbols ∨ ∃ r ∈ p.records, t ∈ (change r).symbols := by
  rw [mem_symbols] at h ⊢
  rcases h with ⟨r', hr', ht⟩ | hb
  · obtain ⟨r, hr, rfl⟩ := List.mem_map.mp hr'
    split at ht
    · exact .inr ⟨r, hr, ht⟩
    · exact .inl (.inl ⟨r, hr, ht⟩)
  · exact .inl (.inr hb)

/-- A change of the record of a symbol changes what is found under its serial number. -/
theorem record?_update_eq_map (p : Program) (s t : Symbol) {change : TypeRecord → TypeRecord}
    (h : ∀ r, (change r).symbol = r.symbol) :
    (p.update s change).record? t = (p.record? t).map fun r => if r.symbol.same s then change r else r := by
  have htest : ((fun r => r.symbol.same t) ∘ fun r => if r.symbol.same s then change r else r) =
      fun r => r.symbol.same t := by
    funext r
    rw [Function.comp_apply]
    split
    · rw [h]
    · rfl
  rw [record?, update, List.find?_map, htest]
  rfl

/-- Where serial numbers tell the records apart, each is found by its symbol. -/
theorem record?_of_mem {p : Program} (hp : p.records.Pairwise fun r r' => r.symbol.serial ≠ r'.symbol.serial)
    {r : TypeRecord} (hr : r ∈ p.records) : p.record? r.symbol = some r := by
  refine find?_eq_some_of_unique hr (Symbol.same_iff.mpr rfl) fun r' hr' hsame => ?_
  exact eq_of_key_eq hp hr' hr (Symbol.same_iff.mp hsame)

private theorem setBase?_eq_some_iff {p q : Program} {s : Symbol} {base : Option Symbol} :
    p.setBase? s base = some q ↔ p.owns s = true ∧ q = p.update s fun r => { r with base } := by
  unfold setBase?
  split <;> simp [*, eq_comm]

theorem setAttributes?_eq_some_iff {p q : Program} {s : Symbol} {attributes : List Attribute} :
    p.setAttributes? s attributes = some q ↔ p.owns s = true ∧ q = p.update s fun r => { r with attributes } := by
  unfold setAttributes?
  split <;> simp [*, eq_comm]

theorem mem_symbols_setBase? {p q : Program} {s : Symbol} {base : Option Symbol} {t : Symbol}
    (hq : p.setBase? s base = some q) (h : t ∈ q.symbols) : t ∈ p.symbols ∨ base = some t := by
  obtain ⟨-, rfl⟩ := setBase?_eq_some_iff.mp hq
  rcases mem_symbols_update h with h | ⟨r, hr, ht⟩
  · exact .inl h
  · rcases TypeRecord.mem_symbols.mp ht with rfl | ht | ht
    · exact .inl (symbol_mem_symbols (r := r) hr)
    · exact .inr ht
    · exact .inl (mem_symbols.mpr (.inl ⟨r, hr, TypeRecord.mem_symbols.mpr (.inr (.inr ht))⟩))

theorem mem_symbols_setAttributes? {p q : Program} {s : Symbol} {attributes : List Attribute} {t : Symbol}
    (hq : p.setAttributes? s attributes = some q) (h : t ∈ q.symbols) :
    t ∈ p.symbols ∨ ∃ a ∈ attributes, t ∈ a.symbols := by
  obtain ⟨-, rfl⟩ := setAttributes?_eq_some_iff.mp hq
  rcases mem_symbols_update h with h | ⟨r, hr, ht⟩
  · exact .inl h
  · rcases TypeRecord.mem_symbols.mp ht with rfl | ht | ht
    · exact .inl (symbol_mem_symbols (r := r) hr)
    · exact .inl (mem_symbols.mpr (.inl ⟨r, hr, TypeRecord.mem_symbols.mpr (.inr (.inl ht))⟩))
    · exact .inr ht

theorem bindings_setBase? {p q : Program} {s : Symbol} {base : Option Symbol} (hq : p.setBase? s base = some q) :
    q.bindings = p.bindings := by
  obtain ⟨-, rfl⟩ := setBase?_eq_some_iff.mp hq
  rfl

theorem bindings_setAttributes? {p q : Program} {s : Symbol} {attributes : List Attribute}
    (hq : p.setAttributes? s attributes = some q) : q.bindings = p.bindings := by
  obtain ⟨-, rfl⟩ := setAttributes?_eq_some_iff.mp hq
  rfl

end Program

end Rollcall
