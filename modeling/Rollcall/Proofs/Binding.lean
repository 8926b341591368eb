import Rollcall.Program.Binding
import Rollcall.Proofs.Lists
import Rollcall.Proofs.Programs

/-!
# The symbol graph after binding

`Program.bind` groups declarations by full name, makes a symbol for every group that is not ambiguous, binds the bases
and attributes of the groups once all of these symbols are known, and adds the sites.

* The new symbols are numbered in order, so they differ from each other and from what the program had
  (`pairwise_serial_newTypes`, `nextSymbol_le_of_mem_newTypes`).
* After binding, a full name stands for its new symbol, else for what it stood for before (`resolve?_bind`).
* Bases and attributes can be read as bound in the finished program (`base?_congr`, `attributes_congr`).
-/

namespace Rollcall

/-- Whether a full name is declared once or only by parts of one type. -/
def Declaration.Unambiguous (declarations : List Declaration) (fullName : String) : Prop :=
  declarations.countP (·.fullName == fullName) = 1 ∨
    ∀ d ∈ declarations, d.fullName = fullName → d.isPartial = true

/-! ### Groups -/

namespace TypeGroup

theorem mem_ofDeclarations {declarations : List Declaration} {g : TypeGroup} :
    g ∈ ofDeclarations declarations ↔
      (∃ d ∈ declarations, d.fullName = g.fullName) ∧
        g.parts = declarations.filter fun d => d.fullName == g.fullName := by
  unfold ofDeclarations
  simp only [List.mem_map, List.mem_eraseDups]
  constructor
  · rintro ⟨fullName, ⟨d, hd, rfl⟩, rfl⟩
    exact ⟨⟨d, hd, rfl⟩, rfl⟩
  · rintro ⟨⟨d, hd, h⟩, hg⟩
    refine ⟨g.fullName, ⟨d, hd, h⟩, ?_⟩
    rw [← hg]

/-- Groups have different full names. -/
private theorem pairwise_fullName_ofDeclarations (declarations : List Declaration) :
    (ofDeclarations declarations).Pairwise fun g h => g.fullName ≠ h.fullName :=
  List.Pairwise.map _ (fun _ _ h => h) (nodup_eraseDups _)

private theorem isConsistent_iff {declarations : List Declaration} {g : TypeGroup}
    (hg : g ∈ ofDeclarations declarations) :
    g.isConsistent = true ↔ Declaration.Unambiguous declarations g.fullName := by
  obtain ⟨⟨d, hd, hdn⟩, hparts⟩ := mem_ofDeclarations.mp hg
  have hpos : 0 < declarations.countP (·.fullName == g.fullName) :=
    List.countP_pos_iff.mpr ⟨d, hd, by simpa using hdn⟩
  unfold isConsistent Declaration.Unambiguous
  rw [Bool.or_eq_true, decide_eq_true_iff, List.all_eq_true, hparts, ← List.countP_eq_length_filter]
  simp only [List.mem_filter, beq_iff_eq, and_imp]
  refine or_congr ?_ Iff.rfl
  omega

end TypeGroup

namespace Program

/-! ### New symbols -/

theorem mem_symbolsFrom {next : Nat} {groups : List TypeGroup} {g : TypeGroup} {s : Symbol}
    (h : (g, s) ∈ symbolsFrom next groups) :
    g ∈ groups ∧ g.isConsistent = true ∧ s = g.symbol s.serial ∧ next ≤ s.serial := by
  induction groups generalizing next with
  | nil => exact absurd h List.not_mem_nil
  | cons k groups ih =>
    unfold symbolsFrom at h
    split at h
    · next hk =>
      rcases List.mem_cons.mp h with h | h
      · obtain ⟨rfl, rfl⟩ := Prod.mk.inj h
        exact ⟨by simp, hk, rfl, Nat.le_refl _⟩
      · obtain ⟨hm, hc, hs, hn⟩ := ih h
        exact ⟨List.mem_cons_of_mem _ hm, hc, hs, by omega⟩
    · obtain ⟨hm, hc, hs, hn⟩ := ih h
      exact ⟨List.mem_cons_of_mem _ hm, hc, hs, hn⟩

private theorem exists_mem_symbolsFrom {groups : List TypeGroup} {g : TypeGroup} (hg : g ∈ groups)
    (hc : g.isConsistent = true) (next : Nat) : ∃ s, (g, s) ∈ symbolsFrom next groups := by
  induction groups generalizing next with
  | nil => exact absurd hg List.not_mem_nil
  | cons k groups ih =>
    unfold symbolsFrom
    rcases List.mem_cons.mp hg with rfl | hg
    · exact ⟨g.symbol next, by simp [hc]⟩
    · split
      · obtain ⟨s, hs⟩ := ih hg (next + 1)
        exact ⟨s, List.mem_cons_of_mem _ hs⟩
      · exact ih hg next

private theorem pairwise_symbolsFrom {next : Nat} {groups : List TypeGroup}
    (hg : groups.Pairwise fun g h => g.fullName ≠ h.fullName) :
    (symbolsFrom next groups).Pairwise fun a b => a.1.fullName ≠ b.1.fullName ∧ a.2.serial < b.2.serial := by
  induction groups generalizing next with
  | nil => exact .nil
  | cons k groups ih =>
    rw [List.pairwise_cons] at hg
    unfold symbolsFrom
    split
    · rw [List.pairwise_cons]
      refine ⟨?_, ih hg.2⟩
      rintro ⟨g, s⟩ hm
      obtain ⟨hgm, -, -, hs⟩ := mem_symbolsFrom hm
      exact ⟨hg.1 g hgm, Nat.lt_of_succ_le hs⟩
    · exact ih hg.2

variable {p : Program} {declarations : List Declaration} {g : TypeGroup} {s : Symbol}

/-- The new types have different full names, and their symbols have increasing serial numbers. -/
private theorem pairwise_newTypes (p : Program) (declarations : List Declaration) :
    (p.newTypes declarations).Pairwise fun a b => a.1.fullName ≠ b.1.fullName ∧ a.2.serial < b.2.serial :=
  pairwise_symbolsFrom (TypeGroup.pairwise_fullName_ofDeclarations declarations)

private theorem pairwise_fullName_newTypes (p : Program) (declarations : List Declaration) :
    (p.newTypes declarations).Pairwise fun a b => a.1.fullName ≠ b.1.fullName :=
  (pairwise_newTypes p declarations).imp fun h => h.1

theorem pairwise_serial_newTypes (p : Program) (declarations : List Declaration) :
    (p.newTypes declarations).Pairwise fun a b => a.2.serial ≠ b.2.serial :=
  (pairwise_newTypes p declarations).imp fun h => Nat.ne_of_lt h.2

theorem nextSymbol_le_of_mem_newTypes (h : (g, s) ∈ p.newTypes declarations) : p.nextSymbol ≤ s.serial :=
  (mem_symbolsFrom h).2.2.2

theorem fullName_of_mem_newTypes (h : (g, s) ∈ p.newTypes declarations) : s.fullName = g.fullName := by
  rw [(mem_symbolsFrom h).2.2.1]
  rfl

theorem parts_of_mem_newTypes (h : (g, s) ∈ p.newTypes declarations) :
    g.parts = declarations.filter fun d => d.fullName == s.fullName := by
  rw [fullName_of_mem_newTypes h]
  exact (TypeGroup.mem_ofDeclarations.mp (mem_symbolsFrom h).1).2

/-- The symbol of a full name among the new types. -/
theorem symbolNamed?_newTypes {fullName : String} :
    symbolNamed? (p.newTypes declarations) fullName = some s ↔
      ∃ g, (g, s) ∈ p.newTypes declarations ∧ g.fullName = fullName := by
  unfold symbolNamed?
  constructor
  · intro h
    obtain ⟨⟨g, t⟩, hf, rfl⟩ := Option.map_eq_some_iff.mp h
    exact ⟨g, List.mem_of_find?_eq_some hf, by simpa using List.find?_some hf⟩
  · rintro ⟨g, hm, rfl⟩
    have hf : (p.newTypes declarations).find? (fun x => x.1.fullName == g.fullName) = some (g, s) := by
      refine find?_eq_some_of_unique hm (by simp) ?_
      intro x hx hname
      exact eq_of_key_eq (pairwise_fullName_newTypes p declarations) hx hm (by simpa using hname)
    exact Option.map_eq_some_iff.mpr ⟨(g, s), hf, rfl⟩

/-- A declared full name has a new symbol exactly when it is not ambiguous. -/
theorem isSome_symbolNamed?_iff {d : Declaration} (hd : d ∈ declarations) :
    (symbolNamed? (p.newTypes declarations) d.fullName).isSome ↔
      Declaration.Unambiguous declarations d.fullName := by
  let g : TypeGroup := ⟨d.fullName, declarations.filter fun e => e.fullName == d.fullName⟩
  have hg : g ∈ TypeGroup.ofDeclarations declarations :=
    TypeGroup.mem_ofDeclarations.mpr ⟨⟨d, hd, rfl⟩, rfl⟩
  have hiff := TypeGroup.isConsistent_iff hg
  constructor
  · intro h
    obtain ⟨s, hs⟩ := Option.isSome_iff_exists.mp h
    obtain ⟨k, hk, hn⟩ := symbolNamed?_newTypes.mp hs
    obtain ⟨hkm, hkc, -, -⟩ := mem_symbolsFrom hk
    have := (TypeGroup.isConsistent_iff hkm).mp hkc
    rwa [hn] at this
  · intro h
    obtain ⟨s, hs⟩ := exists_mem_symbolsFrom hg (hiff.mpr h) p.nextSymbol
    rw [symbolNamed?_newTypes.mpr ⟨g, hs, rfl⟩]
    rfl

/-! ### Records and names after binding -/

private theorem foldl_add {α : Type} (record : α → TypeRecord) (l : List α) (p : Program) :
    l.foldl (fun p a => p.add (record a)) p = { p with records := p.records ++ l.map record } := by
  induction l generalizing p with
  | nil => simp
  | cons a l ih =>
    rw [List.foldl_cons, ih]
    simp [add]

private theorem foldl_addSite {α : Type} (site : α → Site) (symbol : α → Option Symbol) (l : List α) (p : Program) :
    l.foldl (fun p a => p.addSite (site a) (symbol a)) p =
      { p with bindings := p.bindings ++ l.map fun a => (site a, symbol a) } := by
  induction l generalizing p with
  | nil => simp
  | cons a l ih =>
    rw [List.foldl_cons, ih]
    simp [addSite]

private theorem resolveIn?_congr {p q : Program} (h : p.resolve? = q.resolve?) : p.resolveIn? = q.resolveIn? := by
  funext scope written
  unfold resolveIn?
  rw [h]

private theorem bindAttribute_congr {p q : Program} (h : p.resolve? = q.resolve?) :
    p.bindAttribute = q.bindAttribute := by
  have hr := resolveIn?_congr h
  have ha : p.resolveAttributeIn? = q.resolveAttributeIn? := by
    funext scope written
    unfold resolveAttributeIn?
    rw [hr]
  have hb : p.bindArgument = q.bindArgument := by
    funext scope argument
    cases argument with
    | typeof operand =>
      unfold bindArgument resolveOperandIn?
      rw [hr]
    | constant value => rfl
    | unevaluated => rfl
  funext scope written
  unfold bindAttribute
  rw [ha, hb]

/-- The base of a group depends on what names stand for only. -/
theorem base?_congr {p q : Program} (h : p.resolve? = q.resolve?) (g : TypeGroup) : g.base? p = g.base? q := by
  unfold TypeGroup.base? TypeGroup.baseOfPart?
  rw [resolveIn?_congr h]

/-- The attributes of a group depend on what names stand for only. -/
theorem attributes_congr {p q : Program} (h : p.resolve? = q.resolve?) (g : TypeGroup) :
    g.attributes p = g.attributes q := by
  unfold TypeGroup.attributes
  rw [bindAttribute_congr h]

private theorem declareTypes_eq (p : Program) (types : List (TypeGroup × Symbol)) :
    p.declareTypes types = { p with records := p.records ++ types.map fun x => ⟨x.2, none, [], true⟩ } :=
  foldl_add (fun x : TypeGroup × Symbol => ⟨x.2, none, [], true⟩) types p

private theorem bindTypes_eq (p : Program) (types : List (TypeGroup × Symbol)) :
    p.bindTypes types =
      { p with records := p.records ++ types.map fun x =>
          ⟨x.2, x.1.base? (p.declareTypes types), x.1.attributes (p.declareTypes types), true⟩ } :=
  foldl_add (fun x : TypeGroup × Symbol =>
    ⟨x.2, x.1.base? (p.declareTypes types), x.1.attributes (p.declareTypes types), true⟩) types p

private theorem bindSites_eq (p : Program) (types : List (TypeGroup × Symbol)) (declarations : List Declaration) :
    p.bindSites types declarations =
      { p with bindings := p.bindings ++ (declarations.zipIdx p.nextSite).map fun x =>
          (siteOf x.2 x.1, symbolNamed? types x.1.fullName) } :=
  foldl_addSite (fun x : Declaration × Nat => siteOf x.2 x.1) (fun x => symbolNamed? types x.1.fullName) _ p

/-- All names of the finished program stand for what they stood for when bases and attributes were bound. -/
private theorem resolve?_declareTypes (p : Program) (declarations : List Declaration) :
    (p.declareTypes (p.newTypes declarations)).resolve? = (p.bind declarations).1.resolve? := by
  apply resolve?_congr
  simp [bind, bindSites_eq, bindTypes_eq, declareTypes_eq]

/-- The records after binding: each new type has its base and attributes as bound in the finished program. -/
theorem records_bind (p : Program) (declarations : List Declaration) :
    (p.bind declarations).1.records = p.records ++ (p.newTypes declarations).map fun x =>
      ⟨x.2, x.1.base? (p.bind declarations).1, x.1.attributes (p.bind declarations).1, true⟩ := by
  have hb := fun g => base?_congr (resolve?_declareTypes p declarations) g
  have ha := fun g => attributes_congr (resolve?_declareTypes p declarations) g
  simp only [← hb, ← ha]
  simp [bind, bindSites_eq, bindTypes_eq]

theorem assembly_bind (p : Program) (declarations : List Declaration) :
    (p.bind declarations).1.assembly = p.assembly := by
  simp [bind, bindSites_eq, bindTypes_eq]

/-- After binding, a full name stands for its new symbol, else for what it stood for before. -/
theorem resolve?_bind (p : Program) (declarations : List Declaration) (fullName : String) :
    (p.bind declarations).1.resolve? fullName =
      (symbolNamed? (p.newTypes declarations) fullName).or (p.resolve? fullName) := by
  rw [resolve?_eq_find?, resolve?_eq_find?, records_bind]
  -- the search starts from the last record, so it comes to the new symbols first
  have hnew : ((p.newTypes declarations).map (·.2)).reverse.find? (·.fullName == fullName) =
      symbolNamed? (p.newTypes declarations) fullName := by
    cases hs : symbolNamed? (p.newTypes declarations) fullName with
    | some s =>
      obtain ⟨g, hm, rfl⟩ := symbolNamed?_newTypes.mp hs
      refine find?_eq_some_of_unique ?_ (by simp [fullName_of_mem_newTypes hm]) ?_
      · simp only [List.mem_reverse, List.mem_map]
        exact ⟨(g, s), hm, rfl⟩
      · intro t ht hname
        simp only [List.mem_reverse, List.mem_map] at ht
        obtain ⟨⟨k, t⟩, hk, rfl⟩ := ht
        have hkg : k.fullName = g.fullName := by
          rw [← fullName_of_mem_newTypes hk]
          simpa using hname
        have := eq_of_key_eq (pairwise_fullName_newTypes p declarations) hk hm hkg
        exact (Prod.mk.inj this).2
    | none =>
      rw [List.find?_eq_none]
      intro t ht hname
      simp only [List.mem_reverse, List.mem_map] at ht
      obtain ⟨⟨k, t⟩, hk, rfl⟩ := ht
      have hkn : k.fullName = fullName := by
        rw [← fullName_of_mem_newTypes hk]
        simpa using hname
      rw [symbolNamed?_newTypes.mpr ⟨k, hk, hkn⟩] at hs
      exact absurd hs (by simp)
  rw [List.map_append, List.reverse_append, List.find?_append, List.map_map]
  exact congrArg (Option.or · _) hnew

/-! ### What written names are bound to -/

/-- A written name stands for a current entry. -/
private theorem resolve?_of_resolveIn? {scope : Scope} {written : String} (h : p.resolveIn? scope written = some s) :
    p.resolve? s.fullName = some s := by
  unfold resolveIn? at h
  simp only at h
  split at h
  · exact absurd h (by simp)
  · split at h
    · exact resolve?_fullName h
    · obtain ⟨candidate, -, hc⟩ := List.exists_of_findSome?_eq_some h
      exact resolve?_fullName hc

private theorem resolve?_of_resolveAttributeIn? {scope : Scope} {written : String}
    (h : p.resolveAttributeIn? scope written = some s) : p.resolve? s.fullName = some s := by
  unfold resolveAttributeIn? at h
  simp only at h
  split at h
  · exact resolve?_of_resolveIn? h
  · rw [Option.orElse_eq_orElse, Option.orElse_eq_or, Option.or_eq_some_iff] at h
    rcases h with h | ⟨-, h⟩
    · exact resolve?_of_resolveIn? h
    · exact resolve?_of_resolveIn? h

theorem type_bindAttribute (p : Program) (scope : Scope) (written : WrittenAttribute) :
    (p.bindAttribute scope written).type = (p.resolveAttributeIn? scope written.name).map (·.fullName) := by
  simp only [bindAttribute]

private theorem isSome_resolve?_of_type_bindAttribute {scope : Scope} {written : WrittenAttribute} {fullName : String}
    (h : (p.bindAttribute scope written).type = some fullName) : (p.resolve? fullName).isSome = true := by
  rw [type_bindAttribute] at h
  obtain ⟨t, ht, rfl⟩ := Option.map_eq_some_iff.mp h
  rw [resolve?_of_resolveAttributeIn? ht]
  rfl

private theorem resolve?_of_bindArgument {scope : Scope} {argument : WrittenArgument}
    (h : p.bindArgument scope argument = .type s) : p.resolve? s.fullName = some s := by
  cases argument with
  | typeof operand =>
    unfold bindArgument resolveOperandIn? at h
    simp only at h
    split at h
    · next t ht =>
      cases h
      split at ht
      · exact absurd ht (by simp)
      · exact resolve?_of_resolveIn? ht
    · exact absurd h (by simp)
  | constant value => exact absurd h (by simp [bindArgument])
  | unevaluated => exact absurd h (by simp [bindArgument])

/-- The types that a bound attribute mentions are current entries. -/
theorem resolve?_of_mem_bindAttribute {scope : Scope} {written : WrittenAttribute}
    (h : .type s ∈ (p.bindAttribute scope written).arguments) : p.resolve? s.fullName = some s := by
  simp only [bindAttribute] at h
  obtain ⟨argument, -, ha⟩ := List.mem_map.mp h
  exact resolve?_of_bindArgument ha

theorem base?_current {b : Symbol} (h : g.base? p = some b) :
    p.resolve? b.fullName = some b ∧ b.kind ≠ .interfaceType := by
  obtain ⟨part, -, hpart⟩ := List.exists_of_findSome?_eq_some h
  obtain ⟨written, -, hw⟩ := List.exists_of_findSome?_eq_some hpart
  obtain ⟨hr, hk⟩ := Option.filter_eq_some_iff.mp hw
  exact ⟨resolve?_of_resolveIn? hr, by simpa using hk⟩

/-! ### The new types after binding -/

/-- The record of a new symbol is its own: no record of the program or of another new type has its serial number. -/
theorem record?_bind (h : (g, s) ∈ p.newTypes declarations) :
    (p.bind declarations).1.record? s =
      some ⟨s, g.base? (p.bind declarations).1, g.attributes (p.bind declarations).1, true⟩ := by
  unfold record?
  rw [records_bind]
  refine find?_eq_some_of_unique ?_ (Symbol.same_iff.mpr rfl) ?_
  · exact List.mem_append_right _ (List.mem_map.mpr ⟨(g, s), h, rfl⟩)
  · intro r hr hsame
    have hserial := Symbol.same_iff.mp hsame
    rcases List.mem_append.mp hr with hold | hnew
    · have := serial_lt_nextSymbol (symbol_mem_symbols hold)
      have := nextSymbol_le_of_mem_newTypes h
      omega
    · obtain ⟨x, hx, rfl⟩ := List.mem_map.mp hnew
      rw [eq_of_key_eq (pairwise_serial_newTypes p declarations) hx h hserial]

theorem baseOf?_bind (h : (g, s) ∈ p.newTypes declarations) :
    (p.bind declarations).1.baseOf? s = g.base? (p.bind declarations).1 := by
  unfold baseOf?
  rw [record?_bind h]
  rfl

theorem attributesOf_bind (h : (g, s) ∈ p.newTypes declarations) :
    (p.bind declarations).1.attributesOf s = (declarations.filter fun d => d.fullName == s.fullName).flatMap
      fun part => part.attributes.map ((p.bind declarations).1.bindAttribute part.scope) := by
  unfold attributesOf
  rw [record?_bind h, ← parts_of_mem_newTypes h]
  rfl

/-- In a program that held external types only, the declared symbols are the new ones. -/
theorem exists_newType_of_isDeclared (hp : ∀ r ∈ p.records, r.isDeclared = false) {r : TypeRecord}
    (hr : r ∈ (p.bind declarations).1.records) (hd : r.isDeclared = true) :
    ∃ g, (g, r.symbol) ∈ p.newTypes declarations := by
  rw [records_bind] at hr
  rcases List.mem_append.mp hr with hold | hnew
  · rw [hp r hold] at hd
    exact absurd hd (by simp)
  · obtain ⟨⟨g, s⟩, hx, rfl⟩ := List.mem_map.mp hnew
    exact ⟨g, hx⟩

/-- Only a new type has the symbol of a new type. -/
private theorem isDeclared_of_mem_newTypes {r : TypeRecord} (hr : r ∈ (p.bind declarations).1.records)
    (h : (g, r.symbol) ∈ p.newTypes declarations) : r.isDeclared = true := by
  rw [records_bind] at hr
  rcases List.mem_append.mp hr with hold | hnew
  · have := serial_lt_nextSymbol (symbol_mem_symbols hold)
    have := nextSymbol_le_of_mem_newTypes h
    omega
  · obtain ⟨x, -, rfl⟩ := List.mem_map.mp hnew
    rfl

/-- A new type is declared under its full name. -/
theorem lookup?_of_mem_newTypes (h : (g, s) ∈ p.newTypes declarations) :
    (p.bind declarations).1.lookup? s.fullName = some s := by
  have hresolve : (p.bind declarations).1.resolve? s.fullName = some s := by
    rw [resolve?_bind, symbolNamed?_newTypes.mpr ⟨g, h, (fullName_of_mem_newTypes h).symm⟩]
    rfl
  obtain ⟨r, hlatest, rfl⟩ := Option.map_eq_some_iff.mp hresolve
  have hr : r ∈ (p.bind declarations).1.records := List.mem_reverse.mp (List.mem_of_find?_eq_some hlatest)
  simp [lookup?, hlatest, Option.filter, isDeclared_of_mem_newTypes hr h]

/-! ### Sites after binding -/

private theorem bindings_bind (p : Program) (declarations : List Declaration) :
    (p.bind declarations).1.bindings = p.bindings ++ (declarations.zipIdx p.nextSite).map fun x =>
      (siteOf x.2 x.1, symbolNamed? (p.newTypes declarations) x.1.fullName) := by
  have hn : (p.bindTypes (p.newTypes declarations)).nextSite = p.nextSite := by
    rw [bindTypes_eq]
    rfl
  have hb : (p.bindTypes (p.newTypes declarations)).bindings = p.bindings := by rw [bindTypes_eq]
  change ((p.bindTypes (p.newTypes declarations)).bindSites _ declarations).bindings = _
  rw [bindSites_eq, hn, hb]

theorem sites_bind (p : Program) (declarations : List Declaration) :
    (p.bind declarations).1.sites = p.sites ++ (declarations.zipIdx p.nextSite).map fun x => siteOf x.2 x.1 := by
  unfold sites
  rw [bindings_bind, List.map_append, List.map_map]
  rfl

theorem getElem?_sites_bind {i : Nat} {d : Declaration} (h : declarations[i]? = some d) :
    (p.bind declarations).1.sites[p.sites.length + i]? = some (siteOf (p.nextSite + i) d) := by
  rw [sites_bind, List.getElem?_append_right (by omega)]
  simp [List.getElem?_zipIdx, h]

/-- The site of a declaration is bound to the new symbol of its full name, if there is one. -/
theorem symbolOf?_bind {i : Nat} {d : Declaration} (h : declarations[i]? = some d) :
    (p.bind declarations).1.symbolOf? (siteOf (p.nextSite + i) d) =
      symbolNamed? (p.newTypes declarations) d.fullName := by
  unfold symbolOf?
  rw [bindings_bind]
  have hf : (p.bindings ++ (declarations.zipIdx p.nextSite).map fun x =>
      (siteOf x.2 x.1, symbolNamed? (p.newTypes declarations) x.1.fullName)).reverse.find?
        (fun b => b.1.serial == (siteOf (p.nextSite + i) d).serial) =
      some (siteOf (p.nextSite + i) d, symbolNamed? (p.newTypes declarations) d.fullName) := by
    refine find?_eq_some_of_unique ?_ (by simp) ?_
    · rw [List.mem_reverse]
      refine List.mem_append_right _ (List.mem_map.mpr ⟨(d, p.nextSite + i), ?_, rfl⟩)
      exact List.mk_add_mem_zipIdx_iff_getElem?.mpr h
    · intro b hb hserial
      have hserial : b.1.serial = p.nextSite + i := by simpa [siteOf] using hserial
      rcases List.mem_append.mp (List.mem_reverse.mp hb) with hold | hnew
      · have := serial_lt_nextSite (List.mem_map.mpr ⟨b, hold, rfl⟩ : b.1 ∈ p.sites)
        omega
      · obtain ⟨⟨e, k⟩, hk, rfl⟩ := List.mem_map.mp hnew
        have hk' : k = p.nextSite + i := hserial
        subst hk'
        rw [List.mk_add_mem_zipIdx_iff_getElem?, h] at hk
        cases hk
        rfl
  rw [hf]
  rfl

/-! ### The graph as a whole -/

/-- Whether a symbol is that of a declared type. -/
def Declares (p : Program) (s : Symbol) : Prop :=
  ∃ r ∈ p.records, r.isDeclared = true ∧ r.symbol = s

instance (p : Program) (s : Symbol) : Decidable (p.Declares s) :=
  inferInstanceAs (Decidable (∃ r ∈ p.records, _))

/-- The graph `q` that declarations make of the types of `p`.  The site of the `i`-th declaration stands behind those of
`p`, in the order of the declarations. -/
structure IsGraphOf (p : Program) (declarations : List Declaration) (q : Program) : Prop where
  /-- The types of `p` are kept as they are. -/
  keeps : p.records <+: q.records
  hasSites : q.sites.length = p.sites.length + declarations.length
  /-- A site has a symbol exactly when the full name of its declaration is not ambiguous. -/
  resolves : ∀ {i d site}, declarations[i]? = some d → q.sites[p.sites.length + i]? = some site →
    ((q.symbolOf? site).isSome = true ↔ Declaration.Unambiguous declarations d.fullName)
  /-- The symbol of a site is that of a type declared under the full name of its declaration. -/
  declares : ∀ {i d site s}, declarations[i]? = some d → q.sites[p.sites.length + i]? = some site →
    q.symbolOf? site = some s → q.Declares s ∧ s.fullName = d.fullName ∧ q.lookup? d.fullName = some s
  /-- Two sites have the same symbol exactly when their declarations have the same full name. -/
  sameSymbol : ∀ {i j d e x y s t}, declarations[i]? = some d → declarations[j]? = some e →
    q.sites[p.sites.length + i]? = some x → q.sites[p.sites.length + j]? = some y →
    q.symbolOf? x = some s → q.symbolOf? y = some t →
    (s = t ↔ d.fullName = e.fullName) ∧ (s.same t = true ↔ d.fullName = e.fullName)
  /-- The base of a type is the first that one of its parts gives. -/
  base : ∀ {s}, q.Declares s → q.baseOf? s = (declarations.filter fun d => d.fullName == s.fullName).findSome?
    (TypeGroup.baseOfPart? q)
  /-- The bases of declared types are current entries. -/
  currentBase : ∀ {s b}, q.Declares s → q.baseOf? s = some b → q.resolve? b.fullName = some b
  /-- The types that the attributes of declared types mention are current entries. -/
  currentArgument : ∀ {s a t}, q.Declares s → a ∈ q.attributesOf s → .type t ∈ a.arguments →
    q.resolve? t.fullName = some t
  noInterface : ∀ {s b}, q.Declares s → q.baseOf? s = some b → b.kind ≠ .interfaceType
  /-- The attribute types are names of known types. -/
  knownAttribute : ∀ {s a fullName}, q.Declares s → a ∈ q.attributesOf s → a.type = some fullName →
    (q.resolve? fullName).isSome = true
  /-- The attributes of a type are those of its parts in order, each bound in the scope of its part. -/
  attributes : ∀ {s}, q.Declares s → q.attributesOf s = (declarations.filter fun d => d.fullName == s.fullName).flatMap
    fun part => part.attributes.map (q.bindAttribute part.scope)

private theorem symbolNamed?_eq_iff {fullName fullName' : String} {s t : Symbol}
    (hs : symbolNamed? (p.newTypes declarations) fullName = some s)
    (ht : symbolNamed? (p.newTypes declarations) fullName' = some t) :
    (s = t ↔ fullName = fullName') ∧ (s.same t = true ↔ fullName = fullName') := by
  have hsame : s.same t = true → fullName = fullName' := by
    intro h
    obtain ⟨g, hg, rfl⟩ := symbolNamed?_newTypes.mp hs
    obtain ⟨k, hk, rfl⟩ := symbolNamed?_newTypes.mp ht
    have := eq_of_key_eq (pairwise_serial_newTypes p declarations) hg hk (Symbol.same_iff.mp h)
    rw [(Prod.mk.inj this).1]
  have heq : fullName = fullName' → s = t := by
    rintro rfl
    exact Option.some.inj (hs.symm.trans ht)
  exact ⟨⟨fun h => hsame (Symbol.same_iff.mpr (by rw [h])), heq⟩,
    ⟨hsame, fun h => Symbol.same_iff.mpr (by rw [heq h])⟩⟩

/-- Every attribute of a new type comes from a part and is bound in its scope. -/
theorem mem_attributesOf_bind {a : Attribute} (h : (g, s) ∈ p.newTypes declarations) :
    a ∈ (p.bind declarations).1.attributesOf s ↔ ∃ part ∈ declarations, part.fullName = s.fullName ∧
      ∃ written ∈ part.attributes, (p.bind declarations).1.bindAttribute part.scope written = a := by
  rw [attributesOf_bind h]
  simp only [List.mem_flatMap, List.mem_map, List.mem_filter, beq_iff_eq, and_assoc]

/-- Binding declarations in a program that holds external types only gives their graph. -/
theorem bind_isGraphOf (p : Program) (declarations : List Declaration)
    (hp : ∀ r ∈ p.records, r.isDeclared = false) :
    IsGraphOf p declarations (p.bind declarations).1 := by
  have hnew : ∀ {s}, (p.bind declarations).1.Declares s → ∃ g, (g, s) ∈ p.newTypes declarations := by
    rintro s ⟨r, hr, hd, rfl⟩
    exact exists_newType_of_isDeclared hp hr hd
  have hsite : ∀ {i d site}, declarations[i]? = some d →
      (p.bind declarations).1.sites[p.sites.length + i]? = some site →
      (p.bind declarations).1.symbolOf? site = symbolNamed? (p.newTypes declarations) d.fullName := by
    intro i d site hd hsite
    rw [getElem?_sites_bind hd] at hsite
    rw [← Option.some.inj hsite, symbolOf?_bind hd]
  constructor
  case keeps => exact ⟨_, (records_bind p declarations).symm⟩
  case hasSites => simp [sites_bind]
  case resolves =>
    intro i d site hd hs
    rw [hsite hd hs]
    exact isSome_symbolNamed?_iff (List.mem_of_getElem? hd)
  case declares =>
    intro i d site s hd hs hsymbol
    rw [hsite hd hs] at hsymbol
    obtain ⟨g, hg, hname⟩ := symbolNamed?_newTypes.mp hsymbol
    have hfullName : s.fullName = d.fullName := (fullName_of_mem_newTypes hg).trans hname
    exact ⟨⟨_, List.mem_of_find?_eq_some (record?_bind hg), rfl, rfl⟩, hfullName,
      hfullName ▸ lookup?_of_mem_newTypes hg⟩
  case sameSymbol =>
    intro i j d e x y s t hd he hx hy hs ht
    rw [hsite hd hx] at hs
    rw [hsite he hy] at ht
    exact symbolNamed?_eq_iff hs ht
  case base =>
    intro s hs
    obtain ⟨g, hg⟩ := hnew hs
    rw [baseOf?_bind hg, TypeGroup.base?, parts_of_mem_newTypes hg]
  case currentBase =>
    intro s b hs hb
    obtain ⟨g, hg⟩ := hnew hs
    rw [baseOf?_bind hg] at hb
    exact (base?_current hb).1
  case currentArgument =>
    intro s a t hs ha ht
    obtain ⟨g, hg⟩ := hnew hs
    obtain ⟨part, -, -, written, -, rfl⟩ := (mem_attributesOf_bind hg).mp ha
    exact resolve?_of_mem_bindAttribute ht
  case noInterface =>
    intro s b hs hb
    obtain ⟨g, hg⟩ := hnew hs
    rw [baseOf?_bind hg] at hb
    exact (base?_current hb).2
  case knownAttribute =>
    intro s a fullName hs ha ht
    obtain ⟨g, hg⟩ := hnew hs
    obtain ⟨part, -, -, written, -, rfl⟩ := (mem_attributesOf_bind hg).mp ha
    exact isSome_resolve?_of_type_bindAttribute ht
  case attributes =>
    intro s hs
    obtain ⟨g, hg⟩ := hnew hs
    exact attributesOf_bind hg

/-- A type in two parts, one of them on a base that another declaration replaces, beside an ambiguous full name. -/
theorem bind_isGraphOf_replaced :
    let p := (empty "App").addExternal ⟨0, "Core.Shape", .classType, none⟩ none
    let scope : Scope := ⟨"App", [], ["Core"], .empty⟩
    let shape : Declaration := ⟨.classType, "Shape", "Core.Shape", false, [], [], .empty, false, default⟩
    let first : Declaration := ⟨.classType, "Box", "App.Box", true, [], [⟨"Shape", [.typeof "Box"]⟩], scope, false,
      default⟩
    let second : Declaration := ⟨.classType, "Box", "App.Box", true, ["Shape"], [⟨"Mark", []⟩], scope, false, default⟩
    let twice : Declaration := ⟨.recordType, "Tag", "App.Tag", false, [], [], scope, false, default⟩
    let q := (p.bind [first, twice, shape, second, twice]).1
    let box : Symbol := ⟨1, "App.Box", .classType, some default⟩
    let base : Symbol := ⟨2, "Core.Shape", .classType, some default⟩
    ((∀ r ∈ p.records, r.isDeclared = false) ∧ IsGraphOf p [first, twice, shape, second, twice] q) ∧
      q.sites.map q.symbolOf? = [some box, none, some base, some box, none] ∧ q.Declares box ∧ q.Declares base ∧
      q.baseOf? box = some base ∧ q.attributesOf box = [⟨some "Core.Shape", [.type box]⟩, ⟨none, []⟩] :=
  ⟨⟨by decide, bind_isGraphOf _ _ (by decide)⟩, by decide +kernel, by decide +kernel, by decide +kernel,
    by decide +kernel, by decide +kernel⟩

end Program

end Rollcall
