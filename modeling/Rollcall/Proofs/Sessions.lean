import Rollcall.Proofs.Analyses
import Rollcall.Session

/-!
# Histories of programs

A session keeps every symbol and every site that its commands have made.  `Session.Effect` says what a command can do to the
programs, symbols and sites of a session, and `effect_step` that it does nothing else.  From this follows the
invariant `Session.Sound` of all sessions that commands lead to (`sound_after`): symbols and sites are numbered in the
order in which they were made, and programs mention no others.  So two symbols, or two sites, with one serial number
are one and the same.
-/

namespace Rollcall

namespace Session

/-- The session after commands that are carried out in order, from the one in which nothing has been made. -/
def after (commands : List Command) : Session :=
  commands.foldl (fun s command => (s.step command).session) empty

/-! ### What a command can do -/

/-- What a command does to the programs, symbols and sites of a session. -/
inductive Effect (s : Session) : Session → Prop
  | idle {s' : Session} (programs : s'.programs = s.programs) (symbols : s'.symbols = s.symbols)
      (sites : s'.sites = s.sites) : Effect s s'
  | newProgram (assembly : String) : Effect s { s with programs := s.programs ++ [Program.empty assembly] }
  | newSymbol (fullName : String) (kind : TypeKind) (location : Option Location) :
      Effect s (s.addSymbol fullName kind location).1
  | newSite (draft : SiteDraft) : Effect s (s.addDraft draft).1
  | addExternal {n : Nat} {p : Program} {base : Option Symbol} (fullName : String) (kind : TypeKind)
      (program : s.programs[n]? = some p) (hbase : ∀ b ∈ base, b ∈ s.symbols) :
      Effect s ((s.addSymbol fullName kind none).1.putProgram n
        (p.addExternal (s.addSymbol fullName kind none).2 base))
  | declare {n : Nat} {p : Program} {base : Option Symbol} {attributes : List Attribute} (fullName : String)
      (kind : TypeKind) (location : Option Location) (program : s.programs[n]? = some p)
      (hbase : ∀ b ∈ base, b ∈ s.symbols) (hattributes : ∀ a ∈ attributes, ∀ t ∈ a.symbols, t ∈ s.symbols) :
      Effect s ((s.addSymbol fullName kind location).1.putProgram n
        (p.declare (s.addSymbol fullName kind location).2 base attributes))
  | setBase {n : Nat} {p q : Program} {symbol : Symbol} {base : Option Symbol} (program : s.programs[n]? = some p)
      (hbase : ∀ b ∈ base, b ∈ s.symbols) (hq : p.setBase? symbol base = some q) : Effect s (s.putProgram n q)
  | setAttributes {n : Nat} {p q : Program} {symbol : Symbol} {attributes : List Attribute}
      (program : s.programs[n]? = some p) (hattributes : ∀ a ∈ attributes, ∀ t ∈ a.symbols, t ∈ s.symbols)
      (hq : p.setAttributes? symbol attributes = some q) : Effect s (s.putProgram n q)
  | addNewSite {n : Nat} {p : Program} {symbol : Option Symbol} (draft : SiteDraft)
      (program : s.programs[n]? = some p) (hsymbol : ∀ t ∈ symbol, t ∈ s.symbols) :
      Effect s ((s.addDraft draft).1.putProgram n (p.addSite (s.addDraft draft).2 symbol))
  | addSite {n : Nat} {p : Program} {site : Site} {symbol : Option Symbol} (program : s.programs[n]? = some p)
      (hsite : site ∈ s.sites) (hsymbol : ∀ t ∈ symbol, t ∈ s.symbols) :
      Effect s (s.putProgram n (p.addSite site symbol))

private theorem mem_symbols_of_optionalSymbol? {s : Session} {n : Option Nat} {symbol : Option Symbol}
    (h : s.optionalSymbol? n = some symbol) : ∀ t ∈ symbol, t ∈ s.symbols := by
  intro t ht
  cases n with
  | none =>
    rw [optionalSymbol?, Option.some.injEq] at h
    rw [← h] at ht
    exact absurd ht (by simp)
  | some n =>
    rw [optionalSymbol?, Option.map_eq_some_iff] at h
    obtain ⟨u, hu, rfl⟩ := h
    rw [← Option.some.inj ht]
    exact List.mem_of_getElem? hu

/-- Every result of a computation that succeeds on a whole list comes from an entry of the list. -/
private theorem exists_of_mem_mapM {α β : Type} {f : α → Option β} {l : List α} {l' : List β} (h : l.mapM f = some l')
    {b : β} (hb : b ∈ l') : ∃ a ∈ l, f a = some b := by
  induction l generalizing l' with
  | nil =>
    rw [List.mapM_nil, Option.pure_def, Option.some.injEq] at h
    rw [← h] at hb
    exact absurd hb List.not_mem_nil
  | cons a l ih =>
    simp only [List.mapM_cons, Option.bind_eq_bind, Option.bind_eq_some_iff, Option.pure_def,
      Option.some.injEq] at h
    obtain ⟨c, hc, cs, hcs, rfl⟩ := h
    rcases List.mem_cons.mp hb with rfl | hb
    · exact ⟨a, List.mem_cons_self .., hc⟩
    · obtain ⟨x, hx, hfx⟩ := ih hcs hb
      exact ⟨x, List.mem_cons_of_mem _ hx, hfx⟩

private theorem mem_symbols_of_attribute? {s : Session} {given : GivenAttribute} {a : Attribute}
    (h : s.attribute? given = some a) : ∀ t ∈ a.symbols, t ∈ s.symbols := by
  intro t ht
  simp only [attribute?, Option.bind_eq_bind, Option.bind_eq_some_iff, Option.pure_def, Option.some.injEq] at h
  obtain ⟨arguments, hargs, rfl⟩ := h
  obtain ⟨argument, harg, hsym⟩ := List.mem_filterMap.mp ht
  obtain ⟨g, -, hg⟩ := exists_of_mem_mapM hargs harg
  cases g with
  | type n =>
    rw [argument?, Option.map_eq_some_iff] at hg
    obtain ⟨u, hu, rfl⟩ := hg
    rw [← Option.some.inj hsym]
    exact List.mem_of_getElem? hu
  | constant value =>
    rw [← Option.some.inj hg] at hsym
    exact absurd hsym (by simp [Argument.symbol?])
  | unknown =>
    rw [← Option.some.inj hg] at hsym
    exact absurd hsym (by simp [Argument.symbol?])

private theorem mem_symbols_of_attributes? {s : Session} {given : List GivenAttribute} {attributes : List Attribute}
    (h : given.mapM s.attribute? = some attributes) : ∀ a ∈ attributes, ∀ t ∈ a.symbols, t ∈ s.symbols := by
  intro a ha
  obtain ⟨g, -, hg⟩ := exists_of_mem_mapM h ha
  exact mem_symbols_of_attribute? hg

/-- A command that is carried out has one of the effects. -/
private theorem effect_of_step? {s : Session} {command : Command} {st : Step} (h : s.step? command = some st) :
    s.Effect st.session := by
  cases command with
  | newProgram assembly =>
    cases h
    exact .newProgram assembly
  | newSymbol fullName kind =>
    cases h
    exact .newSymbol fullName kind none
  | newSite draft =>
    cases h
    exact .newSite draft
  | addExternal n fullName kind base =>
    simp only [step?, Option.bind_eq_bind, Option.bind_eq_some_iff, Option.pure_def, Option.some.injEq] at h
    obtain ⟨p, hp, b, hb, rfl⟩ := h
    exact .addExternal fullName kind hp (mem_symbols_of_optionalSymbol? hb)
  | declare n fullName kind location base attributes =>
    simp only [step?, Option.bind_eq_bind, Option.bind_eq_some_iff, Option.pure_def, Option.some.injEq] at h
    obtain ⟨p, hp, b, hb, as, has, rfl⟩ := h
    exact .declare fullName kind location hp (mem_symbols_of_optionalSymbol? hb) (mem_symbols_of_attributes? has)
  | setBase n symbol base =>
    simp only [step?, Option.bind_eq_bind, Option.bind_eq_some_iff, Option.pure_def] at h
    obtain ⟨p, hp, t, ht, b, hb, h⟩ := h
    split at h
    · next q hq =>
      cases h
      exact .setBase hp (mem_symbols_of_optionalSymbol? hb) hq
    · cases h
      exact .idle rfl rfl rfl
  | setAttributes n symbol attributes =>
    simp only [step?, Option.bind_eq_bind, Option.bind_eq_some_iff, Option.pure_def] at h
    obtain ⟨p, hp, t, ht, as, has, h⟩ := h
    split at h
    · next q hq =>
      cases h
      exact .setAttributes hp (mem_symbols_of_attributes? has) hq
    · cases h
      exact .idle rfl rfl rfl
  | addNewSite n draft symbol =>
    simp only [step?, Option.bind_eq_bind, Option.bind_eq_some_iff, Option.pure_def, Option.some.injEq] at h
    obtain ⟨p, hp, t, ht, rfl⟩ := h
    exact .addNewSite draft hp (mem_symbols_of_optionalSymbol? ht)
  | addSite n site symbol =>
    simp only [step?, Option.bind_eq_bind, Option.bind_eq_some_iff, Option.pure_def, Option.some.injEq] at h
    obtain ⟨p, hp, x, hx, t, ht, rfl⟩ := h
    exact .addSite hp (List.mem_of_getElem? hx) (mem_symbols_of_optionalSymbol? ht)
  | same first second =>
    simp only [step?, Option.bind_eq_bind, Option.bind_eq_some_iff, Option.pure_def] at h
    obtain ⟨a, ha, b, hb, h⟩ := h
    split at h <;> (cases h; exact .idle rfl rfl rfl)
  | analyzeAll numbers workers cancelAfter isReported =>
    simp only [step?, Option.bind_eq_bind, Option.bind_eq_some_iff, Option.pure_def] at h
    obtain ⟨programs, hp, h⟩ := h
    split at h <;> (cases h; exact .idle rfl rfl rfl)
  | reported =>
    cases h
    exact .idle rfl rfl rfl
  | newAnalysis n locator =>
    simp only [step?, Option.bind_eq_bind, Option.bind_eq_some_iff, Option.pure_def, Option.some.injEq] at h
    obtain ⟨l, hl, rfl⟩ := h
    exact .idle rfl rfl rfl
  | ask n question =>
    simp only [step?, Option.bind_eq_bind, Option.bind_eq_some_iff, Option.pure_def, Option.some.injEq] at h
    obtain ⟨p, hp, r, hr, rfl⟩ := h
    exact .idle rfl rfl rfl
  | isMarked n =>
    simp only [step?, Option.bind_eq_bind, Option.bind_eq_some_iff, Option.pure_def, Option.some.injEq] at h
    obtain ⟨x, hx, rfl⟩ := h
    exact .idle rfl rfl rfl
  | isRegistered n entries =>
    simp only [step?, Option.bind_eq_bind, Option.bind_eq_some_iff, Option.pure_def, Option.some.injEq] at h
    obtain ⟨as, has, t, ht, rfl⟩ := h
    exact .idle rfl rfl rfl
  | registry n =>
    simp only [step?, Option.bind_eq_bind, Option.bind_eq_some_iff, Option.pure_def, Option.some.injEq] at h
    obtain ⟨a, ha, p, hp, rfl⟩ := h
    exact .idle rfl rfl rfl
  | entries n =>
    simp only [step?, Option.bind_eq_bind, Option.bind_eq_some_iff, Option.pure_def, Option.some.injEq] at h
    obtain ⟨a, ha, p, hp, rfl⟩ := h
    exact .idle rfl rfl rfl
  | check n site =>
    simp only [step?, Option.bind_eq_bind, Option.bind_eq_some_iff, Option.pure_def, Option.some.injEq] at h
    obtain ⟨a, ha, p, hp, x, hx, rfl⟩ := h
    exact .idle rfl rfl rfl
  | run n cancelAfter isReported =>
    simp only [step?, Option.bind_eq_bind, Option.bind_eq_some_iff, Option.pure_def, Option.some.injEq] at h
    obtain ⟨a, ha, p, hp, rfl⟩ := h
    exact .idle rfl rfl rfl
  | locatorCalls n =>
    simp only [step?, Option.bind_eq_bind, Option.bind_eq_some_iff, Option.pure_def, Option.some.injEq] at h
    obtain ⟨a, ha, rfl⟩ := h
    exact .idle rfl rfl rfl

theorem effect_step (s : Session) (command : Command) : s.Effect (s.step command).session := by
  unfold step
  cases h : s.step? command with
  | none => exact .idle rfl rfl rfl
  | some st => exact effect_of_step? h

/-! ### The invariant -/

/-- Whether the entries of a list are numbered by their places in it. -/
def Numbered {α : Type} (serial : α → Nat) (l : List α) : Prop :=
  ∀ i a, l[i]? = some a → serial a = i

theorem Numbered.eq_of_serial_eq {α : Type} {serial : α → Nat} {l : List α} (h : Numbered serial l) {a b : α}
    (ha : a ∈ l) (hb : b ∈ l) (hserial : serial a = serial b) : a = b := by
  obtain ⟨i, hi⟩ := List.getElem?_of_mem ha
  obtain ⟨j, hj⟩ := List.getElem?_of_mem hb
  have hij : i = j := by rw [← h i a hi, ← h j b hj, hserial]
  rw [hij, hj] at hi
  exact (Option.some.inj hi).symm

theorem Numbered.concat {α : Type} {serial : α → Nat} {l : List α} (h : Numbered serial l) {a : α}
    (ha : serial a = l.length) : Numbered serial (l ++ [a]) := by
  intro i b hb
  by_cases hi : i < l.length
  · rw [List.getElem?_append_left hi] at hb
    exact h i b hb
  · rw [List.getElem?_append_right (by omega)] at hb
    have hlt := (List.getElem?_eq_some_iff.mp hb).1
    have hz : i - l.length = 0 := by simpa using hlt
    rw [hz, List.getElem?_cons_zero] at hb
    rw [← Option.some.inj hb, ha]
    omega

/-- Symbols and sites are numbered in the order in which they were made, and programs mention no others. -/
structure Sound (s : Session) : Prop where
  symbols : Numbered Symbol.serial s.symbols
  sites : Numbered Site.serial s.sites
  mentioned : ∀ p ∈ s.programs, ∀ t ∈ p.symbols, t ∈ s.symbols
  placed : ∀ p ∈ s.programs, ∀ x ∈ p.sites, x ∈ s.sites

namespace Sound

variable {s : Session}

theorem addSymbol (h : s.Sound) (fullName : String) (kind : TypeKind) (location : Option Location) :
    (s.addSymbol fullName kind location).1.Sound where
  symbols := h.symbols.concat rfl
  sites := h.sites
  mentioned p hp t ht := List.mem_append_left _ (h.mentioned p hp t ht)
  placed := h.placed

theorem addDraft (h : s.Sound) (draft : SiteDraft) : (s.addDraft draft).1.Sound where
  symbols := h.symbols
  sites := h.sites.concat rfl
  mentioned := h.mentioned
  placed p hp x hx := List.mem_append_left _ (h.placed p hp x hx)

theorem putProgram (h : s.Sound) (n : Nat) {q : Program} (hsymbols : ∀ t ∈ q.symbols, t ∈ s.symbols)
    (hsites : ∀ x ∈ q.sites, x ∈ s.sites) : (s.putProgram n q).Sound where
  symbols := h.symbols
  sites := h.sites
  mentioned p hp := by
    rcases List.mem_or_eq_of_mem_set hp with hp | rfl
    · exact h.mentioned p hp
    · exact hsymbols
  placed p hp := by
    rcases List.mem_or_eq_of_mem_set hp with hp | rfl
    · exact h.placed p hp
    · exact hsites

/-- Every effect keeps a session sound. -/
private theorem effect (h : s.Sound) {s' : Session} (he : s.Effect s') : s'.Sound := by
  cases he with
  | idle programs symbols sites =>
    refine ⟨?_, ?_, ?_, ?_⟩
    · rw [symbols]; exact h.symbols
    · rw [sites]; exact h.sites
    · rw [programs, symbols]; exact h.mentioned
    · rw [programs, sites]; exact h.placed
  | newProgram assembly =>
    refine ⟨h.symbols, h.sites, ?_, ?_⟩
    · intro p hp
      rcases List.mem_append.mp hp with hp | hp
      · exact h.mentioned p hp
      · rw [List.mem_singleton.mp hp]
        exact fun t ht => absurd ht List.not_mem_nil
    · intro p hp
      rcases List.mem_append.mp hp with hp | hp
      · exact h.placed p hp
      · rw [List.mem_singleton.mp hp]
        exact fun x hx => absurd hx List.not_mem_nil
  | newSymbol fullName kind location => exact h.addSymbol fullName kind location
  | newSite draft => exact h.addDraft draft
  | @addExternal n p base fullName kind program hbase =>
    have hp := List.mem_of_getElem? program
    refine (h.addSymbol fullName kind none).putProgram n ?_ (h.placed p hp)
    intro t ht
    rcases Program.mem_symbols_add ht with ht | ht
    · exact List.mem_append_left _ (h.mentioned p hp t ht)
    · rcases TypeRecord.mem_symbols.mp ht with rfl | ht | ⟨a, ha, -⟩
      · exact List.mem_append_right _ (List.mem_singleton.mpr rfl)
      · exact List.mem_append_left _ (hbase t ht)
      · exact absurd ha List.not_mem_nil
  | @declare n p base attributes fullName kind location program hbase hattributes =>
    have hp := List.mem_of_getElem? program
    refine (h.addSymbol fullName kind location).putProgram n ?_ (h.placed p hp)
    intro t ht
    rcases Program.mem_symbols_add ht with ht | ht
    · exact List.mem_append_left _ (h.mentioned p hp t ht)
    · rcases TypeRecord.mem_symbols.mp ht with rfl | ht | ⟨a, ha, ht⟩
      · exact List.mem_append_right _ (List.mem_singleton.mpr rfl)
      · exact List.mem_append_left _ (hbase t ht)
      · exact List.mem_append_left _ (hattributes a ha t ht)
  | @setBase n p q symbol base program hbase hq =>
    have hp := List.mem_of_getElem? program
    refine h.putProgram n ?_ ?_
    · intro t ht
      rcases Program.mem_symbols_setBase? hq ht with ht | ht
      · exact h.mentioned p hp t ht
      · exact hbase t ht
    · rw [Program.sites, Program.bindings_setBase? hq]
      exact h.placed p hp
  | @setAttributes n p q symbol attributes program hattributes hq =>
    have hp := List.mem_of_getElem? program
    refine h.putProgram n ?_ ?_
    · intro t ht
      rcases Program.mem_symbols_setAttributes? hq ht with ht | ht
      · exact h.mentioned p hp t ht
      · obtain ⟨a, ha, ht⟩ := ht
        exact hattributes a ha t ht
    · rw [Program.sites, Program.bindings_setAttributes? hq]
      exact h.placed p hp
  | @addNewSite n p symbol draft program hsymbol =>
    have hp := List.mem_of_getElem? program
    refine (h.addDraft draft).putProgram n ?_ ?_
    · intro t ht
      rcases Program.mem_symbols_addSite ht with ht | ht
      · exact h.mentioned p hp t ht
      · exact hsymbol t ht
    · intro x hx
      rcases Program.mem_sites_addSite hx with hx | rfl
      · exact List.mem_append_left _ (h.placed p hp x hx)
      · exact List.mem_append_right _ (List.mem_singleton.mpr rfl)
  | @addSite n p site symbol program hsite hsymbol =>
    have hp := List.mem_of_getElem? program
    refine h.putProgram n ?_ ?_
    · intro t ht
      rcases Program.mem_symbols_addSite ht with ht | ht
      · exact h.mentioned p hp t ht
      · exact hsymbol t ht
    · intro x hx
      rcases Program.mem_sites_addSite hx with hx | rfl
      · exact h.placed p hp x hx
      · exact hsite

end Sound

/-- Every session that commands lead to is sound. -/
theorem sound_after (commands : List Command) : (after commands).Sound := by
  -- the run starts from any sound session, so that the induction can go on from the one after the first command
  have hrun : ∀ s : Session, s.Sound → (commands.foldl (fun s command => (s.step command).session) s).Sound := by
    induction commands with
    | nil => exact fun s h => h
    | cons command commands ih => exact fun s h => ih _ (h.effect (effect_step s command))
  refine hrun empty ⟨?_, ?_, ?_, ?_⟩
  · intro i a h
    exact absurd h (by simp [empty])
  · intro i a h
    exact absurd h (by simp [empty])
  · exact fun p hp => absurd hp List.not_mem_nil
  · exact fun p hp => absurd hp List.not_mem_nil

end Session

/-! ### The audit of a program with a history -/

namespace Program

/-- Whether `s` is the symbol to which a site was bound when it was added last. -/
def LastBinds (p : Program) (site : Site) (s : Symbol) : Prop :=
  ∃ earlier later, p.bindings = earlier ++ (site, some s) :: later ∧ ∀ b ∈ later, b.1 ≠ site

private theorem symbolOf?_eq_some_iff {p : Program} {site : Site} {s : Symbol}
    (hp : ∀ b ∈ p.bindings, b.1.serial = site.serial → b.1 = site) :
    p.symbolOf? site = some s ↔ p.LastBinds site s := by
  unfold symbolOf? LastBinds
  rw [Option.bind_eq_some_iff]
  constructor
  · rintro ⟨⟨x, _⟩, hf, rfl⟩
    obtain ⟨hx, late, early, hsplit, hlate⟩ := List.find?_eq_some_iff_append.mp hf
    have hrev : p.bindings = early.reverse ++ (x, some s) :: late.reverse := by
      rw [← List.reverse_reverse p.bindings, hsplit]
      simp
    have hxs : x = site := hp (x, some s) (by rw [hrev]; simp) (by simpa using hx)
    refine ⟨early.reverse, late.reverse, by rw [← hxs, hrev], ?_⟩
    intro b hb hbs
    have := hlate b (List.mem_reverse.mp hb)
    simp [hbs] at this
  · rintro ⟨early, late, hsplit, hlate⟩
    refine ⟨(site, some s), List.find?_eq_some_iff_append.mpr ⟨by simp, late.reverse, early.reverse, ?_, ?_⟩, rfl⟩
    · rw [hsplit]
      simp
    · intro b hb
      have hb := List.mem_reverse.mp hb
      have hne : b.1.serial ≠ site.serial := by
        intro h
        exact hlate b hb (hp b (by rw [hsplit]; simp [hb]) h)
      simpa using hne

/-- Whether a site declares a model of the symbol `s` that the registry does not register. -/
structure IsUnregistered (p : Program) (registry : Symbol) (site : Site) (s : Symbol) : Prop where
  isWritten : site.isGenerated = false
  isRecord : site.kind = .recordType
  isMarked : "SerializationModel" ∈ site.attributeNames
  isBound : p.LastBinds site s
  /-- No registration has that very symbol as its first argument. -/
  isMissed : ¬ ∃ a ∈ p.attributesOf registry, a.type = some registrationAttribute ∧
    a.arguments.head? = some (.type s)

private theorem mem_symbols_of_mem_attributesOf {p : Program} {s t : Symbol} {a : Attribute} (ha : a ∈ p.attributesOf s)
    (ht : .type t ∈ a.arguments) : t ∈ p.symbols := by
  unfold attributesOf at ha
  cases hr : p.record? s with
  | none => simp [hr] at ha
  | some r =>
    simp only [hr, Option.map_some, Option.getD_some] at ha
    have hta : t ∈ a.symbols := List.mem_filterMap.mpr ⟨.type t, ht, rfl⟩
    have hmem : t ∈ r.symbols := TypeRecord.mem_symbols.mpr (.inr (.inr ⟨a, ha, hta⟩))
    exact mem_symbols.mpr (.inl ⟨r, List.mem_of_find?_eq_some hr, hmem⟩)

end Program

/-- Where serial numbers tell symbols apart, an entry registers a symbol exactly when its first argument is that very
symbol. -/
private theorem Session.Sound.isRegistered_iff {s : Session} (h : s.Sound) {p : Program} (hp : p ∈ s.programs)
    {registry t : Symbol} (ht : t ∈ p.symbols) :
    isRegistered (p.entriesOf registry) t = true ↔
      ∃ a ∈ p.attributesOf registry, a.type = some registrationAttribute ∧ a.arguments.head? = some (.type t) := by
  rw [Program.isRegistered_entriesOf_iff]
  constructor
  · rintro ⟨a, ha, htype, u, hu, hserial⟩
    have hmem := Program.mem_symbols_of_mem_attributesOf ha (List.mem_of_head? hu)
    have := h.symbols.eq_of_serial_eq (h.mentioned p hp u hmem) (h.mentioned p hp t ht) hserial
    exact ⟨a, ha, htype, this ▸ hu⟩
  · rintro ⟨a, ha, htype, hu⟩
    exact ⟨a, ha, htype, t, hu, rfl⟩

/-- The audit of a program that commands have built finds nothing without a registry.  With one it finds, in the order of
the sites and as often as they were added, the sites of models that the registry does not register. -/
theorem findings_after (commands : List Command) {n : Nat} {p : Program}
    (hp : (Session.after commands).programs[n]? = some p) :
    match p.registry? with
    | none => (p.analyze none).findings = []
    | some registry =>
      ∃ verdict : Site → Option Finding, (p.analyze none).findings = p.sites.filterMap verdict ∧
        ∀ site ∈ p.sites, ∀ f, verdict site = some f ↔
          ∃ s, p.IsUnregistered registry site s ∧ f = ⟨"CRY001", s.fullName, site.location⟩ := by
  have hsound := Session.sound_after commands
  have hmem := List.mem_of_getElem? hp
  rw [Program.findings_analyze]
  cases p.registry? with
  | none => rfl
  | some registry =>
    refine ⟨fun site => if site.isGenerated then none else p.checkSite (p.entriesOf registry) site, rfl, ?_⟩
    intro site hsite f
    -- the session tells the sites of the program apart by their serial numbers
    have hsites : ∀ b ∈ p.bindings, b.1.serial = site.serial → b.1 = site := by
      intro b hb hserial
      have hbs := hsound.placed p hmem b.1 (List.mem_map.mpr ⟨b, hb, rfl⟩)
      exact hsound.sites.eq_of_serial_eq hbs (hsound.placed p hmem site hsite) hserial
    have hbound : ∀ {s}, p.LastBinds site s → s ∈ p.symbols := by
      rintro s ⟨earlier, later, hsplit, -⟩
      exact Program.mem_symbols.mpr (.inr ⟨(site, some s), by rw [hsplit]; simp, rfl⟩)
    constructor
    · intro hf
      obtain ⟨hg, hcheck⟩ := Option.ite_none_left_eq_some.mp hf
      obtain ⟨hk, hm, s, hs, hreg, rfl⟩ := Program.checkSite_eq_some_iff.mp hcheck
      have hlast := (Program.symbolOf?_eq_some_iff hsites).mp hs
      rw [hsound.isRegistered_iff hmem (hbound hlast)] at hreg
      exact ⟨s, ⟨by simpa using hg, hk, hm, hlast, hreg⟩, rfl⟩
    · rintro ⟨s, ⟨hg, hk, hm, hlast, hmiss⟩, rfl⟩
      rw [← hsound.isRegistered_iff hmem (hbound hlast)] at hmiss
      have hs := (Program.symbolOf?_eq_some_iff hsites).mpr hlast
      refine Option.ite_none_left_eq_some.mpr ⟨by simp [hg], ?_⟩
      exact Program.checkSite_eq_some_iff.mpr ⟨hk, hm, s, hs, hmiss, rfl⟩

/-- A history in which the registry registers a type that another of the same full name has shadowed: the site of the other
one is found. -/
theorem findings_after_shadowed :
    let commands : List Command := [
      .newProgram "App",
      .addExternal 0 registryBase .classType none,
      .declare 0 "App.Model" .recordType none none [],
      .declare 0 "App.Model" .recordType none none [],
      .declare 0 "App.SourceGenerationContext" .classType none (some 0) [⟨some registrationAttribute, [.type 1]⟩],
      .addNewSite 0 ⟨.recordType, "Model", ["SerializationModel"], none, false⟩ (some 2)]
    let registry : Symbol := ⟨3, "App.SourceGenerationContext", .classType, none⟩
    ∃ p, (Session.after commands).programs[0]? = some p ∧ p.registry? = some registry ∧
      (p.analyze none).findings = [⟨"CRY001", "App.Model", none⟩] ∧
      ∃ site ∈ p.sites, ∃ s, p.IsUnregistered registry site s ∧ s.fullName = "App.Model" := by
  intro commands registry
  obtain ⟨p, hp, hregistry, hfindings⟩ : ∃ p, (Session.after commands).programs[0]? = some p ∧
      p.registry? = some registry ∧ (p.analyze none).findings = [⟨"CRY001", "App.Model", none⟩] :=
    ⟨_, rfl, by decide +kernel, by decide +kernel⟩
  have h := findings_after commands hp
  simp only [hregistry] at h
  obtain ⟨verdict, hverdicts, hverdict⟩ := h
  rw [hfindings] at hverdicts
  obtain ⟨site, hsite, hf⟩ := List.mem_filterMap.mp (hverdicts ▸ List.mem_singleton_self _)
  obtain ⟨s, hs, heq⟩ := (hverdict site hsite _).mp hf
  exact ⟨p, hp, hregistry, hfindings, site, hsite, s, hs, (Finding.mk.inj heq).2.1.symm⟩

end Rollcall
