import Rollcall.Proofs.Histories

/-!
# Programs as tables

A program may as well be kept in tables: its types by their full names and by their symbols, the names of the declared
ones, its sites, and the symbols of the sites (`Tables`).  The table of full names refers to a record by the symbol of the
record, so that what is changed about a type is seen under its name, too.

* A call does the same to the tables as to the program (`Represents.perform`), and is refused by both or by neither
  (`Represents.setBase?`, `Represents.setAttributes?`).  So the tables hold the program after any history
  (`represents_ofCalls`).
* Tables that hold a program answer every question as it does (`Represents.agrees`).  So do the tables of every program of
  a session (`Session.agrees_after`).
-/

namespace Rollcall

/-! ### Dictionaries -/

/-- Values under keys, in the order in which the keys were first set. -/
structure Dictionary (κ α : Type) where
  entries : List (κ × α)
  distinct : (entries.map (·.1)).Nodup

namespace Dictionary

variable {κ α : Type}

def empty : Dictionary κ α := ⟨[], .nil⟩

def keys (d : Dictionary κ α) : List κ :=
  d.entries.map (·.1)

variable [DecidableEq κ]

def get? (d : Dictionary κ α) (key : κ) : Option α :=
  (d.entries.find? fun e => e.1 == key).map (·.2)

/-- The entries after a value is set: in the place of the one under the same key, or at the end. -/
def entriesSet (entries : List (κ × α)) (key : κ) (value : α) : List (κ × α) :=
  if key ∈ entries.map (·.1) then entries.map fun e => if e.1 = key then (key, value) else e
  else entries ++ [(key, value)]

private theorem map_fst_entriesSet (entries : List (κ × α)) (key : κ) (value : α) :
    (entriesSet entries key value).map (·.1) =
      if key ∈ entries.map (·.1) then entries.map (·.1) else entries.map (·.1) ++ [key] := by
  unfold entriesSet
  split
  · rw [List.map_map]
    refine List.map_congr_left fun e _ => ?_
    rw [Function.comp_apply]
    split
    · next h => exact h.symm
    · rfl
  · rw [List.map_append]
    rfl

/-- Sets the value under a key. -/
def set (d : Dictionary κ α) (key : κ) (value : α) : Dictionary κ α where
  entries := entriesSet d.entries key value
  distinct := by
    rw [map_fst_entriesSet]
    split
    · exact d.distinct
    · next h => exact List.nodup_append.mpr ⟨d.distinct, by simp, by simpa using fun a ha => ne_of_mem_of_not_mem ha h⟩

private theorem keys_set (d : Dictionary κ α) (key : κ) (value : α) :
    (d.set key value).keys = if key ∈ d.keys then d.keys else d.keys ++ [key] :=
  map_fst_entriesSet d.entries key value

private theorem get?_eq_none_of_not_mem {d : Dictionary κ α} {key : κ} (h : key ∉ d.keys) : d.get? key = none := by
  rw [get?, Option.map_eq_none_iff, List.find?_eq_none]
  intro e he hkey
  exact h (List.mem_map.mpr ⟨e, he, beq_iff_eq.mp hkey⟩)

private theorem exists_find?_of_mem {d : Dictionary κ α} {key : κ} (h : key ∈ d.keys) :
    ∃ e, (d.entries.find? fun e => e.1 == key) = some e ∧ e.1 = key := by
  obtain ⟨e, he, hkey⟩ := List.mem_map.mp h
  have hsome : (d.entries.find? fun e => e.1 == key).isSome :=
    List.find?_isSome.mpr ⟨e, he, beq_iff_eq.mpr hkey⟩
  obtain ⟨e', he'⟩ := Option.isSome_iff_exists.mp hsome
  have htest := List.find?_some he'
  exact ⟨e', he', beq_iff_eq.mp htest⟩

private theorem get?_set (d : Dictionary κ α) (key k : κ) (value : α) :
    (d.set key value).get? k = if k = key then some value else d.get? k := by
  by_cases h : key ∈ d.keys
  · -- The value is set in place, where the keys stay as they are.
    have htest : ((fun e : κ × α => e.1 == k) ∘ fun e => if e.1 = key then (key, value) else e) = fun e => e.1 == k := by
      funext e
      rw [Function.comp_apply]
      split
      · next he => rw [he]
      · rfl
    have hentries : (d.set key value).entries = d.entries.map fun e => if e.1 = key then (key, value) else e := if_pos h
    rw [get?, hentries, List.find?_map, htest]
    split
    · next hk =>
      subst hk
      obtain ⟨e, he, hkey⟩ := exists_find?_of_mem h
      rw [he, Option.map_some, if_pos hkey]
      rfl
    · next hk =>
      rw [get?, Option.map_map]
      refine Option.map_congr fun e he => ?_
      have htest := List.find?_some he
      have hkey : e.1 = k := beq_iff_eq.mp htest
      rw [Function.comp_apply, if_neg (hkey ▸ hk)]
  · have hnone := get?_eq_none_of_not_mem h
    rw [get?, Option.map_eq_none_iff] at hnone
    have hentries : (d.set key value).entries = d.entries ++ [(key, value)] := if_neg h
    rw [get?, hentries, List.find?_append]
    split
    · next hk =>
      subst hk
      simp [hnone]
    · next hk => simp [get?, Ne.symm hk]

end Dictionary

/-! ### Tables -/

/-- The tables in which a program is kept. -/
structure Tables where
  assembly : String
  /-- The types by full name, each by the serial number of its symbol. -/
  types : Dictionary String Nat
  /-- What is known about the types, by the serial numbers of their symbols. -/
  records : Dictionary Nat TypeRecord
  /-- The simple names of the declared types. -/
  declaredNames : List String
  nodes : List Site
  /-- The types to which the sites are bound, by the serial numbers of the sites. -/
  nodeSymbols : Dictionary Nat (Option Symbol)

namespace Tables

def empty (assembly : String) : Tables := ⟨assembly, .empty, .empty, [], [], .empty⟩

/-- Adds a type. -/
def add (t : Tables) (r : TypeRecord) : Tables :=
  { t with
    types := t.types.set r.symbol.fullName r.symbol.serial
    records := t.records.set r.symbol.serial r
    declaredNames := if r.isDeclared then t.declaredNames ++ [r.symbol.name] else t.declaredNames }

/-- Changes the record of a symbol, if there is one. -/
def update? (t : Tables) (s : Symbol) (change : TypeRecord → TypeRecord) : Option Tables :=
  (t.records.get? s.serial).map fun r => { t with records := t.records.set s.serial (change r) }

def setBase? (t : Tables) (s : Symbol) (base : Option Symbol) : Option Tables :=
  t.update? s fun r => { r with base }

def setAttributes? (t : Tables) (s : Symbol) (attributes : List Attribute) : Option Tables :=
  t.update? s fun r => { r with attributes }

/-- Adds a site. -/
def addSite (t : Tables) (site : Site) (symbol : Option Symbol) : Tables :=
  { t with nodes := t.nodes ++ [site], nodeSymbols := t.nodeSymbols.set site.serial symbol }

/-- The tables after a call.  A call that is refused changes nothing. -/
def perform (t : Tables) : Call → Tables
  | .add record => t.add record
  | .setBase symbol base => (t.setBase? symbol base).getD t
  | .setAttributes symbol attributes => (t.setAttributes? symbol attributes).getD t
  | .addSite site symbol => t.addSite site symbol

/-- The tables that calls make of empty ones. -/
def ofCalls (assembly : String) (calls : List Call) : Tables :=
  calls.foldl perform (empty assembly)

/-! ### Questions -/

/-- What is known about the type with a full name. -/
def latest? (t : Tables) (fullName : String) : Option TypeRecord :=
  (t.types.get? fullName).bind t.records.get?

def resolve? (t : Tables) (fullName : String) : Option Symbol :=
  (t.latest? fullName).map (·.symbol)

def lookup? (t : Tables) (fullName : String) : Option Symbol :=
  ((t.latest? fullName).filter (·.isDeclared)).map (·.symbol)

def allDeclaredNames (t : Tables) : List String :=
  t.declaredNames.eraseDups

def baseOf? (t : Tables) (s : Symbol) : Option Symbol :=
  (t.records.get? s.serial).bind (·.base)

def attributesOf (t : Tables) (s : Symbol) : List Attribute :=
  ((t.records.get? s.serial).map (·.attributes)).getD []

def symbolOf? (t : Tables) (site : Site) : Option Symbol :=
  (t.nodeSymbols.get? site.serial).bind id

/-- The types in the order in which their full names first appeared. -/
def allTypes (t : Tables) : List TypeRecord :=
  t.types.keys.filterMap t.latest?

/-! ### The program in the tables -/

/-- Whether tables hold a program. -/
structure Represents (t : Tables) (p : Program) : Prop where
  assembly : t.assembly = p.assembly
  /-- No symbol was added twice. -/
  new : p.records.Pairwise fun r r' => r.symbol.serial ≠ r'.symbol.serial
  types : ∀ fullName, t.types.get? fullName = (p.resolve? fullName).map (·.serial)
  names : t.types.keys = (p.records.map (·.symbol.fullName)).eraseDups
  records : ∀ s : Symbol, t.records.get? s.serial = p.record? s
  declaredNames : t.declaredNames = (p.records.filter (·.isDeclared)).map (·.symbol.name)
  nodes : t.nodes = p.sites
  nodeSymbols : ∀ site : Site, t.nodeSymbols.get? site.serial =
    (p.bindings.reverse.find? fun b => b.1.serial == site.serial).map (·.2)

/-- Whether tables answer every question as a program does. -/
structure Agrees (t : Tables) (p : Program) : Prop where
  assembly : t.assembly = p.assembly
  resolve : t.resolve? = p.resolve?
  lookup : t.lookup? = p.lookup?
  declaredNames : t.allDeclaredNames = p.declaredNames
  baseOf : t.baseOf? = p.baseOf?
  attributesOf : t.attributesOf = p.attributesOf
  symbolOf : t.symbolOf? = p.symbolOf?
  sites : t.nodes = p.sites
  types : t.allTypes = p.types

variable {t : Tables} {p : Program}

private theorem Represents.latest?_eq (h : t.Represents p) : t.latest? = p.latest? := by
  funext fullName
  unfold latest?
  rw [h.types, Program.resolve?]
  cases hr : p.latest? fullName with
  | none => rfl
  | some r =>
    have hmem : r ∈ p.records := List.mem_reverse.mp (List.mem_of_find?_eq_some hr)
    exact (h.records r.symbol).trans (Program.record?_of_mem h.new hmem)

theorem Represents.agrees (h : t.Represents p) : t.Agrees p where
  assembly := h.assembly
  resolve := by
    funext fullName
    rw [resolve?, h.latest?_eq, Program.resolve?]
  lookup := by
    funext fullName
    rw [lookup?, h.latest?_eq, Program.lookup?]
  declaredNames := by rw [allDeclaredNames, h.declaredNames, Program.declaredNames]
  baseOf := by
    funext s
    rw [baseOf?, h.records, Program.baseOf?]
  attributesOf := by
    funext s
    rw [Tables.attributesOf, h.records, Program.attributesOf]
  symbolOf := by
    funext site
    rw [symbolOf?, h.nodeSymbols, Option.bind_map]
    rfl
  sites := h.nodes
  types := by rw [allTypes, h.names, h.latest?_eq, Program.types]

/-! ### One call -/

private theorem represents_empty (assembly : String) : (empty assembly).Represents (.empty assembly) :=
  ⟨rfl, .nil, fun _ => rfl, rfl, fun _ => rfl, rfl, rfl, fun _ => rfl⟩

private theorem resolve?_add (p : Program) (r : TypeRecord) (fullName : String) :
    (p.add r).resolve? fullName = if fullName = r.symbol.fullName then some r.symbol else p.resolve? fullName := by
  rw [Program.resolve?_eq_find?, Program.resolve?_eq_find?, Program.add, List.map_append, List.reverse_append]
  split
  · next h => simp [h]
  · next h => simp [Ne.symm h]

private theorem record?_add {p : Program} {r : TypeRecord} (hr : p.owns r.symbol = false) (s : Symbol) :
    (p.add r).record? s = if s.serial = r.symbol.serial then some r else p.record? s := by
  rw [Program.record?, Program.add, List.find?_append]
  split
  · next h =>
    have hnone : p.record? s = none := by
      rw [Program.record?_eq_none_iff, ← hr, Program.owns, Program.owns]
      simp only [Symbol.same, h]
    rw [Program.record?] at hnone
    rw [hnone]
    simp [Symbol.same, h]
  · next h => simp [Program.record?, Symbol.same, Ne.symm h]

theorem Represents.add (h : t.Represents p) {r : TypeRecord} (hr : p.owns r.symbol = false) :
    (t.add r).Represents (p.add r) where
  assembly := h.assembly
  new := by
    refine List.pairwise_append.mpr ⟨h.new, List.pairwise_singleton _ r, fun r' hr' x hx => ?_⟩
    rw [List.mem_singleton.mp hx]
    have hother := List.any_eq_false.mp hr r' hr'
    exact fun hserial => hother (Symbol.same_iff.mpr hserial)
  types fullName := by
    refine (Dictionary.get?_set ..).trans ?_
    rw [h.types, resolve?_add]
    split <;> rfl
  names := by
    refine (Dictionary.keys_set ..).trans ?_
    rw [h.names, Program.add, List.map_append]
    split
    · next hmem =>
      rw [List.mem_eraseDups] at hmem
      exact (eraseDups_append_of_subset (List.cons_subset.mpr ⟨hmem, List.nil_subset _⟩)).symm
    · next hmem =>
      rw [List.mem_eraseDups] at hmem
      have hrest : [r.symbol.fullName].removeAll (p.records.map (·.symbol.fullName)) = [r.symbol.fullName] :=
        List.filter_eq_self.mpr (by simpa using hmem)
      rw [List.eraseDups_append, List.map_singleton, hrest]
      rfl
  records s := by
    refine (Dictionary.get?_set ..).trans ?_
    rw [h.records, record?_add hr]
  declaredNames := by
    rw [Tables.add, h.declaredNames, Program.add, List.filter_append, List.map_append]
    split
    · next hr => simp [hr]
    · next hr => simp [hr]
  nodes := h.nodes
  nodeSymbols := h.nodeSymbols

private theorem record?_update_eq_ite {p : Program} {s : Symbol} {r : TypeRecord} (hr : p.record? s = some r)
    {change : TypeRecord → TypeRecord} (hsymbol : ∀ r, (change r).symbol = r.symbol) (x : Symbol) :
    (p.update s change).record? x = if x.serial = s.serial then some (change r) else p.record? x := by
  rw [Program.record?_update_eq_map p s x hsymbol]
  split
  · next hx =>
    have hfind : p.record? x = some r := by
      rw [← hr, Program.record?, Program.record?]
      simp only [Symbol.same, hx]
    rw [hfind, Option.map_some, if_pos (Symbol.same_iff.mpr (Program.serial_of_record? hr))]
  · next hx =>
    cases hr' : p.record? x with
    | none => rfl
    | some r' =>
      have hother : ¬ r'.symbol.same s = true := by
        rw [Symbol.same_iff, Program.serial_of_record? hr']
        exact hx
      rw [Option.map_some, if_neg hother]

private theorem Represents.update (h : t.Represents p) {s : Symbol} {r : TypeRecord} (hr : p.record? s = some r)
    {change : TypeRecord → TypeRecord} (hchange : ∀ r, (change r).head = r.head) :
    Represents { t with records := t.records.set s.serial (change r) } (p.update s change) := by
  have hsymbol (r : TypeRecord) : (change r).symbol = r.symbol := congrArg (·.1) (hchange r)
  have hheads := Program.map_head_update p s hchange
  have hsymbols : (p.update s change).records.map (·.symbol) = p.records.map (·.symbol) := by
    have := congrArg (List.map (·.1)) hheads
    rwa [List.map_map, List.map_map] at this
  refine ⟨h.assembly, ?_, fun fullName => ?_, ?_, fun x => ?_, ?_, h.nodes, h.nodeSymbols⟩
  · have hserials := congrArg (List.map (·.serial)) hsymbols
    have hnew := List.pairwise_map.mpr h.new
    rw [List.map_map, List.map_map] at hserials
    exact List.pairwise_map.mp (hserials ▸ hnew)
  · rw [Program.resolve?_congr hsymbols]
    exact h.types fullName
  · have hnames := congrArg (List.map (·.fullName)) hsymbols
    rw [List.map_map, List.map_map] at hnames
    exact h.names.trans (congrArg List.eraseDups hnames.symm)
  · refine (Dictionary.get?_set ..).trans ?_
    rw [h.records, record?_update_eq_ite hr hsymbol]
  · have hdeclared := congrArg (List.map Symbol.name ∘ List.map (·.1) ∘ List.filter (·.2)) hheads
    simp only [Function.comp_apply, ← Program.map_symbol_declared, List.map_map] at hdeclared
    exact h.declaredNames.trans hdeclared.symm

/-- A change of a type that keeps its symbol is made to both or refused by both. -/
private theorem Represents.update? (h : t.Represents p) (s : Symbol) {change : TypeRecord → TypeRecord}
    (hchange : ∀ r, (change r).head = r.head) :
    Option.Rel Represents (t.update? s change) (if p.owns s then some (p.update s change) else none) := by
  rw [Tables.update?, h.records]
  cases hr : p.record? s with
  | none =>
    rw [Program.record?_eq_none_iff.mp hr]
    exact .none
  | some r =>
    have howns : p.owns s = true := by
      rw [← Bool.not_eq_false, ← Program.record?_eq_none_iff, hr]
      exact Option.some_ne_none r
    rw [if_pos howns]
    exact .some (h.update hr hchange)

theorem Represents.setBase? (h : t.Represents p) (s : Symbol) (base : Option Symbol) :
    Option.Rel Represents (t.setBase? s base) (p.setBase? s base) :=
  h.update? s fun _ => rfl

theorem Represents.setAttributes? (h : t.Represents p) (s : Symbol) (attributes : List Attribute) :
    Option.Rel Represents (t.setAttributes? s attributes) (p.setAttributes? s attributes) :=
  h.update? s fun _ => rfl

theorem Represents.addSite (h : t.Represents p) (site : Site) (symbol : Option Symbol) :
    (t.addSite site symbol).Represents (p.addSite site symbol) where
  assembly := h.assembly
  new := h.new
  types := h.types
  names := h.names
  records := h.records
  declaredNames := h.declaredNames
  nodes := by
    rw [Tables.addSite, h.nodes, Program.sites, Program.sites, Program.addSite, List.map_append]
    rfl
  nodeSymbols x := by
    refine (Dictionary.get?_set ..).trans ?_
    rw [h.nodeSymbols, Program.addSite, List.reverse_append]
    split
    · next hx => simp [hx]
    · next hx => simp [Ne.symm hx]

/-- Where a call is refused, things stay as they were. -/
private theorem Represents.getD (h : t.Represents p) {t' : Option Tables} {p' : Option Program}
    (h' : Option.Rel Represents t' p') : (t'.getD t).Represents (p'.getD p) := by
  cases h' with
  | some h' => exact h'
  | none => exact h

/-- A call does the same to the tables as to the program. -/
theorem Represents.perform (h : t.Represents p) {call : Call} (hnew : ∀ r, call = .add r → p.owns r.symbol = false) :
    (t.perform call).Represents (p.perform call) := by
  cases call with
  | add record => exact h.add (hnew record rfl)
  | setBase symbol base => exact h.getD (h.setBase? symbol base)
  | setAttributes symbol attributes => exact h.getD (h.setAttributes? symbol attributes)
  | addSite site symbol => exact h.addSite site symbol

/-! ### Histories -/

/-- The tables hold the program after any history in which no symbol is added twice. -/
theorem represents_ofCalls (assembly : String) {calls : List Call}
    (hnew : (calls.filterMap Call.added?).Pairwise fun r r' => r.symbol.serial ≠ r'.symbol.serial) :
    (ofCalls assembly calls).Represents (.ofCalls assembly calls) := by
  induction calls using List.reverseRecOn with
  | nil => exact represents_empty assembly
  | append_singleton calls call ih =>
    rw [List.filterMap_append, List.pairwise_append] at hnew
    obtain ⟨hold, -, hlast⟩ := hnew
    rw [ofCalls, List.foldl_append, Program.ofCalls_concat]
    refine (ih hold).perform fun r hcall => ?_
    subst hcall
    rw [Bool.eq_false_iff, Ne, Program.owns_ofCalls_iff]
    rintro ⟨r', hr', hsame⟩
    exact hlast r' (Call.mem_filterMap_added.mpr hr') r (by simp [Call.added?]) (Symbol.same_iff.mp hsame)

end Tables

private theorem Program.assembly_ofCalls (assembly : String) (calls : List Call) :
    (ofCalls assembly calls).assembly = assembly := by
  induction calls using List.reverseRecOn with
  | nil => rfl
  | append_singleton calls call ih =>
    rw [ofCalls_concat]
    refine Eq.trans ?_ ih
    cases call with
    | add record => rfl
    | setBase symbol base =>
      simp only [perform, setBase?]
      split <;> rfl
    | setAttributes symbol attributes =>
      simp only [perform, setAttributes?]
      split <;> rfl
    | addSite site symbol => rfl

/-- Every program of a session is in the tables that its calls make, and they answer as it does. -/
theorem Session.agrees_after (commands : List Command) {n : Nat} {p : Program}
    (hp : (after commands).programs[n]? = some p) : (Tables.ofCalls p.assembly (calls n commands)).Agrees p := by
  have h := isHistory_calls n commands
  obtain ⟨assembly, rfl⟩ := h.program p hp
  rw [Program.assembly_ofCalls]
  exact (Tables.represents_ofCalls assembly h.new).agrees

end Rollcall
