import Mathlib.Data.List.Induction
import Rollcall.Proofs.Lists
import Rollcall.Proofs.Sessions
import Rollcall.Proofs.Trees

/-!
# Programs and the calls that made them

The calls by which a session changes one of its programs form a list, refused ones included (`Session.calls`).  A program
answers every question as that list says (`Program.Answers`): the last call that tells something is the one that
holds, and calls about a symbol or a site go by its identity and not by its name.

* A command does to a program what its call does (`getElem?_programs_step`), so a program is what its calls make of an
  empty one, and none of them adds a symbol that another has added (`isHistory_calls`).
* The types of a program are those that calls have added, in order (`map_head_ofCalls`), and the sites likewise
  (`bindings_ofCalls`).
* The base and the attributes of a type are those that the last call about it has given (`exists_record?_ofCalls`),
  shadowed or not.
-/

namespace Rollcall

/-! ### Simple names -/

/-- What stands behind the last mark of a text, or the whole text. -/
private theorem Text.getLast_pieces (mark : Char) (cs : List Char) :
    ∃ a, (pieces mark cs).getLast? = some a ∧ mark ∉ a ∧ (cs = a ∨ ∃ b, cs = b ++ mark :: a) := by
  induction hn : cs.length using Nat.strongRecOn generalizing cs with
  | _ n ih =>
    by_cases hmem : mark ∈ cs
    · obtain ⟨first, rest, rfl, hfirst⟩ := List.eq_append_cons_of_mem hmem
      have hlt : rest.length < n := by
        simp only [List.length_append, List.length_cons] at hn
        omega
      obtain ⟨a, ha, hmark, hrest⟩ := ih _ hlt rest rfl
      refine ⟨a, ?_, hmark, .inr ?_⟩
      · rw [pieces_append hfirst, List.getLast?_cons, ha]
        rfl
      · rcases hrest with rfl | ⟨b, rfl⟩
        · exact ⟨first, rfl⟩
        · exact ⟨first ++ mark :: b, by simp⟩
    · exact ⟨cs, by rw [pieces_of_not_mem hmem]; rfl, hmem, .inl rfl⟩

namespace TypeName

/-- Whether a name is what stands behind the last dot of a full name, or the whole of it if it has no dot. -/
def IsLastSegment (fullName name : String) : Prop :=
  '.' ∉ name.toList ∧ (fullName = name ∨ ∃ qualifier, fullName = qualifier ++ "." ++ name)

theorem isLastSegment_lastSegment (fullName : String) : IsLastSegment fullName (lastSegment fullName) := by
  obtain ⟨a, ha, hdot, hsplit⟩ := Text.getLast_pieces '.' fullName.toList
  have hname : lastSegment fullName = String.ofList a := by
    rw [lastSegment, segments, List.getLastD_eq_getLast?, List.getLast?_map, ha]
    rfl
  rw [hname]
  refine ⟨by simpa using hdot, ?_⟩
  rcases hsplit with h | ⟨b, h⟩
  · exact .inl (by rw [← h, String.ofList_toList])
  · refine .inr ⟨String.ofList b, String.toList_injective ?_⟩
    simp [h]

end TypeName

/-! ### Calls -/

/-- A call that changes a program. -/
inductive Call where
  /-- Adds a type with what is given about it. -/
  | add (record : TypeRecord)
  | setBase (symbol : Symbol) (base : Option Symbol)
  | setAttributes (symbol : Symbol) (attributes : List Attribute)
  | addSite (site : Site) (symbol : Option Symbol)
deriving DecidableEq, Repr, Inhabited

namespace Call

/-- The type that a call adds. -/
def added? : Call → Option TypeRecord
  | .add record => some record
  | _ => none

/-- The type that a call adds under a full name. -/
def addedAs? (fullName : String) (call : Call) : Option TypeRecord :=
  call.added?.filter fun r => r.symbol.fullName == fullName

/-- The symbol of the type that a call declares. -/
def declared? (call : Call) : Option Symbol :=
  (call.added?.filter (·.isDeclared)).map (·.symbol)

/-- The base that a call gives to a type. -/
def base? (s : Symbol) : Call → Option (Option Symbol)
  | .add record => if record.symbol.same s then some record.base else none
  | .setBase symbol base => if symbol.same s then some base else none
  | _ => none

/-- The attributes that a call gives to a type. -/
def attributes? (s : Symbol) : Call → Option (List Attribute)
  | .add record => if record.symbol.same s then some record.attributes else none
  | .setAttributes symbol attributes => if symbol.same s then some attributes else none
  | _ => none

/-- The site that a call adds, with its symbol. -/
def site? : Call → Option (Site × Option Symbol)
  | .addSite site symbol => some (site, symbol)
  | _ => none

/-- The symbol to which a call binds a site. -/
def binding? (site : Site) (call : Call) : Option (Option Symbol) :=
  (call.site?.filter fun b => b.1.serial == site.serial).map (·.2)

theorem mem_filterMap_added {calls : List Call} {r : TypeRecord} :
    r ∈ calls.filterMap added? ↔ .add r ∈ calls := by
  rw [List.mem_filterMap]
  constructor
  · rintro ⟨call, hcall, hadd⟩
    cases call with
    | add record =>
      cases hadd
      exact hcall
    | _ => cases hadd
  · intro hr
    exact ⟨.add r, hr, rfl⟩

end Call

/-- What is told about a type once, when it is added: its symbol and whether it is declared. -/
def TypeRecord.head (r : TypeRecord) : Symbol × Bool :=
  (r.symbol, r.isDeclared)

/-- Whether `b` is what the last call that tells something tells. -/
def LastTold {β : Type} (tells : Call → Option β) (calls : List Call) (b : β) : Prop :=
  ∃ earlier call later, calls = earlier ++ call :: later ∧ tells call = some b ∧ ∀ c ∈ later, tells c = none

private theorem lastTold_iff {β : Type} {tells : Call → Option β} {calls : List Call} {b : β} :
    LastTold tells calls b ↔ calls.reverse.findSome? tells = some b := by
  rw [List.findSome?_eq_some_iff]
  constructor
  · rintro ⟨earlier, call, later, rfl, hb, hnone⟩
    refine ⟨later.reverse, call, earlier.reverse, by simp, hb, ?_⟩
    intro c hc
    exact hnone c (List.mem_reverse.mp hc)
  · rintro ⟨later, call, earlier, hsplit, hb, hnone⟩
    refine ⟨earlier.reverse, call, later.reverse, ?_, hb, ?_⟩
    · rw [← List.reverse_reverse calls, hsplit]
      simp
    · intro c hc
      exact hnone c (List.mem_reverse.mp hc)

private theorem lastTold_concat {β : Type} {tells : Call → Option β} {calls : List Call} {call : Call} {b : β}
    (h : tells call = some b) : LastTold tells (calls ++ [call]) b :=
  ⟨calls, call, [], rfl, h, fun _ hc => absurd hc List.not_mem_nil⟩

/-- A call that tells nothing leaves in force what was told before it. -/
theorem LastTold.concat {β : Type} {tells : Call → Option β} {calls : List Call} {b : β} (h : LastTold tells calls b)
    (call : Call) : LastTold tells (calls ++ [call]) ((tells call).getD b) := by
  cases hc : tells call with
  | some c => exact lastTold_concat hc
  | none =>
    obtain ⟨earlier, first, later, rfl, hb, hlater⟩ := h
    refine ⟨earlier, first, later ++ [call], by simp, hb, ?_⟩
    intro c hmem
    rcases List.mem_append.mp hmem with hmem | hmem
    · exact hlater c hmem
    · rw [List.mem_singleton.mp hmem, hc]

namespace Program

/-- The program after a call.  A call that is refused changes nothing. -/
def perform (p : Program) : Call → Program
  | .add record => p.add record
  | .setBase symbol base => (p.setBase? symbol base).getD p
  | .setAttributes symbol attributes => (p.setAttributes? symbol attributes).getD p
  | .addSite site symbol => p.addSite site symbol

/-- The program that calls make of an empty one. -/
def ofCalls (assembly : String) (calls : List Call) : Program :=
  calls.foldl perform (empty assembly)

theorem ofCalls_concat (assembly : String) (calls : List Call) (call : Call) :
    ofCalls assembly (calls ++ [call]) = (ofCalls assembly calls).perform call := by
  rw [ofCalls, List.foldl_append]
  rfl

/-! ### What is added and stays -/

theorem map_head_update (p : Program) (s : Symbol) {change : TypeRecord → TypeRecord}
    (h : ∀ r, (change r).head = r.head) : (p.update s change).records.map (·.head) = p.records.map (·.head) := by
  rw [update, List.map_map]
  refine List.map_congr_left fun r _ => ?_
  rw [Function.comp_apply]
  split
  · exact h r
  · rfl

private theorem map_head_perform (p : Program) (call : Call) :
    (p.perform call).records.map (·.head) = p.records.map (·.head) ++ call.added?.toList.map (·.head) := by
  cases call with
  | add record => simp [perform, add, Call.added?]
  | setBase symbol base =>
    simp only [perform, setBase?]
    split
    · simp only [Call.added?, Option.toList_none, List.map_nil, List.append_nil, Option.getD_some]
      exact map_head_update p symbol fun _ => rfl
    · simp [Call.added?]
  | setAttributes symbol attributes =>
    simp only [perform, setAttributes?]
    split
    · simp only [Call.added?, Option.toList_none, List.map_nil, List.append_nil, Option.getD_some]
      exact map_head_update p symbol fun _ => rfl
    · simp [Call.added?]
  | addSite site symbol => simp [perform, addSite, Call.added?]

/-- The types of a program are those that calls have added, in order. -/
theorem map_head_ofCalls (assembly : String) (calls : List Call) :
    (ofCalls assembly calls).records.map (·.head) = (calls.filterMap Call.added?).map (·.head) := by
  induction calls using List.reverseRecOn with
  | nil => rfl
  | append_singleton calls call ih =>
    have hlast : [call].filterMap Call.added? = call.added?.toList := by cases call <;> rfl
    rw [ofCalls_concat, map_head_perform, ih, List.filterMap_append, List.map_append, hlast]

private theorem bindings_perform (p : Program) (call : Call) :
    (p.perform call).bindings = p.bindings ++ call.site?.toList := by
  cases call with
  | add record => simp [perform, add, Call.site?]
  | setBase symbol base =>
    simp only [perform, setBase?]
    split <;> simp [update, Call.site?]
  | setAttributes symbol attributes =>
    simp only [perform, setAttributes?]
    split <;> simp [update, Call.site?]
  | addSite site symbol => rfl

theorem bindings_ofCalls (assembly : String) (calls : List Call) :
    (ofCalls assembly calls).bindings = calls.filterMap Call.site? := by
  induction calls using List.reverseRecOn with
  | nil => rfl
  | append_singleton calls call ih =>
    have hlast : [call].filterMap Call.site? = call.site?.toList := by cases call <;> rfl
    rw [ofCalls_concat, bindings_perform, ih, List.filterMap_append, hlast]

theorem map_head_find? (l : List TypeRecord) (fullName : String) :
    (l.reverse.find? fun r => r.symbol.fullName == fullName).map (·.head) =
      (l.map (·.head)).reverse.find? fun h => h.1.fullName == fullName := by
  rw [← List.map_reverse, List.find?_map]
  rfl

/-- The type known under a full name is the one that the last call has added under it. -/
private theorem map_head_latest?_ofCalls (assembly : String) (calls : List Call) (fullName : String) :
    ((ofCalls assembly calls).latest? fullName).map (·.head) =
      (calls.reverse.findSome? (Call.addedAs? fullName)).map (·.head) := by
  have hcalls : calls.reverse.findSome? (Call.addedAs? fullName) =
      (calls.filterMap Call.added?).reverse.find? fun r => r.symbol.fullName == fullName := by
    rw [← List.filterMap_reverse]
    exact findSome?_filter _ _ _
  rw [latest?, map_head_find?, hcalls, map_head_find?, map_head_ofCalls]

/-! ### What is told again and again -/

/-- A change of the record of a symbol changes that record, and is refused only where there is none. -/
private theorem record?_update {p : Program} {t : Symbol} {r : TypeRecord} (hr : p.record? t = some r) (s : Symbol)
    {change : TypeRecord → TypeRecord} (h : ∀ r, (change r).symbol = r.symbol) :
    ((if p.owns s then some (p.update s change) else none).getD p).record? t =
      some (if s.same t then change r else r) := by
  have hsame : s.same t = r.symbol.same s := by
    rw [Symbol.same, Symbol.same, serial_of_record? hr, Bool.beq_comm]
  have hfind : (p.update s change).record? t = some (if s.same t then change r else r) := by
    rw [record?_update_eq_map p s t h, hr, hsame]
    rfl
  split
  · exact hfind
  · next howns =>
    have hs : ¬ r.symbol.same s = true := by
      intro hs
      exact howns (List.any_eq_true.mpr ⟨r, List.mem_of_find?_eq_some hr, hs⟩)
    rw [hsame, if_neg hs]
    exact hr

/-- A call gives to a known type what it tells about it, and leaves the rest of it as it is. -/
private theorem record?_perform {p : Program} {t : Symbol} {r : TypeRecord} {call : Call} (hr : p.record? t = some r)
    (hnew : ∀ r', call = .add r' → r'.symbol.same t = false) :
    ∃ r', (p.perform call).record? t = some r' ∧ r'.base = (call.base? t).getD r.base ∧
      r'.attributes = (call.attributes? t).getD r.attributes := by
  cases call with
  | add record =>
    refine ⟨r, ?_, ?_, ?_⟩
    · rw [perform, add, record?, List.find?_append]
      exact congrArg (Option.or · _) hr
    · simp [Call.base?, hnew record rfl]
    · simp [Call.attributes?, hnew record rfl]
  | setBase s base =>
    refine ⟨_, record?_update hr s fun _ => rfl, ?_, ?_⟩
    · cases hs : s.same t <;> simp [Call.base?, hs]
    · cases s.same t <;> rfl
  | setAttributes s attributes =>
    refine ⟨_, record?_update hr s fun _ => rfl, ?_, ?_⟩
    · cases s.same t <;> rfl
    · cases hs : s.same t <;> simp [Call.attributes?, hs]
  | addSite site symbol => exact ⟨r, hr, rfl, rfl⟩

/-- Whether one of the calls adds the type of a symbol. -/
def Adds (calls : List Call) (t : Symbol) : Prop :=
  ∃ r, Call.add r ∈ calls ∧ r.symbol.same t = true

instance (calls : List Call) (t : Symbol) : Decidable (Adds calls t) :=
  decidable_of_iff (∃ r ∈ calls.filterMap Call.added?, r.symbol.same t = true)
    (by simp only [Call.mem_filterMap_added, Adds])

theorem owns_ofCalls_iff {assembly : String} {calls : List Call} {t : Symbol} :
    (ofCalls assembly calls).owns t = true ↔ Adds calls t := by
  have hany (l : List TypeRecord) : (l.any fun r => r.symbol.same t) = (l.map (·.head)).any fun h => h.1.same t := by
    rw [List.any_map]
    rfl
  rw [owns, hany, map_head_ofCalls, ← hany, List.any_eq_true]
  simp only [Call.mem_filterMap_added, Adds]

theorem record?_eq_none_iff {p : Program} {t : Symbol} : p.record? t = none ↔ p.owns t = false := by
  rw [record?, List.find?_eq_none, owns, List.any_eq_false]

/-- The base and the attributes of an added type are those that the calls told last. -/
theorem exists_record?_ofCalls (assembly : String) {calls : List Call} {t : Symbol}
    (hnew : (calls.filterMap Call.added?).Pairwise fun r r' => r.symbol.serial ≠ r'.symbol.serial)
    (ht : Adds calls t) :
    ∃ r, (ofCalls assembly calls).record? t = some r ∧ LastTold (Call.base? t) calls r.base ∧
      LastTold (Call.attributes? t) calls r.attributes := by
  induction calls using List.reverseRecOn with
  | nil =>
    obtain ⟨r, hr, -⟩ := ht
    exact absurd hr List.not_mem_nil
  | append_singleton calls call ih =>
    rw [List.filterMap_append, List.pairwise_append] at hnew
    obtain ⟨hold, -, hlast⟩ := hnew
    rw [ofCalls_concat]
    by_cases hcall : ∃ r, call = .add r ∧ r.symbol.same t = true
    · obtain ⟨r, rfl, hr⟩ := hcall
      have hnone : (ofCalls assembly calls).record? t = none := by
        rw [record?_eq_none_iff, Bool.eq_false_iff, Ne, owns_ofCalls_iff]
        rintro ⟨r', hr', hrt⟩
        refine hlast r' (Call.mem_filterMap_added.mpr hr') r (by simp [Call.added?]) ?_
        rw [Symbol.same_iff.mp hr, Symbol.same_iff.mp hrt]
      refine ⟨r, ?_, lastTold_concat (by simp [Call.base?, hr]), lastTold_concat (by simp [Call.attributes?, hr])⟩
      rw [record?] at hnone
      rw [perform, add, record?, List.find?_append, hnone]
      simp [hr]
    · have hearlier : Adds calls t := by
        obtain ⟨r, hr, hrt⟩ := ht
        rcases List.mem_append.mp hr with hr | hr
        · exact ⟨r, hr, hrt⟩
        · exact absurd ⟨r, (List.mem_singleton.mp hr).symm, hrt⟩ hcall
      obtain ⟨r, hr, hbase, hattributes⟩ := ih hold hearlier
      have hother : ∀ r', call = .add r' → r'.symbol.same t = false := by
        intro r' hadd
        rw [Bool.eq_false_iff]
        exact fun hrt => hcall ⟨r', hadd, hrt⟩
      obtain ⟨r', hr', hb, ha⟩ := record?_perform hr hother
      refine ⟨r', hr', ?_, ?_⟩
      · rw [hb]
        exact hbase.concat call
      · rw [ha]
        exact hattributes.concat call

/-! ### Answers -/

/-- Whether a program answers every question as calls say. -/
structure Answers (p : Program) (calls : List Call) : Prop where
  /-- A full name stands for the type that was added last under it. -/
  resolve : ∀ fullName t, p.resolve? fullName = some t ↔
    ∃ r, LastTold (Call.addedAs? fullName) calls r ∧ r.symbol = t
  /-- As a declared type it stands for the same one, if that was declared. -/
  lookup : ∀ fullName t, p.lookup? fullName = some t ↔
    ∃ r, LastTold (Call.addedAs? fullName) calls r ∧ r.isDeclared = true ∧ r.symbol = t
  base : ∀ t, Adds calls t → LastTold (Call.base? t) calls (p.baseOf? t)
  attributes : ∀ t, Adds calls t → LastTold (Call.attributes? t) calls (p.attributesOf t)
  /-- Nothing is known about a symbol of another program. -/
  foreign : ∀ t, ¬ Adds calls t → p.baseOf? t = none ∧ p.attributesOf t = []
  symbolOf : ∀ site t, p.symbolOf? site = some t ↔ LastTold (Call.binding? site) calls (some t)
  sites : p.sites = (calls.filterMap Call.site?).map (·.1)
  /-- The simple names of the declared types, each once and in the order in which they first appear. -/
  names : ∃ all, List.Forall₂ (fun t name => TypeName.IsLastSegment t.fullName name)
      (calls.filterMap Call.declared?) all ∧
    (∀ name, name ∈ p.declaredNames ↔ name ∈ all) ∧
    p.declaredNames.Pairwise fun a b => all.idxOf a < all.idxOf b

private theorem resolve?_ofCalls (assembly : String) (calls : List Call) (fullName : String) :
    (ofCalls assembly calls).resolve? fullName =
      (calls.reverse.findSome? (Call.addedAs? fullName)).map (·.symbol) := by
  have h := congrArg (Option.map Prod.fst) (map_head_latest?_ofCalls assembly calls fullName)
  rw [Option.map_map, Option.map_map] at h
  exact h

private theorem lookup?_ofCalls (assembly : String) (calls : List Call) (fullName : String) :
    (ofCalls assembly calls).lookup? fullName =
      ((calls.reverse.findSome? (Call.addedAs? fullName)).filter (·.isDeclared)).map (·.symbol) := by
  have hhead (r : Option TypeRecord) : (r.filter (·.isDeclared)).map (·.symbol) =
      ((r.map (·.head)).filter (·.2)).map (·.1) := by
    cases r with
    | none => rfl
    | some r => cases hd : r.isDeclared <;> simp [Option.filter, TypeRecord.head, hd]
  rw [lookup?, hhead, hhead, map_head_latest?_ofCalls]

theorem map_symbol_declared (l : List TypeRecord) :
    (l.filter (·.isDeclared)).map (·.symbol) = ((l.map (·.head)).filter (·.2)).map (·.1) := by
  rw [List.filter_map, List.map_map]
  rfl

private theorem declared_ofCalls (assembly : String) (calls : List Call) :
    ((ofCalls assembly calls).records.filter (·.isDeclared)).map (·.symbol) = calls.filterMap Call.declared? := by
  rw [map_symbol_declared, map_head_ofCalls, ← map_symbol_declared, List.filter_filterMap, List.map_filterMap]
  rfl

private theorem declaredNames_ofCalls (assembly : String) (calls : List Call) :
    (ofCalls assembly calls).declaredNames = ((calls.filterMap Call.declared?).map Symbol.name).eraseDups := by
  rw [← declared_ofCalls assembly, List.map_map]
  rfl

/-- A program that calls have made answers as they say, if no symbol is added twice. -/
private theorem answers_ofCalls (assembly : String) {calls : List Call}
    (hnew : (calls.filterMap Call.added?).Pairwise fun r r' => r.symbol.serial ≠ r'.symbol.serial) :
    (ofCalls assembly calls).Answers calls where
  resolve fullName t := by
    rw [resolve?_ofCalls, Option.map_eq_some_iff]
    simp only [lastTold_iff]
  lookup fullName t := by
    rw [lookup?_ofCalls, Option.map_eq_some_iff]
    simp only [lastTold_iff, Option.filter_eq_some_iff, and_assoc]
  base t ht := by
    obtain ⟨r, hr, hbase, -⟩ := exists_record?_ofCalls assembly hnew ht
    rw [baseOf?, hr]
    exact hbase
  attributes t ht := by
    obtain ⟨r, hr, -, hattributes⟩ := exists_record?_ofCalls assembly hnew ht
    rw [attributesOf, hr]
    exact hattributes
  foreign t ht := by
    have hnone : (ofCalls assembly calls).record? t = none := by
      rw [record?_eq_none_iff, Bool.eq_false_iff, Ne, owns_ofCalls_iff]
      exact ht
    rw [baseOf?, attributesOf, hnone]
    exact ⟨rfl, rfl⟩
  symbolOf site t := by
    have hbinding : calls.reverse.findSome? (Call.binding? site) =
        ((calls.filterMap Call.site?).reverse.find? fun b => b.1.serial == site.serial).map (·.2) := by
      rw [← List.filterMap_reverse, ← findSome?_filter, List.map_findSome?]
      rfl
    rw [symbolOf?, bindings_ofCalls, lastTold_iff, hbinding, Option.bind_eq_some_iff, Option.map_eq_some_iff]
  sites := by rw [Program.sites, bindings_ofCalls]
  names := by
    refine ⟨(calls.filterMap Call.declared?).map Symbol.name, ?_, ?_, ?_⟩
    · rw [List.forall₂_map_right_iff]
      exact List.forall₂_same.mpr fun t _ => TypeName.isLastSegment_lastSegment t.fullName
    · intro name
      rw [declaredNames_ofCalls, List.mem_eraseDups]
    · rw [declaredNames_ofCalls]
      exact pairwise_idxOf_eraseDups _

end Program

namespace Session

/-! ### Calls of a session -/

/-- The call that a command makes, with the number of the program.  The symbols and sites are those that the session
holds, or a new one. -/
def call? (s : Session) : Command → Option (Nat × Call)
  | .addExternal n fullName kind base => do
    return (n, .add ⟨(s.addSymbol fullName kind none).2, ← s.optionalSymbol? base, [], false⟩)
  | .declare n fullName kind location base attributes => do
    return (n, .add ⟨(s.addSymbol fullName kind location).2, ← s.optionalSymbol? base,
      ← attributes.mapM s.attribute?, true⟩)
  | .setBase n symbol base => do
    return (n, .setBase (← s.symbols[symbol]?) (← s.optionalSymbol? base))
  | .setAttributes n symbol attributes => do
    return (n, .setAttributes (← s.symbols[symbol]?) (← attributes.mapM s.attribute?))
  | .addNewSite n draft symbol => do
    return (n, .addSite (s.addDraft draft).2 (← s.optionalSymbol? symbol))
  | .addSite n site symbol => do
    return (n, .addSite (← s.sites[site]?) (← s.optionalSymbol? symbol))
  | _ => none

/-- The call that a command makes to one of the programs. -/
def callTo? (s : Session) (n : Nat) (command : Command) : Option Call := do
  let _ ← s.programs[n]?
  let (program, call) ← s.call? command
  if program = n then some call else none

/-- The calls that commands make to one of the programs, in order. -/
def callsFrom (s : Session) (n : Nat) : List Command → List Call
  | [] => []
  | command :: commands => (s.callTo? n command).toList ++ (s.step command).session.callsFrom n commands

/-- The calls that commands make to one of the programs, from the session in which nothing has been made. -/
def calls (n : Nat) (commands : List Command) : List Call :=
  empty.callsFrom n commands

/-- The program that a command makes. -/
def newProgram? : Command → Option Program
  | .newProgram assembly => some (Program.empty assembly)
  | _ => none

/-- The programs after a command: one of them after the call, and a new one. -/
private theorem programs_step (s : Session) (command : Command) :
    (s.step command).session.programs =
      (match s.call? command with
        | some (n, call) => s.programs.modify n (·.perform call)
        | none => s.programs) ++ (newProgram? command).toList := by
  unfold step
  cases command with
  | newProgram assembly => rfl
  | newSymbol fullName kind => exact (List.append_nil _).symm
  | newSite draft => exact (List.append_nil _).symm
  | addExternal n fullName kind base =>
    simp only [step?, call?, newProgram?]
    cases s.optionalSymbol? base <;> cases hp : s.programs[n]? <;>
      simp [List.modify_eq_set_getElem?, hp, answer, putProgram, addSymbol, Program.perform, Program.addExternal]
  | declare n fullName kind location base attributes =>
    simp only [step?, call?, newProgram?]
    cases s.optionalSymbol? base <;> cases attributes.mapM s.attribute? <;> cases hp : s.programs[n]? <;>
      simp [List.modify_eq_set_getElem?, hp, answer, putProgram, addSymbol, Program.perform, Program.declare]
  | setBase n symbol base =>
    simp only [step?, call?, newProgram?]
    cases s.symbols[symbol]? <;> cases s.optionalSymbol? base <;> cases hp : s.programs[n]? <;>
      simp [List.modify_eq_set_getElem?, hp, answer, Program.perform]
    next t b p =>
      -- a refused call puts the program back in its place
      cases p.setBase? t b <;> simp [putProgram, set_eq_self hp]
  | setAttributes n symbol attributes =>
    simp only [step?, call?, newProgram?]
    cases s.symbols[symbol]? <;> cases attributes.mapM s.attribute? <;> cases hp : s.programs[n]? <;>
      simp [List.modify_eq_set_getElem?, hp, answer, Program.perform]
    next t a p => cases p.setAttributes? t a <;> simp [putProgram, set_eq_self hp]
  | addNewSite n draft symbol =>
    simp only [step?, call?, newProgram?]
    cases s.optionalSymbol? symbol <;> cases hp : s.programs[n]? <;>
      simp [List.modify_eq_set_getElem?, hp, answer, putProgram, addDraft, Program.perform]
  | addSite n site symbol =>
    simp only [step?, call?, newProgram?]
    cases s.sites[site]? <;> cases s.optionalSymbol? symbol <;> cases hp : s.programs[n]? <;>
      simp [List.modify_eq_set_getElem?, hp, answer, putProgram, Program.perform]
  | _ =>
    cases h : s.step? _ with
    | none => simp [call?, newProgram?, answer]
    | some st =>
      simp only [step?, Option.bind_eq_bind, Option.bind_eq_some_iff, Option.pure_def, Option.some.injEq] at h
      simp only [call?, newProgram?, Option.toList_none, List.append_nil, Option.getD_some]
      grind [putAnalysis, keepReport, answer]

private theorem callTo?_eq_some_iff {s : Session} {n : Nat} {command : Command} {call : Call} :
    s.callTo? n command = some call ↔ (∃ p, s.programs[n]? = some p) ∧ s.call? command = some (n, call) := by
  simp only [callTo?, Option.bind_eq_bind, Option.bind_eq_some_iff, Prod.exists]
  constructor
  · rintro ⟨p, hp, m, c, hc, h⟩
    obtain ⟨hm, hcall⟩ := Option.ite_none_right_eq_some.mp h
    rw [← hm, ← Option.some.inj hcall]
    exact ⟨⟨p, hm ▸ hp⟩, hc⟩
  · rintro ⟨⟨p, hp⟩, hc⟩
    exact ⟨p, hp, n, call, hc, if_pos rfl⟩

private theorem callTo?_of_no_program {s : Session} {n : Nat} (h : s.programs[n]? = none) (command : Command) :
    s.callTo? n command = none := by
  rw [callTo?, h]
  rfl

/-- A command does to a program what its call does. -/
theorem getElem?_programs_step {s : Session} {n : Nat} {p : Program} (hp : s.programs[n]? = some p)
    (command : Command) :
    (s.step command).session.programs[n]? = some ((s.callTo? n command).elim p p.perform) := by
  have hlt := (List.getElem?_eq_some_iff.mp hp).1
  rw [programs_step]
  cases hc : s.call? command with
  | none =>
    have hnone : s.callTo? n command = none := by rw [callTo?, hp, hc]; rfl
    rw [hnone, List.getElem?_append_left hlt, hp]
    rfl
  | some target =>
    obtain ⟨m, call⟩ := target
    have hto : s.callTo? n command = if m = n then some call else none := by rw [callTo?, hp, hc]; rfl
    rw [List.getElem?_append_left (by simpa using hlt), List.getElem?_modify, hp, hto]
    by_cases hm : m = n <;> simp [hm]

/-- A program that is new after a command is empty. -/
private theorem eq_empty_of_new {s : Session} {n : Nat} {q : Program} {command : Command} (hp : s.programs[n]? = none)
    (hq : (s.step command).session.programs[n]? = some q) : ∃ assembly, q = Program.empty assembly := by
  have hle := List.getElem?_eq_none_iff.mp hp
  rw [programs_step] at hq
  have hlen : (match s.call? command with
      | some (n, call) => s.programs.modify n (·.perform call)
      | none => s.programs).length = s.programs.length := by
    split <;> simp
  rw [List.getElem?_append_right (by omega)] at hq
  have hmem := List.mem_of_getElem? hq
  cases command with
  | newProgram assembly => exact ⟨assembly, by simpa [newProgram?] using hmem⟩
  | _ => simp [newProgram?] at hmem

private theorem length_symbols_le_step (s : Session) (command : Command) :
    s.symbols.length ≤ (s.step command).session.symbols.length := by
  have h := effect_step s command
  generalize (s.step command).session = s' at h
  cases h with
  | idle programs symbols sites => exact Nat.le_of_eq (congrArg List.length symbols.symm)
  | newSymbol fullName kind location => simp [addSymbol]
  | addExternal fullName kind program hbase => simp [addSymbol, putProgram]
  | declare fullName kind location program hbase hattributes => simp [addSymbol, putProgram]
  | _ => exact Nat.le_refl _

/-- A type is added with a new symbol. -/
private theorem serial_of_callTo?_add {s : Session} {n : Nat} {command : Command} {r : TypeRecord}
    (h : s.callTo? n command = some (.add r)) :
    r.symbol.serial = s.symbols.length ∧ s.symbols.length < (s.step command).session.symbols.length := by
  obtain ⟨⟨p, hp⟩, hc⟩ := callTo?_eq_some_iff.mp h
  cases command with
  | addExternal m fullName kind base =>
    simp only [call?, Option.bind_eq_bind, Option.bind_eq_some_iff, Option.pure_def, Option.some.injEq,
      Prod.mk.injEq, Call.add.injEq] at hc
    obtain ⟨b, hb, rfl, rfl⟩ := hc
    simp [step, step?, hp, hb, addSymbol, putProgram, answer]
  | declare m fullName kind location base attributes =>
    simp only [call?, Option.bind_eq_bind, Option.bind_eq_some_iff, Option.pure_def, Option.some.injEq,
      Prod.mk.injEq, Call.add.injEq] at hc
    obtain ⟨b, hb, a, ha, rfl, rfl⟩ := hc
    simp [step, step?, hp, hb, ha, addSymbol, putProgram, answer]
  | _ => simp [call?, Option.bind_eq_some_iff] at hc

/-! ### The run -/

private theorem after_concat (commands : List Command) (command : Command) :
    after (commands ++ [command]) = ((after commands).step command).session := by
  rw [after, List.foldl_append]
  rfl

private theorem calls_concat (n : Nat) (commands : List Command) (command : Command) :
    calls n (commands ++ [command]) = calls n commands ++ ((after commands).callTo? n command).toList := by
  have hfrom (s : Session) : s.callsFrom n (commands ++ [command]) = s.callsFrom n commands ++
      ((commands.foldl (fun s command => (s.step command).session) s).callTo? n command).toList := by
    induction commands generalizing s with
    | nil => exact List.append_nil _
    | cons first commands ih =>
      rw [List.cons_append, callsFrom, callsFrom, ih, List.append_assoc]
      rfl
  exact hfrom empty

/-- Whether calls are the history of a program of a session, if it has the program. -/
structure IsHistory (s : Session) (n : Nat) (calls : List Call) : Prop where
  program : ∀ p, s.programs[n]? = some p → ∃ assembly, p = Program.ofCalls assembly calls
  absent : s.programs[n]? = none → calls = []
  /-- No symbol is added twice. -/
  new : (calls.filterMap Call.added?).Pairwise fun r r' => r.symbol.serial ≠ r'.symbol.serial
  numbered : ∀ r, .add r ∈ calls → r.symbol.serial < s.symbols.length

theorem IsHistory.step {s : Session} {n : Nat} {calls : List Call} (h : s.IsHistory n calls) (command : Command) :
    (s.step command).session.IsHistory n (calls ++ (s.callTo? n command).toList) := by
  cases hp : s.programs[n]? with
  | none =>
    rw [callTo?_of_no_program hp, h.absent hp]
    refine ⟨fun q hq => ?_, fun _ => rfl, .nil, fun r hr => absurd hr List.not_mem_nil⟩
    obtain ⟨assembly, rfl⟩ := eq_empty_of_new hp hq
    exact ⟨assembly, rfl⟩
  | some p =>
    have hnext := getElem?_programs_step hp command
    have hadded {r : TypeRecord} (hr : .add r ∈ (s.callTo? n command).toList) :=
      serial_of_callTo?_add (Option.mem_toList.mp hr)
    obtain ⟨assembly, rfl⟩ := h.program p hp
    refine ⟨fun q hq => ⟨assembly, ?_⟩, fun hq => ?_, ?_, fun r hr => ?_⟩
    · rw [Option.some.inj (hq.symm.trans hnext)]
      cases s.callTo? n command with
      | none => rw [Option.toList_none, List.append_nil]; rfl
      | some call => exact (Program.ofCalls_concat assembly calls call).symm
    · exact absurd (hq.symm.trans hnext) (by simp)
    · rw [List.filterMap_append, List.pairwise_append]
      refine ⟨h.new, ?_, fun r hr r' hr' => ?_⟩
      · cases s.callTo? n command with
        | none => exact .nil
        | some call =>
          cases call with
          | add record => exact List.pairwise_singleton _ record
          | _ => exact .nil
      · have := h.numbered r (Call.mem_filterMap_added.mp hr)
        have := hadded (Call.mem_filterMap_added.mp hr')
        omega
    · rcases List.mem_append.mp hr with hr | hr
      · have := h.numbered r hr
        have := length_symbols_le_step s command
        omega
      · have := hadded hr
        omega

theorem isHistory_calls (n : Nat) (commands : List Command) : (after commands).IsHistory n (calls n commands) := by
  induction commands using List.reverseRecOn with
  | nil =>
    refine ⟨fun p hp => absurd hp ?_, fun _ => rfl, .nil, fun r hr => absurd hr List.not_mem_nil⟩
    simp [after, empty]
  | append_singleton commands command ih =>
    rw [after_concat, calls_concat]
    exact ih.step command

/-! ### Refused calls -/

/-- A change of a symbol that the program has not added is refused and changes nothing. -/
private theorem step_setBase_of_foreign {s : Session} {n i : Nat} {p : Program} {t : Symbol} {base : Option Nat}
    {b : Option Symbol} (hp : s.programs[n]? = some p) (ht : s.symbols[i]? = some t)
    (hb : s.optionalSymbol? base = some b) (howns : p.owns t = false) :
    s.step (.setBase n i base) = ⟨s, .foreignSymbol, []⟩ := by
  simp [step, step?, hp, ht, hb, Program.setBase?, howns, answer]

private theorem step_setAttributes_of_foreign {s : Session} {n i : Nat} {p : Program} {t : Symbol}
    {given : List GivenAttribute} {a : List Attribute} (hp : s.programs[n]? = some p) (ht : s.symbols[i]? = some t)
    (ha : given.mapM s.attribute? = some a) (howns : p.owns t = false) :
    s.step (.setAttributes n i given) = ⟨s, .foreignSymbol, []⟩ := by
  simp [step, step?, hp, ht, ha, Program.setAttributes?, howns, answer]

/-- Every program answers as the calls say that were made to it, and refuses changes of symbols that none of them has
added. -/
theorem answers_after (commands : List Command) {n : Nat} {p : Program}
    (hp : (after commands).programs[n]? = some p) :
    p.Answers (calls n commands) ∧
      ∀ i t, (after commands).symbols[i]? = some t → ¬ Program.Adds (calls n commands) t →
        (∀ base b, (after commands).optionalSymbol? base = some b →
          (after commands).step (.setBase n i base) = ⟨after commands, .foreignSymbol, []⟩) ∧
        ∀ given a, given.mapM (after commands).attribute? = some a →
          (after commands).step (.setAttributes n i given) = ⟨after commands, .foreignSymbol, []⟩ := by
  have h := isHistory_calls n commands
  obtain ⟨assembly, rfl⟩ := h.program p hp
  refine ⟨Program.answers_ofCalls assembly h.new, fun i t ht hforeign => ?_⟩
  have howns : (Program.ofCalls assembly (calls n commands)).owns t = false := by
    rw [Bool.eq_false_iff, Ne, Program.owns_ofCalls_iff]
    exact hforeign
  constructor
  · intro base b hb
    exact step_setBase_of_foreign hp ht hb howns
  · intro given a ha
    exact step_setAttributes_of_foreign hp ht ha howns

/-- A history in which an external type shadows a declared one, whose base is set afterwards, and in which the base of a
symbol of another program is set in vain. -/
theorem answers_after_shadowed :
    let commands : List Command := [
      .newProgram "App",
      .newProgram "Lib",
      .declare 0 "N.Model" .classType none none [],
      .addExternal 1 "Base" .classType none,
      .addExternal 0 "N.Model" .classType none,
      .setBase 0 0 (some 1),
      .setBase 0 1 (some 0),
      .addNewSite 0 ⟨.classType, "Model", [], none, false⟩ (some 0)]
    let model : Symbol := ⟨0, "N.Model", .classType, none⟩
    let base : Symbol := ⟨1, "Base", .classType, none⟩
    ∃ p, (after commands).programs[0]? = some p ∧ p.baseOf? model = some base ∧ p.lookup? "N.Model" = none ∧
      p.Answers (calls 0 commands) ∧ (after commands).symbols[1]? = some base ∧
      ¬ Program.Adds (calls 0 commands) base ∧
      (after commands).step (.setBase 0 1 none) = ⟨after commands, .foreignSymbol, []⟩ := by
  intro commands model base
  obtain ⟨p, hp, hbase, hlookup⟩ : ∃ p, (after commands).programs[0]? = some p ∧ p.baseOf? model = some base ∧
      p.lookup? "N.Model" = none := ⟨_, rfl, by decide +kernel, by decide +kernel⟩
  have hsymbol : (after commands).symbols[1]? = some base := by decide +kernel
  have hforeign : ¬ Program.Adds (calls 0 commands) base := by decide +kernel
  obtain ⟨hanswers, hrefused⟩ := answers_after commands hp
  exact ⟨p, hp, hbase, hlookup, hanswers, hsymbol, hforeign, (hrefused 1 base hsymbol hforeign).1 none none rfl⟩

end Session

end Rollcall
