import Rollcall.Proofs.Ancestry
import Rollcall.Proofs.Lists
import Rollcall.Proofs.Loading

/-!
# Graphs of the same shape

Two programs may know the same types under different serial numbers and locations and in another order (`SameShape`).  They
bind names to types of the same full name and kind (`SameTypes.resolveIn?`), and when serial numbers tell types
apart and bases are current in both (`Coherent`), types derive from types of the same full names (`SameShape.derives`) and a
registry is found under the same simple names (`SameShape.registryNamed?`).

The registry is the first in the order of the declared names that qualifies (`registry?_eq_findSome?`).
-/

namespace Rollcall

/-- What a symbol says apart from its serial number and its location. -/
def Symbol.nameAndKind (s : Symbol) : String × TypeKind :=
  (s.fullName, s.kind)

namespace Program

/-! ### The registry by its simple name -/

/-- The type that qualifies as the registry under some simple name. -/
def registryNamed? (p : Program) (name : String) : Option Symbol :=
  (p.resolve? registryBase).bind fun base => (p.registryCandidate? name).filter (p.qualifies base)

/-- The full name of the registry. -/
def registryName? (p : Program) : Option String :=
  p.registry?.map (·.fullName)

private theorem locateAmong_eq_findSome? (p : Program) (base : Symbol) (names : List String) :
    (p.locateAmong base names).1 = names.findSome? fun name => (p.registryCandidate? name).filter (p.qualifies base) := by
  induction names with
  | nil => rfl
  | cons name names ih =>
    rw [locateAmong, List.findSome?_cons]
    cases p.registryCandidate? name with
    | none => exact ih
    | some candidate =>
      cases hq : p.qualifies base candidate with
      | true => simp [hq, Option.filter]
      | false => simpa [hq, Option.filter] using ih

private theorem nodup_registryLikeNames (p : Program) : p.registryLikeNames.Nodup :=
  (nodup_eraseDups _).filter _

/-- The registry is the first type that qualifies, in the order of the declared names. -/
theorem registry?_eq_findSome? (p : Program) : p.registry? = p.registryLikeNames.findSome? p.registryNamed? := by
  unfold registry? locate registryNamed?
  cases p.resolve? registryBase with
  | none =>
    symm
    exact List.findSome?_eq_none_iff.mpr fun _ _ => rfl
  | some base => exact locateAmong_eq_findSome? p base p.registryLikeNames

/-! ### Programs that know the same types -/

/-- Programs in which every full name stands for a type of the same kind, or for none. -/
def SameTypes (p q : Program) : Prop :=
  ∀ fullName, (q.resolve? fullName).map Symbol.nameAndKind = (p.resolve? fullName).map Symbol.nameAndKind

variable {p q : Program}

theorem SameTypes.resolveIn? (h : SameTypes p q) (scope : Scope) (written : String) :
    (q.resolveIn? scope written).map Symbol.nameAndKind = (p.resolveIn? scope written).map Symbol.nameAndKind := by
  unfold Program.resolveIn?
  dsimp only
  split
  · rfl
  · split
    · exact h _
    · rw [List.map_findSome?, List.map_findSome?]
      exact congrArg (List.findSome? · _) (funext h)

theorem SameTypes.resolveAttributeIn? (h : SameTypes p q) (scope : Scope) (written : String) :
    (q.resolveAttributeIn? scope written).map Symbol.nameAndKind =
      (p.resolveAttributeIn? scope written).map Symbol.nameAndKind := by
  unfold Program.resolveAttributeIn?
  dsimp only
  split
  · exact h.resolveIn? _ _
  · simp only [Option.orElse_eq_orElse, Option.orElse_eq_or, Option.map_or, h.resolveIn?]

theorem SameTypes.resolveOperandIn? (h : SameTypes p q) (scope : Scope) (operand : String) :
    (q.resolveOperandIn? scope operand).map Symbol.nameAndKind =
      (p.resolveOperandIn? scope operand).map Symbol.nameAndKind := by
  unfold Program.resolveOperandIn?
  dsimp only
  split
  · rfl
  · exact h.resolveIn? _ _

private theorem map_fullName_eq {x y : Option Symbol} (h : x.map Symbol.nameAndKind = y.map Symbol.nameAndKind) :
    x.map (·.fullName) = y.map (·.fullName) := by
  have := congrArg (Option.map Prod.fst) h
  rwa [Option.map_map, Option.map_map] at this

theorem SameTypes.type_bindAttribute (h : SameTypes p q) (scope : Scope) (written : WrittenAttribute) :
    (q.bindAttribute scope written).type = (p.bindAttribute scope written).type := by
  rw [Program.type_bindAttribute, Program.type_bindAttribute, map_fullName_eq (h.resolveAttributeIn? _ _)]

theorem SameTypes.registers_iff (h : SameTypes p q) {scope : Scope} {a : WrittenAttribute} {fullName : String} :
    q.Registers scope a fullName ↔ p.Registers scope a fullName := by
  have hiff (r : Program) : r.Registers scope a fullName ↔
      (r.resolveAttributeIn? scope a.name).map (·.fullName) = some registrationAttribute ∧
        ∃ operand, a.arguments.head? = some (.typeof operand) ∧
          (r.resolveOperandIn? scope operand).map (·.fullName) = some fullName := by
    unfold Registers
    refine and_congr Option.map_eq_some_iff.symm (exists_congr fun operand => ?_)
    rw [exists_and_left]
    refine and_congr Iff.rfl ?_
    rw [Option.map_eq_some_iff]
    simp only [bindArgument_typeof]
  rw [hiff, hiff, map_fullName_eq (h.resolveAttributeIn? scope a.name)]
  simp only [map_fullName_eq (h.resolveOperandIn? scope _)]

theorem SameTypes.baseOfPart? (h : SameTypes p q) (part : Declaration) :
    (TypeGroup.baseOfPart? q part).map Symbol.nameAndKind = (TypeGroup.baseOfPart? p part).map Symbol.nameAndKind := by
  -- whether a type is an interface shows in its kind
  have hfilter (x : Option Symbol) : (x.filter fun s => s.kind != .interfaceType).map Symbol.nameAndKind =
      (x.map Symbol.nameAndKind).filter fun n => n.2 != .interfaceType := by
    rw [Option.filter_map]
    rfl
  unfold TypeGroup.baseOfPart?
  rw [List.map_findSome?, List.map_findSome?]
  refine congrArg (List.findSome? · part.bases) (funext fun written => ?_)
  simp only [Function.comp_def, hfilter, h.resolveIn?]

/-! ### Programs of the same shape -/

/-- Whether the types that names stand for are told apart by their serial numbers and have bases that names stand for. -/
structure Coherent (p : Program) : Prop where
  eq_of_serial : ∀ {s t : Symbol}, p.resolve? s.fullName = some s → p.resolve? t.fullName = some t →
    s.serial = t.serial → s = t
  currentBase : ∀ {s b : Symbol}, p.resolve? s.fullName = some s → p.baseOf? s = some b →
    p.resolve? b.fullName = some b

/-- Programs that know the same types but for serial numbers, locations and order. -/
structure SameShape (p q : Program) : Prop where
  assembly : q.assembly = p.assembly
  types : SameTypes p q
  declared : ∀ fullName, (q.lookup? fullName).isSome = (p.lookup? fullName).isSome
  names : ∀ name, name ∈ q.declaredNames ↔ name ∈ p.declaredNames
  base : ∀ {fullName : String} {s t : Symbol}, p.resolve? fullName = some s → q.resolve? fullName = some t →
    (q.baseOf? t).map Symbol.nameAndKind = (p.baseOf? s).map Symbol.nameAndKind
  registers : ∀ {fullName : String} {s t : Symbol}, p.resolve? fullName = some s → q.resolve? fullName = some t →
    (q.entriesOf t).isEmpty = (p.entriesOf s).isEmpty

theorem resolve?_of_lookup? {fullName : String} {s : Symbol} (h : p.lookup? fullName = some s) :
    p.resolve? fullName = some s := by
  obtain ⟨r, hr, rfl⟩ := Option.map_eq_some_iff.mp h
  exact Option.map_eq_some_iff.mpr ⟨r, (Option.filter_eq_some_iff.mp hr).1, rfl⟩

private theorem resolve?_of_registryCandidate? {name : String} {s : Symbol} (h : p.registryCandidate? name = some s) :
    p.resolve? s.fullName = some s := by
  obtain ⟨fullName, -, hs⟩ := List.exists_of_findSome?_eq_some h
  exact resolve?_fullName (resolve?_of_lookup? hs)

/-- Every type from which a type derives that a name stands for is such a type, too. -/
private theorem Coherent.current_of_derives (hp : Coherent p) {s b : Symbol} (hs : p.resolve? s.fullName = some s)
    (hb : p.Derives s b) : p.resolve? b.fullName = some b := by
  induction hb with
  | single hbase => exact hp.currentBase hs hbase
  | tail _ hbase ih => exact hp.currentBase ih hbase

theorem Coherent.inherits_iff (hp : Coherent p) {s base : Symbol} (hs : p.resolve? s.fullName = some s)
    (hbase : p.resolve? base.fullName = some base) : p.inherits s base = true ↔ p.Derives s base := by
  rw [inherits_iff_derives]
  constructor
  · rintro ⟨b, hb, hserial⟩
    rwa [← hp.eq_of_serial (hp.current_of_derives hs hb) hbase hserial]
  · intro hd
    exact ⟨base, hd, rfl⟩

namespace SameShape

theorem symm (h : SameShape p q) : SameShape q p where
  assembly := h.assembly.symm
  types fullName := (h.types fullName).symm
  declared fullName := (h.declared fullName).symm
  names name := (h.names name).symm
  base hs ht := (h.base ht hs).symm
  registers hs ht := (h.registers ht hs).symm

/-- Types of the same full name derive from types of the same full names. -/
private theorem exists_derives (h : SameShape p q) (hp : Coherent p) (hq : Coherent q) {s t b : Symbol}
    (hs : p.resolve? s.fullName = some s) (ht : q.resolve? t.fullName = some t) (hname : t.fullName = s.fullName)
    (hb : p.Derives s b) : ∃ c, q.Derives t c ∧ c.fullName = b.fullName := by
  -- one step to the base in both programs, from types of the same full name
  have hstep {s t b : Symbol} (hs : p.resolve? s.fullName = some s) (ht : q.resolve? t.fullName = some t)
      (hname : t.fullName = s.fullName) (hb : p.baseOf? s = some b) :
      ∃ c, q.baseOf? t = some c ∧ c.fullName = b.fullName := by
    have hbase := h.base hs (hname ▸ ht)
    rw [hb, Option.map_some, Option.map_eq_some_iff] at hbase
    obtain ⟨c, hc, hcb⟩ := hbase
    exact ⟨c, hc, congrArg Prod.fst hcb⟩
  induction hb with
  | single hbase =>
    obtain ⟨c, hc, hcb⟩ := hstep hs ht hname hbase
    exact ⟨c, .single hc, hcb⟩
  | tail hm hbase ih =>
    obtain ⟨c, hc, hcm⟩ := ih
    obtain ⟨d, hd, hdb⟩ := hstep (hp.current_of_derives hs hm) (hq.current_of_derives ht hc) hcm hbase
    exact ⟨d, .tail hc hd, hdb⟩

theorem derives (h : SameShape p q) (hp : Coherent p) (hq : Coherent q) {s t base base' : Symbol}
    (hs : p.resolve? s.fullName = some s) (ht : q.resolve? t.fullName = some t) (hname : t.fullName = s.fullName)
    (hbase' : q.resolve? base'.fullName = some base') (hbases : base'.fullName = base.fullName)
    (hd : p.Derives s base) : q.Derives t base' := by
  obtain ⟨c, hc, hcb⟩ := h.exists_derives hp hq hs ht hname hd
  have hcurrent := hq.current_of_derives ht hc
  rw [hcb, ← hbases, hbase'] at hcurrent
  rwa [Option.some.inj hcurrent]

theorem qualifies (h : SameShape p q) (hp : Coherent p) (hq : Coherent q) {s t base base' : Symbol}
    (hs : p.resolve? s.fullName = some s) (ht : q.resolve? t.fullName = some t) (hname : t.fullName = s.fullName)
    (hbase : p.resolve? base.fullName = some base) (hbase' : q.resolve? base'.fullName = some base')
    (hbases : base'.fullName = base.fullName) : q.qualifies base' t = p.qualifies base s := by
  have hinherits : q.inherits t base' = p.inherits s base := by
    rw [Bool.eq_iff_iff, hp.inherits_iff hs hbase, hq.inherits_iff ht hbase']
    constructor
    · exact h.symm.derives hq hp ht hs hname.symm hbase hbases.symm
    · exact h.derives hp hq hs ht hname hbase' hbases
  rw [Program.qualifies, Program.qualifies, hinherits, h.registers hs (hname ▸ ht)]

theorem registryCandidate? (h : SameShape p q) (name : String) :
    (q.registryCandidate? name).map (·.fullName) = (p.registryCandidate? name).map (·.fullName) := by
  have hlookup (fullName : String) :
      (q.lookup? fullName).map (·.fullName) = (p.lookup? fullName).map (·.fullName) := by
    rcases none_or_some_of_isSome_eq (h.declared fullName) with ⟨ht, hs⟩ | ⟨t, s, ht, hs⟩
    · rw [ht, hs]
    · rw [ht, hs, Option.map_some, Option.map_some, fullName_of_resolve? (resolve?_of_lookup? ht),
        fullName_of_resolve? (resolve?_of_lookup? hs)]
  rw [Program.registryCandidate?, Program.registryCandidate?, List.map_findSome?, List.map_findSome?, registryNames,
    registryNames, h.assembly]
  exact congrArg (List.findSome? · _) (funext hlookup)

theorem registryNamed? (h : SameShape p q) (hp : Coherent p) (hq : Coherent q) (name : String) :
    (q.registryNamed? name).map (·.fullName) = (p.registryNamed? name).map (·.fullName) := by
  unfold Program.registryNamed?
  rcases none_or_some_of_map_eq (map_fullName_eq (h.types registryBase)) with
    ⟨hbase', hbase⟩ | ⟨base', base, hbase', hbase, hbases⟩
  · rw [hbase', hbase]
    rfl
  · rw [hbase', hbase, Option.bind_some, Option.bind_some]
    rcases none_or_some_of_map_eq (h.registryCandidate? name) with ⟨ht, hs⟩ | ⟨t, s, ht, hs, hname⟩
    · rw [ht, hs]
      rfl
    · have hqualifies := h.qualifies hp hq (resolve?_of_registryCandidate? hs) (resolve?_of_registryCandidate? ht) hname
        (resolve?_fullName hbase) (resolve?_fullName hbase') hbases
      rw [ht, hs, Option.filter_some, Option.filter_some, hqualifies]
      split
      · exact congrArg some hname
      · rfl

private theorem perm_registryLikeNames (h : SameShape p q) : p.registryLikeNames.Perm q.registryLikeNames := by
  refine (List.perm_ext_iff_of_nodup (nodup_registryLikeNames p) (nodup_registryLikeNames q)).mpr fun name => ?_
  rw [registryLikeNames, registryLikeNames, List.mem_filter, List.mem_filter, h.names]

/-- When at most one simple name leads to a registry, the registry has the same full name. -/
theorem registryName? (h : SameShape p q) (hp : Coherent p) (hq : Coherent q)
    (hunique : ∀ name ∈ p.registryLikeNames, ∀ other ∈ p.registryLikeNames,
      (p.registryNamed? name).isSome = true → (p.registryNamed? other).isSome = true → name = other) :
    q.registryName? = p.registryName? := by
  -- two different names cannot both lead to a registry, so the order of the names does not matter
  have hpairwise : p.registryLikeNames.Pairwise fun name other =>
      (p.registryNamed? name).map (·.fullName) = none ∨ (p.registryNamed? other).map (·.fullName) = none := by
    refine (nodup_registryLikeNames p).imp_of_mem fun {name other} hname hother hne => ?_
    by_contra hboth
    simp only [Option.map_eq_none_iff, not_or, ← Option.isSome_iff_ne_none] at hboth
    exact hne (hunique name hname other hother hboth.1 hboth.2)
  rw [Program.registryName?, Program.registryName?, registry?_eq_findSome?, registry?_eq_findSome?,
    List.map_findSome?, List.map_findSome?]
  calc q.registryLikeNames.findSome? (Option.map (·.fullName) ∘ q.registryNamed?)
      = q.registryLikeNames.findSome? (Option.map (·.fullName) ∘ p.registryNamed?) :=
        congrArg (List.findSome? · _) (funext (h.registryNamed? hp hq))
    _ = p.registryLikeNames.findSome? (Option.map (·.fullName) ∘ p.registryNamed?) :=
        (findSome?_eq_of_perm h.perm_registryLikeNames hpairwise).symm

end SameShape

end Program

end Rollcall
