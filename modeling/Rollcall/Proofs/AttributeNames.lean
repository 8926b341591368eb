import Rollcall.Proofs.TypeSyntax

/-!
# The ending of attribute names

An attribute may leave out the ending of its type's name: `[Mark]` means the type `MarkAttribute`.  The ending is put behind
the key of the name, and the key ends in the arity if the name has arguments.

* Without arguments the short form of a name stands for what the long form stands for.
* With arguments the ending comes behind the arity, so the short form stands for another type or for none, unless an alias
  with a backtick in its name leads there (`resolveAttributeIn?_ending`).
-/

namespace Rollcall

open Text

namespace TypeName

/-! ### Names that are their own keys -/

/-- Whether nothing in a name is dropped or folded when its key is made. -/
def IsNormal (name : String) : Prop :=
  ∀ c ∈ name.toList, c ∉ ['<', '>', '?', ':'] ∧ isBlank c = false

theorem IsNormal.append {a b : String} (ha : IsNormal a) (hb : IsNormal b) : IsNormal (a ++ b) := by
  intro c hc
  rw [String.toList_append, List.mem_append] at hc
  rcases hc with hc | hc
  · exact ha c hc
  · exact hb c hc

theorem IsNormal.intercalate {parts : List String} (h : ∀ part ∈ parts, IsNormal part) :
    IsNormal (".".intercalate parts) := by
  have hdot : IsNormal "." := by
    intro c hc
    obtain rfl : c = '.' := by simpa using hc
    decide
  induction parts with
  | nil => exact fun c hc => absurd hc (by simp)
  | cons part parts ih =>
    have hpart := h part List.mem_cons_self
    have ih := ih fun q hq => h q (List.mem_cons_of_mem part hq)
    cases parts with
    | nil => simpa using hpart
    | cons part' parts =>
      rw [String.intercalate_cons_cons]
      exact (hpart.append hdot).append ih

theorem isBlank_of_isDigit {c : Char} (h : c.isDigit = true) : isBlank c = false := by
  have hbounds : 48 ≤ c.toNat ∧ c.toNat ≤ 57 := by
    simpa [Char.isDigit, UInt32.le_iff_toNat_le] using h
  simp only [isBlank, isMargin, Bool.or_eq_false_iff, Bool.and_eq_false_iff, decide_eq_false_iff_not, beq_eq_false_iff_ne]
  omega

private theorem Segment.isNormal_metadataName {g : Segment} (h : IsPlain g.name) : IsNormal g.metadataName := by
  intro c hc
  rcases mem_metadataName hc with hc | rfl | hc
  · obtain ⟨hmarks, hblank⟩ := h.2 c hc
    simp only [List.mem_cons, not_or] at hmarks ⊢
    exact ⟨⟨hmarks.2.1, hmarks.2.2.1, hmarks.2.2.2.2.1, hmarks.2.2.2.2.2.2⟩, hblank⟩
  · decide
  · refine ⟨fun hmark => ?_, isBlank_of_isDigit hc⟩
    simp only [List.mem_cons, List.not_mem_nil, or_false] at hmark
    rcases hmark with rfl | rfl | rfl | rfl <;> exact absurd hc (by decide)

theorem IsNormal.key_eq {name : String} (h : IsNormal name) : key name = name := by
  have hnot {c : Char} (hc : c ∈ ['<', '>', '?', ':']) : c ∉ name.toList := fun hmem => (h c hmem).1 hc
  have hblank : unblank name.toList = name.toList := by
    refine List.filter_eq_self.mpr fun c hc => ?_
    rw [(h c hc).2]
    rfl
  have hglobal : afterStart? globalQualifier name.toList = none := by
    by_contra hsome
    obtain ⟨rest, hrest⟩ := Option.ne_none_iff_exists'.mp hsome
    refine hnot (c := ':') (by simp) ?_
    rw [afterStart?_eq_some_iff.mp hrest]
    exact List.mem_append_left _ (by decide)
  have hmarks : dropEndWhile (· == '?') name.toList = name.toList := by
    have hlast : name.toList.getLast? ≠ some '?' := fun hlast => hnot (by simp) (List.mem_of_getLast? hlast)
    simpa using dropEndWhile_append_replicate hlast 0
  have hfold : foldArguments 0 0 name.toList = name.toList := by
    have hplain : ∀ c ∈ name.toList, c ≠ '<' ∧ c ≠ '>' := by
      intro c hc
      exact ⟨fun he => hnot (by simp) (he ▸ hc), fun he => hnot (by simp) (he ▸ hc)⟩
    simpa [foldArguments] using foldArguments_plain hplain 0 []
  rw [key, keyChars, hblank, dropGlobal, hglobal, Option.getD_none, hmarks, hfold, String.ofList_toList]

theorem NameSyntax.isNormal_shownName (n : NameSyntax) : IsNormal n.shownName :=
  .intercalate (List.forall_mem_map.mpr fun part _ => Segment.isNormal_metadataName part.name.isPlain)

/-! ### Last segments of what is found -/

private theorem cutAt_fst_of_snd_none {mark : Char} {cs : List Char} (h : (cutAt mark cs).2 = none) :
    (cutAt mark cs).1 = cs := by
  induction cs with
  | nil => rfl
  | cons c cs ih =>
    unfold cutAt at h ⊢
    split at h
    · exact absurd h (by simp)
    · next hc => rw [if_neg hc, ih h]

private theorem lastSegment_of_no_dot {name : String} (h : '.' ∉ name.toList) : lastSegment name = name := by
  rw [lastSegment, segments, pieces_of_not_mem h]
  simp

private theorem lastSegment_qualify {name : String} (h : '.' ∉ name.toList) (qualifier : String) :
    lastSegment (qualify qualifier name) = name := by
  unfold qualify
  split
  · exact lastSegment_of_no_dot h
  · rw [lastSegment_qualified, lastSegment_of_no_dot h]

/-- An alias in front of a dot does not change the last segment. -/
private theorem lastSegment_replaceHead {name target : String} (h : lastSegment name ≠ "") :
    lastSegment (replaceHead target name) = lastSegment name ∨ head name = name := by
  unfold replaceHead head
  rcases hcut : (cutAt '.' name.toList).2 with _ | _ | ⟨c, cs⟩
  · refine .inr ?_
    rw [cutAt_fst_of_snd_none hcut, String.ofList_toList]
  · -- nothing stands behind the dot, so the last segment is empty
    obtain ⟨hname, -⟩ := cutAt_eq_some_iff.mp (Prod.ext rfl hcut)
    have hsplit : name = String.ofList (cutAt '.' name.toList).1 ++ "." ++ "" := by
      apply String.toList_injective
      simpa using hname
    exact absurd (by rw [hsplit, lastSegment_qualified]; rfl) h
  · obtain ⟨hname, -⟩ := cutAt_eq_some_iff.mp (Prod.ext rfl hcut)
    have hsplit : name = String.ofList (cutAt '.' name.toList).1 ++ "." ++ String.ofList (c :: cs) := by
      apply String.toList_injective
      simpa using hname
    refine .inl ?_
    rw [lastSegment_qualified]
    conv_rhs => rw [hsplit, lastSegment_qualified]

end TypeName

/-- Whether an alias has a backtick in its name, which no identifier has. -/
def Scope.HasBacktickAlias (s : Scope) : Prop :=
  ∃ name target, s.aliases.target? name = some target ∧ '`' ∈ name.toList

namespace Program

variable {p : Program} {s : Scope} {written : String} {t : Symbol}

/-- A generic name stands for a type with the same last segment. -/
private theorem name_of_resolveIn? (h : p.resolveIn? s written = some t)
    (hmark : '`' ∈ (TypeName.lastSegment (TypeName.key written)).toList) :
    t.name = TypeName.lastSegment (TypeName.key written) ∨ s.HasBacktickAlias := by
  cases ha : s.aliases.target? (TypeName.head (TypeName.key written)) with
  | none =>
    refine .inl ?_
    rcases exists_qualifier_of_resolveIn? (Scope.aliased?_of_target? ha) h with hname | ⟨qualifier, hname⟩
    · rw [Symbol.name, hname]
    · rw [Symbol.name, hname, TypeName.lastSegment_qualified]
  | some target =>
    have haliased : s.aliased? (TypeName.key written) = some (TypeName.replaceHead target (TypeName.key written)) := by
      rw [Scope.aliased?_eq, ha]
      rfl
    have hne : TypeName.lastSegment (TypeName.key written) ≠ "" := by
      intro hempty
      rw [hempty] at hmark
      exact absurd hmark (by simp)
    rw [resolveIn?_of_aliased (ne_empty_of_resolveIn? h) haliased] at h
    rcases TypeName.lastSegment_replaceHead hne with hlast | hhead
    · rw [Symbol.name, fullName_of_resolve? h]
      exact .inl hlast
    · rw [hhead] at ha
      exact .inr ⟨_, target, ha, TypeName.mem_of_mem_lastSegment hmark⟩

private theorem resolveIn?_eq_of_key_eq {written' : String} (h : TypeName.key written = TypeName.key written') :
    p.resolveIn? s written = p.resolveIn? s written' := by
  rw [resolveIn?, resolveIn?, h]

/-- An attribute stands for what its key stands for, with the ending or without it. -/
private theorem resolveIn?_of_resolveAttributeIn? (h : p.resolveAttributeIn? s written = some t) :
    p.resolveIn? s (TypeName.key written ++ attributeEnding) = some t ∨
      p.resolveIn? s (TypeName.key written) = some t := by
  simp only [resolveAttributeIn?] at h
  split at h
  · exact .inr h
  · rw [Option.orElse_eq_orElse, Option.orElse_eq_or, Option.or_eq_some_iff] at h
    exact h.imp_right And.right

end Program

/-! ### Attribute names -/

namespace TypeName

private theorem isPlain_append_ending {name : String} (h : IsPlain name) : IsPlain (name ++ attributeEnding) := by
  refine ⟨fun hempty => h.1 (String.append_eq_empty_iff.mp hempty).1, fun c hc => ?_⟩
  rw [String.toList_append, List.mem_append] at hc
  rcases hc with hc | hc
  · exact h.2 c hc
  · have hplain : IsPlain attributeEnding := by decide
    exact hplain.2 c hc

/-- An identifier with the ending of attribute types. -/
def Identifier.withEnding (i : Identifier) : Identifier :=
  ⟨i.name ++ attributeEnding, isPlain_append_ending i.isPlain⟩

/-- The name of an attribute: an identifier with what qualifies it and with its arguments. -/
def attributeName (isGlobal : Bool) (qualifiers : List PartSyntax) (last : Identifier) (arguments : ArgumentsSyntax) :
    NameSyntax :=
  ⟨isGlobal, qualifiers ++ [.mk last arguments], by simp, 0⟩

/-- What qualifies the last part of a name in its key. -/
def qualifierOf (qualifiers : List PartSyntax) : String :=
  ".".intercalate (qualifiers.map fun part => part.shownSegment.metadataName)

private theorem shownName_attributeName (isGlobal : Bool) (qualifiers : List PartSyntax) (last : Identifier)
    (arguments : ArgumentsSyntax) :
    (attributeName isGlobal qualifiers last arguments).shownName =
      qualify (qualifierOf qualifiers)
        (Declaration.metadataName last.name (arguments.count + sumLooseCommas arguments.types)) := by
  have hne : ∀ part ∈ qualifiers.map fun part => part.shownSegment.metadataName, part ≠ "" :=
    List.forall_mem_map.mpr fun part _ => Segment.metadataName_ne_empty part.name.isPlain.1
  rw [qualifierOf, qualify_concat hne, NameSyntax.shownName, attributeName, List.map_append]
  rfl

private theorem qualify_append (qualifier name ending : String) :
    qualify qualifier (name ++ ending) = qualify qualifier name ++ ending := by
  unfold qualify
  split
  · rfl
  · exact (String.append_assoc ..).symm

/-- An ending without dots is an ending of the last segment. -/
private theorem suffix_of_suffix_qualify {qualifier name : String} {ending : List Char} (hdot : '.' ∉ ending)
    (h : ending <:+ (qualify qualifier name).toList) : ending <:+ name.toList := by
  unfold qualify at h
  split at h
  · exact h
  · have hsegment : '.' :: name.toList <:+ (qualifier ++ "." ++ name).toList := ⟨qualifier.toList, by simp⟩
    rcases List.suffix_or_suffix_of_suffix h hsegment with h | h
    · rcases List.suffix_cons_iff.mp h with h | h
      · exact absurd (h ▸ List.mem_cons_self) hdot
      · exact h
    · exact absurd (h.subset List.mem_cons_self) hdot

private theorem ArgumentsSyntax.count_pos {arguments : ArgumentsSyntax} (h : arguments ≠ .none) :
    0 < arguments.count := by
  cases arguments with
  | none => exact absurd rfl h
  | unbound commas => exact Nat.succ_pos commas
  | bound first rest => exact Nat.succ_pos rest.length

private theorem backtick_mem_metadataName (name : String) {arity : Nat} (h : arity ≠ 0) :
    '`' ∈ (Declaration.metadataName name arity).toList := by
  rw [toList_metadataName, if_neg h]
  exact List.mem_append_right _ List.mem_cons_self

/-- A longer identifier before the arity and more text behind it make different names. -/
private theorem metadataName_append_ne {name ending : String} {arity : Nat} (harity : arity ≠ 0)
    (hending : IsPlain ending)
    (rest : String) : Declaration.metadataName (name ++ ending) arity ≠ Declaration.metadataName name arity ++ rest := by
  intro h
  have hlists := congrArg String.toList h
  rw [String.toList_append, toList_metadataName, toList_metadataName, if_neg harity, String.toList_append,
    List.append_assoc, List.append_assoc, List.append_cancel_left_eq] at hlists
  obtain ⟨c, cs, hcs⟩ := List.exists_cons_of_ne_nil (mt String.toList_eq_nil_iff.mp hending.1)
  rw [hcs, aritySuffix, List.cons_append, List.cons_append] at hlists
  -- behind the shared identifier one name goes on with the ending, the other with the backtick
  refine hending.not_mem (c := '`') (by simp) ?_
  rw [hcs, (List.cons.inj hlists).1]
  exact List.mem_cons_self

theorem isPlain_attributeEnding : IsPlain attributeEnding := by decide

theorem isNormal_of_isPlain {name : String} (h : IsPlain name) : IsNormal name :=
  Segment.isNormal_metadataName (g := ⟨name, 0⟩) h

end TypeName

namespace Program

variable {p : Program} {s : Scope}

/-- What a text that adds to a generic key stands for has the text at the end of its name. -/
private theorem name_of_resolveIn?_append {qualifier name : String} {arity : Nat} (harity : arity ≠ 0)
    (hname : TypeName.IsPlain name) (rest : String) (hrest : '.' ∉ rest.toList) {written : String}
    (hkey : TypeName.key written = TypeName.qualify qualifier (Declaration.metadataName name arity ++ rest))
    {t : Symbol} (h : p.resolveIn? s written = some t) :
    t.name = Declaration.metadataName name arity ++ rest ∨ s.HasBacktickAlias := by
  have hdot : '.' ∉ (Declaration.metadataName name arity ++ rest).toList := by
    rw [String.toList_append, List.mem_append, not_or]
    exact ⟨TypeName.Segment.dot_not_mem_metadataName (g := ⟨name, arity⟩) hname, hrest⟩
  have hlast : TypeName.lastSegment (TypeName.key written) = Declaration.metadataName name arity ++ rest := by
    rw [hkey, TypeName.lastSegment_qualify hdot]
  rw [← hlast]
  refine name_of_resolveIn? h ?_
  rw [hlast, String.toList_append]
  exact List.mem_append_left _ (TypeName.backtick_mem_metadataName name harity)

/-- A name without the ending of attribute types, short, and with it, long.  Where the long form stands for a type: without
arguments the short form of an attribute stands for that type; with arguments it does not, unless an alias has a backtick
in its name. -/
theorem resolveAttributeIn?_ending (p : Program) (s : Scope) {isGlobal : Bool} {qualifiers : List TypeName.PartSyntax}
    {last : TypeName.Identifier} {arguments : TypeName.ArgumentsSyntax}
    (hlast : ¬ attributeEnding.toList <:+ last.name.toList) {short long : String}
    (hshort : (TypeName.attributeName isGlobal qualifiers last arguments).Spells short)
    (hlong : (TypeName.attributeName isGlobal qualifiers last.withEnding arguments).Spells long) {t : Symbol}
    (ht : p.resolveIn? s long = some t) :
    (arguments = .none → p.resolveAttributeIn? s short = some t) ∧
      (p.resolveAttributeIn? s short = some t → arguments = .none ∨ s.HasBacktickAlias) := by
  have hkeyShort := (TypeName.NameSyntax.key_of_spells hshort).trans (TypeName.shownName_attributeName ..)
  have hkeyLong := (TypeName.NameSyntax.key_of_spells hlong).trans (TypeName.shownName_attributeName ..)
  have hnormal : TypeName.IsNormal (TypeName.key short) :=
    TypeName.NameSyntax.key_of_spells hshort ▸ TypeName.NameSyntax.isNormal_shownName _
  have hkeyEnding : TypeName.key (TypeName.key short ++ attributeEnding) = TypeName.key short ++ attributeEnding :=
    (hnormal.append (TypeName.isNormal_of_isPlain TypeName.isPlain_attributeEnding)).key_eq
  constructor
  · rintro rfl
    -- without arguments the long key is the short one with the ending
    have hkey : TypeName.key (TypeName.key short ++ attributeEnding) = TypeName.key long := by
      rw [hkeyEnding, hkeyShort, hkeyLong, ← TypeName.qualify_append]
      rfl
    have hnot : attributeEnding.toList.isSuffixOf (TypeName.key short).toList = false := by
      rw [Bool.eq_false_iff, ne_eq, List.isSuffixOf_iff_suffix, hkeyShort]
      exact fun h => hlast (TypeName.suffix_of_suffix_qualify (by decide) h)
    simp only [resolveAttributeIn?, hnot, Bool.false_eq_true, if_false, resolveIn?_eq_of_key_eq hkey, ht]
    rfl
  · intro hattribute
    by_contra hnone
    rw [not_or] at hnone
    have hcount := TypeName.ArgumentsSyntax.count_pos hnone.1
    have harity : arguments.count + TypeName.sumLooseCommas arguments.types ≠ 0 := by omega
    have hlongName := (name_of_resolveIn?_append harity last.withEnding.isPlain "" (by simp)
      (by rw [hkeyLong, String.append_empty]) ht).resolve_right hnone.2
    rw [String.append_empty] at hlongName
    -- the short form is tried with the ending behind the arity and then alone
    rcases resolveIn?_of_resolveAttributeIn? hattribute with h | h
    · have hname := (name_of_resolveIn?_append harity last.isPlain attributeEnding (by decide)
        (by rw [hkeyEnding, hkeyShort, TypeName.qualify_append]) h).resolve_right hnone.2
      exact TypeName.metadataName_append_ne harity TypeName.isPlain_attributeEnding _ (hlongName.symm.trans hname)
    · have hname := (name_of_resolveIn?_append harity last.isPlain "" (by simp)
        (by rw [hnormal.key_eq, hkeyShort, String.append_empty]) h).resolve_right hnone.2
      exact TypeName.metadataName_append_ne harity TypeName.isPlain_attributeEnding _ (hlongName.symm.trans hname)

def markName : TypeName.Identifier := ⟨"Mark", by decide⟩

/-- A qualified name behind an alias, where a type has the short name as well. -/
theorem resolveAttributeIn?_ending_aliased :
    let p := ofFullNames ["Lib.Tools.Mark", "Lib.Tools.MarkAttribute"]
    let s : Scope := ⟨"App", [], [], ⟨[("Al", "Lib")]⟩⟩
    let qualifiers : List TypeName.PartSyntax := [.mk ⟨"Al", by decide⟩ .none, .mk ⟨"Tools", by decide⟩ .none]
    let t : Symbol := ⟨1, "Lib.Tools.MarkAttribute", .classType, none⟩
    ¬ attributeEnding.toList <:+ markName.name.toList ∧
      (TypeName.attributeName false qualifiers markName .none).Spells "Al . Tools.Mark" ∧
      (TypeName.attributeName false qualifiers markName.withEnding .none).Spells "Al.Tools . MarkAttribute" ∧
      p.resolveIn? s "Al.Tools . MarkAttribute" = some t ∧ p.resolveAttributeIn? s "Al . Tools.Mark" = some t := by
  intro p s qualifiers t
  have hlast : ¬ attributeEnding.toList <:+ markName.name.toList := by decide +kernel
  have hshort : (TypeName.attributeName false qualifiers markName .none).Spells "Al . Tools.Mark" := by decide +kernel
  have hlong : (TypeName.attributeName false qualifiers markName.withEnding .none).Spells "Al.Tools . MarkAttribute" := by
    decide +kernel
  have ht : p.resolveIn? s "Al.Tools . MarkAttribute" = some t := by decide +kernel
  exact ⟨hlast, hshort, hlong, ht, (resolveAttributeIn?_ending p s hlast hshort hlong ht).1 rfl⟩

/-- A generic attribute type is found by its long name, but not by its short one. -/
theorem resolveAttributeIn?_generic_short :
    let p := ofFullNames [Declaration.metadataName "MarkAttribute" 1]
    let arguments : TypeName.ArgumentsSyntax := .bound TypeName.intType []
    ¬ attributeEnding.toList <:+ markName.name.toList ∧
      (TypeName.attributeName false [] markName arguments).Spells "Mark<int>" ∧
      (TypeName.attributeName false [] markName.withEnding arguments).Spells "MarkAttribute<int>" ∧
      (p.resolveIn? .empty "MarkAttribute<int>").isSome = true ∧
      (p.resolveAttributeIn? .empty "MarkAttribute<int>").isSome = true ∧
      p.resolveAttributeIn? .empty "Mark<int>" = none := by
  decide +kernel

end Program

end Rollcall
