import Rollcall.Proofs.Spellings
import Rollcall.Proofs.Trees

/-!
# The syntax of type names

Type names by their grammar: parts between dots, each an identifier with perhaps a list of generic arguments, which are
types again, nested to any depth (`TypeSyntax`, `PartSyntax`, `ArgumentsSyntax`).  A text spells a name when it is the name's
text with any blanks in it (`NameSyntax.Spells`).

* In a name whose types have no suffixes but `?` and `[]`, the key joins the identifiers, each with the number of its
  arguments (`key_of_isBasic`).
* The commas of a tuple and of the rank of an array stand in an argument list like those between arguments, and the key
  counts them too.  So the arity in the key is right exactly when no argument is a tuple or an array of more dimensions than
  one (`key_eq_fullName_iff`, `HasLooseCommas`).
-/

namespace Rollcall

open Text

namespace TypeName

structure Identifier where
  name : String
  isPlain : IsPlain name

mutual

/-- A type as written.  A name may stand behind `global::`; the rank of an array is given by the commas in its brackets. -/
inductive TypeSyntax where
  | named (isGlobal : Bool) (first : PartSyntax) (rest : List PartSyntax)
  | tuple (first second : TypeSyntax) (rest : List TypeSyntax)
  | nullable (inner : TypeSyntax)
  | array (inner : TypeSyntax) (commas : Nat)

/-- What stands between two dots of a name. -/
inductive PartSyntax where
  | mk (name : Identifier) (arguments : ArgumentsSyntax)

/-- What stands behind an identifier: nothing, a list of commas alone, or a list of types. -/
inductive ArgumentsSyntax where
  | none
  | unbound (commas : Nat)
  | bound (first : TypeSyntax) (rest : List TypeSyntax)

end

mutual

def TypeSyntax.text : TypeSyntax → List Char
  | .named isGlobal first rest =>
    (if isGlobal then globalQualifier else []) ++ ['.'].intercalate (first.text :: partTexts rest)
  | .tuple first second rest => '(' :: [','].intercalate (first.text :: second.text :: typeTexts rest) ++ [')']
  | .nullable inner => inner.text ++ ['?']
  | .array inner commas => inner.text ++ '[' :: List.replicate commas ',' ++ [']']

def PartSyntax.text : PartSyntax → List Char
  | .mk name arguments => name.name.toList ++ arguments.text

def ArgumentsSyntax.text : ArgumentsSyntax → List Char
  | .none => []
  | .unbound commas => '<' :: List.replicate commas ',' ++ ['>']
  | .bound first rest => '<' :: [','].intercalate (first.text :: typeTexts rest) ++ ['>']

def typeTexts : List TypeSyntax → List (List Char)
  | [] => []
  | t :: ts => t.text :: typeTexts ts

def partTexts : List PartSyntax → List (List Char)
  | [] => []
  | part :: parts => part.text :: partTexts parts

end

private theorem typeTexts_eq (ts : List TypeSyntax) : typeTexts ts = ts.map TypeSyntax.text := by
  induction ts with
  | nil => rfl
  | cons t ts ih => rw [typeTexts, ih, List.map_cons]

private theorem partTexts_eq (parts : List PartSyntax) : partTexts parts = parts.map PartSyntax.text := by
  induction parts with
  | nil => rfl
  | cons part parts ih => rw [partTexts, ih, List.map_cons]

mutual

/-- The commas of a type outside of argument lists. -/
def TypeSyntax.looseCommas : TypeSyntax → Nat
  | .named _ _ _ => 0
  | .tuple first second rest => first.looseCommas + (second.looseCommas + sumLooseCommas rest) + (rest.length + 1)
  | .nullable inner => inner.looseCommas
  | .array inner commas => inner.looseCommas + commas

def sumLooseCommas : List TypeSyntax → Nat
  | [] => 0
  | t :: ts => t.looseCommas + sumLooseCommas ts

end

private theorem sumLooseCommas_eq (ts : List TypeSyntax) : sumLooseCommas ts = (ts.map TypeSyntax.looseCommas).sum := by
  induction ts with
  | nil => rfl
  | cons t ts ih => rw [sumLooseCommas, ih, List.map_cons, List.sum_cons]

/-- Whether a type is a tuple or an array of more dimensions than one, perhaps with suffixes. -/
inductive TypeSyntax.HasLooseCommas : TypeSyntax → Prop
  | tuple {first second : TypeSyntax} {rest : List TypeSyntax} : HasLooseCommas (.tuple first second rest)
  | rank {inner : TypeSyntax} {commas : Nat} (h : 0 < commas) : HasLooseCommas (.array inner commas)
  | nullable {inner : TypeSyntax} (h : HasLooseCommas inner) : HasLooseCommas (.nullable inner)
  | array {inner : TypeSyntax} {commas : Nat} (h : HasLooseCommas inner) : HasLooseCommas (.array inner commas)

private theorem TypeSyntax.looseCommas_eq_zero_iff (t : TypeSyntax) : t.looseCommas = 0 ↔ ¬ t.HasLooseCommas := by
  match t with
  | .named _ _ _ => exact iff_of_true rfl nofun
  | .tuple _ _ _ =>
    rw [looseCommas]
    exact iff_of_false (by omega) fun h => h .tuple
  | .nullable inner =>
    rw [looseCommas, looseCommas_eq_zero_iff inner]
    exact not_congr ⟨.nullable, fun h => by cases h; assumption⟩
  | .array inner commas =>
    rw [looseCommas, Nat.add_eq_zero_iff, looseCommas_eq_zero_iff inner]
    constructor
    · rintro ⟨hinner, rfl⟩ h
      cases h with
      | rank h => exact absurd h (Nat.lt_irrefl 0)
      | array h => exact hinner h
    · intro h
      exact ⟨fun hinner => h (.array hinner), Nat.eq_zero_of_not_pos fun hpos => h (.rank hpos)⟩

mutual

/-- Whether a type has no tuples in it and no suffixes but `?` and `[]`, at any depth. -/
def TypeSyntax.isBasic : TypeSyntax → Bool
  | .named _ first rest => first.isBasic && arePartsBasic rest
  | .tuple _ _ _ => false
  | .nullable inner => inner.isBasic
  | .array inner commas => inner.isBasic && commas == 0

def PartSyntax.isBasic : PartSyntax → Bool
  | .mk _ arguments => arguments.isBasic

def ArgumentsSyntax.isBasic : ArgumentsSyntax → Bool
  | .none => true
  | .unbound _ => true
  | .bound first rest => first.isBasic && areTypesBasic rest

def areTypesBasic : List TypeSyntax → Bool
  | [] => true
  | t :: ts => t.isBasic && areTypesBasic ts

def arePartsBasic : List PartSyntax → Bool
  | [] => true
  | part :: parts => part.isBasic && arePartsBasic parts

end

private theorem isBasic_of_areTypesBasic {ts : List TypeSyntax} (h : areTypesBasic ts = true) :
    ∀ t ∈ ts, t.isBasic = true := by
  induction ts with
  | nil => exact fun t ht => absurd ht List.not_mem_nil
  | cons t ts ih =>
    rw [areTypesBasic, Bool.and_eq_true] at h
    exact List.forall_mem_cons.mpr ⟨h.1, ih h.2⟩

private theorem TypeSyntax.not_hasLooseCommas_of_isBasic {t : TypeSyntax} (h : t.isBasic = true) :
    ¬ t.HasLooseCommas := by
  intro hloose
  induction hloose with
  | tuple => exact absurd h (by simp [isBasic])
  | rank hpos =>
    rw [isBasic, Bool.and_eq_true, beq_iff_eq] at h
    omega
  | nullable _ ih => exact ih (by simpa only [isBasic] using h)
  | array _ ih =>
    rw [isBasic, Bool.and_eq_true] at h
    exact ih h.1

/-! ### Brackets of written types -/

theorem Identifier.isBalanced (i : Identifier) : IsBalanced i.name.toList 0 := by
  refine .of_chars fun c hc => ?_
  have := (i.isPlain.2 c hc).1
  simp only [List.mem_cons, not_or] at this
  exact ⟨this.2.1, this.2.2.1, this.2.2.2.1⟩

private theorem isBalanced_globalQualifier : IsBalanced globalQualifier 0 := by
  refine .of_chars fun c hc => ?_
  have hall : globalQualifier.all (fun c => c != '<' && c != '>' && c != ',') = true := by decide
  simpa [and_assoc] using List.all_eq_true.mp hall c hc

/-- Types that are balanced stay so between commas. -/
private theorem isBalanced_typeTexts {ts : List TypeSyntax} (h : ∀ t ∈ ts, IsBalanced t.text t.looseCommas) :
    IsBalanced ([','].intercalate (typeTexts ts)) (sumLooseCommas ts + (ts.length - 1)) := by
  rw [typeTexts_eq, sumLooseCommas_eq]
  exact .intercalate_comma TypeSyntax.text TypeSyntax.looseCommas h

mutual

/-- The brackets of a type match, and outside of them stand its loose commas. -/
theorem TypeSyntax.isBalanced : (t : TypeSyntax) → IsBalanced t.text t.looseCommas
  | .named isGlobal first rest => by
    have hparts : ∀ text ∈ first.text :: partTexts rest, IsBalanced text 0 := by
      rw [partTexts_eq]
      exact List.forall_mem_cons.mpr ⟨first.isBalanced, List.forall_mem_map.mpr (isBalanced_of_mem_parts rest)⟩
    have hglobal : IsBalanced (if isGlobal then globalQualifier else []) 0 := by
      cases isGlobal with
      | true => exact isBalanced_globalQualifier
      | false => exact .nil
    exact hglobal.append (.intercalate_dot hparts)
  | .tuple first second rest => by
    have hinner := isBalanced_typeTexts
      (List.forall_mem_cons.mpr ⟨first.isBalanced, List.forall_mem_cons.mpr ⟨second.isBalanced, isBalanced_of_mem rest⟩⟩)
    have hclose : IsBalanced [')'] 0 := .of_chars (by simp)
    exact .char (by decide) (hinner.append hclose)
  | .nullable inner => inner.isBalanced.append (.of_chars (by simp))
  | .array inner commas => by
    have hrank : IsBalanced ('[' :: List.replicate commas ',' ++ [']']) commas :=
      .char (by decide) ((IsBalanced.replicate_comma commas).append (.of_chars (by simp)))
    rw [TypeSyntax.text, List.append_assoc]
    exact inner.isBalanced.append hrank

theorem PartSyntax.isBalanced : (part : PartSyntax) → IsBalanced part.text 0
  | .mk name arguments => name.isBalanced.append arguments.isBalanced

theorem ArgumentsSyntax.isBalanced : (arguments : ArgumentsSyntax) → IsBalanced arguments.text 0
  | .none => .nil
  | .unbound commas => (IsBalanced.replicate_comma commas).bracketed
  | .bound first rest =>
    (isBalanced_typeTexts (List.forall_mem_cons.mpr ⟨first.isBalanced, isBalanced_of_mem rest⟩)).bracketed

private theorem isBalanced_of_mem : (ts : List TypeSyntax) → ∀ t ∈ ts, IsBalanced t.text t.looseCommas
  | [] => fun _ h => absurd h List.not_mem_nil
  | t :: ts => List.forall_mem_cons.mpr ⟨t.isBalanced, isBalanced_of_mem ts⟩

private theorem isBalanced_of_mem_parts : (parts : List PartSyntax) → ∀ part ∈ parts, IsBalanced part.text 0
  | [] => fun _ h => absurd h List.not_mem_nil
  | part :: parts => List.forall_mem_cons.mpr ⟨part.isBalanced, isBalanced_of_mem_parts parts⟩

end

/-! ### Written names -/

namespace ArgumentsSyntax

def types : ArgumentsSyntax → List TypeSyntax
  | .bound first rest => first :: rest
  | _ => []

/-- The number of arguments.  Those of an unbound list are left out between its commas. -/
def count : ArgumentsSyntax → Nat
  | .none => 0
  | .unbound commas => commas + 1
  | .bound _ rest => rest.length + 1

end ArgumentsSyntax

namespace PartSyntax

def name : PartSyntax → Identifier
  | .mk name _ => name

def arguments : PartSyntax → ArgumentsSyntax
  | .mk _ arguments => arguments

/-- The segment that a part stands for. -/
def segment (part : PartSyntax) : Segment :=
  ⟨part.name.name, part.arguments.count⟩

/-- The segment for which a part is taken: every comma of its list counts. -/
def shownSegment (part : PartSyntax) : Segment :=
  ⟨part.name.name, part.arguments.count + sumLooseCommas part.arguments.types⟩

theorem isShown (part : PartSyntax) : part.shownSegment.IsShown part.text := by
  obtain ⟨name, arguments⟩ := part
  rw [text]
  cases arguments with
  | none =>
    rw [ArgumentsSyntax.text, List.append_nil]
    exact .plain rfl
  | unbound commas =>
    rw [ArgumentsSyntax.text, ← List.append_assoc]
    exact .generic (IsBalanced.replicate_comma commas) rfl
  | bound first rest =>
    have hinner := isBalanced_typeTexts (isBalanced_of_mem (first :: rest))
    rw [ArgumentsSyntax.text, ← List.append_assoc]
    refine .generic hinner ?_
    simp only [shownSegment, PartSyntax.arguments, ArgumentsSyntax.count, ArgumentsSyntax.types, List.length_cons]
    omega

private theorem isBasic_of_mem_types {part : PartSyntax} (h : part.isBasic = true) {t : TypeSyntax}
    (ht : t ∈ part.arguments.types) : t.isBasic = true := by
  obtain ⟨name, arguments⟩ := part
  cases arguments with
  | none => exact absurd ht List.not_mem_nil
  | unbound commas => exact absurd ht List.not_mem_nil
  | bound first rest =>
    rw [PartSyntax.isBasic, ArgumentsSyntax.isBasic, Bool.and_eq_true] at h
    rcases List.mem_cons.mp ht with rfl | ht
    · exact h.1
    · exact isBasic_of_areTypesBasic h.2 t ht

end PartSyntax

/-- A dotted name, perhaps behind `global::`, with question marks behind it. -/
structure NameSyntax where
  isGlobal : Bool
  parts : List PartSyntax
  parts_ne_nil : parts ≠ []
  marks : Nat

namespace NameSyntax

def text (n : NameSyntax) : List Char :=
  (if n.isGlobal then globalQualifier else []) ++ ['.'].intercalate (n.parts.map PartSyntax.text) ++
    List.replicate n.marks '?'

/-- Whether a text is that of a name with any blanks in it. -/
def Spells (n : NameSyntax) (written : String) : Prop :=
  unblank written.toList = n.text

instance (n : NameSyntax) (written : String) : Decidable (n.Spells written) :=
  inferInstanceAs (Decidable (_ = _))

/-- The full name of a type that is declared with the identifiers of a name and as many type parameters as it has
arguments. -/
def fullName (n : NameSyntax) : String :=
  ".".intercalate (n.parts.map fun part => part.segment.metadataName)

/-- The full name for which a name is taken. -/
def shownName (n : NameSyntax) : String :=
  ".".intercalate (n.parts.map fun part => part.shownSegment.metadataName)

variable {n : NameSyntax} {written : String}

theorem key_of_spells (h : n.Spells written) : key written = n.shownName := by
  have hplain : ∀ g ∈ n.parts.map PartSyntax.shownSegment, IsPlain g.name :=
    List.forall_mem_map.mpr fun part _ => part.name.isPlain
  have hshown : List.Forall₂ Segment.IsShown (n.parts.map PartSyntax.shownSegment) (n.parts.map PartSyntax.text) := by
    rw [List.forall₂_map_left_iff, List.forall₂_map_right_iff]
    exact List.forall₂_same.mpr fun part _ => part.isShown
  rw [key_of_isShown hplain hshown n.isGlobal n.marks h, List.map_map]
  rfl

end NameSyntax

/-! ### Arities -/

private theorem sumLooseCommas_eq_zero_iff (ts : List TypeSyntax) :
    sumLooseCommas ts = 0 ↔ ∀ t ∈ ts, ¬ t.HasLooseCommas := by
  induction ts with
  | nil => simp [sumLooseCommas]
  | cons t ts ih => rw [sumLooseCommas, Nat.add_eq_zero_iff, ih, t.looseCommas_eq_zero_iff, List.forall_mem_cons]

theorem toList_metadataName (name : String) (arity : Nat) :
    (Declaration.metadataName name arity).toList = name.toList ++ if arity = 0 then [] else aritySuffix arity := by
  unfold Declaration.metadataName
  split <;> simp

theorem aritySuffix_eq (n : Nat) : aritySuffix n = '`' :: Nat.toDigits 10 n :=
  congrArg ('`' :: ·) Nat.toList_repr

private theorem aritySuffix_inj {a b : Nat} (h : aritySuffix a = aritySuffix b) : a = b := by
  rw [aritySuffix_eq, aritySuffix_eq] at h
  have hdigits := congrArg (Nat.ofDigitChars 10 · 0) (List.cons.inj h).2
  simpa only [Nat.ofDigitChars_ten_toDigits] using hdigits

private theorem metadataName_inj {name : String} {a b : Nat}
    (h : Declaration.metadataName name a = Declaration.metadataName name b) : a = b := by
  have hsuffix := congrArg String.toList h
  rw [toList_metadataName, toList_metadataName, List.append_cancel_left_eq] at hsuffix
  by_cases ha : a = 0
  · by_cases hb : b = 0
    · rw [ha, hb]
    · rw [if_pos ha, if_neg hb] at hsuffix
      exact absurd hsuffix.symm (List.cons_ne_nil _ _)
  · by_cases hb : b = 0
    · rw [if_neg ha, if_pos hb] at hsuffix
      exact absurd hsuffix (List.cons_ne_nil _ _)
    · rw [if_neg ha, if_neg hb] at hsuffix
      exact aritySuffix_inj hsuffix

/-- A full name has the characters of identifiers, backticks and digits in it. -/
theorem Segment.mem_metadataName {g : Segment} {c : Char} (h : c ∈ g.metadataName.toList) :
    c ∈ g.name.toList ∨ c = '`' ∨ c.isDigit = true := by
  rw [metadataName, toList_metadataName, List.mem_append] at h
  rcases h with h | h
  · exact .inl h
  · split at h
    · exact absurd h List.not_mem_nil
    · rw [aritySuffix_eq, List.mem_cons] at h
      exact .inr (h.imp_right (Nat.isDigit_of_mem_toDigits (by decide) (Nat.le_refl 10)))

theorem Segment.dot_not_mem_metadataName {g : Segment} (h : IsPlain g.name) : '.' ∉ g.metadataName.toList := by
  intro hdot
  rcases mem_metadataName hdot with hdot | hdot | hdot
  · exact h.not_mem (by simp) hdot
  · exact absurd hdot (by decide)
  · exact absurd hdot (by decide)

private theorem segments_intercalate {parts : List String} (hne : parts ≠ []) (h : ∀ part ∈ parts, '.' ∉ part.toList) :
    segments (".".intercalate parts) = parts := by
  have hpieces : pieces '.' (['.'].intercalate (parts.map String.toList)) = parts.map String.toList :=
    pieces_intercalate (by simpa using hne) (List.forall_mem_map.mpr h)
  rw [segments, String.toList_intercalate]
  show (pieces '.' (['.'].intercalate (parts.map String.toList))).map String.ofList = parts
  rw [hpieces, List.map_map]
  simp [Function.comp_def]

private theorem segments_qualified (qualifier name : String) :
    segments (qualifier ++ "." ++ name) = segments qualifier ++ segments name := by
  have hsplit : (qualifier ++ "." ++ name).toList = qualifier.toList ++ '.' :: name.toList := by simp
  rw [segments, hsplit, pieces_append_mark, List.map_append]
  rfl

namespace NameSyntax

variable (n : NameSyntax)

private theorem segments_intercalate_parts (f : PartSyntax → Segment) (hf : ∀ part, (f part).name = part.name.name) :
    segments (".".intercalate (n.parts.map fun part => (f part).metadataName)) =
      n.parts.map fun part => (f part).metadataName := by
  refine segments_intercalate (by simpa using n.parts_ne_nil) (List.forall_mem_map.mpr fun part _ => ?_)
  exact Segment.dot_not_mem_metadataName (hf part ▸ part.name.isPlain)

private theorem segments_shownName : segments n.shownName = n.parts.map fun part => part.shownSegment.metadataName :=
  n.segments_intercalate_parts PartSyntax.shownSegment fun _ => rfl

private theorem segments_fullName : segments n.fullName = n.parts.map fun part => part.segment.metadataName :=
  n.segments_intercalate_parts PartSyntax.segment fun _ => rfl

/-- Whether an argument list of a name has loose commas in it. -/
def HasLooseCommas : Prop :=
  ∃ part ∈ n.parts, ∃ t ∈ part.arguments.types, t.HasLooseCommas

/-- The arities for which a name is taken are the numbers of its arguments unless there are loose commas. -/
private theorem segments_eq_iff : segments n.shownName = segments n.fullName ↔ ¬ n.HasLooseCommas := by
  have hpart (part : PartSyntax) : part.shownSegment.metadataName = part.segment.metadataName ↔
      ∀ t ∈ part.arguments.types, ¬ t.HasLooseCommas := by
    rw [← sumLooseCommas_eq_zero_iff]
    constructor
    · intro h
      have harity : part.arguments.count + sumLooseCommas part.arguments.types = part.arguments.count :=
        metadataName_inj h
      omega
    · intro h
      rw [PartSyntax.shownSegment, h]
      rfl
  rw [segments_shownName, segments_fullName, List.map_inj_left]
  simp only [hpart, HasLooseCommas, not_exists, not_and]

private theorem shownName_eq_fullName_iff : n.shownName = n.fullName ↔ ¬ n.HasLooseCommas := by
  rw [← segments_eq_iff]
  constructor
  · intro h
    rw [h]
  · intro h
    rw [← intercalate_segments n.shownName, h, intercalate_segments]

end NameSyntax

/-! ### Keys -/

/-- The key of a name with basic types in it joins its identifiers, each with the number of its arguments. -/
theorem key_of_isBasic {n : NameSyntax} (hbasic : ∀ part ∈ n.parts, part.isBasic = true) {written : String}
    (h : n.Spells written) : key written = n.fullName := by
  rw [NameSyntax.key_of_spells h, NameSyntax.shownName_eq_fullName_iff]
  rintro ⟨part, hpart, t, ht, hloose⟩
  exact TypeSyntax.not_hasLooseCommas_of_isBasic (part.isBasic_of_mem_types (hbasic part hpart) ht) hloose

/-- A name of one identifier as a type. -/
def Identifier.type (i : Identifier) : TypeSyntax :=
  .named false (.mk i .none) []

/-- `List<t>` as a type. -/
def listOf (t : TypeSyntax) : TypeSyntax :=
  .named false (.mk ⟨"List", by decide⟩ (.bound t [])) []

def intType : TypeSyntax := Identifier.type ⟨"int", by decide⟩

def stringType : TypeSyntax := Identifier.type ⟨"string", by decide⟩

/-- `global::App.Outer<List<int?>[], global::Map<,>.Entry<string>>.Inner<>??` -/
def nestedName : NameSyntax where
  isGlobal := true
  parts :=
    [.mk ⟨"App", by decide⟩ .none,
      .mk ⟨"Outer", by decide⟩ (.bound (.array (listOf (.nullable intType)) 0)
        [.named true (.mk ⟨"Map", by decide⟩ (.unbound 1)) [.mk ⟨"Entry", by decide⟩ (.bound stringType [])]]),
      .mk ⟨"Inner", by decide⟩ (.unbound 0)]
  parts_ne_nil := List.cons_ne_nil _ _
  marks := 2

theorem key_of_isBasic_nested :
    let written := " global::App . Outer< List<int?>[ ],\tglobal :: Map<,>.Entry <string> >.Inner<> ??"
    (∀ part ∈ nestedName.parts, part.isBasic = true) ∧ nestedName.Spells written ∧
      key written = nestedName.fullName ∧ nestedName.fullName = "App.Outer`2.Inner`1" := by
  have hbasic : ∀ part ∈ nestedName.parts, part.isBasic = true := by decide
  have hspells : nestedName.Spells " global::App . Outer< List<int?>[ ],\tglobal :: Map<,>.Entry <string> >.Inner<> ??" := by
    decide +kernel
  exact ⟨hbasic, hspells, key_of_isBasic hbasic hspells, by decide +kernel⟩

/-- Whether a full name is some name or a qualified form of it. -/
def EndsIn (fullName name : String) : Prop :=
  fullName = name ∨ ∃ qualifier, fullName = qualifier ++ "." ++ name

theorem EndsIn.suffix {fullName name : String} (h : EndsIn fullName name) : segments name <:+ segments fullName := by
  rcases h with rfl | ⟨qualifier, rfl⟩
  · exact List.suffix_rfl
  · rw [segments_qualified]
    exact List.suffix_append _ _

/-- The key of a name counts every comma of an argument list.  It is the full name of a type with as many type
parameters as the name has arguments exactly when no argument is a tuple or an array of more dimensions than one, and
what the name stands for where its head is no alias is such a type in that case only. -/
theorem key_eq_fullName_iff {n : NameSyntax} {written : String} (h : n.Spells written) :
    key written = n.shownName ∧ (key written = n.fullName ↔ ¬ n.HasLooseCommas) ∧
      ∀ (p : Program) (s : Scope) (t : Symbol), s.aliases.target? (head (key written)) = none →
        p.resolveIn? s written = some t → (EndsIn t.fullName n.fullName ↔ ¬ n.HasLooseCommas) := by
  have hkey := NameSyntax.key_of_spells h
  refine ⟨hkey, hkey ▸ n.shownName_eq_fullName_iff, fun p s t halias ht => ?_⟩
  have hends : EndsIn t.fullName n.shownName := by
    rw [← hkey]
    exact Program.exists_qualifier_of_resolveIn? (Scope.aliased?_of_target? halias) ht
  constructor
  · intro hfull
    rw [← n.segments_eq_iff]
    -- both names have as many segments as there are parts, and they end the same full name
    have hlength : (segments n.shownName).length = (segments n.fullName).length := by
      rw [n.segments_shownName, n.segments_fullName, List.length_map, List.length_map]
    have hsuffix := List.suffix_of_suffix_length_le hends.suffix hfull.suffix (Nat.le_of_eq hlength)
    exact hsuffix.eq_of_length hlength
  · intro hloose
    rwa [← n.shownName_eq_fullName_iff.mpr hloose]

/-- `Base` with one argument list as a name. -/
def baseOf (arguments : ArgumentsSyntax) : NameSyntax :=
  ⟨false, [.mk ⟨"Base", by decide⟩ arguments], List.cons_ne_nil _ _, 0⟩

def pairType : TypeSyntax := .tuple intType stringType []

/-- Tuples and ranks count beside the arguments, but not inside an inner list.  The name finds a type of another arity. -/
theorem key_eq_fullName_iff_mixed :
    let n := baseOf (.bound (.nullable pairType) [.array (listOf pairType) 2])
    let written := "Base<(int, string)?, List<(int, string)>[,,]>"
    let p := Program.ofFullNames ["Base`2", "Base`5"]
    let t : Symbol := ⟨1, "Base`5", .classType, none⟩
    (n.Spells written ∧ n.HasLooseCommas ∧ n.fullName = "Base`2" ∧ n.shownName = "Base`5") ∧
      (key written = n.shownName ∧ key written ≠ n.fullName) ∧
      p.resolveIn? .empty written = some t ∧ ¬ EndsIn t.fullName n.fullName := by
  intro n written p t
  have hspells : n.Spells written := by decide +kernel
  have hloose : n.HasLooseCommas := ⟨_, List.mem_singleton_self _, _, List.mem_cons_self, .nullable .tuple⟩
  have ht : p.resolveIn? .empty written = some t := by decide +kernel
  obtain ⟨hkey, hiff, hresolve⟩ := key_eq_fullName_iff hspells
  exact ⟨⟨hspells, hloose, by decide +kernel, by decide +kernel⟩, ⟨hkey, fun h => hiff.mp h hloose⟩, ht,
    fun h => (hresolve p .empty t rfl ht).mp h hloose⟩

/-- A tuple and an array of two dimensions as the only argument of a class with one type parameter. -/
theorem key_counts_commas_of_tuple_and_rank :
    let tuple := baseOf (.bound pairType [])
    let matrix := baseOf (.bound (.array intType 1) [])
    let p := Program.ofFullNames [Declaration.metadataName "Base" 1]
    (tuple.Spells "Base<(int, string)>" ∧ tuple.fullName = "Base`1" ∧ key "Base<(int, string)>" = "Base`2" ∧
        p.resolveIn? .empty "Base<(int, string)>" = none) ∧
      matrix.Spells "Base<int[,]>" ∧ matrix.fullName = "Base`1" ∧ key "Base<int[,]>" = "Base`2" ∧
        p.resolveIn? .empty "Base<int[,]>" = none ∧ (p.resolveIn? .empty "Base<int[]>").isSome = true := by
  decide +kernel

end TypeName

end Rollcall
