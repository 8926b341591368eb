import Mathlib.Data.List.Induction
import Rollcall.Proofs.Globals
import Rollcall.Proofs.Histories
import Rollcall.Proofs.Lookups

/-!
# Constructed operands

A type is *constructed* where it is written with generic arguments or with a question mark at its end.  A constructed
operand of `typeof` stands for no definition, and none registers one.  That is said of the operand as it is written.
The targets of aliases become keys when their directives are read, and keys show neither arguments nor question marks,
so an operand that starts with an alias for a constructed type stands for the definition if that is known.

* The aliases of a scope are those that the directives in force give, the last one for each name
  (`target?_directiveTexts_iff`).
* An operand that is constructed, or whose alias is, stands for nothing except when an alias lets a definition through
  (`bindArgument_constructed`, `LetsThrough`).
-/

namespace Rollcall

open Text

/-! ### Aliases as written -/

theorem Text.cutAt_append {mark : Char} {front : List Char} (h : mark ∉ front) (rest : List Char) :
    cutAt mark (front ++ mark :: rest) = (front, some rest) := by
  induction front with
  | nil => simp [cutAt]
  | cons c front ih =>
    rw [List.mem_cons, not_or] at h
    simp [cutAt, ih h.2, Ne.symm h.1]

theorem Text.cutAt_eq_some_iff {mark : Char} {cs front rest : List Char} :
    cutAt mark cs = (front, some rest) ↔ cs = front ++ mark :: rest ∧ mark ∉ front := by
  constructor
  · intro h
    induction cs generalizing front with
    | nil => simp [cutAt] at h
    | cons c cs ih =>
      unfold cutAt at h
      split at h
      · next hc =>
        cases h
        exact ⟨by rw [hc]; rfl, List.not_mem_nil⟩
      · next hc =>
        obtain ⟨rfl, hrest⟩ := Prod.mk.inj h
        obtain ⟨hcs, hmark⟩ := ih (Prod.ext rfl hrest)
        exact ⟨by rw [List.cons_append, ← hcs], by simp [Ne.symm hc, hmark]⟩
  · rintro ⟨rfl, h⟩
    exact cutAt_append h rest

namespace Directive

/-- Whether the text of a directive gives an alias a target.  The alias stands before the first equals sign and the target
behind it, up to the closing semicolon. -/
def Gives (text name target : String) : Prop :=
  ¬ "static ".toList <+: body text.toList ∧
    ∃ front, body text.toList = front ++ '=' :: target.toList ∧ '=' ∉ front ∧ String.ofList (trim front) = name

/-- Whether the last of some directives for an alias gives it a target. -/
def LastGives (texts : List String) (name target : String) : Prop :=
  ∃ earlier text later, texts = earlier ++ text :: later ∧ Gives text name target ∧
    ∀ t ∈ later, ∀ other, ¬ Gives t name other

private theorem importOf_eq_aliasFor_iff {text name target : String} :
    importOf text = .aliasFor name target ↔ ∃ written, Gives text name written ∧ TypeName.key written = target := by
  unfold importOf Gives
  simp only [← List.isPrefixOf_iff_prefix]
  split
  · next h => simp only [h, not_true_eq_false, false_and, exists_false, reduceCtorEq]
  · next h =>
    split
    · next front rest hcut =>
      obtain ⟨hbody, hfront⟩ := cutAt_eq_some_iff.mp hcut
      simp only [Import.aliasFor.injEq]
      constructor
      · rintro ⟨rfl, rfl⟩
        exact ⟨String.ofList rest, ⟨h, front, by simpa using hbody, hfront, rfl⟩, rfl⟩
      · rintro ⟨written, ⟨-, front', hbody', hfront', rfl⟩, rfl⟩
        have hsame := hcut.symm.trans (cutAt_eq_some_iff.mpr ⟨hbody', hfront'⟩)
        simp only [Prod.mk.injEq, Option.some.injEq] at hsame
        obtain ⟨rfl, rfl⟩ := hsame
        exact ⟨rfl, by rw [String.ofList_toList]⟩
    · next front hcut =>
      simp only [reduceCtorEq, false_iff]
      rintro ⟨written, ⟨-, front', hbody', hfront', -⟩, -⟩
      have hsame := hcut.symm.trans (cutAt_eq_some_iff.mpr ⟨hbody', hfront'⟩)
      simp at hsame

private theorem not_gives_of_importOf {text name : String} (h : ∀ target, importOf text ≠ .aliasFor name target)
    (other : String) : ¬ Gives text name other :=
  fun hother => h _ (importOf_eq_aliasFor_iff.mpr ⟨other, hother, rfl⟩)

private theorem lastGives_nil {name target : String} : ¬ LastGives [] name target := by
  rintro ⟨earlier, text, later, h, -⟩
  simp at h

private theorem lastGives_concat {texts : List String} {text name target : String} :
    LastGives (texts ++ [text]) name target ↔
      Gives text name target ∨ (∀ other, ¬ Gives text name other) ∧ LastGives texts name target := by
  constructor
  · rintro ⟨earlier, t, later, h, hgives, hlater⟩
    rcases List.eq_nil_or_concat' later with rfl | ⟨later, u, rfl⟩
    · obtain ⟨-, ht⟩ := List.append_inj' h rfl
      cases ht
      exact .inl hgives
    · rw [← List.cons_append, ← List.append_assoc] at h
      obtain ⟨rfl, hu⟩ := List.append_inj' h rfl
      cases hu
      exact .inr ⟨hlater text (by simp), earlier, t, later, rfl, hgives, fun v hv => hlater v (by simp [hv])⟩
  · rintro (hgives | ⟨hnot, earlier, t, later, rfl, hgives, hlater⟩)
    · exact ⟨texts, text, [], rfl, hgives, by simp⟩
    · refine ⟨earlier, t, later ++ [text], by simp, hgives, fun v hv => ?_⟩
      rcases List.mem_append.mp hv with hv | hv
      · exact hlater v hv
      · rw [List.mem_singleton.mp hv]
        exact hnot

end Directive

namespace Scope

private theorem aliasPairs_append (a b : List Directive) : aliasPairs (a ++ b) = aliasPairs a ++ aliasPairs b :=
  List.filterMap_append

private theorem aliasPairs_map_ofText {α : Type} (text : α → String) (isGlobal : α → Bool) (l : List α) :
    aliasPairs (l.map fun a => ⟨isGlobal a, Directive.importOf (text a)⟩) =
      aliasPairs ((l.map text).map Directive.ofText) := by
  simp only [aliasPairs, List.filterMap_map, Function.comp_def, Directive.ofText]

end Scope

open Directive in
/-- Directives give an alias the key of the target that the last one for it is written with. -/
private theorem Aliases.target?_putAll_iff {texts : List String} {name target : String} :
    (empty.putAll (Scope.aliasPairs (texts.map ofText))).target? name = some target ↔
      ∃ written, LastGives texts name written ∧ TypeName.key written = target := by
  induction texts using List.reverseRecOn with
  | nil => simp [Scope.aliasPairs, putAll, lastGives_nil]
  | append_singleton texts text ih =>
    simp only [lastGives_concat, or_and_right, exists_or, ← importOf_eq_aliasFor_iff]
    rw [List.map_append, Scope.aliasPairs_append, putAll, List.foldl_append]
    cases hi : importOf text with
    | aliasFor n t =>
      have hpairs : Scope.aliasPairs ([text].map ofText) = [(n, t)] := by simp [Scope.aliasPairs, ofText, hi]
      rw [hpairs]
      show ((empty.putAll _).put n t).target? name = some target ↔ _
      rw [target?_put]
      by_cases hn : name = n
      · subst hn
        have hgives : ∃ other, Gives text name other := by
          obtain ⟨other, hother, -⟩ := importOf_eq_aliasFor_iff.mp hi
          exact ⟨other, hother⟩
        simp [← not_exists, hgives]
      · have hnot : ∀ other, ¬ Gives text name other := not_gives_of_importOf (by simp [hi, Ne.symm hn])
        simp [hn, Ne.symm hn, hnot, ih]
    | _ =>
      have hpairs : Scope.aliasPairs ([text].map ofText) = [] := by simp [Scope.aliasPairs, ofText, hi]
      have hnot : ∀ other, ¬ Gives text name other := not_gives_of_importOf (by simp [hi])
      rw [hpairs]
      show (empty.putAll _).target? name = some target ↔ _
      simp [hnot, ih]

/-! ### Directives in force -/

namespace Enclosure

/-- The texts of the using directives of a row other than the global ones. -/
def usingTexts (row : List Place) : List String :=
  (row.filter fun x => x.node.kind == .usingDirective && !x.node.isGlobalUsing).map (·.node.text)

/-- The texts of the using directives in force inside an enclosure, in the order in which they take effect: the global
ones of all files, then the ordinary ones around from outermost in. -/
def directiveTexts (e : Enclosure) (files : List ParsedFile) : List String :=
  (ParsedFile.globalUsings files).map (·.text) ++ e.rows.flatMap usingTexts

private theorem directivesOf_eq_map_ofText (row : List Place) :
    directivesOf row = (usingTexts row).map Directive.ofText := by
  rw [directivesOf, usingTexts, List.filter_filterMap, List.map_map, ← List.filterMap_eq_map, List.filterMap_filter]
  refine List.filterMap_congr fun x _ => ?_
  cases hd : Directive.ofNode? x.node with
  | none =>
    have hk : (x.node.kind == .usingDirective) = false := by simpa [Directive.ofNode?] using hd
    simp [hk]
  | some d =>
    have hk : (x.node.kind == .usingDirective) = true := by
      by_contra h
      simp [Directive.ofNode?, h] at hd
    have hglobal := Directive.isGlobal_of_ofNode? hd
    obtain rfl : Directive.ofText x.node.text = d := by simpa [Directive.ofNode?, hk] using hd
    cases hg : x.node.isGlobalUsing <;> simp [Option.filter, hk, hglobal, hg]

private theorem aliases_scope (e : Enclosure) (files : List ParsedFile) :
    (e.scope (ParsedFile.rootScope files)).aliases =
      Aliases.empty.putAll (Scope.aliasPairs ((e.directiveTexts files).map Directive.ofText)) := by
  have hroot : (ParsedFile.rootScope files).aliases =
      Aliases.empty.putAll (Scope.aliasPairs (((ParsedFile.globalUsings files).map (·.text)).map Directive.ofText)) := by
    rw [← Scope.aliasPairs_map_ofText Node.text fun _ => true, ← ParsedFile.filter_isGlobal_directives]
    rfl
  have hrows : (e.rows.flatMap fun row => Scope.aliasPairs (directivesOf row)) =
      Scope.aliasPairs ((e.rows.flatMap usingTexts).map Directive.ofText) := by
    rw [List.map_flatMap, Scope.aliasPairs, List.filterMap_flatMap]
    simp only [directivesOf_eq_map_ofText]
    rfl
  rw [directiveTexts, List.map_append, Scope.aliasPairs_append, Aliases.putAll, List.foldl_append]
  show (ParsedFile.rootScope files).aliases.putAll _ = _
  rw [hroot, hrows]
  rfl

/-- An alias has the key of the target that the last directive in force for it is written with. -/
theorem target?_directiveTexts_iff (e : Enclosure) (files : List ParsedFile) {name target : String} :
    (e.scope (ParsedFile.rootScope files)).aliases.target? name = some target ↔
      ∃ written, Directive.LastGives (e.directiveTexts files) name written ∧ TypeName.key written = target := by
  rw [aliases_scope, Aliases.target?_putAll_iff]

end Enclosure

/-! ### Written types -/

namespace TypeName

/-- Whether a type is written with generic arguments or as a nullable type. -/
def IsConstructed (written : String) : Prop :=
  '<' ∈ written.toList ∨ (unblank written.toList).getLast? = some '?'

instance (written : String) : Decidable (IsConstructed written) :=
  inferInstanceAs (Decidable (_ ∨ _))

/-- The first segment of a dotted name. -/
def head (name : String) : String :=
  String.ofList (cutAt '.' name.toList).1

/-- A dotted name with another name for its first segment. -/
def replaceHead (target name : String) : String :=
  match (cutAt '.' name.toList).2 with
  | some (c :: cs) => target ++ "." ++ String.ofList (c :: cs)
  | _ => target

theorem key_ofList_unblank (written : String) : key (String.ofList (unblank written.toList)) = key written := by
  simp only [key, keyChars, String.toList_ofList, unblank_unblank]

private theorem mem_of_mem_foldArguments {depth : Int} {commas : Nat} {cs : List Char} {c : Char} (hcs : '<' ∉ cs)
    (hdepth : depth ≤ 0) (h : c ∈ foldArguments depth commas cs) : c ∈ cs := by
  induction cs generalizing depth with
  | nil => exact h
  | cons d cs ih =>
    rw [List.mem_cons, not_or] at hcs
    rw [foldArguments, if_neg (Ne.symm hcs.1)] at h
    refine List.mem_cons.mpr ?_
    split at h
    · rw [if_neg (by omega)] at h
      exact .inr (ih hcs.2 (by omega) h)
    · split at h
      · exact (List.mem_cons.mp h).imp_right (ih hcs.2 hdepth)
      · rw [if_neg (by omega)] at h
        exact .inr (ih hcs.2 hdepth h)

theorem mem_of_mem_dropEndWhile {p : Char → Bool} {cs : List Char} {c : Char} (h : c ∈ dropEndWhile p cs) : c ∈ cs := by
  rw [dropEndWhile, List.mem_reverse] at h
  exact List.mem_reverse.mp ((List.dropWhile_sublist p).subset h)

theorem mem_of_mem_dropGlobal {cs : List Char} {c : Char} (h : c ∈ dropGlobal cs) : c ∈ cs := by
  unfold dropGlobal at h
  cases hafter : afterStart? globalQualifier cs with
  | none => simpa [hafter] using h
  | some rest =>
    rw [afterStart?_eq_some_iff.mp hafter]
    exact List.mem_append_right _ (by simpa [hafter] using h)

/-- The key of a name without generic arguments has only characters of the name. -/
private theorem mem_of_mem_key {written : String} {c : Char} (hw : '<' ∉ written.toList)
    (h : c ∈ (key written).toList) : c ∈ written.toList := by
  have hsub {d : Char} (hd : d ∈ dropEndWhile (· == '?') (dropGlobal (unblank written.toList))) : d ∈ written.toList :=
    (mem_unblank.mp (mem_of_mem_dropGlobal (mem_of_mem_dropEndWhile hd))).1
  rw [key, String.toList_ofList, keyChars] at h
  exact hsub (mem_of_mem_foldArguments (fun hlt => hw (hsub hlt)) (Int.le_refl 0) h)

/-! ### Last segments -/

theorem pieces_append_mark (a b : List Char) : pieces '.' (a ++ '.' :: b) = pieces '.' a ++ pieces '.' b := by
  induction a with
  | nil => exact pieces_cons_mark '.' b
  | cons c a ih =>
    obtain ⟨p, ps, hp⟩ := List.exists_cons_of_ne_nil (pieces_ne_nil '.' a)
    rw [List.cons_append, pieces, ih, pieces, hp]
    by_cases h : c = '.' <;> simp [h]

theorem lastSegment_qualified (qualifier name : String) : lastSegment (qualifier ++ "." ++ name) = lastSegment name := by
  have hsplit : (qualifier ++ "." ++ name).toList = qualifier.toList ++ '.' :: name.toList := by simp
  rw [lastSegment, segments, hsplit, pieces_append_mark, List.map_append, lastSegment, segments,
    List.getLastD_eq_getLast?, List.getLastD_eq_getLast?, List.getLast?_append_of_ne_nil]
  simpa using pieces_ne_nil '.' name.toList

theorem mem_of_mem_lastSegment {name : String} {c : Char} (h : c ∈ (lastSegment name).toList) : c ∈ name.toList := by
  rcases (isLastSegment_lastSegment name).2 with hname | ⟨qualifier, hname⟩
  · rwa [hname]
  · rw [hname]
    simp [h]

private theorem mem_of_mem_lastSegment_replaceHead {target name : String} {c : Char}
    (h : c ∈ (lastSegment (replaceHead target name)).toList) : c ∈ name.toList ∨ c ∈ target.toList := by
  unfold replaceHead at h
  split at h
  · next d ds hcut =>
    obtain ⟨hname, -⟩ := cutAt_eq_some_iff.mp (Prod.ext rfl hcut)
    rw [lastSegment_qualified] at h
    refine .inl ?_
    rw [hname]
    exact List.mem_append_right _ (List.mem_cons_of_mem _ (by simpa using mem_of_mem_lastSegment h))
  · exact .inr (mem_of_mem_lastSegment h)

end TypeName

/-! ### Operands -/

/-- Whether the last segment of a type's name has an arity. -/
def Symbol.IsGeneric (s : Symbol) : Prop :=
  ∃ stem arity, s.name = stem ++ String.ofList (TypeName.aritySuffix arity)

private theorem Symbol.IsGeneric.mem_name {s : Symbol} (h : s.IsGeneric) : '`' ∈ s.name.toList := by
  obtain ⟨stem, arity, h⟩ := h
  simp [h, TypeName.aritySuffix]

theorem Scope.aliased?_eq (s : Scope) (name : String) :
    s.aliased? name = (s.aliases.target? (TypeName.head name)).map (TypeName.replaceHead · name) := by
  unfold aliased? TypeName.head TypeName.replaceHead
  rcases cutAt '.' name.toList with ⟨front, _ | _ | ⟨c, cs⟩⟩ <;> rfl

theorem Scope.aliased?_of_target? {s : Scope} {name : String} (h : s.aliases.target? (TypeName.head name) = none) :
    s.aliased? name = none := by
  rw [aliased?_eq, h]
  rfl

/-- Whether an operand is constructed, or the target with which its first segment was given as an alias is. -/
def Directive.Constructs (texts : List String) (operand : String) : Prop :=
  TypeName.IsConstructed operand ∨
    ∃ target, LastGives texts (TypeName.head (TypeName.key operand)) target ∧ TypeName.IsConstructed target

namespace Program

/-- Whether an operand that is not constructed itself stands for a known type through an alias for a constructed one. -/
structure LetsThrough (p : Program) (texts : List String) (operand : String) (t : Symbol) : Prop where
  isPlain : ¬ TypeName.IsConstructed operand
  hasName : TypeName.key operand ≠ ""
  isAlias : ∃ target, Directive.LastGives texts (TypeName.head (TypeName.key operand)) target ∧
    TypeName.IsConstructed target ∧
    p.resolve? (TypeName.replaceHead (TypeName.key target) (TypeName.key operand)) = some t

variable {p : Program} {s : Scope} {operand : String} {t : Symbol}

private theorem resolveOperandIn?_eq (p : Program) (s : Scope) (operand : String) :
    p.resolveOperandIn? s operand = if TypeName.IsConstructed operand then none else p.resolveIn? s operand := by
  have hkey : p.resolveIn? s (String.ofList (unblank operand.toList)) = p.resolveIn? s operand := by
    simp only [resolveIn?, TypeName.key_ofList_unblank]
  have hmem : '<' ∈ unblank operand.toList ↔ '<' ∈ operand.toList := by
    rw [mem_unblank]
    exact and_iff_left (by decide)
  simp only [resolveOperandIn?, hkey, Bool.or_eq_true, List.contains_eq_mem, decide_eq_true_eq, beq_iff_eq, hmem]
  exact if_congr Iff.rfl rfl rfl

theorem ne_empty_of_resolveIn? {written : String} (h : p.resolveIn? s written = some t) : TypeName.key written ≠ "" := by
  intro hempty
  simp [resolveIn?, hempty] at h

/-- A constructed operand stands for nothing. -/
theorem not_isConstructed_of_bindArgument (h : p.bindArgument s (.typeof operand) = .type t) :
    ¬ TypeName.IsConstructed operand := by
  intro hc
  rw [bindArgument_typeof, resolveOperandIn?_eq, if_pos hc] at h
  cases h

theorem bindArgument_typeof_iff_of_plain (h : ¬ TypeName.IsConstructed operand) :
    p.bindArgument s (.typeof operand) = .type t ↔ p.resolveIn? s operand = some t := by
  rw [bindArgument_typeof, resolveOperandIn?_eq, if_neg h]

private theorem bindArgument_typeof_eq_unknown_iff :
    p.bindArgument s (.typeof operand) = .unknown ↔ ∀ t, p.bindArgument s (.typeof operand) ≠ .type t := by
  unfold bindArgument
  cases h : p.resolveOperandIn? s operand <;> simp [h]

variable {e : Enclosure} {files : List ParsedFile}

/-- A name that starts with an alias stands for what the written target leads to. -/
private theorem resolveIn?_of_lastGives {written target : String} (hname : TypeName.key written ≠ "")
    (hgives : Directive.LastGives (e.directiveTexts files) (TypeName.head (TypeName.key written)) target) :
    p.resolveIn? (e.scope (ParsedFile.rootScope files)) written =
      p.resolve? (TypeName.replaceHead (TypeName.key target) (TypeName.key written)) := by
  have htarget := (e.target?_directiveTexts_iff files).mpr ⟨target, hgives, rfl⟩
  have halias : (e.scope (ParsedFile.rootScope files)).aliased? (TypeName.key written) =
      some (TypeName.replaceHead (TypeName.key target) (TypeName.key written)) := by
    rw [Scope.aliased?_eq, htarget]
    rfl
  exact resolveIn?_of_aliased hname halias

private theorem LetsThrough.bindArgument_eq (h : p.LetsThrough (e.directiveTexts files) operand t) :
    p.bindArgument (e.scope (ParsedFile.rootScope files)) (.typeof operand) = .type t := by
  obtain ⟨target, hgives, -, ht⟩ := h.isAlias
  rw [bindArgument_typeof_iff_of_plain h.isPlain, resolveIn?_of_lastGives h.hasName hgives, ht]

private theorem bindArgument_of_constructs (h : Directive.Constructs (e.directiveTexts files) operand) :
    p.bindArgument (e.scope (ParsedFile.rootScope files)) (.typeof operand) = .type t ↔
      p.LetsThrough (e.directiveTexts files) operand t := by
  refine ⟨fun hbind => ?_, LetsThrough.bindArgument_eq⟩
  have hplain := not_isConstructed_of_bindArgument hbind
  obtain ⟨target, hgives, htarget⟩ := h.resolve_left hplain
  rw [bindArgument_typeof_iff_of_plain hplain] at hbind
  have hname := ne_empty_of_resolveIn? hbind
  refine ⟨hplain, hname, target, hgives, htarget, ?_⟩
  rw [← hbind, resolveIn?_of_lastGives hname hgives]

theorem exists_qualifier_of_resolveIn? {written : String} (ha : s.aliased? (TypeName.key written) = none)
    (h : p.resolveIn? s written = some t) :
    t.fullName = TypeName.key written ∨ ∃ qualifier, t.fullName = qualifier ++ "." ++ TypeName.key written := by
  rw [resolveIn?_of_not_aliased (ne_empty_of_resolveIn? h) ha] at h
  rcases Option.or_eq_some_iff.mp h with h | ⟨-, h⟩
  · obtain ⟨q, -, hq⟩ := exists_of_firstUnder? h
    exact .inr ⟨q, fullName_of_resolve? hq⟩
  · rcases Option.or_eq_some_iff.mp h with h | ⟨-, h⟩
    · exact .inl (fullName_of_resolve? h)
    · obtain ⟨q, -, hq⟩ := exists_of_firstUnder? h
      exact .inr ⟨q, fullName_of_resolve? hq⟩

/-- An arity at the end of the last segment was written, in the operand or in the target of its alias, or it comes from
the arguments of the alias's target. -/
private theorem letsThrough_of_isGeneric (ht : t.IsGeneric)
    (h : p.bindArgument (e.scope (ParsedFile.rootScope files)) (.typeof operand) = .type t) :
    p.LetsThrough (e.directiveTexts files) operand t ∨ '`' ∈ operand.toList ∨
      ∃ target, Directive.LastGives (e.directiveTexts files) (TypeName.head (TypeName.key operand)) target ∧
        '`' ∈ target.toList := by
  have hplain := not_isConstructed_of_bindArgument h
  have hoperand (hmem : '`' ∈ (TypeName.key operand).toList) : '`' ∈ operand.toList :=
    TypeName.mem_of_mem_key (fun hlt => hplain (.inl hlt)) hmem
  have hmem := ht.mem_name
  -- the last segment of what is found comes from the operand, or from the target where the alias is the whole operand
  have hresolve := (bindArgument_typeof_iff_of_plain hplain).mp h
  cases ha : (e.scope (ParsedFile.rootScope files)).aliases.target? (TypeName.head (TypeName.key operand)) with
  | none =>
    refine .inr (.inl (hoperand ?_))
    rw [Symbol.name] at hmem
    rcases exists_qualifier_of_resolveIn? (Scope.aliased?_of_target? ha) hresolve with hname | ⟨q, hname⟩
    · rw [hname] at hmem
      exact TypeName.mem_of_mem_lastSegment hmem
    · rw [hname, TypeName.lastSegment_qualified] at hmem
      exact TypeName.mem_of_mem_lastSegment hmem
  | some full =>
    obtain ⟨target, hgives, rfl⟩ := (e.target?_directiveTexts_iff files).mp ha
    by_cases htarget : TypeName.IsConstructed target
    · exact .inl ((bindArgument_of_constructs (.inr ⟨target, hgives, htarget⟩)).mp h)
    · rw [resolveIn?_of_lastGives (ne_empty_of_resolveIn? hresolve) hgives] at hresolve
      rw [Symbol.name, fullName_of_resolve? hresolve] at hmem
      rcases TypeName.mem_of_mem_lastSegment_replaceHead hmem with hmem | hmem
      · exact .inr (.inl (hoperand hmem))
      · exact .inr (.inr ⟨target, hgives, TypeName.mem_of_mem_key (fun hlt => htarget (.inl hlt)) hmem⟩)

private theorem isRegistered_bindAttribute_iff {written : WrittenAttribute}
    (h : written.arguments.head? = some (.typeof operand)) : isRegistered [p.bindAttribute s written] t = true ↔
      ∃ u, p.bindArgument s (.typeof operand) = .type u ∧ u.serial = t.serial := by
  have hhead : (p.bindAttribute s written).arguments.head? = some (p.bindArgument s (.typeof operand)) := by
    simp only [bindAttribute, List.head?_map, h, Option.map_some]
  simp only [isRegistered, List.any_cons, List.any_nil, Bool.or_false, registers_iff, hhead, Option.some.injEq]

/-- At any declaration of a file among others, and whatever types are known: an operand of `typeof` that is constructed, or
whose alias was given a constructed target, stands for nothing and registers nothing, unless the alias lets a known
type through.  An operand stands for a generic definition in that case only, arities that are written out apart. -/
theorem bindArgument_constructed (p : Program) {files : List ParsedFile} {file : Declaration.File} {tree : Node}
    {f : Found} (hf : Rollcall.Declares file (ParsedFile.rootScope files) tree f) (operand : String) :
    let scope := f.declaration.scope
    let texts := f.around.directiveTexts files
    (Directive.Constructs texts operand →
      (p.bindArgument scope (.typeof operand) = .unknown ↔ ∀ t, ¬ p.LetsThrough texts operand t) ∧
      ∀ written : WrittenAttribute, written.arguments.head? = some (.typeof operand) → ∀ t,
        isRegistered [p.bindAttribute scope written] t = true ↔
          ∃ u, p.LetsThrough texts operand u ∧ u.serial = t.serial) ∧
    ∀ t : Symbol, t.IsGeneric → p.bindArgument scope (.typeof operand) = .type t →
      p.LetsThrough texts operand t ∨ '`' ∈ operand.toList ∨
        ∃ target, Directive.LastGives texts (TypeName.head (TypeName.key operand)) target ∧ '`' ∈ target.toList := by
  intro scope texts
  have hscope : scope = f.around.scope (ParsedFile.rootScope files) := by
    obtain ⟨header, -, hd⟩ := RowDeclares.declaration_eq hf
    show f.declaration.scope = _
    rw [hd]
    rfl
  rw [hscope]
  refine ⟨fun hc => ⟨?_, fun written hw t => ?_⟩, fun t ht hbind => letsThrough_of_isGeneric ht hbind⟩
  · rw [bindArgument_typeof_eq_unknown_iff]
    exact forall_congr' fun t => not_congr (bindArgument_of_constructs hc)
  · simp only [isRegistered_bindAttribute_iff hw, bindArgument_of_constructs hc]
    rfl

end Program

namespace ParsedFile

/-- A file that gives aliases to constructed types. -/
def aliasesOfConstructed : ParsedFile :=
  ofChildren "A.cs" [directiveNode "using IntBox = App.Box<int>;", directiveNode "using MaybePoint = App.Point?;",
    classNode "Registry" "Base"]

def registryFound : Found :=
  let around := Enclosure.ofFile (Place.root aliasesOfConstructed.tree).children
  let header : Header := ⟨.classType, "Registry", 0, false, ["Base"], [], default⟩
  ⟨⟨[2], classNode "Registry" "Base"⟩, around,
    Declaration.ofHeader ⟨"A.cs", false⟩ (around.scope (rootScope [aliasesOfConstructed])) header⟩

private theorem declares_registryFound :
    Declares ⟨"A.cs", false⟩ (rootScope [aliasesOfConstructed]) aliasesOfConstructed.tree registryFound := by
  have hstands : StandsIn (Place.root aliasesOfConstructed.tree).children registryFound.place [] :=
    ⟨(Place.root aliasesOfConstructed.tree).children.take 2, rfl, by decide⟩
  exact .type hstands (.here rfl)

private theorem constructs_registryFound :
    let texts := registryFound.around.directiveTexts [aliasesOfConstructed]
    Directive.Constructs texts "IntBox" ∧ Directive.Constructs texts "MaybePoint" := by
  have htexts : registryFound.around.directiveTexts [aliasesOfConstructed] =
      ["using IntBox = App.Box<int>;", "using MaybePoint = App.Point?;"] := by
    decide +kernel
  have hhead : TypeName.head (TypeName.key "IntBox") = "IntBox" := by decide +kernel
  have himport : Directive.importOf "using MaybePoint = App.Point?;" = .aliasFor "MaybePoint" "App.Point" := by
    decide +kernel
  have hother : ∀ other, ¬ Directive.Gives "using MaybePoint = App.Point?;" "IntBox" other :=
    Directive.not_gives_of_importOf (by simp [himport])
  intro texts
  show Directive.Constructs (registryFound.around.directiveTexts _) _ ∧ _
  rw [htexts]
  constructor
  · refine .inr ⟨" App.Box<int>", ⟨[], _, _, rfl, ⟨by decide, "IntBox ".toList, ?_⟩, ?_⟩, by decide⟩
    · decide
    · simpa [hhead] using hother
  · refine .inr ⟨" App.Point?", ⟨[_], _, [], rfl, ⟨by decide, "MaybePoint ".toList, ?_⟩, by simp⟩, by decide⟩
    decide

end ParsedFile

namespace Program

/-- An alias for a constructed type whose definition is not known. -/
theorem bindArgument_constructed_unknown :
    let p := ofFullNames ["App.Box", "App.Point"]
    let found := ParsedFile.registryFound
    let texts := found.around.directiveTexts [ParsedFile.aliasesOfConstructed]
    Rollcall.Declares ⟨"A.cs", false⟩ (ParsedFile.rootScope [ParsedFile.aliasesOfConstructed])
        ParsedFile.aliasesOfConstructed.tree found ∧
      Directive.Constructs texts "IntBox" ∧ p.bindArgument found.declaration.scope (.typeof "IntBox") = .unknown ∧
      ∀ t, ¬ p.LetsThrough texts "IntBox" t :=
  ⟨ParsedFile.declares_registryFound, ParsedFile.constructs_registryFound.1, by decide +kernel,
    ((bindArgument_constructed _ ParsedFile.declares_registryFound "IntBox").1
      ParsedFile.constructs_registryFound.1).1.mp (by decide +kernel)⟩

/-- Aliases for constructed types stand for the definitions and register them. -/
theorem bindArgument_alias_lets_through :
    let p := ofFullNames ["App.Box`1", "App.Point"]
    let found := ParsedFile.registryFound
    let texts := found.around.directiveTexts [ParsedFile.aliasesOfConstructed]
    let box : Symbol := ⟨0, "App.Box`1", .classType, none⟩
    let point : Symbol := ⟨1, "App.Point", .classType, none⟩
    declarationsOf [ParsedFile.aliasesOfConstructed] = [found.declaration] ∧
      (Directive.Constructs texts "IntBox" ∧ Directive.Constructs texts "MaybePoint") ∧
      p.bindArgument found.declaration.scope (.typeof "IntBox") = .type box ∧
      p.bindArgument found.declaration.scope (.typeof "MaybePoint") = .type point ∧
      isRegistered [p.bindAttribute found.declaration.scope ⟨"JsonSerializable", [.typeof "IntBox"]⟩] box = true ∧
      p.bindArgument found.declaration.scope (.typeof "App.Box<int>") = .unknown ∧
      p.bindArgument found.declaration.scope (.typeof "App.Point?") = .unknown :=
  ⟨by decide +kernel, ParsedFile.constructs_registryFound, by decide +kernel⟩

end Program

end Rollcall
