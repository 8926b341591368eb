import Rollcall.Proofs.AttributeNames

/-!
# The layout of using directives

A using directive is laid out with blanks around its words and marks, perhaps behind the word `global`, and closed by
semicolons (`Layout`).  What it names is a dotted name, with blanks around the dots, or an alias with a type for it
(`Named`).  The layout has no effect on what the directive brings into scope, and the word `global` alone makes it global
(`ofText_write`).

The parts of a directive are found by what they start with.  So the words must be told from names that start like them: a
blank is no character of a word (`isWordChar_of_isBlank`), and `static` with a blank behind it opens a name only where it
is the first identifier (`not_startsStatic`).
-/

namespace Rollcall

open Text

namespace Text

/-- A text of blanks alone. -/
abbrev Blanks := {cs : List Char // ∀ c ∈ cs, isBlank c = true}

/-- A text that separates words. -/
abbrev Gap := {cs : List Char // IsGap cs}

theorem isWordChar_of_isBlank {c : Char} (h : isBlank c = true) : isWordChar c = false := by
  have hcodes : ∀ n ∈ List.range' 9 5 ++ List.range' 0x1C 5 ++ List.range' 0x2000 11 ++
      [0x85, 0xA0, 0x1680, 0x2028, 0x2029, 0x202F, 0x205F, 0x3000], isWordChar (Char.ofNat n) = false := by
    decide +kernel
  have hmem : c.toNat ∈ List.range' 9 5 ++ List.range' 0x1C 5 ++ List.range' 0x2000 11 ++
      [0x85, 0xA0, 0x1680, 0x2028, 0x2029, 0x202F, 0x205F, 0x3000] := by
    simp only [isBlank, isMargin, Bool.or_eq_true, Bool.and_eq_true, decide_eq_true_eq, beq_iff_eq] at h
    simp only [List.mem_append, List.mem_range'_1, List.mem_cons, List.not_mem_nil, or_false]
    omega
  simpa using hcodes _ hmem

private theorem trim_append_of_forall {front : List Char} (h : ∀ c ∈ front, isBlank c = true) (cs : List Char) :
    trim (front ++ cs) = trim cs := by
  rw [trim, List.dropWhile_append_of_pos h, trim]

/-- Behind the last character other than a blank stand blanks alone. -/
private theorem exists_append_cons_blanks {cs : List Char} {b : Char} (hb : b ∈ cs) (h : isBlank b = false) :
    ∃ front c, ∃ blanks : Blanks, cs = front ++ c :: blanks ∧ isBlank c = false := by
  induction cs generalizing b with
  | nil => exact absurd hb List.not_mem_nil
  | cons d cs ih =>
    by_cases hblanks : ∀ c ∈ cs, isBlank c = true
    · rcases List.mem_cons.mp hb with rfl | hmem
      · exact ⟨[], b, ⟨cs, hblanks⟩, rfl, h⟩
      · exact absurd (hblanks b hmem) (by simp [h])
    · simp only [not_forall, Bool.not_eq_true] at hblanks
      obtain ⟨c, hc, hfalse⟩ := hblanks
      obtain ⟨front, last, blanks, rfl, hlast⟩ := ih hc hfalse
      exact ⟨d :: front, last, blanks, rfl, hlast⟩

private theorem unblank_dropEndWhile (cs : List Char) : unblank (dropEndWhile isBlank cs) = unblank cs := by
  by_cases h : ∀ c ∈ cs, isBlank c = true
  · have hnil : dropEndWhile isBlank cs = [] := dropEndWhile_append_of_forall [] h
    rw [hnil, unblank_eq_nil h, unblank_nil]
  · simp only [not_forall, Bool.not_eq_true] at h
    obtain ⟨b, hb, hfalse⟩ := h
    obtain ⟨front, c, blanks, rfl, hc⟩ := exists_append_cons_blanks hb hfalse
    have hnil : dropEndWhile isBlank blanks.1 = [] := dropEndWhile_append_of_forall [] blanks.2
    have hcons (ds : List Char) : unblank (c :: ds) = c :: unblank ds := by simp [unblank, hc]
    rw [dropEndWhile_append_cons _ _ hc, hnil, unblank_append, unblank_append, hcons, hcons, unblank_eq_nil blanks.2,
      unblank_nil]

private theorem dropEndWhile_isPrefixOf (p : Char → Bool) (cs : List Char) : dropEndWhile p cs <+: cs := by
  rw [dropEndWhile, ← List.reverse_suffix, List.reverse_reverse]
  exact List.dropWhile_suffix p

private theorem cutAt_of_not_mem {mark : Char} {cs : List Char} (h : mark ∉ cs) : cutAt mark cs = (cs, none) := by
  induction cs with
  | nil => rfl
  | cons c cs ih =>
    rw [List.mem_cons, not_or] at h
    simp [cutAt, ih h.2, Ne.symm h.1]

end Text

namespace Directive

/-! ### Layouts -/

/-- How a directive is laid out around what it names. -/
structure Layout where
  front : Blanks
  isGlobal : Bool
  /-- Behind the word `global`. -/
  firstGap : Gap
  /-- Behind the word `using`. -/
  gap : Gap
  beforeEnd : Blanks
  /-- The semicolons behind the first one. -/
  semicolons : Nat
  back : Blanks

namespace Layout

/-- What a directive starts with. -/
def opening (l : Layout) : List Char :=
  (if l.isGlobal then "global".toList ++ l.firstGap else []) ++ ("using".toList ++ l.gap)

/-- What a directive ends with. -/
def ending (l : Layout) : List Char :=
  l.beforeEnd ++ (List.replicate (l.semicolons + 1) ';' ++ l.back)

/-- The text of a directive. -/
def write (l : Layout) (named : List Char) : String :=
  String.ofList (l.front ++ (l.opening ++ (named ++ l.ending)))

private theorem closing_blanks_ending (l : Layout) (blanks : Blanks) : closing (blanks ++ l.ending) = [] := by
  have hback : dropEndWhile isBlank (blanks.1 ++ l.ending) =
      (blanks.1 ++ l.beforeEnd.1) ++ List.replicate (l.semicolons + 1) ';' := by
    have hmark : List.replicate (l.semicolons + 1) ';' = List.replicate l.semicolons ';' ++ [';'] :=
      List.replicate_succ'
    have hnil : dropEndWhile isBlank l.back.1 = [] := dropEndWhile_append_of_forall [] l.back.2
    have := dropEndWhile_append_cons (p := isBlank) (c := ';')
      (blanks.1 ++ l.beforeEnd.1 ++ List.replicate l.semicolons ';') l.back.1 rfl
    simpa [ending, hmark, hnil] using this
  have hblank : ∀ c ∈ blanks.1 ++ l.beforeEnd.1, isBlank c = true := by
    intro c hc
    exact (List.mem_append.mp hc).elim (blanks.2 c) (l.beforeEnd.2 c)
  have hmarks : dropEndWhile (· == ';') (blanks.1 ++ l.beforeEnd.1) = blanks.1 ++ l.beforeEnd.1 := by
    refine dropEndWhile_eq_self fun c hc => beq_eq_false_iff_ne.mpr ?_
    rintro rfl
    exact absurd (hblank _ hc) (by decide)
  rw [closing, hback, dropEndWhile_append_of_forall (p := (· == ';')) _ (by simp), hmarks]
  exact dropEndWhile_append_of_forall [] hblank

/-- An opening starts with a letter. -/
private theorem exists_opening_eq (l : Layout) : ∃ b rest, l.opening = b :: rest ∧ isBlank b = false := by
  unfold opening
  cases l.isGlobal with
  | true => exact ⟨'g', "lobal".toList ++ l.firstGap ++ ("using".toList ++ l.gap), rfl, rfl⟩
  | false => exact ⟨'u', "sing".toList ++ l.gap, rfl, rfl⟩

private theorem dropUsing_opening (l : Layout) (cs : List Char) :
    dropUsing (l.opening ++ cs) = cs.dropWhile isBlank := by
  unfold opening
  cases l.isGlobal with
  | true =>
    rw [if_pos rfl, ← dropUsing_global l.firstGap.2 l.gap.2]
    simp only [List.append_assoc]
  | false =>
    rw [if_neg (by decide), ← dropUsing_using l.gap.2, List.nil_append, List.append_assoc]

variable {named : List Char} {b : Char}

/-- What is left of a directive is what it names. -/
private theorem body_write (l : Layout) (hfirst : named.head? = some b) (hb : isBlank b = false) (hmark : ';' ∉ named) :
    body (l.write named).toList = dropEndWhile isBlank named := by
  obtain ⟨front, c, blanks, rfl, hc⟩ := exists_append_cons_blanks (List.mem_of_head? hfirst) hb
  obtain ⟨o, opening, hopening, ho⟩ := l.exists_opening_eq
  have hcmark : c ≠ ';' := by
    rintro rfl
    exact hmark (List.mem_append_right front List.mem_cons_self)
  have hdrop : dropEndWhile isBlank (front ++ c :: blanks.1) = front ++ [c] := by
    have hnil : dropEndWhile isBlank blanks.1 = [] := dropEndWhile_append_of_forall [] blanks.2
    rw [dropEndWhile_append_cons _ _ hc, hnil]
  have hfront : (front ++ [c]).dropWhile isBlank = front ++ [c] := by
    cases front with
    | nil => rw [List.nil_append, List.dropWhile_cons_of_neg (by simp [hc])]
    | cons d front =>
      cases hfirst
      rw [List.cons_append, List.dropWhile_cons_of_neg (by simp [hb])]
  calc body (l.write (front ++ c :: blanks.1)).toList
      = body (o :: (opening ++ front) ++ c :: (blanks.1 ++ l.ending)) := by
        rw [write, String.toList_ofList, body, trim_append_of_forall l.front.2, ← body, hopening]
        simp
    _ = dropUsing (o :: (opening ++ front) ++ c :: closing (blanks ++ l.ending)) :=
        body_cons_append_cons _ _ ho hc hcmark
    _ = dropUsing (l.opening ++ (front ++ [c])) := by
        rw [l.closing_blanks_ending, hopening]
        simp
    _ = dropEndWhile isBlank (front ++ c :: blanks.1) := by rw [l.dropUsing_opening, hfront, hdrop]

/-- A directive is global exactly when the word `global` opens it. -/
private theorem startsGlobal_write (l : Layout) (hfirst : named.head? = some b) (hb : isBlank b = false) :
    startsGlobal (l.write named) = l.isGlobal := by
  obtain ⟨front, c, blanks, rfl, hc⟩ := exists_append_cons_blanks (List.mem_of_head? hfirst) hb
  obtain ⟨o, opening, hopening, ho⟩ := l.exists_opening_eq
  have htrim : trim (l.write (front ++ c :: blanks.1)).toList =
      l.opening ++ (front ++ c :: dropEndWhile isBlank (blanks.1 ++ l.ending)) := by
    have := trim_cons_append_cons (opening ++ front) (blanks.1 ++ l.ending) ho hc
    rw [write, String.toList_ofList, trim_append_of_forall l.front.2, hopening]
    simpa using this
  rw [startsGlobal, htrim]
  generalize front ++ c :: dropEndWhile isBlank (blanks.1 ++ l.ending) = rest
  unfold Layout.opening
  cases l.isGlobal with
  | false => rfl
  | true =>
    obtain ⟨gap, hne, hblank⟩ := l.gap
    cases gap with
    | nil => exact absurd rfl hne
    | cons d gap =>
      have hword : afterWord? "global".toList
          ("global".toList ++ (l.firstGap.1 ++ ("using".toList ++ (d :: gap ++ rest)))) =
          some (("using".toList ++ (d :: gap ++ rest)).dropWhile isBlank) := afterWord?_append l.firstGap.2
      have husing : afterStart? "using".toList (("using".toList ++ (d :: gap ++ rest)).dropWhile isBlank) =
          some (d :: (gap ++ rest)) := afterStart?_eq_some_iff.mpr rfl
      simp only [if_true, List.append_assoc]
      rw [hword, Option.bind_some, husing]
      simp [isWordChar_of_isBlank (hblank d List.mem_cons_self)]

end Layout

/-! ### What directives name -/

/-- An identifier without the marks of directives. -/
structure Word extends TypeName.Identifier where
  no_marks : ';' ∉ name.toList ∧ '=' ∉ name.toList

/-- A name as written: identifiers with dots between them and blanks around the dots. -/
inductive Dotted : List Char → List Word → Prop
  | single (w : Word) : Dotted w.name.toList [w]
  | dot (w : Word) (before after : Blanks) {cs : List Char} {ws : List Word} (h : Dotted cs ws) :
      Dotted (w.name.toList ++ (before ++ '.' :: (after ++ cs))) (w :: ws)

/-- What a directive names as written, and what that brings into scope. -/
inductive Named : List Char → Import → Prop
  | space {cs : List Char} {w : Word} {ws : List Word} (h : Dotted cs (w :: ws)) (hstatic : w.name ≠ "static") :
      Named cs (.openNamespace (".".intercalate ((w :: ws).map (·.name))))
  | aliased (w : Word) (hstatic : w.name ≠ "static") (before after : Blanks) {n : TypeName.NameSyntax} {target : String}
      (htarget : n.Spells target) (hmark : ';' ∉ n.text) :
      Named (w.name.toList ++ (before ++ '=' :: (after ++ target.toList))) (.aliasFor w.name n.shownName)

namespace Word

variable (w : Word)

private theorem not_isBlank : ∀ c ∈ w.name.toList, isBlank c = false :=
  fun c hc => (w.isPlain.2 c hc).2

private theorem exists_head?_eq : ∃ b, w.name.toList.head? = some b ∧ isBlank b = false := by
  have hne : w.name.toList ≠ [] := fun h => w.isPlain.1 (String.toList_eq_nil_iff.mp h)
  obtain ⟨b, rest, hname⟩ := List.exists_cons_of_ne_nil hne
  exact ⟨b, by rw [hname, List.head?_cons], w.not_isBlank b (hname ▸ List.mem_cons_self)⟩

private theorem exists_head?_append_eq (cs : List Char) :
    ∃ b, (w.name.toList ++ cs).head? = some b ∧ isBlank b = false := by
  obtain ⟨b, hb, hblank⟩ := w.exists_head?_eq
  exact ⟨b, by rw [List.head?_append, hb, Option.some_or], hblank⟩

private theorem trim_append (blanks : Blanks) : trim (w.name.toList ++ blanks) = w.name.toList := by
  obtain ⟨b, hb, hblank⟩ := w.exists_head?_eq
  obtain ⟨rest, hname⟩ := List.head?_eq_some_iff.mp hb
  have hdrop : (w.name.toList ++ blanks).dropWhile isBlank = w.name.toList ++ blanks := by
    rw [hname, List.cons_append, List.dropWhile_cons_of_neg (by simp [hblank])]
  rw [trim, hdrop, dropEndWhile_append_of_forall _ blanks.2, dropEndWhile_eq_self w.not_isBlank]

/-- A name does not start with `static` and a blank, unless its first identifier is `static`. -/
theorem not_startsStatic (hstatic : w.name ≠ "static") {rest : List Char}
    (hrest : ∀ c ∈ rest.head?, c ∉ "static".toList) : ¬ "static ".toList <+: w.name.toList ++ rest := by
  have hname : w.name.toList ≠ "static".toList := fun h => hstatic (String.toList_inj.mp h)
  rintro ⟨behind, h⟩
  rw [show "static ".toList = "static".toList ++ [' '] from rfl, List.append_assoc, List.append_eq_append_iff] at h
  rcases h with ⟨more, hw, hblank⟩ | ⟨more, hw, hbehind⟩
  · cases more with
    | nil => exact hname (by rw [hw, List.append_nil])
    | cons d more =>
      obtain rfl := (List.cons.inj hblank).1
      exact absurd (w.not_isBlank ' ' (by simp [hw])) (by decide)
  · cases more with
    | nil => exact hname (by rw [hw, List.append_nil])
    | cons d more => exact hrest d (by rw [hbehind]; rfl) (by simp [hw])

end Word

/-- What stands behind an identifier and starts with a mark or a blank is no part of `static`. -/
private theorem not_mem_static_of_head? (blanks : Blanks) {mark : Char} (hmark : mark ∉ "static".toList)
    (rest : List Char) : ∀ c ∈ (blanks.1 ++ mark :: rest).head?, c ∉ "static".toList := by
  obtain ⟨cs, hblank⟩ := blanks
  intro c hc
  cases cs with
  | nil =>
    cases hc
    exact hmark
  | cons d cs =>
    cases hc
    intro hmem
    have hletters : ∀ c ∈ "static".toList, isBlank c = false := by simp [isBlank, isMargin]
    exact absurd (hblank c List.mem_cons_self) (by simp [hletters c hmem])

namespace Dotted

variable {cs : List Char} {w : Word} {ws : List Word}

theorem not_mem (h : Dotted cs ws) : ';' ∉ cs ∧ '=' ∉ cs := by
  induction h with
  | single w => exact w.no_marks
  | dot w before after h ih =>
    have hblank (blanks : Blanks) : ';' ∉ blanks.1 ∧ '=' ∉ blanks.1 :=
      ⟨fun hc => absurd (blanks.2 _ hc) (by decide), fun hc => absurd (blanks.2 _ hc) (by decide)⟩
    simp [w.no_marks, hblank before, hblank after, ih]

private theorem unblank_eq (h : Dotted cs ws) : unblank cs = ['.'].intercalate (ws.map (·.name.toList)) := by
  induction h with
  | single w => simpa using unblank_eq_self w.not_isBlank
  | @dot w before after cs ws h ih =>
    have hne : ws ≠ [] := by cases h <;> exact List.cons_ne_nil _ _
    obtain ⟨v, vs, rfl⟩ := List.exists_cons_of_ne_nil hne
    have hdot : unblank ('.' :: (after.1 ++ cs)) = '.' :: unblank (after.1 ++ cs) := rfl
    rw [unblank_append, unblank_append, unblank_eq_self w.not_isBlank, unblank_eq_nil before.2, hdot, unblank_append,
      unblank_eq_nil after.2, ih]
    simp [List.intercalate]

theorem not_startsStatic (h : Dotted cs (w :: ws)) (hstatic : w.name ≠ "static") : ¬ "static ".toList <+: cs := by
  cases h with
  | single =>
    have hend : ∀ c ∈ ([] : List Char).head?, c ∉ "static".toList := nofun
    simpa using w.not_startsStatic hstatic hend
  | dot _ before after h => exact w.not_startsStatic hstatic (not_mem_static_of_head? before (by decide) _)

/-- The key of a dotted name is the name without its blanks. -/
theorem key_eq (h : Dotted cs ws) {written : String} (hwritten : unblank written.toList = unblank cs) :
    TypeName.key written = ".".intercalate (ws.map (·.name)) := by
  have hname : String.ofList (unblank written.toList) = ".".intercalate (ws.map (·.name)) := by
    rw [hwritten, h.unblank_eq, ← String.toList_inj, String.toList_ofList, String.toList_intercalate, List.map_map]
    rfl
  have hnormal : TypeName.IsNormal (".".intercalate (ws.map (·.name))) :=
    .intercalate (List.forall_mem_map.mpr fun w _ => TypeName.isNormal_of_isPlain w.isPlain)
  rw [← TypeName.key_ofList_unblank, hname, hnormal.key_eq]

end Dotted

namespace Named

variable {named : List Char} {brings : Import}

private theorem exists_head?_eq (h : Named named brings) : ∃ b, named.head? = some b ∧ isBlank b = false := by
  cases h with
  | @space _ w _ h _ =>
    cases h with
    | single => exact w.exists_head?_eq
    | dot => exact w.exists_head?_append_eq _
  | aliased w => exact w.exists_head?_append_eq _

theorem not_mem (h : Named named brings) : ';' ∉ named := by
  cases h with
  | space h => exact h.not_mem.1
  | @aliased w _ before after n target htarget hmark =>
    have hblank (blanks : Blanks) : ';' ∉ blanks.1 := fun hc => absurd (blanks.2 _ hc) (by decide)
    have hname : ';' ∉ target.toList := fun hc => hmark (htarget ▸ mem_unblank.mpr ⟨hc, rfl⟩)
    simp [w.no_marks, hblank before, hblank after, hname]

/-- What a directive is read to bring into scope. -/
private theorem importOf_eq (h : Named named brings) {text : String}
    (hbody : body text.toList = dropEndWhile isBlank named) : importOf text = brings := by
  cases h with
  | space h hstatic =>
    have hfront := dropEndWhile_isPrefixOf isBlank named
    have hstatic : "static ".toList.isPrefixOf (dropEndWhile isBlank named) = false := by
      rw [Bool.eq_false_iff, Ne, List.isPrefixOf_iff_prefix]
      exact fun hs => h.not_startsStatic hstatic (hs.trans hfront)
    have hmark : '=' ∉ dropEndWhile isBlank named := fun hc => h.not_mem.2 (hfront.subset hc)
    rw [importOf, hbody, hstatic, cutAt_of_not_mem hmark]
    simp only [Bool.false_eq_true, if_false]
    rw [h.key_eq]
    rw [String.toList_ofList, unblank_dropEndWhile]
  | @aliased w hstatic before after n target htarget hmark =>
    have hdrop : dropEndWhile isBlank (w.name.toList ++ (before.1 ++ '=' :: (after.1 ++ target.toList))) =
        (w.name.toList ++ before.1) ++ '=' :: dropEndWhile isBlank (after.1 ++ target.toList) := by
      rw [← List.append_assoc, dropEndWhile_append_cons _ _ rfl]
    have hstatic : "static ".toList.isPrefixOf
        ((w.name.toList ++ before.1) ++ '=' :: dropEndWhile isBlank (after.1 ++ target.toList)) = false := by
      rw [Bool.eq_false_iff, Ne, List.isPrefixOf_iff_prefix, List.append_assoc]
      exact w.not_startsStatic hstatic (not_mem_static_of_head? before (by decide) _)
    have hfront : '=' ∉ w.name.toList ++ before.1 := by
      have hblank : '=' ∉ before.1 := fun hc => absurd (before.2 _ hc) (by decide)
      simp [w.no_marks, hblank]
    have hkey : TypeName.key (String.ofList (dropEndWhile isBlank (after.1 ++ target.toList))) = n.shownName := by
      refine TypeName.NameSyntax.key_of_spells ?_
      rw [TypeName.NameSyntax.Spells, String.toList_ofList, unblank_dropEndWhile, unblank_append,
        unblank_eq_nil after.2]
      exact htarget
    rw [importOf, hbody, hdrop, hstatic, cutAt_append hfront]
    simp only [Bool.false_eq_true, if_false]
    rw [hkey, w.trim_append before, String.ofList_toList]

end Named

private theorem importOf_write (l : Layout) {named : List Char} {brings : Import} (h : Named named brings) :
    importOf (l.write named) = brings := by
  obtain ⟨b, hfirst, hb⟩ := h.exists_head?_eq
  exact h.importOf_eq (l.body_write hfirst hb h.not_mem)

/-- A directive brings what it names into scope however it is laid out, behind the word `global` as without it, and it is
global exactly when it starts with that word. -/
theorem ofText_write (l : Layout) {named : List Char} {brings : Import} (h : Named named brings) :
    ofText (l.write named) = ⟨l.isGlobal, brings⟩ ∧
      importOf ({ l with isGlobal := !l.isGlobal }.write named) = importOf (l.write named) := by
  obtain ⟨b, hfirst, hb⟩ := h.exists_head?_eq
  refine ⟨?_, ?_⟩
  · rw [ofText, l.startsGlobal_write hfirst hb, importOf_write l h]
  · rw [importOf_write _ h, importOf_write l h]

/-- A global directive over several lines, with ideographic spaces and two semicolons. -/
def wideLayout : Layout where
  front := ⟨"\n\u3000".toList, List.all_eq_true.mp (by decide)⟩
  isGlobal := true
  firstGap := ⟨"\u3000\n".toList, by decide⟩
  gap := ⟨"\t".toList, by decide⟩
  beforeEnd := ⟨"\n".toList, List.all_eq_true.mp (by decide)⟩
  semicolons := 1
  back := ⟨" \u00a0".toList, List.all_eq_true.mp (by decide)⟩

/-- Names that start like the words of directives, and a generic type for an alias. -/
theorem ofText_write_wide :
    ofText "\n\u3000global\u3000\nusing\tstaticX .\nusing\n;; \u00a0" = ⟨true, .openNamespace "staticX.using"⟩ ∧
      ofText ("\n\u3000global\u3000\nusing\tglobalX = " ++
          " global::App . Outer< List<int?>[ ],\tglobal :: Map<,>.Entry <string> >.Inner<> ??" ++ "\n;; \u00a0") =
        ⟨true, .aliasFor "globalX" "App.Outer`2.Inner`1"⟩ := by
  let blank : Blanks := ⟨[' '], List.all_eq_true.mp (by decide)⟩
  let newline : Blanks := ⟨['\n'], List.all_eq_true.mp (by decide)⟩
  let staticX : Word := ⟨⟨"staticX", by decide⟩, by decide⟩
  let using' : Word := ⟨⟨"using", by decide⟩, by decide⟩
  let globalX : Word := ⟨⟨"globalX", by decide⟩, by decide⟩
  have hspells : TypeName.nestedName.Spells
      " global::App . Outer< List<int?>[ ],\tglobal :: Map<,>.Entry <string> >.Inner<> ??" := by decide +kernel
  have hshown : TypeName.nestedName.shownName = "App.Outer`2.Inner`1" := by decide +kernel
  refine ⟨Eq.trans (congrArg ofText ?_)
    (ofText_write wideLayout (.space (.dot staticX blank newline (.single using')) (by decide))).1, ?_⟩
  · decide +kernel
  · rw [← hshown]
    refine Eq.trans (congrArg ofText ?_)
      (ofText_write wideLayout (.aliased globalX (by decide) blank blank hspells (by decide +kernel))).1
    decide +kernel

end Directive

end Rollcall
