import Rollcall.Proofs.Brackets
import Rollcall.Proofs.Operands

/-!
# Names of declarations as written

The full name of a declaration is made from the tree: the names of the namespaces and types around it, each type with the
number of its type parameters.  Its key is made from text: the argument lists of a written name are folded into the numbers
of their arguments.  Both agree (`resolveIn?_spelled`): a written name that goes along the way to a declaration and gives
each generic type as many arguments as it has parameters (`Writes`) has the full name as its key, and stands for the
declared type; so does the last segment alone where the declaration stands.
-/

namespace Rollcall

open Text

namespace TypeName

/-! ### Written names -/

/-- Whether a name is a plain identifier. -/
def IsPlain (name : String) : Prop :=
  name ≠ "" ∧ ∀ c ∈ name.toList, c ∉ ['.', '<', '>', ',', '?', '`', ':'] ∧ isBlank c = false

instance (name : String) : Decidable (IsPlain name) :=
  @instDecidableAnd _ _ inferInstance (List.decidableBAll _ _)

/-- A generic argument: characters other than brackets and commas, and argument lists in brackets. -/
inductive IsArgument : List Char → Prop
  | nil : IsArgument []
  | char {c : Char} {cs : List Char} (hc : c ≠ '<' ∧ c ≠ '>' ∧ c ≠ ',') (h : IsArgument cs) : IsArgument (c :: cs)
  | list {arguments : List (List Char)} {cs : List Char} (harguments : ∀ a ∈ arguments, IsArgument a)
      (h : IsArgument cs) : IsArgument ('<' :: [','].intercalate arguments ++ '>' :: cs)

theorem IsArgument.append {cs rest : List Char} (hcs : ∀ c ∈ cs, c ≠ '<' ∧ c ≠ '>' ∧ c ≠ ',') (h : IsArgument rest) :
    IsArgument (cs ++ rest) := by
  induction cs with
  | nil => exact h
  | cons c cs ih => exact .char (hcs c List.mem_cons_self) (ih fun d hd => hcs d (List.mem_cons_of_mem c hd))

/-- A namespace or type on the way to a declaration, with the number of its type parameters. -/
structure Segment where
  name : String
  arity : Nat
deriving DecidableEq, Repr

namespace Segment

/-- The part of a full name that a segment makes. -/
def metadataName (g : Segment) : String :=
  Declaration.metadataName g.name g.arity

theorem metadataName_ne_empty {g : Segment} (h : g.name ≠ "") : g.metadataName ≠ "" := by
  unfold metadataName Declaration.metadataName
  split
  · exact h
  · simp [h]

/-- The ways to write a segment: the name, and behind a generic one as many arguments as it has parameters.  In the unbound
form the arguments are empty. -/
inductive IsWritten (g : Segment) : List Char → Prop
  | plain (h : g.arity = 0) : IsWritten g g.name.toList
  | generic {arguments : List (List Char)} (hne : arguments ≠ []) (hlength : arguments.length = g.arity)
      (harguments : ∀ a ∈ arguments, IsArgument a) :
      IsWritten g (g.name.toList ++ '<' :: [','].intercalate arguments ++ ['>'])

end Segment

/-- Whether a text writes a dotted name, with any blanks. -/
def Writes (path : List Segment) (written : String) : Prop :=
  ∃ texts, List.Forall₂ Segment.IsWritten path texts ∧ unblank written.toList = ['.'].intercalate texts

/-! ### Folding arguments -/

theorem IsArgument.isBalanced {a : List Char} (h : IsArgument a) : IsBalanced a 0 := by
  induction h with
  | nil => exact .nil
  | char hc _ ih => exact .char hc ih
  | @list arguments cs _ _ iharguments ih =>
    have hinner := IsBalanced.intercalate_comma id (fun _ => 0) iharguments
    rw [List.map_id] at hinner
    exact .list hinner ih

/-- The texts that are taken for a segment: its arity is one more than the commas of the list behind the name. -/
inductive Segment.IsShown (g : Segment) : List Char → Prop
  | plain (h : g.arity = 0) : IsShown g g.name.toList
  | generic {inner : List Char} {n : Nat} (hinner : IsBalanced inner n) (harity : n + 1 = g.arity) :
      IsShown g (g.name.toList ++ '<' :: inner ++ ['>'])

theorem Segment.IsWritten.isShown {g : Segment} {text : List Char} (h : g.IsWritten text) : g.IsShown text := by
  cases h with
  | plain harity => exact .plain harity
  | @generic arguments hne hlength harguments =>
    have hpos : 0 < arguments.length := List.length_pos_iff.mpr hne
    have hinner := IsBalanced.intercalate_comma id (fun _ => 0) fun a ha => (harguments a ha).isBalanced
    rw [List.map_id, List.map_const', List.sum_replicate_nat, Nat.mul_zero, Nat.zero_add] at hinner
    exact .generic hinner (by omega)

/-- A segment becomes the part of a full name that it makes. -/
private theorem foldArguments_segment {g : Segment} {text : List Char} (hname : IsPlain g.name) (h : g.IsShown text)
    (rest : List Char) :
    foldArguments 0 0 (text ++ rest) = g.metadataName.toList ++ foldArguments 0 0 rest := by
  have hplain : ∀ c ∈ g.name.toList, c ≠ '<' ∧ c ≠ '>' := by
    intro c hc
    have := (hname.2 c hc).1
    simp only [List.mem_cons, not_or] at this
    exact ⟨this.2.1, this.2.2.1⟩
  cases h with
  | plain harity => rw [foldArguments_plain hplain, Segment.metadataName, Declaration.metadataName, if_pos harity]
  | generic hinner harity =>
    rw [List.append_assoc, List.append_assoc, foldArguments_plain hplain, List.singleton_append, foldArguments_list hinner,
      Segment.metadataName, Declaration.metadataName, if_neg (by omega), String.toList_append, String.toList_ofList,
      List.append_assoc, harity]

private theorem foldArguments_path {path : List Segment} {texts : List (List Char)}
    (hplain : ∀ g ∈ path, IsPlain g.name) (h : List.Forall₂ Segment.IsShown path texts) :
    foldArguments 0 0 (['.'].intercalate texts) = ['.'].intercalate (path.map fun g => g.metadataName.toList) := by
  induction h with
  | nil => rfl
  | @cons g text path texts hg h ih =>
    have hname := hplain g List.mem_cons_self
    have ih := ih fun k hk => hplain k (List.mem_cons_of_mem g hk)
    cases h with
    | nil => simpa [foldArguments] using foldArguments_segment hname hg []
    | @cons k text' path texts hk h =>
      have hdot (cs : List Char) : foldArguments 0 0 ('.' :: cs) = '.' :: foldArguments 0 0 cs := by simp [foldArguments]
      rw [List.intercalate_cons_cons, List.append_assoc, foldArguments_segment hname hg, List.singleton_append, hdot, ih]
      simp only [List.map_cons, List.intercalate_cons_cons, List.append_assoc, List.singleton_append]

/-! ### Keys of written names -/

theorem IsPlain.not_mem {name : String} (h : IsPlain name) {c : Char} (hc : c ∈ ['.', '<', '>', ',', '?', '`', ':']) :
    c ∉ name.toList :=
  fun hmem => (h.2 c hmem).1 hc

private theorem Segment.IsShown.getLast?_ne {g : Segment} {text : List Char} (h : g.IsShown text)
    (hname : IsPlain g.name) : text.getLast? ≠ some '?' := by
  cases h with
  | plain => exact fun hlast => hname.not_mem (by simp) (List.mem_of_getLast? hlast)
  | generic =>
    rw [List.getLast?_concat]
    decide

private theorem getLast?_intercalate_ne {path : List Segment} {texts : List (List Char)}
    (hplain : ∀ g ∈ path, IsPlain g.name)
    (h : List.Forall₂ Segment.IsShown path texts) : (['.'].intercalate texts).getLast? ≠ some '?' := by
  induction h with
  | nil => simp
  | @cons g text path texts hg h ih =>
    have hlast := hg.getLast?_ne (hplain g List.mem_cons_self)
    have htail := ih fun k hk => hplain k (List.mem_cons_of_mem g hk)
    cases texts with
    | nil => simpa using hlast
    | cons text' texts =>
      rw [List.intercalate_cons_cons, List.getLast?_append, List.getLast?_concat]
      cases hrest : (['.'].intercalate (text' :: texts)).getLast? with
      | none => simp
      | some c => simpa [hrest] using htail

theorem dropEndWhile_append_replicate {cs : List Char} {c : Char} (h : cs.getLast? ≠ some c) (n : Nat) :
    dropEndWhile (· == c) (cs ++ List.replicate n c) = cs := by
  have hmarks : ∀ d ∈ List.replicate n c, (d == c) = true := fun d hd => beq_iff_eq.mpr (List.eq_of_mem_replicate hd)
  rw [dropEndWhile, List.reverse_append, List.reverse_replicate, List.dropWhile_append_of_pos hmarks]
  rcases List.eq_nil_or_concat' cs with rfl | ⟨cs, d, rfl⟩
  · rfl
  · have hd : (d == c) = false := by simpa using h
    exact dropEndWhile_append_cons (p := (· == c)) cs [] hd

/-- What stands before the first bracket, dot or question mark behind a segment is its name. -/
private theorem Segment.IsShown.takeWhile_eq {g : Segment} {text rest : List Char} (h : g.IsShown text)
    (hname : IsPlain g.name) (hrest : rest.takeWhile (fun c => c != '<' && c != '.' && c != '?') = []) :
    (text ++ rest).takeWhile (fun c => c != '<' && c != '.' && c != '?') = g.name.toList := by
  have hall : ∀ c ∈ g.name.toList, (c != '<' && c != '.' && c != '?') = true := by
    intro c hc
    have := (hname.2 c hc).1
    simp only [List.mem_cons, not_or] at this
    simp [this.1, this.2.1, this.2.2.2.2.1]
  cases h with
  | plain => rw [List.takeWhile_append_of_pos hall, hrest, List.append_nil]
  | generic =>
    rw [List.append_assoc, List.append_assoc, List.takeWhile_append_of_pos hall, List.cons_append, List.takeWhile_cons]
    simp

/-- A dotted name does not begin with `global::`. -/
private theorem afterStart?_intercalate {path : List Segment} {texts : List (List Char)}
    (hplain : ∀ g ∈ path, IsPlain g.name) (h : List.Forall₂ Segment.IsShown path texts) (marks : Nat) :
    afterStart? globalQualifier (['.'].intercalate texts ++ List.replicate marks '?') = none := by
  have hmarks : (List.replicate marks '?').takeWhile (fun c => c != '<' && c != '.' && c != '?') = [] := by
    cases marks <;> rfl
  by_contra hsome
  obtain ⟨rest, hrest⟩ := Option.ne_none_iff_exists'.mp hsome
  have hstart := afterStart?_eq_some_iff.mp hrest
  -- what stands before the first mark would begin with the qualifier, which has colons in it
  have htake := congrArg (List.takeWhile fun c => c != '<' && c != '.' && c != '?') hstart
  rw [List.takeWhile_append_of_pos (List.all_eq_true.mp (by decide) : ∀ c ∈ globalQualifier, _)] at htake
  have hcolon : ':' ∈ globalQualifier := by decide
  cases h with
  | nil =>
    rw [List.intercalate_nil, List.nil_append, hmarks] at htake
    exact absurd (htake ▸ List.mem_append_left _ hcolon) List.not_mem_nil
  | @cons g text path texts hg h =>
    have hname := hplain g List.mem_cons_self
    have hfirst : (['.'].intercalate (text :: texts) ++ List.replicate marks '?').takeWhile
        (fun c => c != '<' && c != '.' && c != '?') = g.name.toList := by
      cases texts with
      | nil => simpa only [List.intercalate_singleton] using hg.takeWhile_eq hname hmarks
      | cons text' texts =>
        rw [List.intercalate_cons_cons, List.append_assoc, List.append_assoc]
        exact hg.takeWhile_eq hname (by simp)
    rw [hfirst] at htake
    exact hname.not_mem (by simp) (htake ▸ List.mem_append_left _ hcolon)

/-- The key of a name joins the parts that its segments make.  It shows neither a `global::` in front nor question marks
behind. -/
theorem key_of_isShown {path : List Segment} {texts : List (List Char)} {written : String}
    (hplain : ∀ g ∈ path, IsPlain g.name) (h : List.Forall₂ Segment.IsShown path texts) (isGlobal : Bool) (marks : Nat)
    (hwritten : unblank written.toList =
      (if isGlobal then globalQualifier else []) ++ ['.'].intercalate texts ++ List.replicate marks '?') :
    key written = ".".intercalate (path.map Segment.metadataName) := by
  have hglobal : dropGlobal (unblank written.toList) = ['.'].intercalate texts ++ List.replicate marks '?' := by
    rw [hwritten, dropGlobal, List.append_assoc]
    cases isGlobal with
    | true => rw [if_pos rfl, afterStart?_eq_some_iff.mpr rfl, Option.getD_some]
    | false => rw [if_neg (by decide), List.nil_append, afterStart?_intercalate hplain h, Option.getD_none]
  apply String.toList_injective
  rw [key, String.toList_ofList, keyChars, hglobal,
    dropEndWhile_append_replicate (getLast?_intercalate_ne hplain h), foldArguments_path hplain h,
    String.toList_intercalate, List.map_map]
  rfl

private theorem key_of_writes {path : List Segment} {written : String} (hplain : ∀ g ∈ path, IsPlain g.name)
    (h : Writes path written) : key written = ".".intercalate (path.map Segment.metadataName) := by
  obtain ⟨texts, htexts, hwritten⟩ := h
  have hshown : List.Forall₂ Segment.IsShown path texts := htexts.imp fun _ _ => Segment.IsWritten.isShown
  exact key_of_isShown hplain hshown false 0 (by simpa using hwritten)

/-! ### Joined names -/

private theorem intercalate_pieces (cs : List Char) : ['.'].intercalate (pieces '.' cs) = cs := by
  induction cs with
  | nil => rfl
  | cons c cs ih =>
    obtain ⟨p, ps, hp⟩ := List.exists_cons_of_ne_nil (pieces_ne_nil '.' cs)
    rw [hp] at ih
    rw [pieces, hp]
    by_cases hc : c = '.'
    · simp [hc, List.intercalate_cons_cons, ih]
    · cases ps with
      | nil => simpa [hc] using ih
      | cons q ps =>
        rw [List.intercalate_cons_cons] at ih
        simp [hc, List.intercalate_cons_cons, ← ih]

theorem intercalate_segments (name : String) : ".".intercalate (segments name) = name := by
  apply String.toList_injective
  rw [String.toList_intercalate, segments, List.map_map]
  simpa [Function.comp_def] using intercalate_pieces name.toList

private theorem qualify_ne_empty {qualifier name : String} (hname : name ≠ "") : qualify qualifier name ≠ "" := by
  unfold qualify
  split
  · exact hname
  · simp [hname]

private theorem qualify_intercalate {a b : List String} (ha : ∀ x ∈ a, x ≠ "") (hb : b ≠ []) :
    qualify (".".intercalate a) (".".intercalate b) = ".".intercalate (a ++ b) := by
  cases a with
  | nil => rfl
  | cons x a =>
    have hne : ".".intercalate (x :: a) ≠ "" := by
      have hx := ha x List.mem_cons_self
      cases a with
      | nil => simpa using hx
      | cons y a => simp [String.intercalate_cons_cons, hx]
    rw [qualify, if_neg hne, intercalate_append (List.cons_ne_nil x a) hb]

theorem qualify_concat {parts : List String} (h : ∀ part ∈ parts, part ≠ "") (name : String) :
    qualify (".".intercalate parts) name = ".".intercalate (parts ++ [name]) := by
  simpa using qualify_intercalate h (List.cons_ne_nil name [])

private theorem foldl_qualify {spaces : List String} (h : ∀ x ∈ spaces.flatMap segments, x ≠ "") :
    spaces.foldl qualify "" = ".".intercalate (spaces.flatMap segments) := by
  induction spaces using List.reverseRecOn with
  | nil => rfl
  | append_singleton spaces space ih =>
    rw [List.flatMap_append] at h ⊢
    have hspaces : ∀ x ∈ spaces.flatMap segments, x ≠ "" := fun x hx => h x (List.mem_append_left _ hx)
    have hsegments := qualify_intercalate hspaces (segments_ne_nil space)
    rw [List.foldl_append, ih hspaces, List.foldl_cons, List.foldl_nil, List.flatMap_singleton, ← hsegments,
      intercalate_segments]

end TypeName

/-! ### The way to a declaration -/

section

variable {file : Declaration.File} {root : Scope} {e : Enclosure} {x : Place} {row : List Place} {f : Found}

/-- The enclosure with other types in the same namespaces. -/
def Enclosure.withTypes (e : Enclosure) (types : List Declaration) : Enclosure :=
  { e with types }

/-- Whether each type of an enclosure stands inside those before it. -/
def Enclosure.IsNested (root : Scope) (e : Enclosure) : Prop :=
  ∀ outer t, outer ++ [t] <+: e.types → t.scope = (e.withTypes outer).scope root

theorem Enclosure.IsNested.inType (h : e.IsNested root) {d : Declaration} (hd : d.scope = e.scope root) :
    (e.inType d).IsNested root := by
  intro outer t hinit
  rcases List.prefix_concat_iff.mp hinit with heq | hinit
  · obtain ⟨rfl, ht⟩ := List.append_inj' heq rfl
    cases ht
    exact hd
  · exact h outer t hinit

private theorem TypeDeclares.isNested (h : TypeDeclares file root e x f) (he : e.IsNested root) :
    f.around.IsNested root := by
  induction h with
  | here => exact he
  | inside _ _ _ ih => exact ih (he.inType rfl)

private theorem RowDeclares.isNested (h : RowDeclares file root e row f) (he : e.types = []) :
    f.around.IsNested root := by
  induction h with
  | type _ hf =>
    refine hf.isNested fun outer t hinit => ?_
    rw [he, List.prefix_nil] at hinit
    simp at hinit
  | block _ _ _ ih => exact ih he
  | extent _ _ _ ih => exact ih he

private theorem TypeDeclares.exists_outer (h : TypeDeclares file root e x f) :
    ∃ outer : List Found, (∀ g ∈ outer, TypeDeclares file root e x g) ∧
      f.around.types = e.types ++ outer.map (·.declaration) := by
  induction h with
  | here => exact ⟨[], by simp, by simp⟩
  | @inside e x y header f hx hy _ ih =>
    obtain ⟨outer, houter, htypes⟩ := ih
    refine ⟨⟨x, e, Declaration.ofHeader file (e.scope root) header⟩ :: outer, ?_, ?_⟩
    · intro g hg
      rcases List.mem_cons.mp hg with rfl | hg
      · exact .here hx
      · exact .inside hx hy (houter g hg)
    · simp [htypes, Enclosure.inType]

/-- The types around a declaration are declared themselves. -/
private theorem RowDeclares.exists_outer (h : RowDeclares file root e row f) (he : e.types = []) :
    ∃ outer : List Found, (∀ g ∈ outer, RowDeclares file root e row g) ∧
      f.around.types = outer.map (·.declaration) := by
  induction h with
  | type hx hf =>
    obtain ⟨outer, houter, htypes⟩ := hf.exists_outer
    exact ⟨outer, fun g hg => .type hx (houter g hg), by rw [htypes, he]; rfl⟩
  | block hx hb _ ih =>
    obtain ⟨outer, houter, htypes⟩ := ih he
    exact ⟨outer, fun g hg => .block hx hb (houter g hg), htypes⟩
  | extent hx hn _ ih =>
    obtain ⟨outer, houter, htypes⟩ := ih he
    exact ⟨outer, fun g hg => .extent hx hn (houter g hg), htypes⟩

namespace Found

/-- The segment that a declared type adds to names. -/
def segment (f : Found) : TypeName.Segment :=
  ⟨f.declaration.name, Header.arityOf f.place.node⟩

/-- The way to a declaration: the namespaces around it, the types around it and its own name. -/
def path (f : Found) (outer : List Found) : List TypeName.Segment :=
  (f.around.spaces.flatMap TypeName.segments).map (⟨·, 0⟩) ++ outer.map segment ++ [f.segment]

end Found

theorem RowDeclares.fullName_eq (h : RowDeclares file root e row f) :
    f.declaration.scope = f.around.scope root ∧
      f.declaration.fullName = TypeName.qualify f.declaration.scope.qualifier f.segment.metadataName := by
  obtain ⟨header, hheader, hd⟩ := h.declaration_eq
  have harity : header.arity = Header.arityOf f.place.node := by
    unfold Header.ofNode? at hheader
    split at hheader
    · obtain ⟨name, -, rfl⟩ := Option.map_eq_some_iff.mp hheader
      rfl
    · exact absurd hheader (by simp)
  rw [Found.segment, TypeName.Segment.metadataName, ← harity, hd]
  exact ⟨rfl, rfl⟩

/-- The names of the way to a declaration, as they stand in full names. -/
def Enclosure.parts (e : Enclosure) (outer : List Found) : List String :=
  e.spaces.flatMap TypeName.segments ++ outer.map fun g => g.segment.metadataName

private theorem Found.map_metadataName_path (f : Found) (outer : List Found) :
    (f.path outer).map TypeName.Segment.metadataName = f.around.parts outer ++ [f.segment.metadataName] := by
  simp [path, Enclosure.parts, Function.comp_def, TypeName.Segment.metadataName, Declaration.metadataName]

/-- What qualifies a declaration inside declared types joins the names of the way to it. -/
private theorem Enclosure.qualifier_scope {around : Enclosure} (hspace : root.space = "")
    (hcontainers : root.containers = [])
    (hnested : around.IsNested root) {outer : List Found} (houter : ∀ g ∈ outer, RowDeclares file root e row g)
    (hinit : outer.map (·.declaration) <+: around.types) (hparts : ∀ part ∈ around.parts outer, part ≠ "") :
    ((around.withTypes (outer.map (·.declaration))).scope root).qualifier = ".".intercalate (around.parts outer) := by
  induction outer using List.reverseRecOn with
  | nil =>
    have hspaces : ∀ part ∈ around.spaces.flatMap TypeName.segments, part ≠ "" := by simpa [parts] using hparts
    simp [Scope.qualifier, scope, withTypes, parts, hspace, hcontainers, TypeName.foldl_qualify hspaces]
  | append_singleton outer g ih =>
    have hconcat : around.parts (outer ++ [g]) = around.parts outer ++ [g.segment.metadataName] := by simp [parts]
    have hbefore : ∀ part ∈ around.parts outer, part ≠ "" := by
      intro part hpart
      exact hparts part (hconcat ▸ List.mem_append_left _ hpart)
    rw [List.map_append] at hinit
    have ih := ih (fun k hk => houter k (List.mem_append_left _ hk)) ((List.prefix_append _ _).trans hinit) hbefore
    -- the innermost type stands inside the types before it
    have hscope : g.declaration.scope = (around.withTypes (outer.map (·.declaration))).scope root :=
      hnested _ _ hinit
    have hqualifier : ((around.withTypes ((outer ++ [g]).map (·.declaration))).scope root).qualifier =
        g.declaration.fullName := by
      simp [Scope.qualifier, scope, withTypes]
    rw [hqualifier, (houter g (by simp)).fullName_eq.2, hscope, ih, TypeName.qualify_concat hbefore, hconcat]

/-- The full name of a declaration joins the names of the way to it. -/
private theorem RowDeclares.fullName_eq_intercalate (hspace : root.space = "") (hcontainers : root.containers = [])
    (he : e.types = []) (h : RowDeclares file root e row f) {outer : List Found}
    (houter : ∀ g ∈ outer, RowDeclares file root e row g) (htypes : outer.map (·.declaration) = f.around.types)
    (hparts : ∀ part ∈ f.around.parts outer, part ≠ "") :
    f.declaration.fullName = ".".intercalate ((f.path outer).map TypeName.Segment.metadataName) := by
  have hqualifier := Enclosure.qualifier_scope hspace hcontainers (h.isNested he) houter
    (htypes ▸ List.prefix_rfl) hparts
  have hscope : f.declaration.scope = (f.around.withTypes (outer.map (·.declaration))).scope root := by
    rw [h.fullName_eq.1, htypes]
    rfl
  rw [h.fullName_eq.2, hscope, hqualifier, TypeName.qualify_concat hparts, Found.map_metadataName_path]

end

/-! ### Look-ups -/

private theorem Scope.head?_enclosing (s : Scope) :
    s.enclosing.head? = if s.space = "" then none else some s.space := by
  unfold enclosing
  split
  · rfl
  · obtain ⟨n, hn⟩ := Nat.exists_eq_add_one_of_ne_zero
      (fun h => TypeName.segments_ne_nil s.space (List.length_eq_zero_iff.mp h))
    simp only [List.head?_map, List.head?_reverse, hn, List.range_succ, List.getLast?_concat, Option.map_some]
    rw [← hn, List.take_length, TypeName.intercalate_segments]

/-- A name where a declaration could stand is first looked for under the full name that the declaration would have. -/
private theorem Scope.head?_candidates {s : Scope} (hcontainers : ∀ c ∈ s.containers, c ≠ "") (name : String) :
    (s.candidates name).head? = some (TypeName.qualify s.qualifier name) := by
  have haround : s.around.head? = s.containers.getLast?.or (if s.space = "" then none else some s.space) := by
    rw [around, List.head?_append, List.head?_reverse, head?_enclosing]
  rw [candidates_eq, List.head?_append, List.head?_map, haround, qualifier]
  cases hlast : s.containers.getLast? with
  | some c => simp [TypeName.qualify, hcontainers c (List.mem_of_getLast? hlast)]
  | none => by_cases hspace : s.space = "" <;> simp [TypeName.qualify, hspace]

namespace Program

variable {p : Program} {s : Scope} {written fullName : String} {t : Symbol}

private theorem resolveIn?_of_head?_candidates (hname : TypeName.key written ≠ "")
    (halias : s.aliases.target? (TypeName.head (TypeName.key written)) = none)
    (hhead : (s.candidates (TypeName.key written)).head? = some fullName) (ht : p.resolve? fullName = some t) :
    p.resolveIn? s written = some t := by
  obtain ⟨rest, hrest⟩ := List.head?_eq_some_iff.mp hhead
  simp only [resolveIn?, if_neg hname, Scope.aliased?_of_target? halias, hrest, List.findSome?_cons, ht]

/-- A declared type that is not ambiguous is the one that its full name stands for. -/
private theorem exists_symbol_bind {declarations : List Declaration} {d : Declaration} (hd : d ∈ declarations)
    (hu : Declaration.Unambiguous declarations d.fullName) :
    ∃ t, (p.bind declarations).1.resolve? d.fullName = some t ∧
      ∀ i, declarations[i]? = some d → (p.bind declarations).1.symbolOf? (siteOf (p.nextSite + i) d) = some t := by
  obtain ⟨t, ht⟩ := Option.isSome_iff_exists.mp ((isSome_symbolNamed?_iff (p := p) hd).mpr hu)
  refine ⟨t, ?_, fun i hi => ?_⟩
  · rw [resolve?_bind, ht]
    rfl
  · rw [symbolOf?_bind hi, ht]

end Program

namespace ParsedFile

/-- Whether one of several files declares something. -/
def DeclaresAmong (files : List ParsedFile) (file : ParsedFile) (f : Found) : Prop :=
  Declares ⟨file.path.render, file.isGenerated⟩ (rootScope files) file.tree f

/-- Whether declarations of a file are the types around another one, from outermost in. -/
structure Surrounds (files : List ParsedFile) (file : ParsedFile) (outer : List Found) (f : Found) : Prop where
  declares : ∀ g ∈ outer, file.DeclaresAmong files g
  types : outer.map (·.declaration) = f.around.types

variable {files : List ParsedFile} {file : ParsedFile} {f : Found} {outer : List Found}

private theorem mem_declarationsOf (hfile : file ∈ files) (hf : file.DeclaresAmong files f) :
    f.declaration ∈ Program.declarationsOf files := by
  rw [Program.declarationsOf_eq, List.mem_flatMap]
  refine ⟨file, hfile, ?_⟩
  rw [declarations, collect_eq_ofMembers, ← map_declaration_rowAt]
  exact List.mem_map.mpr ⟨f, mem_rowAt.mpr hf, rfl⟩

theorem Surrounds.fullName_eq (h : Surrounds files file outer f) (hf : file.DeclaresAmong files f)
    (hplain : ∀ g ∈ f.path outer, TypeName.IsPlain g.name) :
    f.declaration.fullName = ".".intercalate ((f.path outer).map TypeName.Segment.metadataName) := by
  refine RowDeclares.fullName_eq_intercalate rfl rfl rfl hf h.declares h.types fun part hpart => ?_
  have hmem : part ∈ (f.path outer).map TypeName.Segment.metadataName := by
    rw [Found.map_metadataName_path]
    exact List.mem_append_left _ hpart
  obtain ⟨g, hg, rfl⟩ := List.mem_map.mp hmem
  exact TypeName.Segment.metadataName_ne_empty (hplain g hg).1

private theorem Surrounds.containers_ne_empty (h : Surrounds files file outer f) (hf : file.DeclaresAmong files f)
    (hplain : ∀ g ∈ f.path outer, TypeName.IsPlain g.name) : ∀ c ∈ f.declaration.scope.containers, c ≠ "" := by
  have hcontainers : f.declaration.scope.containers = outer.map (·.declaration.fullName) := by
    rw [(RowDeclares.fullName_eq hf).1]
    simp [Enclosure.scope, ← h.types, rootScope, Scope.ofGlobals, Scope.empty, Function.comp_def]
  rw [hcontainers]
  intro c hc
  obtain ⟨g, hg, rfl⟩ := List.mem_map.mp hc
  have hname : TypeName.IsPlain g.segment.name := by
    refine hplain g.segment (List.mem_append_left _ (List.mem_append_right _ ?_))
    exact List.mem_map.mpr ⟨g, hg, rfl⟩
  rw [(RowDeclares.fullName_eq (h.declares g hg)).2]
  exact TypeName.qualify_ne_empty (TypeName.Segment.metadataName_ne_empty hname.1)

end ParsedFile

namespace Program

open ParsedFile

/-- A declaration and the types around it have places in the tree.  Where the names on the way to it are plain
identifiers: any text that writes the way has the full name as its key.  When the full name is not ambiguous, such a text
stands for the type of the declaration in the empty scope.  So does any text that writes the last segment alone in the
scope of the declaration, unless it is an alias there. -/
theorem resolveIn?_spelled (assembly : String) {files : List ParsedFile} {file : ParsedFile} (hfile : file ∈ files)
    {f : Found} (hf : file.DeclaresAmong files f) :
    let d := f.declaration
    let q := (ofFiles assembly files).1
    d ∈ declarationsOf files ∧ (∃ outer, Surrounds files file outer f) ∧
      ∀ outer, Surrounds files file outer f → (∀ g ∈ f.path outer, TypeName.IsPlain g.name) →
        (∀ written, TypeName.Writes (f.path outer) written → TypeName.key written = d.fullName) ∧
        (Declaration.Unambiguous (declarationsOf files) d.fullName → ∃ t,
          (∀ (i : Nat) (site : Site), (declarationsOf files)[i]? = some d → q.sites[i]? = some site →
            q.symbolOf? site = some t) ∧
          (∀ written, TypeName.Writes (f.path outer) written → q.resolveIn? .empty written = some t) ∧
          ∀ written, TypeName.Writes [f.segment] written →
            d.scope.aliases.target? (TypeName.head (TypeName.key written)) = none →
            q.resolveIn? d.scope written = some t) := by
  intro d q
  have hd : d ∈ declarationsOf files := mem_declarationsOf hfile hf
  obtain ⟨outer, houter, htypes⟩ := RowDeclares.exists_outer hf rfl
  refine ⟨hd, ⟨outer, houter, htypes.symm⟩, fun outer hsurrounds hplain => ?_⟩
  have hsegment : TypeName.IsPlain f.segment.name := hplain f.segment (by simp [Found.path])
  have hfull := hsurrounds.fullName_eq hf hplain
  have hname : d.fullName ≠ "" := by
    rw [(RowDeclares.fullName_eq hf).2]
    exact TypeName.qualify_ne_empty (TypeName.Segment.metadataName_ne_empty hsegment.1)
  have hkey : ∀ written, TypeName.Writes (f.path outer) written → TypeName.key written = d.fullName :=
    fun written hw => (TypeName.key_of_writes hplain hw).trans hfull.symm
  refine ⟨hkey, fun hu => ?_⟩
  obtain ⟨t, ht, hsites⟩ := exists_symbol_bind hd hu
  -- in the empty scope the key is the only candidate, and in the scope of the declaration the full name is the first one
  refine ⟨t, fun i site hi hsite => ?_, fun written hw => ?_, fun written hw halias => ?_⟩
  · have hat := getElem?_sites_bind (p := withFramework assembly (files.any fun f => namesFramework f.bytes)) hi
    rw [sites_withFramework, List.length_nil, Nat.zero_add] at hat
    cases hsite.symm.trans hat
    exact hsites i hi
  · have hcandidates : (Scope.empty.candidates (TypeName.key written)).head? = some d.fullName := by
      rw [hkey written hw]
      rfl
    exact resolveIn?_of_head?_candidates (hkey written hw ▸ hname) rfl hcandidates ht
  · have hwritten : TypeName.key written = f.segment.metadataName := by
      simpa using TypeName.key_of_writes (by simpa using hsegment) hw
    have hcandidates : (d.scope.candidates (TypeName.key written)).head? = some d.fullName := by
      rw [Scope.head?_candidates (hsurrounds.containers_ne_empty hf hplain), hwritten]
      exact congrArg some (RowDeclares.fullName_eq hf).2.symm
    have hne : TypeName.key written ≠ "" := hwritten ▸ TypeName.Segment.metadataName_ne_empty hsegment.1
    exact resolveIn?_of_head?_candidates hne halias hcandidates ht

end Program

namespace ParsedFile

/-- A class with type parameters and members. -/
def genericNode (name : String) (parameters : List String) (members : List Node) : Node :=
  ⟨.typeDeclaration .classType, "", default, true, none,
    [⟨.other "identifier", name, default, true, some .name, []⟩,
      ⟨.typeParameterList, "", default, true, none, parameters.map fun p => ⟨.typeParameter, p, default, true, none, []⟩⟩,
      ⟨.declarationList, "", default, true, some .body, members⟩]⟩

/-- A generic class inside another one. -/
def nestedGenerics : ParsedFile :=
  ofChildren "A.cs" [spaceNode "N.M" [genericNode "Outer" ["T"] [genericNode "Inner" ["K", "V"] []]]]

def nestedSpace : Enclosure :=
  (Enclosure.ofFile (Place.root nestedGenerics.tree).children).inSpace "N.M"
    [⟨[0, 1, 0], genericNode "Outer" ["T"] [genericNode "Inner" ["K", "V"] []]⟩]

def outerFound : Found :=
  ⟨⟨[0, 1, 0], genericNode "Outer" ["T"] [genericNode "Inner" ["K", "V"] []]⟩, nestedSpace,
    .ofHeader ⟨"A.cs", false⟩ (nestedSpace.scope (rootScope [nestedGenerics]))
      ⟨.classType, "Outer", 1, false, [], [], default⟩⟩

def innerFound : Found :=
  let around := nestedSpace.inType outerFound.declaration
  ⟨⟨[0, 1, 0, 2, 0], genericNode "Inner" ["K", "V"] []⟩, around,
    .ofHeader ⟨"A.cs", false⟩ (around.scope (rootScope [nestedGenerics]))
      ⟨.classType, "Inner", 2, false, [], [], default⟩⟩

private theorem declaresAmong_of_typeDeclares {f : Found}
    (hf : TypeDeclares ⟨"A.cs", false⟩ (rootScope [nestedGenerics]) nestedSpace outerFound.place f) :
    nestedGenerics.DeclaresAmong [nestedGenerics] f := by
  have hblock : (⟨[0], spaceNode "N.M" [genericNode "Outer" ["T"] [genericNode "Inner" ["K", "V"] []]]⟩ : Place).block? =
      some ("N.M", ⟨[0, 1], ⟨.declarationList, "", default, true, some .body,
        [genericNode "Outer" ["T"] [genericNode "Inner" ["K", "V"] []]]⟩⟩) := by
    rfl
  exact .block standsIn_head hblock (.type standsIn_head hf)

private theorem surrounds_innerFound : Surrounds [nestedGenerics] nestedGenerics [outerFound] innerFound where
  declares g hg := by
    rw [List.mem_singleton.mp hg]
    exact declaresAmong_of_typeDeclares (.here rfl)
  types := rfl

private theorem declaresAmong_innerFound : nestedGenerics.DeclaresAmong [nestedGenerics] innerFound :=
  declaresAmong_of_typeDeclares (.inside rfl (List.mem_singleton.mpr rfl) (.here rfl))

private theorem path_innerFound : innerFound.path [outerFound] = [⟨"N", 0⟩, ⟨"M", 0⟩, ⟨"Outer", 1⟩, ⟨"Inner", 2⟩] := by
  decide +kernel

private theorem writes_innerFound :
    TypeName.Writes (innerFound.path [outerFound]) "N . M.Outer< List<int> >.Inner<,>" ∧
      TypeName.Writes [innerFound.segment] "Inner <string, List<int>>" := by
  have hplain {cs : List Char} (hcs : ∀ c ∈ cs, c ≠ '<' ∧ c ≠ '>' ∧ c ≠ ',') : TypeName.IsArgument cs := by
    simpa using TypeName.IsArgument.append hcs .nil
  have hlist : TypeName.IsArgument ("List".toList ++ ('<' :: [','].intercalate ["int".toList] ++ ['>'])) := by
    refine .append (by simp) (.list (fun a ha => ?_) .nil)
    rw [List.mem_singleton.mp ha]
    exact hplain (by simp)
  have houter : TypeName.Segment.IsWritten ⟨"Outer", 1⟩ ("Outer".toList ++
      '<' :: [','].intercalate ["List".toList ++ ('<' :: [','].intercalate ["int".toList] ++ ['>'])] ++ ['>']) := by
    refine .generic (List.cons_ne_nil _ _) rfl fun a ha => ?_
    rw [List.mem_singleton.mp ha]
    exact hlist
  have hunbound : TypeName.Segment.IsWritten ⟨"Inner", 2⟩ ("Inner".toList ++ '<' :: [','].intercalate [[], []] ++ ['>']) := by
    refine .generic (List.cons_ne_nil _ _) rfl fun a ha => ?_
    obtain rfl : a = [] := by simpa using ha
    exact .nil
  have hinner : TypeName.Segment.IsWritten ⟨"Inner", 2⟩ ("Inner".toList ++ '<' :: [','].intercalate
      ["string".toList, "List".toList ++ ('<' :: [','].intercalate ["int".toList] ++ ['>'])] ++ ['>']) := by
    refine .generic (List.cons_ne_nil _ _) rfl fun a ha => ?_
    rcases List.mem_cons.mp ha with rfl | ha
    · exact hplain (by simp)
    · rw [List.mem_singleton.mp ha]
      exact hlist
  have hsegment : innerFound.segment = ⟨"Inner", 2⟩ := by decide +kernel
  rw [path_innerFound, hsegment]
  exact ⟨⟨_, .cons (.plain rfl) (.cons (.plain rfl) (.cons houter (.cons hunbound .nil))), by decide +kernel⟩,
    ⟨_, .cons hinner .nil, by decide +kernel⟩⟩

end ParsedFile

namespace Program

open ParsedFile

/-- A class with two type parameters inside one with one, written with bound and unbound arguments. -/
theorem resolveIn?_spelled_nested :
    let q := (ofFiles "App" [nestedGenerics]).1
    nestedGenerics ∈ [nestedGenerics] ∧ nestedGenerics.DeclaresAmong [nestedGenerics] innerFound ∧
      Surrounds [nestedGenerics] nestedGenerics [outerFound] innerFound ∧
      (∀ g ∈ innerFound.path [outerFound], TypeName.IsPlain g.name) ∧
      (TypeName.Writes (innerFound.path [outerFound]) "N . M.Outer< List<int> >.Inner<,>" ∧
        TypeName.Writes [innerFound.segment] "Inner <string, List<int>>") ∧
      Declaration.Unambiguous (declarationsOf [nestedGenerics]) innerFound.declaration.fullName ∧
      TypeName.key "N . M.Outer< List<int> >.Inner<,>" = innerFound.declaration.fullName ∧
      ∃ t, q.resolveIn? .empty "N . M.Outer< List<int> >.Inner<,>" = some t ∧
        q.resolveIn? innerFound.declaration.scope "Inner <string, List<int>>" = some t := by
  have hplain : ∀ g ∈ innerFound.path [outerFound], TypeName.IsPlain g.name := by
    rw [path_innerFound]
    decide +kernel
  have hunambiguous : Declaration.Unambiguous (declarationsOf [nestedGenerics]) innerFound.declaration.fullName :=
    .inl (by decide +kernel)
  obtain ⟨-, -, hspelled⟩ := resolveIn?_spelled "App" (List.mem_singleton.mpr rfl) declaresAmong_innerFound
  obtain ⟨hkey, hresolve⟩ := hspelled _ surrounds_innerFound hplain
  obtain ⟨t, -, hempty, hscope⟩ := hresolve hunambiguous
  exact ⟨List.mem_singleton.mpr rfl, declaresAmong_innerFound, surrounds_innerFound, hplain, writes_innerFound,
    hunambiguous, hkey _ writes_innerFound.1, t, hempty _ writes_innerFound.1,
    hscope _ writes_innerFound.2 (by decide +kernel)⟩

end Program

end Rollcall
