import Rollcall.Proofs.Arguments

/-!
# Discovery of sources

What a list of arguments stands for on every file system.

* The first bad argument decides the error, and without bad arguments the sources are listed, unless an argument that
  is looked at is overlong (`discover_exact`).  Arguments inside earlier ones add nothing.
* A file below a directory is found by its exact ending, but taken as an argument whatever the case of its extension
  (`walk_and_argument_differ_iff`).
-/

namespace Rollcall

namespace FileTree

variable {t : FileTree} {argument : String} {exclude : List Path}

/-! ### What a list of arguments stands for -/

private theorem mapM_resolve? (t : FileTree) (exclude : List Path) :
    exclude.mapM t.resolve? =
      if exclude.any Path.hasNull = true then .error .nullCharacter else .ok (exclude.map t.resolve) := by
  induction exclude with
  | nil => rfl
  | cons e exclude ih =>
    rw [List.mapM_cons, ih, resolve?]
    cases he : e.hasNull with
    | true => simp [he, bind, Except.bind]
    | false =>
      cases hany : exclude.any Path.hasNull <;> simp [he, hany, bind, Except.bind, pure, Except.pure]

/-- Excluded paths are resolved before any argument is looked at. -/
theorem discover_eq (t : FileTree) (arguments : List String) (exclude : List Path) :
    t.discover arguments exclude =
      if exclude.any Path.hasNull = true then .error .nullCharacter
      else (arguments.mapM (t.sourcesOf (exclude.map t.resolve))).map (·.flatten.eraseDups) := by
  unfold discover
  rw [mapM_resolve?]
  split
  · rfl
  · show (arguments.mapM (t.sourcesOf (exclude.map t.resolve)) >>= fun sources => pure sources.flatten.eraseDups) = _
    cases arguments.mapM (t.sourcesOf (exclude.map t.resolve)) <;> rfl

private theorem any_hasNull_eq_false : exclude.any Path.hasNull = false ↔ ∀ e ∈ exclude, e.hasNull = false := by
  simp

theorem discover_eq_error_iff (ht : t.IsFileSystem) {before after : List String} {error : LoadError}
    (hbefore : ∀ b ∈ before, ∀ e, ¬ t.IsBad b e) (hbad : t.IsBad argument error) :
    t.discover (before ++ argument :: after) exclude = .error error ↔
      (∀ e ∈ exclude, e.hasNull = false) ∧ ∀ b ∈ before ++ [argument], ¬ t.IsOverlong b := by
  rw [discover_eq, ← any_hasNull_eq_false]
  cases exclude.any Path.hasNull with
  | true => cases hbad <;> simp
  | false =>
    have hmap {x : Except LoadError (List (List Path))} :
        x.map (·.flatten.eraseDups) = .error error ↔ x = .error error := by
      cases x <;> simp [Except.map]
    -- an earlier argument can fail too, but not with this error
    have hearlier : ∀ b ∈ before, t.sourcesOf (exclude.map t.resolve) b ≠ .error error :=
      fun b hb => sourcesOf_ne_error ht hbad (hbefore b hb) _
    have hfails := sourcesOf_ne_ok ht hbad (exclude.map t.resolve)
    rw [if_neg (by decide), hmap, mapM_eq_error_iff hearlier hfails, sourcesOf_eq_error_iff ht hbad,
      List.forall_mem_append, List.forall_mem_singleton]
    simp only [true_and]
    exact and_congr_left fun _ => forall₂_congr fun b hb => sourcesOf_eq_ok_iff ht (hbefore b hb) _

theorem exists_discover_eq_ok_iff (ht : t.IsFileSystem) {arguments : List String}
    (hgood : ∀ a ∈ arguments, ∀ e, ¬ t.IsBad a e) :
    (∃ paths, t.discover arguments exclude = .ok paths) ↔
      (∀ e ∈ exclude, e.hasNull = false) ∧ ∀ a ∈ arguments, ¬ t.IsOverlong a := by
  have hok : (∃ paths, t.discover arguments exclude = .ok paths) ↔ exclude.any Path.hasNull = false ∧
      ∃ sources, arguments.mapM (t.sourcesOf (exclude.map t.resolve)) = .ok sources := by
    rw [discover_eq]
    cases exclude.any Path.hasNull with
    | true => simp
    | false => cases arguments.mapM (t.sourcesOf (exclude.map t.resolve)) <;> simp [Except.map]
  rw [hok, any_hasNull_eq_false]
  refine and_congr_right fun _ => ⟨fun ⟨sources, h⟩ a ha => ?_, fun hlong => exists_mapM_eq_ok fun a ha => ?_⟩
  · obtain ⟨i, hi⟩ := List.mem_iff_getElem?.mp ha
    obtain ⟨s, -, hs⟩ := exists_right_of_forall₂ (forall₂_of_mapM h) hi
    exact (sourcesOf_eq_ok_iff ht (hgood a ha) _).mp ⟨s, hs⟩
  · exact exists_sourcesOf_eq_ok ht (hgood a ha) (hlong a ha) _

theorem mem_discover_iff (ht : t.IsFileSystem) {arguments : List String} {paths : List Path}
    (h : t.discover arguments exclude = .ok paths) {q : Path} :
    q ∈ paths ↔ ∃ a ∈ arguments, t.Covers exclude a q := by
  obtain ⟨sources, hs, rfl⟩ := discover_eq_ok h
  rw [List.mem_eraseDups]
  exact mem_flatten_of_forall₂ hs fun a s hs q => (lists_of_sourcesOf ht hs).mem q

/-! ### Arguments that add nothing -/

/-- Whether an argument repeats another one, or is a directory below it that is spelled as its continuation and is not
reached through build output. -/
def IsInside (t : FileTree) (inner outer : String) : Prop :=
  Path.ofString inner = Path.ofString outer ∨
    ∃ l f, t.IsAt outer l ∧ t.isDirectory (l ++ f) = true ∧ AvoidsOutput f ∧
      Path.ofString inner = (Path.ofString outer).below f

theorem AvoidsOutput.append {f d : List String} (hf : AvoidsOutput f) (hd : AvoidsOutput d) : AvoidsOutput (f ++ d) :=
  List.forall_mem_append.mpr ⟨hf, hd⟩

private theorem sourcesOf_congr {excluded s : List Path} {inner : String}
    (hsame : Path.ofString inner = Path.ofString argument) (h : t.sourcesOf excluded argument = .ok s) :
    t.sourcesOf excluded inner = .ok s := by
  cases hlocate : t.locate (Path.ofString argument) with
  | found l => rwa [sourcesOf_of_found (hsame ▸ hlocate), hsame, ← sourcesOf_of_found hlocate]
  | tooLong =>
    rw [sourcesOf_of_tooLong hlocate] at h
    cases h
  | missing =>
    rw [sourcesOf_of_missing hlocate] at h
    cases h

/-- What a directory below an argument stands for, the argument stands for too. -/
private theorem Covers.of_inner (ht : t.IsFileSystem) {inner : String} {l f : List String} {q : Path}
    (hat : t.IsAt argument l) (hd : t.isDirectory (l ++ f) = true) (hf : AvoidsOutput f)
    (hspelled : Path.ofString inner = (Path.ofString argument).below f) (h : t.Covers exclude inner q) :
    t.Covers exclude argument q := by
  have hinner := hat.below ht.toIsTree hspelled (holds_of_isDirectory hd)
  cases h with
  | itself hat' hfile =>
    rw [← hinner.unique ht hat', hd] at hfile
    exact absurd hfile (by simp)
  | @below _ d name hat' _ hs he ha hkept =>
    rw [← hinner.unique ht hat', List.append_assoc l] at hs hkept
    have hl : t.isDirectory l = true := by
      rw [List.append_assoc] at hs
      exact ht.isDirectory_of_append hs (by simp)
    rw [hspelled, Path.below_below, ← List.append_assoc]
    exact .below hat hl hs he (hf.append ha) hkept

theorem not_isOverlong_inner (ht : t.IsFileSystem) {inner : String} {l f : List String} (hat : t.IsAt argument l)
    (hd : t.isDirectory (l ++ f) = true) (hspelled : Path.ofString inner = (Path.ofString argument).below f)
    (hlong : ¬ t.IsOverlong argument) : ¬ t.IsOverlong inner := by
  have hinner := hat.below ht.toIsTree hspelled (holds_of_isDirectory hd)
  have hshort : ¬ maxPathSize < (Path.ofString inner).render.utf8ByteSize := by
    rw [hspelled]
    exact fun hsize => hlong (.directory hat hd hsize)
  have hlocate := locate_of_isAt ht hinner
  rw [if_neg hshort] at hlocate
  intro h
  cases h with
  | path _ hsize => exact hshort hsize
  | name hnull hparts hleads hd' hsize =>
    rw [locate_of_overlong_name ht hnull hparts hleads hd' hsize] at hlocate
    cases hlocate
  | @directory l' d hat' hd' hsize =>
    -- a directory below the inner one is also below the outer one
    rw [← hinner.unique ht hat', List.append_assoc] at hd'
    rw [hspelled, Path.below_below] at hsize
    exact hlong (.directory hat hd' hsize)

/-- An argument inside another one gives nothing new. -/
private theorem IsInside.exists_sourcesOf (ht : t.IsFileSystem) {inner : String} (h : t.IsInside inner argument)
    {s : List Path} (hs : t.sourcesOf (exclude.map t.resolve) argument = .ok s) :
    ∃ s', t.sourcesOf (exclude.map t.resolve) inner = .ok s' ∧ s' ⊆ s := by
  rcases h with hsame | ⟨l, f, hat, hd, hf, hspelled⟩
  · exact ⟨s, sourcesOf_congr hsame hs, List.Subset.refl s⟩
  · have hlong := not_isOverlong_of_ok ht hs
    have hinner := hat.below ht.toIsTree hspelled (holds_of_isDirectory hd)
    obtain ⟨s', hs'⟩ := exists_sourcesOf_eq_ok ht (not_isBad_of_directory ht hinner hd)
      (not_isOverlong_inner ht hat hd hspelled hlong) (exclude.map t.resolve)
    refine ⟨s', hs', fun q hq => ?_⟩
    have hcovers := ((lists_of_sourcesOf ht hs').mem q).mp hq
    exact ((lists_of_sourcesOf ht hs).mem q).mpr (hcovers.of_inner ht hat hd hf hspelled)

/-- Discovery is exact.  The first bad argument decides the error, and without one the sources are listed, unless an
excluded path holds a null character or an argument that is looked at is overlong.  The list holds what the arguments
stand for, each path once and in the order of the arguments.  An argument inside an earlier one adds nothing. -/
theorem discover_exact (ht : t.IsFileSystem) (arguments : List String) (exclude : List Path) :
    (∀ before a after error, arguments = before ++ a :: after → (∀ b ∈ before, ∀ e, ¬ t.IsBad b e) →
      t.IsBad a error →
        (t.discover arguments exclude = .error error ↔
          (∀ e ∈ exclude, e.hasNull = false) ∧ ∀ b ∈ before ++ [a], ¬ t.IsOverlong b)) ∧
    ((∀ a ∈ arguments, ∀ e, ¬ t.IsBad a e) →
      ((∃ paths, t.discover arguments exclude = .ok paths) ↔
        (∀ e ∈ exclude, e.hasNull = false) ∧ ∀ a ∈ arguments, ¬ t.IsOverlong a)) ∧
    (∀ paths, t.discover arguments exclude = .ok paths →
      paths.Nodup ∧ (∀ q, q ∈ paths ↔ ∃ a ∈ arguments, t.Covers exclude a q) ∧
        ∃ sources, List.Forall₂ (t.Lists exclude) arguments sources ∧
          paths.Pairwise fun p q => sources.flatten.idxOf p < sources.flatten.idxOf q) ∧
    ∀ before a between b after, arguments = before ++ a :: (between ++ b :: after) → t.IsInside b a →
      t.discover arguments exclude = t.discover (before ++ a :: (between ++ after)) exclude := by
  refine ⟨?_, fun hgood => exists_discover_eq_ok_iff ht hgood, ?_, ?_⟩
  · rintro before a after error rfl hbefore hbad
    exact discover_eq_error_iff ht hbefore hbad
  · intro paths h
    have hmem (q : Path) := mem_discover_iff ht h (q := q)
    obtain ⟨sources, hs, rfl⟩ := discover_eq_ok h
    exact ⟨nodup_eraseDups _, hmem, sources, hs.imp fun a s hs => lists_of_sourcesOf ht hs,
      pairwise_idxOf_eraseDups _⟩
  · rintro before a between b after rfl hinside
    rw [discover_eq, discover_eq, mapM_flatten_eraseDups fun s hs => hinside.exists_sourcesOf ht hs]

/-- A directory with sources, build output and another file. -/
def mixedDirectory : FileTree :=
  ⟨["work"], [(["work", "src", "a.cs"], .file .empty), (["work", "src", "obj", "b.cs"], .file .empty),
    (["work", "src", "sub", "c.cs"], .file .empty), (["work", "src", "notes.txt"], .file .empty)]⟩

theorem discover_exact_mixed :
    mixedDirectory.IsFileSystem ∧
      (mixedDirectory.IsBad "src/notes.txt" (.unsupportedExtension ".txt") ∧
        mixedDirectory.discover ["src", "src/notes.txt", "gone"] [] = .error (.unsupportedExtension ".txt") ∧
        ∀ b ∈ ["src", "src/notes.txt"], ¬ mixedDirectory.IsOverlong b) ∧
      (mixedDirectory.discover ["src", "src/obj/b.cs", "src/sub"] [] =
          .ok [⟨.relative, ["src", "a.cs"]⟩, ⟨.relative, ["src", "sub", "c.cs"]⟩, ⟨.relative, ["src", "obj", "b.cs"]⟩] ∧
        ∃ a ∈ ["src", "src/obj/b.cs", "src/sub"], mixedDirectory.Covers [] a ⟨.relative, ["src", "sub", "c.cs"]⟩) ∧
      (mixedDirectory.IsInside "src/sub" "src" ∧
        mixedDirectory.discover ["src", "src/obj/b.cs", "src/sub"] [] =
          mixedDirectory.discover ["src", "src/obj/b.cs"] []) := by
  have ht : mixedDirectory.IsFileSystem := by decide +kernel
  have hsrc : mixedDirectory.IsAt "src" ["work", "src"] := isAt_of_locate (by decide +kernel)
  have hsub : mixedDirectory.IsInside "src/sub" "src" :=
    .inr ⟨_, ["sub"], hsrc, by decide +kernel, by simp [AvoidsOutput], by decide +kernel⟩
  have hname : ¬ IsSourceName (Path.ofString "src/notes.txt").name := by
    rw [← Path.isSourceExtension_iff]
    decide +kernel
  have hbad : mixedDirectory.IsBad "src/notes.txt" (.unsupportedExtension ".txt") :=
    .extension (l := ["work", "src", "notes.txt"]) (isAt_of_locate (by decide +kernel)) (by decide +kernel) hname
  have hgood : ∀ b ∈ ["src"], ∀ e, ¬ mixedDirectory.IsBad b e := by
    rw [List.forall_mem_singleton]
    exact not_isBad_of_directory ht hsrc (by decide +kernel)
  have herror : mixedDirectory.discover ["src", "src/notes.txt", "gone"] [] =
      .error (.unsupportedExtension ".txt") := by decide +kernel
  have hok : mixedDirectory.discover ["src", "src/obj/b.cs", "src/sub"] [] =
      .ok [⟨.relative, ["src", "a.cs"]⟩, ⟨.relative, ["src", "sub", "c.cs"]⟩, ⟨.relative, ["src", "obj", "b.cs"]⟩] := by
    have hsorted : mixedDirectory.discover ["src", "src/obj/b.cs", "src/sub"] [] =
        .ok [[⟨.relative, ["src", "a.cs"]⟩, ⟨.relative, ["src", "sub", "c.cs"]⟩].mergeSort Path.before,
          [⟨.relative, ["src", "obj", "b.cs"]⟩], [⟨.relative, ["src", "sub", "c.cs"]⟩].mergeSort Path.before
          ].flatten.eraseDups := rfl
    rw [hsorted, List.mergeSort_of_pairwise (by decide +kernel), List.mergeSort_singleton]
    decide +kernel
  obtain ⟨hfirst, -⟩ := discover_exact ht ["src", "src/notes.txt", "gone"] []
  obtain ⟨-, -, hlist, hinside⟩ := discover_exact ht ["src", "src/obj/b.cs", "src/sub"] []
  refine ⟨ht, ⟨hbad, herror, ?_⟩, ⟨hok, ?_⟩, hsub, ?_⟩
  · exact ((hfirst ["src"] "src/notes.txt" ["gone"] _ rfl hgood hbad).mp herror).2
  · exact ((hlist _ hok).2.1 _).mp (by simp)
  · exact hinside [] "src" ["src/obj/b.cs"] "src/sub" [] rfl hsub

/-- The name of a source with more bytes than a name may have. -/
def overlongName : String :=
  String.ofList (List.replicate 256 'a' ++ ".cs".toList)

private theorem ofString_overlongName : Path.ofString overlongName = ⟨.relative, [overlongName]⟩ := by
  have hlist : overlongName.toList = List.replicate 256 'a' ++ ".cs".toList := String.toList_ofList
  refine Path.ofString_of_isComponent ⟨?_, ?_, ?_⟩
  · exact fun h => absurd (congrArg String.utf8ByteSize h) (by decide +kernel)
  · exact fun h => absurd (congrArg String.utf8ByteSize h) (by decide +kernel)
  · rw [hlist, List.mem_append, List.mem_replicate]
    decide

private theorem locate_overlongName : (FileTree.empty ["work"]).locate ⟨.relative, [overlongName]⟩ = .tooLong := by
  have hlist : overlongName.toList = List.replicate 256 'a' ++ ".cs".toList := String.toList_ofList
  have hnull : Path.hasNull ⟨.relative, [overlongName]⟩ = false := by
    simp only [Path.hasNull, List.any_cons, List.any_nil, hlist]
    decide +kernel
  unfold locate
  rw [hnull]
  decide +kernel

/-- Nothing stands at a name that is too long, but it is not reported as missing. -/
theorem discover_overlongName :
    (FileTree.empty ["work"]).IsFileSystem ∧
      (FileTree.empty ["work"]).IsBad overlongName (.pathNotFound overlongName) ∧
      (FileTree.empty ["work"]).discover [overlongName] [] = .error (.nameTooLong ⟨.relative, [overlongName]⟩) := by
  have ht : (FileTree.empty ["work"]).IsFileSystem := by decide +kernel
  have htooLong : (FileTree.empty ["work"]).locate (Path.ofString overlongName) = .tooLong := by
    rw [ofString_overlongName, locate_overlongName]
  refine ⟨ht, .missing fun l hat => ?_, ?_⟩
  · have hshort : ¬ maxPathSize < (Path.ofString overlongName).render.utf8ByteSize := by
      rw [ofString_overlongName]
      decide +kernel
    rw [locate_of_isAt ht hat, if_neg hshort] at htooLong
    cases htooLong
  · rw [discover_eq, if_neg (by decide), List.mapM_cons, sourcesOf_of_tooLong htooLong, ofString_overlongName]
    rfl

/-! ### Files below a directory -/

section FilesBelow

variable {directory file name : String} {l g : List String}

private theorem walk_finds_iff (ht : t.IsFileSystem) (hat : t.IsAt directory l) (hs : t.Holds (l ++ g ++ [name]))
    (hg : AvoidsOutput g) (hspelled : Path.ofString file = (Path.ofString directory).below (g ++ [name])) :
    (∃ paths, t.discover [directory] [] = .ok paths ∧ Path.ofString file ∈ paths) ↔
      ¬ t.IsOverlong directory ∧ ".cs".toList <:+ name.toList := by
  have hd : t.isDirectory l = true := by
    rw [List.append_assoc] at hs
    exact ht.isDirectory_of_append hs (by simp)
  have hok : (∃ paths, t.discover [directory] [] = .ok paths) ↔ ¬ t.IsOverlong directory := by
    rw [exists_discover_eq_ok_iff ht (List.forall_mem_singleton.mpr (not_isBad_of_directory ht hat hd))]
    simp
  have hcovers : t.Covers [] directory (Path.ofString file) ↔ ".cs".toList <:+ name.toList := by
    rw [hspelled]
    constructor
    · generalize hq : (Path.ofString directory).below (g ++ [name]) = q
      intro h
      cases h with
      | itself hat' hfile =>
        rw [← hat.unique ht hat', hd] at hfile
        exact absurd hfile (by simp)
      | below _ _ _ he =>
        have hname := (List.append_inj' (Path.below_inj.mp hq) rfl).2
        rw [List.singleton_inj] at hname
        exact hname ▸ he
    · exact fun he => .below hat hd hs he hg (by simp)
  rw [← hok, ← hcovers]
  constructor
  · rintro ⟨paths, h, hmem⟩
    obtain ⟨a, ha, hc⟩ := (mem_discover_iff ht h).mp hmem
    rw [List.mem_singleton.mp ha] at hc
    exact ⟨⟨paths, h⟩, hc⟩
  · rintro ⟨⟨paths, h⟩, hc⟩
    exact ⟨paths, h, (mem_discover_iff ht h).mpr ⟨directory, List.mem_singleton_self _, hc⟩⟩

private theorem argument_taken_iff (ht : t.IsFileSystem) (hat : t.IsAt file l) (hfile : t.isDirectory l = false) :
    (∃ paths, t.discover [file] [] = .ok paths) ↔
      ¬ t.IsOverlong file ∧ IsSourceName (Path.ofString file).name := by
  by_cases hname : IsSourceName (Path.ofString file).name
  · have hgood : ∀ a ∈ [file], ∀ e, ¬ t.IsBad a e := by
      rw [List.forall_mem_singleton]
      intro e hbad
      cases hbad with
      | missing hnowhere => exact hnowhere _ hat
      | extension _ _ hname' => exact hname' hname
    rw [exists_discover_eq_ok_iff ht hgood]
    simp [hname]
  · have hbad := IsBad.extension hat hfile hname
    simp only [hname, and_false, iff_false]
    rintro ⟨paths, h⟩
    obtain ⟨sources, hs, -⟩ := discover_eq_ok h
    cases hs with
    | cons hs _ => exact sourcesOf_ne_ok ht hbad _ _ hs

/-- When a file below a directory is found by searching the directory, but refused as an argument, and the other way
around. -/
theorem walk_and_argument_differ_iff (ht : t.IsFileSystem) (hat : t.IsAt directory l)
    (hs : t.Holds (l ++ g ++ [name])) (hfile : t.isDirectory (l ++ g ++ [name]) = false) (hg : AvoidsOutput g)
    (hspelled : Path.ofString file = (Path.ofString directory).below (g ++ [name])) :
    ((∃ paths, t.discover [directory] [] = .ok paths ∧ Path.ofString file ∈ paths) ∧
        (¬ ∃ paths, t.discover [file] [] = .ok paths) ↔
      ¬ t.IsOverlong directory ∧ ".cs".toList <:+ name.toList ∧ (name = ".cs" ∨ t.IsOverlong file)) ∧
    ((¬ ∃ paths, t.discover [directory] [] = .ok paths ∧ Path.ofString file ∈ paths) ∧
        (∃ paths, t.discover [file] [] = .ok paths) ↔
      ¬ t.IsOverlong file ∧ IsSourceName name ∧ (¬ ".cs".toList <:+ name.toList ∨ t.IsOverlong directory)) := by
  have hfileAt : t.IsAt file (l ++ g ++ [name]) := by
    rw [List.append_assoc] at hs ⊢
    exact hat.below ht.toIsTree hspelled hs
  have hname : (Path.ofString file).name = name := by
    rw [hspelled]
    simp [Path.name, Path.below, ← List.append_assoc]
  rw [walk_finds_iff ht hat hs hg hspelled, argument_taken_iff ht hfileAt hfile, hname]
  constructor
  · constructor
    · rintro ⟨⟨hlong, he⟩, hrefused⟩
      refine ⟨hlong, he, ?_⟩
      rw [isSourceName_iff_of_suffix he] at hrefused
      by_contra hnot
      rw [not_or] at hnot
      exact hrefused ⟨hnot.2, hnot.1⟩
    · rintro ⟨hlong, he, hcase⟩
      refine ⟨⟨hlong, he⟩, ?_⟩
      rw [isSourceName_iff_of_suffix he]
      rintro ⟨hshort, hne⟩
      exact hcase.elim hne hshort
  · constructor
    · rintro ⟨hdropped, hshort, hsource⟩
      refine ⟨hshort, hsource, ?_⟩
      by_contra hnot
      rw [not_or, not_not] at hnot
      exact hdropped ⟨hnot.2, hnot.1⟩
    · rintro ⟨hshort, hsource, hcase⟩
      refine ⟨?_, hshort, hsource⟩
      rintro ⟨hlong, he⟩
      exact hcase.elim (fun h => h he) hlong

end FilesBelow

/-- A directory whose files are named with the ending in capitals, and with the ending alone. -/
def oddlyNamed : FileTree :=
  ⟨["work"], [(["work", "d", ".cs"], .file .empty), (["work", "d", "A.CS"], .file .empty),
    (["work", "d", "sub", "b.cs"], .file .empty)]⟩

private theorem discover_oddlyNamed :
    oddlyNamed.discover ["d"] [] = .ok [⟨.relative, ["d", ".cs"]⟩, ⟨.relative, ["d", "sub", "b.cs"]⟩] := by
  have hsorted : oddlyNamed.discover ["d"] [] =
      .ok [[⟨.relative, ["d", ".cs"]⟩, ⟨.relative, ["d", "sub", "b.cs"]⟩].mergeSort Path.before].flatten.eraseDups := rfl
  rw [hsorted, List.mergeSort_of_pairwise (by decide +kernel)]
  decide +kernel

/-- A search finds an ordinary source, and the source is taken as an argument. -/
theorem walk_and_argument_differ_iff_ordinary :
    oddlyNamed.IsFileSystem ∧ oddlyNamed.IsAt "d" ["work", "d"] ∧
      oddlyNamed.discover ["d"] [] = .ok [⟨.relative, ["d", ".cs"]⟩, ⟨.relative, ["d", "sub", "b.cs"]⟩] ∧
      oddlyNamed.discover ["d/sub/b.cs"] [] = .ok [⟨.relative, ["d", "sub", "b.cs"]⟩] ∧
      ¬ (¬ oddlyNamed.IsOverlong "d/sub/b.cs" ∧ IsSourceName "b.cs" ∧
        (¬ ".cs".toList <:+ "b.cs".toList ∨ oddlyNamed.IsOverlong "d")) := by
  have ht : oddlyNamed.IsFileSystem := by decide +kernel
  have hat : oddlyNamed.IsAt "d" ["work", "d"] := isAt_of_locate (by decide +kernel)
  refine ⟨ht, hat, discover_oddlyNamed, by decide +kernel, ?_⟩
  have hs : oddlyNamed.Holds (["work", "d"] ++ ["sub"] ++ ["b.cs"]) := by decide +kernel
  have hspelled : Path.ofString "d/sub/b.cs" = (Path.ofString "d").below (["sub"] ++ ["b.cs"]) := by decide +kernel
  have hdiffer := walk_and_argument_differ_iff ht hat hs (by decide +kernel) (by simp [AvoidsOutput]) hspelled
  rw [← hdiffer.2]
  rintro ⟨hdropped, -⟩
  exact hdropped ⟨_, discover_oddlyNamed, by decide +kernel⟩

/-- A source in capitals is taken as an argument but not found, and a file named like the bare ending is found but
refused as an argument. -/
theorem walk_and_argument_differ :
    oddlyNamed.IsFileSystem ∧
      oddlyNamed.discover ["d"] [] = .ok [⟨.relative, ["d", ".cs"]⟩, ⟨.relative, ["d", "sub", "b.cs"]⟩] ∧
      oddlyNamed.discover ["d/A.CS"] [] = .ok [⟨.relative, ["d", "A.CS"]⟩] ∧
      oddlyNamed.discover ["d/.cs"] [] = .error (.unsupportedExtension "") :=
  ⟨by decide +kernel, discover_oddlyNamed, by decide +kernel, by decide +kernel⟩

end FileTree

end Rollcall
