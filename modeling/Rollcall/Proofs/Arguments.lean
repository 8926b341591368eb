import Rollcall.Proofs.Letters
import Rollcall.Proofs.Projects

/-!
# Arguments

What one argument stands for on a file system, and when it stands for nothing.

* An argument leads to a location (`IsAt`) through directories and names that stand there, whatever the lengths of the
  names.  On a file system this is what following it finds, unless it is too long (`locate_of_isAt`).
* An argument is bad when it leads nowhere, or to a file that is not named like a source (`IsBad`).  It is overlong
  when the file system cannot look for it, or cannot open a directory below it (`IsOverlong`).
* An argument that is neither lists what it stands for, in order (`exists_sourcesOf_eq_ok`, `lists_of_sourcesOf`).
-/

namespace Rollcall

/-! ### Names of sources -/

/-- Whether a name is that of a source: behind something else it ends in `.cs`, in letters of either case. -/
def IsSourceName (name : String) : Prop :=
  ∃ stem ending, name.toList = stem ++ ending ∧ stem ≠ [] ∧ Text.small ending = ".cs".toList

namespace Path

private theorem splitName_eq {name : String} {stem behind : List Char} (hname : name.toList = stem ++ '.' :: behind)
    (hstem : stem ≠ []) (hbehind : behind ≠ []) (hdot : '.' ∉ behind) :
    splitName name = (String.ofList stem, String.ofList ('.' :: behind)) := by
  have hlength : name.length = stem.length + (behind.length + 1) := by
    rw [← String.length_toList, hname]
    simp
  have hrun : name.toList.reverse.takeWhile (· != '.') = behind.reverse := by
    have hne : ∀ c ∈ behind.reverse, (c != '.') = true := by
      intro c hc
      rw [bne_iff_ne]
      rintro rfl
      exact hdot (List.mem_reverse.mp hc)
    rw [hname, List.reverse_append, List.reverse_cons, List.append_assoc, List.takeWhile_append_of_pos hne]
    simp
  have htake : name.toList.take (name.length - behind.reverse.length - 1) = stem := by
    have : stem.length + (behind.length + 1) - behind.length - 1 = stem.length := by omega
    rw [hlength, List.length_reverse, hname, this]
    simp
  unfold splitName
  simp only [hrun, htake]
  rw [if_neg]
  · simp
  · simp [hstem, hbehind, hlength]
    omega

/-- An extension is what stands behind a beginning of the name. -/
private theorem exists_of_splitName {name : String} (h : (splitName name).2 ≠ "") :
    ∃ stem, stem ≠ [] ∧ name.toList = stem ++ (splitName name).2.toList := by
  unfold splitName at h ⊢
  simp only at h ⊢
  split at h
  · exact absurd rfl h
  · next hparts =>
    rw [if_neg hparts]
    simp only [Bool.or_eq_true, List.isEmpty_iff, decide_eq_true_eq, not_or] at hparts
    obtain ⟨⟨-, hstem⟩, hlength⟩ := hparts
    refine ⟨_, hstem, ?_⟩
    -- the run behind the last dot is followed by the dot
    have hrev := List.takeWhile_append_dropWhile (p := (· != '.')) (l := name.toList.reverse)
    cases hdrop : name.toList.reverse.dropWhile (· != '.') with
    | nil =>
      rw [hdrop, List.append_nil] at hrev
      rw [hrev, List.length_reverse, String.length_toList] at hlength
      exact absurd rfl hlength
    | cons c rest =>
      have hc : c = '.' := by
        have := List.head_dropWhile_not (· != '.') (l := name.toList.reverse) (by simp [hdrop])
        simpa [hdrop] using this
      subst hc
      rw [hdrop] at hrev
      generalize name.toList.reverse.takeWhile (· != '.') = behind at *
      have hname : name.toList = rest.reverse ++ '.' :: behind.reverse := by
        have := congrArg List.reverse hrev
        simpa using this.symm
      have hsize : name.length - behind.length - 1 = rest.reverse.length := by
        rw [← String.length_toList, hname]
        simp
        omega
      rw [hsize, hname]
      simp

theorem isSourceExtension_iff {p : Path} :
    FileTree.isSourceExtension p.extension = true ↔ IsSourceName p.name := by
  have hplain : Text.IsPlainAscii ".cs".toList := by decide
  unfold FileTree.isSourceExtension extension
  rw [beq_iff_eq]
  constructor
  · intro h
    have hne : (splitName p.name).2 ≠ "" := by
      intro hempty
      rw [hempty] at h
      exact absurd h (by decide)
    obtain ⟨stem, hstem, hname⟩ := exists_of_splitName hne
    exact ⟨stem, _, hname, hstem, (Text.small_eq_iff hplain).mpr h⟩
  · rintro ⟨stem, ending, hname, hstem, hsmall⟩
    have hlower : ending.map Char.toLower = ['.', 'c', 's'] := (Text.small_eq_iff hplain).mp hsmall
    obtain ⟨x, rest, rfl, hx, hrest⟩ := List.map_eq_cons_iff.mp hlower
    obtain rfl := Text.eq_dot_of_toLower hx
    have hdot : '.' ∉ rest := by
      intro hmem
      have := List.mem_map_of_mem (f := Char.toLower) hmem
      rw [hrest] at this
      exact absurd this (by decide)
    have hne : rest ≠ [] := by
      rintro rfl
      exact absurd hrest (by simp)
    rw [splitName_eq hname hstem hne hdot]
    simpa using hlower

end Path

/-- Of the names that end in `.cs`, only the bare ending is not that of a source. -/
theorem isSourceName_iff_of_suffix {name : String} (h : ".cs".toList <:+ name.toList) :
    IsSourceName name ↔ name ≠ ".cs" := by
  have hplain : Text.IsPlainAscii ".cs".toList := by decide
  constructor
  · rintro ⟨stem, ending, hname, hstem, hsmall⟩ rfl
    have hlength := congrArg List.length ((Text.small_eq_iff hplain).mp hsmall)
    have htotal := congrArg List.length hname
    have := List.length_pos_iff.mpr hstem
    simp only [List.length_map, List.length_append] at hlength htotal
    omega
  · intro hne
    obtain ⟨stem, hname⟩ := h
    refine ⟨stem, _, hname.symm, ?_, (Text.small_eq_iff hplain).mpr (by decide)⟩
    rintro rfl
    exact hne (String.toList_inj.mp hname.symm)

namespace FileTree

variable {t : FileTree} {argument : String} {exclude : List Path}

/-! ### Where arguments lead -/

/-- Whether components lead from one location to another.  Only a directory can be left. -/
inductive Leads (t : FileTree) : (start components target : List String) → Prop
  | here {l : List String} : Leads t l [] l
  | up {l components target : List String} (isDirectory : t.isDirectory l = true)
      (rest : Leads t l.dropLast components target) : Leads t l (".." :: components) target
  | down {l components target : List String} {c : String} (isDirectory : t.isDirectory l = true) (isName : c ≠ "..")
      (stands : t.Holds (l ++ [c])) (rest : Leads t (l ++ [c]) components target) : Leads t l (c :: components) target

/-- Whether an argument leads to a location, whatever the lengths of its names. -/
def IsAt (t : FileTree) (argument : String) (l : List String) : Prop :=
  t.Leads (t.origin (Path.ofString argument)) (Path.ofString argument).parts l

/-- Whether a tree can be that of a file system, whose names are bounded and hold no null character. -/
structure IsFileSystem (t : FileTree) : Prop extends IsTree t where
  sizes : ∀ l ∈ t.locations, ∀ c ∈ l, c.utf8ByteSize ≤ maxNameSize
  noNull : ∀ l ∈ t.locations, ∀ c ∈ l, c.toList.contains '\x00' = false

instance (t : FileTree) : Decidable t.IsFileSystem :=
  decidable_of_iff (t.IsTree ∧ (∀ l ∈ t.locations, ∀ c ∈ l, c.utf8ByteSize ≤ maxNameSize) ∧
      ∀ l ∈ t.locations, ∀ c ∈ l, c.toList.contains '\x00' = false)
    ⟨fun ⟨ht, hs, hn⟩ => ⟨ht, hs, hn⟩, fun ⟨ht, hs, hn⟩ => ⟨ht, hs, hn⟩⟩

theorem holds_of_isDirectory {l : List String} (h : t.isDirectory l = true) : t.Holds l := by
  unfold isDirectory at h
  unfold Holds
  split at h
  · next he => simp [he]
  · exact absurd h (by simp)

theorem Holds.of_append {l f : List String} (h : t.Holds (l ++ f)) : t.Holds l := by
  obtain ⟨k, hk, hlk⟩ := holds_iff.mp h
  exact holds_iff.mpr ⟨k, hk, (List.prefix_append l f).trans hlk⟩

theorem IsTree.isDirectory_of_append (ht : t.IsTree) {l f : List String} (h : t.Holds (l ++ f)) (hf : f ≠ []) :
    t.isDirectory l = true := by
  obtain ⟨c, rest, rfl⟩ := List.exists_cons_of_ne_nil hf
  have h : t.Holds (l ++ [c] ++ rest) := by simpa using h
  exact ht.isDirectory h.of_append

private theorem IsFileSystem.mem_of_holds (ht : t.IsFileSystem) {l : List String} (h : t.Holds l) {c : String}
    (hc : c ∈ l) : c.utf8ByteSize ≤ maxNameSize ∧ c.toList.contains '\x00' = false := by
  obtain ⟨k, hk, hlk⟩ := holds_iff.mp h
  exact ⟨ht.sizes k hk c (hlk.subset hc), ht.noNull k hk c (hlk.subset hc)⟩

theorem IsTree.leads (ht : t.IsTree) {l f : List String} (h : t.Holds (l ++ f)) : t.Leads l f (l ++ f) := by
  induction f generalizing l with
  | nil => simpa using Leads.here
  | cons c f ih =>
    have hd := ht.isDirectory_of_append h (List.cons_ne_nil c f)
    have hname := (ht.isName h c (by simp)).2
    have h : t.Holds (l ++ [c] ++ f) := by simpa using h
    have hrest := ih h
    rw [List.append_assoc, List.singleton_append] at hrest
    exact .down hd hname h.of_append hrest

theorem Leads.append {l m target f g : List String} (h : t.Leads l f m) (h' : t.Leads m g target) :
    t.Leads l (f ++ g) target := by
  induction h with
  | here => exact h'
  | up hd _ ih => exact .up hd (ih h')
  | down hd hn hs _ ih => exact .down hd hn hs (ih h')

private theorem leads_of_follow {l f target : List String} (h : t.follow l f = .found target) : t.Leads l f target := by
  induction f generalizing l with
  | nil =>
    rw [follow, Sighting.found.injEq] at h
    exact h ▸ .here
  | cons c f ih =>
    rcases t.follow_cons_cases l c f with hc | ⟨hd, ⟨rfl, hc⟩ | ⟨-, -, hc⟩ | ⟨hname, hs, hc⟩⟩
    · rw [hc] at h
      cases h
    · rw [hc] at h
      exact .up hd (ih h)
    · rw [hc] at h
      cases h
    · rw [hc] at h
      exact .down hd hname hs (ih h)

/-- On a file system, what components lead through is passed when they are followed. -/
private theorem Leads.follow_append (ht : t.IsFileSystem) {l f m : List String} (h : t.Leads l f m) (g : List String) :
    t.follow l (f ++ g) = t.follow m g := by
  induction h with
  | here => rfl
  | up hd _ ih =>
    rw [List.cons_append, follow]
    simpa [hd] using ih
  | @down l f m c hd hn hs _ ih =>
    have hsize := (ht.mem_of_holds hs (c := c) (by simp)).1
    rw [List.cons_append, follow]
    simp only [hd, hn, Nat.not_lt.mpr hsize, show (t.entry? (l ++ [c])).isSome = true from hs]
    simpa using ih

theorem Leads.follow_eq (ht : t.IsFileSystem) {l f m : List String} (h : t.Leads l f m) :
    t.follow l f = .found m := by
  have := h.follow_append ht []
  rwa [List.append_nil, follow] at this

private theorem Leads.noNull (ht : t.IsFileSystem) {l f m : List String} (h : t.Leads l f m) {c : String} (hc : c ∈ f) :
    c.toList.contains '\x00' = false := by
  induction h with
  | here => exact absurd hc List.not_mem_nil
  | up _ _ ih =>
    rcases List.mem_cons.mp hc with rfl | hc
    · decide
    · exact ih hc
  | down _ _ hs _ ih =>
    rcases List.mem_cons.mp hc with rfl | hc
    · exact (ht.mem_of_holds hs (by simp)).2
    · exact ih hc

theorem IsAt.unique (ht : t.IsFileSystem) {l l' : List String} (h : t.IsAt argument l) (h' : t.IsAt argument l') :
    l = l' := by
  have := (h.follow_eq ht).symm.trans (h'.follow_eq ht)
  rwa [Sighting.found.injEq] at this

theorem IsAt.below (ht : t.IsTree) {inner : String} {l f : List String} (h : t.IsAt argument l)
    (hspelled : Path.ofString inner = (Path.ofString argument).below f) (hs : t.Holds (l ++ f)) :
    t.IsAt inner (l ++ f) := by
  unfold IsAt
  rw [hspelled]
  exact h.append (ht.leads hs)

theorem isAt_of_locate {l : List String} (h : t.locate (Path.ofString argument) = .found l) : t.IsAt argument l := by
  unfold locate at h
  split at h
  · exact absurd h (by simp)
  · split at h
    · exact absurd h (by simp)
    · exact leads_of_follow h

/-! ### Overlong arguments -/

/-- Whether the file system refuses a path for a length: the path itself, a name that is reached on the way, or the
path of a directory below it, which cannot be opened. -/
inductive IsOverlong (t : FileTree) (argument : String) : Prop
  | path (noNull : (Path.ofString argument).hasNull = false)
      (size : maxPathSize < (Path.ofString argument).render.utf8ByteSize)
  | name {before after l : List String} {c : String} (noNull : (Path.ofString argument).hasNull = false)
      (parts : (Path.ofString argument).parts = before ++ c :: after)
      (leads : t.Leads (t.origin (Path.ofString argument)) before l) (isDirectory : t.isDirectory l = true)
      (size : maxNameSize < c.utf8ByteSize)
  | directory {l d : List String} (isAt : t.IsAt argument l) (isDirectory : t.isDirectory (l ++ d) = true)
      (size : maxPathSize < ((Path.ofString argument).below d).render.utf8ByteSize)

private theorem exists_of_follow_eq_tooLong {l f : List String} (h : t.follow l f = .tooLong) :
    ∃ before c after m, f = before ++ c :: after ∧ t.Leads l before m ∧ t.isDirectory m = true ∧
      maxNameSize < c.utf8ByteSize := by
  induction f generalizing l with
  | nil => cases h
  | cons c f ih =>
    rcases t.follow_cons_cases l c f with hc | ⟨hd, ⟨rfl, hc⟩ | ⟨-, hsize, -⟩ | ⟨hname, hs, hc⟩⟩
    · rw [hc] at h
      cases h
    · rw [hc] at h
      obtain ⟨before, x, after, m, rfl, hleads, hm, hx⟩ := ih h
      exact ⟨".." :: before, x, after, m, rfl, .up hd hleads, hm, hx⟩
    · exact ⟨[], c, f, l, rfl, .here, hd, hsize⟩
    · rw [hc] at h
      obtain ⟨before, x, after, m, rfl, hleads, hm, hx⟩ := ih h
      exact ⟨c :: before, x, after, m, rfl, .down hd hname hs hleads, hm, hx⟩

theorem isOverlong_of_locate (h : t.locate (Path.ofString argument) = .tooLong) : t.IsOverlong argument := by
  unfold locate at h
  split at h
  · exact absurd h (by simp)
  · next hnull =>
    have hnull : (Path.ofString argument).hasNull = false := by simpa using hnull
    split at h
    · next hsize => exact .path hnull hsize
    · obtain ⟨before, c, after, l, hparts, hleads, hd, hsize⟩ := exists_of_follow_eq_tooLong h
      exact .name hnull hparts hleads hd hsize

theorem Leads.hasNull_eq_false (ht : t.IsFileSystem) {p : Path} {l : List String}
    (h : t.Leads (t.origin p) p.parts l) : p.hasNull = false := by
  unfold Path.hasNull
  rw [List.any_eq_false]
  intro c hc
  simp only [h.noNull ht hc]
  decide

/-- A path that leads to a location is found there, unless it is too long. -/
theorem Leads.locate_eq (ht : t.IsFileSystem) {p : Path} {l : List String} (h : t.Leads (t.origin p) p.parts l) :
    t.locate p = if maxPathSize < p.render.utf8ByteSize then .tooLong else .found l := by
  unfold locate
  rw [h.hasNull_eq_false ht, if_neg (by decide), h.follow_eq ht]

theorem locate_of_isAt (ht : t.IsFileSystem) {l : List String} (h : t.IsAt argument l) :
    t.locate (Path.ofString argument) = if maxPathSize < (Path.ofString argument).render.utf8ByteSize then .tooLong
      else .found l :=
  h.locate_eq ht

theorem locate_of_overlong_name (ht : t.IsFileSystem) {before after l : List String} {c : String}
    (hnull : (Path.ofString argument).hasNull = false) (hparts : (Path.ofString argument).parts = before ++ c :: after)
    (hleads : t.Leads (t.origin (Path.ofString argument)) before l) (hd : t.isDirectory l = true)
    (hsize : maxNameSize < c.utf8ByteSize) : t.locate (Path.ofString argument) = .tooLong := by
  have hdots : c ≠ ".." := by
    rintro rfl
    exact absurd hsize (by decide)
  have hfollow : t.follow l (c :: after) = .tooLong := by
    rw [follow]
    simp [hd, hdots, hsize]
  unfold locate
  rw [hnull, if_neg (by decide), hparts, hleads.follow_append ht, hfollow]
  split <;> rfl

private theorem openAll_cases (t : FileTree) (p : Path) (l : List String) :
    (t.openAll p l = .ok () ∧
      ∀ d ≠ [], t.isDirectory (l ++ d) = true → (p.below d).render.utf8ByteSize ≤ maxPathSize) ∨
    ∃ d, t.openAll p l = .error (.nameTooLong (p.below d)) ∧ t.isDirectory (l ++ d) = true ∧
      maxPathSize < (p.below d).render.utf8ByteSize := by
  have hmem (q : Path) : q ∈ t.tooLongBelow p l ↔ ∃ d ≠ [], t.isDirectory (l ++ d) = true ∧ p.below d = q ∧
      maxPathSize < q.render.utf8ByteSize := by
    unfold tooLongBelow
    simp only [List.mem_filter, List.mem_map, mem_allBelow, decide_eq_true_eq]
    constructor
    · rintro ⟨⟨d, ⟨⟨hne, -⟩, hd⟩, rfl⟩, hsize⟩
      exact ⟨d, hne, hd, rfl, hsize⟩
    · rintro ⟨d, hne, hd, rfl, hsize⟩
      exact ⟨⟨d, ⟨⟨hne, holds_of_isDirectory hd⟩, hd⟩, rfl⟩, hsize⟩
  unfold openAll
  cases h : t.tooLongBelow p l with
  | nil =>
    refine .inl ⟨rfl, fun d hne hd => Nat.not_lt.mp fun hsize => ?_⟩
    have := (hmem (p.below d)).mpr ⟨d, hne, hd, rfl, hsize⟩
    rw [h] at this
    exact absurd this List.not_mem_nil
  | cons q rest =>
    obtain ⟨d, -, hd, rfl, hsize⟩ := (hmem q).mp (h ▸ List.mem_cons_self)
    exact .inr ⟨d, rfl, hd, hsize⟩

/-! ### What one argument stands for -/

/-- Whether an argument is to be refused, and why. -/
inductive IsBad (t : FileTree) (argument : String) : LoadError → Prop
  | missing (nowhere : ∀ l, ¬ t.IsAt argument l) : IsBad t argument (.pathNotFound argument)
  | extension {l : List String} (isAt : t.IsAt argument l) (isFile : t.isDirectory l = false)
      (name : ¬ IsSourceName (Path.ofString argument).name) :
      IsBad t argument (.unsupportedExtension (Path.ofString argument).extension)

theorem not_isBad_of_directory (ht : t.IsFileSystem) {l : List String} (hat : t.IsAt argument l)
    (hd : t.isDirectory l = true) (e : LoadError) : ¬ t.IsBad argument e := by
  intro hbad
  cases hbad with
  | missing hnowhere => exact hnowhere _ hat
  | extension hat' hfile =>
    rw [← hat.unique ht hat', hd] at hfile
    exact absurd hfile (by simp)

/-- Whether a path is one of those that an argument stands for: a file stands for itself, and a directory for the
sources below it that are neither build output nor excluded. -/
inductive Covers (t : FileTree) (exclude : List Path) (argument : String) : Path → Prop
  | itself {l : List String} (isAt : t.IsAt argument l) (isFile : t.isDirectory l = false) :
      Covers t exclude argument (Path.ofString argument)
  | below {l d : List String} {name : String} (isAt : t.IsAt argument l) (isDirectory : t.isDirectory l = true)
      (stands : t.Holds (l ++ d ++ [name])) (ending : ".cs".toList <:+ name.toList) (avoids : AvoidsOutput d)
      (kept : ∀ e ∈ exclude, ¬ (t.resolve e).parts <+: l ++ d ++ [name]) :
      Covers t exclude argument ((Path.ofString argument).below (d ++ [name]))

/-- Whether a list holds what an argument stands for, in the order of the components. -/
structure Lists (t : FileTree) (exclude : List Path) (argument : String) (sources : List Path) : Prop where
  mem : ∀ q, q ∈ sources ↔ t.Covers exclude argument q
  sorted : sources.Pairwise fun p q => p.parts < q.parts

theorem sourcesOf_of_found {excluded : List Path} {l : List String}
    (h : t.locate (Path.ofString argument) = .found l) :
    t.sourcesOf excluded argument =
      if t.isDirectory l = true then
        (t.openAll (Path.ofString argument) l).map fun _ => t.sourcesBelow (Path.ofString argument) l excluded
      else if isSourceExtension (Path.ofString argument).extension = true then .ok [Path.ofString argument]
      else .error (.unsupportedExtension (Path.ofString argument).extension) := by
  unfold sourcesOf locate?
  simp only [h]
  rfl

theorem sourcesOf_of_tooLong {excluded : List Path} (h : t.locate (Path.ofString argument) = .tooLong) :
    t.sourcesOf excluded argument = .error (.nameTooLong (Path.ofString argument)) := by
  unfold sourcesOf locate?
  simp only [h]
  rfl

theorem sourcesOf_of_missing {excluded : List Path} (h : t.locate (Path.ofString argument) = .missing) :
    t.sourcesOf excluded argument = .error (.pathNotFound argument) := by
  unfold sourcesOf locate?
  simp only [h]
  rfl

theorem locate_of_not_isOverlong (ht : t.IsFileSystem) (hlong : ¬ t.IsOverlong argument) {l : List String}
    (h : t.IsAt argument l) : t.locate (Path.ofString argument) = .found l := by
  have hlocate := locate_of_isAt ht h
  split at hlocate
  · exact absurd (isOverlong_of_locate hlocate) hlong
  · exact hlocate

/-- An overlong argument is too long to be looked for, or it is a directory in which not everything can be opened. -/
theorem IsOverlong.locate_cases (ht : t.IsFileSystem) (h : t.IsOverlong argument) :
    t.locate (Path.ofString argument) = .tooLong ∨
      ∃ l p, t.locate (Path.ofString argument) = .found l ∧ t.isDirectory l = true ∧
        t.openAll (Path.ofString argument) l = .error (.nameTooLong p) := by
  cases h with
  | path hnull hsize =>
    refine .inl ?_
    unfold locate
    rw [hnull, if_neg (by decide), if_pos hsize]
  | name hnull hparts hleads hd hsize => exact .inl (locate_of_overlong_name ht hnull hparts hleads hd hsize)
  | @directory l d hat hd hsize =>
    have hlocate := locate_of_isAt ht hat
    split at hlocate
    · exact .inl hlocate
    · next hshort =>
      -- the argument itself is short enough, so the directory lies below it
      have hne : d ≠ [] := by
        rintro rfl
        exact hshort (by simpa [Path.below] using hsize)
      have hl := ht.isDirectory_of_append (holds_of_isDirectory hd) hne
      rcases t.openAll_cases (Path.ofString argument) l with ⟨-, hopen⟩ | ⟨d', herror, -⟩
      · have := hopen d hne hd
        omega
      · exact .inr ⟨l, _, hlocate, hl, herror⟩

theorem openAll_of_not_isOverlong {l : List String} (hlong : ¬ t.IsOverlong argument) (h : t.IsAt argument l) :
    t.openAll (Path.ofString argument) l = .ok () := by
  rcases t.openAll_cases (Path.ofString argument) l with ⟨hok, -⟩ | ⟨d, -, hd, hsize⟩
  · exact hok
  · exact absurd (.directory h hd hsize) hlong

theorem sourcesOf_of_isOverlong (ht : t.IsFileSystem) (h : t.IsOverlong argument) (excluded : List Path) :
    ∃ p, t.sourcesOf excluded argument = .error (.nameTooLong p) := by
  rcases h.locate_cases ht with hlocate | ⟨l, p, hlocate, hd, herror⟩
  · exact ⟨_, sourcesOf_of_tooLong hlocate⟩
  · refine ⟨p, ?_⟩
    rw [sourcesOf_of_found hlocate, if_pos hd, herror]
    rfl

private theorem sourcesOf_of_isBad (ht : t.IsFileSystem) {error : LoadError} (h : t.IsBad argument error)
    (hlong : ¬ t.IsOverlong argument) (excluded : List Path) : t.sourcesOf excluded argument = .error error := by
  cases h with
  | missing hnowhere =>
    cases hlocate : t.locate (Path.ofString argument) with
    | found l => exact absurd (isAt_of_locate hlocate) (hnowhere l)
    | tooLong => exact absurd (isOverlong_of_locate hlocate) hlong
    | missing => exact sourcesOf_of_missing hlocate
  | extension hat hfile hname =>
    rw [← Path.isSourceExtension_iff] at hname
    rw [sourcesOf_of_found (locate_of_not_isOverlong ht hlong hat), if_neg (by simp [hfile]), if_neg hname]

theorem exists_sourcesOf_eq_ok (ht : t.IsFileSystem) (hbad : ∀ e, ¬ t.IsBad argument e)
    (hlong : ¬ t.IsOverlong argument) (excluded : List Path) : ∃ s, t.sourcesOf excluded argument = .ok s := by
  obtain ⟨l, hat⟩ : ∃ l, t.IsAt argument l := by
    by_contra hnowhere
    exact hbad _ (.missing (not_exists.mp hnowhere))
  rw [sourcesOf_of_found (locate_of_not_isOverlong ht hlong hat)]
  split
  · rw [openAll_of_not_isOverlong hlong hat]
    exact ⟨_, rfl⟩
  · next hfile =>
    have hname : isSourceExtension (Path.ofString argument).extension = true := by
      rw [Path.isSourceExtension_iff]
      by_contra hname
      exact hbad _ (.extension hat (by simpa using hfile) hname)
    rw [if_pos hname]
    exact ⟨_, rfl⟩

theorem not_isOverlong_of_ok (ht : t.IsFileSystem) {excluded s : List Path}
    (h : t.sourcesOf excluded argument = .ok s) : ¬ t.IsOverlong argument := by
  intro hlong
  obtain ⟨p, hp⟩ := sourcesOf_of_isOverlong ht hlong excluded
  rw [hp] at h
  cases h

/-- The error of an overlong argument is not that of any bad one. -/
private theorem not_isOverlong_of_error (ht : t.IsFileSystem) {bad : String} {error : LoadError}
    (hbad : t.IsBad bad error)
    {excluded : List Path} (h : t.sourcesOf excluded argument = .error error) : ¬ t.IsOverlong argument := by
  intro hlong
  obtain ⟨p, hp⟩ := sourcesOf_of_isOverlong ht hlong excluded
  rw [hp] at h
  cases hbad <;> cases h

theorem sourcesOf_eq_ok_iff (ht : t.IsFileSystem) (hgood : ∀ e, ¬ t.IsBad argument e) (excluded : List Path) :
    (∃ s, t.sourcesOf excluded argument = .ok s) ↔ ¬ t.IsOverlong argument :=
  ⟨fun ⟨_, h⟩ => not_isOverlong_of_ok ht h, fun hlong => exists_sourcesOf_eq_ok ht hgood hlong excluded⟩

theorem sourcesOf_eq_error_iff (ht : t.IsFileSystem) {error : LoadError} (hbad : t.IsBad argument error)
    (excluded : List Path) : t.sourcesOf excluded argument = .error error ↔ ¬ t.IsOverlong argument :=
  ⟨fun h => not_isOverlong_of_error ht hbad h, fun hlong => sourcesOf_of_isBad ht hbad hlong excluded⟩

/-- Only a bad argument gives the error of a bad argument. -/
theorem sourcesOf_ne_error (ht : t.IsFileSystem) {bad : String} {error : LoadError} (hbad : t.IsBad bad error)
    (hgood : ∀ e, ¬ t.IsBad argument e) (excluded : List Path) : t.sourcesOf excluded argument ≠ .error error := by
  intro h
  obtain ⟨s, hs⟩ := exists_sourcesOf_eq_ok ht hgood (not_isOverlong_of_error ht hbad h) excluded
  rw [hs] at h
  cases h

theorem sourcesOf_ne_ok (ht : t.IsFileSystem) {error : LoadError} (hbad : t.IsBad argument error)
    (excluded s : List Path) : t.sourcesOf excluded argument ≠ .ok s := by
  intro h
  rw [sourcesOf_of_isBad ht hbad (not_isOverlong_of_ok ht h)] at h
  cases h

private theorem isAt_of_sourcesOf {excluded sources : List Path} (h : t.sourcesOf excluded argument = .ok sources) :
    t.IsAt argument (t.locationOf argument) := by
  cases hlocate : t.locate (Path.ofString argument) with
  | found l =>
    have hl : t.locationOf argument = l := parts_resolve_of_locate hlocate
    exact hl ▸ isAt_of_locate hlocate
  | tooLong =>
    rw [sourcesOf_of_tooLong hlocate] at h
    cases h
  | missing =>
    rw [sourcesOf_of_missing hlocate] at h
    cases h

private theorem sorted_sourcesBelow (t : FileTree) (p : Path) (l : List String) (excluded : List Path) :
    (t.sourcesBelow p l excluded).Pairwise fun q r => q.parts < r.parts := by
  have hnodup : (t.sourcesBelow p l excluded).Nodup := by
    unfold sourcesBelow matching allBelow
    refine (List.mergeSort_perm _ _).nodup_iff.mpr (List.Pairwise.filter _ (List.pairwise_map.mpr ?_))
    exact (List.Pairwise.filter _ (nodup_eraseDups _)).imp fun hne h => hne (Path.below_inj.mp h)
  have horder : (t.sourcesBelow p l excluded).Pairwise fun q r => ¬ r.parts < q.parts :=
    Path.pairwise_mergeSort_before _
  refine (horder.and hnodup).imp_of_mem fun {q r} hq hr h => ?_
  obtain ⟨f, -, rfl, -⟩ := mem_sourcesBelow.mp hq
  obtain ⟨g, -, rfl, -⟩ := mem_sourcesBelow.mp hr
  exact List.append_left_lt (Path.lt_of_below_not_lt h.1 fun hfg => h.2 (by rw [hfg]))

/-- The sources of an argument are what it stands for. -/
theorem lists_of_sourcesOf (ht : t.IsFileSystem) {sources : List Path}
    (h : t.sourcesOf (exclude.map t.resolve) argument = .ok sources) : t.Lists exclude argument sources := by
  have hat := isAt_of_sourcesOf h
  have hsources := sourcesOf_eq_ok h
  split at hsources
  · next hd =>
    subst hsources
    refine ⟨fun q => ?_, t.sorted_sourcesBelow _ _ _⟩
    rw [mem_sourcesBelow]
    -- what is excluded is told by where the paths lead, and names are simply added to a location
    have hkept {d : List String} {name : String} (hs : t.Holds (t.locationOf argument ++ d ++ [name])) :
        (∀ e ∈ exclude.map t.resolve,
          (t.resolve ((Path.ofString argument).below (d ++ [name]))).isUnder e = false) ↔
        ∀ e ∈ exclude, ¬ (t.resolve e).parts <+: t.locationOf argument ++ d ++ [name] := by
      have hnames : ∀ c ∈ d ++ [name], c ≠ ".." := by
        rw [List.append_assoc] at hs
        exact fun c hc => (ht.isName hs c (List.mem_append_right _ hc)).2
      have hparts := t.parts_resolve_below (Path.ofString argument) hnames
      rw [← List.append_assoc] at hparts
      rw [List.forall_mem_map]
      refine forall₂_congr fun e _ => ?_
      rw [← Bool.not_eq_true, isUnder_resolve, hparts]
      rfl
    constructor
    · rintro ⟨f, hf, rfl, hexclude⟩
      obtain ⟨d, name, rfl⟩ := exists_concat_of_mem_matching hf
      obtain ⟨hs, he, ha⟩ := mem_matching_concat.mp hf
      exact .below hat hd hs he ha ((hkept hs).mp hexclude)
    · intro hq
      cases hq with
      | itself hat' hfile =>
        rw [hat.unique ht hat', hfile] at hd
        exact absurd hd (by simp)
      | below hat' _ hs he ha hexclude =>
        rw [← hat.unique ht hat'] at hs hexclude
        exact ⟨_, mem_matching_concat.mpr ⟨hs, he, ha⟩, rfl, (hkept hs).mpr hexclude⟩
  · next hfile =>
    subst hsources
    refine ⟨fun q => ?_, List.pairwise_singleton _ _⟩
    rw [List.mem_singleton]
    constructor
    · rintro rfl
      exact .itself hat (by simpa using hfile)
    · intro hq
      cases hq with
      | itself => rfl
      | below hat' hd => exact absurd (hat.unique ht hat' ▸ hd) hfile

end FileTree

end Rollcall
