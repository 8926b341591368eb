import Rollcall.Loading
import Rollcall.Proofs.Trees
import Rollcall.Syntax.Reader

/-!
# Sources of arguments

Which sources some arguments stand for, and when two of the listed paths lead to the same file.

* An argument takes the sources below it, or itself (`Takes`), and lists each by its own path continued by the names
  that lead to the source (`mem_sourcesOf`).
* Paths are listed once, but as they are spelled.  A file that several arguments take is listed once exactly when
  the inner one of any two that take it is spelled like the outer one, continued by names (`resolve_inj_discover_iff`).
-/

namespace Rollcall

namespace FileTree

variable {t : FileTree} {excluded : List Path} {argument : String}

/-- The location to which an argument leads. -/
def locationOf (t : FileTree) (argument : String) : List String :=
  (t.resolve (Path.ofString argument)).parts

/-- Whether an argument takes what stands at the relative location `f`, seen from where the argument leads to: a
directory takes the sources below it that are no build output, and anything else takes itself. -/
inductive Takes (t : FileTree) (argument : String) : (f : List String) → Prop
  | source {d : List String} {name : String} (isDirectory : t.isDirectory (t.locationOf argument) = true)
      (stands : t.Holds (t.locationOf argument ++ d ++ [name])) (ending : ".cs".toList <:+ name.toList)
      (avoids : AvoidsOutput d) : Takes t argument (d ++ [name])
  | itself (isFile : t.isDirectory (t.locationOf argument) = false) : Takes t argument []

theorem mem_sourcesBelow {p q : Path} {l : List String} :
    q ∈ t.sourcesBelow p l excluded ↔
      ∃ f ∈ t.matching l ".cs", q = p.below f ∧ ∀ e ∈ excluded, (t.resolve (p.below f)).isUnder e = false := by
  unfold sourcesBelow
  rw [(List.mergeSort_perm _ _).mem_iff, List.mem_filter, List.mem_map]
  constructor
  · rintro ⟨⟨f, hf, rfl⟩, he⟩
    exact ⟨f, hf, rfl, by simpa using he⟩
  · rintro ⟨f, hf, rfl, he⟩
    exact ⟨⟨f, hf, rfl⟩, by simpa using he⟩

theorem locate_of_locate? {p : Path} {l : List String} (h : t.locate? p = .ok (some l)) : t.locate p = .found l := by
  unfold locate? at h
  split at h
  · next hl =>
    cases h
    exact hl
  · cases h
  · cases h

/-- What an argument that leads somewhere stands for. -/
theorem sourcesOf_eq_ok {sources : List Path} (h : t.sourcesOf excluded argument = .ok sources) :
    sources = if t.isDirectory (t.locationOf argument) = true then
      t.sourcesBelow (Path.ofString argument) (t.locationOf argument) excluded else [Path.ofString argument] := by
  obtain ⟨found, hfound, h⟩ := bind_eq_ok_iff.mp h
  cases found with
  | none => cases h
  | some l =>
    have hl : t.locationOf argument = l := parts_resolve_of_locate (locate_of_locate? hfound)
    rw [hl]
    simp only at h
    split at h
    · next hd =>
      obtain ⟨_, -, h⟩ := bind_eq_ok_iff.mp h
      cases h
      rw [if_pos hd]
    · next hd =>
      rw [if_neg hd]
      split at h
      · cases h
        rfl
      · cases h

/-- Without exclusions an argument lists what it takes. -/
theorem mem_sourcesOf {sources : List Path} (h : t.sourcesOf [] argument = .ok sources) {p : Path} :
    p ∈ sources ↔ ∃ f, p = (Path.ofString argument).below f ∧ t.Takes argument f := by
  rw [sourcesOf_eq_ok h]
  split
  · next hd =>
    rw [mem_sourcesBelow]
    constructor
    · rintro ⟨f, hf, rfl, -⟩
      obtain ⟨d, name, rfl⟩ := exists_concat_of_mem_matching hf
      obtain ⟨hs, he, ha⟩ := mem_matching_concat.mp hf
      exact ⟨_, rfl, .source hd hs he ha⟩
    · rintro ⟨f, rfl, hf⟩
      cases hf with
      | source _ hs he ha => exact ⟨_, mem_matching_concat.mpr ⟨hs, he, ha⟩, rfl, by simp⟩
      | itself hfile => exact absurd hd (by simp [hfile])
  · next hd =>
    rw [List.mem_singleton]
    constructor
    · rintro rfl
      exact ⟨[], by simp [Path.below], .itself (by simpa using hd)⟩
    · rintro ⟨f, rfl, hf⟩
      cases hf with
      | source hdir => exact absurd hdir hd
      | itself => simp [Path.below]

private theorem eq_resolve_of_resolve? {p q : Path} (h : t.resolve? p = .ok q) : q = t.resolve p := by
  unfold resolve? at h
  split at h
  · cases h
  · cases h
    rfl

/-- The listed paths are the sources of the arguments in order, each path once. -/
theorem discover_eq_ok {arguments : List String} {exclude paths : List Path}
    (h : t.discover arguments exclude = .ok paths) :
    ∃ sources, List.Forall₂ (fun a s => t.sourcesOf (exclude.map t.resolve) a = .ok s) arguments sources ∧
      paths = sources.flatten.eraseDups := by
  obtain ⟨excluded, he, h⟩ := bind_eq_ok_iff.mp h
  obtain ⟨sources, hs, h⟩ := bind_eq_ok_iff.mp h
  have hexcluded := eq_map_of_forall₂ (forall₂_of_mapM he) fun p q => eq_resolve_of_resolve?
  rw [hexcluded] at hs
  cases h
  exact ⟨sources, forall₂_of_mapM hs, rfl⟩

/-- The listed paths are those of what the arguments take. -/
private theorem mem_discover {arguments : List String} {paths : List Path} (h : t.discover arguments [] = .ok paths)
    {p : Path} : p ∈ paths ↔ ∃ a ∈ arguments, ∃ f, p = (Path.ofString a).below f ∧ t.Takes a f := by
  obtain ⟨sources, hs, rfl⟩ := discover_eq_ok h
  rw [List.mem_eraseDups]
  exact mem_flatten_of_forall₂ hs fun a s hs q => mem_sourcesOf hs

/-- What an argument takes lies at its location, continued by names. -/
theorem Takes.parts_resolve (ht : t.IsTree) {f : List String} (h : t.Takes argument f) :
    (t.resolve ((Path.ofString argument).below f)).parts = t.locationOf argument ++ f := by
  apply parts_resolve_below
  intro c hc
  cases h with
  | source _ hs =>
    rw [List.append_assoc] at hs
    exact (ht.isName hs c (List.mem_append_right _ hc)).2
  | itself => exact absurd hc List.not_mem_nil

/-- No two of the listed paths lead to the same file exactly when, of any two arguments that take the same source, the
inner one is spelled like the outer one, continued by the names that lead from the outer to the inner one. -/
theorem resolve_inj_discover_iff {arguments : List String} {paths : List Path} (ht : t.IsTree)
    (h : t.discover arguments [] = .ok paths) :
    (∀ p ∈ paths, ∀ q ∈ paths, t.resolve p = t.resolve q → p = q) ↔
      ∀ a ∈ arguments, ∀ b ∈ arguments, ∀ f g, t.locationOf b = t.locationOf a ++ f → t.Takes a (f ++ g) →
        t.Takes b g → Path.ofString b = (Path.ofString a).below f := by
  constructor
  · intro hinj a ha b hb f g hab hta htb
    have hp := (mem_discover h).mpr ⟨a, ha, f ++ g, rfl, hta⟩
    have hq := (mem_discover h).mpr ⟨b, hb, g, rfl, htb⟩
    have hsame : t.resolve ((Path.ofString b).below g) = t.resolve ((Path.ofString a).below (f ++ g)) := by
      rw [resolve_inj, htb.parts_resolve ht, hta.parts_resolve ht, hab, List.append_assoc]
    have heq := hinj _ hq _ hp hsame
    rw [← Path.below_below] at heq
    exact Path.below_left_inj.mp heq
  · intro hspelled p hp q hq hpq
    obtain ⟨a, ha, f, rfl, hta⟩ := (mem_discover h).mp hp
    obtain ⟨b, hb, g, rfl, htb⟩ := (mem_discover h).mp hq
    rw [resolve_inj, hta.parts_resolve ht, htb.parts_resolve ht] at hpq
    -- one of the two arguments leads to the location of the other or below it
    rcases List.append_eq_append_iff.mp hpq with ⟨m, hm, rfl⟩ | ⟨m, hm, rfl⟩
    · rw [hspelled a ha b hb m g hm hta htb, Path.below_below]
    · rw [hspelled b hb a ha m f hm htb hta, Path.below_below]

/-- A source in a directory. -/
def sourceInDirectory : FileTree :=
  ⟨["work"], [(["work", "x", "sub", "a.cs"], .file "class A { }".toUTF8)]⟩

/-- A directory and the one inside it are spelled alike, apart from a dot, and take the same source: it is listed once. -/
theorem resolve_inj_discover_iff_dots :
    (sourceInDirectory.IsTree ∧ sourceInDirectory.discover ["x", "./x/sub"] [] = .ok [⟨.relative, ["x", "sub", "a.cs"]⟩]) ∧
      (sourceInDirectory.locationOf "./x/sub" = sourceInDirectory.locationOf "x" ++ ["sub"] ∧
        sourceInDirectory.Takes "x" (["sub"] ++ ["a.cs"]) ∧ sourceInDirectory.Takes "./x/sub" ["a.cs"]) ∧
      Path.ofString "./x/sub" = (Path.ofString "x").below ["sub"] := by
  have ht : sourceInDirectory.IsTree := by decide
  have hsorted : sourceInDirectory.discover ["x", "./x/sub"] [] =
      .ok [[⟨.relative, ["x", "sub", "a.cs"]⟩].mergeSort Path.before,
        [⟨.relative, ["x", "sub", "a.cs"]⟩].mergeSort Path.before].flatten.eraseDups := rfl
  have h : sourceInDirectory.discover ["x", "./x/sub"] [] = .ok [⟨.relative, ["x", "sub", "a.cs"]⟩] := by
    rw [hsorted, List.mergeSort_singleton]
    rfl
  have houter : sourceInDirectory.Takes "x" (["sub"] ++ ["a.cs"]) :=
    .source (by decide) (by decide) (by decide) (by simp [AvoidsOutput])
  have hinner : sourceInDirectory.Takes "./x/sub" ([] ++ ["a.cs"]) :=
    .source (by decide) (by decide) (by decide) (by simp [AvoidsOutput])
  have hlocation : sourceInDirectory.locationOf "./x/sub" = sourceInDirectory.locationOf "x" ++ ["sub"] := by decide
  refine ⟨⟨ht, h⟩, ⟨hlocation, houter, hinner⟩, ?_⟩
  refine (resolve_inj_discover_iff ht h).mp ?_ "x" (by simp) "./x/sub" (by simp) ["sub"] ["a.cs"] hlocation houter hinner
  simp

/-- A source beside an empty directory. -/
def sourceBesideDirectory : FileTree :=
  ⟨["work"], [(["work", "a.cs"], .file "class A { }".toUTF8), (["work", "x"], .directory)]⟩

/-- A source that is spelled in two ways is listed twice, and its type is then ambiguous.  Two slashes in front of a path
are another spelling too. -/
theorem discover_two_spellings :
    sourceBesideDirectory.IsTree ∧
      sourceBesideDirectory.discover ["a.cs", "x/../a.cs"] [] =
        .ok [⟨.relative, ["a.cs"]⟩, ⟨.relative, ["x", "..", "a.cs"]⟩] ∧
      sourceBesideDirectory.resolve ⟨.relative, ["a.cs"]⟩ = sourceBesideDirectory.resolve ⟨.relative, ["x", "..", "a.cs"]⟩ ∧
      (sourceBesideDirectory.load Reader.read ["a.cs", "x/../a.cs"] (some "App") []).events =
        [.duplicateDeclarations "A", .loaded 2 2 "App"] ∧
      sourceBesideDirectory.discover ["/work/a.cs", "//work/a.cs"] [] =
        .ok [⟨.slash, ["work", "a.cs"]⟩, ⟨.slashes, ["work", "a.cs"]⟩] ∧
      sourceBesideDirectory.resolve ⟨.slash, ["work", "a.cs"]⟩ =
        sourceBesideDirectory.resolve ⟨.slashes, ["work", "a.cs"]⟩ := by
  refine ⟨by decide, by decide +kernel, by decide, by decide +kernel, by decide +kernel, by decide⟩

end FileTree

end Rollcall
