import Mathlib.Data.List.Induction
import Rollcall.Loading
import Rollcall.Proofs.Binding
import Rollcall.Proofs.Sources
import Rollcall.Syntax.Reader

/-!
# Sources of projects

A directory that holds a project file is a project, and loading all projects below a directory deals out the sources
among them: each goes to the innermost project around it.

* The projects are listed in the order of their directories, each once (`projects_eq_ok`).
* A project takes the sources below it that no project inside it takes (`isProgramOf_load`).
* Together every source is loaded once, by the innermost project around it (`loadProjects_isPartition`).  An entry that
  is itself a project is no source, even if it is named like one.
-/

namespace Rollcall

/-! ### Trials -/

namespace Trial

instance : LawfulMonad Trial := by
  refine .mk' Trial ?_ ?_ ?_
  · rintro α ⟨events, result⟩
    cases result <;> simp [Functor.map, andThen]
  · intro α β a f
    simp [bind, pure, andThen]
  · rintro α β γ ⟨events, result⟩ f g
    cases result with
    | error e => simp [bind, andThen]
    | ok a =>
      simp only [bind, andThen]
      cases (f a).result <;> simp

theorem result_bind {α β : Type} (x : Trial α) (f : α → Trial β) :
    (x >>= f).result = x.result >>= fun a => (f a).result := by
  obtain ⟨events, result⟩ := x
  cases result <;> rfl

theorem result_mapM {α β : Type} (f : α → Trial β) (l : List α) :
    (l.mapM f).result = l.mapM fun a => (f a).result := by
  induction l with
  | nil => rfl
  | cons a l ih =>
    rw [List.mapM_cons, List.mapM_cons, result_bind]
    congr 1
    funext b
    rw [result_bind, ih]
    rfl

end Trial

/-! ### Order of paths -/

namespace Path

private theorem before_iff {p q : Path} : p.before q = true ↔ ¬ q.parts < p.parts := by
  simp [before]

theorem pairwise_mergeSort_before (l : List Path) :
    (l.mergeSort before).Pairwise fun p q => ¬ q.parts < p.parts := by
  refine (List.pairwise_mergeSort ?_ ?_ l).imp before_iff.mp
  · intro a b c hab hbc
    rw [before_iff, List.not_lt] at *
    exact List.le_trans hab hbc
  · intro a b
    rw [Bool.or_eq_true, before_iff, before_iff, List.not_lt, List.not_lt]
    exact List.le_total _ _

/-- The order of paths below a directory is that of the relative locations. -/
theorem lt_of_below_not_lt {p : Path} {d e : List String} (h : ¬ (p.below e).parts < (p.below d).parts)
    (hne : d ≠ e) : d < e := by
  have hle : ¬ e < d := fun hlt => h (List.append_left_lt hlt)
  by_cases hlt : d < e
  · exact hlt
  · exact absurd (List.le_antisymm (List.not_lt.mp hle) (List.not_lt.mp hlt)) hne

end Path

namespace FileTree

variable {t : FileTree}

/-! ### Projects -/

/-- Whether the relative location `d` below `top` is that of a project: no build output, with a project file in it. -/
structure IsProject (t : FileTree) (top d : List String) : Prop where
  avoids : AvoidsOutput d
  holds : t.HoldsEnding (top ++ d) ".csproj"

private theorem isProject_iff {top d : List String} :
    t.IsProject top d ↔ ∃ name, d ++ [name] ∈ t.matching top projectEnding := by
  constructor
  · rintro ⟨ha, name, hs, he⟩
    exact ⟨name, mem_matching_concat.mpr ⟨hs, he, ha⟩⟩
  · rintro ⟨name, h⟩
    obtain ⟨hs, he, ha⟩ := mem_matching_concat.mp h
    exact ⟨ha, name, hs, he⟩

/-- The directories of the project files below `top` are the projects. -/
private theorem mem_map_parent_matching {top : List String} {root p : Path} :
    p ∈ ((t.matching top projectEnding).map fun f => (root.below f).parent) ↔
      ∃ d, root.below d = p ∧ t.IsProject top d := by
  have hparent : ∀ d name, (root.below (d ++ [name])).parent = root.below d := by
    intro d name
    simp [Path.parent, Path.below, ← List.append_assoc]
  rw [List.mem_map]
  constructor
  · rintro ⟨f, hf, rfl⟩
    obtain ⟨d, name, rfl⟩ := exists_concat_of_mem_matching hf
    exact ⟨d, (hparent d name).symm, isProject_iff.mpr ⟨name, hf⟩⟩
  · rintro ⟨d, rfl, hd⟩
    obtain ⟨name, hf⟩ := isProject_iff.mp hd
    exact ⟨_, hf, hparent d name⟩

/-- The projects below a directory, by the relative locations of their directories. -/
theorem projects_eq_ok {directory : String} {paths : List Path} (h : t.projects directory = .ok paths) :
    ∃ top, ∃ projects : List (List String), t.locate (Path.ofString directory) = .found top ∧
      t.isDirectory top = true ∧ paths = projects.map (Path.ofString directory).below ∧
      (∀ d, d ∈ projects ↔ t.IsProject top d) ∧ projects.Pairwise (· < ·) := by
  obtain ⟨found, hfound, h⟩ := bind_eq_ok_iff.mp h
  split at h
  · cases h
  · next top htop =>
    obtain ⟨rfl, hdir⟩ := Option.filter_eq_some_iff.mp htop
    obtain ⟨_, -, h⟩ := bind_eq_ok_iff.mp h
    have hpaths := (Except.ok.inj h).symm
    have hmem : ∀ p, p ∈ paths ↔ ∃ d, (Path.ofString directory).below d = p ∧ t.IsProject top d := by
      intro p
      rw [hpaths, (List.mergeSort_perm _ _).mem_iff, List.mem_eraseDups, mem_map_parent_matching]
    have hnodup : paths.Nodup := by
      rw [hpaths, (List.mergeSort_perm _ _).nodup_iff]
      exact nodup_eraseDups _
    have hsorted : paths.Pairwise fun p q => ¬ q.parts < p.parts := by
      rw [hpaths]
      exact Path.pairwise_mergeSort_before _
    obtain ⟨projects, rfl⟩ := exists_map_eq fun p hp => ((hmem p).mp hp).imp fun d hd => hd.1
    refine ⟨top, projects, locate_of_locate? hfound, hdir, rfl, ?_, ?_⟩
    · intro d
      have hd := hmem ((Path.ofString directory).below d)
      simpa only [List.mem_map, Path.below_inj, exists_eq_right, exists_eq_left] using hd
    · rw [List.pairwise_map] at hsorted
      have hne := List.pairwise_map.mp hnodup
      exact (hsorted.and hne).imp fun ⟨hle, hne⟩ => Path.lt_of_below_not_lt hle fun h => hne (by rw [h])

/-! ### Sources of a project -/

/-- Whether a project is the innermost one around the entries of the directory at `d`. -/
structure IsInnermost (t : FileTree) (top project d : List String) : Prop where
  around : project <+: d
  holds : t.HoldsEnding (top ++ project) ".csproj"
  innermost : ∀ e, e <+: d → t.HoldsEnding (top ++ e) ".csproj" → e <+: project

/-- Whether `name` in the directory at `d` is an entry named like a source, outside of build output. -/
structure IsCandidate (t : FileTree) (top d : List String) (name : String) : Prop where
  stands : t.Holds (top ++ d ++ [name])
  ending : ".cs".toList <:+ name.toList
  avoids : AvoidsOutput d

/-- Whether a candidate is a source of the project around it.  A candidate that is itself a project is none. -/
structure IsSourceOf (t : FileTree) (top project d : List String) (name : String) : Prop where
  isCandidate : t.IsCandidate top d name
  isInnermost : t.IsInnermost top project d
  isNoProject : ¬ t.HoldsEnding (top ++ d ++ [name]) ".csproj"

private theorem exists_isInnermost {top d e : List String} (hd : e <+: d) (he : t.HoldsEnding (top ++ e) ".csproj") :
    ∃ project, t.IsInnermost top project d := by
  induction d using List.reverseRecOn with
  | nil =>
    obtain rfl := List.prefix_nil.mp hd
    exact ⟨[], List.prefix_rfl, he, fun e he _ => he⟩
  | append_singleton d c ih =>
    by_cases hlast : t.HoldsEnding (top ++ (d ++ [c])) ".csproj"
    · exact ⟨d ++ [c], List.prefix_rfl, hlast, fun e he _ => he⟩
    · -- then every project around `d ++ [c]` is one around `d`
      have hup : ∀ e, e <+: d ++ [c] → t.HoldsEnding (top ++ e) ".csproj" → e <+: d := by
        intro e hed hh
        rcases List.prefix_concat_iff.mp hed with rfl | hed
        · exact absurd hh hlast
        · exact hed
      obtain ⟨project, hp⟩ := ih (hup e hd he)
      refine ⟨project, hp.around.trans (List.prefix_append d [c]), hp.holds, ?_⟩
      exact fun e hed hh => hp.innermost e (hup e hed hh) hh

theorem IsInnermost.unique {top d project project' : List String} (h : t.IsInnermost top project d)
    (h' : t.IsInnermost top project' d) : project = project' :=
  List.IsPrefix.eq_of_length_le (h'.innermost project h.around h.holds)
    (h.innermost project' h'.around h'.holds).length_le

theorem AvoidsOutput.of_prefix {d e : List String} (h : AvoidsOutput d) (he : e <+: d) : AvoidsOutput e :=
  fun c hc => h c (he.subset hc)

theorem AvoidsOutput.concat {d : List String} {name : String} (h : AvoidsOutput d)
    (hname : ".cs".toList <:+ name.toList) : AvoidsOutput (d ++ [name]) := by
  intro c hc
  rcases List.mem_append.mp hc with hc | hc
  · exact h c hc
  · rw [List.mem_singleton.mp hc]
    constructor <;> rintro rfl <;> revert hname <;> decide

/-- A candidate below a project belongs to it exactly when no project inside it is around the candidate. -/
private theorem isSourceOf_iff {top project d : List String} {name : String} (hp : t.IsProject top project)
    (hc : t.IsCandidate top d name) (hd : project <+: d) :
    t.IsSourceOf top project d name ↔
      ∀ e, t.IsProject top e → e ≠ project → project <+: e → ¬ e <+: d ++ [name] := by
  constructor
  · intro hs e he hne hpe hed
    rcases List.prefix_concat_iff.mp hed with rfl | hed
    · exact hs.isNoProject (by simpa using he.holds)
    · have hep := hs.isInnermost.innermost e hed he.holds
      exact hne (hep.eq_of_length_le hpe.length_le)
  · intro h
    refine ⟨hc, ⟨hd, hp.holds, ?_⟩, ?_⟩
    · intro e hed hh
      rcases List.prefix_or_prefix_of_prefix hed hd with hep | hpe
      · exact hep
      · by_cases hne : e = project
        · exact hne ▸ List.prefix_rfl
        · have he : t.IsProject top e := ⟨hc.avoids.of_prefix hed, hh⟩
          exact absurd (hed.trans (List.prefix_append d [name])) (h e he hne hpe)
    · intro hh
      have he : t.IsProject top (d ++ [name]) := ⟨hc.avoids.concat hc.ending, by simpa using hh⟩
      refine h _ he ?_ (hd.trans (List.prefix_append d [name])) List.prefix_rfl
      rintro rfl
      have := hd.length_le
      rw [List.length_append, List.length_singleton] at this
      omega

/-! ### Loading projects -/

/-- What it takes to load a program without a given name. -/
private theorem load_eq_ok_iff {parser : Source → Node} {arguments : List String} {exclude : List Path}
    {program : LoadedProgram} :
    (t.load parser arguments none exclude).result = .ok program ↔
      t.discover arguments exclude = .ok program.files ∧
        ∃ name parsed, t.assemblyName arguments = .ok name ∧
          (program.files.mapM (t.parse parser)).result = .ok parsed ∧
          program.program = (Program.ofFiles name parsed).1 := by
  simp only [load, Trial.result_bind, bind_eq_ok_iff]
  constructor
  · rintro ⟨files, hfiles, name, hname, parsed, hparsed, -, -, hpure⟩
    cases hpure
    exact ⟨hfiles, name, parsed, hname, hparsed, rfl⟩
  · rintro ⟨hfiles, name, parsed, hname, hparsed, hprogram⟩
    refine ⟨_, hfiles, name, hname, parsed, hparsed, (), rfl, ?_⟩
    rw [← hprogram]
    rfl

theorem IsProject.isName (ht : t.IsTree) {top project : List String} (hp : t.IsProject top project) :
    ∀ c ∈ project, Path.IsName c := by
  obtain ⟨name, hstands, -⟩ := hp.holds
  exact fun c hc => ht.isName hstands c (by simp [hc])

/-- Whether a program is that of a project below `root`: it has the name of the project, and the sources of which the
project is the innermost one, each once. -/
structure IsProgramOf (t : FileTree) (root : Path) (top project : List String) (program : LoadedProgram) : Prop where
  name : t.assemblyName [(root.below project).render] = .ok program.program.assembly
  nodup : program.files.Nodup
  mem_files : ∀ p, p ∈ program.files ↔ ∃ d name, p = root.below (d ++ [name]) ∧ t.IsSourceOf top project d name

section

variable {directory : String} {top project : List String} {projects : List (List String)}

/-- Where the path of a project leads to. -/
theorem locationOf_project (ht : t.IsTree) (htop : t.locate (Path.ofString directory) = .found top)
    (hp : t.IsProject top project) :
    Path.ofString ((Path.ofString directory).below project).render = (Path.ofString directory).below project ∧
      t.locationOf ((Path.ofString directory).below project).render = top ++ project := by
  have hnames := hp.isName ht
  have hread : Path.ofString ((Path.ofString directory).below project).render =
      (Path.ofString directory).below project := by
    apply Path.ofString_render
    intro c hc
    rcases List.mem_append.mp hc with hc | hc
    · exact Path.isComponent_of_mem_parts hc
    · exact (hnames c hc).1
  refine ⟨hread, ?_⟩
  unfold locationOf
  rw [hread, parts_resolve_below t _ fun c hc => (hnames c hc).2, parts_resolve_of_locate htop]

/-- What is excluded from a project: that which lies in another project inside it. -/
private theorem not_isUnder_nested_iff (ht : t.IsTree) (hprojects : ∀ d, d ∈ projects ↔ t.IsProject top d)
    {f : List String} (hf : ∀ c ∈ f, c ≠ "..") :
    (∀ q ∈ (nestedIn ((Path.ofString directory).below project)
        (projects.map (Path.ofString directory).below)).map t.resolve,
          (t.resolve ((Path.ofString directory).below f)).isUnder q = false) ↔
      ∀ e, t.IsProject top e → e ≠ project → project <+: e → ¬ e <+: f := by
  have hunder : ∀ e, t.IsProject top e →
      ((t.resolve ((Path.ofString directory).below f)).isUnder (t.resolve ((Path.ofString directory).below e)) =
        true ↔ e <+: f) := by
    intro e he
    rw [isUnder_resolve, parts_resolve_below t _ hf, parts_resolve_below t _ fun c hc => (he.isName ht c hc).2]
    exact List.prefix_append_right_inj _
  have hnested : ∀ e, (Path.ofString directory).below e ∈ nestedIn ((Path.ofString directory).below project)
      (projects.map (Path.ofString directory).below) ↔ t.IsProject top e ∧ e ≠ project ∧ project <+: e := by
    intro e
    simp [nestedIn, hprojects, Path.isUnder, Path.below, List.isPrefixOf_iff_prefix,
      List.prefix_append_right_inj]
  constructor
  · intro h e he hne hpe hef
    have := h _ (List.mem_map_of_mem ((hnested e).mpr ⟨he, hne, hpe⟩))
    rw [(hunder e he).mpr hef] at this
    exact absurd this (by simp)
  · intro h q hq
    obtain ⟨r, hr, rfl⟩ := List.mem_map.mp hq
    obtain ⟨e, -, rfl⟩ := List.mem_map.mp (List.mem_filter.mp hr).1
    obtain ⟨he, hne, hpe⟩ := (hnested e).mp hr
    rw [← Bool.not_eq_true, hunder e he]
    exact h e he hne hpe

/-- The sources of a project, without those of the projects inside it. -/
theorem mem_discover_project (ht : t.IsTree) (htop : t.locate (Path.ofString directory) = .found top)
    (hprojects : ∀ d, d ∈ projects ↔ t.IsProject top d) (hp : t.IsProject top project) {files : List Path}
    (h : t.discover [((Path.ofString directory).below project).render]
      (nestedIn ((Path.ofString directory).below project) (projects.map (Path.ofString directory).below)) = .ok files)
    {p : Path} :
    p ∈ files ↔ ∃ d name, p = (Path.ofString directory).below (d ++ [name]) ∧ t.IsSourceOf top project d name := by
  obtain ⟨hread, hlocation⟩ := locationOf_project ht htop hp
  obtain ⟨inside, hinside, -⟩ := hp.holds
  have hdirectory : t.isDirectory (top ++ project) = true := ht.isDirectory hinside
  -- the one argument is a directory, so its sources are those below it
  obtain ⟨sources, hsources, hfiles⟩ := discover_eq_ok h
  obtain ⟨s, _, hs, hnil, rfl⟩ := List.forall₂_cons_left_iff.mp hsources
  obtain rfl := List.forall₂_nil_left_iff.mp hnil
  have hs := sourcesOf_eq_ok hs
  rw [hlocation, if_pos hdirectory, hread] at hs
  rw [List.flatten_singleton] at hfiles
  rw [hfiles, List.mem_eraseDups, hs, mem_sourcesBelow]
  have hnames : ∀ {d name}, t.Holds (top ++ d ++ [name]) → ∀ c ∈ d ++ [name], c ≠ ".." := by
    intro d name hstands c hc
    rw [List.append_assoc] at hstands
    exact (ht.isName hstands c (List.mem_append_right _ hc)).2
  constructor
  · rintro ⟨f, hf, rfl, hout⟩
    obtain ⟨d, name, rfl⟩ := exists_concat_of_mem_matching hf
    obtain ⟨hstands, hending, havoids⟩ := mem_matching_concat.mp hf
    have hc : t.IsCandidate top (project ++ d) name := by
      refine ⟨by simpa using hstands, hending, fun c hc => ?_⟩
      rcases List.mem_append.mp hc with hc | hc
      · exact hp.avoids c hc
      · exact havoids c hc
    rw [Path.below_below, ← List.append_assoc] at hout ⊢
    refine ⟨project ++ d, name, rfl, (isSourceOf_iff hp hc (List.prefix_append project d)).mpr ?_⟩
    exact (not_isUnder_nested_iff ht hprojects (hnames hc.stands)).mp hout
  · rintro ⟨d, name, rfl, hsource⟩
    obtain ⟨rest, rfl⟩ := hsource.isInnermost.around
    have hc := hsource.isCandidate
    refine ⟨rest ++ [name], mem_matching_concat.mpr ⟨by simpa using hc.stands, hc.ending, ?_⟩, ?_, ?_⟩
    · exact fun c hm => hc.avoids c (List.mem_append_right _ hm)
    · rw [Path.below_below, ← List.append_assoc]
    · rw [Path.below_below, ← List.append_assoc]
      exact (not_isUnder_nested_iff ht hprojects (hnames hc.stands)).mpr
        ((isSourceOf_iff hp hc (List.prefix_append project rest)).mp hsource)

/-- Loading a project without the projects inside it gives the program of the project. -/
theorem isProgramOf_load (ht : t.IsTree) {parser : Source → Node} {program : LoadedProgram}
    (htop : t.locate (Path.ofString directory) = .found top) (hprojects : ∀ d, d ∈ projects ↔ t.IsProject top d)
    (hp : t.IsProject top project)
    (h : (t.load parser [((Path.ofString directory).below project).render] none
      (nestedIn ((Path.ofString directory).below project) (projects.map (Path.ofString directory).below))).result =
        .ok program) :
    t.IsProgramOf (Path.ofString directory) top project program := by
  obtain ⟨hdiscover, name, parsed, hname, -, hprogram⟩ := load_eq_ok_iff.mp h
  obtain ⟨sources, -, hfiles⟩ := discover_eq_ok hdiscover
  have hassembly : program.program.assembly = name := by
    rw [hprogram]
    refine (Program.assembly_bind _ _).trans ?_
    unfold Program.withFramework
    split <;> rfl
  refine ⟨by rw [hassembly, hname], hfiles ▸ nodup_eraseDups _, fun p => ?_⟩
  exact mem_discover_project ht htop hprojects hp hdiscover

end

/-- How the sources below `root`, which stands at `top`, are dealt out among programs. -/
structure IsPartition (t : FileTree) (root : Path) (top : List String) (projects : List (List String))
    (programs : List LoadedProgram) : Prop where
  /-- The projects are the directories that hold a project file and are no build output. -/
  mem_projects : ∀ d, d ∈ projects ↔ t.IsProject top d
  /-- They come in the order of their locations, so that none comes twice. -/
  ordered : projects.Pairwise (· < ·)
  /-- A project comes before those inside it. -/
  outer_first : projects.Pairwise fun d e => ¬ e <+: d
  /-- There is one program for each project. -/
  isProgramOf : List.Forall₂ (t.IsProgramOf root top) projects programs
  /-- An entry named like a source that has a project around it, and is not itself one, is in exactly one program. -/
  once : ∀ d name, t.IsCandidate top d name → (∃ e, e <+: d ∧ t.HoldsEnding (top ++ e) ".csproj") →
    ¬ t.HoldsEnding (top ++ d ++ [name]) ".csproj" →
      ∃! i : Nat, ∃ program : LoadedProgram, programs[i]? = some program ∧ root.below (d ++ [name]) ∈ program.files

private theorem IsProgramOf.mem_files_iff {root : Path} {top project d : List String} {name : String}
    {program : LoadedProgram} (h : t.IsProgramOf root top project program) :
    root.below (d ++ [name]) ∈ program.files ↔ t.IsSourceOf top project d name := by
  rw [h.mem_files]
  constructor
  · rintro ⟨d', name', heq, hs⟩
    obtain ⟨rfl, hname⟩ := List.append_inj' (Path.below_inj.mp heq) rfl
    rwa [List.singleton_inj.mp hname]
  · exact fun hs => ⟨d, name, rfl, hs⟩

/-- A source is in the program of the innermost project around it and in no other. -/
private theorem existsUnique_program {root : Path} {top d : List String} {name : String} {projects : List (List String)}
    {programs : List LoadedProgram} (hmem : ∀ d, d ∈ projects ↔ t.IsProject top d) (hnodup : projects.Nodup)
    (hfiles : List.Forall₂ (t.IsProgramOf root top) projects programs) (hc : t.IsCandidate top d name)
    (he : ∃ e, e <+: d ∧ t.HoldsEnding (top ++ e) ".csproj")
    (hn : ¬ t.HoldsEnding (top ++ d ++ [name]) ".csproj") :
    ∃! i : Nat, ∃ program : LoadedProgram, programs[i]? = some program ∧
      root.below (d ++ [name]) ∈ program.files := by
  obtain ⟨e, hed, he⟩ := he
  obtain ⟨project, hproject⟩ := exists_isInnermost hed he
  have hp : t.IsProject top project := ⟨hc.avoids.of_prefix hproject.around, hproject.holds⟩
  obtain ⟨i, hi⟩ := List.getElem?_of_mem ((hmem project).mpr hp)
  obtain ⟨program, hprogram, hsources⟩ := exists_right_of_forall₂ hfiles hi
  refine ⟨i, ⟨program, hprogram, hsources.mem_files_iff.mpr ⟨hc, hproject, hn⟩⟩, ?_⟩
  rintro j ⟨program', hprogram', hfile⟩
  obtain ⟨project', hj, hsources'⟩ := exists_left_of_forall₂ hfiles hprogram'
  have hsame := (hsources'.mem_files_iff.mp hfile).isInnermost.unique hproject
  rw [hsame, ← hi] at hj
  have hlt := (List.getElem?_eq_some_iff.mp hi).1
  exact ((List.getElem?_inj hlt hnodup).mp hj.symm).symm

/-- Loading all projects below a directory deals out its sources among the projects. -/
theorem loadProjects_isPartition (ht : t.IsTree) {parser : Source → Node} {directory : String}
    {programs : List LoadedProgram} (h : (t.loadProjects parser directory).result = .ok programs) :
    ∃ top projects, t.locate (Path.ofString directory) = .found top ∧ t.isDirectory top = true ∧
      t.IsPartition (Path.ofString directory) top projects programs := by
  unfold loadProjects at h
  rw [Trial.result_bind] at h
  obtain ⟨paths, hpaths, h⟩ := bind_eq_ok_iff.mp h
  obtain ⟨top, projects, htop, hdir, rfl, hmem, hordered⟩ := projects_eq_ok hpaths
  rw [Trial.result_mapM] at h
  have hloads := List.forall₂_map_left_iff.mp (forall₂_of_mapM h)
  have hloads := (List.forall₂_and_left projects programs).mpr ⟨fun d hd => (hmem d).mp hd, hloads⟩
  have hfiles : List.Forall₂ (t.IsProgramOf (Path.ofString directory) top) projects programs :=
    hloads.imp fun project program ⟨hp, hload⟩ => isProgramOf_load ht htop hmem hp hload
  have houter : projects.Pairwise fun d e => ¬ e <+: d := by
    apply hordered.imp
    intro d e hlt hpre
    exact List.not_lt.mpr hpre.le hlt
  have hnodup : projects.Nodup := by
    apply houter.imp
    rintro d e hpre rfl
    exact hpre List.prefix_rfl
  refine ⟨top, projects, htop, hdir, hmem, hordered, houter, hfiles, ?_⟩
  exact fun d name => existsUnique_program hmem hnodup hfiles

/-! ### A project inside another -/

/-- A project with another one inside it, in a directory that is named like a source. -/
def nestedProjects : FileTree :=
  ⟨["work"], [(["work", "App.csproj"], .file ⟨#[]⟩), (["work", "Main.cs"], .file ⟨#[]⟩),
    (["work", "Lib.cs", "Lib.csproj"], .file ⟨#[]⟩), (["work", "Lib.cs", "A.cs"], .file ⟨#[]⟩)]⟩

private theorem projects_nestedProjects :
    nestedProjects.projects "." = .ok [⟨.relative, []⟩, ⟨.relative, ["Lib.cs"]⟩] := by
  have h : nestedProjects.projects "." = .ok ([⟨.relative, []⟩, ⟨.relative, ["Lib.cs"]⟩].mergeSort Path.before) := rfl
  rw [h, List.mergeSort_of_pairwise (by decide +kernel)]

private theorem discover_nestedProjects :
    nestedProjects.discover ["."] [⟨.relative, ["Lib.cs"]⟩] = .ok [⟨.relative, ["Main.cs"]⟩] ∧
      nestedProjects.discover ["Lib.cs"] [] = .ok [⟨.relative, ["Lib.cs", "A.cs"]⟩] := by
  have houter : nestedProjects.discover ["."] [⟨.relative, ["Lib.cs"]⟩] =
      .ok [[⟨.relative, ["Main.cs"]⟩].mergeSort Path.before].flatten.eraseDups := rfl
  have hinner : nestedProjects.discover ["Lib.cs"] [] =
      .ok [[⟨.relative, ["Lib.cs", "A.cs"]⟩].mergeSort Path.before].flatten.eraseDups := rfl
  rw [houter, hinner, List.mergeSort_singleton, List.mergeSort_singleton]
  exact ⟨rfl, rfl⟩

/-- A project file without a name for the assembly gives its own. -/
private theorem assemblyName_of_projectFiles {argument : String} {path project : Path} {location : List String}
    {projects : List Path} {bytes : ByteArray} (hpath : t.resolve? (Path.ofString argument) = .ok path)
    (hlocation : t.locate? path = .ok (some location)) (hdir : t.isDirectory location = true)
    (hprojects : t.projectFiles path = project :: projects) (hread : t.read project = .ok bytes)
    (htag : assemblyTag? (Text.decode bytes.data.toList) = none) :
    t.assemblyName [argument] = .ok project.stem := by
  simp only [assemblyName, hpath, hlocation, hdir, bind, Except.bind, Option.map_some, Option.getD_some, if_true,
    hprojects, hread, htag, pure, Except.pure]

private theorem assemblyName_nestedProjects :
    nestedProjects.assemblyName ["."] = .ok "App" ∧ nestedProjects.assemblyName ["Lib.cs"] = .ok "Lib" := by
  have houter : nestedProjects.projectFiles ⟨.slash, ["work"]⟩ =
      [⟨.slash, ["work", "App.csproj"]⟩].mergeSort Path.before := rfl
  have hinner : nestedProjects.projectFiles ⟨.slash, ["work", "Lib.cs"]⟩ =
      [⟨.slash, ["work", "Lib.cs", "Lib.csproj"]⟩].mergeSort Path.before := rfl
  rw [List.mergeSort_singleton] at houter hinner
  have htag : assemblyTag? (Text.decode []) = none := by decide +kernel
  exact ⟨assemblyName_of_projectFiles rfl rfl rfl houter rfl htag,
    assemblyName_of_projectFiles rfl rfl rfl hinner rfl htag⟩

private theorem loadProjects_nestedProjects :
    ∃ programs, (nestedProjects.loadProjects Reader.read ".").result = .ok programs ∧
      programs.map (·.files) = [[⟨.relative, ["Main.cs"]⟩], [⟨.relative, ["Lib.cs", "A.cs"]⟩]] := by
  obtain ⟨houter, hinner⟩ := discover_nestedProjects
  obtain ⟨happ, hlib⟩ := assemblyName_nestedProjects
  obtain ⟨parsed, hparsed⟩ : ∃ parsed, ([⟨.relative, ["Main.cs"]⟩].mapM
      (nestedProjects.parse Reader.read)).result = .ok parsed := ⟨_, rfl⟩
  obtain ⟨parsed', hparsed'⟩ : ∃ parsed, ([⟨.relative, ["Lib.cs", "A.cs"]⟩].mapM
      (nestedProjects.parse Reader.read)).result = .ok parsed := ⟨_, rfl⟩
  have hfirst : (nestedProjects.load Reader.read ["."] none [⟨.relative, ["Lib.cs"]⟩]).result =
      .ok ⟨_, (Program.ofFiles "App" parsed).1⟩ := load_eq_ok_iff.mpr ⟨houter, _, _, happ, hparsed, rfl⟩
  have hsecond : (nestedProjects.load Reader.read ["Lib.cs"] none []).result =
      .ok ⟨_, (Program.ofFiles "Lib" parsed').1⟩ := load_eq_ok_iff.mpr ⟨hinner, _, _, hlib, hparsed', rfl⟩
  refine ⟨[⟨_, (Program.ofFiles "App" parsed).1⟩, ⟨_, (Program.ofFiles "Lib" parsed').1⟩], ?_, rfl⟩
  unfold loadProjects
  rw [Trial.result_bind]
  refine bind_eq_ok_iff.mpr ⟨_, projects_nestedProjects, ?_⟩
  rw [Trial.result_mapM, List.mapM_cons, List.mapM_cons]
  exact bind_eq_ok_iff.mpr ⟨_, hfirst, bind_eq_ok_iff.mpr ⟨_, bind_eq_ok_iff.mpr ⟨_, hsecond, rfl⟩, rfl⟩⟩

/-- The two programs of nested projects: a source of the inner project is not in the outer one. -/
theorem loadProjects_isPartition_nested :
    nestedProjects.IsTree ∧ ∃ programs, (nestedProjects.loadProjects Reader.read ".").result = .ok programs ∧
      programs.map (·.files) = [[⟨.relative, ["Main.cs"]⟩], [⟨.relative, ["Lib.cs", "A.cs"]⟩]] ∧
      ∃ projects, nestedProjects.IsPartition (Path.ofString ".") ["work"] projects programs := by
  have ht : nestedProjects.IsTree := by decide
  obtain ⟨programs, h, hfiles⟩ := loadProjects_nestedProjects
  obtain ⟨top, projects, htop, -, hpartition⟩ := loadProjects_isPartition ht h
  have hwork : nestedProjects.locate (Path.ofString ".") = .found ["work"] := by decide +kernel
  cases hwork.symm.trans htop
  exact ⟨ht, programs, h, hfiles, projects, hpartition⟩

/-- The inner project is an entry named like a source with a project around it, and still in no program. -/
theorem project_named_like_source_in_no_program :
    nestedProjects.IsTree ∧ nestedProjects.IsCandidate ["work"] [] "Lib.cs" ∧
      nestedProjects.HoldsEnding ["work"] ".csproj" ∧
      ∃ programs, (nestedProjects.loadProjects Reader.read ".").result = .ok programs ∧
        ∀ program ∈ programs, (Path.ofString ".").below ["Lib.cs"] ∉ program.files := by
  refine ⟨by decide, ⟨by decide, by decide, by simp [AvoidsOutput]⟩, ⟨"App.csproj", by decide, by decide⟩, ?_⟩
  obtain ⟨programs, h, hfiles⟩ := loadProjects_nestedProjects
  refine ⟨programs, h, fun program hprogram hmem => ?_⟩
  have hlisted : program.files ∈ programs.map (·.files) := List.mem_map_of_mem hprogram
  rw [hfiles] at hlisted
  simp only [List.mem_cons, List.not_mem_nil, or_false] at hlisted
  rcases hlisted with hf | hf <;> rw [hf] at hmem <;> revert hmem <;> decide +kernel

end FileTree

end Rollcall
