import Rollcall.Discovery
import Rollcall.Proofs.Lists

/-!
# Paths in file trees

What the path of an entry says about its location.

* Reading a path back from its text gives the path (`ofString_render`).
* A path that is found leads to the location that it resolves to (`parts_resolve_of_locate`), and names that are added
  to it are added to the location (`parts_resolve_below`).
* The search below a directory lists exactly the entries that stand there (`mem_allBelow`).

A file tree can be written down with entries that no file system holds.  `FileTree.IsTree` excludes them: the
components of locations are names, and whatever holds an entry is a directory.
-/

namespace Rollcall

/-! ### Pieces of a text -/

namespace Text

theorem pieces_cons_mark (mark : Char) (cs : List Char) : pieces mark (mark :: cs) = [] :: pieces mark cs := by
  rw [pieces]
  split
  · next h => exact absurd h (pieces_ne_nil mark cs)
  · next h => rw [h]; simp

theorem pieces_append {mark : Char} {a : List Char} (ha : mark ∉ a) (cs : List Char) :
    pieces mark (a ++ mark :: cs) = a :: pieces mark cs := by
  induction a with
  | nil => exact pieces_cons_mark mark cs
  | cons c a ih =>
    rw [List.mem_cons, not_or] at ha
    rw [List.cons_append, pieces, ih ha.2]
    simp [Ne.symm ha.1]

theorem pieces_of_not_mem {mark : Char} {a : List Char} (ha : mark ∉ a) : pieces mark a = [a] := by
  induction a with
  | nil => rfl
  | cons c a ih =>
    rw [List.mem_cons, not_or] at ha
    rw [pieces, ih ha.2]
    simp [Ne.symm ha.1]

private theorem not_mem_of_mem_pieces {mark : Char} {cs a : List Char} (ha : a ∈ pieces mark cs) : mark ∉ a := by
  induction cs generalizing a with
  | nil =>
    rw [pieces, List.mem_singleton] at ha
    simp [ha]
  | cons c cs ih =>
    rw [pieces] at ha
    split at ha
    · next h => exact absurd h (pieces_ne_nil mark cs)
    · next p ps h =>
      rw [h] at ih
      split at ha
      · rcases List.mem_cons.mp ha with rfl | ha
        · simp
        · exact ih ha
      · next hc =>
        rcases List.mem_cons.mp ha with rfl | ha
        · simp [Ne.symm hc, ih List.mem_cons_self]
        · exact ih (List.mem_cons_of_mem _ ha)

/-- Joined texts are taken apart again. -/
theorem pieces_intercalate {mark : Char} {ls : List (List Char)} (hne : ls ≠ []) (hls : ∀ a ∈ ls, mark ∉ a) :
    pieces mark ([mark].intercalate ls) = ls := by
  induction ls with
  | nil => exact absurd rfl hne
  | cons a ls ih =>
    have ha := hls a List.mem_cons_self
    cases ls with
    | nil => simpa using pieces_of_not_mem ha
    | cons b ls =>
      have htail := ih (by simp) fun x hx => hls x (List.mem_cons_of_mem _ hx)
      have hjoin : [mark].intercalate (a :: b :: ls) = a ++ mark :: [mark].intercalate (b :: ls) := by
        simp [List.intercalate, List.intersperse]
      rw [hjoin, pieces_append ha, htail]

end Text

/-! ### Paths as text -/

namespace Path

/-- Whether a text can be a component of a path. -/
def IsComponent (c : String) : Prop :=
  c ≠ "" ∧ c ≠ "." ∧ '/' ∉ c.toList

/-- Whether a text can be the name of an entry. -/
def IsName (c : String) : Prop :=
  IsComponent c ∧ c ≠ ".."

instance (c : String) : Decidable (IsComponent c) :=
  inferInstanceAs (Decidable (_ ∧ _ ∧ _))

instance (c : String) : Decidable (IsName c) :=
  inferInstanceAs (Decidable (_ ∧ _))

theorem isComponent_of_mem_parts {text c : String} (hc : c ∈ (ofString text).parts) : IsComponent c := by
  obtain ⟨hmem, hc⟩ := List.mem_filter.mp hc
  obtain ⟨a, ha, rfl⟩ := List.mem_map.mp hmem
  have hslash := Text.not_mem_of_mem_pieces ha
  simp only [Bool.and_eq_true, bne_iff_ne] at hc
  exact ⟨hc.1, hc.2, by simpa using hslash⟩

private theorem filter_components {parts : List String} (h : ∀ c ∈ parts, IsComponent c) :
    parts.filter (fun c => c != "" && c != ".") = parts := by
  rw [List.filter_eq_self]
  intro c hc
  simp [(h c hc).1, (h c hc).2.1]

/-- The components of joined components. -/
private theorem pieces_joined {parts : List String} (hne : parts ≠ []) (h : ∀ c ∈ parts, IsComponent c) :
    (Text.pieces '/' ("/".intercalate parts).toList).map String.ofList = parts := by
  have hslash : ∀ a ∈ parts.map String.toList, '/' ∉ a := by
    intro a ha
    obtain ⟨c, hc, rfl⟩ := List.mem_map.mp ha
    exact (h c hc).2.2
  rw [String.toList_intercalate]
  show (Text.pieces '/' (['/'].intercalate (parts.map String.toList))).map String.ofList = parts
  rw [Text.pieces_intercalate (by simpa using hne) hslash, List.map_map]
  simp [Function.comp_def]

/-- Joined components do not start with a slash. -/
private theorem takeWhile_joined {c : String} {parts : List String} (h : ∀ d ∈ c :: parts, IsComponent d) :
    ("/".intercalate (c :: parts)).toList.takeWhile (· == '/') = [] := by
  have hc := h c List.mem_cons_self
  rw [String.toList_intercalate, List.map_cons]
  cases hcs : c.toList with
  | nil => exact absurd (String.toList_eq_nil_iff.mp hcs) hc.1
  | cons a as =>
    have ha : a ≠ '/' := by
      intro ha
      exact hc.2.2 (by simp [hcs, ha])
    cases parts <;> simp [List.intercalate, ha]

/-- A path is read back from its text. -/
theorem ofString_render {p : Path} (h : ∀ c ∈ p.parts, IsComponent c) : ofString p.render = p := by
  obtain ⟨root, parts⟩ := p
  have hfilter := filter_components h
  cases parts with
  | nil => cases root <;> decide
  | cons c parts =>
    have hjoined := pieces_joined (List.cons_ne_nil c parts) h
    have hstart := takeWhile_joined h
    have htext : (render ⟨root, c :: parts⟩).toList = root.text.toList ++ ("/".intercalate (c :: parts)).toList := by
      simp [render]
    unfold ofString
    rw [htext]
    generalize ("/".intercalate (c :: parts)).toList = joined at hjoined hstart
    cases root <;> simp [Root.text, Root.ofCount, Text.pieces_cons_mark, hjoined, hstart, hfilter]

theorem ofString_of_isComponent {c : String} (h : IsComponent c) : ofString c = ⟨.relative, [c]⟩ := by
  have hrender : render ⟨.relative, [c]⟩ = c := by simp [render, Root.text]
  have := ofString_render (p := ⟨.relative, [c]⟩) (by simpa using h)
  rwa [hrender] at this

theorem below_inj {p : Path} {f g : List String} : p.below f = p.below g ↔ f = g := by
  simp [below]

theorem below_left_inj {p q : Path} {f : List String} : p.below f = q.below f ↔ p = q := by
  cases p
  cases q
  simp [below]

theorem below_below (p : Path) (f g : List String) : (p.below f).below g = p.below (f ++ g) := by
  simp [below]

end Path

/-! ### Locations -/

namespace FileTree

variable {t : FileTree}

/-- The locations with which a tree is written down. -/
def locations (t : FileTree) : List (List String) :=
  t.workingDirectory :: t.entries.map (·.1)

/-- Whether something stands at a location. -/
def Holds (t : FileTree) (location : List String) : Prop :=
  (t.entry? location).isSome = true

instance (t : FileTree) (location : List String) : Decidable (t.Holds location) :=
  inferInstanceAs (Decidable (_ = _))

/-- Whether a tree is one of a file system: locations are made of names, and what holds something is a directory. -/
structure IsTree (t : FileTree) : Prop where
  names : ∀ l ∈ t.locations, ∀ c ∈ l, Path.IsName c
  directories : ∀ l ∈ t.locations, ∀ n < l.length, t.isDirectory (l.take n) = true

instance (t : FileTree) : Decidable t.IsTree :=
  decidable_of_iff ((∀ l ∈ t.locations, ∀ c ∈ l, Path.IsName c) ∧
      ∀ l ∈ t.locations, ∀ n < l.length, t.isDirectory (l.take n) = true)
    ⟨fun ⟨hn, hd⟩ => ⟨hn, hd⟩, fun ⟨hn, hd⟩ => ⟨hn, hd⟩⟩

theorem holds_iff {l : List String} : t.Holds l ↔ ∃ k ∈ t.locations, l <+: k := by
  unfold Holds entry? locations
  simp only [List.mem_cons, List.mem_map]
  split
  · next e he =>
    have hmem := List.mem_of_find?_eq_some he
    have hl := List.find?_some he
    simp only [beq_iff_eq] at hl
    refine ⟨fun _ => ⟨e.1, .inr ⟨e, List.mem_reverse.mp hmem, rfl⟩, hl ▸ List.prefix_rfl⟩, fun _ => rfl⟩
  · split
    · next h =>
      simp only [Bool.or_eq_true, List.isPrefixOf_iff_prefix, List.any_eq_true] at h
      refine ⟨fun _ => ?_, fun _ => rfl⟩
      rcases h with h | ⟨e, he, h⟩
      · exact ⟨_, .inl rfl, h⟩
      · exact ⟨_, .inr ⟨e, he, rfl⟩, h⟩
    · next h =>
      simp only [Bool.or_eq_true, List.isPrefixOf_iff_prefix, List.any_eq_true, not_or, not_exists, not_and] at h
      refine ⟨fun hs => absurd hs (by simp), ?_⟩
      rintro ⟨k, rfl | ⟨e, he, rfl⟩, hk⟩
      · exact absurd hk h.1
      · exact absurd hk (h.2 e he)

theorem IsTree.isName (ht : t.IsTree) {l : List String} (h : t.Holds l) : ∀ c ∈ l, Path.IsName c := by
  obtain ⟨k, hk, hlk⟩ := holds_iff.mp h
  exact fun c hc => ht.names k hk c (hlk.subset hc)

theorem IsTree.isDirectory (ht : t.IsTree) {l : List String} {name : String} (h : t.Holds (l ++ [name])) :
    t.isDirectory l = true := by
  obtain ⟨k, hk, rest, rfl⟩ := holds_iff.mp h
  have := ht.directories _ hk l.length (by simp)
  simpa using this

/-- The search below a directory lists what stands there. -/
theorem mem_allBelow {l f : List String} : f ∈ t.allBelow l ↔ f ≠ [] ∧ t.Holds (l ++ f) := by
  rw [holds_iff]
  unfold allBelow
  simp only [List.mem_eraseDups, List.mem_flatMap, List.mem_filterMap, List.mem_map, List.mem_range]
  constructor
  · rintro ⟨m, ⟨k, hk, hm⟩, n, hn, rfl⟩
    split at hm
    · next hlk =>
      obtain ⟨rest, rfl⟩ := List.isPrefixOf_iff_prefix.mp hlk
      obtain rfl : rest = m := by simpa using hm
      refine ⟨by rw [Ne, List.take_eq_nil_iff]; rintro (h | rfl) <;> simp at *, l ++ rest, hk, ?_⟩
      exact (List.prefix_append_right_inj l).mpr (List.take_prefix _ _)
    · exact absurd hm (by simp)
  · rintro ⟨hne, k, hk, rest, rfl⟩
    refine ⟨f ++ rest, ⟨l ++ f ++ rest, hk, ?_⟩, f.length - 1, ?_, ?_⟩
    · simp [List.isPrefixOf_iff_prefix]
    · have := List.length_pos_iff.mpr hne
      simp only [List.length_append]
      omega
    · have := List.length_pos_iff.mpr hne
      rw [Nat.sub_add_cancel this]
      simp

/-! ### Following a path -/

/-- What one component of a path does to a location. -/
def advance (location : List String) (component : String) : List String :=
  if component = ".." then location.dropLast else location ++ [component]

theorem resolve_eq (t : FileTree) (p : Path) : t.resolve p = ⟨.slash, p.parts.foldl advance (t.origin p)⟩ := rfl

/-- What one component does when a path is followed. -/
theorem follow_cons_cases (t : FileTree) (l : List String) (c : String) (components : List String) :
    t.follow l (c :: components) = .missing ∨
    t.isDirectory l = true ∧
      (c = ".." ∧ t.follow l (c :: components) = t.follow l.dropLast components ∨
      c ≠ ".." ∧ maxNameSize < c.utf8ByteSize ∧ t.follow l (c :: components) = .tooLong ∨
      c ≠ ".." ∧ t.Holds (l ++ [c]) ∧ t.follow l (c :: components) = t.follow (l ++ [c]) components) := by
  rw [follow]
  split
  · exact .inl rfl
  · next hd =>
    have hd : t.isDirectory l = true := by simpa using hd
    split
    · next hc => exact .inr ⟨hd, .inl ⟨hc, rfl⟩⟩
    · next hc =>
      split
      · next hsize => exact .inr ⟨hd, .inr (.inl ⟨hc, hsize, rfl⟩)⟩
      · simp only
        split
        · next hs => exact .inr ⟨hd, .inr (.inr ⟨hc, hs, rfl⟩)⟩
        · exact .inl rfl

theorem eq_foldl_of_follow {l l' : List String} {components : List String}
    (h : t.follow l components = .found l') : l' = components.foldl advance l := by
  induction components generalizing l with
  | nil =>
    rw [follow, Sighting.found.injEq] at h
    exact h.symm
  | cons c components ih =>
    rw [List.foldl_cons]
    rcases t.follow_cons_cases l c components with hc | ⟨-, ⟨rfl, hc⟩ | ⟨-, -, hc⟩ | ⟨hname, -, hc⟩⟩
    · rw [hc] at h
      cases h
    · rw [hc] at h
      simpa [advance] using ih h
    · rw [hc] at h
      cases h
    · rw [hc] at h
      simpa [advance, hname] using ih h

/-- A path leads to the location that it resolves to. -/
theorem parts_resolve_of_locate {p : Path} {l : List String} (h : t.locate p = .found l) :
    (t.resolve p).parts = l := by
  unfold locate at h
  split at h
  · exact absurd h (by simp)
  · split at h
    · exact absurd h (by simp)
    · exact (eq_foldl_of_follow h).symm

private theorem foldl_advance {l f : List String} (hf : ∀ c ∈ f, c ≠ "..") : f.foldl advance l = l ++ f := by
  induction f generalizing l with
  | nil => simp
  | cons c f ih =>
    have hc := hf c List.mem_cons_self
    rw [List.foldl_cons, ih fun d hd => hf d (List.mem_cons_of_mem _ hd)]
    simp [advance, hc]

/-- Names that are added to a path are added to the location. -/
theorem parts_resolve_below (t : FileTree) (p : Path) {f : List String} (hf : ∀ c ∈ f, c ≠ "..") :
    (t.resolve (p.below f)).parts = (t.resolve p).parts ++ f := by
  have horigin : t.origin (p.below f) = t.origin p := rfl
  rw [resolve_eq, resolve_eq, horigin]
  show (p.parts ++ f).foldl advance _ = _
  rw [List.foldl_append, foldl_advance hf]

theorem resolve_inj {p q : Path} : t.resolve p = t.resolve q ↔ (t.resolve p).parts = (t.resolve q).parts := by
  rw [resolve_eq, resolve_eq]
  simp

theorem isUnder_resolve {p q : Path} :
    (t.resolve p).isUnder (t.resolve q) = true ↔ (t.resolve q).parts <+: (t.resolve p).parts := by
  simp [Path.isUnder, resolve_eq, List.isPrefixOf_iff_prefix]

/-! ### Searching by an ending -/

/-- Whether a directory directly holds an entry whose name has an ending. -/
def HoldsEnding (t : FileTree) (location : List String) (ending : String) : Prop :=
  ∃ name, t.Holds (location ++ [name]) ∧ ending.toList <:+ name.toList

/-- Whether a relative location leads through no directory of build output. -/
def AvoidsOutput (relative : List String) : Prop :=
  ∀ c ∈ relative, c ≠ "bin" ∧ c ≠ "obj"

private theorem isSkipped_concat {d : List String} {name : String} :
    isSkipped (d ++ [name]) = false ↔ AvoidsOutput d := by
  simp [isSkipped, skippedDirectories, AvoidsOutput]

theorem mem_matching_concat {l d : List String} {ending name : String} :
    d ++ [name] ∈ t.matching l ending ↔
      t.Holds (l ++ d ++ [name]) ∧ ending.toList <:+ name.toList ∧ AvoidsOutput d := by
  unfold matching
  rw [List.mem_filter, mem_allBelow, ← List.append_assoc]
  simp [isSkipped_concat, List.isSuffixOf_iff_suffix]

/-- What a search finds has a name. -/
theorem exists_concat_of_mem_matching {l f : List String} {ending : String} (h : f ∈ t.matching l ending) :
    ∃ d name, f = d ++ [name] := by
  have hne := (mem_allBelow.mp (List.mem_filter.mp h).1).1
  exact ⟨f.dropLast, f.getLast hne, (List.dropLast_concat_getLast hne).symm⟩

end FileTree

end Rollcall
