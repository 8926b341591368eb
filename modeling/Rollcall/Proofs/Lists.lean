import Mathlib.Data.List.Forall2

/-!
# Lists

Facts about lists that the theories of programs and of file trees have in common: lists whose repeated entries are
erased, lists in another order, and computations that are carried out for every entry of a list.  Two optional values
that agree in some respect are there both or neither (`none_or_some_of_map_eq`).
-/

namespace Rollcall

private theorem idxOf_lt_of_filter {α : Type} [BEq α] [LawfulBEq α] {p : α → Bool} {l : List α} {a b : α}
    (ha : p a = true) (hb : p b = true) (h : (l.filter p).idxOf a < (l.filter p).idxOf b) : l.idxOf a < l.idxOf b := by
  induction l with
  | nil => exact h
  | cons c l ih =>
    by_cases hca : c = a
    · subst hca
      rw [List.filter_cons_of_pos ha] at h
      by_cases hcb : c = b
      · subst hcb
        exact absurd h (Nat.lt_irrefl _)
      · rw [List.idxOf_cons_self, List.idxOf_cons_ne _ hcb]
        omega
    · by_cases hcb : c = b
      · subst hcb
        rw [List.filter_cons_of_pos hb, List.idxOf_cons_self] at h
        omega
      · rw [List.idxOf_cons_ne _ hca, List.idxOf_cons_ne _ hcb]
        cases hc : p c with
        | true =>
          rw [List.filter_cons_of_pos hc, List.idxOf_cons_ne _ hca, List.idxOf_cons_ne _ hcb] at h
          have := ih (by omega)
          omega
        | false =>
          rw [List.filter_cons_of_neg (by simp [hc])] at h
          have := ih h
          omega

/-- Without repeated entries a list keeps the order in which its entries first appear. -/
theorem pairwise_idxOf_eraseDups {α : Type} [BEq α] [LawfulBEq α] (l : List α) :
    l.eraseDups.Pairwise fun a b => l.idxOf a < l.idxOf b := by
  -- the recursion of `eraseDups` goes to a filtered tail
  induction hn : l.length using Nat.strongRecOn generalizing l with
  | _ n ih =>
    cases l with
    | nil => exact .nil
    | cons a l =>
      have hlen := List.length_filter_le (fun b => !b == a) l
      simp only [List.length_cons] at hn
      have hne {b : α} (hb : b ∈ (l.filter fun b => !b == a).eraseDups) : a ≠ b := by
        rintro rfl
        simp at hb
      rw [List.eraseDups_cons, List.pairwise_cons]
      constructor
      · intro b hb
        rw [List.idxOf_cons_self, List.idxOf_cons_ne _ (hne hb)]
        omega
      · refine (ih _ (by omega) _ rfl).imp_of_mem fun {b c} hb hc hlt => ?_
        have := idxOf_lt_of_filter (by simp [(hne hb).symm]) (by simp [(hne hc).symm]) hlt
        rw [List.idxOf_cons_ne _ (hne hb), List.idxOf_cons_ne _ (hne hc)]
        omega

theorem nodup_eraseDups {α : Type} [BEq α] [LawfulBEq α] (l : List α) : l.eraseDups.Nodup := by
  refine (pairwise_idxOf_eraseDups l).imp ?_
  rintro a b hlt rfl
  exact Nat.lt_irrefl _ hlt

theorem eraseDups_append_congr {α : Type} [BEq α] [LawfulBEq α] {a b : List α} (h : a.eraseDups = b.eraseDups)
    (l : List α) : (a ++ l).eraseDups = (b ++ l).eraseDups := by
  have hmem (x : α) : x ∈ a ↔ x ∈ b := by rw [← List.mem_eraseDups, h, List.mem_eraseDups]
  have hrest : l.removeAll a = l.removeAll b := by
    refine List.filter_congr fun x _ => ?_
    simp [hmem x]
  rw [List.eraseDups_append, List.eraseDups_append, h, hrest]

theorem eraseDups_append_of_subset {α : Type} [BEq α] [LawfulBEq α] {a l : List α} (h : l ⊆ a) :
    (a ++ l).eraseDups = a.eraseDups := by
  have hnone : l.removeAll a = [] := by
    refine List.filter_eq_nil_iff.mpr fun x hx => ?_
    simp [h hx]
  rw [List.eraseDups_append, hnone, List.eraseDups_nil, List.append_nil]

theorem eraseDups_append_self {α : Type} [BEq α] [LawfulBEq α] (a l : List α) :
    (a ++ l ++ l).eraseDups = (a ++ l).eraseDups :=
  eraseDups_append_of_subset (List.subset_append_right a l)

private theorem findSome?_filter_of_none {α β : Type} {p : α → Bool} {f : α → Option β} {l : List α}
    (h : ∀ a ∈ l, p a = false → f a = none) : (l.filter p).findSome? f = l.findSome? f := by
  induction l with
  | nil => rfl
  | cons a l ih =>
    have ih := ih fun b hb => h b (List.mem_cons_of_mem a hb)
    cases hp : p a with
    | true => rw [List.filter_cons_of_pos hp, List.findSome?_cons, List.findSome?_cons, ih]
    | false =>
      rw [List.filter_cons_of_neg (by simp [hp]), List.findSome?_cons, h a List.mem_cons_self hp, ih]

/-- What is not found at an entry is not found at an equal entry behind it. -/
theorem findSome?_eraseDups {α β : Type} [BEq α] [LawfulBEq α] (f : α → Option β) (l : List α) :
    l.eraseDups.findSome? f = l.findSome? f := by
  induction hn : l.length using Nat.strongRecOn generalizing l with
  | _ n ih =>
    cases l with
    | nil => rfl
    | cons a l =>
      rw [List.eraseDups_cons, List.findSome?_cons, List.findSome?_cons]
      cases ha : f a with
      | some b => rfl
      | none =>
        have := List.length_filter_le (fun b => !b == a) l
        simp only [List.length_cons] at hn
        rw [ih _ (by omega) _ rfl]
        refine findSome?_filter_of_none fun b _ hb => ?_
        have hb : b = a := by simpa using hb
        rw [hb, ha]

/-- The order of a list does not matter when at most one of its entries gives anything. -/
theorem flatMap_eq_of_perm {α β : Type} {f : α → List β} {l l' : List α} (h : l.Perm l')
    (hl : l.Pairwise fun a b => f a = [] ∨ f b = []) : l.flatMap f = l'.flatMap f := by
  induction h with
  | nil => rfl
  | cons a _ ih => rw [List.flatMap_cons, List.flatMap_cons, ih (List.pairwise_cons.mp hl).2]
  | swap a b l =>
    simp only [List.flatMap_cons]
    rcases (List.pairwise_cons.mp hl).1 a List.mem_cons_self with hb | ha
    · rw [hb, List.nil_append, List.nil_append]
    · rw [ha, List.nil_append, List.nil_append]
  | trans h _ ih ih' => rw [ih hl, ih' (hl.perm h fun hab => hab.symm)]

theorem findSome?_eq_of_perm {α β : Type} {f : α → Option β} {l l' : List α} (h : l.Perm l')
    (hl : l.Pairwise fun a b => f a = none ∨ f b = none) : l.findSome? f = l'.findSome? f := by
  rw [← List.head?_filterMap, ← List.head?_filterMap, List.filterMap_eq_flatMap_toList,
    List.filterMap_eq_flatMap_toList]
  refine congrArg List.head? (flatMap_eq_of_perm h (hl.imp fun hab => ?_))
  simpa only [Option.toList_eq_nil_iff] using hab

theorem findSome?_filter {α β : Type} (f : α → Option β) (p : β → Bool) (l : List α) :
    (l.findSome? fun a => (f a).filter p) = (l.filterMap f).find? p := by
  induction l with
  | nil => rfl
  | cons a l ih =>
    rw [List.findSome?_cons, List.filterMap_cons]
    cases f a with
    | none => exact ih
    | some b =>
      rw [List.find?_cons]
      cases hb : p b with
      | true => simp [Option.filter, hb]
      | false => simpa [Option.filter, hb] using ih

theorem none_or_some_of_isSome_eq {α β : Type} {x : Option α} {y : Option β} (h : x.isSome = y.isSome) :
    x = none ∧ y = none ∨ ∃ a b, x = some a ∧ y = some b := by
  cases x <;> cases y <;> simp_all

theorem none_or_some_of_map_eq {α β γ : Type} {f : α → γ} {g : β → γ} {x : Option α} {y : Option β}
    (h : x.map f = y.map g) : x = none ∧ y = none ∨ ∃ a b, x = some a ∧ y = some b ∧ f a = g b := by
  have hsome := congrArg Option.isSome h
  rw [Option.isSome_map, Option.isSome_map] at hsome
  rcases none_or_some_of_isSome_eq hsome with hnone | ⟨a, b, rfl, rfl⟩
  · exact .inl hnone
  · exact .inr ⟨a, b, rfl, rfl, Option.some.inj h⟩

theorem set_eq_self {α : Type} {l : List α} {n : Nat} {a : α} (h : l[n]? = some a) : l.set n a = l := by
  obtain ⟨hn, rfl⟩ := List.getElem?_eq_some_iff.mp h
  exact List.set_getElem_self hn

theorem bind_eq_ok_iff {ε α β : Type} {x : Except ε α} {f : α → Except ε β} {b : β} :
    x >>= f = .ok b ↔ ∃ a, x = .ok a ∧ f a = .ok b := by
  cases x with
  | error e => simp [bind, Except.bind]
  | ok a => simp [bind, Except.bind]

/-- A computation that succeeds on a whole list gives the results for its entries, in order. -/
theorem forall₂_of_mapM {ε α β : Type} {f : α → Except ε β} {l : List α} {l' : List β} (h : l.mapM f = .ok l') :
    List.Forall₂ (fun a b => f a = .ok b) l l' := by
  induction l generalizing l' with
  | nil =>
    rw [List.mapM_nil] at h
    cases h
    exact .nil
  | cons a l ih =>
    rw [List.mapM_cons] at h
    obtain ⟨b, hb, h⟩ := bind_eq_ok_iff.mp h
    obtain ⟨bs, hbs, h⟩ := bind_eq_ok_iff.mp h
    cases h
    exact .cons hb (ih hbs)

theorem exists_mapM_eq_ok {ε α β : Type} {f : α → Except ε β} {l : List α} (h : ∀ a ∈ l, ∃ b, f a = .ok b) :
    ∃ l', l.mapM f = .ok l' := by
  induction l with
  | nil => exact ⟨[], rfl⟩
  | cons a l ih =>
    obtain ⟨b, hb⟩ := h a List.mem_cons_self
    obtain ⟨bs, hbs⟩ := ih fun x hx => h x (List.mem_cons_of_mem _ hx)
    refine ⟨b :: bs, ?_⟩
    rw [List.mapM_cons, hb, hbs]
    rfl

/-- An error that no earlier entry gives is that of the whole list when the earlier entries give none. -/
theorem mapM_eq_error_iff {ε α β : Type} {f : α → Except ε β} {before after : List α} {a : α} {e : ε}
    (hbefore : ∀ b ∈ before, f b ≠ .error e) (ha : ∀ y, f a ≠ .ok y) :
    (before ++ a :: after).mapM f = .error e ↔ (∀ b ∈ before, ∃ y, f b = .ok y) ∧ f a = .error e := by
  induction before with
  | nil =>
    rw [List.nil_append, List.mapM_cons]
    cases hfa : f a with
    | ok y => exact absurd hfa (ha y)
    | error e' => simp [bind, Except.bind]
  | cons b before ih =>
    have ih := ih fun x hx => hbefore x (List.mem_cons_of_mem _ hx)
    rw [List.cons_append, List.mapM_cons, List.forall_mem_cons, and_assoc, ← ih]
    cases hfb : f b with
    | error e' =>
      have hne : e' ≠ e := fun he => hbefore b List.mem_cons_self (by rw [hfb, he])
      simp [bind, Except.bind, hne]
    | ok y => cases h : (before ++ a :: after).mapM f <;> simp [bind, Except.bind, pure, Except.pure]

/-- An entry that gives nothing new behind another one can be left out. -/
theorem mapM_flatten_eraseDups {ε α β : Type} [BEq β] [LawfulBEq β] {f : α → Except ε (List β)}
    {before between after : List α} {a b : α} (h : ∀ s, f a = .ok s → ∃ s', f b = .ok s' ∧ s' ⊆ s) :
    ((before ++ a :: (between ++ b :: after)).mapM f).map (·.flatten.eraseDups) =
      ((before ++ a :: (between ++ after)).mapM f).map (·.flatten.eraseDups) := by
  simp only [List.mapM_append, List.mapM_cons]
  -- both sides make the same computations in the same order, apart from that for `b`
  cases before.mapM f with
  | error e => rfl
  | ok x =>
    cases hfa : f a with
    | error e => rfl
    | ok s =>
      obtain ⟨s', hfb, hs'⟩ := h s hfa
      cases between.mapM f with
      | error e => rfl
      | ok y =>
        cases after.mapM f with
        | error e => simp [hfb, bind, Except.bind, Except.map]
        | ok z =>
          have hsubset : s' ⊆ x.flatten ++ (s ++ y.flatten) := fun q hq => by simp [hs' hq]
          have herase := eraseDups_append_congr (eraseDups_append_of_subset hsubset) z.flatten
          simpa [hfb, bind, Except.bind, pure, Except.pure, Except.map] using herase

theorem eq_map_of_forall₂ {α β : Type} {R : α → β → Prop} {f : α → β} {l : List α} {l' : List β}
    (h : List.Forall₂ R l l') (hR : ∀ a b, R a b → b = f a) : l' = l.map f := by
  induction h with
  | nil => rfl
  | cons hab _ ih => rw [List.map_cons, ← hR _ _ hab, ih]

theorem exists_right_of_forall₂ {α β : Type} {R : α → β → Prop} {l : List α} {l' : List β}
    (h : List.Forall₂ R l l') {i : Nat} {a : α} (ha : l[i]? = some a) : ∃ b, l'[i]? = some b ∧ R a b := by
  induction h generalizing i with
  | nil => exact absurd ha (by simp)
  | cons hab _ ih =>
    cases i with
    | zero =>
      cases ha
      exact ⟨_, rfl, hab⟩
    | succ i => exact ih ha

theorem exists_left_of_forall₂ {α β : Type} {R : α → β → Prop} {l : List α} {l' : List β}
    (h : List.Forall₂ R l l') {i : Nat} {b : β} (hb : l'[i]? = some b) : ∃ a, l[i]? = some a ∧ R a b :=
  exists_right_of_forall₂ (R := fun b a => R a b) h.flip hb

/-- A list of values of a function is a list of entries to which the function is applied. -/
theorem exists_map_eq {α β : Type} {f : α → β} {l' : List β} (h : ∀ b ∈ l', ∃ a, f a = b) :
    ∃ l : List α, l.map f = l' := by
  induction l' with
  | nil => exact ⟨[], rfl⟩
  | cons b l' ih =>
    obtain ⟨a, rfl⟩ := h b List.mem_cons_self
    obtain ⟨l, rfl⟩ := ih fun c hc => h c (List.mem_cons_of_mem _ hc)
    exact ⟨a :: l, rfl⟩

theorem mem_flatten_of_forall₂ {α β : Type} {R : α → List β → Prop} {P : α → β → Prop} {l : List α}
    {l' : List (List β)} (h : List.Forall₂ R l l') (hR : ∀ a b, R a b → ∀ x, x ∈ b ↔ P a x) {x : β} :
    x ∈ l'.flatten ↔ ∃ a ∈ l, P a x := by
  induction h with
  | nil => simp
  | cons hab _ ih => simp [ih, hR _ _ hab]

end Rollcall
