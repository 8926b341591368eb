import Mathlib.Algebra.GroupWithZero.Nat
import Rollcall.TypeName

/-!
# Brackets and commas

`TypeName.foldArguments` goes through a name once, with the number of open brackets and the number of commas as its state.
On a text whose brackets match (`IsBalanced`) the number of open brackets comes back to what it was, so the state behind
the text is known:

* outside of brackets a list is replaced by its arity (`foldArguments_list`), which is one more than its commas;
* directly inside a list the text adds the commas that stand outside of its own brackets (`foldArguments_isBalanced`);
* further inside it leaves no trace (`foldArguments_isBalanced_deep`).
-/

namespace Rollcall.TypeName

/-- A text whose brackets match, with the number of commas outside of them. -/
inductive IsBalanced : List Char → Nat → Prop
  | nil : IsBalanced [] 0
  | char {c : Char} {cs : List Char} {n : Nat} (hc : c ≠ '<' ∧ c ≠ '>' ∧ c ≠ ',') (h : IsBalanced cs n) :
      IsBalanced (c :: cs) n
  | comma {cs : List Char} {n : Nat} (h : IsBalanced cs n) : IsBalanced (',' :: cs) (n + 1)
  | list {inner cs : List Char} {m n : Nat} (hinner : IsBalanced inner m) (h : IsBalanced cs n) :
      IsBalanced ('<' :: inner ++ '>' :: cs) n

namespace IsBalanced

variable {cs ds : List Char} {m n : Nat}

theorem append (h : IsBalanced cs m) (h' : IsBalanced ds n) : IsBalanced (cs ++ ds) (m + n) := by
  induction h with
  | nil => simpa using h'
  | char hc _ ih => exact .char hc ih
  | @comma cs k _ ih =>
    have hcount : k + 1 + n = k + n + 1 := by omega
    rw [hcount]
    exact .comma ih
  | list hinner _ _ ih =>
    rw [List.append_assoc, List.cons_append]
    exact .list hinner ih

theorem of_chars (h : ∀ c ∈ cs, c ≠ '<' ∧ c ≠ '>' ∧ c ≠ ',') : IsBalanced cs 0 := by
  induction cs with
  | nil => exact .nil
  | cons c cs ih => exact .char (h c List.mem_cons_self) (ih fun d hd => h d (List.mem_cons_of_mem c hd))

theorem replicate_comma (n : Nat) : IsBalanced (List.replicate n ',') n := by
  induction n with
  | zero => exact .nil
  | succ n ih => exact .comma ih

/-- A list in brackets has no comma outside of them. -/
theorem bracketed (h : IsBalanced cs n) : IsBalanced ('<' :: cs ++ ['>']) 0 :=
  .list h .nil

/-- Between texts that are joined by commas stand as many commas as there are texts behind the first one. -/
theorem intercalate_comma {α : Type} (text : α → List Char) (commas : α → Nat) {l : List α}
    (h : ∀ a ∈ l, IsBalanced (text a) (commas a)) :
    IsBalanced ([','].intercalate (l.map text)) ((l.map commas).sum + (l.length - 1)) := by
  induction l with
  | nil => exact .nil
  | cons a l ih =>
    have ha := h a List.mem_cons_self
    have ih := ih fun b hb => h b (List.mem_cons_of_mem a hb)
    cases l with
    | nil => simpa using ha
    | cons b l =>
      have hcount : ((a :: b :: l).map commas).sum + ((a :: b :: l).length - 1) =
          commas a + (((b :: l).map commas).sum + ((b :: l).length - 1) + 1) := by
        simp only [List.map_cons, List.sum_cons, List.length_cons]
        omega
      rw [List.map_cons, List.map_cons, List.intercalate_cons_cons, List.append_assoc, hcount]
      exact ha.append (.comma ih)

/-- Dots between texts without commas bring none. -/
theorem intercalate_dot {texts : List (List Char)} (h : ∀ text ∈ texts, IsBalanced text 0) :
    IsBalanced (['.'].intercalate texts) 0 := by
  induction texts with
  | nil => exact .nil
  | cons text texts ih =>
    have htext := h text List.mem_cons_self
    have ih := ih fun t ht => h t (List.mem_cons_of_mem text ht)
    cases texts with
    | nil => simpa using htext
    | cons text' texts =>
      rw [List.intercalate_cons_cons, List.append_assoc]
      exact htext.append (.char (by decide) ih)

end IsBalanced

/-! ### Folding arguments -/

/-- Outside of argument lists the number of commas does not matter. -/
private theorem foldArguments_commas {depth : Int} (hdepth : depth ≤ 0) (commas commas' : Nat) (cs : List Char) :
    foldArguments depth commas cs = foldArguments depth commas' cs := by
  induction cs generalizing depth commas commas' with
  | nil => rfl
  | cons c cs ih =>
    simp only [foldArguments]
    by_cases hzero : depth = 0
    · subst hzero
      simp [ih (Int.le_refl 0) commas commas', ih (show (-1 : Int) ≤ 0 by decide) commas commas']
    · have hone : depth ≠ 1 := by omega
      simp only [hzero, hone, and_false, ↓reduceIte, ih hdepth commas commas',
        ih (show depth + 1 ≤ 0 by omega) commas commas', ih (show depth - 1 ≤ 0 by omega) commas commas']

theorem foldArguments_plain {name : List Char} (hname : ∀ c ∈ name, c ≠ '<' ∧ c ≠ '>') (commas : Nat) (rest : List Char) :
    foldArguments 0 commas (name ++ rest) = name ++ foldArguments 0 commas rest := by
  induction name with
  | nil => rfl
  | cons c name ih =>
    obtain ⟨hlt, hgt⟩ := hname c List.mem_cons_self
    have ih := ih fun d hd => hname d (List.mem_cons_of_mem c hd)
    simp [foldArguments, hlt, hgt, ih]

variable {cs : List Char} {n : Nat}

/-- A balanced text inside two lists or more leaves no trace. -/
theorem foldArguments_isBalanced_deep (h : IsBalanced cs n) {depth : Int} (hdepth : 2 ≤ depth) (commas : Nat)
    (rest : List Char) : foldArguments depth commas (cs ++ rest) = foldArguments depth commas rest := by
  induction h generalizing depth commas rest with
  | nil => rfl
  | @char c cs n hc _ ih =>
    have hzero : depth ≠ 0 := by omega
    rw [List.cons_append, foldArguments]
    simp only [hc.1, hc.2.1, hc.2.2, hzero, false_and, ↓reduceIte]
    exact ih hdepth commas rest
  | comma _ ih =>
    have hzero : depth ≠ 0 := by omega
    have hone : depth ≠ 1 := by omega
    rw [List.cons_append, foldArguments]
    simp only [hzero, hone, and_false, ↓reduceIte, Char.reduceEq]
    exact ih hdepth commas rest
  | @list inner cs m n _ _ ihinner ih =>
    have hzero : depth ≠ 0 := by omega
    have hone : depth + 1 ≠ 1 := by omega
    have hinner := ihinner (show 2 ≤ depth + 1 by omega) commas ('>' :: (cs ++ rest))
    rw [List.append_assoc, List.cons_append, foldArguments, List.cons_append]
    simp only [hzero, ↓reduceIte, hinner]
    rw [foldArguments]
    simp only [hone, ↓reduceIte, Int.add_sub_cancel, Char.reduceEq]
    exact ih hdepth commas rest

/-- A balanced text directly inside a list adds its commas. -/
theorem foldArguments_isBalanced (h : IsBalanced cs n) (commas : Nat) (rest : List Char) :
    foldArguments 1 commas (cs ++ rest) = foldArguments 1 (commas + n) rest := by
  induction h generalizing commas with
  | nil => rfl
  | char hc _ ih =>
    have hzero : (1 : Int) ≠ 0 := by decide
    rw [List.cons_append, foldArguments]
    simp only [hc.1, hc.2.1, hc.2.2, hzero, false_and, ↓reduceIte]
    exact ih commas
  | @comma cs n _ ih =>
    have hcount : commas + (n + 1) = commas + 1 + n := by omega
    rw [List.cons_append, foldArguments, hcount]
    exact ih (commas + 1)
  | @list inner cs m n hinner _ _ ih =>
    -- the inner list opens and closes at depth two, so neither its commas nor an arity are seen
    have hdeep := foldArguments_isBalanced_deep hinner (Int.le_refl 2) commas ('>' :: (cs ++ rest))
    calc foldArguments 1 commas ('<' :: inner ++ '>' :: cs ++ rest)
        = foldArguments 2 commas (inner ++ '>' :: (cs ++ rest)) := by simp [foldArguments]
      _ = foldArguments 1 commas (cs ++ rest) := by rw [hdeep]; simp [foldArguments]
      _ = foldArguments 1 (commas + n) rest := ih commas

/-- A list outside of brackets becomes an arity, one more than its commas. -/
theorem foldArguments_list (h : IsBalanced cs n) (rest : List Char) :
    foldArguments 0 0 ('<' :: cs ++ '>' :: rest) = aritySuffix (n + 1) ++ foldArguments 0 0 rest := by
  calc foldArguments 0 0 ('<' :: cs ++ '>' :: rest)
      = foldArguments 1 0 (cs ++ '>' :: rest) := by simp [foldArguments]
    _ = foldArguments 1 n ('>' :: rest) := by rw [foldArguments_isBalanced h, Nat.zero_add]
    _ = aritySuffix (n + 1) ++ foldArguments 0 n rest := by simp [foldArguments]
    _ = aritySuffix (n + 1) ++ foldArguments 0 0 rest := by rw [foldArguments_commas (Int.le_refl 0) n 0]

end Rollcall.TypeName
