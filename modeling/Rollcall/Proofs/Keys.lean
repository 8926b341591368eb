import Rollcall.Proofs.AttributeNames

/-!
# Keys of keys

A key is made from any text, matching brackets or not, and can be taken for a written name again.  It holds neither blanks
nor brackets, since only characters of the text and arities are kept (`mem_foldArguments`).  So making a key of it can only
drop a `global::` in front and question marks behind: a key is its own key exactly when it has neither
(`key_key_eq_iff`).

The look-up of an attribute makes a key of a key.  For a name of the grammar that changes nothing, so the look-up is the
same as one that makes the key once (`key_stable`).
-/

namespace Rollcall

open Text

namespace TypeName

/-- Whether a text has no blanks and no brackets. -/
def IsFolded (cs : List Char) : Prop :=
  ∀ c ∈ cs, isBlank c = false ∧ c ≠ '<' ∧ c ≠ '>'

/-- Folding keeps characters other than brackets, at whatever depth, and adds arities. -/
theorem mem_foldArguments {depth : Int} {commas : Nat} {cs : List Char} {c : Char}
    (h : c ∈ foldArguments depth commas cs) : (c ∈ cs ∧ c ≠ '<' ∧ c ≠ '>') ∨ c = '`' ∨ c.isDigit = true := by
  induction cs generalizing depth commas with
  | nil => exact absurd h List.not_mem_nil
  | cons d cs ih =>
    have ih {depth : Int} {commas : Nat} (h : c ∈ foldArguments depth commas cs) :
        (c ∈ d :: cs ∧ c ≠ '<' ∧ c ≠ '>') ∨ c = '`' ∨ c.isDigit = true :=
      (ih h).imp_left fun hc => ⟨List.mem_cons_of_mem d hc.1, hc.2⟩
    rw [foldArguments] at h
    split at h
    · exact ih h
    · next hlt =>
      split at h
      · split at h
        · rcases List.mem_append.mp h with h | h
          · rw [aritySuffix_eq, List.mem_cons] at h
            exact .inr (h.imp_right (Nat.isDigit_of_mem_toDigits (by decide) (Nat.le_refl 10)))
          · exact ih h
        · exact ih h
      · next hgt =>
        split at h
        · rcases List.mem_cons.mp h with rfl | h
          · exact .inl ⟨List.mem_cons_self, hlt, hgt⟩
          · exact ih h
        · split at h <;> exact ih h

/-- The key of any text has no blanks and no brackets. -/
private theorem isFolded_keyChars (cs : List Char) : IsFolded (keyChars cs) := by
  intro c hc
  rcases mem_foldArguments hc with ⟨hmem, hlt, hgt⟩ | rfl | hdigit
  · exact ⟨(mem_unblank.mp (mem_of_mem_dropGlobal (mem_of_mem_dropEndWhile hmem))).2, hlt, hgt⟩
  · decide
  · refine ⟨isBlank_of_isDigit hdigit, ?_, ?_⟩ <;> rintro rfl <;> exact absurd hdigit (by decide)

/-- Nothing but a qualifier in front and question marks behind is dropped from a text without blanks and brackets. -/
private theorem IsFolded.keyChars_eq {cs : List Char} (h : IsFolded cs) :
    keyChars cs = dropEndWhile (· == '?') (dropGlobal cs) := by
  have hblank : unblank cs = cs := unblank_eq_self fun c hc => (h c hc).1
  have hfold : ∀ c ∈ dropEndWhile (· == '?') (dropGlobal cs), c ≠ '<' ∧ c ≠ '>' :=
    fun c hc => (h c (mem_of_mem_dropGlobal (mem_of_mem_dropEndWhile hc))).2
  rw [keyChars, hblank]
  simpa [foldArguments] using foldArguments_plain hfold 0 []

private theorem dropEndWhile_eq_self_iff {cs : List Char} {c : Char} :
    dropEndWhile (· == c) cs = cs ↔ cs.getLast? ≠ some c := by
  constructor
  · intro h hlast
    obtain ⟨front, rfl⟩ := List.getLast?_eq_some_iff.mp hlast
    have hdrop : dropEndWhile (· == c) (front ++ [c]) = dropEndWhile (· == c) front :=
      dropEndWhile_append_of_forall front (by simp)
    have hlength := (List.dropWhile_sublist (· == c) (l := front.reverse)).length_le
    rw [hdrop] at h
    have hsame := congrArg List.length h
    simp only [dropEndWhile, List.length_reverse, List.length_append, List.length_singleton] at hsame hlength
    omega
  · intro h
    simpa using dropEndWhile_append_replicate h 0

/-- A key is its own key unless it starts with `global::` or ends with a question mark. -/
theorem key_key_eq_iff (written : String) :
    key (key written) = key written ↔
      ¬ globalQualifier <+: (key written).toList ∧ (key written).toList.getLast? ≠ some '?' := by
  have hfolded := isFolded_keyChars written.toList
  have hchars : (key written).toList = keyChars written.toList := String.toList_ofList
  rw [hchars, key, hchars, hfolded.keyChars_eq, key, String.ofList_inj]
  generalize keyChars written.toList = cs
  cases hafter : afterStart? globalQualifier cs with
  | none =>
    have hnot : ¬ globalQualifier <+: cs := by
      rintro ⟨rest, rfl⟩
      rw [afterStart?_eq_some_iff.mpr rfl] at hafter
      cases hafter
    rw [dropGlobal, hafter, Option.getD_none, dropEndWhile_eq_self_iff]
    simp [hnot]
  | some rest =>
    obtain rfl := afterStart?_eq_some_iff.mp hafter
    refine iff_of_false (fun h => ?_) fun h => h.1 (List.prefix_append _ _)
    -- without the qualifier the text is shorter
    have hlength := (List.dropWhile_sublist (· == '?') (l := rest.reverse)).length_le
    have hqualifier : 0 < globalQualifier.length := by decide
    rw [dropGlobal, hafter, Option.getD_some] at h
    have hsame := congrArg List.length h
    simp only [dropEndWhile, List.length_reverse, List.length_append] at hsame hlength
    omega

end TypeName

namespace Program

/-- The type that a scope finds under a key, which is not made into a key again. -/
def findKeyIn? (p : Program) (s : Scope) (key : String) : Option Symbol :=
  if key = "" then none
  else
    match s.aliased? key with
    | some target => p.resolve? target
    | none => (s.candidates key).findSome? p.resolve?

private theorem resolveIn?_eq_findKeyIn? (p : Program) (s : Scope) (written : String) :
    p.resolveIn? s written = p.findKeyIn? s (TypeName.key written) := by
  refine ite_congr rfl (fun _ => rfl) fun _ => ?_
  cases s.aliased? (TypeName.key written) <;> rfl

end Program

namespace TypeName

/-- The key of any text holds neither blanks nor brackets, and it is its own key unless it starts with `global::` or ends
with a question mark.  The key of a name of the grammar does neither, so that an attribute is looked up by the key of
its name as it is, with the ending of attribute types or without it. -/
theorem key_stable (written : String) :
    (∀ c ∈ (key written).toList, isBlank c = false ∧ c ≠ '<' ∧ c ≠ '>') ∧
      (key (key written) = key written ↔
        ¬ globalQualifier <+: (key written).toList ∧ (key written).toList.getLast? ≠ some '?') ∧
      ∀ n : NameSyntax, n.Spells written →
        key (key written) = key written ∧
          ∀ (p : Program) (s : Scope), p.resolveAttributeIn? s written =
            if attributeEnding.toList.isSuffixOf (key written).toList then p.findKeyIn? s (key written)
            else p.findKeyIn? s (key written ++ attributeEnding) <|> p.findKeyIn? s (key written) := by
  refine ⟨?_, key_key_eq_iff written, fun n hn => ?_⟩
  · rw [key, String.toList_ofList]
    exact isFolded_keyChars written.toList
  · have hnormal : IsNormal (key written) := NameSyntax.key_of_spells hn ▸ n.isNormal_shownName
    have hending : IsNormal (key written ++ attributeEnding) :=
      hnormal.append (isNormal_of_isPlain isPlain_attributeEnding)
    refine ⟨hnormal.key_eq, fun p s => ?_⟩
    simp only [Program.resolveAttributeIn?, Program.resolveIn?_eq_findKeyIn?, hnormal.key_eq, hending.key_eq]

/-- A name with blanks, arguments, a qualifier and question marks. -/
theorem key_stable_nested :
    let written := " global::App . Outer< List<int?>[ ],\tglobal :: Map<,>.Entry <string> >.Inner<> ??"
    nestedName.Spells written ∧ key written = "App.Outer`2.Inner`1" ∧ key (key written) = key written ∧
      ∀ (p : Program) (s : Scope), p.resolveAttributeIn? s written =
        (p.findKeyIn? s "App.Outer`2.Inner`1Attribute" <|> p.findKeyIn? s "App.Outer`2.Inner`1") := by
  intro written
  have hspells : nestedName.Spells written := by decide +kernel
  have hkey : key written = "App.Outer`2.Inner`1" := by decide +kernel
  obtain ⟨hsame, hlookup⟩ := (key_stable written).2.2 nestedName hspells
  refine ⟨hspells, hkey, hsame, fun p s => ?_⟩
  rw [hlookup p s, hkey]
  rfl

/-- Behind unmatched brackets a qualifier or a question mark is laid bare. -/
example : key "><global::A" = "global::A" ∧ key "A?>B" = "A?" ∧ key (key "><global::A") = "A" := by decide +kernel

end TypeName

end Rollcall
