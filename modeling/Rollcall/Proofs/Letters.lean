import Rollcall.Generated
import Rollcall.Text.Small

/-!
# Letters without case

Names and tags of generated files are looked for in texts whose ASCII letters are made small.  The same is found when
all letters are made small, by the rules for every script (`small`).

Two characters outside ASCII have a small form with an ASCII letter in it: that of the Kelvin sign is `k`, and that of
the dotted I is an `i` with a dot above behind it.  So an ASCII text without `k` ends the small form of a text exactly
when it ends the text with ASCII letters made small (`suffix_small_iff`), and it stands somewhere in the one exactly
when it stands in the other, unless its own last letter is an `i` (`infix_small_iff`).
-/

namespace Rollcall

namespace Text

private theorem occurs_iff {needle cs : List Char} : occurs needle cs = true ↔ needle <:+: cs := by
  induction cs with
  | nil => simp [occurs]
  | cons c cs ih => simp [occurs, ih, List.infix_cons_iff]

/-! ### Small forms of single characters -/

/-- Where the small forms of a run of capitals lie: only the Kelvin sign has one in ASCII. -/
private theorem shift_of_mem_capitalRuns : ∀ r ∈ capitalRuns,
    ((r.first : Int) + r.shift = 0x6B ∧ r.last = r.first) ∨
      (0x80 ≤ (r.first : Int) + r.shift ∧ (r.last : Int) + r.shift < 0xD800) ∨
      (0xDFFF < (r.first : Int) + r.shift ∧ (r.last : Int) + r.shift < 0x110000) := by
  decide +kernel

private theorem smallChar_of_not_ascii {c : Char} (hc : 0x80 ≤ c.toNat) :
    smallChar c = ['i', '\u0307'] ∨ ∃ d, smallChar c = [d] ∧ (d = 'k' ∨ 0x80 ≤ d.toNat) := by
  unfold smallChar
  rw [if_neg (by omega)]
  split
  · exact .inl rfl
  · right
    split
    · next r hr =>
      have hmem := List.mem_of_find?_eq_some hr
      have hrange := List.find?_some hr
      simp only [Bool.and_eq_true, decide_eq_true_eq] at hrange
      refine ⟨_, rfl, ?_⟩
      rcases shift_of_mem_capitalRuns r hmem with ⟨hk, hlast⟩ | ⟨hlow, hhigh⟩ | ⟨hlow, hhigh⟩
      · left
        have hn : ((c.toNat : Int) + r.shift).toNat = 0x6B := by omega
        rw [hn]
      · right
        rw [toNat_ofNat (.inl (by omega))]
        omega
      · right
        rw [toNat_ofNat (.inr (by omega))]
        omega
    · exact ⟨c, rfl, .inr hc⟩

theorem toLower_cases (c : Char) :
    c.toLower = c ∨ 65 ≤ c.toNat ∧ c.toNat ≤ 90 ∧ c.toLower.toNat = c.toNat + 32 := by
  unfold Char.toLower
  split
  · next hc =>
    obtain ⟨hlow, hhigh⟩ := hc
    rw [ge_iff_le, UInt32.le_iff_toNat_le] at hlow
    rw [UInt32.le_iff_toNat_le] at hhigh
    have h65 : ('A'.val).toNat = 65 := rfl
    have h90 : ('Z'.val).toNat = 90 := rfl
    have h32 : ('a'.val - 'A'.val).toNat = 32 := rfl
    have hsum : (c.val + ('a'.val - 'A'.val)).toNat = c.val.toNat + 32 := by
      rw [UInt32.toNat_add]
      omega
    have hval : c.toNat = c.val.toNat := rfl
    exact .inr ⟨by omega, by omega, hsum⟩
  · exact .inl rfl

private theorem toNat_lt_of_toLower {c : Char} (h : c.toLower.toNat < 0x80) : c.toNat < 0x80 := by
  rcases toLower_cases c with hc | ⟨-, hc, -⟩
  · rwa [hc] at h
  · omega

theorem eq_dot_of_toLower {c : Char} (h : c.toLower = '.') : c = '.' := by
  rcases toLower_cases c with hc | ⟨hc, -, hlower⟩
  · rwa [hc] at h
  · have h46 : ('.').toNat = 46 := rfl
    rw [h] at hlower
    omega

/-! ### Small forms of texts -/

/-- The small form of a text begins with that of its first character. -/
private theorem exists_smallFrom_cons (isInWord : Bool) (c : Char) (cs : List Char) :
    ∃ piece isInWord', smallFrom isInWord (c :: cs) = piece ++ smallFrom isInWord' cs ∧
      (c.toNat < 0x80 → piece = [c.toLower]) ∧
      (0x80 ≤ c.toNat → piece = ['i', '\u0307'] ∨ ∃ d, piece = [d] ∧ (d = 'k' ∨ 0x80 ≤ d.toNat)) := by
  refine ⟨_, _, rfl, ?_, ?_⟩
  · intro hc
    have hsigma : c ≠ 'Σ' := by
      rintro rfl
      exact absurd hc (by decide)
    simp [hsigma, smallChar, hc]
  · intro hc
    split
    · exact .inr ⟨'ς', rfl, .inr (by decide)⟩
    · exact smallChar_of_not_ascii hc

private theorem eq_nil_of_smallFrom {isInWord : Bool} {cs : List Char} (h : smallFrom isInWord cs = []) : cs = [] := by
  cases cs with
  | nil => rfl
  | cons c cs =>
    exfalso
    obtain ⟨piece, w, hw, hascii, hother⟩ := exists_smallFrom_cons isInWord c cs
    rw [hw] at h
    have hpiece := (List.append_eq_nil_iff.mp h).1
    by_cases hc : c.toNat < 0x80
    · exact absurd (hascii hc) (by simp [hpiece])
    · rcases hother (by omega) with hp | ⟨d, hd, -⟩
      · exact absurd hp (by simp [hpiece])
      · exact absurd hd (by simp [hpiece])

private theorem exists_smallFrom_append (isInWord : Bool) (u v : List Char) :
    ∃ x isInWord', smallFrom isInWord (u ++ v) = x ++ smallFrom isInWord' v := by
  induction u generalizing isInWord with
  | nil => exact ⟨[], isInWord, rfl⟩
  | cons c u ih =>
    obtain ⟨piece, w, hw, -⟩ := exists_smallFrom_cons isInWord c (u ++ v)
    obtain ⟨x, w', hx⟩ := ih w
    exact ⟨piece ++ x, w', by rw [List.cons_append, hw, hx, List.append_assoc]⟩

private theorem exists_smallFrom_ascii (isInWord : Bool) {u : List Char} (hu : ∀ c ∈ u, c.toNat < 0x80)
    (v : List Char) : ∃ isInWord', smallFrom isInWord (u ++ v) = u.map Char.toLower ++ smallFrom isInWord' v := by
  induction u generalizing isInWord with
  | nil => exact ⟨isInWord, rfl⟩
  | cons c u ih =>
    obtain ⟨piece, w, hw, hascii, -⟩ := exists_smallFrom_cons isInWord c (u ++ v)
    obtain ⟨w', hw'⟩ := ih w fun d hd => hu d (List.mem_cons_of_mem c hd)
    refine ⟨w', ?_⟩
    rw [List.cons_append, hw, hascii (hu c List.mem_cons_self), hw']
    rfl

/-- Whether a text is ASCII without the letter that is also the small form of the Kelvin sign. -/
def IsPlainAscii (cs : List Char) : Prop :=
  (cs.all fun c => c.toNat < 0x80 && c != 'k') = true

instance (cs : List Char) : Decidable (IsPlainAscii cs) :=
  inferInstanceAs (Decidable (_ = true))

private theorem isPlainAscii_iff {cs : List Char} : IsPlainAscii cs ↔ ∀ c ∈ cs, c.toNat < 0x80 ∧ c ≠ 'k' := by
  simp [IsPlainAscii]

private theorem isPlainAscii_cons {c : Char} {cs : List Char} :
    IsPlainAscii (c :: cs) ↔ (c.toNat < 0x80 ∧ c ≠ 'k') ∧ IsPlainAscii cs := by
  simp [IsPlainAscii]

/-- What the small form of a text begins with comes from a beginning of the text. -/
private theorem exists_append_of_smallFrom {needle rest cs : List Char} {isInWord : Bool}
    (hneedle : IsPlainAscii needle)
    (hlast : needle.getLast? ≠ some 'i' ∨ rest = []) (h : smallFrom isInWord cs = needle ++ rest) :
    ∃ u v isInWord', cs = u ++ v ∧ u.map Char.toLower = needle ∧ smallFrom isInWord' v = rest := by
  induction needle generalizing cs isInWord with
  | nil => exact ⟨[], cs, isInWord, rfl, rfl, h⟩
  | cons x needle ih =>
    obtain ⟨⟨hx, hk⟩, htail⟩ := isPlainAscii_cons.mp hneedle
    cases cs with
    | nil => exact absurd h (by simp [smallFrom])
    | cons c cs =>
      obtain ⟨piece, w, hw, hascii, hother⟩ := exists_smallFrom_cons isInWord c cs
      rw [hw] at h
      by_cases hc : c.toNat < 0x80
      · rw [hascii hc, List.cons_append, List.nil_append, List.cons_append, List.cons.injEq] at h
        have hlast' : needle.getLast? ≠ some 'i' ∨ rest = [] := by
          refine hlast.imp_left fun hne => ?_
          cases needle with
          | nil => simp
          | cons y needle => rwa [List.getLast?_cons_cons] at hne
        obtain ⟨u, v, w', rfl, hu, hv⟩ := ih htail hlast' h.2
        exact ⟨c :: u, v, w', rfl, by rw [List.map_cons, hu, h.1], hv⟩
      · -- a character outside ASCII gives no character of the needle but an `i` with a dot behind it
        exfalso
        rcases hother (by omega) with rfl | ⟨d, rfl, hd⟩
        · rw [List.cons_append, List.cons_append, List.cons_append, List.cons.injEq] at h
          obtain ⟨rfl, h⟩ := h
          cases needle with
          | nil =>
            rcases hlast with hlast | rfl
            · exact hlast rfl
            · exact absurd h (by simp)
          | cons y needle =>
            have hy := (isPlainAscii_cons.mp htail).1.1
            rw [← (List.cons.inj h).1] at hy
            exact absurd hy (by decide)
        · rw [List.cons_append, List.cons_append, List.cons.injEq] at h
          obtain ⟨rfl, -⟩ := h
          rcases hd with rfl | hd
          · exact hk rfl
          · omega

/-- A position in the small form of a text that is not in front of a dot above comes from one in the text. -/
private theorem exists_append_of_smallFrom_append {a s cs : List Char} {x : Char} {isInWord : Bool} (hx : x ≠ '\u0307')
    (h : smallFrom isInWord cs = a ++ x :: s) : ∃ u v isInWord', cs = u ++ v ∧ smallFrom isInWord' v = x :: s := by
  induction cs generalizing a isInWord with
  | nil => exact absurd h (by simp [smallFrom])
  | cons c cs ih =>
    cases a with
    | nil => exact ⟨[], c :: cs, isInWord, rfl, h⟩
    | cons y a =>
      obtain ⟨piece, w, hw, hascii, hother⟩ := exists_smallFrom_cons isInWord c cs
      rw [hw] at h
      have hstep {b : List Char} (hb : smallFrom w cs = b ++ x :: s) :
          ∃ u v isInWord', c :: cs = u ++ v ∧ smallFrom isInWord' v = x :: s := by
        obtain ⟨u, v, w', rfl, hv⟩ := ih hb
        exact ⟨c :: u, v, w', rfl, hv⟩
      have hsingle {d : Char} (hd : piece = [d]) : smallFrom w cs = a ++ x :: s := by
        rw [hd, List.cons_append, List.nil_append, List.cons_append, List.cons.injEq] at h
        exact h.2
      by_cases hc : c.toNat < 0x80
      · exact hstep (hsingle (hascii hc))
      · rcases hother (by omega) with rfl | ⟨d, hd, -⟩
        · rw [List.cons_append, List.cons_append, List.cons_append, List.cons.injEq] at h
          cases a with
          | nil => exact absurd (List.cons.inj h.2).1.symm hx
          | cons z a => exact hstep (List.cons.inj h.2).2
        · exact hstep (hsingle hd)

private theorem ascii_of_map_toLower {u needle : List Char} (hneedle : IsPlainAscii needle)
    (hu : u.map Char.toLower = needle) : ∀ c ∈ u, c.toNat < 0x80 := by
  intro c hc
  have hmem : c.toLower ∈ needle := by
    rw [← hu]
    exact List.mem_map_of_mem hc
  exact toNat_lt_of_toLower (isPlainAscii_iff.mp hneedle _ hmem).1

theorem infix_small_iff {needle cs : List Char} (hneedle : IsPlainAscii needle) (hlast : needle.getLast? ≠ some 'i') :
    needle <:+: small cs ↔ needle <:+: cs.map Char.toLower := by
  constructor
  · rintro ⟨a, b, h⟩
    cases needle with
    | nil => exact List.nil_infix
    | cons x needle =>
      have hx : x ≠ '\u0307' := by
        rintro rfl
        exact absurd (isPlainAscii_cons.mp hneedle).1.1 (by decide)
      rw [List.append_assoc, List.cons_append] at h
      obtain ⟨u, v, w, rfl, hv⟩ := exists_append_of_smallFrom_append hx h.symm
      rw [← List.cons_append] at hv
      obtain ⟨m, r, w', rfl, hm, -⟩ := exists_append_of_smallFrom hneedle (.inl hlast) hv
      rw [List.map_append, List.map_append, hm, ← List.append_assoc]
      exact List.infix_append _ _ _
  · rintro ⟨a, b, h⟩
    obtain ⟨um, v, rfl, hum, -⟩ := List.map_eq_append_iff.mp h.symm
    obtain ⟨u, m, rfl, -, hm⟩ := List.map_eq_append_iff.mp hum
    obtain ⟨x, w, hx⟩ := exists_smallFrom_append false u (m ++ v)
    obtain ⟨w', hw⟩ := exists_smallFrom_ascii w (ascii_of_map_toLower hneedle hm) v
    refine ⟨x, smallFrom w' v, ?_⟩
    unfold small
    rw [List.append_assoc, List.append_assoc, hx, hw, hm]

theorem suffix_small_iff {needle cs : List Char} (hneedle : IsPlainAscii needle) :
    needle <:+ small cs ↔ needle <:+ cs.map Char.toLower := by
  constructor
  · rintro ⟨a, h⟩
    cases needle with
    | nil => exact List.nil_suffix
    | cons x needle =>
      have hx : x ≠ '\u0307' := by
        rintro rfl
        exact absurd (isPlainAscii_cons.mp hneedle).1.1 (by decide)
      obtain ⟨u, v, w, rfl, hv⟩ := exists_append_of_smallFrom_append hx h.symm
      rw [← List.append_nil (x :: needle)] at hv
      obtain ⟨m, r, w', rfl, hm, hr⟩ := exists_append_of_smallFrom hneedle (.inr rfl) hv
      rw [eq_nil_of_smallFrom hr, List.append_nil, List.map_append, hm]
      exact List.suffix_append _ _
  · rintro ⟨a, h⟩
    obtain ⟨u, m, rfl, -, hm⟩ := List.map_eq_append_iff.mp h.symm
    obtain ⟨x, w, hx⟩ := exists_smallFrom_append false u (m ++ [])
    obtain ⟨w', hw⟩ := exists_smallFrom_ascii w (ascii_of_map_toLower hneedle hm) []
    refine ⟨x, ?_⟩
    unfold small
    rw [List.append_nil] at hx hw
    rw [hx, hw, hm]
    simp [smallFrom]

theorem small_eq_iff {needle cs : List Char} (hneedle : IsPlainAscii needle) :
    small cs = needle ↔ cs.map Char.toLower = needle := by
  constructor
  · intro h
    unfold small at h
    rw [← List.append_nil needle] at h
    obtain ⟨u, v, w, rfl, hu, hv⟩ := exists_append_of_smallFrom hneedle (.inr rfl) h
    rw [eq_nil_of_smallFrom hv, List.append_nil, hu]
  · intro h
    obtain ⟨w, hw⟩ := exists_smallFrom_ascii false (ascii_of_map_toLower hneedle h) []
    rw [List.append_nil] at hw
    unfold small
    rw [hw, h]
    simp [smallFrom]

end Text

/-! ### Names and tags of generated files -/

namespace Generated

open Text

theorem nameMarks_iff {name : String} :
    nameMarks name = true ↔ ∃ ending ∈ fileEndings, ending.toList <:+ small name.toList := by
  have hplain : ∀ ending ∈ fileEndings, IsPlainAscii ending.toList := by decide
  unfold nameMarks
  rw [List.any_eq_true]
  refine exists_congr fun ending => and_congr_right fun hmem => ?_
  rw [List.isSuffixOf_iff_suffix, suffix_small_iff (hplain ending hmem)]

/-- Whether a text holds an auto-generated tag, in letters of either case. -/
def Tagged (cs : List Char) : Prop :=
  "<auto-generated".toList <:+: small cs ∨ "<autogenerated".toList <:+: small cs

theorem tagged_iff {cs : List Char} :
    Tagged cs ↔
      "<auto-generated".toList <:+: cs.map Char.toLower ∨ "<autogenerated".toList <:+: cs.map Char.toLower := by
  unfold Tagged
  rw [infix_small_iff (by decide) (by decide), infix_small_iff (by decide) (by decide)]

theorem holdsTag_iff {cs : List Char} : holdsTag cs = true ↔ Tagged cs := by
  rw [tagged_iff]
  simp [holdsTag, tags, occurs_iff]

theorem Tagged.mono {cs ds : List Char} (h : Tagged cs) (hds : cs <:+: ds) : Tagged ds := by
  rw [tagged_iff] at h ⊢
  exact h.imp (·.trans (hds.map _)) (·.trans (hds.map _))

theorem not_tagged_nil : ¬ Tagged [] := by
  rw [tagged_iff]
  decide

/-- A tag does not end with a character that is no letter of either case at its end. -/
theorem tagged_concat_iff {cs : List Char} {c : Char} (hc : c.toLower ≠ 'd') : Tagged (cs ++ [c]) ↔ Tagged cs := by
  have hmap : (cs ++ [c]).map Char.toLower = cs.map Char.toLower ++ [c.toLower] := by simp
  have hnot (needle : List Char) : ¬ needle ++ ['d'] <:+ cs.map Char.toLower ++ [c.toLower] := by
    rintro ⟨a, ha⟩
    rw [← List.append_assoc] at ha
    exact hc (List.append_inj_right' ha rfl |> List.cons.inj |>.1).symm
  rw [tagged_iff, tagged_iff, hmap, List.infix_concat_iff, List.infix_concat_iff]
  have h1 := hnot "<auto-generate".toList
  have h2 := hnot "<autogenerate".toList
  exact ⟨fun h => h.imp (·.resolve_left h1) (·.resolve_left h2), fun h => h.imp .inr .inr⟩

end Generated

end Rollcall
