import Mathlib.Tactic.IntervalCases
import Rollcall.Proofs.Letters
import Rollcall.Syntax.Literal

/-!
# The numbers of integer literals

Every way to write a number as an integer literal is read back as the number: in decimal digits without needless zeros,
or in hexadecimal or binary digits behind the mark of the base, with zeros in front and in letters of either case
(`Renders`), with underscores and with a suffix (`Writes`).

* The digits of a number are read as the number, whatever zeros stand in front of them (`readDigits_toDigits`), and the
  case of letters makes no difference (`readDigits_map_toLower`).
* Numerals have no letter in common with suffixes, so a suffix takes no digit with it (`value?_of_writes`).
-/

namespace Rollcall

namespace Text

/-! ### Digits -/

private theorem digitIn?_digitChar {base d : Nat} (hbase : base ≤ 16) (hd : d < base) :
    digitIn? base (Nat.digitChar d) = some d := by
  have hvalue : digitIn? 16 (Nat.digitChar d) = some d := by
    have hd : d < 16 := by omega
    interval_cases d <;> rfl
  unfold digitIn? at hvalue ⊢
  obtain ⟨hvalue, -⟩ := Option.filter_eq_some_iff.mp hvalue
  exact Option.filter_eq_some_iff.mpr ⟨hvalue, by simpa using hd⟩

theorem le_iff_toNat_le {c d : Char} : c ≤ d ↔ c.toNat ≤ d.toNat := by
  rw [Char.le_def, UInt32.le_iff_toNat_le]
  rfl

/-- A capital is the digit that its small letter is. -/
private theorem digitIn?_toLower (base : Nat) (c : Char) : digitIn? base c.toLower = digitIn? base c := by
  rcases toLower_cases c with hc | ⟨hlow, hhigh, hlower⟩
  · rw [hc]
  · have hdigit {d : Char} (hd : 57 < d.toNat) : d.isDigit = false := by
      simp only [Char.isDigit, ge_iff_le, UInt32.le_iff_toNat_le, Bool.and_eq_false_iff, decide_eq_false_iff_not]
      exact .inr (by simpa using hd)
    have hcapital : ('A' ≤ c ∧ c ≤ 'Z') ∧ ¬ 'a' ≤ c := by
      simp only [le_iff_toNat_le, Char.reduceToNat]
      omega
    have hsmall : 'a' ≤ c.toLower ∧ c.toLower ≤ 'z' := by
      simp only [le_iff_toNat_le, Char.reduceToNat]
      omega
    have hvalue : c.toLower.toNat - 97 = c.toNat - 65 := by omega
    simp [digitIn?, hdigit (show 57 < c.toNat by omega), hdigit (show 57 < c.toLower.toNat by omega), hcapital, hsmall,
      hvalue]

private theorem readDigitsFrom_append (base n : Nat) (cs ds : List Char) :
    readDigitsFrom base n (cs ++ ds) = (readDigitsFrom base n cs).bind fun m => readDigitsFrom base m ds := by
  induction cs generalizing n with
  | nil => rfl
  | cons c cs ih =>
    rw [List.cons_append, readDigitsFrom, readDigitsFrom]
    cases digitIn? base c with
    | none => rfl
    | some d => exact ih _

private theorem readDigitsFrom_toDigits {base : Nat} (hone : 1 < base) (hbase : base ≤ 16) (n : Nat) :
    readDigitsFrom base 0 (Nat.toDigits base n) = some n := by
  induction n using Nat.strongRecOn with
  | _ n ih =>
    rw [Nat.toDigits_eq_if hone]
    split
    · next hn =>
      simp [readDigitsFrom, digitIn?_digitChar hbase hn]
    · next hn =>
      have hpos : 0 < n := by omega
      have hlast := digitIn?_digitChar hbase (Nat.mod_lt n (Nat.lt_of_succ_lt hone))
      rw [readDigitsFrom_append, ih _ (Nat.div_lt_self hpos hone), Option.bind_some, readDigitsFrom, hlast]
      exact congrArg some (Nat.div_add_mod' n base)

private theorem readDigitsFrom_zeros {base : Nat} (hbase : 0 < base) (zeros : Nat) (cs : List Char) :
    readDigitsFrom base 0 (List.replicate zeros '0' ++ cs) = readDigitsFrom base 0 cs := by
  have hzero : digitIn? base '0' = some 0 := by simp [digitIn?, hbase]
  induction zeros with
  | zero => rfl
  | succ zeros ih =>
    rw [List.replicate_succ, List.cons_append, readDigitsFrom, hzero, ← ih]
    simp

/-- The digits of a number are read as the number, also behind zeros. -/
theorem readDigits_toDigits {base : Nat} (hone : 1 < base) (hbase : base ≤ 16) (zeros n : Nat) :
    readDigits base (List.replicate zeros '0' ++ Nat.toDigits base n) = some n := by
  have hne : (List.replicate zeros '0' ++ Nat.toDigits base n).isEmpty = false := by
    simp [Nat.toDigits_ne_nil]
  rw [readDigits, hne, readDigitsFrom_zeros (by omega), readDigitsFrom_toDigits hone hbase]
  rfl

theorem readDigits_map_toLower (base : Nat) (cs : List Char) :
    readDigits base (cs.map Char.toLower) = readDigits base cs := by
  have hfrom : ∀ n, readDigitsFrom base n (cs.map Char.toLower) = readDigitsFrom base n cs := by
    induction cs with
    | nil => exact fun _ => rfl
    | cons c cs ih => simp only [List.map_cons, readDigitsFrom, digitIn?_toLower, ih, implies_true]
  simp [readDigits, hfrom]

/-! ### Numerals -/

private theorem exists_of_mem_toDigits {base n : Nat} (hone : 1 < base) {c : Char} (h : c ∈ Nat.toDigits base n) :
    ∃ d < base, c = Nat.digitChar d := by
  induction n using Nat.strongRecOn with
  | _ n ih =>
    rw [Nat.toDigits_eq_if hone] at h
    split at h
    · next hn => exact ⟨n, hn, List.mem_singleton.mp h⟩
    · next hn =>
      rcases List.mem_append.mp h with h | h
      · exact ih _ (Nat.div_lt_self (by omega) hone) h
      · exact ⟨n % base, Nat.mod_lt n (by omega), List.mem_singleton.mp h⟩

/-- Only zero starts with the digit zero. -/
private theorem head?_toDigits_ne {base n : Nat} (hone : 1 < base) (hn : n ≠ 0) :
    (Nat.toDigits base n).head? ≠ some '0' := by
  induction n using Nat.strongRecOn with
  | _ n ih =>
    rw [Nat.toDigits_eq_if hone]
    split
    · simpa using hn
    · next hlarge =>
      have hpos := Nat.div_pos (Nat.not_lt.mp hlarge) (by omega)
      have ih := ih (n / base) (Nat.div_lt_self (by omega) hone) (by omega)
      obtain ⟨c, cs, hcs⟩ := List.exists_cons_of_ne_nil (Nat.toDigits_ne_nil (n := n / base) (b := base))
      rw [hcs] at ih ⊢
      exact ih

private theorem readMarked_toDigits {n : Nat} (h : (Nat.toDigits 10 n).length ≤ 4300) :
    readMarked (Nat.toDigits 10 n) = some n := by
  have hdecimal : readDecimal (Nat.toDigits 10 n) = some n := by
    have hread := readDigits_toDigits (show 1 < 10 by decide) (by decide) 0 n
    rw [readDecimal, decimalLimit, if_pos h]
    simpa using hread
  have hmark {c d : Char} {cs : List Char} (hd : d.isDigit = false) : Nat.toDigits 10 n ≠ c :: d :: cs := by
    intro heq
    have hmem : d ∈ Nat.toDigits 10 n := by simp [heq]
    have hdigit := Nat.isDigit_of_mem_toDigits (by decide) (Nat.le_refl 10) hmem
    rw [hd] at hdigit
    exact absurd hdigit (by simp)
  unfold readMarked
  split
  · next heq => exact absurd heq (hmark rfl)
  · next heq => exact absurd heq (hmark rfl)
  · next heq => exact absurd heq (hmark rfl)
  · next heq => exact absurd heq (hmark rfl)
  · next heq => exact absurd heq (hmark rfl)
  · next heq => exact absurd heq (hmark rfl)
  · next heq =>
    have hn : n = 0 := by
      by_contra hn
      exact head?_toDigits_ne (show 1 < 10 by decide) hn (by rw [heq]; rfl)
    rw [hdecimal, hn]
    rfl
  · exact hdecimal

/-- A text in the middle of ASCII has no margin, no sign and no digits of other scripts. -/
private theorem readInteger_eq {cs : List Char} (h : ∀ c ∈ cs, 48 ≤ c.toNat ∧ c.toNat ≤ 122) :
    readInteger cs = (readMarked cs).map Int.ofNat := by
  have hmargin : ∀ c ∈ cs, isMargin c = false := by
    intro c hc
    have := h c hc
    simp only [isMargin, Bool.or_eq_false_iff, Bool.and_eq_false_iff, decide_eq_false_iff_not, beq_eq_false_iff_ne]
    omega
  have hfront : cs.dropWhile isMargin = cs := by
    cases cs with
    | nil => rfl
    | cons c cs => exact List.dropWhile_cons_of_neg (by simp [hmargin c List.mem_cons_self])
  have hascii : cs.map asciiDigit = cs := by
    conv_rhs => rw [← List.map_id cs]
    refine List.map_congr_left fun c hc => if_pos ?_
    have := (h c hc).2
    omega
  rw [readInteger, hfront, dropEndWhile_eq_self hmargin, hascii]
  unfold readSigned
  split
  · exact absurd (h '-' List.mem_cons_self).1 (by decide)
  · exact absurd (h '+' List.mem_cons_self).1 (by decide)
  · rfl

end Text

namespace Literal

open Text

/-- The texts of a number without underscores and suffix: its decimal digits, at most 4300 of them, or behind the mark of
the base its hexadecimal or binary digits, with any number of zeros in front and in letters of either case. -/
inductive Renders (n : Nat) : List Char → Prop
  | decimal (h : (Nat.toDigits 10 n).length ≤ 4300) : Renders n (Nat.toDigits 10 n)
  | hexadecimal {mark : Char} {digits : List Char} (zeros : Nat) (hmark : mark = 'x' ∨ mark = 'X')
      (hdigits : digits.map Char.toLower = List.replicate zeros '0' ++ Nat.toDigits 16 n) :
      Renders n ('0' :: mark :: digits)
  | binary {mark : Char} (zeros : Nat) (hmark : mark = 'b' ∨ mark = 'B') :
      Renders n ('0' :: mark :: (List.replicate zeros '0' ++ Nat.toDigits 2 n))

/-- Whether a text is a literal for a number: a text of the number with underscores in it and a suffix behind it. -/
def Writes (n : Nat) (text : String) : Prop :=
  ∃ numeral suffix, text.toList = numeral ++ suffix ∧ Renders n (numeral.filter (· != '_')) ∧
    ∀ c ∈ suffix, c ∈ ['u', 'U', 'l', 'L']

theorem Renders.readMarked {n : Nat} {cs : List Char} (h : Renders n cs) : readMarked cs = some n := by
  cases h with
  | decimal hlength => exact readMarked_toDigits hlength
  | @hexadecimal mark digits zeros hmark hdigits =>
    have hread : readDigits 16 digits = some n := by
      rw [← readDigits_map_toLower, hdigits]
      exact readDigits_toDigits (by decide) (by decide) zeros n
    rcases hmark with rfl | rfl <;> exact hread
  | @binary mark zeros hmark =>
    have hread := readDigits_toDigits (show 1 < 2 by decide) (by decide) zeros n
    rcases hmark with rfl | rfl <;> exact hread

/-- The small forms of the characters of numerals. -/
def numeralChars : List Char := "0123456789abcdefx".toList

private theorem mem_numeralChars_of_toDigits {base n : Nat} (hone : 1 < base) (hbase : base ≤ 16) {c : Char}
    (h : c ∈ Nat.toDigits base n) : c ∈ numeralChars := by
  obtain ⟨d, hd, rfl⟩ := exists_of_mem_toDigits hone h
  have hd : d < 16 := by omega
  interval_cases d <;> decide

private theorem toLower_mem_numeralChars {c : Char} (h : c ∈ numeralChars) : c.toLower ∈ numeralChars := by
  have hall : numeralChars.all (fun c => c.toLower == c) = true := by decide
  rwa [beq_iff_eq.mp (List.all_eq_true.mp hall c h)]

private theorem Renders.mem_numeralChars {n : Nat} {cs : List Char} (h : Renders n cs) {c : Char} (hc : c ∈ cs) :
    c.toLower ∈ numeralChars := by
  have hzero : '0' ∈ numeralChars := by decide
  cases h with
  | decimal => exact toLower_mem_numeralChars (mem_numeralChars_of_toDigits (by decide) (by decide) hc)
  | hexadecimal zeros hmark hdigits =>
    rcases List.mem_cons.mp hc with rfl | hc
    · exact hzero
    · rcases List.mem_cons.mp hc with rfl | hc
      · rcases hmark with rfl | rfl <;> decide
      · have hmem := List.mem_map_of_mem (f := Char.toLower) hc
        rw [hdigits] at hmem
        rcases List.mem_append.mp hmem with hmem | hmem
        · rwa [List.eq_of_mem_replicate hmem]
        · exact mem_numeralChars_of_toDigits (by decide) (by decide) hmem
  | binary zeros hmark =>
    rcases List.mem_cons.mp hc with rfl | hc
    · exact hzero
    · rcases List.mem_cons.mp hc with rfl | hc
      · rcases hmark with rfl | rfl <;> decide
      · rcases List.mem_append.mp hc with hc | hc
        · rwa [List.eq_of_mem_replicate hc]
        · exact toLower_mem_numeralChars (mem_numeralChars_of_toDigits (by decide) (by decide) hc)

private theorem bounds_of_mem_numeralChars {c : Char} (h : c.toLower ∈ numeralChars) :
    48 ≤ c.toNat ∧ c.toNat ≤ 122 := by
  rcases toLower_cases c with hc | hc
  · rw [hc] at h
    have hall : numeralChars.all (fun c => 48 ≤ c.toNat && c.toNat ≤ 122) = true := by decide
    simpa using List.all_eq_true.mp hall c h
  · omega

private theorem isSuffixLetter_of_mem_numeralChars {c : Char} (h : c.toLower ∈ numeralChars) :
    isSuffixLetter c = false := by
  rw [← Bool.not_eq_true]
  intro hsuffix
  simp only [isSuffixLetter, Bool.or_eq_true, beq_iff_eq, or_assoc] at hsuffix
  rcases hsuffix with rfl | rfl | rfl | rfl <;> exact absurd h (by decide)

/-- The value of a literal for a number is the number. -/
theorem value?_of_writes {n : Nat} {text : String} (h : Writes n text) :
    value? .integerLiteral text = some (.number n) := by
  obtain ⟨numeral, suffix, htext, hrenders, hsuffix⟩ := h
  have hletters : ∀ c ∈ suffix, isSuffixLetter c = true := by
    intro c hc
    have := hsuffix c hc
    simpa [isSuffixLetter, or_assoc] using this
  have hnumeral : ∀ c ∈ numeral, isSuffixLetter c = false := by
    intro c hc
    by_cases hunderscore : c = '_'
    · rw [hunderscore]
      rfl
    · exact isSuffixLetter_of_mem_numeralChars (hrenders.mem_numeralChars (by simp [hc, hunderscore]))
  have hdigits : dropEndWhile isSuffixLetter text.toList = numeral := by
    rw [htext, dropEndWhile_append_of_forall _ hletters, dropEndWhile_eq_self hnumeral]
  have hread : integer? text.toList = some n := by
    rw [integer?, hdigits, readInteger_eq fun c hc => bounds_of_mem_numeralChars (hrenders.mem_numeralChars hc),
      hrenders.readMarked]
    rfl
  rw [value?, hread]
  rfl

/-- Underscores between the mark and the digits and behind them, and a suffix, behind digits in letters of both cases. -/
theorem value?_of_writes_marked :
    Writes 0xBEEF "0_X__00bE_eF_uLL" ∧ value? .integerLiteral "0_X__00bE_eF_uLL" = some (.number 0xBEEF) := by
  have hdigits : ("0_X__00bE_eF_".toList.filter (· != '_')) = '0' :: 'X' :: "00bEeF".toList := by decide
  have h : Writes 0xBEEF "0_X__00bE_eF_uLL" := by
    refine ⟨"0_X__00bE_eF_".toList, "uLL".toList, by decide, ?_, by simp⟩
    rw [hdigits]
    exact .hexadecimal 2 (.inr rfl) (by decide)
  exact ⟨h, value?_of_writes h⟩

end Literal

end Rollcall
