import Mathlib.Data.List.Basic
import Mathlib.Data.List.TakeWhile
import Rollcall.Text.Utf8

/-!
# Texts in UTF-8

What reading bytes as UTF-8 gives, for a text that is written out and for bytes that are cut off anywhere.

* Reading what `encode` writes gives the text back, whatever follows it (`decode_encode_append`).
* The first bytes of any text show its characters as far as they are there as a whole, and one replacement for a
  character that is cut (`exists_isCut`).  A character is there as a whole exactly when it ends within these bytes
  (`IsCut.prefix_iff`).
-/

namespace Rollcall.Text

/-- The bytes of a text in UTF-8. -/
def encode (cs : List Char) : List UInt8 :=
  cs.flatMap String.utf8EncodeChar

@[simp] theorem encode_nil : encode [] = [] := rfl

theorem encode_cons (c : Char) (cs : List Char) : encode (c :: cs) = String.utf8EncodeChar c ++ encode cs := rfl

theorem encode_append (cs ds : List Char) : encode (cs ++ ds) = encode cs ++ encode ds := by
  simp [encode]

/-! ### Single characters -/

private theorem decode_cons (lead : UInt8) (rest : List UInt8) :
    decode (lead :: rest) = (firstChar lead rest).1 :: decode (rest.drop (firstChar lead rest).2) := by
  rw [decode]

private theorem continuationsAfter?_eq (lead : UInt8) : continuationsAfter? lead =
    if 0xC2 ≤ lead.toNat ∧ lead.toNat ≤ 0xDF then some (1, 0x80, 0xBF)
    else if lead.toNat = 0xE0 then some (2, 0xA0, 0xBF)
    else if lead.toNat = 0xED then some (2, 0x80, 0x9F)
    else if 0xE1 ≤ lead.toNat ∧ lead.toNat ≤ 0xEF then some (2, 0x80, 0xBF)
    else if lead.toNat = 0xF0 then some (3, 0x90, 0xBF)
    else if 0xF1 ≤ lead.toNat ∧ lead.toNat ≤ 0xF3 then some (3, 0x80, 0xBF)
    else if lead.toNat = 0xF4 then some (3, 0x80, 0x8F)
    else none := by
  unfold continuationsAfter?
  simp only [Bool.and_eq_true, decide_eq_true_eq, UInt8.le_iff_toNat_le, beq_iff_eq, ← UInt8.toNat_inj]
  rfl

private theorem isContinuation_iff {b : UInt8} : isContinuation b = true ↔ 0x80 ≤ b.toNat ∧ b.toNat ≤ 0xBF := by
  simp only [isContinuation, Bool.and_eq_true, decide_eq_true_eq, UInt8.le_iff_toNat_le]
  rfl

private theorem codePoint_one (lead b : UInt8) : codePoint 1 lead [b] = lead.toNat % 32 * 64 + b.toNat % 64 := rfl

private theorem codePoint_two (lead b d : UInt8) :
    codePoint 2 lead [b, d] = (lead.toNat % 16 * 64 + b.toNat % 64) * 64 + d.toNat % 64 := rfl

private theorem codePoint_three (lead b d e : UInt8) :
    codePoint 3 lead [b, d, e] = ((lead.toNat % 8 * 64 + b.toNat % 64) * 64 + d.toNat % 64) * 64 + e.toNat % 64 := rfl

/-- A leading byte with all the continuation bytes that it asks for. -/
private theorem firstChar_of_continuations {c : Char} {lead low high b : UInt8} {more : List UInt8}
    (hlead : 0x80 ≤ lead.toNat) (hcount : continuationsAfter? lead = some (more.length + 1, low, high))
    (hlow : low.toNat ≤ b.toNat) (hhigh : b.toNat ≤ high.toNat) (hmore : ∀ x ∈ more, isContinuation x = true)
    (hc : codePoint (more.length + 1) lead (b :: more) = c.toNat) (bs : List UInt8) :
    firstChar lead (b :: more ++ bs) = (c, (b :: more).length) := by
  have hascii : ¬ lead < 0x80 := by
    rw [UInt8.lt_iff_toNat_lt]
    exact Nat.not_lt.mpr hlead
  have htake : takeContinuations (more.length + 1) low high (b :: (more ++ bs)) = b :: more := by
    simp [takeContinuations, UInt8.le_iff_toNat_le, hlow, hhigh, List.takeWhile_eq_self_iff.mpr hmore]
  rw [List.cons_append]
  simp [firstChar, hascii, hcount, htake, hc]

private theorem exists_two_continuations {lead b : UInt8} {v : Nat} (hlead : lead.toNat = v / 4096 % 16 + 0xE0)
    (hb : b.toNat = v / 64 % 64 + 0x80) (hlow : 0x800 ≤ v) (hhigh : v ≤ 0xFFFF) (hv : v < 0xD800 ∨ 0xDFFF < v) :
    ∃ low high, continuationsAfter? lead = some (2, low, high) ∧ low.toNat ≤ b.toNat ∧ b.toNat ≤ high.toNat := by
  have h80 : (0x80 : UInt8).toNat = 0x80 := rfl
  have h9F : (0x9F : UInt8).toNat = 0x9F := rfl
  have hA0 : (0xA0 : UInt8).toNat = 0xA0 := rfl
  have hBF : (0xBF : UInt8).toNat = 0xBF := rfl
  rw [continuationsAfter?_eq, if_neg (by omega)]
  split
  · exact ⟨_, _, rfl, by omega, by omega⟩
  · split
    · exact ⟨_, _, rfl, by omega, by omega⟩
    · rw [if_pos (by omega)]
      exact ⟨_, _, rfl, by omega, by omega⟩

private theorem exists_three_continuations {lead b : UInt8} {v : Nat} (hlead : lead.toNat = v / 262144 % 8 + 0xF0)
    (hb : b.toNat = v / 4096 % 64 + 0x80) (hlow : 0x10000 ≤ v) (hhigh : v < 0x110000) :
    ∃ low high, continuationsAfter? lead = some (3, low, high) ∧ low.toNat ≤ b.toNat ∧ b.toNat ≤ high.toNat := by
  have h80 : (0x80 : UInt8).toNat = 0x80 := rfl
  have h8F : (0x8F : UInt8).toNat = 0x8F := rfl
  have h90 : (0x90 : UInt8).toNat = 0x90 := rfl
  have hBF : (0xBF : UInt8).toNat = 0xBF := rfl
  rw [continuationsAfter?_eq, if_neg (by omega), if_neg (by omega), if_neg (by omega), if_neg (by omega)]
  split
  · exact ⟨_, _, rfl, by omega, by omega⟩
  · split
    · exact ⟨_, _, rfl, by omega, by omega⟩
    · rw [if_pos (by omega)]
      exact ⟨_, _, rfl, by omega, by omega⟩

/-- The bytes of a character are read as the character. -/
private theorem firstChar_utf8EncodeChar (c : Char) :
    ∃ lead more, String.utf8EncodeChar c = lead :: more ∧ ∀ bs, firstChar lead (more ++ bs) = (c, more.length) := by
  have hvalid : c.toNat < 0xD800 ∨ 0xDFFF < c.toNat ∧ c.toNat < 0x110000 := c.valid
  have htoNat {n : Nat} (hn : n < 256) : (UInt8.ofNat n).toNat = n := by
    rw [UInt8.toNat_ofNat']
    omega
  have hmore (n : Nat) : isContinuation (UInt8.ofNat (n % 0x40 + 0x80)) = true := by
    rw [isContinuation_iff, htoNat (by omega)]
    omega
  unfold String.utf8EncodeChar
  simp only [Char.toNat_val]
  generalize hv : c.toNat = v at *
  have h0 := htoNat (n := v % 0x40 + 0x80) (by omega)
  have h6 := htoNat (n := v / 64 % 0x40 + 0x80) (by omega)
  have h12 := htoNat (n := v / 4096 % 0x40 + 0x80) (by omega)
  split
  · next h1 =>
    refine ⟨_, [], rfl, fun bs => ?_⟩
    have hlead := htoNat (n := v) (by omega)
    have hlt : UInt8.ofNat v < 0x80 := by
      rw [UInt8.lt_iff_toNat_lt, hlead]
      exact Nat.lt_succ_of_le h1
    simp only [firstChar, hlt, if_true, List.length_nil, hlead]
    rw [← hv, Char.ofNat_toNat]
  · split
    · next h2 =>
      have hlead := htoNat (n := v / 64 % 0x20 + 0xC0) (by omega)
      have hcount := continuationsAfter?_eq (UInt8.ofNat (v / 64 % 0x20 + 0xC0))
      rw [hlead, if_pos (by omega)] at hcount
      refine ⟨_, [_], rfl, firstChar_of_continuations (by omega) hcount ?_ ?_ (by simp) ?_⟩
      · show 0x80 ≤ _
        omega
      · show _ ≤ 0xBF
        omega
      · rw [List.length_nil, codePoint_one, hlead, h0, hv]
        omega
    · split
      · next h3 =>
        have hlead := htoNat (n := v / 4096 % 0x10 + 0xE0) (by omega)
        obtain ⟨low, high, hcount, hlow, hhigh⟩ := exists_two_continuations hlead h6 (by omega) h3 (by omega)
        refine ⟨_, [_, _], rfl, firstChar_of_continuations (by omega) hcount hlow hhigh ?_ ?_⟩
        · exact List.forall_mem_singleton.mpr (hmore v)
        · rw [List.length_singleton, codePoint_two, hlead, h0, h6, hv]
          omega
      · next h3 =>
        have hlead := htoNat (n := v / 262144 % 0x08 + 0xF0) (by omega)
        obtain ⟨low, high, hcount, hlow, hhigh⟩ := exists_three_continuations hlead h12 (by omega) (by omega)
        refine ⟨_, [_, _, _], rfl, firstChar_of_continuations (by omega) hcount hlow hhigh ?_ ?_⟩
        · exact List.forall_mem_cons.mpr ⟨hmore (v / 64), List.forall_mem_singleton.mpr (hmore v)⟩
        · show codePoint 3 _ _ = _
          rw [codePoint_three, hlead, h0, h6, h12, hv]
          omega

theorem decode_encode_append (cs : List Char) (bs : List UInt8) : decode (encode cs ++ bs) = cs ++ decode bs := by
  induction cs with
  | nil => rfl
  | cons c cs ih =>
    obtain ⟨lead, more, hbytes, hfirst⟩ := firstChar_utf8EncodeChar c
    rw [encode_cons, hbytes, List.append_assoc, List.cons_append, decode_cons, hfirst, List.drop_left, ih]
    rfl

theorem decode_encode (cs : List Char) : decode (encode cs) = cs := by
  simpa [decode] using decode_encode_append cs []

/-! ### Positions of characters -/

/-- How many bytes the first `n` characters of a text take. -/
def offset : (n : Nat) → List UInt8 → Nat
  | 0, _ => 0
  | _ + 1, [] => 0
  | n + 1, lead :: rest => 1 + (firstChar lead rest).2 + offset n (rest.drop (firstChar lead rest).2)

@[simp] theorem offset_zero (bytes : List UInt8) : offset 0 bytes = 0 := by
  unfold offset
  rfl

private theorem offset_mono {m n : Nat} (h : m ≤ n) (bytes : List UInt8) : offset m bytes ≤ offset n bytes := by
  induction m generalizing n bytes with
  | zero => simp
  | succ m ih =>
    obtain ⟨n, rfl⟩ : ∃ k, n = k + 1 := ⟨n - 1, by omega⟩
    cases bytes with
    | nil => simp [offset]
    | cons lead rest =>
      have := ih (show m ≤ n by omega) (rest.drop (firstChar lead rest).2)
      simp only [offset]
      omega

theorem offset_encode_append (cs : List Char) (bs : List UInt8) :
    offset cs.length (encode cs ++ bs) = (encode cs).length := by
  induction cs with
  | nil => simp
  | cons c cs ih =>
    obtain ⟨lead, more, hbytes, hfirst⟩ := firstChar_utf8EncodeChar c
    rw [encode_cons, hbytes, List.append_assoc, List.cons_append, List.length_cons, offset, hfirst, List.drop_left, ih]
    simp only [List.length_append, List.length_cons]
    omega

/-! ### Bytes that are cut off -/

private theorem takeContinuations_take (count : Nat) (low high : UInt8) (rest : List UInt8) (n : Nat) :
    takeContinuations count low high (rest.take n) = (takeContinuations count low high rest).take n := by
  cases rest with
  | nil => simp [takeContinuations]
  | cons b rest =>
    cases n with
    | zero => simp [takeContinuations]
    | succ n =>
      rw [List.take_succ_cons, takeContinuations, takeContinuations]
      split
      · rw [List.take_succ_cons, List.take_take, Nat.min_comm, ← List.take_take, List.take_takeWhile]
      · simp

/-- What a leading byte outside ASCII stands for: it asks for bytes that are there, or for more than there are. -/
private theorem firstChar_of_not_ascii {lead : UInt8} (hlead : ¬ lead < 0x80) (rest : List UInt8) :
    firstChar lead rest = (replacement, 0) ∧ continuationsAfter? lead = none ∨
      ∃ count low high, continuationsAfter? lead = some (count, low, high) ∧
        firstChar lead rest = if (takeContinuations count low high rest).length = count then
            (Char.ofNat (codePoint count lead (takeContinuations count low high rest)), count)
          else (replacement, (takeContinuations count low high rest).length) := by
  unfold firstChar
  rw [if_neg hlead]
  split
  · exact .inl ⟨rfl, by assumption⟩
  · exact .inr ⟨_, _, _, by assumption, rfl⟩

private theorem length_takeContinuations_le (count : Nat) (low high : UInt8) (rest : List UInt8) :
    (takeContinuations count low high rest).length ≤ count := by
  cases rest with
  | nil => simp [takeContinuations]
  | cons b rest =>
    rw [takeContinuations]
    split
    · next h =>
      simp only [Bool.and_eq_true, decide_eq_true_eq] at h
      have hle := (List.takeWhile_sublist isContinuation (l := rest.take (count - 1))).length_le
      rw [List.length_take] at hle
      simp only [List.length_cons]
      omega
    · simp

/-- A character whose bytes are cut off is read as one replacement. -/
private theorem firstChar_take (lead : UInt8) (rest : List UInt8) (n : Nat) :
    firstChar lead (rest.take n) =
      if (firstChar lead rest).2 ≤ n then firstChar lead rest else (replacement, n) := by
  by_cases hlead : lead < 0x80
  · simp [firstChar, hlead]
  · rcases firstChar_of_not_ascii hlead rest with ⟨hrest, hnone⟩ | ⟨count, low, high, hcount, hrest⟩
    · rw [hrest, if_pos (Nat.zero_le n)]
      simp [firstChar, hlead, hnone]
    · have hsize : (firstChar lead rest).2 = (takeContinuations count low high rest).length := by
        rw [hrest]
        split <;> simp_all
      have hle := length_takeContinuations_le count low high rest
      rw [hsize]
      rcases firstChar_of_not_ascii hlead (rest.take n) with ⟨-, hnone⟩ | ⟨count', low', high', hcount', htake⟩
      · rw [hcount] at hnone
        cases hnone
      · rw [hcount] at hcount'
        cases hcount'
        rw [htake, takeContinuations_take, hrest]
        by_cases hn : (takeContinuations count low high rest).length ≤ n
        · rw [if_pos hn, List.take_of_length_le hn]
        · have hlength : ((takeContinuations count low high rest).take n).length = n := by
            rw [List.length_take]
            omega
          rw [if_neg hn, hlength, if_neg (by omega)]

private theorem exists_cons_of_takeContinuations {count : Nat} {low high : UInt8} {rest : List UInt8}
    (h : (takeContinuations (count + 1) low high rest).length = count + 1) :
    ∃ b more, takeContinuations (count + 1) low high rest = b :: more ∧ low.toNat ≤ b.toNat ∧
      b.toNat ≤ high.toNat ∧ more.length = count := by
  cases rest with
  | nil => exact absurd h (by simp [takeContinuations])
  | cons b rest =>
    rw [takeContinuations] at h ⊢
    split at h
    · next hb =>
      rw [if_pos hb]
      simp only [Bool.and_eq_true, decide_eq_true_eq, UInt8.le_iff_toNat_le] at hb
      exact ⟨b, _, rfl, hb.1.2, hb.2, Nat.succ.inj h⟩
    · exact absurd h (by simp)

/-- How many bytes a leading byte asks for, and where the first of them may lie. -/
private theorem continuationsAfter?_cases {lead low high : UInt8} {count : Nat}
    (h : continuationsAfter? lead = some (count, low, high)) :
    0x80 ≤ low.toNat ∧ high.toNat ≤ 0xBF ∧
      (count = 1 ∧ 0xC2 ≤ lead.toNat ∧ lead.toNat ≤ 0xDF ∨
        count = 2 ∧ 0xE0 ≤ lead.toNat ∧ lead.toNat ≤ 0xEF ∧ (lead.toNat = 0xE0 → 0xA0 ≤ low.toNat) ∧
          (lead.toNat = 0xED → high.toNat ≤ 0x9F) ∨
        count = 3 ∧ 0xF0 ≤ lead.toNat ∧ lead.toNat ≤ 0xF4 ∧ (lead.toNat = 0xF0 → 0x90 ≤ low.toNat) ∧
          (lead.toNat = 0xF4 → high.toNat ≤ 0x8F)) := by
  have h80 : (0x80 : UInt8).toNat = 0x80 := rfl
  have h8F : (0x8F : UInt8).toNat = 0x8F := rfl
  have h90 : (0x90 : UInt8).toNat = 0x90 := rfl
  have h9F : (0x9F : UInt8).toNat = 0x9F := rfl
  have hA0 : (0xA0 : UInt8).toNat = 0xA0 := rfl
  have hBF : (0xBF : UInt8).toNat = 0xBF := rfl
  rw [continuationsAfter?_eq] at h
  split at h
  · cases h
    omega
  · split at h
    · cases h
      omega
    · split at h
      · cases h
        omega
      · split at h
        · cases h
          omega
        · split at h
          · cases h
            omega
          · split at h
            · cases h
              omega
            · split at h
              · cases h
                omega
              · cases h

/-- Bytes that are well formed behind a leading byte outside ASCII give a character outside ASCII. -/
private theorem codePoint_of_continuationsAfter? {lead low high : UInt8} {count : Nat} {rest : List UInt8}
    (hcount : continuationsAfter? lead = some (count, low, high))
    (hfull : (takeContinuations count low high rest).length = count) :
    (codePoint count lead (takeContinuations count low high rest)).isValidChar ∧
      0x80 ≤ codePoint count lead (takeContinuations count low high rest) := by
  unfold Nat.isValidChar
  obtain ⟨hge, hle, ⟨rfl, hlead⟩ | ⟨rfl, hlead⟩ | ⟨rfl, hlead⟩⟩ := continuationsAfter?_cases hcount
  · obtain ⟨b, more, hb, hlow, hhigh, hmore⟩ := exists_cons_of_takeContinuations hfull
    obtain rfl := List.length_eq_zero_iff.mp hmore
    rw [hb, codePoint_one]
    omega
  · obtain ⟨b, more, hb, hlow, hhigh, hmore⟩ := exists_cons_of_takeContinuations hfull
    obtain ⟨d, rfl⟩ := List.length_eq_one_iff.mp hmore
    rw [hb, codePoint_two]
    omega
  · obtain ⟨b, more, hb, hlow, hhigh, hmore⟩ := exists_cons_of_takeContinuations hfull
    obtain ⟨d, e, rfl⟩ := List.length_eq_two.mp hmore
    rw [hb, codePoint_three]
    omega

/-- A leading byte outside ASCII gives no ASCII character, whatever follows it. -/
private theorem le_toNat_firstChar {lead : UInt8} (hlead : ¬ lead < 0x80) (rest : List UInt8) :
    0x80 ≤ (firstChar lead rest).1.toNat := by
  have hreplacement : 0x80 ≤ replacement.toNat := by decide
  rcases firstChar_of_not_ascii hlead rest with ⟨hrest, -⟩ | ⟨count, low, high, hcount, hrest⟩
  · rw [hrest]
    exact hreplacement
  · rw [hrest]
    split
    · next hfull =>
      obtain ⟨hvalid, hle⟩ := codePoint_of_continuationsAfter? hcount hfull
      rwa [toNat_ofNat hvalid]
    · exact hreplacement

/-- What a text that is cut in front of `unseen` shows there: a replacement if it is cut inside a character, and nothing
else.  No ASCII character can be cut. -/
def IsMark (mark unseen : List Char) : Prop :=
  mark = [] ∨ mark = [replacement] ∧ ∃ c rest, unseen = c :: rest ∧ 0x80 ≤ c.toNat

/-- What the first `size` bytes of a text show of it: the characters `seen` that are there as a whole, and a mark for
one that is cut. -/
structure IsCut (size : Nat) (bytes : List UInt8) (seen unseen mark : List Char) : Prop where
  text : decode bytes = seen ++ unseen
  shown : decode (bytes.take size) = seen ++ mark
  fits : offset seen.length bytes ≤ size
  overflows : unseen ≠ [] → size < offset (seen.length + 1) bytes
  isMark : IsMark mark unseen

theorem exists_isCut (size : Nat) (bytes : List UInt8) : ∃ seen unseen mark, IsCut size bytes seen unseen mark := by
  -- the recursion of `decode` goes to the bytes behind the first character
  induction hn : bytes.length using Nat.strongRecOn generalizing bytes size with
  | _ n ih =>
    cases bytes with
    | nil => exact ⟨[], [], [], by simp [decode], by simp [decode], by simp, by simp, .inl rfl⟩
    | cons lead rest =>
      cases size with
      | zero =>
        have hpos : 0 < offset 1 (lead :: rest) := by
          rw [offset]
          omega
        exact ⟨[], _, [], rfl, by simp [decode], by simp, fun _ => hpos, .inl rfl⟩
      | succ size =>
        have hcut := firstChar_take lead rest size
        by_cases hsize : (firstChar lead rest).2 ≤ size
        · rw [if_pos hsize] at hcut
          have hlength : (rest.drop (firstChar lead rest).2).length < n := by
            rw [List.length_drop, ← hn, List.length_cons]
            omega
          obtain ⟨seen, unseen, mark, h⟩ := ih _ hlength (size - (firstChar lead rest).2) _ rfl
          refine ⟨(firstChar lead rest).1 :: seen, unseen, mark, ?_, ?_, ?_, ?_, h.isMark⟩
          · rw [decode_cons, h.text]
            rfl
          · rw [List.take_succ_cons, decode_cons, hcut, List.drop_take, h.shown]
            rfl
          · have := h.fits
            rw [List.length_cons, offset]
            omega
          · intro hne
            have := h.overflows hne
            rw [List.length_cons, offset]
            omega
        · rw [if_neg hsize] at hcut
          have hlead : ¬ lead < 0x80 := by
            intro hascii
            simp [firstChar, hascii] at hsize
          refine ⟨[], _, [replacement], rfl, ?_, by simp, ?_, .inr ⟨rfl, _, _, decode_cons lead rest, ?_⟩⟩
          · rw [List.take_succ_cons, decode_cons, hcut, List.drop_take_self]
            simp [decode]
          · intro _
            simp only [List.length_nil, offset]
            omega
          · exact le_toNat_firstChar hlead rest

/-- A beginning of a text is shown exactly when it ends within the bytes that are. -/
theorem IsCut.prefix_iff {size : Nat} {bytes : List UInt8} {seen unseen mark u : List Char}
    (h : IsCut size bytes seen unseen mark) (hu : u <+: decode bytes) : u <+: seen ↔ offset u.length bytes ≤ size := by
  have hseen : seen <+: decode bytes := by
    rw [h.text]
    exact List.prefix_append _ _
  constructor
  · intro hle
    have := offset_mono hle.length_le bytes
    have := h.fits
    omega
  · intro hle
    apply List.prefix_of_prefix_length_le hu hseen
    by_contra hlt
    have hne : unseen ≠ [] := by
      rintro rfl
      have := hu.length_le
      rw [h.text, List.append_nil] at this
      omega
    have := h.overflows hne
    have := offset_mono (show seen.length + 1 ≤ u.length by omega) bytes
    omega

/-! ### Texts with a byte order mark -/

/-- How many bytes the byte order mark of a text takes. -/
def markSize (bytes : List UInt8) : Nat :=
  if byteOrderMark.isPrefixOf bytes then 3 else 0

/-- How many bytes the first `n` characters of a text take, together with a byte order mark in front of them. -/
def offsetMarked (n : Nat) (bytes : List UInt8) : Nat :=
  markSize bytes + offset n (bytes.drop (markSize bytes))

theorem decodeMarked_eq (bytes : List UInt8) : decodeMarked bytes = decode (bytes.drop (markSize bytes)) := by
  unfold decodeMarked markSize
  split
  · simp [byteOrderMark]
  · next hnot =>
    rw [if_neg, List.drop_zero]
    rw [List.isPrefixOf_iff_prefix]
    rintro ⟨rest, rfl⟩
    exact hnot rest rfl

private theorem markSize_take {n : Nat} (hn : 3 ≤ n) (bytes : List UInt8) :
    markSize (bytes.take n) = markSize bytes := by
  have hiff : byteOrderMark <+: bytes.take n ↔ byteOrderMark <+: bytes := by
    rw [List.prefix_take_iff]
    simp [byteOrderMark, hn]
  unfold markSize
  simp only [List.isPrefixOf_iff_prefix, hiff]

theorem decodeMarked_take {n : Nat} (hn : 3 ≤ n) (bytes : List UInt8) :
    decodeMarked (bytes.take n) = decode ((bytes.drop (markSize bytes)).take (n - markSize bytes)) := by
  rw [decodeMarked_eq, markSize_take hn, List.drop_take]

/-- The bytes of a text that are not taken for those of a byte order mark and another text. -/
theorem markSize_encode {cs : List Char} (h : cs.head? ≠ some '\uFEFF') : markSize (encode cs) = 0 := by
  unfold markSize
  rw [if_neg]
  rw [List.isPrefixOf_iff_prefix]
  rintro ⟨rest, hrest⟩
  have hmark : byteOrderMark = encode ['\uFEFF'] := by decide
  have htext := decode_encode cs
  rw [← hrest, hmark, decode_encode_append] at htext
  rw [← htext] at h
  exact h rfl

theorem markSize_append (bytes : List UInt8) : markSize (byteOrderMark ++ bytes) = 3 := by
  unfold markSize
  rw [if_pos]
  rw [List.isPrefixOf_iff_prefix]
  exact List.prefix_append _ _

end Rollcall.Text
