import Rollcall.Proofs.Encoding
import Rollcall.Proofs.Letters

/-!
# Headers of generated files

What leads up to the first declaration of a source: white space and comments, one after the other (`Leads`).  Every text
is divided into these pieces and a rest in which no further piece begins (`exists_leads`).  Together they are what the
expression `\A(?:\s+|//[^\n]*|/\*.*?\*/)*` takes of the text (`leadingTrivia_eq_iff`).

* When the pieces end within the bytes that are looked at, a source counts as generated by them alone
  (`isGenerated_of_trivia`).
* A tag within these bytes counts unless it stands in a block comment that is closed only behind them
  (`isGenerated_iff_clear`).  The comment is then no comment of what is looked at, and neither is the tag.
-/

namespace Rollcall.Generated

open Text

/-! ### The pieces of a header -/

/-- A piece of what leads up to the first declaration.  A line comment is taken without the end of its line. -/
inductive Piece where
  | blanks (run : List Char) (isBlank : ∀ c ∈ run, isBlank c = true)
  | line (inside : List Char) (oneLine : '\n' ∉ inside)
  | block (inside : List Char) (unclosed : ¬ ['*', '/'] <:+: inside)

namespace Piece

def text : Piece → List Char
  | .blanks run _ => run
  | .line inside _ => '/' :: '/' :: inside
  | .block inside _ => '/' :: '*' :: (inside ++ ['*', '/'])

def isLine : Piece → Bool
  | .line .. => true
  | _ => false

def isBlock : Piece → Bool
  | .block .. => true
  | _ => false

end Piece

/-- The text of some pieces. -/
def textOf (pieces : List Piece) : List Char :=
  pieces.flatMap Piece.text

@[simp] theorem textOf_nil : textOf [] = [] := rfl

@[simp] theorem textOf_cons (p : Piece) (pieces : List Piece) : textOf (p :: pieces) = p.text ++ textOf pieces := rfl

private theorem textOf_append (pieces more : List Piece) : textOf (pieces ++ more) = textOf pieces ++ textOf more := by
  simp [textOf]

/-- Whether nothing follows on the line. -/
def AtLineEnd (cs : List Char) : Prop :=
  cs = [] ∨ ∃ rest, cs = '\n' :: rest

/-- Whether a text begins with white space or with a comment that ends. -/
inductive BeginsPiece : List Char → Prop
  | blank {c : Char} {cs : List Char} (isBlank : isBlank c = true) : BeginsPiece (c :: cs)
  | line {cs : List Char} : BeginsPiece ('/' :: '/' :: cs)
  | block {cs : List Char} (closed : ['*', '/'] <:+: cs) : BeginsPiece ('/' :: '*' :: cs)

/-- Whether pieces are all that leads up to a rest. -/
inductive Leads : (pieces : List Piece) → (rest : List Char) → Prop
  | nil {rest : List Char} (ends : ¬ BeginsPiece rest) : Leads [] rest
  | cons {p : Piece} {pieces : List Piece} {rest : List Char}
      (ofLine : p.isLine = true → AtLineEnd (textOf pieces ++ rest)) (leads : Leads pieces rest) :
      Leads (p :: pieces) rest

/-! ### Reading pieces -/

private theorem closeComment?_of_infix_not {inside : List Char} (h : ¬ ['*', '/'] <:+: inside) (cs : List Char) :
    closeComment? (inside ++ '*' :: '/' :: cs) = some (inside ++ ['*', '/'], cs) := by
  induction inside with
  | nil => rfl
  | cons c inside ih =>
    have htail : ¬ ['*', '/'] <:+: inside := fun hi => h (hi.trans (List.infix_cons List.infix_rfl))
    rw [List.cons_append, closeComment?, ih htail]
    · rfl
    · intro ds hc hds
      subst hc
      cases inside with
      | nil => simp at hds
      | cons d inside =>
        rw [List.cons_append, List.cons.injEq] at hds
        obtain ⟨rfl, -⟩ := hds
        exact h ⟨[], inside, rfl⟩

private theorem exists_of_closeComment? {cs inside rest : List Char} (h : closeComment? cs = some (inside, rest)) :
    ∃ ds, inside = ds ++ ['*', '/'] ∧ ¬ ['*', '/'] <:+: ds := by
  fun_induction closeComment? cs generalizing inside with
  | case1 => cases h
  | case2 cs =>
    cases h
    exact ⟨[], rfl, by simp⟩
  | case3 c cs hnot ih =>
    obtain ⟨⟨i, r⟩, hi, he⟩ := Option.map_eq_some_iff.mp h
    cases he
    obtain ⟨ds, rfl, hds⟩ := ih hi
    refine ⟨c :: ds, rfl, ?_⟩
    rw [List.infix_cons_iff]
    rintro (⟨es, he⟩ | hinfix)
    · cases he
      exact hnot _ rfl (closeComment?_append hi)
    · exact hds hinfix

private theorem closeComment?_eq_none_iff {cs : List Char} : closeComment? cs = none ↔ ¬ ['*', '/'] <:+: cs := by
  constructor
  · intro hnone hinfix
    fun_induction closeComment? cs with
    | case1 => simp at hinfix
    | case2 cs => cases hnone
    | case3 c cs hnot ih =>
      rcases List.infix_cons_iff.mp hinfix with ⟨es, he⟩ | hinfix
      · cases he
        exact hnot es rfl rfl
      · exact ih (Option.map_eq_none_iff.mp hnone) hinfix
  · intro hnot
    by_contra hsome
    obtain ⟨⟨inside, rest⟩, h⟩ := Option.ne_none_iff_exists'.mp hsome
    obtain ⟨ds, rfl, -⟩ := exists_of_closeComment? h
    rw [closeComment?_append h] at hnot
    exact hnot ⟨ds, rest, by simp⟩

private theorem not_beginsPiece_nil : ¬ BeginsPiece [] := by
  rintro ⟨⟩

private theorem leadingTrivia_of_not_beginsPiece {cs : List Char} (h : ¬ BeginsPiece cs) : leadingTrivia cs = [] := by
  apply leadingTrivia_eq_nil
  · rintro c ds rfl
    rw [← Bool.not_eq_true]
    exact fun hblank => h (.blank hblank)
  · rintro ds rfl
    exact h .line
  · rintro ds rfl
    rw [closeComment?_eq_none_iff]
    exact fun hclosed => h (.block hclosed)

/-- A piece is read off the text that it leads up to. -/
private theorem leadingTrivia_piece (p : Piece) {cs : List Char} (h : p.isLine = true → AtLineEnd cs) :
    leadingTrivia (p.text ++ cs) = p.text ++ leadingTrivia cs := by
  cases p with
  | blanks run hrun =>
    show leadingTrivia (run ++ cs) = run ++ leadingTrivia cs
    clear h
    induction run with
    | nil => rfl
    | cons c run ih =>
      have htail := ih fun d hd => hrun d (List.mem_cons_of_mem c hd)
      rw [List.cons_append, leadingTrivia_blank (hrun c List.mem_cons_self), htail]
      rfl
  | line inside hinside =>
    have hne : ∀ c ∈ inside, (c != '\n') = true := by
      intro c hc
      rw [bne_iff_ne]
      rintro rfl
      exact hinside hc
    have hend : cs.takeWhile (· != '\n') = [] ∧ cs.dropWhile (· != '\n') = cs := by
      rcases h rfl with rfl | ⟨rest, rfl⟩
      · exact ⟨rfl, rfl⟩
      · simp
    show leadingTrivia ('/' :: '/' :: (inside ++ cs)) = '/' :: '/' :: (inside ++ leadingTrivia cs)
    rw [leadingTrivia_line, List.takeWhile_append_of_pos hne, List.dropWhile_append_of_pos hne, hend.1, hend.2,
      List.append_nil]
  | block inside hinside =>
    have hclose : closeComment? (inside ++ ['*', '/'] ++ cs) = some (inside ++ ['*', '/'], cs) := by
      rw [List.append_assoc]
      exact closeComment?_of_infix_not hinside cs
    exact leadingTrivia_block hclose

/-- The pieces that lead up to a rest are what is read at the beginning of the text. -/
private theorem Leads.leadingTrivia_eq {pieces : List Piece} {rest : List Char} (h : Leads pieces rest) :
    leadingTrivia (textOf pieces ++ rest) = textOf pieces := by
  induction h with
  | nil hends => exact leadingTrivia_of_not_beginsPiece hends
  | cons hline _ ih => rw [textOf_cons, List.append_assoc, leadingTrivia_piece _ hline, ih]

/-! ### The expression for a header -/

/-- One round of the expression `(?:\s+|//[^\n]*|/\*.*?\*/)*`: what it takes of a text and what it leaves.  The first two
alternatives take as much as they can, the last one as little. -/
inductive Round : (taken rest : List Char) → Prop
  | blanks {run rest : List Char} (nonempty : run ≠ []) (isBlank : ∀ c ∈ run, isBlank c = true)
      (longest : ∀ c ∈ rest.head?, Text.isBlank c = false) : Round run rest
  | line {inside rest : List Char} (oneLine : '\n' ∉ inside) (longest : AtLineEnd rest) :
      Round ('/' :: '/' :: inside) rest
  | block {inside rest : List Char} (shortest : ¬ ['*', '/'] <:+: inside) :
      Round ('/' :: '*' :: (inside ++ ['*', '/'])) rest

/-- What the expression takes of a text and what it leaves: there is a round as long as one is possible. -/
inductive Rounds : (taken rest : List Char) → Prop
  | stop {rest : List Char} (ends : ∀ taken left, rest = taken ++ left → ¬ Round taken left) : Rounds [] rest
  | round {first taken rest : List Char} (takes : Round first (taken ++ rest)) (more : Rounds taken rest) :
      Rounds (first ++ taken) rest

private theorem Round.ne_nil {taken rest : List Char} (h : Round taken rest) : taken ≠ [] := by
  cases h with
  | blanks hne _ _ => exact hne
  | line _ _ => simp
  | block _ => simp

/-- A round takes a piece. -/
private theorem Round.exists_piece {taken rest : List Char} (h : Round taken rest) :
    ∃ p : Piece, p.text = taken ∧ (p.isLine = true → AtLineEnd rest) := by
  cases h with
  | blanks _ hblank _ => exact ⟨.blanks taken hblank, rfl, fun h => by cases h⟩
  | @line inside _ hinside hend => exact ⟨.line inside hinside, rfl, fun _ => hend⟩
  | @block inside _ hinside => exact ⟨.block inside hinside, rfl, fun h => by cases h⟩

private theorem exists_round {cs : List Char} (h : BeginsPiece cs) :
    ∃ taken rest, cs = taken ++ rest ∧ Round taken rest := by
  cases h with
  | @blank c cs hblank =>
    refine ⟨(c :: cs).takeWhile isBlank, (c :: cs).dropWhile isBlank, List.takeWhile_append_dropWhile.symm,
      .blanks (by simp [hblank]) (fun d hd => List.mem_takeWhile_imp hd) fun d hd => ?_⟩
    have hhead := List.head?_dropWhile_not isBlank (c :: cs)
    rw [Option.mem_def.mp hd] at hhead
    simpa using hhead
  | @line cs =>
    have hinside : '\n' ∉ cs.takeWhile (· != '\n') := by
      intro hmem
      exact absurd (List.mem_takeWhile_imp hmem) (by decide)
    refine ⟨'/' :: '/' :: cs.takeWhile (· != '\n'), cs.dropWhile (· != '\n'), ?_, .line hinside ?_⟩
    · rw [List.cons_append, List.cons_append, List.takeWhile_append_dropWhile]
    · cases hdrop : cs.dropWhile (· != '\n') with
      | nil => exact .inl rfl
      | cons d ds =>
        have hd := List.head?_dropWhile_not (· != '\n') cs
        rw [hdrop] at hd
        exact .inr ⟨ds, by simpa using hd⟩
  | @block cs hclosed =>
    obtain ⟨⟨inside, rest⟩, hclose⟩ : ∃ x, closeComment? cs = some x := by
      rw [← Option.ne_none_iff_exists', Ne, closeComment?_eq_none_iff, not_not]
      exact hclosed
    obtain ⟨ds, rfl, hds⟩ := exists_of_closeComment? hclose
    exact ⟨_, rest, by rw [closeComment?_append hclose]; rfl, .block hds⟩

/-- The expression takes something of every text. -/
private theorem exists_rounds (cs : List Char) : ∃ taken rest, cs = taken ++ rest ∧ Rounds taken rest := by
  induction hn : cs.length using Nat.strongRecOn generalizing cs with
  | _ n ih =>
    by_cases hround : ∃ taken rest, cs = taken ++ rest ∧ Round taken rest
    · obtain ⟨first, rest, rfl, hfirst⟩ := hround
      have hlength := List.length_pos_iff.mpr hfirst.ne_nil
      rw [List.length_append] at hn
      obtain ⟨taken, left, rfl, hmore⟩ := ih rest.length (by omega) rest rfl
      exact ⟨first ++ taken, left, (List.append_assoc ..).symm, .round hfirst hmore⟩
    · exact ⟨[], cs, rfl, .stop fun taken left heq h => hround ⟨taken, left, heq, h⟩⟩

/-- What the expression takes are pieces, which lead up to what it leaves. -/
theorem Rounds.exists_leads {taken rest : List Char} (h : Rounds taken rest) :
    ∃ pieces, textOf pieces = taken ∧ Leads pieces rest := by
  induction h with
  | stop hends =>
    refine ⟨[], rfl, .nil fun hbegins => ?_⟩
    obtain ⟨taken, left, heq, hround⟩ := exists_round hbegins
    exact hends taken left heq hround
  | round hfirst _ ih =>
    obtain ⟨pieces, rfl, hleads⟩ := ih
    obtain ⟨p, rfl, hline⟩ := hfirst.exists_piece
    exact ⟨p :: pieces, textOf_cons p pieces, .cons hline hleads⟩

/-- The white space and comments at the beginning of a text are what the expression takes of it. -/
theorem leadingTrivia_eq_iff {cs taken : List Char} :
    leadingTrivia cs = taken ↔ ∃ rest, cs = taken ++ rest ∧ Rounds taken rest := by
  have heq {taken rest : List Char} (h : Rounds taken rest) : leadingTrivia (taken ++ rest) = taken := by
    obtain ⟨pieces, rfl, hleads⟩ := h.exists_leads
    exact hleads.leadingTrivia_eq
  constructor
  · rintro rfl
    obtain ⟨taken, rest, rfl, h⟩ := exists_rounds cs
    rw [heq h]
    exact ⟨rest, rfl, h⟩
  · rintro ⟨rest, rfl, h⟩
    exact heq h

/-- Every text is divided into pieces and what they lead up to. -/
theorem exists_leads (cs : List Char) : ∃ pieces rest, cs = textOf pieces ++ rest ∧ Leads pieces rest := by
  obtain ⟨taken, rest, rfl, h⟩ := exists_rounds cs
  obtain ⟨pieces, rfl, hleads⟩ := h.exists_leads
  exact ⟨pieces, rest, rfl, hleads⟩

/-! ### Texts that are cut -/

theorem AtLineEnd.cut {cs unseen mark : List Char} (h : AtLineEnd (cs ++ unseen)) (hmark : IsMark mark unseen) :
    AtLineEnd (cs ++ mark) := by
  cases cs with
  | nil =>
    rcases hmark with rfl | ⟨-, c, rest, rfl, hc⟩
    · exact .inl rfl
    · rcases h with h | ⟨ds, h⟩
      · cases h
      · cases h
        exact absurd hc (by decide)
  | cons c cs =>
    rcases h with h | ⟨ds, h⟩
    · cases h
    · cases h
      exact .inr ⟨_, rfl⟩

theorem BeginsPiece.append {cs : List Char} (h : BeginsPiece cs) (ds : List Char) : BeginsPiece (cs ++ ds) := by
  cases h with
  | blank hblank => exact .blank hblank
  | line => exact .line
  | block hclosed => exact .block (hclosed.trans (List.prefix_append _ ds).isInfix)

private theorem BeginsPiece.of_replacement {cs : List Char} (h : BeginsPiece (cs ++ [replacement])) :
    BeginsPiece cs := by
  have hslash : replacement ≠ '/' := by decide
  have hstar : replacement ≠ '*' := by decide
  generalize hds : cs ++ [replacement] = ds at h
  cases h with
  | @blank c ds hblank =>
    cases cs with
    | nil =>
      cases hds
      exact absurd hblank (by decide)
    | cons c cs =>
      cases hds
      exact .blank hblank
  | line =>
    rcases cs with _ | ⟨c, _ | ⟨d, cs⟩⟩
    · exact absurd (List.cons.inj hds).1 hslash
    · exact absurd (List.cons.inj (List.cons.inj hds).2).1 hslash
    · cases hds
      exact .line
  | @block ds hclosed =>
    rcases cs with _ | ⟨c, _ | ⟨d, cs⟩⟩
    · exact absurd (List.cons.inj hds).1 hslash
    · exact absurd (List.cons.inj (List.cons.inj hds).2).1 hstar
    · cases hds
      rcases List.infix_concat_iff.mp hclosed with hsuffix | hinfix
      · obtain ⟨a, ha⟩ := hsuffix
        have hlast := congrArg List.getLast? ha
        simp [hslash.symm] at hlast
      · exact .block hinfix

private theorem BeginsPiece.of_mark {cs mark unseen : List Char} (h : BeginsPiece (cs ++ mark))
    (hmark : IsMark mark unseen) : BeginsPiece cs := by
  rcases hmark with rfl | ⟨rfl, -⟩
  · rwa [List.append_nil] at h
  · exact h.of_replacement

/-- No piece begins where a text is cut unless it begins in the text. -/
private theorem BeginsPiece.of_cut {cs unseen mark : List Char} (h : BeginsPiece (cs ++ mark))
    (hmark : IsMark mark unseen) : BeginsPiece (cs ++ unseen) :=
  (h.of_mark hmark).append unseen

theorem Leads.cut {pieces : List Piece} {cs unseen mark : List Char} (h : Leads pieces (cs ++ unseen))
    (hmark : IsMark mark unseen) : Leads pieces (cs ++ mark) := by
  generalize hrest : cs ++ unseen = rest at h
  induction h with
  | nil hends =>
    subst hrest
    exact .nil fun hbegins => hends (hbegins.of_cut hmark)
  | cons hline _ ih =>
    refine .cons (fun h => ?_) (ih hrest)
    have hend := hline h
    rw [← hrest, ← List.append_assoc] at hend
    rw [← List.append_assoc]
    exact hend.cut hmark

/-- Whether a beginning of the text ends within the bytes that are looked at. -/
def InWindow (bytes : List UInt8) (u : List Char) : Prop :=
  offsetMarked u.length bytes ≤ headSize

/-- What the bytes that are looked at show of a text. -/
private theorem exists_window (bytes : List UInt8) :
    ∃ seen unseen mark, decodeMarked bytes = seen ++ unseen ∧ IsMark mark unseen ∧
      (headMarks bytes = true ↔ Tagged (leadingTrivia (seen ++ mark))) ∧
      ∀ u, u <+: decodeMarked bytes → (u <+: seen ↔ InWindow bytes u) := by
  have hsize : markSize bytes ≤ headSize := by
    unfold markSize headSize
    split <;> omega
  obtain ⟨seen, unseen, mark, hcut⟩ := exists_isCut (headSize - markSize bytes) (bytes.drop (markSize bytes))
  have htext := decodeMarked_eq bytes
  refine ⟨seen, unseen, mark, htext.trans hcut.text, hcut.isMark, ?_, ?_⟩
  · unfold headMarks
    rw [decodeMarked_take (by decide), hcut.shown, holdsTag_iff]
  · intro u hu
    rw [htext] at hu
    rw [hcut.prefix_iff hu]
    unfold InWindow offsetMarked
    omega

/-! ### Sources whose header ends early enough -/

private theorem decodeMarked_source {mark : List UInt8} {cs : List Char}
    (hmark : mark = byteOrderMark ∨ mark = [] ∧ cs.head? ≠ some '\uFEFF') :
    decodeMarked (mark ++ encode cs) = cs ∧ markSize (mark ++ encode cs) = mark.length := by
  rcases hmark with rfl | ⟨rfl, hhead⟩
  · have hsize := markSize_append (encode cs)
    rw [decodeMarked_eq, hsize]
    exact ⟨decode_encode cs, rfl⟩
  · have hsize := markSize_encode hhead
    rw [List.nil_append, decodeMarked_eq, hsize]
    exact ⟨decode_encode cs, rfl⟩

/-- A beginning of a text that is written out takes the bytes of the mark and its own. -/
private theorem inWindow_source_iff {mark : List UInt8} {cs rest : List Char}
    (hmark : mark = byteOrderMark ∨ mark = [] ∧ (cs ++ rest).head? ≠ some '\uFEFF') :
    InWindow (mark ++ encode (cs ++ rest)) cs ↔ (mark ++ encode cs).length ≤ headSize := by
  unfold InWindow offsetMarked
  rw [(decodeMarked_source hmark).2, List.drop_left, encode_append, offset_encode_append, List.length_append]

/-- When the pieces of a header end within the bytes that are looked at, a tag in them is what makes a source generated,
whatever follows them. -/
theorem isGenerated_of_trivia {name : String} {mark : List UInt8} {pieces : List Piece} {rest : List Char}
    (hname : ∀ ending ∈ fileEndings, ¬ ending.toList <:+ small name.toList)
    (hmark : mark = byteOrderMark ∨ mark = [] ∧ (textOf pieces ++ rest).head? ≠ some '\uFEFF')
    (hleads : Leads pieces rest) (hsize : (mark ++ encode (textOf pieces)).length ≤ headSize) :
    isGenerated name (mark ++ encode (textOf pieces ++ rest)) = true ↔ Tagged (textOf pieces) := by
  have hunmarked : nameMarks name = false := by
    rw [← Bool.not_eq_true, nameMarks_iff]
    rintro ⟨ending, hmem, hending⟩
    exact hname ending hmem hending
  obtain ⟨seen, unseen, cut, htext, hcut, hheadMarks, hseen⟩ :=
    exists_window (mark ++ encode (textOf pieces ++ rest))
  rw [(decodeMarked_source hmark).1] at htext hseen
  -- all pieces are seen, and the cut is somewhere in the rest
  obtain ⟨cs, rfl⟩ := (hseen _ (List.prefix_append _ rest)).mpr ((inWindow_source_iff hmark).mpr hsize)
  obtain rfl : rest = cs ++ unseen := by
    rw [List.append_assoc] at htext
    exact List.append_cancel_left htext
  rw [isGenerated, hunmarked, Bool.false_or, hheadMarks, List.append_assoc, (hleads.cut hcut).leadingTrivia_eq]

/-- The end of a line. -/
def lineFeed : Piece :=
  .blanks ['\n'] (List.forall_mem_singleton.mpr (by decide))

/-- Comments that look like parts of each other, in front of a comment that is not closed. -/
def mixedPieces : List Piece :=
  [.block " // ".toList (by decide), .line " */ <AutoGenerated/> /*".toList (by decide), lineFeed]

def openComment : List Char :=
  '/' :: '*' :: " record A;".toList

private theorem leads_mixedPieces : Leads mixedPieces openComment := by
  refine .cons (fun h => by cases h) (.cons (fun _ => .inr ⟨_, rfl⟩) (.cons (fun h => by cases h) (.nil ?_)))
  intro h
  cases h with
  | blank hblank => exact absurd hblank (by decide)
  | block hclosed => exact absurd hclosed (by decide +kernel)

theorem isGenerated_of_trivia_mixed :
    (∀ ending ∈ fileEndings, ¬ ending.toList <:+ small "A.cs".toList) ∧
      Leads mixedPieces openComment ∧ (byteOrderMark ++ encode (textOf mixedPieces)).length ≤ headSize ∧
      Tagged (textOf mixedPieces) ∧
      isGenerated "A.cs" (byteOrderMark ++ encode (textOf mixedPieces ++ openComment)) = true := by
  have hname : ∀ ending ∈ fileEndings, ¬ ending.toList <:+ small "A.cs".toList := by decide +kernel
  have hsize : (byteOrderMark ++ encode (textOf mixedPieces)).length ≤ headSize := by decide +kernel
  have htagged : Tagged (textOf mixedPieces) := by
    rw [tagged_iff]
    decide +kernel
  exact ⟨hname, leads_mixedPieces, hsize, htagged,
    (isGenerated_of_trivia hname (.inl rfl) leads_mixedPieces hsize).mpr htagged⟩

/-! ### Headers that are cut -/

/-- Whether the beginning `u` of a header is seen, and every block comment that is opened in it is seen to its end. -/
structure Clear (pieces : List Piece) (seen u : List Char) : Prop where
  inHeader : u <+: textOf pieces
  isSeen : u <+: seen
  closed : ∀ before p after, pieces = before ++ p :: after → p.isBlock = true →
    (textOf before).length < u.length → textOf (before ++ [p]) <+: seen

private theorem clear_nil (pieces : List Piece) (seen : List Char) : Clear pieces seen [] :=
  ⟨List.nil_prefix, List.nil_prefix, fun _ _ _ _ _ h => absurd h (by simp)⟩

theorem Clear.cons {p : Piece} {pieces : List Piece} {seen u : List Char} (h : Clear pieces seen u) :
    Clear (p :: pieces) (p.text ++ seen) (p.text ++ u) where
  inHeader := (List.prefix_append_right_inj p.text).mpr h.inHeader
  isSeen := (List.prefix_append_right_inj p.text).mpr h.isSeen
  closed := by
    intro before q after hpieces hblock hlength
    cases before with
    | nil =>
      cases hpieces
      simp
    | cons r before =>
      cases hpieces
      rw [List.cons_append, textOf_cons, List.prefix_append_right_inj]
      refine h.closed before q after rfl hblock ?_
      simp only [textOf_cons, List.length_append] at hlength
      omega

private theorem Clear.of_cons {p : Piece} {pieces : List Piece} {seen u : List Char}
    (h : Clear (p :: pieces) (p.text ++ seen) (p.text ++ u)) : Clear pieces seen u where
  inHeader := (List.prefix_append_right_inj p.text).mp h.inHeader
  isSeen := (List.prefix_append_right_inj p.text).mp h.isSeen
  closed := by
    intro before q after hpieces hblock hlength
    have hq := h.closed (p :: before) q after (by rw [hpieces]; rfl) hblock (by simpa using hlength)
    rwa [List.cons_append, textOf_cons, List.prefix_append_right_inj] at hq

/-- A piece that is not seen to its end is the last of which anything is seen. -/
private theorem clear_of_partial {p : Piece} {pieces : List Piece} {seen : List Char} (hp : p.isBlock = false)
    (hseen : seen <+: p.text) : Clear (p :: pieces) seen seen where
  inHeader := hseen.trans (List.prefix_append _ _)
  isSeen := List.prefix_rfl
  closed := by
    intro before q after hpieces hblock hlength
    exfalso
    cases before with
    | nil =>
      cases hpieces
      rw [hp] at hblock
      cases hblock
    | cons r before =>
      cases hpieces
      have hle := hseen.length_le
      simp only [textOf_cons, List.length_append] at hlength
      omega

/-- A block comment that is not seen to its end is none. -/
private theorem not_beginsPiece_of_partial {seen inside : List Char} (hinside : ¬ ['*', '/'] <:+: inside)
    (hseen : seen <+: '/' :: '*' :: (inside ++ ['*'])) : ¬ BeginsPiece seen := by
  intro h
  cases h with
  | blank hblank =>
    rw [(List.cons_prefix_cons.mp hseen).1] at hblank
    exact absurd hblank (by decide)
  | line =>
    have hstar := (List.cons_prefix_cons.mp (List.cons_prefix_cons.mp hseen).2).1
    exact absurd hstar (by decide)
  | block hclosed =>
    have hbegins := (List.cons_prefix_cons.mp (List.cons_prefix_cons.mp hseen).2).2
    rcases List.infix_concat_iff.mp (hclosed.trans hbegins.isInfix) with ⟨a, ha⟩ | hinfix
    · have hlast := congrArg List.getLast? ha
      simp at hlast
    · exact hinside hinfix

/-- What is read of a piece that is not seen to its end: nothing of a block comment, and all that is seen of anything
else, except for a slash that may begin a line comment. -/
private theorem exists_shown_of_partial {p : Piece} {seen mark unseen : List Char} (hmark : IsMark mark unseen)
    (hseen : seen <+: p.text) (hne : seen ≠ p.text) :
    ∃ w shown, leadingTrivia (seen ++ mark) = w ++ shown ∧ (shown = [] ∨ shown = [replacement]) ∧
      (w = [] ∨ w = seen ∧ p.isBlock = false) ∧ (p.isBlock = false → seen <+: w ++ ['/']) := by
  have hnothing {cs : List Char} (h : ¬ BeginsPiece cs) : leadingTrivia (cs ++ mark) = [] :=
    leadingTrivia_of_not_beginsPiece fun hbegins => h (hbegins.of_mark hmark)
  have hmarkShown : mark = [] ∨ mark = [replacement] := hmark.imp_right And.left
  cases p with
  | blanks run hrun =>
    have hblanks : leadingTrivia (seen ++ mark) = seen ++ leadingTrivia mark :=
      leadingTrivia_piece (.blanks seen fun c hc => hrun c (hseen.subset hc)) fun h => by cases h
    have hrest : leadingTrivia mark = [] := hnothing not_beginsPiece_nil
    rw [hrest] at hblanks
    exact ⟨seen, [], hblanks, .inl rfl, .inr ⟨rfl, rfl⟩, fun _ => List.prefix_append _ _⟩
  | line inside hinside =>
    rcases seen with _ | ⟨c, _ | ⟨d, cs⟩⟩
    · exact ⟨[], [], hnothing not_beginsPiece_nil, .inl rfl, .inl rfl, fun _ => List.nil_prefix⟩
    · obtain rfl := (List.cons_prefix_cons.mp hseen).1
      have hslash : ¬ BeginsPiece ['/'] := by
        intro h
        cases h with
        | blank hblank => exact absurd hblank (by decide)
      exact ⟨[], [], hnothing hslash, .inl rfl, .inl rfl, fun _ => List.prefix_rfl⟩
    · obtain ⟨rfl, hseen'⟩ := List.cons_prefix_cons.mp hseen
      obtain ⟨rfl, hcs⟩ := List.cons_prefix_cons.mp hseen'
      have hline : '\n' ∉ cs ++ mark := by
        rw [List.mem_append, not_or]
        refine ⟨fun hmem => hinside (hcs.subset hmem), ?_⟩
        rcases hmarkShown with rfl | rfl <;> decide
      have hshown : leadingTrivia ('/' :: '/' :: (cs ++ mark) ++ []) = '/' :: '/' :: (cs ++ mark) ++ leadingTrivia [] :=
        leadingTrivia_piece (.line (cs ++ mark) hline) fun _ => .inl rfl
      rw [leadingTrivia_of_not_beginsPiece not_beginsPiece_nil, List.append_nil] at hshown
      exact ⟨'/' :: '/' :: cs, mark, hshown, hmarkShown, .inr ⟨rfl, rfl⟩, fun _ => List.prefix_append _ _⟩
  | block inside hinside =>
    have hpart : seen <+: '/' :: '*' :: (inside ++ ['*']) := by
      have htext : (Piece.block inside hinside).text = ('/' :: '*' :: (inside ++ ['*'])) ++ ['/'] := by
        simp [Piece.text]
      rw [htext, List.prefix_concat_iff] at hseen
      rw [htext] at hne
      exact hseen.resolve_left hne
    exact ⟨[], [], hnothing (not_beginsPiece_of_partial hinside hpart), .inl rfl, .inl rfl, fun h => by cases h⟩

/-- What is read of a header that is cut: a clear beginning, and no other clear beginning goes further, except for a
slash. -/
private theorem exists_shown {pieces : List Piece} {rest seen unseen mark : List Char} (h : Leads pieces rest)
    (htext : textOf pieces ++ rest = seen ++ unseen) (hmark : IsMark mark unseen) :
    ∃ w shown, leadingTrivia (seen ++ mark) = w ++ shown ∧ (shown = [] ∨ shown = [replacement]) ∧
      Clear pieces seen w ∧ ∀ u, Clear pieces seen u → u <+: w ++ ['/'] := by
  induction h generalizing seen with
  | nil hends =>
    have hrest : leadingTrivia (seen ++ mark) = [] := by
      apply leadingTrivia_of_not_beginsPiece
      intro hbegins
      rw [textOf_nil, List.nil_append] at htext
      exact hends (htext ▸ hbegins.of_cut hmark)
    refine ⟨[], [], hrest, .inl rfl, clear_nil _ _, fun u hu => ?_⟩
    exact hu.inHeader.trans List.nil_prefix
  | @cons p pieces rest hline hleads ih =>
    rw [textOf_cons, List.append_assoc] at htext
    by_cases hfits : p.text <+: seen
    · obtain ⟨cs, rfl⟩ := hfits
      rw [List.append_assoc, List.append_cancel_left_eq] at htext
      obtain ⟨w, shown, hw, hshown, hclear, hmax⟩ := ih htext
      refine ⟨p.text ++ w, shown, ?_, hshown, hclear.cons, fun u hu => ?_⟩
      · have hend : p.isLine = true → AtLineEnd (cs ++ mark) := by
          intro hp
          have hend := hline hp
          rw [htext] at hend
          exact hend.cut hmark
        rw [List.append_assoc, leadingTrivia_piece p hend, hw, List.append_assoc]
      · rcases List.prefix_or_prefix_of_prefix hu.isSeen (List.prefix_append p.text cs) with hshort | ⟨v, rfl⟩
        · rw [List.append_assoc]
          exact hshort.trans (List.prefix_append _ _)
        · rw [List.append_assoc, List.prefix_append_right_inj]
          exact hmax v hu.of_cons
    · have hseen : seen <+: p.text := by
        rcases List.append_eq_append_iff.mp htext with ⟨cs, rfl, -⟩ | ⟨cs, hcs, -⟩
        · exact absurd (List.prefix_append _ _) hfits
        · rw [hcs]
          exact List.prefix_append _ _
      have hne : seen ≠ p.text := by
        rintro rfl
        exact hfits List.prefix_rfl
      obtain ⟨w, shown, hw, hshown, hcases, hslash⟩ := exists_shown_of_partial hmark hseen hne
      refine ⟨w, shown, hw, hshown, ?_, fun u hu => ?_⟩
      · rcases hcases with rfl | ⟨rfl, hblock⟩
        · exact clear_nil _ _
        · exact clear_of_partial hblock hseen
      · cases hblock : p.isBlock with
        | false => exact hu.isSeen.trans (hslash hblock)
        | true =>
          -- nothing of an open block comment is clear
          cases u with
          | nil => exact List.nil_prefix
          | cons c u =>
            have hp := hu.closed [] p pieces rfl hblock (by simp)
            exact absurd (by simpa using hp) hfits

/-- Whether pieces and what they lead up to make up a source. -/
structure Divides (bytes : List UInt8) (pieces : List Piece) (rest : List Char) : Prop where
  text : decodeMarked bytes = textOf pieces ++ rest
  leads : Leads pieces rest

/-- A header marks a source by a tag within the bytes that are looked at, if these hold the ends of all block comments
that are opened up to the end of the tag. -/
private theorem headMarks_iff {bytes : List UInt8} {pieces : List Piece} {rest : List Char}
    (h : Divides bytes pieces rest) : headMarks bytes = true ↔
      ∃ u, u <+: textOf pieces ∧ Tagged u ∧ InWindow bytes u ∧
        ∀ before p after, pieces = before ++ p :: after → p.isBlock = true →
          (textOf before).length < u.length → InWindow bytes (textOf (before ++ [p])) := by
  obtain ⟨seen, unseen, mark, htext, hmark, hheadMarks, hseen⟩ := exists_window bytes
  rw [h.text] at htext hseen
  have hseenIff {u : List Char} (hu : u <+: textOf pieces) : u <+: seen ↔ InWindow bytes u :=
    hseen u (hu.trans (List.prefix_append _ _))
  have hblock {before after : List Piece} {p : Piece} (hpieces : pieces = before ++ p :: after) :
      textOf (before ++ [p]) <+: textOf pieces := by
    rw [hpieces, List.append_cons before p after, textOf_append _ after]
    exact List.prefix_append _ _
  obtain ⟨w, shown, hw, hshown, hclear, hmax⟩ := exists_shown h.leads htext hmark
  have htagged : Tagged (w ++ shown) ↔ Tagged w := by
    rcases hshown with rfl | rfl
    · rw [List.append_nil]
    · exact tagged_concat_iff (by decide)
  rw [hheadMarks, hw, htagged]
  constructor
  · intro htag
    refine ⟨w, hclear.inHeader, htag, (hseenIff hclear.inHeader).mp hclear.isSeen, ?_⟩
    intro before p after hpieces hp hlength
    exact (hseenIff (hblock hpieces)).mp (hclear.closed before p after hpieces hp hlength)
  · rintro ⟨u, hu, htag, hwindow, hclosed⟩
    have huclear : Clear pieces seen u := by
      refine ⟨hu, (hseenIff hu).mpr hwindow, ?_⟩
      intro before p after hpieces hp hlength
      exact (hseenIff (hblock hpieces)).mpr (hclosed before p after hpieces hp hlength)
    exact (tagged_concat_iff (by decide)).mp (htag.mono (hmax u huclear).isInfix)

/-- Every source is divided into the pieces of its header and a rest.  It counts as generated by its name, or by a tag
in the header that ends within the bytes that are looked at, unless the tag stands in a block comment that is closed
only behind these bytes. -/
theorem isGenerated_iff_clear (name : String) (bytes : List UInt8) :
    (∃ pieces rest, Divides bytes pieces rest) ∧
      ∀ pieces rest, Divides bytes pieces rest →
        (isGenerated name bytes = true ↔
          (∃ ending ∈ fileEndings, ending.toList <:+ small name.toList) ∨
            ∃ u, u <+: textOf pieces ∧ Tagged u ∧ InWindow bytes u ∧
              ∀ before p after, pieces = before ++ p :: after → p.isBlock = true →
                (textOf before).length < u.length → InWindow bytes (textOf (before ++ [p]))) := by
  constructor
  · obtain ⟨pieces, rest, htext, hleads⟩ := exists_leads (decodeMarked bytes)
    exact ⟨pieces, rest, htext, hleads⟩
  · intro pieces rest h
    rw [isGenerated, Bool.or_eq_true, nameMarks_iff, headMarks_iff h]

/-! ### Headers longer than the bytes that are looked at -/

private theorem inWindow_encode_iff {cs rest : List Char} (hhead : (cs ++ rest).head? ≠ some '\uFEFF') :
    InWindow (encode (cs ++ rest)) cs ↔ (encode cs).length ≤ headSize :=
  inWindow_source_iff (.inr ⟨rfl, hhead⟩)

private theorem length_le_length_encode (cs : List Char) : cs.length ≤ (encode cs).length := by
  induction cs with
  | nil => simp
  | cons c cs ih =>
    have := c.utf8Size_pos
    rw [encode_cons, List.length_append, String.length_utf8EncodeChar, List.length_cons]
    omega

private theorem divides_encode {pieces : List Piece} {rest : List Char} (hleads : Leads pieces rest)
    (hhead : (textOf pieces ++ rest).head? ≠ some '\uFEFF') : Divides (encode (textOf pieces ++ rest)) pieces rest :=
  ⟨(decodeMarked_source (.inr ⟨rfl, hhead⟩)).1, hleads⟩

def tagText : List Char :=
  " <auto-generated/> ".toList

/-- What stands in a comment that goes on behind the bytes that are looked at. -/
def longText : List Char :=
  tagText ++ List.replicate headSize '-'

private theorem not_mem_longText {c : Char} (htag : c ∉ tagText) (hc : c ≠ '-') : c ∉ longText := by
  simp [longText, htag, hc]

private theorem headSize_lt_length_longText : headSize < longText.length := by
  have : 0 < tagText.length := by decide
  rw [longText, List.length_append, List.length_replicate]
  omega

private theorem tagged_slash_tagText (c : Char) : Tagged ('/' :: c :: tagText) := by
  have htag : Tagged tagText := by
    rw [tagged_iff]
    decide +kernel
  exact htag.mono ⟨['/', c], [], by simp⟩

def longLine : Piece :=
  .line longText (not_mem_longText (by decide) (by decide))

/-- A line comment counts as far as it is seen. -/
theorem isGenerated_iff_clear_line :
    Divides (encode (textOf [longLine] ++ [])) [longLine] [] ∧
      ¬ InWindow (encode (textOf [longLine] ++ [])) (textOf [longLine]) ∧
      isGenerated "A.cs" (encode (textOf [longLine] ++ [])) = true := by
  have htext : textOf [longLine] ++ [] = '/' :: '/' :: tagText ++ List.replicate headSize '-' := by
    simp [longLine, longText, Piece.text]
  have hleads : Leads [longLine] [] := .cons (fun _ => .inl rfl) (.nil not_beginsPiece_nil)
  have hdivides := divides_encode hleads (by simp [longLine, Piece.text])
  refine ⟨hdivides, ?_, ((isGenerated_iff_clear "A.cs" _).2 _ _ hdivides).mpr (.inr ⟨'/' :: '/' :: tagText, ?_⟩)⟩
  · rw [inWindow_encode_iff (by simp [longLine, Piece.text])]
    have hlength := length_le_length_encode (textOf [longLine])
    have hlong := headSize_lt_length_longText
    have : (textOf [longLine]).length = longText.length + 2 := by simp [longLine, Piece.text]
    omega
  · refine ⟨?_, tagged_slash_tagText '/', ?_, ?_⟩
    · rw [List.append_nil] at htext
      rw [htext]
      exact List.prefix_append _ _
    · rw [htext, inWindow_encode_iff (by simp)]
      decide +kernel
    · intro before p after hpieces hblock
      have hp : p ∈ [longLine] := by
        rw [hpieces]
        simp
      rw [List.mem_singleton.mp hp] at hblock
      cases hblock

def longBlock : Piece :=
  .block longText fun h => not_mem_longText (by decide) (by decide) (h.subset (by simp : '*' ∈ ['*', '/']))

def longBlockHeader : List Piece :=
  [longBlock, lineFeed]

def emptyClass : List Char :=
  'c' :: "lass A { }".toList

/-- A tag within the bytes that are looked at is lost with the block comment around it. -/
theorem isGenerated_of_long_block :
    Divides (encode (textOf longBlockHeader ++ emptyClass)) longBlockHeader emptyClass ∧
      (∃ u, u <+: textOf longBlockHeader ∧ Tagged u ∧ InWindow (encode (textOf longBlockHeader ++ emptyClass)) u) ∧
      isGenerated "A.cs" (encode (textOf longBlockHeader ++ emptyClass)) = false := by
  have hleads : Leads longBlockHeader emptyClass := by
    refine .cons (fun h => by cases h) (.cons (fun h => by cases h) (.nil ?_))
    intro h
    cases h with
    | blank hblank => exact absurd hblank (by decide)
  have hdivides := divides_encode hleads (by simp [longBlockHeader, longBlock, Piece.text])
  have htext : textOf longBlockHeader ++ emptyClass =
      '/' :: '*' :: tagText ++ (List.replicate headSize '-' ++ '*' :: '/' :: '\n' :: emptyClass) := by
    simp [longBlockHeader, longBlock, longText, lineFeed, Piece.text]
  refine ⟨hdivides, ⟨'/' :: '*' :: tagText, ?_, tagged_slash_tagText '*', ?_⟩, ?_⟩
  · refine ⟨List.replicate headSize '-' ++ ['*', '/', '\n'], ?_⟩
    simp [longBlockHeader, longBlock, longText, lineFeed, Piece.text]
  · rw [htext, inWindow_encode_iff (by simp)]
    decide +kernel
  · have hname : nameMarks "A.cs" = false := by decide +kernel
    rw [isGenerated, hname, Bool.false_or, ← Bool.not_eq_true, headMarks_iff hdivides]
    rintro ⟨u, -, htag, -, hclosed⟩
    have hpos : 0 < u.length := by
      rw [List.length_pos_iff]
      rintro rfl
      exact not_tagged_nil htag
    have hwindow := hclosed [] longBlock _ rfl rfl hpos
    have hsource : textOf longBlockHeader ++ emptyClass = textOf ([] ++ [longBlock]) ++ ('\n' :: emptyClass) := by
      simp [longBlockHeader, lineFeed, Piece.text]
    rw [hsource, inWindow_encode_iff (by simp [longBlock, Piece.text])] at hwindow
    have hlength := length_le_length_encode (textOf ([] ++ [longBlock]))
    have hlong := headSize_lt_length_longText
    have : (textOf ([] ++ [longBlock])).length = longText.length + 4 := by simp [longBlock, Piece.text]
    omega

end Rollcall.Generated
