import Mathlib
import SampleRecorder.Proofs.Script.Lexing
import SampleRecorder.Proofs.Script.Nesting

/-!
# Where tokens stand

The place of a token is the one behind the text in front of it, as long as no string before it goes on over the end of a
line (`Token.places_of_scan`).  A backslash hides a line feed in a string from the count of lines, and every token behind
such a string, the end of the text and the faults that are found there are placed on a line that is too early
(`Token.misplaced_after_lineFeed`).
-/

namespace SampleRecorder.Script

namespace Token

/-- The text of pieces, where `read` gives what is counted of each token. -/
def textOf (read : Piece → List Char) : List Piece → List Char
  | [] => []
  | p :: pieces => p.gap ++ read p ++ textOf read pieces

/-- Whether a token is no string with a line feed in its text. -/
def Piece.IsOnOneLine (p : Piece) : Prop :=
  ∀ body, p.symbol = .str body → '\n' ∉ p.text

/-! ### The text in front of a token -/

theorem Cuts.text {depth : Nat} {s last : List Char} {pieces : List Piece} (h : Cuts depth s pieces last) :
    s = textOf Piece.text pieces ++ last := by
  induction h with
  | stop _ => rfl
  | token _ _ _ ih => rw [textOf, List.append_assoc, List.append_assoc, ← ih]

theorem getElem?_tokensOf (read : Piece → List Char) (before : List Char) (a : List Piece) (p : Piece) (b : List Piece)
    (last : List Char) :
    (tokensOf read before (a ++ p :: b) last).tokens[a.length]? =
      some ⟨p.symbol, .behind (before ++ textOf read a ++ p.gap)⟩ := by
  induction a generalizing before with
  | nil =>
    rw [textOf, List.append_nil]
    rfl
  | cons q a ih =>
    rw [List.cons_append, tokensOf, prepend, List.length_cons, List.getElem?_cons_succ, ih, textOf]
    simp only [List.append_assoc]

theorem stop_tokensOf (read : Piece → List Char) (before : List Char) (pieces : List Piece) (last : List Char) :
    (tokensOf read before pieces last).stop = .behind (before ++ textOf read pieces ++ last) := by
  induction pieces generalizing before with
  | nil =>
    rw [textOf, List.append_nil]
    rfl
  | cons p pieces ih =>
    rw [tokensOf, prepend, ih, textOf]
    simp only [List.append_assoc]

/-! ### Line feeds in strings -/

theorem unbroken_of_not_mem {s : List Char} (h : '\n' ∉ s) : unbroken s = s := by
  have hsame : ∀ c ∈ s, (if c = '\n' then ' ' else c) = c := by
    intro c hc
    have hne : c ≠ '\n' := by
      rintro rfl
      exact h hc
    exact if_neg hne
  exact (List.map_congr_left hsame).trans (List.map_id s)

theorem Piece.IsOnOneLine.counted_eq {p : Piece} (h : p.IsOnOneLine) : p.counted = p.text := by
  unfold counted
  split
  · next body hbody => exact unbroken_of_not_mem (h body hbody)
  · rfl

/-- A line feed in a string is not counted. -/
theorem Piece.count_counted_lt {p : Piece} (h : ¬p.IsOnOneLine) : p.counted.count '\n' < p.text.count '\n' := by
  unfold IsOnOneLine at h
  push Not at h
  obtain ⟨body, hbody, hmem⟩ := h
  rw [counted, hbody]
  dsimp only
  rw [List.count_eq_zero.mpr (lineFeed_not_mem_unbroken _)]
  exact List.count_pos_iff.mpr hmem

theorem Piece.count_counted_le (p : Piece) : p.counted.count '\n' ≤ p.text.count '\n' := by
  by_cases h : p.IsOnOneLine
  · rw [h.counted_eq]
  · exact Nat.le_of_lt (count_counted_lt h)

theorem count_textOf_le (pieces : List Piece) :
    (textOf Piece.counted pieces).count '\n' ≤ (textOf Piece.text pieces).count '\n' := by
  induction pieces with
  | nil => exact Nat.le_refl _
  | cons p pieces ih =>
    have := p.count_counted_le
    simp only [textOf, List.count_append]
    omega

theorem isOnOneLine_of_count_le {pieces : List Piece}
    (h : (textOf Piece.text pieces).count '\n' ≤ (textOf Piece.counted pieces).count '\n') :
    ∀ p ∈ pieces, p.IsOnOneLine := by
  induction pieces with
  | nil => exact List.forall_mem_nil _
  | cons p pieces ih =>
    have := p.count_counted_le
    have := count_textOf_le pieces
    simp only [textOf, List.count_append] at h
    refine List.forall_mem_cons.mpr ⟨?_, ih (by omega)⟩
    by_contra hp
    have := Piece.count_counted_lt hp
    omega

/-- The place behind pieces is the true one just in case all strings in them are on one line. -/
theorem behind_textOf_iff (pieces : List Piece) (gap : List Char) :
    Position.behind (textOf Piece.counted pieces ++ gap) = Position.behind (textOf Piece.text pieces ++ gap) ↔
      ∀ p ∈ pieces, p.IsOnOneLine := by
  constructor
  · intro h
    have hline := congrArg Position.line h
    simp only [Position.behind, List.count_append] at hline
    exact isOnOneLine_of_count_le (by omega)
  · intro h
    have htext : textOf Piece.counted pieces = textOf Piece.text pieces := by
      induction pieces with
      | nil => rfl
      | cons p pieces ih =>
        obtain ⟨hp, hpieces⟩ := List.forall_mem_cons.mp h
        rw [textOf, textOf, hp.counted_eq, ih hpieces]
    rw [htext]

/-! ### Places -/

/-- A text that scanning accepts is made up of what is skipped and the texts of its tokens.  Each token, and the end,
has the true place of its first character just in case no string before it has a line feed.  Every fault that is found
in the tokens is placed at one of them or at the end. -/
theorem places_of_scan {source : String} {ts : Tokens} (h : scan source = .ok ts) :
    ∃ pieces last, Cuts 0 source.toList pieces last ∧ source.toList = textOf Piece.text pieces ++ last ∧
      ts.tokens.map (·.symbol) = pieces.map (·.symbol) ∧
      (∀ a p b, pieces = a ++ p :: b →
        ∃ t, ts.tokens[a.length]? = some t ∧ t.position = .behind (textOf Piece.counted a ++ p.gap) ∧
          (t.position = .behind (textOf Piece.text a ++ p.gap) ↔ ∀ q ∈ a, q.IsOnOneLine)) ∧
      (ts.stop = .behind source.toList ↔ ∀ p ∈ pieces, p.IsOnOneLine) ∧
      ∀ f, Program.ofTokens ts = .error f → f.position = ts.stop ∨ ∃ t ∈ ts.tokens, f.position = t.position := by
  obtain ⟨pieces, last, hcuts⟩ := exists_cuts h
  have htokens := scan_of_cuts hcuts
  rw [h] at htokens
  cases htokens
  refine ⟨pieces, last, hcuts, hcuts.text, map_symbol_tokensOf _ _ _ _, ?_, ?_, ?_⟩
  · rintro a p b rfl
    exact ⟨_, getElem?_tokensOf Piece.counted [] a p b last, rfl, behind_textOf_iff a p.gap⟩
  · rw [stop_tokensOf, hcuts.text]
    exact behind_textOf_iff pieces last
  · intro f hf
    exact ((Program.ensures_ofTokens _).fails f hf).placed

/-- A comment, a bracket over two lines, an escape, and an end where the bracket should be closed. -/
theorem places_of_scan_lines :
    let source := "# π\nx = (\n\t'\\''"
    let ts : Tokens := ⟨[⟨.separator, ⟨1, 4⟩⟩, ⟨.name "x", ⟨2, 1⟩⟩, ⟨.assign, ⟨2, 3⟩⟩, ⟨.openParen, ⟨2, 5⟩⟩,
      ⟨.str "'", ⟨3, 2⟩⟩], ⟨3, 6⟩⟩
    let f : SyntaxFault := ⟨⟨3, 6⟩, .expected .closeParen⟩
    scan source = .ok ts ∧ Program.ofTokens ts = .error f ∧
      (f.position = ts.stop ∨ ∃ t ∈ ts.tokens, f.position = t.position) ∧
      ∃ pieces last, Cuts 0 source.toList pieces last ∧ ts.tokens.map (·.symbol) = pieces.map (·.symbol) ∧
        (ts.stop = .behind source.toList ↔ ∀ p ∈ pieces, p.IsOnOneLine) := by
  intro source ts f
  have hscan : scan source = .ok ts := by cbv
  have hparse : Program.ofTokens ts = .error f := by cbv
  obtain ⟨pieces, last, hcuts, -, hsymbols, -, hstop, hplaced⟩ := places_of_scan hscan
  exact ⟨hscan, hparse, hplaced f hparse, pieces, last, hcuts, hsymbols, hstop⟩

/-- Behind a string that goes on over the end of its line the name stands in the third column of the second line.  It is
placed, and reported, in the sixth column of the first. -/
theorem misplaced_after_lineFeed :
    scan "'\\\n' x" = .ok ⟨[⟨.str "\\\n", ⟨1, 1⟩⟩, ⟨.name "x", ⟨1, 6⟩⟩], ⟨1, 7⟩⟩ ∧
      "'\\\n' x".toList = "'\\\n' ".toList ++ ['x'] ∧ Position.behind "'\\\n' ".toList = ⟨2, 3⟩ ∧
      Program.compile "'\\\n' x" = .error (.malformed ⟨⟨1, 6⟩, .expectedEnd⟩) :=
  ⟨by cbv, by decide, by decide, by cbv⟩

end Token

end SampleRecorder.Script
