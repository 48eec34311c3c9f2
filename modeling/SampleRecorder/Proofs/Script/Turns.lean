import SampleRecorder.Proofs.Script.Lexing
import SampleRecorder.Proofs.Script.Numerals

/-!
# Scanning turn by turn

Scanning a program text goes on in turns (`Token.turn`): each of them takes a line feed, a blank, a comment or a token, so
at least one character, or refuses the character that it begins with (`ensures_turn`).  Therefore the turns come to an
end by themselves, however many characters a text has.  `Token.turns` takes one turn after the other and has no other
bound than the text, and scanning does the same (`scan_eq_turns`).
-/

namespace SampleRecorder.Script.Token

/-- What a turn finds, a token or nothing, and where the next one begins. -/
structure Turn where
  token? : Option Token
  depth : Nat
  place : Position
  rest : List Char

/-- One turn at a place, with `depth` brackets open. -/
def turn (depth : Nat) (p : Position) (c : Char) (s : List Char) : Except SyntaxFault Turn :=
  if c = '\n' then .ok ⟨if depth = 0 then some ⟨.separator, p⟩ else none, depth, ⟨p.line + 1, 1⟩, s⟩
  else if Text.isBlank c then .ok ⟨none, depth, ⟨p.line, p.column + 1⟩, s⟩
  else if c = '#' then
    let comment := s.takeWhile (· != '\n')
    .ok ⟨none, depth, ⟨p.line, p.column + 1 + comment.length⟩, s.dropWhile (· != '\n')⟩
  else
    match lexeme c s with
    | .error reason => .error ⟨p, reason⟩
    | .ok (symbol, n, rest) => .ok ⟨some ⟨symbol, p⟩, nesting depth symbol, ⟨p.line, p.column + 1 + n⟩, rest⟩

/-- Puts what a turn finds in front of the tokens that follow. -/
def Turn.emit (t : Turn) (ts : Tokens) : Tokens :=
  match t.token? with
  | some token => prepend token ts
  | none => ts

/-- A turn takes at least one character from the front of a text, or it refuses the first one where it stands. -/
theorem ensures_turn (depth : Nat) (p : Position) (c : Char) (s : List Char) :
    Ensures (turn depth p c s) (fun t => ∃ taken, taken ≠ [] ∧ c :: s = taken ++ t.rest)
      fun f => f.position = p ∧ f.reason.IsOfScan := by
  unfold turn
  split
  · exact .ok ⟨[c], List.cons_ne_nil _ _, rfl⟩
  · split
    · exact .ok ⟨[c], List.cons_ne_nil _ _, rfl⟩
    · split
      · refine .ok ⟨c :: s.takeWhile (· != '\n'), List.cons_ne_nil _ _, ?_⟩
        rw [List.cons_append, List.takeWhile_append_dropWhile]
      · cases hlexeme : lexeme c s with
        | error reason => exact .error ⟨rfl, (ensures_lexeme c s).fails reason hlexeme⟩
        | ok r =>
          obtain ⟨t, hsplit, -⟩ := exists_of_lexeme hlexeme
          exact .ok ⟨c :: t, List.cons_ne_nil _ _, congrArg (c :: ·) hsplit⟩

theorem length_of_turn {depth : Nat} {p : Position} {c : Char} {s : List Char} {t : Turn} (h : turn depth p c s = .ok t) :
    t.rest.length < (c :: s).length := by
  obtain ⟨taken, hne, hsplit⟩ := (ensures_turn depth p c s).gives t h
  have hpos := List.length_pos_iff.mpr hne
  rw [hsplit, List.length_append]
  omega

/-- One turn after the other until the text is used up. -/
def turns (depth : Nat) (p : Position) : List Char → Except SyntaxFault Tokens
  | [] => .ok ⟨[], p⟩
  | c :: s =>
    match _ : turn depth p c s with
    | .error f => .error f
    | .ok t => (turns t.depth t.place t.rest).map t.emit
termination_by s => s.length
decreasing_by exact length_of_turn ‹_›

theorem turns_nil (depth : Nat) (p : Position) : turns depth p [] = .ok ⟨[], p⟩ := by
  rw [turns]

theorem turns_cons (depth : Nat) (p : Position) (c : Char) (s : List Char) :
    turns depth p (c :: s) = turn depth p c s >>= fun t => (turns t.depth t.place t.rest).map t.emit := by
  rw [turns]
  split
  · next h => rw [h]; rfl
  · next h => rw [h]; rfl

/-- Scanning takes a turn and goes on behind it. -/
theorem scanFrom_cons (fuel depth : Nat) (p : Position) (c : Char) (s : List Char) :
    scanFrom (fuel + 1) depth p (c :: s) =
      turn depth p c s >>= fun t => (scanFrom fuel t.depth t.place t.rest).map t.emit := by
  rw [scanFrom, turn]
  by_cases hline : c = '\n'
  · rw [if_pos hline, if_pos hline]
    by_cases hdepth : depth = 0
    · simp only [if_pos hdepth]; rfl
    · simp only [if_neg hdepth]; rfl
  rw [if_neg hline, if_neg hline]
  by_cases hblank : Text.isBlank c = true
  · rw [if_pos hblank, if_pos hblank]
    exact (map_id_except _).symm
  rw [if_neg hblank, if_neg hblank]
  by_cases hcomment : c = '#'
  · rw [if_pos hcomment, if_pos hcomment]
    exact (map_id_except _).symm
  rw [if_neg hcomment, if_neg hcomment]
  cases lexeme c s with
  | error reason => rfl
  | ok r => rfl

/-- Scanning takes all turns, if it may take as many as there are characters. -/
theorem scanFrom_eq_turns {fuel : Nat} {s : List Char} (h : s.length ≤ fuel) (depth : Nat) (p : Position) :
    scanFrom fuel depth p s = turns depth p s := by
  induction fuel generalizing depth p s with
  | zero =>
    rw [List.length_eq_zero_iff.mp (Nat.le_zero.mp h), turns_nil, scanFrom]
  | succ fuel ih =>
    cases s with
    | nil => rw [turns_nil, scanFrom.eq_def]
    | cons c s =>
      rw [scanFrom_cons, turns_cons]
      cases hturn : turn depth p c s with
      | error f => rfl
      | ok t =>
        have hshorter := length_of_turn hturn
        show (scanFrom fuel _ _ _).map _ = (turns _ _ _).map _
        rw [ih (by omega)]

theorem scan_eq_turns (source : String) : scan source = turns 0 ⟨1, 1⟩ source.toList :=
  scanFrom_eq_turns (Nat.le_succ _) _ _

/-- A text is refused for its characters only. -/
theorem ensures_scanFrom (fuel depth : Nat) (p : Position) (s : List Char) :
    Ensures (scanFrom fuel depth p s) (fun _ => True) fun f => f.reason.IsOfScan := by
  induction fuel generalizing depth p s with
  | zero =>
    rw [scanFrom]
    exact .ok trivial
  | succ fuel ih =>
    cases s with
    | nil =>
      rw [scanFrom.eq_def]
      exact .ok trivial
    | cons c s =>
      rw [scanFrom_cons]
      exact (ensures_turn depth p c s).bind (fun _ hf => hf.2) fun t _ => (ih _ _ _).map (fun _ hf => hf) fun _ _ => trivial

end SampleRecorder.Script.Token
