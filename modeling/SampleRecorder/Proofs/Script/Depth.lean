import Mathlib
import SampleRecorder.Proofs.Script.Nesting
import SampleRecorder.Proofs.Script.RoundTrip
import SampleRecorder.Proofs.Script.Turns
import SampleRecorder.Proofs.Text.Size

/-!
# How deep programs nest

Brackets nest less deep than the limit in the text of a compiled program, and so do the indices and arguments of its
expressions; an expression is refused as too deep only where the brackets of the text reach the limit
(`Program.nesting_of_compile`).  Signs open no bracket and are not counted.  As many of them as a text has room for may
stand in front of an operand, and only the length of the text bounds how many expressions are evaluated inside one
another (`Program.compile_signs`).
-/

namespace SampleRecorder.Script

open Text

/-! ### Scanning -/

namespace Token

theorem Cuts.length_le {depth : Nat} {s last : List Char} {pieces : List Piece} (h : Cuts depth s pieces last) :
    pieces.length ≤ s.length := by
  induction h with
  | stop _ => exact Nat.zero_le _
  | token _ htoken _ ih =>
    have hpos := htoken.length_pos
    rw [List.length_cons, List.length_append, List.length_append]
    omega

/-- Every token takes at least one character. -/
theorem length_of_scan {source : String} {ts : Tokens} (h : scan source = .ok ts) :
    ts.tokens.length ≤ source.utf8ByteSize := by
  obtain ⟨pieces, last, hcuts⟩ := exists_cuts h
  rw [scan_of_cuts hcuts] at h
  cases h
  have hlength := congrArg List.length (map_symbol_tokensOf Piece.counted [] pieces last)
  rw [List.length_map, List.length_map] at hlength
  rw [hlength]
  calc pieces.length ≤ source.toList.length := hcuts.length_le
    _ ≤ bytes source.toList := length_le_bytes _
    _ = source.utf8ByteSize := bytes_toList source

end Token

/-! ### Brackets -/

namespace Program

/-- What compiling a text says about the brackets of the text. -/
theorem ensures_compile (source : String) :
    Ensures (compile source)
      (fun p => ∃ ts, Token.scan source = .ok ts ∧ Parse.IsShallow ts.tokens p.statements ∧
        ts.tokens.length ≤ sourceLimit)
      (fun fault => ∀ f, fault = .malformed f → f.reason = .tooDeep →
        ∃ ts, Token.scan source = .ok ts ∧ depthLimit ≤ deepest 0 (Parse.symbolsOf ts.tokens)) := by
  unfold compile
  split
  · exact .error fun f hf => by cases hf
  · next hsize =>
    cases hscan : Token.scan source with
    | error f =>
      refine .error fun g hg hdeep => ?_
      cases hg
      have hreason := (Token.ensures_scanFrom _ _ _ _).fails f hscan
      rw [hdeep] at hreason
      cases hreason
    | ok ts =>
      have hlength := Token.length_of_scan hscan
      refine ((ensures_ofTokens ts).imp (fun p hp => ⟨ts, rfl, hp, by omega⟩) fun f hf => hf).mapError fun f hf => ?_
      intro g hg hdeep
      cases hg
      exact ⟨ts, rfl, hf.deep trivial hdeep⟩

/-- Brackets nest less deep than the limit in the text of every compiled program.  So do its indices and arguments, and
no more expressions stand inside one another than a text may have bytes.  In a text that is refused as too deep the
brackets reach the limit. -/
theorem nesting_of_compile (source : String) :
    (∀ p, compile source = .ok p →
      ∃ ts, Token.scan source = .ok ts ∧ deepest 0 (Parse.symbolsOf ts.tokens) < depthLimit ∧
        ∀ s ∈ p.statements, s.nesting 0 < depthLimit ∧ s.height ≤ sourceLimit) ∧
    (∀ f, compile source = .error (.malformed f) → f.reason = .tooDeep →
      ∃ ts, Token.scan source = .ok ts ∧ depthLimit ≤ deepest 0 (Parse.symbolsOf ts.tokens)) := by
  refine ⟨fun p h => ?_, fun f h => (ensures_compile source).fails _ h f rfl⟩
  obtain ⟨ts, hscan, ⟨hshallow, hstatements⟩, hlength⟩ := (ensures_compile source).gives p h
  refine ⟨ts, hscan, hshallow, fun s hs => ?_⟩
  obtain ⟨hnesting, hheight⟩ := hstatements s hs
  exact ⟨hnesting, Nat.le_trans hheight hlength⟩

set_option maxRecDepth 5000 in
/-- `len(line[0])` is not too deep, and 64 parentheses are. -/
theorem nesting_of_compile_limit :
    let deep := String.ofList (List.replicate 64 '(')
    (∃ p ts, compile "len(line[0])" = .ok p ∧ Token.scan "len(line[0])" = .ok ts ∧
      deepest 0 (Parse.symbolsOf ts.tokens) < depthLimit ∧
      ∀ s ∈ p.statements, s.nesting 0 < depthLimit ∧ s.height ≤ sourceLimit) ∧
    ∃ f ts, compile deep = .error (.malformed f) ∧ f.reason = .tooDeep ∧ Token.scan deep = .ok ts ∧
      depthLimit ≤ deepest 0 (Parse.symbolsOf ts.tokens) := by
  intro deep
  constructor
  · obtain ⟨p, hcompile⟩ : ∃ p, compile "len(line[0])" = .ok p := ⟨_, by cbv⟩
    obtain ⟨ts, hscan, hdeepest, hstatements⟩ := (nesting_of_compile "len(line[0])").1 p hcompile
    exact ⟨p, ts, hcompile, hscan, hdeepest, hstatements⟩
  · have hcompile : compile deep = .error (.malformed ⟨⟨1, 65⟩, .tooDeep⟩) := by cbv
    obtain ⟨ts, hscan, hdeepest⟩ := (nesting_of_compile deep).2 _ hcompile rfl
    exact ⟨_, ts, hcompile, rfl, hscan, hdeepest⟩

end Program

/-! ### Signs -/

/-- An expression with signs in front of it. -/
def Expr.signed : Nat → Expr → Expr
  | 0, e => e
  | n + 1, e => .neg (e.signed n)

theorem Expr.nesting_signed (sign n : Nat) (e : Expr) : (e.signed n).nesting sign = e.nesting sign + n * sign := by
  induction n with
  | zero => rw [signed, Nat.zero_mul, Nat.add_zero]
  | succ n ih => rw [signed, nesting, ih, Nat.succ_mul, Nat.add_assoc]

theorem Expr.symbols_signed {e : Expr} (h : e.rank ≤ 1) (n : Nat) :
    (e.signed n).symbols = List.replicate n .minus ++ e.symbols ∧ (e.signed n).rank ≤ 1 := by
  induction n with
  | zero => exact ⟨rfl, h⟩
  | succ n ih =>
    refine ⟨?_, Nat.le_refl 1⟩
    rw [signed, symbols, enclosed, if_pos ih.2, ih.1]
    rfl

theorem deepest_signs (depth n : Nat) (symbols : List Symbol) :
    deepest depth (List.replicate n .minus ++ symbols) = deepest depth symbols := by
  induction n with
  | zero => rfl
  | succ n ih =>
    rw [List.replicate_succ, List.cons_append, deepest]
    show max depth (deepest depth _) = _
    rw [ih]
    exact Nat.max_eq_right (le_deepest depth symbols)

theorem Token.cuts_signs (n : Nat) :
    Cuts 0 (List.replicate n '-' ++ ['1']) (List.replicate n ⟨[], ['-'], .minus⟩ ++ [⟨[], ['1'], .int 1⟩]) [] := by
  induction n with
  | zero =>
    have hone : lexeme '1' ([] ++ []) = .ok (.int 1, 0, []) := by cbv
    exact .token .nil (.lexeme (by decide) (by decide) hone) (.stop .nil)
  | succ n ih =>
    have hsign (rest : List Char) : lexeme '-' ([] ++ rest) = .ok (.minus, 0, rest) := rfl
    exact .token .nil (.lexeme (by decide) (by decide) (hsign _)) ih

theorem Token.scan_signs (n : Nat) :
    ∃ ts, scan (String.ofList (List.replicate n '-' ++ ['1'])) = .ok ts ∧
      Parse.symbolsOf ts.tokens = List.replicate n .minus ++ [.int 1] := by
  have hcuts := cuts_signs n
  rw [← @String.toList_ofList (List.replicate n '-' ++ ['1'])] at hcuts
  refine ⟨_, scan_of_cuts hcuts, (map_symbol_tokensOf _ _ _ _).trans ?_⟩
  rw [List.map_append, List.map_replicate]
  rfl

theorem Expr.isValid_signed {e : Expr} {names : List String} (h : e.IsValid names) (n : Nat) :
    (e.signed n).IsValid names := by
  induction n with
  | zero => exact h
  | succ n ih =>
    rw [signed, IsValid]
    exact ih

/-- As many signs as a text has room for. -/
theorem Program.compile_signs {n : Nat} (hn : n < sourceLimit) :
    compile (String.ofList (List.replicate n '-' ++ ['1'])) = .ok ⟨[.eval ((Expr.literal (.int 1)).signed n)]⟩ := by
  have hsize : (String.ofList (List.replicate n '-' ++ ['1'])).utf8ByteSize ≤ sourceLimit := by
    rw [utf8ByteSize_ofList, bytes_append, bytes_replicate]
    show n * 1 + 1 ≤ sourceLimit
    omega
  obtain ⟨ts, hscan, hsymbols⟩ := Token.scan_signs n
  obtain ⟨hspelled, -⟩ := @Expr.symbols_signed (.literal (.int 1)) (Nat.zero_le 1) n
  have hone : (Expr.literal (.int 1)).IsValid [] := List.cons_ne_nil _ _
  have hvalid : StatementsValid [] [.eval ((Expr.literal (.int 1)).signed n)] := ⟨Expr.isValid_signed hone n, trivial⟩
  have hdeepest : deepest 0 (statementSymbols [.eval ((Expr.literal (.int 1)).signed n)]) < depthLimit := by
    rw [statementSymbols, Stmt.symbols, hspelled, deepest_signs]
    decide
  have hparse := Parse.statements_of_valid _ (ts.tokens.length + 1) ⟨ts.stop, []⟩ (fun _ h => by cases h) hvalid
    (hsymbols.trans hspelled.symm) hdeepest (Nat.succ_pos _)
  rw [compile, if_neg (Nat.not_lt_of_le hsize), hscan, Except.bind, ofTokens, hparse]
  rfl

/-- Sixty-five signs in front of a number are compiled, one more than the limit. -/
theorem Program.signs_beyond_limit :
    ∃ p, compile "-----------------------------------------------------------------1" = .ok p ∧
      ∃ s ∈ p.statements, depthLimit < s.nesting 1 := by
  have hsource : "-----------------------------------------------------------------1" =
      String.ofList (List.replicate 65 '-' ++ ['1']) := by decide
  rw [hsource]
  refine ⟨_, compile_signs (by decide), _, List.mem_singleton_self _, ?_⟩
  rw [Stmt.nesting, Expr.nesting_signed]
  decide

end SampleRecorder.Script
