import Mathlib
import SampleRecorder.Proofs.Script.Rendering

/-!
# Programs that are read back

The parser undoes the rendering of programs.  Each function of the parser has a statement of its own about the symbols
that it reads as an expression (`ReadsPrimary`, `ReadsTarget`, …), with anything behind them that does not go on with
the expression; the lemmas between these statements follow the calls of the parser.  A chain of operators of one level
is read from the left, so what is said of it is what the rest of the chain makes of it (`ReadsJoined`).
-/

namespace SampleRecorder.Script.Parse

/-! ### Tokens and symbols -/

/-- Whether tokens have some symbols. -/
def Spells (ts : List Token) (symbols : List Symbol) : Prop :=
  ts.map (·.symbol) = symbols

theorem Spells.nil {ts : List Token} (h : Spells ts []) : ts = [] :=
  List.map_eq_nil_iff.mp h

theorem Spells.cons {ts : List Token} {s : Symbol} {symbols : List Symbol} (h : Spells ts (s :: symbols)) :
    ∃ place rest, ts = ⟨s, place⟩ :: rest ∧ Spells rest symbols := by
  obtain ⟨⟨s', place⟩, rest, rfl, rfl, hrest⟩ := List.map_eq_cons_iff.mp h
  exact ⟨place, rest, rfl, hrest⟩

theorem Spells.append {ts : List Token} {a b : List Symbol} (h : Spells ts (a ++ b)) :
    ∃ ta tb, ts = ta ++ tb ∧ Spells ta a ∧ Spells tb b := by
  obtain ⟨ta, tb, rfl, ha, hb⟩ := List.map_eq_append_iff.mp h
  exact ⟨ta, tb, rfl, ha, hb⟩

theorem Spells.bracketed {ts : List Token} {first last : Symbol} {symbols : List Symbol}
    (h : Spells ts (first :: symbols ++ [last])) :
    ∃ p inner q, ts = ⟨first, p⟩ :: inner ++ [⟨last, q⟩] ∧ Spells inner symbols := by
  obtain ⟨p, tail, rfl, htail⟩ := h.cons
  obtain ⟨inner, close, rfl, hinner, hclose⟩ := Spells.append htail
  obtain ⟨q, none, rfl, hnone⟩ := hclose.cons
  rw [hnone.nil]
  exact ⟨p, inner, q, rfl, hinner⟩

/-- Whether a name that stands before tokens is no function. -/
def NoCall (rest : List Token) : Prop :=
  ∀ t ∈ rest.head?, t.symbol ≠ .openParen

/-- Whether an expression of the levels below `n` that stands before tokens ends there. -/
def Ends (n : Nat) (rest : List Token) : Prop :=
  ∀ t ∈ rest.head?, t.symbol ≠ .openParen ∧ t.symbol ≠ .openBracket ∧ ∀ i < n, joiner? i t.symbol = none

theorem Ends.noCall {n : Nat} {rest : List Token} (h : Ends n rest) : NoCall rest :=
  fun t ht => (h t ht).1

theorem Ends.mono {m n : Nat} {rest : List Token} (h : Ends n rest) (hmn : m ≤ n) : Ends m rest :=
  fun t ht => ⟨(h t ht).1, (h t ht).2.1, fun i hi => (h t ht).2.2 i (by omega)⟩

/-- Symbols behind which every expression ends. -/
def Closes : Symbol → Prop
  | .closeParen | .closeBracket | .comma | .separator => True
  | _ => False

theorem ends_of_closes {s : Symbol} (h : Closes s) (n : Nat) (place : Position) (rest : List Token) :
    Ends n (⟨s, place⟩ :: rest) := by
  rintro t ⟨⟩
  cases s <;> first | exact h.elim | skip
  all_goals
    refine ⟨Symbol.noConfusion, Symbol.noConfusion, fun i _ => ?_⟩
    simp [joiner?]

/-- The left operand of an operator ends before it. -/
theorem ends_of_joiner {n : Nat} {s : Symbol} {join : Expr → Expr → Expr} (h : joiner? n s = some join)
    (place : Position) (rest : List Token) : Ends n (⟨s, place⟩ :: rest) := by
  rintro t ⟨⟩
  unfold joiner? at h
  split at h <;> cases h
  all_goals
    refine ⟨Symbol.noConfusion, Symbol.noConfusion, fun i hi => ?_⟩
    rw [← Option.isNone_iff_eq_none]
    dsimp only
    revert i
    decide

theorem level_of_joiner {n : Nat} {s : Symbol} {join : Expr → Expr → Expr} (h : joiner? n s = some join) :
    n < levelCount ∧ ∀ depth, Token.nesting depth s = depth := by
  unfold joiner? at h
  split at h <;> cases h
  all_goals exact ⟨by decide, fun _ => rfl⟩

variable (sc : Scope)

/-! ### What the functions of the parser read -/

/-- Symbols that are read as an operand.  The fuel is sixteen for each of them, less what the calls on the way to the
operand have used up. -/
def ReadsPrimary (symbols : List Symbol) (e : Expr) : Prop :=
  ∀ fuel depth ts rest, Spells ts symbols → deepest depth symbols < depthLimit → NoCall rest →
    16 * symbols.length ≤ fuel + 15 → primary sc fuel (depth + 1) (ts ++ rest) = .ok (e, rest)

/-- Symbols that are read as an operand to which indices may be added. -/
def ReadsTarget (symbols : List Symbol) (e : Expr) : Prop :=
  ∀ depth ts rest result least, Spells ts symbols → deepest depth symbols < depthLimit → NoCall rest →
    (∀ fuel, least ≤ fuel → indexed sc fuel (depth + 1) e rest = result) →
    ∀ fuel, 16 * symbols.length + least ≤ fuel + 14 → unary sc fuel (depth + 1) (ts ++ rest) = result

/-- Symbols that are read as an operand with its signs. -/
def ReadsUnary (symbols : List Symbol) (e : Expr) : Prop :=
  ∀ fuel depth ts rest, Spells ts symbols → deepest depth symbols < depthLimit → Ends 0 rest →
    16 * symbols.length ≤ fuel + 13 → unary sc fuel (depth + 1) (ts ++ rest) = .ok (e, rest)

/-- Symbols that are read as an expression of the levels below `n`. -/
def ReadsLevel (n : Nat) (symbols : List Symbol) (e : Expr) : Prop :=
  ∀ fuel depth ts rest, Spells ts symbols → deepest depth symbols < depthLimit → Ends n rest →
    16 * symbols.length + 2 * n ≤ fuel + 12 → level sc fuel (depth + 1) n (ts ++ rest) = .ok (e, rest)

/-- Symbols that are read as an expression to which operators of level `n` may be added. -/
def ReadsJoined (n : Nat) (symbols : List Symbol) (e : Expr) : Prop :=
  ∀ depth ts rest result least, Spells ts symbols → deepest depth symbols < depthLimit → Ends n rest →
    (∀ fuel, least ≤ fuel → joined sc fuel (depth + 1) n e rest = result) →
    ∀ fuel, 16 * symbols.length + 2 * n + 1 + least ≤ fuel + 12 →
      level sc fuel (depth + 1) (n + 1) (ts ++ rest) = result

/-- Symbols that are read as an expression on its own. -/
def ReadsExpr (symbols : List Symbol) (e : Expr) : Prop :=
  ∀ fuel depth ts rest, Spells ts symbols → deepest depth symbols < depthLimit → Ends levelCount rest →
    16 * symbols.length + 1 ≤ fuel → expr sc fuel depth (ts ++ rest) = .ok (e, rest)

/-- Symbols that are read as arguments in front of a closing parenthesis. -/
def ReadsArguments (symbols : List Symbol) (list : List Expr) : Prop :=
  ∀ fuel depth ts place rest, Spells ts symbols → deepest depth symbols < depthLimit →
    16 * symbols.length + 2 ≤ fuel →
    arguments sc fuel depth (ts ++ ⟨.closeParen, place⟩ :: rest) = .ok (list, ⟨.closeParen, place⟩ :: rest)

variable {sc} {symbols : List Symbol} {e : Expr}

/-! ### From one function to the next -/

theorem ReadsPrimary.target (h : ReadsPrimary sc symbols e) (hpos : 0 < symbols.length) :
    ReadsTarget sc symbols e := by
  intro depth ts rest result least hts hd hrest hx fuel hf
  obtain ⟨fuel, rfl⟩ : ∃ k, fuel = k + 2 := ⟨fuel - 2, by omega⟩
  have hp := h (fuel + 1) depth ts rest hts hd hrest (by omega)
  rw [unary, hp]
  · exact hx (fuel + 1) (by omega)
  -- an operand that was read does not start with a sign
  all_goals
    intro place tail heq
    rw [heq] at hp
    simp [primary] at hp

theorem indexed_of_ends {fuel depth : Nat} {rest : List Token} (h : Ends 0 rest) (hf : 1 ≤ fuel) :
    indexed sc fuel depth e rest = .ok (e, rest) := by
  obtain ⟨fuel, rfl⟩ : ∃ k, fuel = k + 1 := ⟨fuel - 1, by omega⟩
  rw [indexed]
  rintro place tail rfl
  exact (h _ rfl).2.1 rfl

theorem ReadsTarget.unary (h : ReadsTarget sc symbols e) : ReadsUnary sc symbols e := by
  intro fuel depth ts rest hts hd hrest hf
  exact h depth ts rest (.ok (e, rest)) 1 hts hd hrest.noCall (fun _ => indexed_of_ends hrest) fuel (by omega)

theorem ReadsUnary.level (h : ReadsUnary sc symbols e) (hpos : 0 < symbols.length) : ReadsLevel sc 0 symbols e := by
  intro fuel depth ts rest hts hd hrest hf
  obtain ⟨fuel, rfl⟩ : ∃ k, fuel = k + 1 := ⟨fuel - 1, by omega⟩
  rw [Parse.level]
  exact h fuel depth ts rest hts hd hrest (by omega)

theorem ReadsLevel.joined {n : Nat} (h : ReadsLevel sc n symbols e) (hpos : 0 < symbols.length) :
    ReadsJoined sc n symbols e := by
  intro depth ts rest result least hts hd hrest hx fuel hf
  obtain ⟨fuel, rfl⟩ : ∃ k, fuel = k + 1 := ⟨fuel - 1, by omega⟩
  rw [Parse.level, h fuel depth ts rest hts hd hrest (by omega)]
  exact hx fuel (by omega)

theorem joined_of_ends {fuel depth n : Nat} {rest : List Token} (h : Ends (n + 1) rest) (hf : 1 ≤ fuel) :
    joined sc fuel depth n e rest = .ok (e, rest) := by
  obtain ⟨fuel, rfl⟩ : ∃ k, fuel = k + 1 := ⟨fuel - 1, by omega⟩
  cases rest with
  | nil => rw [joined]
  | cons t rest => rw [joined, (h t rfl).2.2 n (Nat.lt_succ_self n)]

theorem ReadsJoined.level {n : Nat} (h : ReadsJoined sc n symbols e) : ReadsLevel sc (n + 1) symbols e := by
  intro fuel depth ts rest hts hd hrest hf
  exact h depth ts rest (.ok (e, rest)) 1 hts hd (hrest.mono (Nat.le_succ n)) (fun _ => joined_of_ends hrest) fuel
    (by omega)

theorem ReadsLevel.expr (h : ReadsLevel sc levelCount symbols e) : ReadsExpr sc symbols e := by
  intro fuel depth ts rest hts hd hrest hf
  obtain ⟨fuel, rfl⟩ : ∃ k, fuel = k + 1 := ⟨fuel - 1, by omega⟩
  have hdepth : ¬depthLimit ≤ depth := by
    have := le_deepest depth symbols
    omega
  rw [Parse.expr, if_neg hdepth]
  exact h fuel depth ts rest hts hd hrest (by rw [levelCount]; omega)

/-! ### Operands -/

theorem expect_closeParen (place : Position) (rest : List Token) :
    expect sc .closeParen (⟨.closeParen, place⟩ :: rest) = .ok rest :=
  rfl

theorem ReadsExpr.parenthesized (h : ReadsExpr sc symbols e) :
    ReadsPrimary sc (.openParen :: symbols ++ [.closeParen]) e := by
  intro fuel depth ts rest hts hd hrest hf
  obtain ⟨p, inner, q, rfl, hinner⟩ := hts.bracketed
  simp only [List.length_append, List.length_cons, List.length_nil] at hf
  obtain ⟨fuel, rfl⟩ : ∃ k, fuel = k + 1 := ⟨fuel - 1, by omega⟩
  have hdeep : deepest (depth + 1) symbols < depthLimit := by
    rw [List.cons_append, deepest, deepest_append] at hd
    simp only [Token.nesting] at hd
    omega
  have hexpr := h fuel (depth + 1) inner (⟨.closeParen, q⟩ :: rest) hinner hdeep
    (ends_of_closes (s := .closeParen) trivial _ _ _) (by omega)
  rw [List.cons_append, List.cons_append, List.append_assoc, List.singleton_append, primary, hexpr]
  rfl

theorem reads_literal {v : Value} (h : v.symbols ≠ []) : ReadsPrimary sc v.symbols (.literal v) := by
  intro fuel depth ts rest hts hd hrest hf
  cases v with
  | list items => exact absurd rfl h
  | bool b =>
    obtain ⟨place, tail, rfl, htail⟩ := hts.cons
    obtain ⟨fuel, rfl⟩ : ∃ k, fuel = k + 1 := ⟨fuel - 1, by simp [Value.symbols] at hf; omega⟩
    rw [htail.nil]
    cases b <;> simp [primary]
  | _ =>
    obtain ⟨place, tail, rfl, htail⟩ := hts.cons
    obtain ⟨fuel, rfl⟩ : ∃ k, fuel = k + 1 := ⟨fuel - 1, by simp [Value.symbols] at hf; omega⟩
    rw [htail.nil]
    simp [primary]

/-- Whether a name is one of those that stand for a value. -/
def IsWord (name : String) : Prop :=
  name = "true" ∨ name = "false" ∨ name = "null"

theorem reads_var {name : String} (hw : ¬IsWord name) (h : name = "line" ∨ name ∈ sc.defined) :
    ReadsPrimary sc [.name name] (.var name) := by
  intro fuel depth ts rest hts hd hrest hf
  obtain ⟨place, tail, rfl, htail⟩ := hts.cons
  obtain ⟨fuel, rfl⟩ : ∃ k, fuel = k + 1 := ⟨fuel - 1, by simp at hf; omega⟩
  have hname : nameOf sc name place = .ok (.var name) := by
    rw [nameOf, if_pos (by simpa using h)]
  rw [htail.nil, List.singleton_append, primary, hname]
  · rfl
  · exact fun h => hw (.inl h)
  · exact fun h => hw (.inr (.inl h))
  · exact fun h => hw (.inr (.inr h))
  · rintro p q tail rfl
    exact hrest _ rfl rfl
  · rintro p tail rfl
    exact hrest _ rfl rfl

/-- A call is read with its arguments, of which there is at least one. -/
theorem ReadsArguments.called {name : String} {list : List Expr} (h : ReadsArguments sc symbols list) (hw : ¬IsWord name)
    (hcall : ∀ place, callOf name place list = .ok e) (hbegins : Begins symbols) :
    ReadsPrimary sc (called name symbols) e := by
  intro fuel depth ts rest hts hd hrest hf
  obtain ⟨place, tail, rfl, htail⟩ := hts.cons
  obtain ⟨p, inner, q, rfl, hinner⟩ := htail.bracketed
  simp only [Script.called, List.length_append, List.length_cons, List.length_nil] at hf
  obtain ⟨fuel, rfl⟩ : ∃ k, fuel = k + 1 := ⟨fuel - 1, by omega⟩
  have hdeep : deepest (depth + 1) symbols < depthLimit := by
    rw [Script.called, List.cons_append, List.cons_append, deepest, deepest, deepest_append] at hd
    simp only [Token.nesting] at hd
    omega
  have harguments := h fuel (depth + 1) inner q rest hinner hdeep (by omega)
  simp only [List.cons_append, List.append_assoc, List.nil_append]
  rw [primary, harguments]
  · simp only [bind, Except.bind, expect_closeParen, hcall]
  · exact fun h => hw (.inl h)
  · exact fun h => hw (.inr (.inl h))
  · exact fun h => hw (.inr (.inr h))
  -- a call without arguments would have its closing parenthesis here
  · intro q' tail heq
    obtain ⟨s, more, rfl, hs⟩ := hbegins
    obtain ⟨place', tail', rfl, -⟩ := hinner.cons
    cases heq
    exact hs

theorem ReadsExpr.argument (h : ReadsExpr sc symbols e) : ReadsArguments sc symbols [e] := by
  intro fuel depth ts place rest hts hd hf
  obtain ⟨fuel, rfl⟩ : ∃ k, fuel = k + 1 := ⟨fuel - 1, by omega⟩
  have hexpr := h fuel depth ts (⟨.closeParen, place⟩ :: rest) hts hd (ends_of_closes (s := .closeParen) trivial _ _ _)
    (by omega)
  rw [arguments, hexpr]
  rfl

theorem ReadsExpr.arguments {others : List Symbol} {list : List Expr} (h : ReadsExpr sc symbols e)
    (hb : Balanced symbols) (hothers : ReadsArguments sc others list) :
    ReadsArguments sc (symbols ++ .comma :: others) (e :: list) := by
  intro fuel depth ts place rest hts hd hf
  obtain ⟨first, tail, rfl, hfirst, htail⟩ := Spells.append hts
  obtain ⟨p, more, rfl, hmore⟩ := htail.cons
  simp only [List.length_append, List.length_cons] at hf
  obtain ⟨fuel, rfl⟩ : ∃ k, fuel = k + 1 := ⟨fuel - 1, by omega⟩
  rw [deepest_append, hb, deepest] at hd
  simp only [Token.nesting] at hd
  have hexpr := h fuel depth first (⟨.comma, p⟩ :: (more ++ ⟨.closeParen, place⟩ :: rest)) hfirst (by omega)
    (ends_of_closes (s := .comma) trivial _ _ _) (by omega)
  have hlist := hothers fuel depth more place rest hmore (by omega) (by omega)
  rw [List.append_assoc, List.cons_append, Parse.arguments, hexpr]
  simp only [bind, Except.bind, hlist]

/-! ### Operators -/

/-- A prefix operator goes with the operand behind it. -/
theorem ReadsUnary.signed {s : Symbol} {wrap : Expr → Expr} (hs : s = .minus ∧ wrap = .neg ∨ s = .bang ∧ wrap = .not)
    (h : ReadsUnary sc symbols e) : ReadsUnary sc (s :: symbols) (wrap e) := by
  intro fuel depth ts rest hts hd hrest hf
  obtain ⟨place, tail, rfl, htail⟩ := hts.cons
  rw [List.length_cons] at hf
  obtain ⟨fuel, rfl⟩ : ∃ k, fuel = k + 1 := ⟨fuel - 1, by omega⟩
  have hnesting : Token.nesting depth s = depth := by rcases hs with ⟨rfl, -⟩ | ⟨rfl, -⟩ <;> rfl
  rw [deepest, hnesting] at hd
  have hoperand := h fuel depth tail rest htail (by omega) hrest (by omega)
  rcases hs with ⟨rfl, rfl⟩ | ⟨rfl, rfl⟩
  · rw [List.cons_append, Parse.unary, hoperand]
    rfl
  · rw [List.cons_append, Parse.unary, hoperand]
    rfl

theorem ReadsTarget.index {inner : List Symbol} {position : Expr} (h : ReadsTarget sc symbols e)
    (hb : Balanced symbols) (hposition : ReadsExpr sc inner position) :
    ReadsTarget sc (symbols ++ (.openBracket :: inner ++ [.closeBracket])) (.index e position) := by
  intro depth ts rest result least hts hd hrest hx fuel hf
  obtain ⟨target, tail, rfl, htarget, htail⟩ := Spells.append hts
  obtain ⟨p, middle, q, rfl, hmiddle⟩ := htail.bracketed
  simp only [List.length_append, List.length_cons, List.length_nil] at hf
  rw [deepest_append, hb, List.cons_append, deepest, deepest_append] at hd
  simp only [Token.nesting] at hd
  simp only [List.cons_append, List.append_assoc, List.nil_append]
  have hnext : NoCall (⟨.openBracket, p⟩ :: (middle ++ ⟨.closeBracket, q⟩ :: rest)) := by
    rintro t ⟨⟩
    exact Symbol.noConfusion
  -- behind the target the index is read with the fuel that is left, and the others behind it
  refine h depth target _ result (least + 16 * inner.length + 2) htarget (by omega) hnext (fun k hk => ?_) fuel
    (by omega)
  obtain ⟨k, rfl⟩ : ∃ j, k = j + 1 := ⟨k - 1, by omega⟩
  have hexpr := hposition k (depth + 1) middle (⟨.closeBracket, q⟩ :: rest) hmiddle (by omega)
    (ends_of_closes (s := .closeBracket) trivial _ _ _) (by omega)
  rw [indexed, hexpr]
  exact hx k (by omega)

/-- The operands of an operator go together, and the chain goes on behind them. -/
theorem ReadsJoined.join {n : Nat} {s : Symbol} {join : Expr → Expr → Expr} (hs : joiner? n s = some join)
    {rightSymbols : List Symbol} {right : Expr} (h : ReadsJoined sc n symbols e) (hb : Balanced symbols)
    (hright : ReadsLevel sc n rightSymbols right) :
    ReadsJoined sc n (symbols ++ s :: rightSymbols) (join e right) := by
  intro depth ts rest result least hts hd hrest hx fuel hf
  obtain ⟨left, tail, rfl, hleft, htail⟩ := Spells.append hts
  obtain ⟨p, more, rfl, hmore⟩ := htail.cons
  simp only [List.length_append, List.length_cons] at hf
  obtain ⟨hn, hnesting⟩ := level_of_joiner hs
  rw [levelCount] at hn
  rw [deepest_append, hb, deepest, hnesting] at hd
  simp only [List.cons_append, List.append_assoc]
  refine h depth left _ result (least + 16 * rightSymbols.length + 2 * n + 1) hleft (by omega) (ends_of_joiner hs _ _)
    (fun k hk => ?_) fuel (by omega)
  obtain ⟨k, rfl⟩ : ∃ j, k = j + 1 := ⟨k - 1, by omega⟩
  have hlevel := hright k depth more rest hmore (by omega) hrest (by omega)
  rw [Parse.joined, hs]
  simp only [bind, Except.bind, hlevel]
  exact hx k (by omega)

/-! ### Expressions -/

/-- Whether the symbols of an expression are read as that expression by the function for its rank. -/
def ReadsBack (sc : Scope) (e : Expr) : Prop :=
  match e.rank with
  | 0 => ReadsTarget sc e.symbols e
  | 1 => ReadsUnary sc e.symbols e
  | n + 2 => ReadsJoined sc n e.symbols e

theorem ReadsLevel.climb (h : ReadsLevel sc 0 symbols e) (hpos : 0 < symbols.length) (n : Nat) :
    ReadsLevel sc n symbols e := by
  induction n with
  | zero => exact h
  | succ n ih => exact (ih.joined hpos).level

namespace ReadsBack

theorem level {n : Nat} (h : ReadsBack sc e) (hpos : 0 < e.symbols.length) (hn : e.rank ≤ n + 1) :
    ReadsLevel sc n e.symbols e := by
  induction n with
  | zero =>
    unfold ReadsBack at h
    split at h
    · exact h.unary.level hpos
    · exact h.level hpos
    · omega
  | succ n ih =>
    by_cases hle : e.rank ≤ n + 1
    · exact ((ih hle).joined hpos).level
    · have heq : e.rank = n + 2 := by omega
      rw [ReadsBack, heq] at h
      exact h.level

theorem expr (h : ReadsBack sc e) (hpos : 0 < e.symbols.length) : ReadsExpr sc e.symbols e :=
  (h.level hpos e.rank_le).expr

theorem parenthesized (h : ReadsBack sc e) (hpos : 0 < e.symbols.length) :
    ReadsTarget sc (.openParen :: e.symbols ++ [.closeParen]) e :=
  (h.expr hpos).parenthesized.target (Nat.succ_pos _)

theorem within_target (h : ReadsBack sc e) (hpos : 0 < e.symbols.length) : ReadsTarget sc (e.within 0) e := by
  by_cases hr : e.rank ≤ 0
  · rw [ReadsBack, Nat.le_zero.mp hr] at h
    rw [Expr.within, enclosed, if_pos hr]
    exact h
  · rw [Expr.within, enclosed, if_neg hr]
    exact h.parenthesized hpos

theorem within_unary (h : ReadsBack sc e) (hpos : 0 < e.symbols.length) : ReadsUnary sc (e.within 1) e := by
  by_cases hr : e.rank ≤ 1
  · rw [Expr.within, enclosed, if_pos hr]
    unfold ReadsBack at h
    split at h
    · exact h.unary
    · exact h
    · omega
  · rw [Expr.within, enclosed, if_neg hr]
    exact (h.parenthesized hpos).unary

theorem within_level (h : ReadsBack sc e) (hpos : 0 < e.symbols.length) (n : Nat) :
    ReadsLevel sc n (e.within (n + 1)) e := by
  by_cases hr : e.rank ≤ n + 1
  · rw [Expr.within, enclosed, if_pos hr]
    exact h.level hpos hr
  · rw [Expr.within, enclosed, if_neg hr]
    exact ((h.parenthesized hpos).unary.level (Nat.succ_pos _)).climb (Nat.succ_pos _) n

theorem within_joined (h : ReadsBack sc e) (hpos : 0 < e.symbols.length) (n : Nat) :
    ReadsJoined sc n (e.within (n + 2)) e := by
  by_cases hr : e.rank = n + 2
  · rw [Expr.within, enclosed, if_pos (by omega)]
    rw [ReadsBack, hr] at h
    exact h
  · -- the rank is less, or there are parentheses; both are read one level below
    have hsame : e.within (n + 2) = e.within (n + 1) := by
      unfold Expr.within enclosed
      by_cases hle : e.rank ≤ n + 1
      · rw [if_pos hle, if_pos (by omega)]
      · rw [if_neg hle, if_neg (by omega)]
    rw [hsame]
    exact (h.within_level hpos n).joined (length_enclosed_pos _ _ hpos)

end ReadsBack

theorem joiner_of_op (op : BinaryOp) : ∃ n, op.rank = n + 2 ∧ joiner? n op.symbol = some (.binary op) := by
  cases op <;> exact ⟨_, rfl, rfl⟩

theorem balanced_within (limit : Nat) (e : Expr) : Balanced (e.within limit) :=
  balanced_enclosed _ _ (balanced_symbols e)

theorem name_not_word (f : Builtin) : ¬IsWord f.name := by
  cases f <;> simp [IsWord, Builtin.name]

theorem callOf_name {f : Builtin} {list : List Expr} (h : f.arity.accepts list.length = true) (place : Position) :
    callOf f.name place list = .ok (.call f list) := by
  have hmatch : f.name ≠ "match" := by cases f <;> decide
  rw [callOf, if_neg hmatch, Builtin.ofName?_name]
  simp only [h, ↓reduceIte]

theorem callOf_search {input : Expr} {regex : Regex} (h : Regex.compile? regex.pattern = .ok regex) (place : Position) :
    callOf "match" place [input, .literal (.str regex.pattern)] = .ok (.search input regex) := by
  rw [callOf, if_pos rfl]
  simp only [searchOf, h, Except.map]

theorem callOf_searchGroup {input group : Expr} {regex : Regex} (h : Regex.compile? regex.pattern = .ok regex)
    (place : Position) :
    callOf "match" place [input, .literal (.str regex.pattern), group] = .ok (.searchGroup input regex group) := by
  rw [callOf, if_pos rfl]
  simp only [searchOf, h, Except.map]

theorem reads_string (s : String) : ReadsExpr sc [.str s] (.literal (.str s)) :=
  (((reads_literal (v := .str s) (List.cons_ne_nil _ _)).target (Nat.succ_pos _)).unary.level
    (Nat.succ_pos _)).climb (Nat.succ_pos _) levelCount |>.expr

mutual

/-- Valid expressions are read back from their symbols. -/
theorem readsBack_of_isValid (hn : ∀ name ∈ sc.defined, name ∉ reservedNames) (e : Expr) (he : e.IsValid sc.defined) :
    ReadsBack sc e := by
  match e with
  | .literal v => exact (reads_literal he).target (begins_value he).length_pos
  | .var name =>
    have hw : ¬IsWord name := by
      rcases he with rfl | hmem
      · simp [IsWord]
      · have := hn name hmem
        simp only [reservedNames, List.mem_cons, not_or] at this
        simp [IsWord, this]
    exact (reads_var hw he).target (Nat.succ_pos _)
  | .index target position =>
    have htarget := readsBack_of_isValid hn target he.1
    have hposition := readsBack_of_isValid hn position he.2
    have hpos := (begins_symbols hn target he.1).length_pos
    have := (htarget.within_target hpos).index (balanced_within 0 target)
      (hposition.expr (begins_symbols hn position he.2).length_pos)
    rw [ReadsBack, Expr.rank, Expr.symbols, List.append_assoc]
    exact this
  | .neg operand =>
    have hoperand := readsBack_of_isValid hn operand he
    exact (hoperand.within_unary (begins_symbols hn operand he).length_pos).signed (.inl ⟨rfl, rfl⟩)
  | .not operand =>
    have hoperand := readsBack_of_isValid hn operand he
    exact (hoperand.within_unary (begins_symbols hn operand he).length_pos).signed (.inr ⟨rfl, rfl⟩)
  | .binary op left right =>
    have hleft := readsBack_of_isValid hn left he.1
    have hright := readsBack_of_isValid hn right he.2
    -- the left operand may start the chain of its level, the right one is of the levels below
    obtain ⟨n, hrank, hs⟩ := joiner_of_op op
    have := (hleft.within_joined (begins_symbols hn left he.1).length_pos n).join hs (balanced_within _ left)
      (hright.within_level (begins_symbols hn right he.2).length_pos n)
    rw [ReadsBack, Expr.rank, hrank, Expr.symbols, hrank]
    exact this
  | .and left right =>
    have hleft := readsBack_of_isValid hn left he.1
    have hright := readsBack_of_isValid hn right he.2
    exact (hleft.within_joined (begins_symbols hn left he.1).length_pos 4).join (s := .and) rfl (balanced_within _ left)
      (hright.within_level (begins_symbols hn right he.2).length_pos 4)
  | .or left right =>
    have hleft := readsBack_of_isValid hn left he.1
    have hright := readsBack_of_isValid hn right he.2
    exact (hleft.within_joined (begins_symbols hn left he.1).length_pos 5).join (s := .or) rfl (balanced_within _ left)
      (hright.within_level (begins_symbols hn right he.2).length_pos 5)
  | .call function list =>
    have hne := Builtin.ne_nil_of_accepts he.1
    have hlist := reads_argumentSymbols hn list hne he.2
    exact (hlist.called (name_not_word function) (callOf_name he.1) (begins_argumentSymbols hn hne he.2)).target
      (Nat.succ_pos _)
  | .search input regex =>
    have hinput := readsBack_of_isValid hn input he.1
    have hbegins := begins_symbols hn input he.1
    have hlist := (hinput.expr hbegins.length_pos).arguments (balanced_symbols input) (reads_string regex.pattern).argument
    exact (hlist.called (by simp [IsWord]) (callOf_search he.2) (hbegins.append _)).target (Nat.succ_pos _)
  | .searchGroup input regex group =>
    have hinput := readsBack_of_isValid hn input he.1
    have hgroup := readsBack_of_isValid hn group he.2.2
    have hbegins := begins_symbols hn input he.1
    have hrest := (reads_string regex.pattern).arguments (fun _ => rfl)
      (hgroup.expr (begins_symbols hn group he.2.2).length_pos).argument
    have hlist := (hinput.expr hbegins.length_pos).arguments (balanced_symbols input) hrest
    exact (hlist.called (by simp [IsWord]) (callOf_searchGroup he.2.1) (hbegins.append _)).target (Nat.succ_pos _)

/-- Valid arguments are read back from their symbols. -/
theorem reads_argumentSymbols (hn : ∀ name ∈ sc.defined, name ∉ reservedNames) (list : List Expr) (hne : list ≠ [])
    (hl : AreValid sc.defined list) : ReadsArguments sc (argumentSymbols list) list := by
  match list with
  | [] => exact absurd rfl hne
  | [a] =>
    have ha := readsBack_of_isValid hn a hl.1
    exact (ha.expr (begins_symbols hn a hl.1).length_pos).argument
  | a :: b :: rest =>
    have ha := readsBack_of_isValid hn a hl.1
    have hrest := reads_argumentSymbols hn (b :: rest) (List.cons_ne_nil _ _) hl.2
    exact (ha.expr (begins_symbols hn a hl.1).length_pos).arguments (balanced_symbols a) hrest

end

/-! ### Statements -/

/-- Whether a statement that stands before tokens ends there. -/
def AtEnd (rest : List Token) : Prop :=
  ∀ t ∈ rest.head?, t.symbol = .separator

theorem AtEnd.ends {rest : List Token} (h : AtEnd rest) (n : Nat) : Ends n rest := by
  intro t ht
  exact ends_of_closes (s := t.symbol) (by rw [h t ht]; trivial) n t.position [] t rfl

theorem Spells.length {ts : List Token} (h : Spells ts symbols) : ts.length = symbols.length := by
  rw [← h, List.length_map]

theorem topExpr_of_isValid (hn : ∀ name ∈ sc.defined, name ∉ reservedNames) (he : e.IsValid sc.defined)
    {ts rest : List Token} (hts : Spells ts e.symbols) (hd : deepest 0 e.symbols < depthLimit) (hrest : AtEnd rest) :
    topExpr sc (ts ++ rest) = .ok (e, rest) := by
  have hexpr := (readsBack_of_isValid hn e he).expr (begins_symbols hn e he).length_pos
  refine hexpr _ 0 ts rest hts hd (hrest.ends _) ?_
  rw [List.length_append, hts.length]
  omega

theorem bindingName_of_not_reserved {name : String} (h : name ∉ reservedNames) (place : Position) (rest : List Token) :
    bindingName sc (⟨.name name, place⟩ :: rest) = .ok (name, rest) := by
  simp [bindingName, h]

/-- An expression as a statement is no assignment, and it does not start with a word of a statement. -/
theorem statement_eval (hn : ∀ name ∈ sc.defined, name ∉ reservedNames) (he : e.IsValid sc.defined)
    {ts rest : List Token} (hts : Spells ts e.symbols) (hd : deepest 0 e.symbols < depthLimit) (hrest : AtEnd rest) :
    statement sc (ts ++ rest) = .ok (.eval e, rest) := by
  obtain ⟨s, more, hs, hstarts⟩ := begins_symbols hn e he
  have hassign := assign_not_mem_symbols e
  have htop := topExpr_of_isValid hn he hts hd hrest
  rw [hs] at hts hassign
  obtain ⟨place, tail, rfl, htail⟩ := hts.cons
  unfold statement
  split
  · next heq =>
    cases heq
    exact absurd rfl hstarts.1
  · next heq =>
    cases heq
    exact absurd rfl hstarts.2
  · next heq =>
    -- the sign of an assignment would be in the expression or behind it
    cases tail with
    | nil =>
      cases heq
      exact absurd (hrest _ rfl) Symbol.noConfusion
    | cons t tail =>
      cases heq
      rw [← htail] at hassign
      exact absurd (by simp) hassign
  · rw [htop]
    rfl

theorem statement_of_isValid (hn : ∀ name ∈ sc.defined, name ∉ reservedNames) {s : Stmt} (hs : s.IsValid sc.defined)
    {ts rest : List Token} (hts : Spells ts s.symbols) (hd : deepest 0 s.symbols < depthLimit) (hrest : AtEnd rest) :
    statement sc (ts ++ rest) = .ok (s, rest) := by
  cases s with
  | bind name value =>
    obtain ⟨p, words, rfl, hwords⟩ := hts.cons
    obtain ⟨q, signs, rfl, hsigns⟩ := hwords.cons
    obtain ⟨r, tail, rfl, htail⟩ := hsigns.cons
    have hdeep : deepest 0 value.symbols < depthLimit := by simpa [Stmt.symbols, deepest, Token.nesting] using hd
    have htop := topExpr_of_isValid hn hs.2 htail hdeep hrest
    simp only [List.cons_append, statement, bindingName_of_not_reserved hs.1, bind, Except.bind, expect, accepts,
      ↓reduceIte, htop]
  | assign name value =>
    obtain ⟨p, signs, rfl, hsigns⟩ := hts.cons
    obtain ⟨q, tail, rfl, htail⟩ := hsigns.cons
    have hdeep : deepest 0 value.symbols < depthLimit := by simpa [Stmt.symbols, deepest, Token.nesting] using hd
    have htop := topExpr_of_isValid hn hs.2 htail hdeep hrest
    have hname : bindingName sc (⟨.name name, p⟩ :: ⟨.assign, q⟩ :: (tail ++ rest)) = .ok (name, _) :=
      bindingName_of_not_reserved hs.1 p _
    have hword := ne_of_not_reserved hs.1
    rw [List.cons_append, List.cons_append, statement]
    · simp only [hname, bind, Except.bind, List.tail_cons, htop]
    · intro h
      exact hword.1 h
    · intro h
      exact hword.2 h
  | reject =>
    obtain ⟨p, tail, rfl, htail⟩ := hts.cons
    rw [htail.nil]
    rfl
  | eval value => exact statement_eval hn hs hts hd hrest

theorem bound_not_reserved (hn : ∀ name ∈ sc.defined, name ∉ reservedNames) {s : Stmt} (hs : s.IsValid sc.defined) :
    ∀ name ∈ (bound? s).toList ++ sc.defined, name ∉ reservedNames := by
  intro name hname
  rw [List.mem_append] at hname
  rcases hname with hname | hname
  · cases s with
    | bind _ _ =>
      rw [List.mem_singleton.mp hname]
      exact hs.1
    | assign _ _ =>
      rw [List.mem_singleton.mp hname]
      exact hs.1
    | reject => cases hname
    | eval _ => cases hname
  · exact hn name hname

/-- The symbols of a statement start with one that is no separator. -/
theorem symbols_eq_cons (hn : ∀ name ∈ sc.defined, name ∉ reservedNames) {s : Stmt} (hs : s.IsValid sc.defined) :
    ∃ first more, s.symbols = first :: more ∧ first ≠ .separator := by
  cases s with
  | eval value =>
    obtain ⟨first, more, heq, hstarts⟩ := begins_symbols hn value hs
    refine ⟨first, more, heq, ?_⟩
    rintro rfl
    exact hstarts
  | _ => exact ⟨_, _, rfl, Symbol.noConfusion⟩

theorem balanced_statement (s : Stmt) : Balanced s.symbols := by
  cases s with
  | bind _ value => exact .cons (fun _ => rfl) (.cons (fun _ => rfl) (.cons (fun _ => rfl) (balanced_symbols value)))
  | assign _ value => exact .cons (fun _ => rfl) (.cons (fun _ => rfl) (balanced_symbols value))
  | reject => exact fun _ => rfl
  | eval value => exact balanced_symbols value

/-- A statement is read where it stands alone or in front of others. -/
theorem statements_cons (hn : ∀ name ∈ sc.defined, name ∉ reservedNames) {s : Stmt} (hs : s.IsValid sc.defined)
    {ts rest : List Token} (hts : Spells ts s.symbols) (hd : deepest 0 s.symbols < depthLimit) (hrest : AtEnd rest)
    (fuel : Nat) :
    statements (fuel + 1) sc (ts ++ rest) =
      match rest with
      | [] => .ok [s]
      | _ :: rest =>
        (statements fuel { sc with defined := (bound? s).toList ++ sc.defined } rest).map (s :: ·) := by
  have hstatement := statement_of_isValid hn hs hts hd hrest
  obtain ⟨first, more, heq, hfirst⟩ := symbols_eq_cons hn hs
  rw [heq] at hts
  obtain ⟨place, tail, rfl, htail⟩ := hts.cons
  rw [List.cons_append] at hstatement ⊢
  rw [statements]
  split
  · next h => exact absurd h hfirst
  · simp only [hstatement, bind, Except.bind]
    cases rest with
    | nil => rfl
    | cons t rest =>
      obtain ⟨symbol, place⟩ := t
      obtain rfl : symbol = .separator := hrest _ rfl
      rfl

theorem statements_of_valid (list : List Stmt) (fuel : Nat) (sc : Scope)
    (hn : ∀ name ∈ sc.defined, name ∉ reservedNames) (hv : StatementsValid sc.defined list) {ts : List Token}
    (hts : Spells ts (statementSymbols list)) (hd : deepest 0 (statementSymbols list) < depthLimit)
    (hf : list.length ≤ fuel) : statements fuel sc ts = .ok list := by
  induction list generalizing fuel sc ts with
  | nil =>
    rw [hts.nil]
    cases fuel <;> rfl
  | cons s list ih =>
    obtain ⟨fuel, rfl⟩ : ∃ k, fuel = k + 1 := ⟨fuel - 1, by simp at hf; omega⟩
    cases list with
    | nil =>
      have hnil : AtEnd [] := fun _ h => by cases h
      have := statements_cons hn hv.1 hts hd hnil fuel
      rwa [List.append_nil] at this
    | cons t list =>
      obtain ⟨first, tail, rfl, hfirst, htail⟩ := Spells.append hts
      obtain ⟨place, more, rfl, hmore⟩ := htail.cons
      rw [statementSymbols, deepest_append, balanced_statement, deepest] at hd
      simp only [Token.nesting] at hd
      have hsep : AtEnd (⟨.separator, place⟩ :: more) := by
        rintro t ⟨⟩
        rfl
      -- the names that `s` binds can be used from here on
      have hlater := ih fuel { sc with defined := (bound? s).toList ++ sc.defined } (bound_not_reserved hn hv.1) hv.2
        hmore (by omega) (by simpa using hf)
      rw [statements_cons hn hv.1 hfirst (by omega) hsep fuel]
      simp only [hlater, Except.map]

end Parse

theorem length_le_statementSymbols (list : List Stmt) : list.length ≤ (statementSymbols list).length + 1 := by
  match list with
  | [] => exact Nat.zero_le _
  | [s] => exact Nat.le_add_left 1 _
  | s :: t :: rest =>
    have := length_le_statementSymbols (t :: rest)
    simp only [statementSymbols, List.length_cons, List.length_append] at this ⊢
    omega

/-- Every valid program whose brackets nest less deep than the limit is read back from its symbols, wherever its tokens
stand in a text. -/
theorem Program.ofTokens_symbols {p : Program} (hp : p.IsValid) (hd : deepest 0 p.symbols < depthLimit) {ts : Tokens}
    (hts : ts.tokens.map (·.symbol) = p.symbols) : Program.ofTokens ts = .ok p := by
  have hlength : p.statements.length ≤ ts.tokens.length + 1 := by
    have := length_le_statementSymbols p.statements
    rwa [← Program.symbols, ← hts, List.length_map] at this
  rw [ofTokens, Parse.statements_of_valid p.statements _ ⟨ts.stop, []⟩ (fun _ h => by cases h) hp hts hd hlength]
  rfl

/-- `let x = 1 - 2 - (3 - 4); y = -x[0] * (-x)[len(line)]; match(line, "a") != !(x || y) && x; reject` -/
theorem Program.ofTokens_symbols_nested :
    let one : Expr := .literal (.int 1)
    let two : Expr := .literal (.str "2")
    let x : Expr := .var "x"
    let regex : Regex := ⟨"a", [none], ⟨3, #[.done, .save 1 0, .char 'a' 1, .save 0 2], 2⟩⟩
    let p : Program := ⟨[.bind "x" (.binary .sub (.binary .sub one two) (.binary .sub two one)),
      .assign "y" (.binary .mul (.neg (.index x one)) (.index (.neg x) (.call .len [.var "line"]))),
      .eval (.and (.binary .ne (.search (.var "line") regex) (.not (.or x (.var "y")))) x),
      .reject]⟩
    let symbols : List Symbol := [.name "let", .name "x", .assign, .int 1, .minus, .str "2", .minus, .openParen, .str "2",
      .minus, .int 1, .closeParen, .separator, .name "y", .assign, .minus, .name "x", .openBracket, .int 1, .closeBracket,
      .star, .openParen, .minus, .name "x", .closeParen, .openBracket, .name "len", .openParen, .name "line", .closeParen,
      .closeBracket, .separator, .name "match", .openParen, .name "line", .comma, .str "a", .closeParen, .ne, .bang,
      .openParen, .name "x", .or, .name "y", .closeParen, .and, .name "x", .separator, .name "reject"]
    p.IsValid ∧ deepest 0 p.symbols < depthLimit ∧ symbols = p.symbols ∧
      Program.ofTokens ⟨symbols.map (⟨·, ⟨1, 1⟩⟩), ⟨1, 2⟩⟩ = .ok p := by
  intro one two x regex p symbols
  have hregex : Regex.compile? regex.pattern = .ok regex := by cbv
  have hvalid : p.IsValid := by
    simp [Program.IsValid, StatementsValid, Stmt.IsValid, Expr.IsValid, AreValid, Value.symbols, Parse.reservedNames,
      Parse.bound?, Builtin.arity, Arity.accepts, hregex, p, one, two, x]
  have hsymbols : symbols = p.symbols := rfl
  have hd : deepest 0 p.symbols < depthLimit := by decide +kernel
  exact ⟨hvalid, hd, hsymbols, Program.ofTokens_symbols hvalid hd (by rw [← hsymbols]; rfl)⟩

end SampleRecorder.Script
