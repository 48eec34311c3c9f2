import SampleRecorder.Proofs.Script.Nesting
import SampleRecorder.Proofs.Script.Turns

/-!
# Reading tokens without a bound

The functions of the parser share a fuel, which bounds how deep they call each other.  Here the same functions are defined
without it (`Parse.Direct`): each of them gives fewer tokens back than it is given, which is part of the type of its
result (`Read`), and a call on the same tokens goes to a function of a lower rank.  So they come to an end on any tokens.
With sixteen times as much fuel as there are tokens the functions of the parser do the same (`agrees`), and a program is
read from its tokens as without a bound (`Program.ofTokens_eq_direct`).

With any fuel, what they read stands at the front of the tokens and is not empty (`advancing`), since a reading has these
properties in `Takes`.  Together with the turns of the scan this bounds the work on a program text by the text itself
(`Program.read_unbounded`).
-/

namespace SampleRecorder.Script

namespace Parse

/-- What is read, and the tokens behind it, fewer than `n`. -/
structure Read (α : Type) (n : Nat) where
  value : α
  rest : List Token
  shorter : rest.length < n

namespace Read

variable {α β : Type} {m n : Nat} {t : Token} {ts : List Token}

/-- What is read without taking a token. -/
def idle (a : α) (ts : List Token) : Read α (ts.length + 1) :=
  ⟨a, ts, Nat.lt_succ_self _⟩

/-- What is read from one token. -/
def one (a : α) (ts : List Token) : Read α (t :: ts).length :=
  ⟨a, ts, Nat.lt_succ_self _⟩

def map (f : α → β) (r : Read α n) : Read β n :=
  ⟨f r.value, r.rest, r.shorter⟩

def within (r : Read α m) (h : m ≤ n) : Read α n :=
  ⟨r.value, r.rest, Nat.lt_of_lt_of_le r.shorter h⟩

def below (r : Read α m) (h : m < n) : Read α n :=
  r.within (Nat.le_of_lt h)

def loose (r : Read α n) : Read α (n + 1) :=
  r.within (Nat.le_succ n)

/-- What is read behind a token. -/
def behind (r : Read α ts.length) : Read α (t :: ts).length :=
  r.loose

def ofTail (r : Read α ts.tail.length) : Read α ts.length :=
  r.within (List.length_tail ▸ Nat.sub_le _ _)

def pair (r : Read α n) : α × List Token :=
  (r.value, r.rest)

end Read

namespace Direct

/-- Takes one token that must be there. -/
def expect (sc : Scope) (what : Expected) : (ts : List Token) → Except SyntaxFault (Read Unit ts.length)
  | [] => sc.refuse [] (.expected what)
  | t :: rest => if accepts what t.symbol then .ok (.one () rest) else sc.refuse (t :: rest) (.expected what)

/-! The parts that call each other.  Either tokens are taken, or the rank gets lower, which is the second part of the
measures: arguments call expressions, these the levels from the highest to the lowest, and the lowest calls operands. -/

mutual

/-- Reads an expression inside `depth` others. -/
def expr (sc : Scope) (depth : Nat) (ts : List Token) : Except SyntaxFault (Read Expr ts.length) :=
  if depthLimit ≤ depth then sc.refuse ts .tooDeep else level sc (depth + 1) levelCount ts
termination_by (ts.length, levelCount + 3)

/-- Reads operands joined by the operators of the levels below `n`. -/
def level (sc : Scope) (depth : Nat) : (n : Nat) → (ts : List Token) → Except SyntaxFault (Read Expr ts.length)
  | 0, ts => unary sc depth ts
  | n + 1, ts => do
    let ⟨left, rest, h⟩ ← level sc depth n ts
    let all ← joined sc depth n left rest
    .ok (all.within h)
termination_by n ts => (ts.length, n + 2)

/-- Goes on after `left` with the operators of level `n`. -/
def joined (sc : Scope) (depth n : Nat) (left : Expr) :
    (ts : List Token) → Except SyntaxFault (Read Expr (ts.length + 1))
  | [] => .ok (.idle left [])
  | t :: rest =>
    match joiner? n t.symbol with
    | none => .ok (.idle left (t :: rest))
    | some join => do
      let ⟨right, rest, h⟩ ← level sc depth n rest
      let all ← joined sc depth n (join left right) rest
      .ok (all.within h).behind.loose
termination_by ts => (ts.length, 0)

/-- Reads an operand with the signs in front of it. -/
def unary (sc : Scope) (depth : Nat) (ts : List Token) : Except SyntaxFault (Read Expr ts.length) :=
  match ts with
  | ⟨.minus, _⟩ :: rest => do
    let operand ← unary sc depth rest
    .ok (operand.map .neg).behind
  | ⟨.bang, _⟩ :: rest => do
    let operand ← unary sc depth rest
    .ok (operand.map .not).behind
  | ts => do
    let ⟨target, rest, h⟩ ← primary sc depth ts
    let all ← indexed sc depth target rest
    .ok (all.within h)
termination_by (ts.length, 1)

/-- Goes on after `target` with indices in brackets. -/
def indexed (sc : Scope) (depth : Nat) (target : Expr) (ts : List Token) :
    Except SyntaxFault (Read Expr (ts.length + 1)) :=
  match ts with
  | ⟨.openBracket, _⟩ :: rest => do
    let ⟨position, rest, h⟩ ← expr sc depth rest
    let ⟨_, rest, h'⟩ ← expect sc .closeBracket rest
    let all ← indexed sc depth (.index target position) rest
    .ok ((all.within h').below h).behind.loose
  | ts => .ok (.idle target ts)
termination_by (ts.length, 0)

/-- Reads a literal, a name, a call or an expression in parentheses. -/
def primary (sc : Scope) (depth : Nat) : (ts : List Token) → Except SyntaxFault (Read Expr ts.length)
  | [] => .error ⟨sc.stop, .expectedValue⟩
  | ⟨symbol, place⟩ :: rest =>
    match symbol with
    | .int n => .ok (.one (.literal (.int n)) rest)
    | .float x => .ok (.one (.literal (.float x)) rest)
    | .str s => .ok (.one (.literal (.str s)) rest)
    | .openParen => do
      let ⟨inner, rest, h⟩ ← expr sc depth rest
      let close ← expect sc .closeParen rest
      .ok ((close.map fun _ => inner).below h).behind
    | .name "true" => .ok (.one (.literal (.bool true)) rest)
    | .name "false" => .ok (.one (.literal (.bool false)) rest)
    | .name "null" => .ok (.one (.literal .null) rest)
    | .name name =>
      match rest with
      | ⟨.openParen, _⟩ :: ⟨.closeParen, _⟩ :: rest => do
        let call ← callOf name place []
        .ok (Read.one call rest).behind.behind
      | ⟨.openParen, _⟩ :: rest => do
        let ⟨list, rest, h⟩ ← arguments sc depth rest
        let close ← expect sc .closeParen rest
        let call ← callOf name place list
        .ok ((close.map fun _ => call).below h).behind.behind
      | rest => do
        let value ← nameOf sc name place
        .ok (.one value rest)
    | _ => .error ⟨place, .expectedValue⟩
termination_by ts => (ts.length, 0)

/-- Reads arguments with commas between them. -/
def arguments (sc : Scope) (depth : Nat) (ts : List Token) : Except SyntaxFault (Read (List Expr) ts.length) := do
  let ⟨first, rest, h⟩ ← expr sc depth ts
  match rest, h with
  | ⟨.comma, _⟩ :: rest, h => do
    let others ← arguments sc depth rest
    .ok ((others.map (first :: ·)).behind.below h)
  | rest, h => .ok ⟨[first], rest, h⟩
termination_by (ts.length, levelCount + 4)
decreasing_by
  · exact .right _ (Nat.lt_succ_self _)
  · exact .left _ _ (Nat.lt_of_succ_lt h)

end

/-- Reads a name that a statement binds. -/
def bindingName (sc : Scope) : (ts : List Token) → Except SyntaxFault (Read String ts.length)
  | ⟨.name name, _⟩ :: rest =>
    if reservedNames.contains name then sc.refuse rest (.reservedName name) else .ok (.one name rest)
  | ts => sc.refuse ts.tail .expectedName

/-- Reads one statement. -/
def statement (sc : Scope) (ts : List Token) : Except SyntaxFault (Read Stmt ts.length) :=
  match ts with
  | ⟨.name "let", _⟩ :: rest => do
    let ⟨name, rest, h⟩ ← bindingName sc rest
    let ⟨_, rest, h'⟩ ← expect sc .assign rest
    let value ← expr sc 0 rest
    .ok (((value.map (.bind name)).below h').below h).behind
  | ⟨.name "reject", _⟩ :: rest => .ok (.one .reject rest)
  | ⟨.name name, place⟩ :: ⟨.assign, place'⟩ :: after => do
    let ⟨name, rest, h⟩ ← bindingName sc (⟨.name name, place⟩ :: ⟨.assign, place'⟩ :: after)
    let value ← expr sc 0 rest.tail
    .ok ((value.map (.assign name)).ofTail.below h)
  | ts => do
    let value ← expr sc 0 ts
    .ok (value.map .eval)

/-- Reads statements with separators between them. -/
def statements (sc : Scope) : List Token → Except SyntaxFault (List Stmt)
  | [] => .ok []
  | t :: rest =>
    match t.symbol with
    | .separator => statements sc rest
    | _ => do
      let ⟨s, rest, h⟩ ← statement sc (t :: rest)
      let sc := { sc with defined := (bound? s).toList ++ sc.defined }
      match rest, h with
      | [], _ => .ok [s]
      | ⟨.separator, _⟩ :: rest, _ => (statements sc rest).map (s :: ·)
      | rest, _ => sc.refuse rest .expectedEnd
termination_by ts => ts.length
decreasing_by
  · exact Nat.lt_succ_self _
  · exact Nat.lt_of_succ_lt ‹_›

end Direct

/-! ### Enough fuel -/

/-- Two computations go on alike behind parts that are alike. -/
theorem bind_map_congr {ε α α' β β' : Type} {x : Except ε α'} {y : Except ε α} {f : α' → Except ε β'}
    {g : α → Except ε β} {view : α → α'} {view' : β → β'} (hx : x = y.map view)
    (h : ∀ a, f (view a) = (g a).map view') : x >>= f = (y >>= g).map view' := by
  subst hx
  cases y with
  | error e => rfl
  | ok a => exact h a

theorem bind_congr_map {ε α α' β : Type} {x : Except ε α'} {y : Except ε α} {f : α' → Except ε β} {g : α → Except ε β}
    {view : α → α'} (hx : x = y.map view) (h : ∀ a, f (view a) = g a) : x >>= f = y >>= g := by
  subst hx
  cases y with
  | error e => rfl
  | ok a => exact h a

/-- Whatever else is known of the tokens left makes no difference. -/
theorem eq_map_pair {ε α : Type} {m n : Nat} {x : Except ε (α × List Token)} {y : Except ε (Read α m)}
    {view : Read α m → Read α n} (hx : x = y.map Read.pair) (h : ∀ r, (view r).pair = r.pair) :
    x = (y >>= fun r => .ok (view r)).map Read.pair := by
  subst hx
  cases y with
  | error e => rfl
  | ok r => exact congrArg Except.ok (h r).symm

theorem expect_eq_direct (sc : Scope) (what : Expected) (ts : List Token) :
    expect sc what ts = (Direct.expect sc what ts).map Read.rest := by
  cases ts with
  | nil => rfl
  | cons t rest =>
    rw [expect, Direct.expect]
    split <;> rfl

/-- What the functions of the parser do with some fuel, if that is enough for the tokens. -/
structure Agrees (sc : Scope) (fuel : Nat) : Prop where
  expr : ∀ d ts, 16 * ts.length + 10 ≤ fuel → Parse.expr sc fuel d ts = (Direct.expr sc d ts).map Read.pair
  level : ∀ d n ts, n ≤ levelCount → 16 * ts.length + n + 3 ≤ fuel →
    Parse.level sc fuel d n ts = (Direct.level sc d n ts).map Read.pair
  joined : ∀ d n left ts, n < levelCount → 16 * ts.length + 1 ≤ fuel →
    Parse.joined sc fuel d n left ts = (Direct.joined sc d n left ts).map Read.pair
  unary : ∀ d ts, 16 * ts.length + 2 ≤ fuel → Parse.unary sc fuel d ts = (Direct.unary sc d ts).map Read.pair
  indexed : ∀ d target ts, 16 * ts.length + 1 ≤ fuel →
    Parse.indexed sc fuel d target ts = (Direct.indexed sc d target ts).map Read.pair
  primary : ∀ d ts, 16 * ts.length + 1 ≤ fuel → Parse.primary sc fuel d ts = (Direct.primary sc d ts).map Read.pair
  arguments : ∀ d ts, 16 * ts.length + 11 ≤ fuel →
    Parse.arguments sc fuel d ts = (Direct.arguments sc d ts).map Read.pair

namespace Agrees

variable {sc : Scope} {fuel d n : Nat} {ts : List Token}

theorem zero (sc : Scope) : Agrees sc 0 := by
  constructor <;> intros <;> omega

theorem expr_succ (h : Agrees sc fuel) (hfuel : 16 * ts.length + 10 ≤ fuel + 1) :
    Parse.expr sc (fuel + 1) d ts = (Direct.expr sc d ts).map Read.pair := by
  rw [Parse.expr, Direct.expr]
  split
  · rfl
  · exact h.level _ _ _ (Nat.le_refl _) (by rw [levelCount]; omega)

theorem level_succ (h : Agrees sc fuel) (hn : n ≤ levelCount) (hfuel : 16 * ts.length + n + 3 ≤ fuel + 1) :
    Parse.level sc (fuel + 1) d n ts = (Direct.level sc d n ts).map Read.pair := by
  cases n with
  | zero =>
    rw [Parse.level, Direct.level]
    exact h.unary _ _ (by omega)
  | succ n =>
    rw [Parse.level, Direct.level]
    refine bind_map_congr (h.level d n ts (by omega) (by omega)) fun r => ?_
    obtain ⟨left, rest, hshorter⟩ := r
    exact eq_map_pair (h.joined d n left rest (by omega) (by omega)) fun _ => rfl

theorem joined_succ (h : Agrees sc fuel) (hn : n < levelCount) (left : Expr) (hfuel : 16 * ts.length + 1 ≤ fuel + 1) :
    Parse.joined sc (fuel + 1) d n left ts = (Direct.joined sc d n left ts).map Read.pair := by
  cases ts with
  | nil =>
    rw [Parse.joined, Direct.joined]
    rfl
  | cons t rest =>
    rw [List.length_cons] at hfuel
    rw [Parse.joined, Direct.joined]
    cases joiner? n t.symbol with
    | none => rfl
    | some join =>
      rw [levelCount] at hn
      have hlevel := h.level d n rest (by rw [levelCount]; omega) (by omega)
      refine bind_map_congr hlevel fun r => ?_
      obtain ⟨right, after, hshorter⟩ := r
      exact eq_map_pair (h.joined d n _ after (by rw [levelCount]; omega) (by omega)) fun _ => rfl

theorem unary_succ (h : Agrees sc fuel) (hfuel : 16 * ts.length + 2 ≤ fuel + 1) :
    Parse.unary sc (fuel + 1) d ts = (Direct.unary sc d ts).map Read.pair := by
  rw [Parse.unary.eq_def]
  dsimp only
  split
  · rw [List.length_cons] at hfuel
    rw [Direct.unary]
    exact bind_map_congr (h.unary d _ (by omega)) fun _ => rfl
  · rw [List.length_cons] at hfuel
    rw [Direct.unary]
    exact bind_map_congr (h.unary d _ (by omega)) fun _ => rfl
  · next hminus hbang =>
    rw [Direct.unary]
    · refine bind_map_congr (h.primary d ts (by omega)) fun r => ?_
      obtain ⟨target, rest, hshorter⟩ := r
      exact eq_map_pair (h.indexed d target rest (by omega)) fun _ => rfl
    · exact hminus
    · exact hbang

theorem indexed_succ (h : Agrees sc fuel) (target : Expr) (hfuel : 16 * ts.length + 1 ≤ fuel + 1) :
    Parse.indexed sc (fuel + 1) d target ts = (Direct.indexed sc d target ts).map Read.pair := by
  rw [Parse.indexed.eq_def]
  dsimp only
  split
  · rw [List.length_cons] at hfuel
    rw [Direct.indexed]
    refine bind_map_congr (h.expr d _ (by omega)) fun r => ?_
    obtain ⟨position, rest, hshorter⟩ := r
    refine bind_map_congr (expect_eq_direct sc .closeBracket rest) fun close => ?_
    obtain ⟨_, after, hshorter'⟩ := close
    exact eq_map_pair (h.indexed d _ after (by omega)) fun _ => rfl
  · next hbracket =>
    rw [Direct.indexed]
    · rfl
    · exact hbracket

theorem primary_succ (h : Agrees sc fuel) (hfuel : 16 * ts.length + 1 ≤ fuel + 1) :
    Parse.primary sc (fuel + 1) d ts = (Direct.primary sc d ts).map Read.pair := by
  cases ts with
  | nil =>
    rw [Parse.primary.eq_def, Direct.primary]
    rfl
  | cons t rest =>
    obtain ⟨symbol, place⟩ := t
    rw [List.length_cons] at hfuel
    rw [Parse.primary.eq_def]
    dsimp only
    split
    · rw [Direct.primary]; rfl
    · rw [Direct.primary]; rfl
    · rw [Direct.primary]; rfl
    · rw [Direct.primary]
      refine bind_map_congr (h.expr d _ (by omega)) fun inner => ?_
      exact bind_map_congr (expect_eq_direct sc .closeParen inner.rest) fun _ => rfl
    · rw [Direct.primary]; rfl
    · rw [Direct.primary]; rfl
    · rw [Direct.primary]; rfl
    · next name _ _ _ =>
      split
      · rw [Direct.primary]
        · exact bind_map_congr (Token.map_id_except _).symm fun _ => rfl
        all_goals assumption
      · rw [List.length_cons] at hfuel
        rw [Direct.primary]
        · refine bind_map_congr (h.arguments d _ (by omega)) fun list => ?_
          refine bind_map_congr (expect_eq_direct sc .closeParen list.rest) fun _ => ?_
          exact bind_map_congr (Token.map_id_except _).symm fun _ => rfl
        all_goals assumption
      · rw [Direct.primary]
        · exact bind_map_congr (Token.map_id_except _).symm fun _ => rfl
        all_goals assumption
    · rw [Direct.primary]
      · rfl
      all_goals assumption

theorem arguments_succ (h : Agrees sc fuel) (hfuel : 16 * ts.length + 11 ≤ fuel + 1) :
    Parse.arguments sc (fuel + 1) d ts = (Direct.arguments sc d ts).map Read.pair := by
  rw [Parse.arguments, Direct.arguments]
  refine bind_map_congr (h.expr d ts (by omega)) fun r => ?_
  obtain ⟨first, rest, hshorter⟩ := r
  dsimp only [Read.pair]
  split
  · rw [List.length_cons] at hshorter
    exact bind_map_congr (h.arguments d _ (by omega)) fun _ => rfl
  · next hcomma =>
    split
    · exact (hcomma _ _ rfl).elim
    · rfl

end Agrees

theorem agrees (sc : Scope) (fuel : Nat) : Agrees sc fuel := by
  induction fuel with
  | zero => exact .zero sc
  | succ fuel ih =>
    exact
      { expr := fun _ _ => ih.expr_succ
        level := fun _ _ _ => ih.level_succ
        joined := fun _ _ left _ hn => ih.joined_succ hn left
        unary := fun _ _ => ih.unary_succ
        indexed := fun _ target _ => ih.indexed_succ target
        primary := fun _ _ => ih.primary_succ
        arguments := fun _ _ => ih.arguments_succ }

/-! ### Statements and programs -/

theorem topExpr_eq_direct (sc : Scope) (ts : List Token) : topExpr sc ts = (Direct.expr sc 0 ts).map Read.pair :=
  (agrees sc _).expr 0 ts (by omega)

theorem bindingName_eq_direct (sc : Scope) (ts : List Token) :
    bindingName sc ts = (Direct.bindingName sc ts).map Read.pair := by
  unfold bindingName
  split
  · rw [Direct.bindingName]
    split <;> rfl
  · rw [Direct.bindingName]
    · rfl
    all_goals assumption

theorem statement_eq_direct (sc : Scope) (ts : List Token) :
    statement sc ts = (Direct.statement sc ts).map Read.pair := by
  unfold statement
  split
  · next place rest =>
    rw [Direct.statement]
    refine bind_map_congr (bindingName_eq_direct sc rest) fun name => ?_
    refine bind_map_congr (expect_eq_direct sc .assign name.rest) fun sign => ?_
    exact bind_map_congr (topExpr_eq_direct sc sign.rest) fun _ => rfl
  · rw [Direct.statement]
    rfl
  · rw [Direct.statement]
    · refine bind_map_congr (bindingName_eq_direct sc _) fun name => ?_
      exact bind_map_congr (topExpr_eq_direct sc name.rest.tail) fun _ => rfl
    all_goals assumption
  · rw [Direct.statement]
    · exact bind_map_congr (topExpr_eq_direct sc ts) fun _ => rfl
    all_goals assumption

theorem statements_eq_direct {fuel : Nat} {ts : List Token} (h : ts.length ≤ fuel) (sc : Scope) :
    statements fuel sc ts = Direct.statements sc ts := by
  induction fuel generalizing ts sc with
  | zero =>
    rw [List.length_eq_zero_iff.mp (Nat.le_zero.mp h), Direct.statements, statements]
  | succ fuel ih =>
    cases ts with
    | nil => rw [Direct.statements, statements.eq_def]
    | cons t rest =>
      rw [List.length_cons] at h
      rw [statements, Direct.statements]
      cases t.symbol with
      | separator => exact ih (by omega) sc
      | _ =>
        refine bind_congr_map (statement_eq_direct sc (t :: rest)) fun r => ?_
        obtain ⟨s, after, hshorter⟩ := r
        rw [List.length_cons] at hshorter
        dsimp only [Read.pair]
        split
        · rfl
        · rw [List.length_cons] at hshorter
          exact congrArg _ (ih (by omega) _)
        · next hnil hseparator =>
          split
          · exact (hnil rfl).elim
          · exact (hseparator _ _ rfl).elim
          · rfl

/-! ### Progress -/

/-- Whether whatever is read takes at least one token from the front and leaves those behind it. -/
def Advances {α : Type} (ts : List Token) (x : Except SyntaxFault (α × List Token)) : Prop :=
  Gives x fun r => ∃ used, used ≠ [] ∧ ts = used ++ r.2

theorem Advances.of_reading {α : Type} {d : Nat} {ts : List Token} {x : Except SyntaxFault (α × List Token)}
    {n h : α → Nat} (hx : Gives x fun r => ∃ used, Reading d ts used r.2 (n r.1) (h r.1)) : Advances ts x := by
  intro r hr
  obtain ⟨used, hread⟩ := hx r hr
  exact ⟨used, hread.ne_nil, hread.split⟩

/-- The functions of the parser that read an expression, or a part of one that is an expression again, take at least one
token, however much fuel they have. -/
structure Advancing (sc : Scope) (fuel : Nat) : Prop where
  expr : ∀ depth ts, Advances ts (Parse.expr sc fuel depth ts)
  level : ∀ depth n ts, depth < depthLimit → n ≤ levelCount → Advances ts (Parse.level sc fuel (depth + 1) n ts)
  unary : ∀ depth ts, depth < depthLimit → Advances ts (Parse.unary sc fuel (depth + 1) ts)
  primary : ∀ depth ts, depth < depthLimit → Advances ts (Parse.primary sc fuel (depth + 1) ts)
  arguments : ∀ depth ts, Advances ts (Parse.arguments sc fuel depth ts)

theorem advancing (sc : Scope) (fuel : Nat) : Advancing sc fuel :=
  have h := takes sc fuel
  { expr := fun d ts => .of_reading (h.expr d ts).gives
    level := fun d n ts hd hn => .of_reading (h.level d n ts hd hn).gives
    unary := fun d ts hd => .of_reading (h.unary d ts hd).gives
    primary := fun d ts hd => .of_reading (h.primary d ts hd).gives
    arguments := fun d ts => .of_reading (h.arguments d ts).gives }

theorem advances_statement (sc : Scope) (ts : List Token) : Advances ts (statement sc ts) :=
  .of_reading (ensures_statement sc ts).gives

end Parse

namespace Program

/-- The program that tokens spell, read without a bound. -/
def direct (ts : Tokens) : Except SyntaxFault Program :=
  (Parse.Direct.statements ⟨ts.stop, []⟩ ts.tokens).map Program.mk

theorem ofTokens_eq_direct (ts : Tokens) : ofTokens ts = direct ts :=
  congrArg (Except.map Program.mk) (Parse.statements_eq_direct (Nat.le_succ _) _)

/-- Program texts are scanned and read to their end without a bound.  A turn of the scan takes at least one character, a
statement or an expression takes at least one token and none beyond the last, and what the scan cuts out as a number is
one. -/
theorem read_unbounded (source : String) :
    (Token.scan source = Token.turns 0 ⟨1, 1⟩ source.toList ∧ ∀ ts, ofTokens ts = direct ts) ∧
    (∀ depth p c s, Gives (Token.turn depth p c s) fun t => ∃ taken, taken ≠ [] ∧ c :: s = taken ++ t.rest) ∧
    (∀ sc ts, Parse.Advances ts (Parse.statement sc ts)) ∧
    (∀ sc fuel, Parse.Advancing sc fuel) ∧
    (∀ p text, Token.scan source ≠ .error ⟨p, .badNumber text⟩) ∧
    ∀ c s isFloat, (c.isDigit = true ∨ c = '.' ∧ Token.startsDigit s = true) →
      (Token.number? (Token.numberText (c :: s)).1 isFloat).isSome = true := by
  refine ⟨⟨Token.scan_eq_turns source, ofTokens_eq_direct⟩, fun depth p c s => (Token.ensures_turn depth p c s).gives,
    Parse.advances_statement, Parse.advancing, fun p text hscan => ?_, fun c s isFloat hc => ?_⟩
  · have hreason := (Token.ensures_scanFrom _ _ _ _).fails _ hscan
    cases hreason
  · exact Token.isSome_number? hc isFloat

end Program

end SampleRecorder.Script
