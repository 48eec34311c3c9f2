import SampleRecorder.Script.Parse

/-!
# How programs are written

The symbols that a program is written with, where parentheses stand only around operands that bind more loosely than
their place allows.  The brackets of an expression are balanced (`balanced_symbols`), so the nesting of a text
(`deepest`) is that of its parts.
-/

namespace SampleRecorder.Script

/-! ### Ranks -/

/-- How loosely an operator binds; operands without operators have rank 0, and prefix operators have rank 1. -/
def BinaryOp.rank : BinaryOp → Nat
  | mul | div | rem => 2
  | add | sub => 3
  | lt | le | gt | ge => 4
  | eq | ne => 5

/-- The sign of an operator. -/
def BinaryOp.symbol : BinaryOp → Symbol
  | add => .plus
  | sub => .minus
  | mul => .star
  | div => .slash
  | rem => .percent
  | eq => .eq
  | ne => .ne
  | lt => .lt
  | le => .le
  | gt => .gt
  | ge => .ge

/-- How loosely the outermost operator of an expression binds. -/
def Expr.rank : Expr → Nat
  | literal _ | var _ | index _ _ | call _ _ | search _ _ | searchGroup _ _ _ => 0
  | neg _ | not _ => 1
  | binary op _ _ => op.rank
  | and _ _ => 6
  | or _ _ => 7

theorem Expr.rank_le (e : Expr) : e.rank ≤ 7 := by
  cases e with
  | binary op _ _ => cases op <;> simp [rank, BinaryOp.rank]
  | _ => simp only [rank]; omega

/-! ### Symbols -/

/-- The symbol of a literal; a list has none. -/
def Value.symbols : Value → List Symbol
  | null => [.name "null"]
  | bool b => [.name (if b then "true" else "false")]
  | int n => [.int n]
  | float x => [.float x]
  | str s => [.str s]
  | list _ => []

/-- Symbols in parentheses where their rank is beyond a limit. -/
def enclosed (limit rank : Nat) (symbols : List Symbol) : List Symbol :=
  if rank ≤ limit then symbols else .openParen :: symbols ++ [.closeParen]

theorem length_enclosed_pos (limit rank : Nat) {symbols : List Symbol} (h : 0 < symbols.length) :
    0 < (enclosed limit rank symbols).length := by
  unfold enclosed
  split
  · exact h
  · exact Nat.succ_pos _

/-- The symbols of a call. -/
def called (name : String) (arguments : List Symbol) : List Symbol :=
  .name name :: .openParen :: arguments ++ [.closeParen]

mutual

/-- The symbols of an expression that stands for itself.  The left operand of an operator may have the same rank, the
right one may not. -/
def Expr.symbols : Expr → List Symbol
  | .literal v => v.symbols
  | .var name => [.name name]
  | .index target position =>
    enclosed 0 target.rank target.symbols ++ .openBracket :: position.symbols ++ [.closeBracket]
  | .neg operand => .minus :: enclosed 1 operand.rank operand.symbols
  | .not operand => .bang :: enclosed 1 operand.rank operand.symbols
  | .binary op left right =>
    enclosed op.rank left.rank left.symbols ++ op.symbol :: enclosed (op.rank - 1) right.rank right.symbols
  | .and left right => enclosed 6 left.rank left.symbols ++ .and :: enclosed 5 right.rank right.symbols
  | .or left right => enclosed 7 left.rank left.symbols ++ .or :: enclosed 6 right.rank right.symbols
  | .call function arguments => called function.name (argumentSymbols arguments)
  | .search input regex => called "match" (input.symbols ++ [.comma, .str regex.pattern])
  | .searchGroup input regex group =>
    called "match" (input.symbols ++ .comma :: .str regex.pattern :: .comma :: group.symbols)

/-- The symbols of arguments with commas between them. -/
def argumentSymbols : List Expr → List Symbol
  | [] => []
  | [a] => a.symbols
  | a :: b :: rest => a.symbols ++ .comma :: argumentSymbols (b :: rest)

end

/-- The symbols of an expression in a place that takes ranks up to a limit. -/
def Expr.within (limit : Nat) (e : Expr) : List Symbol :=
  enclosed limit e.rank e.symbols

/-- The symbols of a statement. -/
def Stmt.symbols : Stmt → List Symbol
  | bind name value => .name "let" :: .name name :: .assign :: value.symbols
  | assign name value => .name name :: .assign :: value.symbols
  | reject => [.name "reject"]
  | eval value => value.symbols

/-- The symbols of statements with separators between them. -/
def statementSymbols : List Stmt → List Symbol
  | [] => []
  | [s] => s.symbols
  | s :: t :: rest => s.symbols ++ .separator :: statementSymbols (t :: rest)

/-- The symbols of a program. -/
def Program.symbols (p : Program) : List Symbol :=
  statementSymbols p.statements

/-! ### Valid programs -/

mutual

/-- Whether an expression can be written where some names are bound: no literal is a list, all variables are bound or
the line itself, all calls have arguments that the function takes, and all patterns are compiled from their text. -/
def Expr.IsValid (names : List String) : Expr → Prop
  | .literal v => v.symbols ≠ []
  | .var name => name = "line" ∨ name ∈ names
  | .index target position => target.IsValid names ∧ position.IsValid names
  | .neg operand | .not operand => operand.IsValid names
  | .binary _ left right | .and left right | .or left right => left.IsValid names ∧ right.IsValid names
  | .call function arguments => function.arity.accepts arguments.length = true ∧ AreValid names arguments
  | .search input regex => input.IsValid names ∧ Regex.compile? regex.pattern = .ok regex
  | .searchGroup input regex group =>
    input.IsValid names ∧ Regex.compile? regex.pattern = .ok regex ∧ group.IsValid names

/-- Whether this holds of all arguments. -/
def AreValid (names : List String) : List Expr → Prop
  | [] => True
  | a :: rest => a.IsValid names ∧ AreValid names rest

end

/-- Whether a statement can be written where some names are bound. -/
def Stmt.IsValid (names : List String) : Stmt → Prop
  | bind name value | assign name value => name ∉ Parse.reservedNames ∧ value.IsValid names
  | reject => True
  | eval value => value.IsValid names

/-- Whether statements can be written one after the other, each with the names that those before it bind. -/
def StatementsValid (names : List String) : List Stmt → Prop
  | [] => True
  | s :: rest => s.IsValid names ∧ StatementsValid ((Parse.bound? s).toList ++ names) rest

/-- Whether a program can be written. -/
def Program.IsValid (p : Program) : Prop :=
  StatementsValid [] p.statements

/-- Every function takes an argument. -/
theorem Builtin.ne_nil_of_accepts {f : Builtin} {list : List Expr} (h : f.arity.accepts list.length = true) :
    list ≠ [] := by
  rintro rfl
  revert h
  cases f <;> decide

/-! ### Brackets -/

/-- The greatest number of brackets that are open at once, where `depth` of them are open at the start. -/
def deepest (depth : Nat) : List Symbol → Nat
  | [] => depth
  | s :: rest => max depth (deepest (Token.nesting depth s) rest)

theorem le_deepest (depth : Nat) (symbols : List Symbol) : depth ≤ deepest depth symbols := by
  cases symbols with
  | nil => exact Nat.le_refl depth
  | cons s rest => exact Nat.le_max_left _ _

theorem deepest_append (depth : Nat) (a b : List Symbol) :
    deepest depth (a ++ b) = max (deepest depth a) (deepest (a.foldl Token.nesting depth) b) := by
  induction a generalizing depth with
  | nil => simp [deepest, le_deepest]
  | cons s a ih => rw [List.cons_append, deepest, ih, deepest, List.foldl_cons, Nat.max_assoc]

/-- Symbols that close all brackets that they open. -/
def Balanced (symbols : List Symbol) : Prop :=
  ∀ depth, symbols.foldl Token.nesting depth = depth

theorem Balanced.append {a b : List Symbol} (ha : Balanced a) (hb : Balanced b) : Balanced (a ++ b) := by
  intro depth
  rw [List.foldl_append, ha, hb]

theorem Balanced.cons {s : Symbol} (hs : ∀ depth, Token.nesting depth s = depth) {a : List Symbol} (ha : Balanced a) :
    Balanced (s :: a) := by
  intro depth
  rw [List.foldl_cons, hs, ha]

theorem Balanced.nil : Balanced [] :=
  fun _ => rfl

/-- Brackets around balanced symbols. -/
theorem Balanced.bracketed {first last : Symbol} (hf : ∀ depth, Token.nesting depth first = depth + 1)
    (hl : ∀ depth, Token.nesting depth last = depth - 1) {a : List Symbol} (ha : Balanced a) :
    Balanced (first :: a ++ [last]) := by
  intro depth
  rw [List.cons_append, List.foldl_cons, List.foldl_append, hf, ha, List.foldl_cons, hl]
  rfl

theorem balanced_enclosed (limit rank : Nat) {symbols : List Symbol} (h : Balanced symbols) :
    Balanced (enclosed limit rank symbols) := by
  unfold enclosed
  split
  · exact h
  · exact .bracketed (fun _ => rfl) (fun _ => rfl) h

theorem balanced_called (name : String) {arguments : List Symbol} (h : Balanced arguments) :
    Balanced (called name arguments) :=
  .cons (fun _ => rfl) (.bracketed (fun _ => rfl) (fun _ => rfl) h)

theorem balanced_value (v : Value) : Balanced v.symbols := by
  cases v <;> exact fun _ => rfl

mutual

theorem balanced_symbols (e : Expr) : Balanced e.symbols := by
  match e with
  | .literal v => exact balanced_value v
  | .var name => exact fun _ => rfl
  | .index target position =>
    rw [Expr.symbols, List.append_assoc]
    exact .append (balanced_enclosed _ _ (balanced_symbols target))
      (.bracketed (fun _ => rfl) (fun _ => rfl) (balanced_symbols position))
  | .neg operand =>
    rw [Expr.symbols]
    exact .cons (fun _ => rfl) (balanced_enclosed _ _ (balanced_symbols operand))
  | .not operand =>
    rw [Expr.symbols]
    exact .cons (fun _ => rfl) (balanced_enclosed _ _ (balanced_symbols operand))
  | .binary op left right =>
    have hop (depth : Nat) : Token.nesting depth op.symbol = depth := by cases op <;> rfl
    rw [Expr.symbols]
    exact .append (balanced_enclosed _ _ (balanced_symbols left))
      (.cons hop (balanced_enclosed _ _ (balanced_symbols right)))
  | .and left right =>
    rw [Expr.symbols]
    exact .append (balanced_enclosed _ _ (balanced_symbols left))
      (.cons (fun _ => rfl) (balanced_enclosed _ _ (balanced_symbols right)))
  | .or left right =>
    rw [Expr.symbols]
    exact .append (balanced_enclosed _ _ (balanced_symbols left))
      (.cons (fun _ => rfl) (balanced_enclosed _ _ (balanced_symbols right)))
  | .call function arguments =>
    rw [Expr.symbols]
    exact balanced_called _ (balanced_arguments arguments)
  | .search input regex =>
    rw [Expr.symbols]
    exact balanced_called _ (.append (balanced_symbols input) fun _ => rfl)
  | .searchGroup input regex group =>
    rw [Expr.symbols]
    exact balanced_called _ (.append (balanced_symbols input)
      (.cons (fun _ => rfl) (.cons (fun _ => rfl) (.cons (fun _ => rfl) (balanced_symbols group)))))

theorem balanced_arguments (arguments : List Expr) : Balanced (argumentSymbols arguments) := by
  match arguments with
  | [] => exact .nil
  | [a] => exact balanced_symbols a
  | a :: b :: rest =>
    rw [argumentSymbols]
    exact .append (balanced_symbols a) (.cons (fun _ => rfl) (balanced_arguments (b :: rest)))

end

/-! ### The first symbol -/

/-- Whether an expression may start with a symbol. -/
def Starts : Symbol → Prop
  | .int _ | .float _ | .str _ | .openParen | .minus | .bang => True
  | .name name => name ≠ "let" ∧ name ≠ "reject"
  | _ => False

/-- Whether symbols start as an expression may. -/
def Begins (symbols : List Symbol) : Prop :=
  ∃ s rest, symbols = s :: rest ∧ Starts s

theorem Begins.append {a : List Symbol} (h : Begins a) (b : List Symbol) : Begins (a ++ b) := by
  obtain ⟨s, rest, rfl, hs⟩ := h
  exact ⟨s, rest ++ b, rfl, hs⟩

theorem Begins.length_pos {a : List Symbol} (h : Begins a) : 0 < a.length := by
  obtain ⟨s, rest, rfl, -⟩ := h
  exact Nat.succ_pos _

theorem begins_enclosed (limit rank : Nat) {symbols : List Symbol} (h : Begins symbols) :
    Begins (enclosed limit rank symbols) := by
  unfold enclosed
  split
  · exact h
  · exact ⟨.openParen, _, rfl, trivial⟩

theorem begins_called {name : String} (h : name ≠ "let" ∧ name ≠ "reject") (arguments : List Symbol) :
    Begins (called name arguments) :=
  ⟨.name name, _, rfl, h⟩

theorem begins_value {v : Value} (h : v.symbols ≠ []) : Begins v.symbols := by
  cases v with
  | null => exact ⟨_, _, rfl, by decide, by decide⟩
  | bool b => cases b <;> exact ⟨_, _, rfl, by decide, by decide⟩
  | int n => exact ⟨_, _, rfl, trivial⟩
  | float x => exact ⟨_, _, rfl, trivial⟩
  | str s => exact ⟨_, _, rfl, trivial⟩
  | list items => exact absurd rfl h

theorem ne_of_not_reserved {name : String} (h : name ∉ Parse.reservedNames) : name ≠ "let" ∧ name ≠ "reject" := by
  simp only [Parse.reservedNames, List.mem_cons, not_or] at h
  exact ⟨h.1, h.2.1⟩

theorem name_not_reserved (f : Builtin) : f.name ∉ Parse.reservedNames := by
  cases f <;> decide

theorem begins_symbols {names : List String} (hn : ∀ name ∈ names, name ∉ Parse.reservedNames) (e : Expr)
    (he : e.IsValid names) : Begins e.symbols := by
  match e with
  | .literal v => exact begins_value he
  | .var name =>
    refine ⟨.name name, [], rfl, ?_⟩
    rcases he with rfl | hmem
    · exact ⟨by decide, by decide⟩
    · exact ne_of_not_reserved (hn name hmem)
  | .index target position =>
    rw [Expr.symbols, List.append_assoc]
    exact (begins_enclosed _ _ (begins_symbols hn target he.1)).append _
  | .neg operand => exact ⟨.minus, _, rfl, trivial⟩
  | .not operand => exact ⟨.bang, _, rfl, trivial⟩
  | .binary op left right => exact (begins_enclosed _ _ (begins_symbols hn left he.1)).append _
  | .and left right => exact (begins_enclosed _ _ (begins_symbols hn left he.1)).append _
  | .or left right => exact (begins_enclosed _ _ (begins_symbols hn left he.1)).append _
  | .call function arguments => exact begins_called (ne_of_not_reserved (name_not_reserved function)) _
  | .search input regex => exact begins_called ⟨by decide, by decide⟩ _
  | .searchGroup input regex group => exact begins_called ⟨by decide, by decide⟩ _

theorem begins_argumentSymbols {names : List String} (hn : ∀ name ∈ names, name ∉ Parse.reservedNames)
    {arguments : List Expr} (hne : arguments ≠ []) (h : AreValid names arguments) :
    Begins (argumentSymbols arguments) := by
  match arguments with
  | [] => exact absurd rfl hne
  | [a] => exact begins_symbols hn a h.1
  | a :: b :: rest => exact (begins_symbols hn a h.1).append _

/-! ### The sign of assignments -/

theorem mem_enclosed {limit rank : Nat} {symbols : List Symbol} {s : Symbol} (h : s ∈ enclosed limit rank symbols) :
    s ∈ symbols ∨ s = .openParen ∨ s = .closeParen := by
  unfold enclosed at h
  split at h
  · exact .inl h
  · simp only [List.cons_append, List.mem_cons, List.mem_append, List.not_mem_nil, or_false] at h
    rcases h with h | h | h
    · exact .inr (.inl h)
    · exact .inl h
    · exact .inr (.inr h)

theorem assign_not_mem_enclosed (limit rank : Nat) {symbols : List Symbol} (h : .assign ∉ symbols) :
    .assign ∉ enclosed limit rank symbols := by
  intro hm
  rcases mem_enclosed hm with hm | hm | hm
  · exact h hm
  · cases hm
  · cases hm

mutual

/-- An expression has no sign of an assignment in it. -/
theorem assign_not_mem_symbols (e : Expr) : .assign ∉ e.symbols := by
  match e with
  | .literal v => cases v <;> simp [Expr.symbols, Value.symbols]
  | .var name => simp [Expr.symbols]
  | .index target position =>
    simp [Expr.symbols, assign_not_mem_enclosed _ _ (assign_not_mem_symbols target), assign_not_mem_symbols position]
  | .neg operand => simp [Expr.symbols, assign_not_mem_enclosed _ _ (assign_not_mem_symbols operand)]
  | .not operand => simp [Expr.symbols, assign_not_mem_enclosed _ _ (assign_not_mem_symbols operand)]
  | .binary op left right =>
    have hop : .assign ≠ op.symbol := by cases op <;> exact Symbol.noConfusion
    simp [Expr.symbols, assign_not_mem_enclosed _ _ (assign_not_mem_symbols left),
      assign_not_mem_enclosed _ _ (assign_not_mem_symbols right), hop]
  | .and left right =>
    simp [Expr.symbols, assign_not_mem_enclosed _ _ (assign_not_mem_symbols left),
      assign_not_mem_enclosed _ _ (assign_not_mem_symbols right)]
  | .or left right =>
    simp [Expr.symbols, assign_not_mem_enclosed _ _ (assign_not_mem_symbols left),
      assign_not_mem_enclosed _ _ (assign_not_mem_symbols right)]
  | .call function arguments => simp [Expr.symbols, called, assign_not_mem_arguments arguments]
  | .search input regex => simp [Expr.symbols, called, assign_not_mem_symbols input]
  | .searchGroup input regex group =>
    simp [Expr.symbols, called, assign_not_mem_symbols input, assign_not_mem_symbols group]

theorem assign_not_mem_arguments (arguments : List Expr) : .assign ∉ argumentSymbols arguments := by
  match arguments with
  | [] => exact List.not_mem_nil
  | [a] => exact assign_not_mem_symbols a
  | a :: b :: rest => simp [argumentSymbols, assign_not_mem_symbols a, assign_not_mem_arguments (b :: rest)]

end

end SampleRecorder.Script
