import SampleRecorder.Script.Expr
import SampleRecorder.Script.Token

/-!
# From tokens to programs

Expressions have six levels of operators, all of which bind to the left, between prefix operators and the operator
`||`.  A name may be used once a statement before has bound it.  The functions that call each other share a fuel
that is larger than any chain of calls on the given tokens.
-/

namespace SampleRecorder.Script

namespace Parse

/-- What is known while an expression is read: where the text ends, and the names bound so far. -/
structure Scope where
  stop : Position
  defined : List String

namespace Scope

/-- The place of the next token. -/
def here (sc : Scope) (ts : List Token) : Position :=
  match ts with
  | t :: _ => t.position
  | [] => sc.stop

/-- A refusal at the next token. -/
def refuse {α : Type} (sc : Scope) (ts : List Token) (reason : Reason) : Except SyntaxFault α :=
  .error ⟨sc.here ts, reason⟩

end Scope

/-- The names that cannot be bound. -/
def reservedNames : List String :=
  ["let", "reject", "line", "true", "false", "null"]

/-- Whether a token is the one that is expected. -/
def accepts (e : Expected) (s : Symbol) : Bool :=
  match e, s with
  | .assign, .assign | .openParen, .openParen | .closeParen, .closeParen | .closeBracket, .closeBracket => true
  | _, _ => false

/-- Takes one token that must be there. -/
def expect (sc : Scope) (what : Expected) (ts : List Token) : Except SyntaxFault (List Token) :=
  match ts with
  | t :: rest => if accepts what t.symbol then .ok rest else sc.refuse ts (.expected what)
  | [] => sc.refuse ts (.expected what)

/-- The operators of one level, by how they join two expressions; level 0 binds tightest. -/
def joiner? (level : Nat) (s : Symbol) : Option (Expr → Expr → Expr) :=
  match level, s with
  | 0, .star => some (.binary .mul)
  | 0, .slash => some (.binary .div)
  | 0, .percent => some (.binary .rem)
  | 1, .plus => some (.binary .add)
  | 1, .minus => some (.binary .sub)
  | 2, .lt => some (.binary .lt)
  | 2, .le => some (.binary .le)
  | 2, .gt => some (.binary .gt)
  | 2, .ge => some (.binary .ge)
  | 3, .eq => some (.binary .eq)
  | 3, .ne => some (.binary .ne)
  | 4, .and => some .and
  | 5, .or => some .or
  | _, _ => none

/-- The number of operator levels. -/
def levelCount : Nat := 6

/-- A text search from its arguments: an input, a pattern written as a string, and perhaps a group. -/
def searchOf (place : Position) (arguments : List Expr) : Except SyntaxFault Expr :=
  let compiled (pattern : String) : Except SyntaxFault Regex :=
    match Regex.compile? pattern with
    | .ok regex => .ok regex
    | .error fault => .error ⟨place, .badPattern pattern fault⟩
  match arguments with
  | [input, .literal (.str pattern)] => (compiled pattern).map (.search input)
  | [input, .literal (.str pattern), group] => (compiled pattern).map (.searchGroup input · group)
  | [_, _] | [_, _, _] => .error ⟨place, .patternNotLiteral⟩
  | _ => .error ⟨place, .argumentCount "match" ⟨2, some 3⟩ arguments.length⟩

/-- A call from the name of the function and its arguments. -/
def callOf (name : String) (place : Position) (arguments : List Expr) : Except SyntaxFault Expr :=
  if name = "match" then searchOf place arguments
  else
    match Builtin.ofName? name with
    | none => .error ⟨place, .unknownFunction name⟩
    | some f =>
      if f.arity.accepts arguments.length then .ok (.call f arguments)
      else .error ⟨place, .argumentCount name f.arity arguments.length⟩

/-- What a name stands for where no arguments follow it. -/
def nameOf (sc : Scope) (name : String) (place : Position) : Except SyntaxFault Expr :=
  if name = "line" || sc.defined.contains name then .ok (.var name)
  else .error ⟨place, .undefinedName name⟩

mutual

/-- Reads an expression inside `depth` others. -/
def expr (sc : Scope) : Nat → Nat → List Token → Except SyntaxFault (Expr × List Token)
  | 0, _, ts => sc.refuse ts .tooDeep
  | fuel + 1, depth, ts =>
    if depthLimit ≤ depth then sc.refuse ts .tooDeep else level sc fuel (depth + 1) levelCount ts

/-- Reads operands joined by the operators of the levels below `n`. -/
def level (sc : Scope) : Nat → Nat → Nat → List Token → Except SyntaxFault (Expr × List Token)
  | 0, _, _, ts => sc.refuse ts .tooDeep
  | fuel + 1, depth, 0, ts => unary sc fuel depth ts
  | fuel + 1, depth, n + 1, ts => do
    let (left, rest) ← level sc fuel depth n ts
    joined sc fuel depth n left rest

/-- Goes on after `left` with the operators of level `n`. -/
def joined (sc : Scope) : Nat → Nat → Nat → Expr → List Token → Except SyntaxFault (Expr × List Token)
  | 0, _, _, _, ts => sc.refuse ts .tooDeep
  | _ + 1, _, _, left, [] => .ok (left, [])
  | fuel + 1, depth, n, left, t :: rest =>
    match joiner? n t.symbol with
    | none => .ok (left, t :: rest)
    | some join => do
      let (right, rest) ← level sc fuel depth n rest
      joined sc fuel depth n (join left right) rest

/-- Reads an operand with the signs in front of it. -/
def unary (sc : Scope) : Nat → Nat → List Token → Except SyntaxFault (Expr × List Token)
  | 0, _, ts => sc.refuse ts .tooDeep
  | fuel + 1, depth, ts =>
    match ts with
    | ⟨.minus, _⟩ :: rest => do
      let (operand, rest) ← unary sc fuel depth rest
      .ok (.neg operand, rest)
    | ⟨.bang, _⟩ :: rest => do
      let (operand, rest) ← unary sc fuel depth rest
      .ok (.not operand, rest)
    | ts => do
      let (target, rest) ← primary sc fuel depth ts
      indexed sc fuel depth target rest

/-- Goes on after `target` with indices in brackets. -/
def indexed (sc : Scope) : Nat → Nat → Expr → List Token → Except SyntaxFault (Expr × List Token)
  | 0, _, _, ts => sc.refuse ts .tooDeep
  | fuel + 1, depth, target, ts =>
    match ts with
    | ⟨.openBracket, _⟩ :: rest => do
      let (position, rest) ← expr sc fuel depth rest
      let rest ← expect sc .closeBracket rest
      indexed sc fuel depth (.index target position) rest
    | ts => .ok (target, ts)

/-- Reads a literal, a name, a call or an expression in parentheses. -/
def primary (sc : Scope) : Nat → Nat → List Token → Except SyntaxFault (Expr × List Token)
  | 0, _, ts => sc.refuse ts .tooDeep
  | _, _, [] => .error ⟨sc.stop, .expectedValue⟩
  | fuel + 1, depth, ⟨symbol, place⟩ :: rest =>
    match symbol with
    | .int n => .ok (.literal (.int n), rest)
    | .float x => .ok (.literal (.float x), rest)
    | .str s => .ok (.literal (.str s), rest)
    | .openParen => do
      let (inner, rest) ← expr sc fuel depth rest
      let rest ← expect sc .closeParen rest
      .ok (inner, rest)
    | .name "true" => .ok (.literal (.bool true), rest)
    | .name "false" => .ok (.literal (.bool false), rest)
    | .name "null" => .ok (.literal .null, rest)
    | .name name =>
      match rest with
      | ⟨.openParen, _⟩ :: ⟨.closeParen, _⟩ :: rest => do
        let call ← callOf name place []
        .ok (call, rest)
      | ⟨.openParen, _⟩ :: rest => do
        let (list, rest) ← arguments sc fuel depth rest
        let rest ← expect sc .closeParen rest
        let call ← callOf name place list
        .ok (call, rest)
      | rest => do
        let value ← nameOf sc name place
        .ok (value, rest)
    | _ => .error ⟨place, .expectedValue⟩

/-- Reads arguments with commas between them. -/
def arguments (sc : Scope) : Nat → Nat → List Token → Except SyntaxFault (List Expr × List Token)
  | 0, _, ts => sc.refuse ts .tooDeep
  | fuel + 1, depth, ts => do
    let (first, rest) ← expr sc fuel depth ts
    match rest with
    | ⟨.comma, _⟩ :: rest => do
      let (others, rest) ← arguments sc fuel depth rest
      .ok (first :: others, rest)
    | rest => .ok ([first], rest)

end

/-- Reads an expression that is not part of another. -/
def topExpr (sc : Scope) (ts : List Token) : Except SyntaxFault (Expr × List Token) :=
  expr sc (16 * (ts.length + 1)) 0 ts

/-- Reads a name that a statement binds. -/
def bindingName (sc : Scope) (ts : List Token) : Except SyntaxFault (String × List Token) :=
  match ts with
  | ⟨.name name, _⟩ :: rest =>
    if reservedNames.contains name then sc.refuse rest (.reservedName name) else .ok (name, rest)
  | ts => sc.refuse ts.tail .expectedName

/-- Reads one statement. -/
def statement (sc : Scope) (ts : List Token) : Except SyntaxFault (Stmt × List Token) :=
  match ts with
  | ⟨.name "let", _⟩ :: rest => do
    let (name, rest) ← bindingName sc rest
    let rest ← expect sc .assign rest
    let (value, rest) ← topExpr sc rest
    .ok (.bind name value, rest)
  | ⟨.name "reject", _⟩ :: rest => .ok (.reject, rest)
  | ⟨.name _, _⟩ :: ⟨.assign, _⟩ :: _ => do
    let (name, rest) ← bindingName sc ts
    let (value, rest) ← topExpr sc rest.tail
    .ok (.assign name value, rest)
  | ts => do
    let (value, rest) ← topExpr sc ts
    .ok (.eval value, rest)

/-- The name that a statement binds. -/
def bound? : Stmt → Option String
  | .bind name _ | .assign name _ => some name
  | .reject | .eval _ => none

/-- Reads statements with separators between them; each takes at least one of the `fuel` tokens. -/
def statements : Nat → Scope → List Token → Except SyntaxFault (List Stmt)
  | 0, _, _ => .ok []
  | _, _, [] => .ok []
  | fuel + 1, sc, t :: rest =>
    match t.symbol with
    | .separator => statements fuel sc rest
    | _ => do
      let (s, rest) ← statement sc (t :: rest)
      let sc := { sc with defined := (bound? s).toList ++ sc.defined }
      match rest with
      | [] => .ok [s]
      | ⟨.separator, _⟩ :: rest => (statements fuel sc rest).map (s :: ·)
      | rest => sc.refuse rest .expectedEnd

end Parse

/-- The program that tokens spell. -/
def Program.ofTokens (ts : Tokens) : Except SyntaxFault Program :=
  (Parse.statements (ts.tokens.length + 1) ⟨ts.stop, []⟩ ts.tokens).map Program.mk

/-- Why a program text is not compiled. -/
inductive CompileFault where
  | tooLong (bytes : Nat)
  | malformed (fault : SyntaxFault)
  deriving DecidableEq, Repr

/-- Compiles a program text. -/
def Program.compile (source : String) : Except CompileFault Program :=
  if sourceLimit < source.utf8ByteSize then .error (.tooLong source.utf8ByteSize)
  else ((Token.scan source).bind Program.ofTokens).mapError .malformed

end SampleRecorder.Script
