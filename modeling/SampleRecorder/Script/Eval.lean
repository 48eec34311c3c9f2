import SampleRecorder.Script.Function
import SampleRecorder.Script.Parse

/-!
# Running line programs

A program runs once per line.  Its assignments give the fields of the line, `reject` and a failing `require` drop the
line, and an error ends the run without any field.
-/

namespace SampleRecorder.Script

/-- What expressions are evaluated in: the line and the values bound so far, latest first. -/
structure Env where
  line : String
  vars : List (String × Value)

namespace Env

/-- The value of a name; a name that has not been bound is null. -/
def value (env : Env) (name : String) : Value :=
  if name = "line" then .str env.line else (env.vars.lookup name).getD .null

/-- Binds a name, hiding what it was bound to before. -/
def bind (env : Env) (name : String) (v : Value) : Env :=
  { env with vars := (name, v) :: env.vars }

end Env

/-- The group of the first match of a pattern; null when there is no match or the group took no part. -/
def searchFor (regex : Regex) (text : String) (group : Nat) : Value :=
  match (regex.captures? text).bind (·[group]?) with
  | some (some s) => .str s
  | _ => .null

/-- The text that a search looks through, or nothing when the input is null. -/
def searchInput (input : Value) : Except Halt (Option String) :=
  match input with
  | .null => .ok none
  | .str s => .ok (some s)
  | v => failWith (.wantsString "match" v.kind)

mutual

/-- The value of an expression. -/
def Expr.eval (env : Env) : Expr → Except Halt Value
  | .literal v => .ok v
  | .var name => .ok (env.value name)
  | .index target position => do
    let target ← target.eval env
    let position ← position.eval env
    let i ← wantInteger "index" position
    itemAt target i.toInt
  | .neg operand => do
    let v ← operand.eval env
    negate v
  | .not operand => do
    let v ← operand.eval env
    .ok (.bool (!v.truthy))
  | .binary op left right => do
    let l ← left.eval env
    let r ← right.eval env
    op.apply l r
  | .and left right => do
    let l ← left.eval env
    if l.truthy then
      let r ← right.eval env
      .ok (.bool r.truthy)
    else .ok (.bool false)
  | .or left right => do
    let l ← left.eval env
    if l.truthy then .ok (.bool true)
    else
      let r ← right.eval env
      .ok (.bool r.truthy)
  | .call .cond arguments => evalCond env arguments
  | .call .coalesce arguments => evalFirst env arguments
  | .call f arguments => do
    let values ← evalAll env arguments
    f.apply values
  | .search input regex => do
    let input ← input.eval env
    match ← searchInput input with
    | none => .ok .null
    | some text => .ok (searchFor regex text (if 1 < regex.groupCount then 1 else 0))
  | .searchGroup input regex group => do
    let input ← input.eval env
    match ← searchInput input with
    | none => .ok .null
    | some text => do
      let group ← group.eval env
      let n ← wantInteger "match" group
      .ok (searchFor regex text n.toInt.toNat)

/-- The values of arguments, from left to right. -/
def evalAll (env : Env) : List Expr → Except Halt (List Value)
  | [] => .ok []
  | e :: rest => do
    let v ← e.eval env
    let vs ← evalAll env rest
    .ok (v :: vs)

/-- The first value that is not null; what follows it is not evaluated. -/
def evalFirst (env : Env) : List Expr → Except Halt Value
  | [] => .ok .null
  | e :: rest => do
    let v ← e.eval env
    if v.isNull then evalFirst env rest else .ok v

/-- The second or the third of three expressions, as the first one decides; the other is not evaluated. -/
def evalCond (env : Env) : List Expr → Except Halt Value
  | [condition, yes, no] => do
    let v ← condition.eval env
    if v.truthy then yes.eval env else no.eval env
  | _ => failWith .missingArgument

end

/-- Most functions are called with the values of all their arguments. -/
theorem Expr.eval_call {f : Builtin} (hc : f ≠ .cond) (hf : f ≠ .coalesce) (env : Env) (arguments : List Expr) :
    (Expr.call f arguments).eval env = (do let values ← evalAll env arguments; f.apply values) := by
  rw [Expr.eval]
  · exact hc
  · exact hf

/-- What a run has produced so far. -/
structure State where
  env : Env
  fields : Fields

/-- Stores the value of a field; null takes the field away. -/
def store (fields : Fields) (name : String) (v : Value) : Fields :=
  match v.toField? with
  | some field => fields.insert name field
  | none => fields.erase name

/-- Runs one statement. -/
def Stmt.run (s : State) : Stmt → Except Halt State
  | .bind name value => do
    let v ← value.eval s.env
    .ok { s with env := s.env.bind name v }
  | .assign name value => do
    let v ← value.eval s.env
    .ok ⟨s.env.bind name v, store s.fields name v⟩
  | .reject => .error .reject
  | .eval value => do
    let _ ← value.eval s.env
    .ok s

/-- Runs statements in order. -/
def runAll (s : State) : List Stmt → Except Halt State
  | [] => .ok s
  | stmt :: rest => do
    let s ← stmt.run s
    runAll s rest

/-- What a program makes of a line. -/
inductive Outcome where
  | fields (fields : Fields)
  | rejected
  | failed (failure : Failure)

/-- Runs a program on a line. -/
def Program.evaluate (p : Program) (line : String) : Outcome :=
  match runAll ⟨⟨line, []⟩, Dict.empty⟩ p.statements with
  | .ok s => .fields s.fields
  | .error .reject => .rejected
  | .error (.failed f) => .failed f

end SampleRecorder.Script
