import SampleRecorder.Script.Expr

/-!
# Operators on values

Integers are computed exactly: a result that 64 bits cannot hold becomes a floating-point number, and so does a
quotient with a remainder.  `add`, `sub`, `mul`, `div` and `rem` on other numbers are those of `Float`.
-/

namespace SampleRecorder.Script

/-- A computation that may end the run. -/
inductive Halt where
  | reject
  | failed (failure : Failure)
  deriving DecidableEq, Repr

/-- The result of a computation. -/
abbrev Result (α : Type) := Except Halt α

/-- Ends the run with a failure. -/
def failWith {α : Type} (f : Failure) : Except Halt α :=
  .error (.failed f)

/-- The 64-bit integer with the given value, when there is one. -/
def int64? (n : Int) : Option Int64 :=
  if Int64.minValue.toInt ≤ n && n ≤ Int64.maxValue.toInt then some (Int64.ofInt n) else none

/-- A computed text, if it is not too long. -/
def limited (s : String) : Except Halt Value :=
  if textLimit < s.utf8ByteSize then failWith (.textTooLong s.utf8ByteSize) else .ok (.str s)

/-- The number nearest to an integer. -/
def toFloat (n : Int64) : Float :=
  Float.ofInt n.toInt

namespace BinaryOp

/-- Whether an order between two values fulfils a comparison. -/
def holds (op : BinaryOp) (o : Ordering) : Bool :=
  match op with
  | lt => o == .lt
  | le => o != .gt
  | gt => o == .gt
  | _ => o != .lt

/-- The order of two numbers, unless one is NaN. -/
def compareFloat? (a b : Float) : Option Ordering :=
  if a < b then some .lt else if b < a then some .gt else if a == b then some .eq else none

/-- The order of two texts, character by character. -/
def compareText (a b : String) : Ordering :=
  if a < b then .lt else if b < a then .gt else .eq

/-- A comparison: texts with texts, numbers with numbers. -/
def compare (op : BinaryOp) (l r : Value) : Except Halt Value :=
  match l, r with
  | .str a, .str b => .ok (.bool (op.holds (compareText a b)))
  | _, _ =>
    match l.number?, r.number? with
    | some a, some b =>
      match compareFloat? a b with
      | some o => .ok (.bool (op.holds o))
      | none => failWith .compareNaN
    | _, _ => failWith (.notComparable l.kind r.kind)

/-- The sum of numbers, the concatenation of lists, or of texts when one of the values is a text. -/
def sum (l r : Value) : Except Halt Value :=
  match l, r with
  | .int a, .int b =>
    match int64? (a.toInt + b.toInt) with
    | some n => .ok (.int n)
    | none => .ok (.float (toFloat a + toFloat b))
  | .list a, .list b => .ok (.list (a ++ b))
  | .str a, b => limited (a ++ b.display)
  | a, .str b => limited (a.display ++ b)
  | a, b =>
    match a.number?, b.number? with
    | some x, some y => .ok (.float (x + y))
    | _, _ => failWith (.notAddable a.kind b.kind)

/-- The exact result of an operation on integers, when it is one; dividing by zero is an error of its own. -/
def onInts (op : BinaryOp) (a b : Int64) : Except Halt (Option Value) :=
  match op with
  | sub => .ok ((int64? (a.toInt - b.toInt)).map .int)
  | mul => .ok ((int64? (a.toInt * b.toInt)).map .int)
  | div =>
    if b = 0 then failWith .divisionByZero
    else
      match if a.toInt.tmod b.toInt = 0 then int64? (a.toInt.tdiv b.toInt) else none with
      | some n => .ok (some (.int n))
      | none => .ok (some (.float (toFloat a / toFloat b)))
  | _ => if b = 0 then failWith .divisionByZero else .ok ((int64? (a.toInt.tmod b.toInt)).map .int)

/-- The operation on floating-point numbers. -/
def onFloats (op : BinaryOp) (a b : Float) : Float :=
  match op with
  | sub => a - b
  | mul => a * b
  | div => a / b
  | _ => Number.remainder a b

/-- Difference, product, quotient or remainder of numbers. -/
def arith (op : BinaryOp) (l r : Value) : Except Halt Value := do
  let exact ←
    match l, r with
    | .int a, .int b => op.onInts a b
    | _, _ => .ok none
  match exact with
  | some v => .ok v
  | none =>
    match l.number?, r.number? with
    | some a, some b =>
      if (op = div || op = rem) && b == 0.0 then failWith .divisionByZero else .ok (.float (op.onFloats a b))
    | _, _ => failWith (.notArithmetic l.kind r.kind)

/-- The value of an operation. -/
def apply (op : BinaryOp) (l r : Value) : Except Halt Value :=
  match op with
  | eq => .ok (.bool (l.equals r))
  | ne => .ok (.bool (!l.equals r))
  | lt | le | gt | ge => op.compare l r
  | add => sum l r
  | sub | mul | div | rem => op.arith l r

end BinaryOp

/-- The negative of a number; null stays null. -/
def negate (v : Value) : Except Halt Value :=
  match v with
  | .int n =>
    match int64? (-n.toInt) with
    | some m => .ok (.int m)
    | none => failWith .overflow
  | .float x => .ok (.float (-x))
  | .null => .ok .null
  | v => failWith (.notNegatable v.kind)

end SampleRecorder.Script
