import SampleRecorder.Script.Arith
import SampleRecorder.Text.Casing
import SampleRecorder.Text.Search

/-!
# The functions of line programs

What each function computes from its arguments, once they have been evaluated.  A null as first argument passes
through all functions but those that are meant for it, so that a missing column gives a missing field.
-/

namespace SampleRecorder.Script

/-- A value that must be a text. -/
def wantString (function : String) (v : Value) : Except Halt String :=
  match v with
  | .str s => .ok s
  | v => failWith (.wantsString function v.kind)

/-- A value that must be a number without fraction. -/
def wantInteger (function : String) (v : Value) : Except Halt Int64 :=
  match v with
  | .int n => .ok n
  | .float x => if (Number.toInt? x).isSome then .ok (Number.truncate x) else failWith (.wantsInteger function .float)
  | v => failWith (.wantsInteger function v.kind)

/-- A value that must be a number. -/
def wantNumber (function : String) (v : Value) : Except Halt Float :=
  match v.number? with
  | some x => .ok x
  | none => failWith (.wantsNumber function v.kind)

/-- The place in a row of `length` items that an index means, counted from the end when it is negative. -/
def place? (index : Int) (length : Nat) : Option Nat :=
  let i := if index < 0 then length + index else index
  if 0 ≤ i && i < length then some i.toNat else none

/-- One item of a list or one character of a text; beyond the ends it is null. -/
def itemAt (target : Value) (index : Int) : Except Halt Value :=
  match target with
  | .list items => .ok ((place? index items.length).bind (items[·]?) |>.getD .null)
  | .str s =>
    let cs := s.toList
    .ok ((place? index cs.length).bind (cs[·]?) |>.map (fun c => .str (String.ofList [c])) |>.getD .null)
  | .null => .ok .null
  | v => failWith (.notIndexable v.kind)

namespace Builtin

/-- The pieces of a text between separators; an empty separator gives single characters. -/
def pieces (s separator : String) : List Value :=
  if separator = "" then s.toList.map fun c => .str (String.ofList [c])
  else (Text.split separator.toList s.toList).map fun p => .str (String.ofList p)

/-- The part of a text from `start` on, counted from the end when it is negative, with at most `count` characters. -/
def part (s : List Char) (start : Int) (count : Option Int) : List Char :=
  let first := if start < 0 then (s.length + start).toNat else Nat.min start.toNat s.length
  let rest := s.drop first
  match count with
  | some n => rest.take n.toNat
  | none => rest

/-- A text with every occurrence of `old` replaced; the length is checked before the work is done. -/
def replaced (s old new : String) : Except Halt Value :=
  if old = "" then .ok (.str s)
  else
    let grown := s.utf8ByteSize + Text.count old.toList s.toList * new.utf8ByteSize
    if textLimit < grown then failWith (.replacementTooLong grown)
    else limited (String.ofList (Text.replace old.toList new.toList s.toList))

/-- The number that a value stands for. -/
def toNumber (v : Value) : Value :=
  match v with
  | .int n => .int n
  | .float x => Value.ofFloat x
  | .bool b => .int (if b then 1 else 0)
  | .str s => ((Number.finite? s.toList).map Value.ofFloat).getD .null
  | _ => .null

/-- The number that a value stands for without its fraction. -/
def toInteger (v : Value) : Value :=
  match v with
  | .int n => .int n
  | .float x => if x.isFinite then .int (Number.truncate x) else .null
  | .bool b => .int (if b then 1 else 0)
  | .str s => ((Number.finite? s.toList).map fun x => Value.int (Number.truncate x)).getD .null
  | _ => .null

/-- The truth value that a value stands for; the text `false` does not count as true. -/
def toBool (v : Value) : Bool :=
  match v with
  | .str s => if FieldValue.sameAscii s "false" then false else v.truthy
  | v => v.truthy

/-- A number rounded to some decimal places, halves away from zero. -/
def rounded (x : Float) (digits : Int) : Value :=
  let factor := Float.ofNat (Nat.pow 10 (Nat.min digits.toNat 15))
  Value.ofFloat (Number.roundHalfAway (x * factor) / factor)

/-- The least or the greatest of some values, nulls apart; of equal ones the first. -/
def extreme (function : String) (better : Float → Float → Bool) (best : Option Value) :
    List Value → Except Halt Value
  | [] => .ok (best.getD .null)
  | v :: rest =>
    if v.isNull then extreme function better best rest
    else do
      let x ← wantNumber function v
      let wins :=
        match best with
        | none => true
        | some b => better x (b.number?.getD x)
      extreme function better (if wins then some v else best) rest

/-- Whether a null as first argument is the result. -/
def passesNull (f : Builtin) : Bool :=
  match f with
  | str | bool | require | min | max => false
  | _ => true

/-- The items that `min` and `max` choose from: those of a list when it is the only argument. -/
def candidates (values : List Value) : List Value :=
  match values with
  | [.list items] => items
  | values => values

/-- The result of a function on arguments that are not null at the front, unless the function is meant for that. -/
def compute (f : Builtin) (values : List Value) : Except Halt Value :=
  match f, values with
  | split, [s, separator] => do
    let s ← wantString "split" s
    let separator ← wantString "split" separator
    .ok (.list (pieces s separator))
  | join, [list, separator] =>
    match list with
    | .list items => do
      let separator ← wantString "join" separator
      limited (separator.intercalate (items.map Value.display))
    | v => failWith (.wantsList "join" v.kind)
  | trim, [v] => do
    let s ← wantString "trim" v
    .ok (.str (String.ofList (Text.trim s.toList)))
  | upper, [v] => do
    let s ← wantString "upper" v
    .ok (.str (String.ofList (Text.toUpper s.toList)))
  | lower, [v] => do
    let s ← wantString "lower" v
    .ok (.str (String.ofList (Text.toLower s.toList)))
  | len, [v] =>
    match v with
    | .str s => .ok (.int (Int64.ofNat s.length))
    | .list items => .ok (.int (Int64.ofNat items.length))
    | v => failWith (.noLength v.kind)
  | substr, s :: start :: count => do
    let s ← wantString "substr" s
    let start ← wantInteger "substr" start
    match count with
    | [] => .ok (.str (String.ofList (part s.toList start.toInt none)))
    | count :: _ =>
      let count ← wantInteger "substr" count
      .ok (.str (String.ofList (part s.toList start.toInt (some count.toInt))))
  | replace, [s, old, new] => do
    let s ← wantString "replace" s
    let old ← wantString "replace" old
    let new ← wantString "replace" new
    replaced s old new
  | contains, [v, item] =>
    match v with
    | .list items => .ok (.bool (items.any (·.same item)))
    | v => do
      let s ← wantString "contains" v
      let p ← wantString "contains" item
      .ok (.bool (Text.contains p.toList s.toList))
  | startsWith, [s, p] => do
    let s ← wantString "starts_with" s
    let p ← wantString "starts_with" p
    .ok (.bool (Text.startsWith p.toList s.toList))
  | endsWith, [s, p] => do
    let s ← wantString "ends_with" s
    let p ← wantString "ends_with" p
    .ok (.bool (Text.endsWith p.toList s.toList))
  | num, [v] => .ok (toNumber v)
  | int, [v] => .ok (toInteger v)
  | str, [v] => if v.isNull then .ok (.str "") else limited v.display
  | bool, [v] => .ok (.bool (toBool v))
  | round, v :: digits => do
    let x ← wantNumber "round" v
    match digits with
    | [] => .ok (rounded x 0)
    | digits :: _ =>
      let digits ← wantInteger "round" digits
      .ok (rounded x digits.toInt)
  | abs, [v] =>
    match v with
    | .int n =>
      match int64? n.toInt.natAbs with
      | some m => .ok (.int m)
      | none => failWith .overflow
    | v => do
      let x ← wantNumber "abs" v
      .ok (.float x.abs)
  | min, values => extreme "min" (fun a b => a < b) none (candidates values)
  | max, values => extreme "max" (fun a b => b < a) none (candidates values)
  | require, [v] => if v.truthy then .ok .null else .error .reject
  | _, _ => failWith .missingArgument

/-- The result of a function on its arguments. -/
def apply (f : Builtin) (values : List Value) : Except Halt Value :=
  if f.passesNull && values.head?.any Value.isNull then .ok .null else f.compute values

end Builtin

end SampleRecorder.Script
