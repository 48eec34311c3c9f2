import SampleRecorder.Dict
import SampleRecorder.Json.Basic
import SampleRecorder.Number.Numeral

/-!
# Field values

The typed values that lines are read into.  `FieldValue.coerce` gives a piece of text the narrowest type that spells
it: an integer, another finite number, a truth value, or text.
-/

namespace SampleRecorder

/-- The value of one field of a line. -/
inductive FieldValue where
  | bool (b : Bool)
  | int (n : Int64)
  | float (x : Float)
  | text (s : String)
  deriving Inhabited

/-- The named values of one line. -/
abbrev Fields := Dict FieldValue

/-- The texts of the truth values. -/
def boolText (b : Bool) : String :=
  if b then "true" else "false"

namespace FieldValue

/-- The value as plain text. -/
def display : FieldValue → String
  | bool b => boolText b
  | int n => String.ofList (Number.ofInt n.toInt)
  | float x => String.ofList (Number.plain x)
  | text s => s

/-- The value as a number; text counts when it spells a finite one. -/
def number? : FieldValue → Option Float
  | bool _ => none
  | int n => some (Float.ofInt n.toInt)
  | float x => some x
  | text s => Number.finite? s.toList

/-- The value as a truth value. -/
def bool? : FieldValue → Option Bool
  | bool b => some b
  | _ => none

/-- The value in a JSON document. -/
def toJson : FieldValue → Json
  | bool b => .bool b
  | int n => .int n.toInt
  | float x => .float x
  | text s => .str s

/-- Integers up to this size are exact as floating-point numbers. -/
def exactLimit : Int := 9007199254740992

/-- The integer that a number is, when it has no fraction and is small enough to be exact. -/
def exactInt? (x : Float) : Option Int64 :=
  match Number.toInt? x with
  | some n => if n.natAbs ≤ exactLimit then some (Int64.ofInt n) else none
  | none => none

/-- A number as an integer where possible. -/
def ofFloat (x : Float) : FieldValue :=
  match exactInt? x with
  | some n => int n
  | none => float x

/-- Whether two texts are equal but for the case of ASCII letters. -/
def sameAscii (a b : String) : Bool :=
  Number.lowerAscii a.toList == Number.lowerAscii b.toList

/-- The narrowest value that a text spells. -/
def coerce (s : String) : FieldValue :=
  match Number.int64? s.toList with
  | some n => int n
  | none =>
    match Number.finite? s.toList with
    | some x => ofFloat x
    | none =>
      if sameAscii s "true" then bool true
      else if sameAscii s "false" then bool false
      else text s

end FieldValue

namespace Fields

/-- The fields as a JSON object. -/
def toJson (fields : Fields) : Json :=
  .obj (fields.entries.map fun e => (e.1, e.2.toJson))

end Fields

end SampleRecorder
