import SampleRecorder.Field

/-!
# Values of line programs

The values that expressions compute with, their texts, and the two notions of equality: `Value.same` tells integers
from other numbers and is used to look for an item in a list, while `Value.equals`, the operator `==`, compares numbers
as numbers.
-/

namespace SampleRecorder.Script

/-- A value of an expression. -/
inductive Value where
  | null
  | bool (b : Bool)
  | int (n : Int64)
  | float (x : Float)
  | str (s : String)
  | list (items : List Value)
  deriving Inhabited

/-- The kinds of values, as error messages name them. -/
inductive Kind where
  | null
  | bool
  | int
  | float
  | string
  | list
  deriving DecidableEq, Repr

/-- The name of a kind. -/
def Kind.name : Kind → String
  | null => "null"
  | bool => "bool"
  | int => "int"
  | float => "float"
  | string => "string"
  | list => "list"

namespace Value

/-- The kind of a value. -/
def kind : Value → Kind
  | null => .null
  | bool _ => .bool
  | int _ => .int
  | float _ => .float
  | str _ => .string
  | list _ => .list

/-- Whether a value counts as true: neither null, false, zero nor empty. -/
def truthy : Value → Bool
  | null => false
  | bool b => b
  | int n => n != 0
  | float x => x != 0.0
  | str s => s != ""
  | list items => !items.isEmpty

/-- The value as a number; only numbers have one. -/
def number? : Value → Option Float
  | int n => some (Float.ofInt n.toInt)
  | float x => some x
  | _ => none

/-- Whether the value is null. -/
def isNull : Value → Bool
  | null => true
  | _ => false

mutual

/-- Whether two values are of one kind and the same in it. -/
def same : Value → Value → Bool
  | null, null => true
  | bool a, bool b => a == b
  | int a, int b => a == b
  | float a, float b => a == b
  | str a, str b => a == b
  | list a, list b => sameItems a b
  | _, _ => false

/-- Whether two lists have the same items in the same order. -/
def sameItems : List Value → List Value → Bool
  | [], [] => true
  | a :: as, b :: bs => same a b && sameItems as bs
  | _, _ => false

end

/-- Equality of expressions: numbers are compared as numbers, all else by kind and content. -/
def equals (a b : Value) : Bool :=
  match a.number?, b.number? with
  | some x, some y => x == y
  | _, _ => same a b

mutual

/-- The value in a JSON document. -/
def toJson : Value → Json
  | null => .null
  | bool b => .bool b
  | int n => .int n.toInt
  | float x => .float x
  | str s => .str s
  | list items => .arr (itemsToJson items)

/-- The items of a list in a JSON document. -/
def itemsToJson : List Value → List Json
  | [] => []
  | a :: rest => toJson a :: itemsToJson rest

end

/-- The value as plain text; a list is written as JSON. -/
def display : Value → String
  | null => "null"
  | bool b => boolText b
  | int n => String.ofList (Number.ofInt n.toInt)
  | float x => String.ofList (Number.plain x)
  | str s => s
  | list items => String.ofList (toJson (list items)).compact

/-- A number as an integer where possible. -/
def ofFloat (x : Float) : Value :=
  match FieldValue.exactInt? x with
  | some n => int n
  | none => float x

/-- The value as it is stored in a field; null leaves the field out. -/
def toField? : Value → Option FieldValue
  | null => none
  | bool b => some (.bool b)
  | int n => some (.int n)
  | float x => some (if x.isFinite then .float x else .text (String.ofList (Number.plain x)))
  | str s => some (.text s)
  | list items => some (.text (display (list items)))

end Value

end SampleRecorder.Script
