import SampleRecorder.Script.Fault

/-!
# Expressions and statements

The tree that a line program is compiled to.  A pattern of a text search is compiled with the program; its group is
either chosen by default or computed.
-/

namespace SampleRecorder.Script

/-- The operators between two values that are always both computed. -/
inductive BinaryOp where
  | add
  | sub
  | mul
  | div
  | rem
  | eq
  | ne
  | lt
  | le
  | gt
  | ge
  deriving DecidableEq, Repr

/-- The functions that a program may call. -/
inductive Builtin where
  | split
  | join
  | trim
  | upper
  | lower
  | len
  | substr
  | replace
  | contains
  | startsWith
  | endsWith
  | num
  | int
  | str
  | bool
  | round
  | abs
  | min
  | max
  | cond
  | coalesce
  | require
  deriving DecidableEq, Repr

namespace Builtin

/-- Every function. -/
def all : List Builtin :=
  [split, join, trim, upper, lower, len, substr, replace, contains, startsWith, endsWith, num, int, str, bool, round,
   abs, min, max, cond, coalesce, require]

/-- The name by which a program calls the function. -/
def name : Builtin → String
  | split => "split"
  | join => "join"
  | trim => "trim"
  | upper => "upper"
  | lower => "lower"
  | len => "len"
  | substr => "substr"
  | replace => "replace"
  | contains => "contains"
  | startsWith => "starts_with"
  | endsWith => "ends_with"
  | num => "num"
  | int => "int"
  | str => "str"
  | bool => "bool"
  | round => "round"
  | abs => "abs"
  | min => "min"
  | max => "max"
  | cond => "if"
  | coalesce => "coalesce"
  | require => "require"

/-- How many arguments the function takes. -/
def arity : Builtin → Arity
  | split | join | contains | startsWith | endsWith => ⟨2, some 2⟩
  | trim | upper | lower | len | num | int | str | bool | abs | require => ⟨1, some 1⟩
  | substr => ⟨2, some 3⟩
  | replace | cond => ⟨3, some 3⟩
  | round => ⟨1, some 2⟩
  | min | max | coalesce => ⟨1, none⟩

/-- The function with the given name. -/
def ofName? (s : String) : Option Builtin :=
  all.find? (·.name == s)

theorem ofName?_name (f : Builtin) : ofName? f.name = some f := by
  cases f <;> decide

end Builtin

/-- An expression. -/
inductive Expr where
  | literal (v : Value)
  | var (name : String)
  | index (target position : Expr)
  | neg (operand : Expr)
  | not (operand : Expr)
  | binary (op : BinaryOp) (left right : Expr)
  | and (left right : Expr)
  | or (left right : Expr)
  | call (function : Builtin) (arguments : List Expr)
  | search (input : Expr) (regex : Regex)
  | searchGroup (input : Expr) (regex : Regex) (group : Expr)

/-- A statement. -/
inductive Stmt where
  | bind (name : String) (value : Expr)
  | assign (name : String) (value : Expr)
  | reject
  | eval (value : Expr)

/-- A compiled program. -/
structure Program where
  statements : List Stmt

end SampleRecorder.Script
