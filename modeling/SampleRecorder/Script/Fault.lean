import SampleRecorder.Regex.Basic
import SampleRecorder.Script.Value

/-!
# What can go wrong in a line program

The causes for which a program text is refused, each with a place in the text, and the causes for which a program
fails on a line.  `Reason.message` and `Failure.message` give their wording.
-/

namespace SampleRecorder.Script

/-- A place in a program text; both numbers count from one. -/
structure Position where
  line : Nat
  column : Nat
  deriving DecidableEq, Repr

/-- The greatest length of a program text in bytes. -/
def sourceLimit : Nat := 16384

/-- Parentheses, indices and arguments may nest this deep. -/
def depthLimit : Nat := 64

/-- The greatest length of a computed text in bytes. -/
def textLimit : Nat := 65536

/-- What the text should have gone on with. -/
inductive Expected where
  | assign
  | openParen
  | closeParen
  | closeBracket
  deriving DecidableEq, Repr

/-- How an expected token is written. -/
def Expected.text : Expected → String
  | assign => "'='"
  | openParen => "'('"
  | closeParen => "')'"
  | closeBracket => "']'"

/-- How many arguments a function takes. -/
structure Arity where
  least : Nat
  most : Option Nat
  deriving DecidableEq, Repr

/-- A number of arguments in words. -/
def Arity.text (a : Arity) : String :=
  match a.most with
  | none => s!"at least {a.least}"
  | some most => if a.least = most then s!"{most}" else s!"{a.least} to {most}"

/-- Whether a number of arguments is accepted. -/
def Arity.accepts (a : Arity) (n : Nat) : Bool :=
  a.least ≤ n && match a.most with | none => true | some most => n ≤ most

/-- Why a program text is refused. -/
inductive Reason where
  | lonelySign (c : Char)
  | unterminatedString
  | badNumber (text : String)
  | unexpectedCharacter (c : Char)
  | expectedEnd
  | expectedName
  | expectedValue
  | expected (what : Expected)
  | reservedName (name : String)
  | undefinedName (name : String)
  | tooDeep
  | unknownFunction (name : String)
  | argumentCount (name : String) (arity : Arity) (count : Nat)
  | patternNotLiteral
  | badPattern (pattern : String) (fault : Regex.Fault)
  deriving DecidableEq, Repr

/-- The wording of a reason. -/
def Reason.message : Reason → String
  | lonelySign c => s!"expected '{c}{c}'"
  | unterminatedString => "unterminated string literal"
  | badNumber text => s!"bad number '{text}'"
  | unexpectedCharacter c => s!"unexpected character '{c}'"
  | expectedEnd => "expected ';' or end of line"
  | expectedName => "expected a name"
  | expectedValue => "expected a value"
  | expected what => "expected " ++ what.text
  | reservedName name => s!"'{name}' is a reserved name"
  | undefinedName name => s!"'{name}' is not defined"
  | tooDeep => "expression nested too deeply"
  | unknownFunction name => s!"unknown function '{name}'"
  | argumentCount name arity count => s!"'{name}' takes " ++ arity.text ++ s!" argument(s), got {count}"
  | patternNotLiteral => "'match' pattern must be a string literal"
  | badPattern pattern fault => s!"invalid regex '{pattern}': " ++ fault.message

/-- A refused program text: the place and the reason. -/
structure SyntaxFault where
  position : Position
  reason : Reason
  deriving DecidableEq, Repr

/-- Why a program fails on a line. -/
inductive Failure where
  | overflow
  | divisionByZero
  | compareNaN
  | notIndexable (kind : Kind)
  | notNegatable (kind : Kind)
  | notComparable (left right : Kind)
  | notAddable (left right : Kind)
  | notArithmetic (left right : Kind)
  | noLength (kind : Kind)
  | wantsString (function : String) (kind : Kind)
  | wantsInteger (function : String) (kind : Kind)
  | wantsNumber (function : String) (kind : Kind)
  | wantsList (function : String) (kind : Kind)
  | textTooLong (bytes : Nat)
  | replacementTooLong (bytes : Nat)
  | missingArgument
  deriving DecidableEq, Repr

/-- The wording of a failure. -/
def Failure.message : Failure → String
  | overflow => "integer overflow"
  | divisionByZero => "division by zero"
  | compareNaN => "cannot compare NaN"
  | notIndexable kind => "cannot index a " ++ kind.name
  | notNegatable kind => "cannot negate a " ++ kind.name
  | notComparable left right => "cannot compare " ++ left.name ++ " with " ++ right.name
  | notAddable left right => "cannot add " ++ left.name ++ " and " ++ right.name
  | notArithmetic left right => "arithmetic on " ++ left.name ++ " and " ++ right.name
  | noLength kind => "len() of a " ++ kind.name
  | wantsString function kind => function ++ "() expects a string, got " ++ kind.name
  | wantsInteger function kind => function ++ "() expects an integer, got " ++ kind.name
  | wantsNumber function kind => function ++ "() expects a number, got " ++ kind.name
  | wantsList function kind => function ++ "() expects a list, got " ++ kind.name
  | textTooLong bytes => s!"string of {bytes} bytes exceeds the {textLimit}-byte limit"
  | replacementTooLong bytes => s!"replace() result of {bytes} bytes exceeds the {textLimit}-byte limit"
  | missingArgument => "argument missing"

end SampleRecorder.Script
