import SampleRecorder.Reading
import SampleRecorder.Regex.Basic
import SampleRecorder.Text.Search

/-!
# Conditions of rules

The language of conditions and its reader.  A condition compares a field, looks into the line, or asks for a field:

* `value > 100`, with one of the signs `>`, `<`, `>=`, `<=`, `==`, `!=`;
* `line contains 'ERR'`, `line startsWith 'D:'`, `line endsWith ';'`;
* `regex matches /^SYS:/i`;
* `field exists humidity`, `status equals 'ok'`, `valid is true`.

Keywords may be written in any case.  A text that fits none of the forms is a condition that never holds.
-/

namespace SampleRecorder.Rule

/-- The sign of a comparison. -/
inductive Relation where
  | gt
  | lt
  | ge
  | le
  | eq
  | ne
  deriving DecidableEq, Repr, Inhabited

namespace Relation

/-- Whether a relation holds between two things in the given order. -/
def holds (r : Relation) (o : Ordering) : Bool :=
  match r with
  | gt => o == .gt
  | lt => o == .lt
  | ge => o != .lt
  | le => o != .gt
  | eq => o == .eq
  | ne => o != .eq

/-- How a relation is written. -/
def sign : Relation → String
  | gt => ">"
  | lt => "<"
  | ge => ">="
  | le => "<="
  | eq => "=="
  | ne => "!="

/-- All relations, those with longer signs first. -/
def all : List Relation :=
  [ge, le, eq, ne, gt, lt]

end Relation

/-- Why a text is no condition. -/
inductive Fault where
  | format
  | pattern (pattern : String) (fault : Regex.Fault)
  deriving DecidableEq, Repr

/-- The wording of a cause. -/
def Fault.message : Fault → String
  | format => "Invalid condition format. Examples: \"value > 100\", \"line contains 'ERR'\""
  | pattern text fault => s!"Invalid regex '{text}': " ++ fault.message

/-- A condition on readings. -/
inductive Condition where
  | compare (field : String) (relation : Relation) (text : String) (number : Option Float)
  | contains (text : String)
  | fits (regex : Regex)
  | exists (field : String)
  | equals (field literal : String)
  | startsWith (text : String)
  | endsWith (text : String)
  | truth (field : String) (expected : Bool)
  | never (fault : Fault)

/-! ## Holding -/

/-- The order of two numbers, unless one of them is not a number. -/
def numberOrder? (a b : Float) : Option Ordering :=
  if a < b then some .lt else if a == b then some .eq else if b < a then some .gt else none

/-- Compares a value with an operand: as numbers when both are, and otherwise as texts.  A value that is not a number
differs from every number. -/
def compareValue (v : FieldValue) (r : Relation) (text : String) (number : Option Float) : Bool :=
  match v.number?, number with
  | some a, some b =>
    match numberOrder? a b with
    | some o => r.holds o
    | none => r == .ne
  | _, _ => r.holds (Ord.compare v.display text)

/-- Whether a condition holds for a reading. -/
def Condition.holds (data : Reading) : Condition → Bool
  | compare field relation text number =>
    match data.fields.get? field with
    | some v => compareValue v relation text number
    | none => false
  | contains text => Text.contains text.toList data.raw.toList
  | fits regex => regex.isMatch data.raw
  | .exists field => (data.fields.get? field).isSome
  | equals field literal => (data.fields.get? field).any fun v => v.display == literal
  | startsWith text => Text.startsWith text.toList data.raw.toList
  | endsWith text => Text.endsWith text.toList data.raw.toList
  | truth field expected => (data.fields.get? field).bind FieldValue.bool? == some expected
  | never _ => false

/-! ## Reading -/

namespace Condition

/-- Whether a character differs from a lower-case letter by case alone. -/
def sameLetter (letter c : Char) : Bool :=
  Text.foldPoint c.toNat == letter.toNat

/-- What follows a keyword, in any case, and the white space behind it. -/
def keyword? : List Char → List Char → Option (List Char)
  | [], c :: s => if Text.isBlank c then some (s.dropWhile Text.isBlank) else none
  | [], [] => none
  | _ :: _, [] => none
  | k :: word, c :: s => if sameLetter k c then keyword? word s else none

/-- A word and what follows it. -/
def word? (s : List Char) : Option (List Char × List Char) :=
  match s.takeWhile Text.isWord with
  | [] => none
  | word => some (word, s.dropWhile Text.isWord)

/-- The word before a keyword, and what follows both. -/
def subject? (word s : List Char) : Option (String × List Char) :=
  (word? s).bind fun (name, rest) =>
    match rest with
    | c :: more =>
      if Text.isBlank c then (keyword? word (more.dropWhile Text.isBlank)).map fun s => (String.ofList name, s) else none
    | [] => none

/-- Text that is not empty and stays on one line. -/
def oneLine? (s : List Char) : Option (List Char) :=
  if s = [] ∨ '\n' ∈ s then none else some s

/-- Whether a character is one of the two quotes. -/
def isQuote (c : Char) : Bool :=
  c = '\'' || c = '"'

/-- The text between two quotes, of either kind, at both ends. -/
def quoted? (s : List Char) : Option String :=
  match s with
  | c :: rest =>
    match rest.getLast? with
    | some d => if isQuote c && isQuote d then (oneLine? rest.dropLast).map String.ofList else none
    | none => none
  | [] => none

/-- A text without a pair of equal quotes around it. -/
def unquote (s : List Char) : List Char :=
  match s with
  | c :: rest => if isQuote c && rest.getLast? == some c then rest.dropLast else s
  | [] => []

/-- Reads `field sign operand`; of two signs with the same beginning the longer one is tried first. -/
def comparison? (s : List Char) : Option Condition :=
  (word? s).bind fun (name, rest) =>
    let rest := rest.dropWhile Text.isBlank
    Relation.all.findSome? fun r =>
      (Text.strip? r.sign.toList rest).bind fun operand =>
        (oneLine? (operand.dropWhile Text.isBlank)).map fun operand =>
          let text := unquote (Text.trim operand)
          compare (String.ofList name) r (String.ofList text) (Number.finite? text)

/-- Reads `line <verb> 'text'`. -/
def onLine? (verb : String) (make : String → Condition) (s : List Char) : Option Condition :=
  ((keyword? "line".toList s).bind (keyword? verb.toList)).bind fun rest => (quoted? rest).map make

/-- The flags of a pattern behind its second slash. -/
def isFlag (c : Char) : Bool :=
  "gimsuy".toList.any (sameLetter · c)

/-- The flags that have an effect, in either case. -/
def flagsOf (s : List Char) : Regex.Flags where
  ignoreCase := (s.map Char.toLower).contains 'i'
  multiLine := (s.map Char.toLower).contains 'm'
  dotAll := (s.map Char.toLower).contains 's'

/-- A pattern between slashes, and its flags. -/
def slashed? (s : List Char) : Option (List Char × List Char) :=
  match s with
  | '/' :: rest =>
    let flags := rest.reverse.takeWhile (· != '/')
    match rest.reverse.dropWhile (· != '/') with
    | _ :: body => if flags.all isFlag then (oneLine? body.reverse).map fun body => (body, flags) else none
    | [] => none
  | _ => none

/-- Reads `regex matches /pattern/flags`. -/
def pattern? (s : List Char) : Option Condition :=
  (((keyword? "regex".toList s).bind (keyword? "matches".toList)).bind slashed?).map fun (body, flags) =>
    match Regex.compile? (String.ofList body) (flagsOf flags) with
    | .ok r => fits r
    | .error fault => never (.pattern (String.ofList body) fault)

/-- Reads `field exists name`. -/
def existence? (s : List Char) : Option Condition :=
  ((keyword? "field".toList s).bind (keyword? "exists".toList)).bind fun rest =>
    match word? rest with
    | some (name, []) => some (.exists (String.ofList name))
    | _ => none

/-- Reads `name equals 'text'`. -/
def equality? (s : List Char) : Option Condition :=
  (subject? "equals".toList s).bind fun (name, rest) => (quoted? rest).map (equals name)

/-- Whether a text is a word of lower-case letters in any case. -/
def isWordOf (word : List Char) : List Char → Bool
  | [] => word.isEmpty
  | c :: s =>
    match word with
    | [] => false
    | k :: word => sameLetter k c && isWordOf word s

/-- Reads `name is true` and `name is false`. -/
def truth? (s : List Char) : Option Condition :=
  (subject? "is".toList s).bind fun (name, rest) =>
    if isWordOf "true".toList rest then some (truth name true)
    else if isWordOf "false".toList rest then some (truth name false)
    else none

/-- The forms of a condition, in the order in which they are tried. -/
def forms : List (List Char → Option Condition) :=
  [comparison?, onLine? "contains" contains, pattern?, existence?, equality?, onLine? "startswith" startsWith,
    onLine? "endswith" endsWith, truth?]

/-- The condition that a text spells. -/
def ofText (s : String) : Condition :=
  (forms.findSome? fun form => form (Text.trim s.toList)).getD (never .format)

/-- Why the condition never holds, if it is none. -/
def fault? : Condition → Option Fault
  | never fault => some fault
  | _ => none

/-- What is no condition never holds. -/
theorem holds_eq_false_of_fault? {c : Condition} {fault : Fault} (h : c.fault? = some fault) (data : Reading) :
    c.holds data = false := by
  cases c <;> simp_all [fault?, holds]

end Condition

end SampleRecorder.Rule
