import SampleRecorder.Number.Written

/-!
# JSON values and their text

The values of JSON documents and two ways to write them: on one line without blanks (`compact`), and indented by two
blanks per level (`pretty`).  In strings only quotes, backslashes and control characters are escaped (`quote`).
-/

namespace SampleRecorder

/-- A JSON value; the members of an object keep the order in which they are to be written. -/
inductive Json where
  | null
  | bool (b : Bool)
  | int (n : Int)
  | float (x : Float)
  | str (s : String)
  | arr (items : List Json)
  | obj (members : List (String × Json))
  deriving Inhabited

namespace Json

/-- A digit of a hexadecimal number, in lower case. -/
def hexDigit (n : Nat) : Char :=
  if n < 10 then Char.ofNat (48 + n) else Char.ofNat (87 + n)

/-- A character as it stands in a quoted string. -/
def escape (c : Char) : List Char :=
  if c = '"' then ['\\', '"']
  else if c = '\\' then ['\\', '\\']
  else if c = '\n' then ['\\', 'n']
  else if c = '\r' then ['\\', 'r']
  else if c = '\t' then ['\\', 't']
  else if c = '\x08' then ['\\', 'b']
  else if c = '\x0c' then ['\\', 'f']
  else if c.toNat < 0x20 then ['\\', 'u', '0', '0', hexDigit (c.toNat / 16), hexDigit (c.toNat % 16)]
  else [c]

/-- A text between quotes. -/
def quote (s : List Char) : List Char :=
  '"' :: s.flatMap escape ++ ['"']

mutual

/-- The text of a value without any blank. -/
def compact : Json → List Char
  | null => "null".toList
  | bool b => if b then "true".toList else "false".toList
  | int n => Number.ofInt n
  | float x => Number.json x
  | str s => quote s.toList
  | arr items => '[' :: compactItems items ++ [']']
  | obj members => '\x7b' :: compactMembers members ++ ['\x7d']

/-- The items of an array, with commas between them. -/
def compactItems : List Json → List Char
  | [] => []
  | [a] => compact a
  | a :: b :: rest => compact a ++ ',' :: compactItems (b :: rest)

/-- The members of an object, with commas between them. -/
def compactMembers : List (String × Json) → List Char
  | [] => []
  | [(k, v)] => quote k.toList ++ ':' :: compact v
  | (k, v) :: b :: rest => quote k.toList ++ ':' :: compact v ++ ',' :: compactMembers (b :: rest)

end

/-- The start of a line inside `depth` levels. -/
def newLine (depth : Nat) : List Char :=
  '\n' :: List.replicate (2 * depth) ' '

mutual

/-- The text of a value inside `depth` levels, with one line for each item and member. -/
def prettyAt (depth : Nat) : Json → List Char
  | arr [] => ['[', ']']
  | arr (a :: rest) => '[' :: prettyItems (depth + 1) (a :: rest) ++ newLine depth ++ [']']
  | obj [] => ['\x7b', '\x7d']
  | obj (m :: rest) => '\x7b' :: prettyMembers (depth + 1) (m :: rest) ++ newLine depth ++ ['\x7d']
  | null => "null".toList
  | bool b => if b then "true".toList else "false".toList
  | int n => Number.ofInt n
  | float x => Number.json x
  | str s => quote s.toList

/-- The items of an array, each on a line of its own. -/
def prettyItems (depth : Nat) : List Json → List Char
  | [] => []
  | [a] => newLine depth ++ prettyAt depth a
  | a :: b :: rest => newLine depth ++ prettyAt depth a ++ ',' :: prettyItems depth (b :: rest)

/-- The members of an object, each on a line of its own. -/
def prettyMembers (depth : Nat) : List (String × Json) → List Char
  | [] => []
  | [(k, v)] => newLine depth ++ quote k.toList ++ ':' :: ' ' :: prettyAt depth v
  | (k, v) :: b :: rest =>
    newLine depth ++ quote k.toList ++ ':' :: ' ' :: prettyAt depth v ++ ',' :: prettyMembers depth (b :: rest)

end

/-- The text of a value, indented. -/
def pretty (j : Json) : List Char :=
  prettyAt 0 j

/-- An array of texts. -/
def strings (items : List String) : Json :=
  arr (items.map str)

/-- The text that may be absent. -/
def optional (s : Option String) : Json :=
  match s with
  | some s => str s
  | none => null

end Json

end SampleRecorder
