import SampleRecorder.Script.Fault

/-!
# Tokens of line programs

`Token.scan` cuts a program text into tokens.  White space and comments are dropped, and a line break ends a statement
unless a bracket is open.  Inside one token only the column moves on, also past a line break that a backslash hides
in a string.
-/

namespace SampleRecorder.Script

/-- The kinds of tokens with their contents. -/
inductive Symbol where
  | int (n : Int64)
  | float (x : Float)
  | str (s : String)
  | name (s : String)
  | openParen
  | closeParen
  | openBracket
  | closeBracket
  | comma
  | separator
  | assign
  | eq
  | ne
  | lt
  | le
  | gt
  | ge
  | plus
  | minus
  | star
  | slash
  | percent
  | bang
  | and
  | or

/-- A token and the place of its first character. -/
structure Token where
  symbol : Symbol
  position : Position

/-- The tokens of a text and the place where it ends. -/
structure Tokens where
  tokens : List Token
  stop : Position

namespace Token

/-- What a backslash in front of a character stands for; escapes of patterns stay as they are. -/
def unescape (c : Char) : List Char :=
  match c with
  | 'n' => ['\n']
  | 't' => ['\t']
  | 'r' => ['\r']
  | '\\' | '\'' | '"' => [c]
  | c => ['\\', c]

/-- The content of a string up to its closing quote, the number of characters taken, and the rest. -/
def stringBody? (quote : Char) : List Char → Option (List Char × Nat × List Char)
  | [] => none
  | c :: s =>
    if c = quote then some ([], 1, s)
    else if c = '\n' then none
    else if c = '\\' then
      match s with
      | [] => none
      | e :: r => (stringBody? quote r).map fun (body, n, rest) => (unescape e ++ body, n + 2, rest)
    else (stringBody? quote s).map fun (body, n, rest) => (c :: body, n + 1, rest)

/-- The exponent that a number goes on with: a letter, an optional sign and at least one digit. -/
def exponentPart (s : List Char) : List Char :=
  match s with
  | e :: r =>
    if e = 'e' || e = 'E' then
      let sign := r.take (if r.head? == some '+' || r.head? == some '-' then 1 else 0)
      let digits := (r.drop sign.length).takeWhile Char.isDigit
      if digits.isEmpty then [] else e :: (sign ++ digits)
    else []
  | [] => []

/-- The text of the number that `s` begins with, and whether it has a point or an exponent. -/
def numberText (s : List Char) : List Char × Bool :=
  let whole := s.takeWhile Char.isDigit
  let rest := s.dropWhile Char.isDigit
  let fraction :=
    match rest with
    | '.' :: r => '.' :: r.takeWhile Char.isDigit
    | _ => []
  let exponent := exponentPart (rest.drop fraction.length)
  (whole ++ fraction ++ exponent, !fraction.isEmpty || !exponent.isEmpty)

/-- The number that a text spells; integers beyond 64 bits become floating-point numbers. -/
def number? (text : List Char) (isFloat : Bool) : Option Symbol :=
  match if isFloat then none else Number.int64? text with
  | some n => some (.int n)
  | none => (Number.float? text).map .float

/-- Whether the text begins with a digit. -/
def startsDigit (s : List Char) : Bool :=
  s.head?.any Char.isDigit

/-- Whether a name may go on with the character. -/
def continuesName (c : Char) : Bool :=
  Text.isLetterOrNumber c || c == '_'

/-- The sign that may be followed by `=`. -/
def comparison (c : Char) (twice : Bool) : Symbol :=
  match c, twice with
  | '=', true => .eq
  | '=', false => .assign
  | '!', true => .ne
  | '!', false => .bang
  | '<', true => .le
  | '<', false => .lt
  | _, true => .ge
  | _, false => .gt

/-- The token of a character that always stands alone. -/
def single? (c : Char) : Option Symbol :=
  match c with
  | ';' => some .separator
  | '(' => some .openParen
  | ')' => some .closeParen
  | '[' => some .openBracket
  | ']' => some .closeBracket
  | ',' => some .comma
  | '+' => some .plus
  | '-' => some .minus
  | '*' => some .star
  | '/' => some .slash
  | '%' => some .percent
  | _ => none

/-- The token that begins with `c`, the number of characters it takes beyond `c`, and the rest. -/
def lexeme (c : Char) (s : List Char) : Except Reason (Symbol × Nat × List Char) :=
  if let some symbol := single? c then .ok (symbol, 0, s)
  else if c = '=' || c = '!' || c = '<' || c = '>' then
    match s with
    | '=' :: r => .ok (comparison c true, 1, r)
    | _ => .ok (comparison c false, 0, s)
  else if c = '&' || c = '|' then
    match s with
    | d :: r => if d = c then .ok (if c = '&' then .and else .or, 1, r) else .error (.lonelySign c)
    | [] => .error (.lonelySign c)
  else if c = '\'' || c = '"' then
    match stringBody? c s with
    | some (body, n, rest) => .ok (.str (String.ofList body), n, rest)
    | none => .error .unterminatedString
  else if c.isDigit || (c = '.' && startsDigit s) then
    let (text, isFloat) := numberText (c :: s)
    match number? text isFloat with
    | some symbol => .ok (symbol, text.length - 1, s.drop (text.length - 1))
    | none => .error (.badNumber (String.ofList text))
  else if Text.isLetter c || c = '_' then
    let tail := s.takeWhile continuesName
    .ok (.name (String.ofList (c :: tail)), tail.length, s.dropWhile continuesName)
  else .error (.unexpectedCharacter c)

/-- How many brackets are open behind a token. -/
def nesting (depth : Nat) : Symbol → Nat
  | .openParen | .openBracket => depth + 1
  | .closeParen | .closeBracket => depth - 1
  | _ => depth

/-- Puts a token in front of those that follow it. -/
def prepend (t : Token) (ts : Tokens) : Tokens :=
  { ts with tokens := t :: ts.tokens }

/-- Cuts a text into tokens from a place on, with `depth` brackets open; every turn takes at least one of the `fuel`
characters. -/
def scanFrom : Nat → Nat → Position → List Char → Except SyntaxFault Tokens
  | 0, _, p, _ => .ok ⟨[], p⟩
  | _, _, p, [] => .ok ⟨[], p⟩
  | fuel + 1, depth, p, c :: s =>
    if c = '\n' then
      (scanFrom fuel depth ⟨p.line + 1, 1⟩ s).map fun ts =>
        if depth = 0 then prepend ⟨.separator, p⟩ ts else ts
    else if Text.isBlank c then scanFrom fuel depth ⟨p.line, p.column + 1⟩ s
    else if c = '#' then
      let comment := s.takeWhile (· != '\n')
      scanFrom fuel depth ⟨p.line, p.column + 1 + comment.length⟩ (s.dropWhile (· != '\n'))
    else
      match lexeme c s with
      | .error reason => .error ⟨p, reason⟩
      | .ok (symbol, n, rest) =>
        (scanFrom fuel (nesting depth symbol) ⟨p.line, p.column + 1 + n⟩ rest).map (prepend ⟨symbol, p⟩)

/-- The tokens of a program text. -/
def scan (source : String) : Except SyntaxFault Tokens :=
  let cs := source.toList
  scanFrom (cs.length + 1) 0 ⟨1, 1⟩ cs

end Token

end SampleRecorder.Script
