import SampleRecorder.Regex.Node
import SampleRecorder.Regex.Property

/-!
# Flags and escapes of patterns

The flags that are in force while a pattern is read, the white space and comments that verbose mode skips, and what a
backslash introduces.  A malformed escape has no reading.
-/

namespace SampleRecorder.Regex

open SampleRecorder.Text (CodeSet)

/-- The flags in force at some place of a pattern. -/
structure Flags where
  ignoreCase : Bool := false
  multiLine : Bool := false
  dotAll : Bool := false
  swapGreed : Bool := false
  unicode : Bool := true
  carriage : Bool := false
  verbose : Bool := false
  deriving DecidableEq, Repr

namespace Flags

/-- The flags after the one written as a letter is turned on or off. -/
def set? (f : Flags) (letter : Char) (on : Bool) : Option Flags :=
  match letter with
  | 'i' => some { f with ignoreCase := on }
  | 'm' => some { f with multiLine := on }
  | 's' => some { f with dotAll := on }
  | 'U' => some { f with swapGreed := on }
  | 'u' => some { f with unicode := on }
  | 'R' => some { f with carriage := on }
  | 'x' => some { f with verbose := on }
  | _ => none

/-- Skips white space, and comments from `#` to the end of the line. -/
def skipVerbose (inComment : Bool) : List Char → List Char
  | [] => []
  | c :: s =>
    if inComment then skipVerbose (c != '\n') s
    else if Text.isBlank c then skipVerbose false s
    else if c = '#' then skipVerbose true s
    else c :: s

/-- What is left of the text where a space may stand. -/
def skip (f : Flags) (s : List Char) : List Char :=
  if f.verbose then skipVerbose false s else s

/-- The set with its case variants, when case is ignored. -/
def fold (f : Flags) (s : CodeSet) : CodeSet :=
  if f.ignoreCase then if f.unicode then s.foldCase else s.foldAscii else s

/-- The set, or the characters that it does not hold.  Without Unicode there is no complement, since it would hold
parts of characters. -/
def negate? (f : Flags) (negated : Bool) (s : CodeSet) : Option CodeSet :=
  if !negated then some s else if f.unicode then some s.compl else none

/-- The pattern for one written character. -/
def literal (f : Flags) (c : Char) : Node :=
  if f.ignoreCase && (f.unicode || c.toNat < 0x80) then .ofSet (f.fold (.ofList [c])) else .literal [c]

/-- The pattern `.`, which spares the line terminators unless they are included. -/
def dot? (f : Flags) : Option Node :=
  if !f.unicode then none
  else if f.dotAll then some (.ofSet .all)
  else if f.carriage then some (.ofSet (CodeSet.ofList ['\n', '\r']).compl)
  else some (.ofSet (CodeSet.ofList ['\n']).compl)

/-- The position that `^` asks for. -/
def startLook (f : Flags) : Look :=
  if !f.multiLine then .textStart else if f.carriage then .carriageLineStart else .lineStart

/-- The position that `$` asks for. -/
def endLook (f : Flags) : Look :=
  if !f.multiLine then .textEnd else if f.carriage then .carriageLineEnd else .lineEnd

end Flags

/-- What a backslash introduces. -/
inductive Escape where
  | char (c : Char)
  | set (s : CodeSet)
  | look (l : Look)

namespace Escape

/-- The characters that have a meaning of their own in patterns. -/
def isMeta (c : Char) : Bool :=
  ['\\', '.', '+', '*', '?', '(', ')', '|', '[', ']', '{', '}', '^', '$', '#', '&', '-', '~'].contains c

/-- The characters that a backslash leaves as they are. -/
def isEscapable (c : Char) : Bool :=
  isMeta c || (c.toNat < 0x80 && !c.isAlphanum && c != '<' && c != '>')

/-- The value of a hexadecimal digit. -/
def hexDigit? (c : Char) : Option Nat :=
  if '0' ≤ c && c ≤ '9' then some (c.toNat - 48)
  else if 'a' ≤ c && c ≤ 'f' then some (c.toNat - 87)
  else if 'A' ≤ c && c ≤ 'F' then some (c.toNat - 55)
  else none

/-- The character with the given code point, when it is one. -/
def ofCodePoint? (n : Nat) : Option Char :=
  if h : n.isValidChar then some (Char.ofNatAux n h) else none

/-- Exactly `count` hexadecimal digits. -/
def hexFixed (f : Flags) : Nat → Nat → List Char → Option (Nat × List Char)
  | 0, value, s => some (value, s)
  | count + 1, value, s =>
    match s with
    | [] => none
    | c :: r => (hexDigit? c).bind fun d => hexFixed f count (16 * value + d) (f.skip r)

/-- Hexadecimal digits up to a closing brace. -/
def hexBraced (f : Flags) (fuel : Nat) (digits : List Nat) (s : List Char) : Option (Nat × List Char) :=
  match fuel, f.skip s with
  | _, [] => none
  | 0, _ => none
  | fuel + 1, c :: r =>
    if c = '\x7d' then
      if digits.isEmpty then none else some (digits.reverse.foldl (fun n d => 16 * n + d) 0, f.skip r)
    else (hexDigit? c).bind fun d => hexBraced f fuel (d :: digits) r

/-- A character given by its code point, in `count` digits or between braces.  Without Unicode two digits stand for a
byte, which is a character only if it is ASCII. -/
def hex? (f : Flags) (count : Nat) (s : List Char) : Option (Escape × List Char) :=
  match f.skip s with
  | [] => none
  | '\x7b' :: r =>
    (hexBraced f r.length [] r).bind fun (n, rest) =>
      (ofCodePoint? n).map fun c => (.char c, rest)
  | r =>
    (hexFixed f count 0 r).bind fun (n, rest) =>
      if !f.unicode && count = 2 && 0x80 ≤ n then none
      else (ofCodePoint? n).map fun c => (.char c, rest)

/-- The text up to a closing brace, without the spaces that verbose mode skips. -/
def braced (f : Flags) (fuel : Nat) (seen : List Char) (s : List Char) : Option (List Char × List Char) :=
  match fuel, f.skip s with
  | _, [] => none
  | 0, _ => none
  | fuel + 1, c :: r => if c = '\x7d' then some (seen.reverse, r) else braced f fuel (c :: seen) r

/-- A set named after `\p`, or its complement after `\P`. -/
def property? (f : Flags) (negated : Bool) (s : List Char) : Option (Escape × List Char) :=
  let named (name rest : List Char) : Option (Escape × List Char) := do
    guard f.unicode
    let found ← Property.find? name
    let set ← f.negate? negated (f.fold found)
    return (.set set, rest)
  match f.skip s with
  | [] => none
  | '\x7b' :: r => (braced f r.length [] r).bind fun (name, rest) => named name rest
  | '\\' :: _ => none
  | c :: r => named [c] (f.skip r)

/-- The class written with a letter: digits, white space or word characters. -/
def letterClass (f : Flags) (letter : Char) : CodeSet :=
  let whole :=
    match letter with
    | 'd' => Text.Category.decimalNumber
    | 's' => Text.Property.whiteSpace
    | _ => Text.Derived.word
  if f.unicode then whole else whole.inter (.range 0 0x7F)

/-- The word boundary that a name in braces behind `\b` asks for; no name there leaves the text alone. -/
def boundary? (f : Flags) (s : List Char) : Option (Look × List Char) :=
  let plain := some (Look.boundary (!f.unicode) false, s)
  let isName (c : Char) : Bool := c.isAlpha || c == '-'
  match s with
  | '\x7b' :: r =>
    match f.skip r with
    | [] => none
    | c :: _ =>
      if !isName c then plain
      else
        (braced f r.length [] r).bind fun (name, rest) =>
          match String.ofList name with
          | "start" => some (.wordStart (!f.unicode), rest)
          | "end" => some (.wordEnd (!f.unicode), rest)
          | "start-half" => some (.halfStart (!f.unicode), rest)
          | "end-half" => some (.halfEnd (!f.unicode), rest)
          | _ => none
  | _ => plain

/-- Reads what follows a backslash. -/
def read? (f : Flags) : List Char → Option (Escape × List Char)
  | [] => none
  | c :: s =>
    match c with
    | 'x' => hex? f 2 s
    | 'u' => hex? f 4 s
    | 'U' => hex? f 8 s
    | 'p' => property? f false s
    | 'P' => property? f true s
    | 'd' | 's' | 'w' => some (.set (letterClass f c), s)
    | 'D' | 'S' | 'W' => (f.negate? true (letterClass f c.toLower)).map fun set => (.set set, s)
    | 'a' => some (.char '\x07', s)
    | 'f' => some (.char '\x0c', s)
    | 't' => some (.char '\t', s)
    | 'n' => some (.char '\n', s)
    | 'r' => some (.char '\r', s)
    | 'v' => some (.char '\x0b', s)
    | 'A' => some (.look .textStart, s)
    | 'z' => some (.look .textEnd, s)
    | 'b' => (boundary? f s).map fun (l, rest) => (.look l, rest)
    | 'B' => some (.look (.boundary (!f.unicode) true), s)
    | '<' => some (.look (.wordStart (!f.unicode)), s)
    | '>' => some (.look (.wordEnd (!f.unicode)), s)
    | _ => if isEscapable c then some (.char c, s) else none

end Escape

end SampleRecorder.Regex
