import SampleRecorder.Json.Basic
import SampleRecorder.Number.Numeral

/-!
# JSON text as far as it can be read

`Raw.read` turns a text into a tree without refusing anything: where the text stops being JSON the tree ends with the
cause.  A decoder that walks the tree from left to right therefore meets faults of form and faults of content in the
order in which they stand in the text.  A value that is only skipped is judged less strictly than one that is used,
so leaves that differ in this carry both judgements.
-/

namespace SampleRecorder.Json

/-- Why a document cannot be used: it is not JSON, it ends too early, or it has the wrong shape. -/
inductive Cause where
  | malformed
  | truncated
  | mismatch
  deriving DecidableEq, Repr

/-- A place where the text cannot be read on: the cause for a reader that uses the value, for one that skips it, and
for one that looks for a name and does not go into other values. -/
structure Break where
  used : Cause
  skipped : Cause
  named : Cause
  deriving DecidableEq, Repr

/-- The same cause for every reader. -/
def Break.same (c : Cause) : Break := ⟨c, c, c⟩

/-- The end of the text inside a number, which a reader that skips it takes for a fault of form. -/
def Break.inNumber : Break := ⟨.truncated, .malformed, .malformed⟩

/-- The end of the text inside a truth value. -/
def Break.inFlag : Break := ⟨.truncated, .truncated, .malformed⟩

/-- A number of a document: an integer within 64 bits, signed or unsigned, or a floating-point number. -/
inductive Numeric where
  | int (n : Int)
  | float (x : Float)

/-- A value as it stands in the text. -/
inductive Raw where
  | broken (b : Break)
  | null
  | bool (b : Bool)
  | number (value : Except Cause Numeric)
  | str (value : Except Cause String)
  | arr (items : List Raw) (ending : Option Break)
  | obj (members : List (Except Cause String × Raw)) (ending : Option Break)
  deriving Inhabited

namespace Raw

/-- Skips the blanks that may stand between tokens. -/
def skip (s : List Char) : List Char :=
  s.dropWhile fun c => c = ' ' || c = '\n' || c = '\t' || c = '\r'

/-- The value of a hexadecimal digit. -/
def hex? (c : Char) : Option Nat :=
  if '0' ≤ c && c ≤ '9' then some (c.toNat - 48)
  else if 'a' ≤ c && c ≤ 'f' then some (c.toNat - 87)
  else if 'A' ≤ c && c ≤ 'F' then some (c.toNat - 55)
  else none

/-- The number of bytes of a text, counted up to the first character that reaches four. -/
def hasFourBytes (s : List Char) : Bool :=
  4 ≤ (s.take 4).foldl (fun n c => n + c.utf8Size) 0

/-- Four hexadecimal digits; a text of less than four bytes counts as ended. -/
def fourHex (s : List Char) : Except Cause (Nat × List Char) :=
  if !hasFourBytes s then .error .truncated
  else
    match s with
    | a :: b :: c :: d :: rest =>
      match hex? a, hex? b, hex? c, hex? d with
      | some a, some b, some c, some d => .ok (4096 * a + 256 * b + 16 * c + d, rest)
      | _, _, _, _ => .error .malformed
    | _ => .error .malformed

/-- The character of an escape of one letter. -/
def simpleEscape? (c : Char) : Option Char :=
  match c with
  | '"' => some '"'
  | '\\' => some '\\'
  | '/' => some '/'
  | 'b' => some '\x08'
  | 'f' => some '\x0c'
  | 'n' => some '\n'
  | 'r' => some '\r'
  | 't' => some '\t'
  | _ => none

/-- What a string literal has been read to: its characters, last first, and the first fault of its content. -/
structure Literal where
  chars : List Char := []
  fault : Option Cause := none

namespace Literal

/-- The literal with one more character. -/
def push (l : Literal) (c : Char) : Literal :=
  { l with chars := c :: l.chars }

/-- The literal with a fault; only the first one counts. -/
def blame (l : Literal) (c : Cause) : Literal :=
  { l with fault := l.fault <|> some c }

/-- The text of the literal, if its content is sound. -/
def value (l : Literal) : Except Cause String :=
  match l.fault with
  | some c => .error c
  | none => .ok (String.ofList l.chars.reverse)

/-- The break where the text of the literal cannot be read on. -/
def stop (l : Literal) (c : Cause) : Break :=
  ⟨l.fault.getD c, c, l.fault.getD c⟩

end Literal

/-- An escape of a code unit, after its four digits: a pair of surrogates takes a second escape, and a surrogate on
its own is a fault of the content. -/
def unit (l : Literal) (n : Nat) (s : List Char) : Except Break (Literal × List Char) :=
  if 0xDC00 ≤ n && n ≤ 0xDFFF then .ok (l.blame .malformed, s)
  else if 0xD800 ≤ n && n ≤ 0xDBFF then
    match s with
    | '\\' :: 'u' :: r =>
      match fourHex r with
      | .ok (m, rest) =>
        if 0xDC00 ≤ m && m ≤ 0xDFFF then
          .ok (l.push (Char.ofNat (0x10000 + (n - 0xD800) * 0x400 + (m - 0xDC00))), rest)
        else .ok (l.blame .malformed, s)
      | .error c => .error (l.stop c)
    | [] | ['\\'] => .error (l.stop .truncated)
    | _ => .ok (l.blame .malformed, s)
  else .ok (l.push (Char.ofNat n), s)

/-- Reads a string literal after its opening quote. -/
def literal : Nat → Literal → List Char → Except Break (Literal × List Char)
  | 0, l, _ => .error (l.stop .truncated)
  | _, l, [] => .error (l.stop .truncated)
  | fuel + 1, l, c :: s =>
    if c = '"' then .ok (l, s)
    else if c = '\\' then
      match s with
      | [] => .error (l.stop .truncated)
      | 'u' :: r =>
        match fourHex r with
        | .ok (n, rest) => (unit l n rest).bind fun (l, rest) => literal fuel l rest
        | .error cause => .error (l.stop cause)
      | e :: r =>
        match simpleEscape? e with
        | some x => literal fuel (l.push x) r
        | none => .error (l.stop .malformed)
    else if c.toNat < 0x20 then .error (l.stop .malformed)
    else literal fuel (l.push c) s

/-- Integers of a document beyond this are read as floating-point numbers. -/
def wordLimit : Nat := 18446744073709551616

/-- The digits that fit into 64 bits, with their number, and how many follow them. -/
def significand (start : Nat) (ds : List Char) : Nat × Nat × Nat :=
  let rec go (value used : Nat) : List Char → Nat × Nat × Nat
    | [] => (value, used, 0)
    | d :: rest =>
      let next := 10 * value + Number.digitValue d
      if next < wordLimit then go next (used + 1) rest else (value, used, rest.length + 1)
  go start 0 ds

/-- `significand * 10 ^ exponent` by repeated scaling with powers of ten; too large a number is a fault. -/
def scale (fuel : Nat) (x : Float) (exponent : Int) : Except Cause Float :=
  if exponent.natAbs ≤ 308 then
    let power := Float.ofScientific 1 false exponent.natAbs
    if 0 ≤ exponent then
      let y := x * power
      if y.isFinite then .ok y else .error .malformed
    else .ok (x / power)
  else if x == 0.0 then .ok x
  else if 0 ≤ exponent then .error .malformed
  else
    match fuel with
    | 0 => .ok 0.0
    | fuel + 1 => scale fuel (x / Float.ofScientific 1 false 308) (exponent + 308)

/-- The value of a number from its digits; `exponent` is the written one. -/
def numeric (negative : Bool) (whole fraction : List Char) (exponent : Option Int) : Except Cause Numeric :=
  let (m, _, dropped) := significand 0 whole
  if fraction.isEmpty && exponent.isNone && dropped = 0 then
    if !negative then .ok (.int m)
    else if 0 < m && 2 * m ≤ wordLimit then .ok (.int (-(m : Int)))
    else .ok (.float (-(Float.ofNat m)))
  else
    let (m, used, _) := significand m fraction
    let power : Int := dropped - used + exponent.getD 0
    (scale 40 (Float.ofNat m) (max (-12000) (min power 12000))).map fun x => .float (if negative then -x else x)

/-- Reads the exponent of a number after its letter. -/
def exponent (s : List Char) : Except Break (Int × List Char) :=
  let (negative, r) := Number.takeSign s
  let ds := r.takeWhile Char.isDigit
  if ds.isEmpty then .error (if r.isEmpty then .inNumber else .same .malformed)
  else
    let n : Int := Number.ofDigits ds
    .ok (if negative then -n else n, r.dropWhile Char.isDigit)

/-- Reads a number after its sign. -/
def signedNumber (negative : Bool) (s : List Char) : Except Break (Except Cause Numeric × List Char) :=
  let whole := s.takeWhile Char.isDigit
  let rest := s.dropWhile Char.isDigit
  if whole.isEmpty then .error (if s.isEmpty then .inNumber else .same .malformed)
  else if whole.head? = some '0' && whole.length ≠ 1 then .error (.same .malformed)
  else do
    let (fraction, rest) ←
      match rest with
      | '.' :: r =>
        let ds := r.takeWhile Char.isDigit
        let after := r.dropWhile Char.isDigit
        if ds.isEmpty then .error (if after.isEmpty then .inNumber else .same .malformed)
        else .ok (ds, after)
      | r => .ok ([], r)
    let (power, rest) ←
      match rest with
      | 'e' :: r | 'E' :: r => (exponent r).map fun (n, rest) => (some n, rest)
      | r => .ok (none, r)
    .ok (numeric negative whole fraction power, rest)

/-- Reads the rest of a word such as `null`; `atEnd` is the break where the text ends inside the word. -/
def word (value : Raw) (atEnd : Break) : List Char → List Char → Raw × Option (List Char)
  | [], s => (value, some s)
  | _ :: _, [] => (.broken atEnd, none)
  | w :: ws, c :: s => if w = c then word value atEnd ws s else (.broken (.same .malformed), none)

mutual

/-- Reads a value; without a rest the text cannot be read on behind it. -/
def value : Nat → List Char → Raw × Option (List Char)
  | 0, _ => (.broken (.same .truncated), none)
  | fuel + 1, s =>
    match skip s with
    | [] => (.broken (.same .truncated), none)
    | 'n' :: r => word .null (.same .truncated) ['u', 'l', 'l'] r
    | 't' :: r => word (.bool true) .inFlag ['r', 'u', 'e'] r
    | 'f' :: r => word (.bool false) .inFlag ['a', 'l', 's', 'e'] r
    | '"' :: r =>
      match literal (r.length + 1) {} r with
      | .ok (l, rest) => (.str l.value, some rest)
      | .error b => (.broken b, none)
    | '-' :: r =>
      match signedNumber true r with
      | .ok (n, rest) => (.number n, some rest)
      | .error b => (.broken b, none)
    | '[' :: r =>
      match skip r with
      | [] => (.arr [] (some (.same .truncated)), none)
      | ']' :: rest => (.arr [] none, some rest)
      | r =>
        let (list, ending, rest) := items fuel r
        (.arr list ending, rest)
    | '\x7b' :: r =>
      match skip r with
      | [] => (.obj [] (some (.same .truncated)), none)
      | '\x7d' :: rest => (.obj [] none, some rest)
      | r =>
        let (list, ending, rest) := members fuel r
        (.obj list ending, rest)
    | c :: r =>
      if c.isDigit then
        match signedNumber false (c :: r) with
        | .ok (n, rest) => (.number n, some rest)
        | .error b => (.broken b, none)
      else (.broken (.same .malformed), none)

/-- Reads the items of an array up to its closing bracket; a comma always announces one more item. -/
def items : Nat → List Char → List Raw × Option Break × Option (List Char)
  | 0, _ => ([], some (.same .truncated), none)
  | fuel + 1, s =>
    match value fuel s with
    | (v, none) => ([v], some (.same .truncated), none)
    | (v, some rest) =>
      match skip rest with
      | [] => ([v], some (.same .truncated), none)
      | ']' :: rest => ([v], none, some rest)
      | ',' :: rest =>
        match skip rest with
        | [] => ([v, .broken (.same .truncated)], some (.same .truncated), none)
        | ']' :: _ => ([v, .broken (.same .malformed)], some (.same .malformed), none)
        | rest =>
          let (vs, ending, rest) := items fuel rest
          (v :: vs, ending, rest)
      | _ => ([v], some (.same .malformed), none)

/-- Reads the members of an object up to its closing brace; a comma at the end of the text announces one more. -/
def members : Nat → List Char → List (Except Cause String × Raw) × Option Break × Option (List Char)
  | 0, _ => ([], some (.same .truncated), none)
  | fuel + 1, s =>
    match s with
    | '"' :: r =>
      match literal (r.length + 1) {} r with
      | .error b => ([], some b, none)
      | .ok (key, rest) =>
        match skip rest with
        | [] => ([(key.value, .broken (.same .truncated))], some (.same .truncated), none)
        | ':' :: rest =>
          match value fuel rest with
          | (v, none) => ([(key.value, v)], some (.same .truncated), none)
          | (v, some rest) =>
            match skip rest with
            | [] => ([(key.value, v)], some (.same .truncated), none)
            | '\x7d' :: rest => ([(key.value, v)], none, some rest)
            | ',' :: rest =>
              match skip rest with
              | [] =>
                ([(key.value, v), (.error .truncated, .broken (.same .truncated))], some (.same .truncated), none)
              | rest =>
                let (more, ending, rest) := members fuel rest
                ((key.value, v) :: more, ending, rest)
            | _ => ([(key.value, v)], some (.same .malformed), none)
        | _ => ([(key.value, .broken (.same .malformed))], some (.same .malformed), none)
    | _ => ([], some (.same .malformed), none)

end

/-- The tree of a text, and the cause for which the text behind the value is not empty. -/
def read (s : List Char) : Raw × Option Cause :=
  match value (s.length + 1) s with
  | (v, some rest) => (v, if (skip rest).isEmpty then none else some .malformed)
  | (v, none) => (v, none)

end Raw

end SampleRecorder.Json
