import SampleRecorder.Text.Class
import SampleRecorder.Number.Binary

/-!
# Reading numbers

The grammar of the numbers in device lines: an optional sign, then a word for infinity or NaN, or digits with an
optional point and an optional exponent, where at least one digit stands before the exponent.  Integers of 64 bits
have a grammar of their own.
-/

namespace SampleRecorder.Number

/-- The greatest natural number of 32 bits. -/
def greatest32 : Nat := 4294967295

/-- The greatest natural number of 64 bits. -/
def greatest64 : Nat := 18446744073709551615

/-- The value of an ASCII digit. -/
def digitValue (c : Char) : Nat :=
  c.toNat - '0'.toNat

/-- The natural number with the given decimal digits. -/
def ofDigits (ds : List Char) : Nat :=
  ds.foldl (fun n c => 10 * n + digitValue c) 0

/-- A leading sign: whether it is a minus, and the rest. -/
def takeSign : List Char → Bool × List Char
  | '-' :: s => (true, s)
  | '+' :: s => (false, s)
  | s => (false, s)

/-- An unsigned numeral: `mantissa * 10 ^ exponent`. -/
structure Numeral where
  mantissa : Nat
  exponent : Int
  deriving DecidableEq, Repr

/-- The exponent behind the mantissa, when one is written correctly and nothing follows it. -/
def exponent? : List Char → Option Int
  | [] => some 0
  | c :: s =>
    if c = 'e' || c = 'E' then
      let (negative, ds) := takeSign s
      if ds.isEmpty || ds.any (!·.isDigit) then none
      else some (if negative then -(ofDigits ds : Int) else ofDigits ds)
    else none

/-- An unsigned decimal numeral that takes up the whole text. -/
def numeral? (s : List Char) : Option Numeral :=
  let whole := s.takeWhile Char.isDigit
  let rest := s.dropWhile Char.isDigit
  let (fraction, tail) :=
    match rest with
    | '.' :: r => (r.takeWhile Char.isDigit, r.dropWhile Char.isDigit)
    | r => ([], r)
  if whole.isEmpty && fraction.isEmpty then none
  else (exponent? tail).map fun e => ⟨ofDigits (whole ++ fraction), e - fraction.length⟩

/-- The number nearest to a numeral.  Exponents that decide alone, whatever the digits, are settled first. -/
def Numeral.toFloat (n : Numeral) : Float :=
  let size : Int := n.exponent + n.mantissa.log2 * 30103 / 100000
  if n.mantissa = 0 || size < -400 then 0.0
  else if 400 < size then 1.0 / 0.0
  else if n.exponent < 0 then Float.ofScientific n.mantissa true (-n.exponent).toNat
  else Float.ofScientific n.mantissa false n.exponent.toNat

/-- Lower case on ASCII letters only. -/
def lowerAscii (s : List Char) : List Char :=
  s.map Char.toLower

/-- An unsigned number in words or digits. -/
def unsigned? (s : List Char) : Option Float :=
  if lowerAscii s = "inf".toList || lowerAscii s = "infinity".toList then some (1.0 / 0.0)
  else if lowerAscii s = "nan".toList then some (0.0 / 0.0)
  else (numeral? s).map Numeral.toFloat

/-- The number that a text spells, infinities and NaN included. -/
def float? (s : List Char) : Option Float :=
  let (negative, rest) := takeSign s
  (unsigned? rest).map fun x => if negative then -x else x

/-- The finite number that a text spells between white space. -/
def finite? (s : List Char) : Option Float :=
  (float? (Text.trim s)).filter Float.isFinite

/-- The 64-bit integer that a text spells: a sign and digits, nothing else. -/
def int64? (s : List Char) : Option Int64 :=
  let (negative, ds) := takeSign s
  if ds.isEmpty || ds.any (!·.isDigit) then none
  else
    let n : Int := if negative then -(ofDigits ds : Int) else ofDigits ds
    if Int64.minValue.toInt ≤ n && n ≤ Int64.maxValue.toInt then some (Int64.ofInt n) else none

end SampleRecorder.Number
