import SampleRecorder.Number.Shortest

/-!
# Numbers as text

Two ways to write a number: `plain`, with every zero written out and never an exponent, and `json`, the number text
of JSON documents, which always shows a point or an exponent.
-/

namespace SampleRecorder.Number

/-- The decimal digits of a natural number. -/
def digitsOf (n : Nat) : List Char :=
  Nat.toDigits 10 n

/-- The text of an integer. -/
def ofInt (n : Int) : List Char :=
  if n < 0 then '-' :: digitsOf n.natAbs else digitsOf n.natAbs

/-- A magnitude with its point written out and no exponent. -/
def Decimal.positional (d : Decimal) : List Char :=
  let ds := digitsOf d.digits
  if 0 ≤ d.exponent then ds ++ List.replicate d.exponent.toNat '0'
  else
    let places := (-d.exponent).toNat
    if places < ds.length then ds.take (ds.length - places) ++ '.' :: ds.drop (ds.length - places)
    else '0' :: '.' :: List.replicate (places - ds.length) '0' ++ ds

/-- A magnitude with one digit before the point and an exponent that always carries its sign. -/
def Decimal.scientific (d : Decimal) : List Char :=
  let ds := digitsOf d.digits
  let power := d.exponent + ds.length - 1
  let fraction := if ds.length = 1 then [] else '.' :: ds.drop 1
  ds.take 1 ++ fraction ++ 'e' :: (if power < 0 then '-' else '+') :: digitsOf power.natAbs

/-- A sign in front of a magnitude. -/
def signed (negative : Bool) (text : List Char) : List Char :=
  if negative then '-' :: text else text

/-- A number with the fewest digits that read back, all zeros written out and no point behind an integer. -/
def plain (x : Float) : List Char :=
  match parts x with
  | .nan => ['N', 'a', 'N']
  | .infinite negative => signed negative ['i', 'n', 'f']
  | .finite negative mantissa exponent =>
    if mantissa = 0 then signed negative ['0']
    else signed negative (shortest .up mantissa exponent).positional

/-- The magnitude of a JSON number: positional from `0.00001` up to below `10 ^ 16`, with `.0` behind an integer, and
with an exponent outside. -/
def Decimal.json (d : Decimal) : List Char :=
  let point := d.exponent + (digitsOf d.digits).length
  if -5 < point && point ≤ 16 then
    if 0 ≤ d.exponent then d.positional ++ ['.', '0'] else d.positional
  else d.scientific

/-- The text of a number in a JSON document; what JSON cannot write becomes `null`. -/
def json (x : Float) : List Char :=
  match parts x with
  | .finite negative mantissa exponent =>
    if mantissa = 0 then signed negative ['0', '.', '0']
    else signed negative (shortest .even mantissa exponent).json
  | _ => ['n', 'u', 'l', 'l']

end SampleRecorder.Number
