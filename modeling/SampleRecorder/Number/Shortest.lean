import SampleRecorder.Number.Binary

/-!
# The shortest decimal that reads back

Of all decimals that round to a given number, one with the fewest digits is chosen, and of those the nearest.  The
search walks decimal grids from coarse to fine and tests the two neighbours of the value on each grid, with integers
only.
-/

namespace SampleRecorder.Number

/-- A power of ten. -/
def tenPow (n : Nat) : Nat := Nat.pow 10 n

/-- The magnitude `digits * 10 ^ exponent`. -/
structure Decimal where
  digits : Nat
  exponent : Int
  deriving DecidableEq, Repr

/-- Which of two equally near neighbours is taken. -/
inductive Tie where
  | up
  | even
  deriving DecidableEq, Repr

/-- The magnitude without trailing zeros among its digits; `fuel` bounds their number. -/
def Decimal.strip : Nat → Decimal → Decimal
  | 0, d => d
  | fuel + 1, d =>
    if d.digits % 10 = 0 && d.digits != 0 then strip fuel ⟨d.digits / 10, d.exponent + 1⟩ else d

/-- An interval of magnitudes in units of `2 ^ unit`: the reals that round to `value`. -/
structure Rounding where
  value : Nat
  low : Nat
  high : Nat
  unit : Int
  closed : Bool

/-- The reals that round to `mantissa * 2 ^ exponent`: half a step to both sides, a quarter below the least mantissa
of a binade, with the ends exactly when the mantissa is even. -/
def Rounding.of (mantissa : Nat) (exponent : Int) : Rounding where
  value := 4 * mantissa
  low := 4 * mantissa - (if mantissa = twoPow 52 && exponent != -1074 then 1 else 2)
  high := 4 * mantissa + 2
  unit := exponent - 2
  closed := mantissa % 2 == 0

/-- The neighbour of the value on the grid of multiples of `10 ^ k` that lies in the interval, the nearer of two. -/
def Rounding.onGrid (r : Rounding) (tie : Tie) (k : Int) : Option Nat :=
  let a := tenPow k.toNat * twoPow (-r.unit).toNat
  let b := twoPow r.unit.toNat * tenPow (-k).toNat
  let inside (d : Nat) : Bool :=
    if r.closed then r.low * b ≤ d * a && d * a ≤ r.high * b else r.low * b < d * a && d * a < r.high * b
  let below := r.value * b / a
  let above := below + 1
  match decide (0 < below) && inside below, inside above with
  | true, false => some below
  | false, true => some above
  | false, false => none
  | true, true =>
    let left := r.value * b - below * a
    let right := above * a - r.value * b
    if left < right then some below
    else if right < left then some above
    else if tie = .even && below % 2 = 0 then some below
    else some above

/-- The first grid with a hit among `10 ^ k`, `10 ^ (k - 1)`, …; `fuel` of them are tried. -/
def Rounding.search (r : Rounding) (tie : Tie) : Nat → Int → Decimal
  | 0, k => ⟨(r.onGrid tie k).getD 0, k⟩
  | fuel + 1, k =>
    match r.onGrid tie k with
    | some d => ⟨d, k⟩
    | none => search r tie fuel (k - 1)

/-- The shortest decimal that rounds to the positive number `mantissa * 2 ^ exponent`.  The search starts at a power
of ten above the value, so that eighteen further grids reach seventeen digits. -/
def shortest (tie : Tie) (mantissa : Nat) (exponent : Int) : Decimal :=
  let top := ((mantissa.log2 : Int) + 1 + exponent) * 30103 / 100000 + 1
  ((Rounding.of mantissa exponent).search tie 20 top).strip 20

end SampleRecorder.Number
