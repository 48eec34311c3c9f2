/-!
# The exact value of a floating-point number

A finite `Float` is a sign and `mantissa * 2 ^ exponent`.  Everything that must be exact, such as dropping the
fraction, rounding to an integer or taking a remainder, is computed on this form with integers of any size.
The key fact: the mantissa of every number fits in 53 bits (`mantissa_lt`).
-/

namespace SampleRecorder.Number

/-- A power of two. -/
def twoPow (n : Nat) : Nat := Nat.pow 2 n

/-- A floating-point number taken apart. -/
inductive Parts where
  | nan
  | infinite (negative : Bool)
  | finite (negative : Bool) (mantissa : Nat) (exponent : Int)
  deriving DecidableEq, Repr

/-- The parts that a bit pattern stands for: one sign bit, eleven exponent bits and 52 fraction bits. -/
def Parts.ofBits (bits : Nat) : Parts :=
  let negative := bits / twoPow 63 % 2 == 1
  let field : Nat := bits / twoPow 52 % twoPow 11
  let fraction : Nat := bits % twoPow 52
  if field = 2047 then
    if fraction = 0 then .infinite negative else .nan
  else if field = 0 then .finite negative fraction (-1074)
  else .finite negative (twoPow 52 + fraction) ((field : Int) - 1075)

/-- The parts of a number. -/
def parts (x : Float) : Parts :=
  Parts.ofBits x.toBits.toNat

theorem mantissa_lt {bits mantissa : Nat} {negative : Bool} {exponent : Int}
    (h : Parts.ofBits bits = .finite negative mantissa exponent) : mantissa < twoPow 53 := by
  have double : twoPow 53 = 2 * twoPow 52 := by decide
  have hf : bits % twoPow 52 < twoPow 52 := Nat.mod_lt _ (by decide)
  simp only [Parts.ofBits] at h
  split at h
  · split at h <;> cases h
  · split at h <;> cases h <;> omega

/-- The magnitude of `mantissa * 2 ^ exponent` without its fraction. -/
def wholePart (mantissa : Nat) (exponent : Int) : Nat :=
  if 0 ≤ exponent then mantissa * twoPow exponent.toNat else mantissa / twoPow (-exponent).toNat

/-- Whether `mantissa * 2 ^ exponent` has no fraction. -/
def isWhole (mantissa : Nat) (exponent : Int) : Bool :=
  0 ≤ exponent || mantissa % twoPow (-exponent).toNat == 0

/-- The integer that a finite number without fraction is. -/
def toInt? (x : Float) : Option Int :=
  match parts x with
  | .finite negative mantissa exponent =>
    if isWhole mantissa exponent then
      let n := wholePart mantissa exponent
      some (if negative then -(n : Int) else n)
    else none
  | _ => none

/-- The integer nearest to `n` that 64 bits hold. -/
def saturate (n : Int) : Int64 :=
  if n < Int64.minValue.toInt then Int64.minValue
  else if Int64.maxValue.toInt < n then Int64.maxValue
  else Int64.ofInt n

/-- The number without its fraction, brought into the range of 64 bits; a NaN gives 0. -/
def truncate (x : Float) : Int64 :=
  match parts x with
  | .nan => 0
  | .infinite negative => if negative then Int64.minValue else Int64.maxValue
  | .finite negative mantissa exponent =>
    let n := wholePart mantissa exponent
    saturate (if negative then -(n : Int) else n)

/-- The number `mantissa * 2 ^ exponent`, for a mantissa below `2 ^ 53` and an exponent of at least `-1074`. -/
def ofParts (negative : Bool) (mantissa : Nat) (exponent : Int) : Float :=
  let up := min (52 - mantissa.log2) (exponent + 1074).toNat
  let m := mantissa * twoPow up
  let field := if m < twoPow 52 then 0 else (exponent - up + 1075).toNat
  Float.ofBits (UInt64.ofNat ((if negative then twoPow 63 else 0) + field * twoPow 52 + m % twoPow 52))

/-- The nearest number without fraction; a half goes away from zero. -/
def roundHalfAway (x : Float) : Float :=
  match parts x with
  | .finite negative mantissa exponent =>
    if 0 ≤ exponent then x
    else
      let unit := twoPow (-exponent).toNat
      ofParts negative ((2 * mantissa + unit) / (2 * unit)) 0
  | _ => x

/-- The remainder of `x` after division by `y` toward zero, with the sign of `x`. -/
def remainder (x y : Float) : Float :=
  match parts x, parts y with
  | .finite negative m e, .finite _ n f =>
    if n = 0 then 0.0 / 0.0
    else
      let low := min e f
      let rest := (m * twoPow (e - low).toNat) % (n * twoPow (f - low).toNat)
      ofParts negative rest low
  | .finite .., .infinite _ => x
  | _, _ => 0.0 / 0.0

end SampleRecorder.Number
