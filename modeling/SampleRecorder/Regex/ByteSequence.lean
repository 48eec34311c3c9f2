import SampleRecorder.Text.CodeSet
import SampleRecorder.Text.Utf8

/-!
# Byte sequences of code points

A machine that reads bytes recognises a set of code points by sequences of byte ranges: a sequence stands for all
ways to choose one byte of each range.  `ofRange` cuts a range of code points where the length of the encoding or a
leading byte changes, so that each piece is one such sequence.
-/

namespace SampleRecorder.Regex

/-- The bytes from `low` to `high`, both included. -/
structure ByteRange where
  low : Nat
  high : Nat
  deriving DecidableEq, Repr

/-- Ranges of which one byte each follows the other. -/
abbrev ByteSequence := List ByteRange

namespace ByteSequence

/-- The bytes of a code point. -/
def bytesOf (n : Nat) : List Nat :=
  (Text.Utf8.encodeChar (Char.ofNat n)).map UInt8.toNat

/-- Where a range must be cut because its two parts differ in a byte before the last `size` values. -/
def blockCut? (low high size : Nat) : Option Nat :=
  if low / size = high / size then none
  else if low % size ≠ 0 then some ((low / size + 1) * size)
  else if high % size ≠ size - 1 then some (high / size * size)
  else none

/-- The beginning of the second part of a range that is not a single sequence. -/
def cut? (low high : Nat) : Option Nat :=
  match [0x80, 0x800, 0x10000].find? fun n => low < n && n ≤ high with
  | some n => some n
  | none => if high < 0x80 then none else [0x40, 0x1000, 0x40000].findSome? (blockCut? low high)

/-- The sequences of a range of code points without surrogates, in ascending order. -/
def ofPlainRange (low high : Nat) : List ByteSequence :=
  if high < low then []
  else
    match cut? low high with
    | none => [List.zipWith ByteRange.mk (bytesOf low) (bytesOf high)]
    | some n => if _h : low < n ∧ n ≤ high then ofPlainRange low (n - 1) ++ ofPlainRange n high else []
termination_by high + 1 - low

/-- The sequences of a range of code points, in ascending order; surrogates have none. -/
def ofRange (low high : Nat) : List ByteSequence :=
  if low < 0xE000 && 0xD7FF < high then ofPlainRange low 0xD7FF ++ ofPlainRange 0xE000 high
  else ofPlainRange low high

/-- The sequences of a set, in ascending order. -/
def ofSet (s : Text.CodeSet) : List ByteSequence :=
  s.ranges.flatMap fun (low, high) => ofRange low high

end ByteSequence

end SampleRecorder.Regex
