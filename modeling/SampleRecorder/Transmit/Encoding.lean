import SampleRecorder.Frame.Encoding
import SampleRecorder.Transmit.Fault

/-!
# From commands to bytes

A command is text that is followed by a line ending, or, in the raw encoding, bytes written as pairs of hexadecimal
digits.  White space between digits has no meaning, and a single digit at the end is a byte of its own.
-/

namespace SampleRecorder.Transmit

/-- How the text of a command becomes bytes. -/
inductive Encoding where
  | utf8
  | ascii
  | raw
  deriving DecidableEq, Repr, Inhabited

namespace Encoding

/-- The name of an encoding. -/
def label : Encoding → String
  | utf8 => "utf-8"
  | ascii => "ascii"
  | raw => "raw"

/-- The encoding with a name, in any case and between white space. -/
def ofName? (name : String) : Option Encoding :=
  match String.ofList ((Text.trim name.toList).map Char.toLower) with
  | "utf-8" | "utf8" => some utf8
  | "ascii" => some ascii
  | "raw" | "hex" => some raw
  | _ => none

end Encoding

/-- The value of a hexadecimal digit. -/
def hexValue? (c : Char) : Option Nat :=
  if '0' ≤ c ∧ c ≤ '9' then some (c.toNat - 48)
  else if 'a' ≤ c ∧ c ≤ 'f' then some (c.toNat - 87)
  else if 'A' ≤ c ∧ c ≤ 'F' then some (c.toNat - 55)
  else none

/-- The value of two digits; a plus sign may stand in place of the first. -/
def pairValue? (a b : Char) : Option Nat :=
  if a = '+' then hexValue? b
  else (hexValue? a).bind fun high => (hexValue? b).map fun low => 16 * high + low

/-- The bytes that digits spell in pairs. -/
def hexBytes? : List Char → Option (List UInt8)
  | [] => some []
  | [a] => (hexValue? a).map fun n => [UInt8.ofNat n]
  | a :: b :: rest => (pairValue? a b).bind fun n => (hexBytes? rest).map (UInt8.ofNat n :: ·)

/-- The bytes of a command. -/
def encode (encoding : Encoding) (lineEnding text : String) : Except Fault (List UInt8) :=
  match encoding with
  | .utf8 => .ok (Frame.Encoding.utf8.encode (text.toList ++ lineEnding.toList))
  | .ascii => .ok (Frame.Encoding.ascii.encode (text.toList ++ lineEnding.toList))
  | .raw =>
    match hexBytes? (text.toList.filter fun c => !Text.isBlank c) with
    | some bytes => .ok bytes
    | none => .error (.notHex text)

end SampleRecorder.Transmit
