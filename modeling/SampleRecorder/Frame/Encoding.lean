import SampleRecorder.Text.Class
import SampleRecorder.Text.Utf8

/-!
# Text encodings of the line source

How text travels over a line source: UTF-8, or one byte per character for ASCII and Latin-1.
-/

namespace SampleRecorder.Frame

/-- An encoding that the source may use. -/
inductive Encoding where
  | utf8
  | ascii
  | latin1
  deriving DecidableEq, Repr

namespace Encoding

/-- The encoding with a name, in any case and between white space. -/
def ofName? (name : String) : Option Encoding :=
  match String.ofList ((Text.trim name.toList).map Char.toLower) with
  | "utf-8" | "utf8" => some utf8
  | "ascii" | "us-ascii" => some ascii
  | "latin1" | "latin-1" | "iso-8859-1" => some latin1
  | _ => none

/-- The bytes of a text; ASCII keeps the low seven bits of a character, Latin-1 writes `?` for one it lacks. -/
def encode (e : Encoding) (s : List Char) : List UInt8 :=
  match e with
  | utf8 => Text.Utf8.encode s
  | ascii => s.map fun c => UInt8.ofNat (c.toNat % 0x80)
  | latin1 => s.map fun c => if c.toNat < 0x100 then UInt8.ofNat c.toNat else 0x3F

/-- The characters that bytes complete, and the bytes that are left for later. -/
def decode (e : Encoding) (pending bytes : List UInt8) : List Char × List UInt8 :=
  match e with
  | utf8 => Text.Utf8.decode pending bytes
  | ascii => (bytes.map fun b => Char.ofNat (b.toNat % 0x80), pending)
  | latin1 => (bytes.map fun b => Char.ofNat b.toNat, pending)

end Encoding

end SampleRecorder.Frame
