import SampleRecorder.Text.Derived
import SampleRecorder.Text.Later

/-!
# Quoted texts

A text between quotes in which every character can be seen: quotes, backslashes and line breaks are escaped by a
letter, and characters without a shape of their own by their number.  Which these are is decided by the seventeenth
edition of the Unicode database.
-/

namespace SampleRecorder.Text

/-- Whether a character is shown as it is. -/
def isShown (c : Char) : Bool :=
  if c.toNat < 0x7F then 0x20 ≤ c.toNat else Derived.hidden.contains c == Later.hidden.contains c

/-- A character as it stands between quotes. -/
def escape (c : Char) : List Char :=
  if c = '"' then ['\\', '"']
  else if c = '\\' then ['\\', '\\']
  else if c = '\n' then ['\\', 'n']
  else if c = '\r' then ['\\', 'r']
  else if c = '\t' then ['\\', 't']
  else if c = '\x00' then ['\\', '0']
  else if isShown c then [c]
  else ['\\', 'u', '\x7b'] ++ Nat.toDigits 16 c.toNat ++ ['\x7d']

/-- A text between quotes. -/
def quoted (s : String) : String :=
  String.ofList ('"' :: s.toList.flatMap escape ++ ['"'])

end SampleRecorder.Text
