import SampleRecorder.Text.Derived
import SampleRecorder.Text.Later

/-!
# Character classes

The classes that the readers of this library ask for: white space, letters, digits and word characters.  Each is
decided directly on ASCII and by a table beyond it, so facts about ASCII need no table (`isLetter_ascii`).  Letters
and numbers are those of the seventeenth edition of the Unicode database; word characters and decimal digits, which
only patterns ask for, are those of the sixteenth.
-/

namespace SampleRecorder.Text

/-- White space in the sense of the Unicode property White_Space. -/
def isBlank (c : Char) : Bool :=
  let n := c.toNat
  (9 ≤ n && n ≤ 13) || n == 0x20 || n == 0x85 || n == 0xA0 || n == 0x1680 || (0x2000 ≤ n && n ≤ 0x200A) ||
    n == 0x2028 || n == 0x2029 || n == 0x202F || n == 0x205F || n == 0x3000

/-- An alphabetic character. -/
def isLetter (c : Char) : Bool :=
  if c.toNat < 0x80 then c.isAlpha else Derived.alphabetic.contains c != Later.alphabetic.contains c

/-- A number of any kind. -/
def isNumber (c : Char) : Bool :=
  if c.toNat < 0x80 then c.isDigit else Category.number.contains c != Later.number.contains c

/-- An alphabetic character or a number of any kind. -/
def isLetterOrNumber (c : Char) : Bool :=
  isLetter c || isNumber c

/-- A character of a word: a letter, a mark, a decimal digit, a connector such as `_`, or a joiner. -/
def isWord (c : Char) : Bool :=
  if c.toNat < 0x80 then c.isAlphanum || c == '_' else Derived.word.contains c

/-- A decimal digit of any script. -/
def isDecimal (c : Char) : Bool :=
  if c.toNat < 0x80 then c.isDigit else Category.decimalNumber.contains c

theorem isLetter_ascii {c : Char} (h : c.toNat < 0x80) : isLetter c = c.isAlpha := by
  simp [isLetter, h]

theorem isWord_ascii {c : Char} (h : c.toNat < 0x80) : isWord c = (c.isAlphanum || c == '_') := by
  simp [isWord, h]

/-- A text without the white space at both its ends. -/
def trim (s : List Char) : List Char :=
  ((s.dropWhile isBlank).reverse.dropWhile isBlank).reverse

end SampleRecorder.Text
