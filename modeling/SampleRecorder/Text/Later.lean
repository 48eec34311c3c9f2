import SampleRecorder.Text.CaseTable
import SampleRecorder.Text.CodeSet

/-!
# The seventeenth edition

The seventeenth edition of the Unicode character database differs from the sixteenth, which the tables of the other
modules hold, by the characters listed here: each set holds the characters that have gained or lost the property, and
the runs are the case mappings that have been added.
-/

namespace SampleRecorder.Text.Later

/-- Characters that have become alphabetic. -/
def alphabetic : CodeSet := ⟨
  [0x88F, 0x890, 0xC5C, 0xC5D, 0xCDC, 0xCDD, 0xA7CE, 0xA7D0, 0xA7D2, 0xA7D3, 0xA7D4, 0xA7D5, 0xA7F1, 0xA7F2,
   0x10940, 0x1095A, 0x10EC5, 0x10EC8, 0x10EFA, 0x10EFC, 0x11B60, 0x11B68, 0x11DB0, 0x11DDC, 0x16EA0, 0x16EB9,
   0x16EBB, 0x16ED4, 0x16FF2, 0x16FF7, 0x187F8, 0x18800, 0x18D09, 0x18D1F, 0x18D80, 0x18DF3, 0x1E6C0, 0x1E6DF,
   0x1E6E0, 0x1E6F6, 0x1E6FE, 0x1E700, 0x2B73A, 0x2B740, 0x2CEA2, 0x2CEAE, 0x323B0, 0x3347A]⟩

/-- Characters that have become numbers. -/
def number : CodeSet := ⟨
  [0x11DE0, 0x11DEA, 0x16FF4, 0x16FF7]⟩

/-- Characters that have gained or lost case. -/
def cased : CodeSet := ⟨
  [0x295, 0x296, 0xA7CE, 0xA7D0, 0xA7D2, 0xA7D3, 0xA7D4, 0xA7D5, 0xA7F1, 0xA7F2, 0x16EA0, 0x16EB9, 0x16EBB,
   0x16ED4]⟩

/-- Characters that have become ignorable for case. -/
def caseIgnorable : CodeSet := ⟨
  [0x1ACF, 0x1ADE, 0x1AE0, 0x1AEC, 0xA7F1, 0xA7F2, 0x10EC5, 0x10EC6, 0x10EFA, 0x10EFC, 0x11B60, 0x11B61,
   0x11B62, 0x11B65, 0x11B66, 0x11B67, 0x11DD9, 0x11DDA, 0x16FF2, 0x16FF4, 0x1E6E3, 0x1E6E4, 0x1E6E6, 0x1E6E7,
   0x1E6EE, 0x1E6F0, 0x1E6F5, 0x1E6F6, 0x1E6FF, 0x1E700]⟩

/-- Characters that are no longer hidden. -/
def hidden : CodeSet := ⟨
  [0x88F, 0x890, 0xC5C, 0xC5D, 0xCDC, 0xCDD, 0x20C1, 0x20C2, 0x2B96, 0x2B97, 0xA7CE, 0xA7D0, 0xA7D2, 0xA7D3,
   0xA7D4, 0xA7D5, 0xA7F1, 0xA7F2, 0xFBC3, 0xFBD3, 0xFD90, 0xFD92, 0xFDC8, 0xFDCF, 0x10940, 0x1095A, 0x10EC5,
   0x10EC8, 0x10ED0, 0x10ED9, 0x11B61, 0x11B62, 0x11B65, 0x11B66, 0x11B67, 0x11B68, 0x11DB0, 0x11DDC, 0x11DE0,
   0x11DEA, 0x16EA0, 0x16EB9, 0x16EBB, 0x16ED4, 0x16FF2, 0x16FF7, 0x187F8, 0x18800, 0x18D09, 0x18D1F, 0x18D80,
   0x18DF3, 0x1CCFA, 0x1CCFD, 0x1CEBA, 0x1CED1, 0x1CEE0, 0x1CEF1, 0x1E6C0, 0x1E6DF, 0x1E6E0, 0x1E6E3, 0x1E6E4,
   0x1E6E6, 0x1E6E7, 0x1E6EE, 0x1E6F0, 0x1E6F5, 0x1E6FE, 0x1E700, 0x1F6D8, 0x1F6D9, 0x1F777, 0x1F77B, 0x1F8D0,
   0x1F8D9, 0x1FA54, 0x1FA58, 0x1FA8A, 0x1FA8B, 0x1FA8E, 0x1FA8F, 0x1FAC8, 0x1FAC9, 0x1FACD, 0x1FACE, 0x1FAEA,
   0x1FAEB, 0x1FAEF, 0x1FAF0, 0x1FBFA, 0x1FBFB, 0x2B73A, 0x2B740, 0x2CEA2, 0x2CEAE, 0x323B0, 0x3347A]⟩

/-- Uppercase mappings that have been added. -/
def upper : List Shift :=
  [⟨0xA7CF, 1, 1, -1⟩, ⟨0xA7D3, 2, 2, -1⟩, ⟨0x16EBB, 25, 1, -27⟩]

/-- Lowercase mappings that have been added. -/
def lower : List Shift :=
  [⟨0xA7CE, 1, 1, 1⟩, ⟨0xA7D2, 2, 2, 1⟩, ⟨0x16EA0, 25, 1, 27⟩]

end SampleRecorder.Text.Later
