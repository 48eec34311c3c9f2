import SampleRecorder.Text.CaseTable
import SampleRecorder.Text.Category
import SampleRecorder.Text.Property

/-!
# Derived properties

Properties that the Unicode character database derives from the general categories, the listed properties and the case
mappings, each by the rule that the database states for it.  The sets are those of the sixteenth edition.
-/

namespace SampleRecorder.Text.Derived

open Category Property

/-- Lowercase characters. -/
def lowercase : CodeSet :=
  lowercaseLetter.union otherLowercase

/-- Uppercase characters. -/
def uppercase : CodeSet :=
  uppercaseLetter.union otherUppercase

/-- Alphabetic characters. -/
def alphabetic : CodeSet :=
  .unions [lowercase, uppercase, titlecaseLetter, modifierLetter, otherLetter, letterNumber, otherAlphabetic]

/-- Characters of words: letters, marks, decimal digits, connectors such as `_`, and joiners. -/
def word : CodeSet :=
  .unions [alphabetic, mark, decimalNumber, connectorPunctuation, joinControl]

/-- Characters used in mathematics. -/
def math : CodeSet :=
  mathSymbol.union otherMath

/-- ASCII hexadecimal digits. -/
def asciiHexDigit : CodeSet :=
  hexDigit.inter (.range 0 0x7F)

/-! ### Case -/

/-- Characters that have case. -/
def cased : CodeSet :=
  .unions [lowercase, uppercase, titlecaseLetter]

/-- Punctuation that may stand inside a word and does not end it, as far as case is concerned. -/
def midWord : CodeSet := ⟨
  [0x27, 0x28, 0x2E, 0x2F, 0x3A, 0x3B, 0xB7, 0xB8, 0x387, 0x388, 0x55F, 0x560, 0x5F4, 0x5F5, 0x2018, 0x201A,
   0x2024, 0x2025, 0x2027, 0x2028, 0xFE13, 0xFE14, 0xFE52, 0xFE53, 0xFE55, 0xFE56, 0xFF07, 0xFF08, 0xFF0E,
   0xFF0F, 0xFF1A, 0xFF1B]⟩

/-- Characters that are passed over where the case of the surrounding letters is asked for. -/
def caseIgnorable : CodeSet :=
  .unions [nonspacingMark, enclosingMark, format, modifierLetter, modifierSymbol, midWord]

/-- The code points that some run covers. -/
def covered (runs : List Shift) : CodeSet :=
  .ofPoints (runs.flatMap Shift.points)

/-- Characters that a lowercase mapping changes. -/
def changesWhenLowercased : CodeSet :=
  .unions [.range 0x41 0x5A, covered CaseTable.lower, .range 0x130 0x130]

/-- Characters that an uppercase mapping changes. -/
def changesWhenUppercased : CodeSet :=
  .unions [.range 0x61 0x7A, covered CaseTable.upper, .ofPoints (CaseTable.upperSpecial.map (·.1))]

/-- Letters that a titlecase mapping leaves as they are, although an uppercase mapping changes them. -/
def keptInTitles : CodeSet :=
  titlecaseLetter.union ⟨[0x10D0, 0x10FB, 0x10FD, 0x1100]⟩

/-- Capital digraphs, of which a titlecase mapping makes small the second letter. -/
def capitalDigraph : CodeSet :=
  .ofPoints [0x1C4, 0x1C7, 0x1CA, 0x1F1]

/-- Characters that a titlecase mapping changes. -/
def changesWhenTitlecased : CodeSet :=
  (changesWhenUppercased.diff keptInTitles).union capitalDigraph

/-- Characters that some case mapping changes. -/
def changesWhenCasemapped : CodeSet :=
  .unions [changesWhenLowercased, changesWhenUppercased, changesWhenTitlecased]

/-- Characters that case folding turns into several. -/
def foldedToSeveral : CodeSet := ⟨
  [0xDF, 0xE0, 0x130, 0x131, 0x149, 0x14A, 0x587, 0x588, 0x1E9A, 0x1E9B, 0x1F80, 0x1F88, 0x1F90, 0x1F98,
   0x1FA0, 0x1FA8, 0x1FB2, 0x1FB5, 0x1FB7, 0x1FB8, 0x1FC2, 0x1FC5, 0x1FC7, 0x1FC8, 0x1FF2, 0x1FF5, 0x1FF7,
   0x1FF8, 0xFB00, 0xFB05, 0xFB06, 0xFB07, 0xFB13, 0xFB18]⟩

/-- Characters that case folding changes, except where their decomposition stays the same. -/
def changesWhenCasefolded : CodeSet :=
  ((covered CaseTable.fold).union foldedToSeveral).diff (.ofPoints [0x1FBE, 0x1FD3, 0x1FE3])

/-! ### Identifiers -/

/-- Characters that languages for patterns may give a meaning. -/
def pattern : CodeSet :=
  patternSyntax.union patternWhiteSpace

/-- Characters that may start an identifier. -/
def idStart : CodeSet :=
  (CodeSet.unions [letter, letterNumber, otherIdStart]).diff pattern

/-- Characters that may continue an identifier. -/
def idContinue : CodeSet :=
  (CodeSet.unions [idStart, nonspacingMark, spacingMark, decimalNumber, connectorPunctuation, otherIdContinue]).diff
    pattern

/-- Characters whose normal form does not continue an identifier. -/
def brokenContinue : CodeSet := ⟨
  [0x37A, 0x37B, 0x309B, 0x309D, 0xFC5E, 0xFC64, 0xFDFA, 0xFDFC, 0xFE70, 0xFE71, 0xFE72, 0xFE73, 0xFE74,
   0xFE75, 0xFE76, 0xFE77, 0xFE78, 0xFE79, 0xFE7A, 0xFE7B, 0xFE7C, 0xFE7D, 0xFE7E, 0xFE7F]⟩

/-- Characters whose normal form does not start an identifier. -/
def brokenStart : CodeSet :=
  brokenContinue.union ⟨[0xE33, 0xE34, 0xEB3, 0xEB4, 0xFF9E, 0xFFA0]⟩

/-- Characters that may start an identifier in every normal form. -/
def xidStart : CodeSet :=
  idStart.diff brokenStart

/-- Characters that may continue an identifier in every normal form. -/
def xidContinue : CodeSet :=
  idContinue.diff brokenContinue

/-! ### Rendering -/

/-- Characters that join the one before them. -/
def graphemeExtend : CodeSet :=
  .unions [nonspacingMark, enclosingMark, otherGraphemeExtend]

/-- Characters that stand on their own. -/
def graphemeBase : CodeSet :=
  CodeSet.all.diff (.unions [other, lineSeparator, paragraphSeparator, graphemeExtend])

/-- Format characters that are shown although they are no letters: annotations and joiners of signs. -/
def shownFormat : CodeSet :=
  prependedMark.union ⟨[0xFFF9, 0xFFFC, 0x13430, 0x13460]⟩

/-- Characters that are not shown where nothing supports them. -/
def defaultIgnorable : CodeSet :=
  (CodeSet.unions [otherIgnorable, format, variationSelector]).diff (whiteSpace.union shownFormat)

/-- Characters that cannot be seen, the space apart. -/
def hidden : CodeSet :=
  (CodeSet.unions [other, separator, graphemeExtend, defaultIgnorable]).diff (.range 0x20 0x20)

end SampleRecorder.Text.Derived
