import SampleRecorder.Text.Derived
import SampleRecorder.Text.Script

/-!
# Boundaries of characters, words and sentences

The classes by which the Unicode rules of text segmentation divide the characters: `Grapheme` for what a reader takes
for one character, `Word` and `Sentence`.  `Grapheme.all`, `Word.all` and `Sentence.all` list them by name.  The sets
are those of the sixteenth edition.
-/

namespace SampleRecorder.Text.Break

set_option maxRecDepth 8000

open Category Property Derived

/-- The carriage return. -/
def carriageReturn : CodeSet :=
  .range 0xD 0xD

/-- The line feed. -/
def lineFeed : CodeSet :=
  .range 0xA 0xA

/-- The joiner without width. -/
def joiner : CodeSet :=
  .range 0x200D 0x200D

namespace Grapheme

/-- Controls, which stand apart from all others. -/
def control : CodeSet := ⟨
  [0x0, 0xA, 0xB, 0xD, 0xE, 0x20, 0x7F, 0xA0, 0xAD, 0xAE, 0x61C, 0x61D, 0x180E, 0x180F, 0x200B, 0x200C,
   0x200E, 0x2010, 0x2028, 0x202F, 0x2060, 0x2070, 0xFEFF, 0xFF00, 0xFFF0, 0xFFFC, 0x13430, 0x13440, 0x1BCA0,
   0x1BCA4, 0x1D173, 0x1D17B, 0xE0000, 0xE0020, 0xE0080, 0xE0100, 0xE01F0, 0xE1000]⟩

/-- Characters that join the one before them, modifiers of emoji included. -/
def extend : CodeSet :=
  graphemeExtend.union emojiModifier

/-- Leading consonants of Hangul syllables. -/
def leading : CodeSet := ⟨
  [0x1100, 0x1160, 0xA960, 0xA97D]⟩

/-- Vowels of Hangul syllables. -/
def vowel : CodeSet := ⟨
  [0x1160, 0x11A8, 0xD7B0, 0xD7C7, 0x16D63, 0x16D64, 0x16D67, 0x16D6B]⟩

/-- Trailing consonants of Hangul syllables. -/
def trailing : CodeSet := ⟨
  [0x11A8, 0x1200, 0xD7CB, 0xD7FC]⟩

/-- Hangul syllables without a trailing consonant; each is followed by its 27 syllables with one. -/
def openSyllable : CodeSet :=
  .ofPoints ((List.range 399).map fun i => 0xAC00 + 28 * i)

/-- Hangul syllables with a trailing consonant. -/
def closedSyllable : CodeSet :=
  (CodeSet.range 0xAC00 0xD7A3).diff openSyllable

/-- Characters that join the one after them, those of the writing systems of India included. -/
def prepended : CodeSet := ⟨
  [0x600, 0x606, 0x6DD, 0x6DE, 0x70F, 0x710, 0x890, 0x892, 0x8E2, 0x8E3, 0xD4E, 0xD4F, 0x110BD, 0x110BE,
   0x110CD, 0x110CE, 0x111C2, 0x111C4, 0x113D1, 0x113D2, 0x1193F, 0x11940, 0x11941, 0x11942, 0x11A3A, 0x11A3B,
   0x11A84, 0x11A8A, 0x11D46, 0x11D47, 0x11F02, 0x11F03]⟩

/-- Spacing marks that stand on their own all the same. -/
def nonspacing : CodeSet := ⟨
  [0x102B, 0x102D, 0x1038, 0x1039, 0x1062, 0x1065, 0x1067, 0x106E, 0x1083, 0x1084, 0x1087, 0x108D, 0x108F,
   0x1090, 0x109A, 0x109D, 0x1A61, 0x1A62, 0x1A63, 0x1A65, 0xAA7B, 0xAA7C, 0xAA7D, 0xAA7E, 0x11720, 0x11722]⟩

/-- Spacing marks that join the character before them. -/
def spacing : CodeSet :=
  (spacingMark.diff (graphemeExtend.union nonspacing)).union ⟨[0xE33, 0xE34, 0xEB3, 0xEB4]⟩

/-- Every class under its names, in lower case and without separators. -/
def all : List (List String × CodeSet) :=
  [(["cn", "control"], control), (["cr"], carriageReturn), (["lf"], lineFeed), (["ex", "extend"], extend),
   (["l"], leading), (["v"], vowel), (["t"], trailing), (["lv"], openSyllable), (["lvt"], closedSyllable),
   (["pp", "prepend"], prepended), (["ri", "regionalindicator"], regionalIndicator), (["sm", "spacingmark"], spacing),
   (["zwj"], joiner)]

end Grapheme

namespace Word

/-- Line terminators other than carriage return and line feed. -/
def newline : CodeSet := ⟨
  [0xB, 0xD, 0x85, 0x86, 0x2028, 0x202A]⟩

/-- Characters that join the one before them, spacing marks included. -/
def extend : CodeSet :=
  Grapheme.extend.union spacingMark

/-- Format characters that do not break words. -/
def format : CodeSet := ⟨
  [0xAD, 0xAE, 0x61C, 0x61D, 0x180E, 0x180F, 0x200E, 0x2010, 0x202A, 0x202F, 0x2060, 0x2065, 0x2066, 0x2070,
   0xFEFF, 0xFF00, 0xFFF9, 0xFFFC, 0x13430, 0x13440, 0x1BCA0, 0x1BCA4, 0x1D173, 0x1D17B, 0xE0001, 0xE0002]⟩

/-- Katakana and the signs used with it. -/
def katakana : CodeSet := ⟨
  [0x3031, 0x3036, 0x309B, 0x309D, 0x30A0, 0x30FB, 0x30FC, 0x3100, 0x31F0, 0x3200, 0x32D0, 0x32FF, 0x3300,
   0x3358, 0xFF66, 0xFF9E, 0x1AFF0, 0x1AFF4, 0x1AFF5, 0x1AFFC, 0x1AFFD, 0x1AFFF, 0x1B000, 0x1B001, 0x1B120,
   0x1B123, 0x1B155, 0x1B156, 0x1B164, 0x1B168]⟩

/-- Hebrew letters. -/
def hebrewLetter : CodeSet :=
  Script.hebrew.inter otherLetter

/-- Letters of scripts that are written without spaces. -/
def complexLetter : CodeSet := ⟨
  [0xE01, 0xE31, 0xE32, 0xE34, 0xE40, 0xE47, 0xE81, 0xE83, 0xE84, 0xE85, 0xE86, 0xE8B, 0xE8C, 0xEA4, 0xEA5,
   0xEA6, 0xEA7, 0xEB1, 0xEB2, 0xEB4, 0xEBD, 0xEBE, 0xEC0, 0xEC5, 0xEC6, 0xEC7, 0xEDC, 0xEE0, 0x1000, 0x102B,
   0x103F, 0x1040, 0x1050, 0x1056, 0x105A, 0x105E, 0x1061, 0x1062, 0x1065, 0x1067, 0x106E, 0x1071, 0x1075,
   0x1082, 0x108E, 0x108F, 0x1780, 0x17B4, 0x17D7, 0x17D8, 0x17DC, 0x17DD, 0x1950, 0x196E, 0x1970, 0x1975,
   0x1980, 0x19AC, 0x19B0, 0x19CA, 0x1A20, 0x1A55, 0x1AA7, 0x1AA8, 0xA9E0, 0xA9E5, 0xA9E6, 0xA9F0, 0xA9FA,
   0xA9FF, 0xAA60, 0xAA77, 0xAA7A, 0xAA7B, 0xAA7E, 0xAAB0, 0xAAB1, 0xAAB2, 0xAAB5, 0xAAB7, 0xAAB9, 0xAABE,
   0xAAC0, 0xAAC1, 0xAAC2, 0xAAC3, 0xAADB, 0xAADE, 0x11700, 0x1171B, 0x11740, 0x11747]⟩

/-- Signs that count as letters in words. -/
def letterLike : CodeSet := ⟨
  [0x2C2, 0x2C6, 0x2D2, 0x2D8, 0x2DE, 0x2E0, 0x2E5, 0x2EC, 0x2ED, 0x2EE, 0x2EF, 0x300, 0x55A, 0x55D, 0x55E,
   0x55F, 0x58A, 0x58B, 0x5F3, 0x5F4, 0x70F, 0x710, 0xA708, 0xA717, 0xA720, 0xA722, 0xA789, 0xA78B, 0xAB5B,
   0xAB5C]⟩

/-- Letters of scripts that put spaces between words. -/
def letter : CodeSet :=
  (alphabetic.diff (.unions [ideographic, katakana, Script.hiragana, extend, hebrewLetter, complexLetter])).union
    letterLike

/-- Punctuation inside words. -/
def midLetter : CodeSet := ⟨
  [0x3A, 0x3B, 0xB7, 0xB8, 0x387, 0x388, 0x55F, 0x560, 0x5F4, 0x5F5, 0x2027, 0x2028, 0xFE13, 0xFE14, 0xFE55,
   0xFE56, 0xFF1A, 0xFF1B]⟩

/-- Punctuation inside numbers. -/
def midNumber : CodeSet := ⟨
  [0x2C, 0x2D, 0x3B, 0x3C, 0x37E, 0x37F, 0x589, 0x58A, 0x60C, 0x60E, 0x66C, 0x66D, 0x7F8, 0x7F9, 0x2044,
   0x2045, 0xFE50, 0xFE51, 0xFE54, 0xFE55, 0xFF0C, 0xFF0D, 0xFF1B, 0xFF1C]⟩

/-- Punctuation inside words and numbers. -/
def midNumberLetter : CodeSet := ⟨
  [0x2E, 0x2F, 0x2018, 0x201A, 0x2024, 0x2025, 0xFE52, 0xFE53, 0xFF07, 0xFF08, 0xFF0E, 0xFF0F]⟩

/-- Digits, and signs that are part of numbers. -/
def numeric : CodeSet :=
  decimalNumber.union ⟨
    [0x600, 0x606, 0x66B, 0x66C, 0x6DD, 0x6DE, 0x890, 0x892, 0x8E2, 0x8E3, 0x19DA, 0x19DB, 0x110BD, 0x110BE,
     0x110CD, 0x110CE]⟩

/-- Connectors of letters and digits. -/
def connector : CodeSet :=
  connectorPunctuation.union (.range 0x202F 0x202F)

/-- Spaces at which a line may be broken. -/
def space : CodeSet :=
  spaceSeparator.diff (.ofPoints [0xA0, 0x2007, 0x202F])

/-- Every class under its names, in lower case and without separators. -/
def all : List (List String × CodeSet) :=
  [(["le", "aletter"], letter), (["cr"], carriageReturn), (["lf"], lineFeed), (["newline", "nl"], newline),
   (["dq", "doublequote"], .range 0x22 0x22), (["sq", "singlequote"], .range 0x27 0x27), (["extend"], extend),
   (["ex", "extendnumlet"], connector), (["fo", "format"], format), (["hl", "hebrewletter"], hebrewLetter),
   (["ka", "katakana"], katakana), (["ml", "midletter"], midLetter), (["mn", "midnum"], midNumber),
   (["mb", "midnumlet"], midNumberLetter), (["nu", "numeric"], numeric),
   (["ri", "regionalindicator"], regionalIndicator), (["wsegspace"], space), (["zwj"], joiner)]

end Word

namespace Sentence

/-- Characters that join the one before them, joiners and spacing marks included. -/
def extend : CodeSet :=
  .unions [graphemeExtend, spacingMark, joiner]

/-- Format characters that do not break sentences. -/
def format : CodeSet := ⟨
  [0xAD, 0xAE, 0x61C, 0x61D, 0x70F, 0x710, 0x180E, 0x180F, 0x200B, 0x200C, 0x200E, 0x2010, 0x202A, 0x202F,
   0x2060, 0x2065, 0x2066, 0x2070, 0xFEFF, 0xFF00, 0xFFF9, 0xFFFC, 0x13430, 0x13440, 0x1BCA0, 0x1BCA4,
   0x1D173, 0x1D17B, 0xE0001, 0xE0002]⟩

/-- Lowercase letters. -/
def lower : CodeSet :=
  lowercase.diff (extend.union ⟨[0x10D0, 0x10FB, 0x10FD, 0x1100]⟩)

/-- Uppercase and titlecase letters. -/
def upper : CodeSet :=
  (uppercase.union titlecaseLetter).diff ⟨[0x1C90, 0x1CBB, 0x1CBD, 0x1CC0]⟩

/-- Letters without case. -/
def otherLetter : CodeSet :=
  (alphabetic.diff (.unions [lower, upper, extend])).union (.range 0x5F3 0x5F3)

/-- Digits, and signs that are part of numbers. -/
def numeric : CodeSet :=
  Word.numeric.union (.range 0x66C 0x66C)

/-- Full stops, which need not end a sentence. -/
def fullStop : CodeSet :=
  .ofPoints [0x2E, 0x2024, 0xFE52, 0xFF0E]

/-- Punctuation that always ends a sentence. -/
def terminal : CodeSet :=
  sentenceTerminal.diff fullStop

/-- Punctuation after which a sentence goes on. -/
def continuation : CodeSet := ⟨
  [0x2C, 0x2E, 0x3A, 0x3C, 0x37E, 0x37F, 0x55D, 0x55E, 0x60C, 0x60E, 0x7F8, 0x7F9, 0x1802, 0x1803, 0x1808,
   0x1809, 0x2013, 0x2015, 0x3001, 0x3002, 0xFE10, 0xFE12, 0xFE13, 0xFE15, 0xFE31, 0xFE33, 0xFE50, 0xFE52,
   0xFE54, 0xFE56, 0xFE58, 0xFE59, 0xFE63, 0xFE64, 0xFF0C, 0xFF0E, 0xFF1A, 0xFF1C, 0xFF64, 0xFF65]⟩

/-- Line terminators other than carriage return and line feed. -/
def separator : CodeSet :=
  .ofPoints [0x85, 0x2028, 0x2029]

/-- White space within a line. -/
def space : CodeSet :=
  whiteSpace.diff (.unions [separator, carriageReturn, lineFeed])

/-- Ornaments that are used as brackets and quotation marks. -/
def ornament : CodeSet :=
  ⟨[0x275B, 0x2761, 0x2E00, 0x2E02, 0x2E06, 0x2E09, 0x2E0B, 0x2E0C, 0x1F676, 0x1F679]⟩

/-- Brackets and quotation marks. -/
def close : CodeSet :=
  (CodeSet.unions [openPunctuation, closePunctuation, initialPunctuation, finalPunctuation, quotationMark,
    ornament]).diff (.ofPoints [0xFF02, 0xFF07])

/-- Every class under its names, in lower case and without separators. -/
def all : List (List String × CodeSet) :=
  [(["at", "aterm"], fullStop), (["cl", "close"], close), (["cr"], carriageReturn), (["lf"], lineFeed),
   (["ex", "extend"], extend), (["fo", "format"], format), (["le", "oletter"], otherLetter), (["lo", "lower"], lower),
   (["nu", "numeric"], numeric), (["sc", "scontinue"], continuation), (["se", "sep"], separator), (["sp"], space),
   (["st", "sterm"], terminal), (["up", "upper"], upper)]

end Sentence

end SampleRecorder.Text.Break
