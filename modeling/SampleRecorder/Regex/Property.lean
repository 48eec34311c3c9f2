import SampleRecorder.Text.Age
import SampleRecorder.Text.Break
import SampleRecorder.Text.ScriptExtension

/-!
# Named character properties

The names that a pattern may write in `\p` with braces, or as a bracketed class name between colons, and the sets
they stand for.  Property names are compared without case, white space, hyphens and underscores.
-/

namespace SampleRecorder.Regex.Property

open SampleRecorder.Text

/-- The general categories under their codes and names, and the groups of categories under theirs. -/
def categories : List (List String × CodeSet) :=
  [(["any"], .all), (["ascii"], .range 0 0x7F), (["assigned"], Category.unassigned.compl),
   (["lu", "uppercaseletter"], Category.uppercaseLetter), (["ll", "lowercaseletter"], Category.lowercaseLetter),
   (["lt", "titlecaseletter"], Category.titlecaseLetter), (["lc", "casedletter"], Category.casedLetter),
   (["lm", "modifierletter"], Category.modifierLetter), (["lo", "otherletter"], Category.otherLetter),
   (["l", "letter"], Category.letter), (["mn", "nonspacingmark"], Category.nonspacingMark),
   (["mc", "spacingmark"], Category.spacingMark), (["me", "enclosingmark"], Category.enclosingMark),
   (["m", "mark", "combiningmark"], Category.mark), (["nd", "decimalnumber", "digit"], Category.decimalNumber),
   (["nl", "letternumber"], Category.letterNumber), (["no", "othernumber"], Category.otherNumber),
   (["n", "number"], Category.number), (["pc", "connectorpunctuation"], Category.connectorPunctuation),
   (["pd", "dashpunctuation"], Category.dashPunctuation), (["ps", "openpunctuation"], Category.openPunctuation),
   (["pe", "closepunctuation"], Category.closePunctuation),
   (["pi", "initialpunctuation"], Category.initialPunctuation),
   (["pf", "finalpunctuation"], Category.finalPunctuation), (["po", "otherpunctuation"], Category.otherPunctuation),
   (["p", "punctuation", "punct"], Category.punctuation), (["sm", "mathsymbol"], Category.mathSymbol),
   (["sc", "currencysymbol"], Category.currencySymbol), (["sk", "modifiersymbol"], Category.modifierSymbol),
   (["so", "othersymbol"], Category.otherSymbol), (["s", "symbol"], Category.symbol),
   (["zs", "spaceseparator"], Category.spaceSeparator), (["zl", "lineseparator"], Category.lineSeparator),
   (["zp", "paragraphseparator"], Category.paragraphSeparator), (["z", "separator"], Category.separator),
   (["cc", "control", "cntrl"], Category.control), (["cf", "format"], Category.format),
   (["co", "privateuse"], Category.privateUse), (["cn", "unassigned"], Category.unassigned),
   (["c", "other"], Category.other)]

/-- The properties that a character has or has not, under their short and their long names. -/
def binary : List (List String × CodeSet) :=
  [(["alpha", "alphabetic"], Derived.alphabetic), (["upper", "uppercase"], Derived.uppercase),
   (["lower", "lowercase"], Derived.lowercase), (["math"], Derived.math), (["cased"], Derived.cased),
   (["ci", "caseignorable"], Derived.caseIgnorable),
   (["cwl", "changeswhenlowercased"], Derived.changesWhenLowercased),
   (["cwu", "changeswhenuppercased"], Derived.changesWhenUppercased),
   (["cwt", "changeswhentitlecased"], Derived.changesWhenTitlecased),
   (["cwcf", "changeswhencasefolded"], Derived.changesWhenCasefolded),
   (["cwcm", "changeswhencasemapped"], Derived.changesWhenCasemapped), (["ids", "idstart"], Derived.idStart),
   (["idc", "idcontinue"], Derived.idContinue), (["xids", "xidstart"], Derived.xidStart),
   (["xidc", "xidcontinue"], Derived.xidContinue), (["grbase", "graphemebase"], Derived.graphemeBase),
   (["grext", "graphemeextend"], Derived.graphemeExtend),
   (["di", "defaultignorablecodepoint"], Derived.defaultIgnorable),
   (["ahex", "asciihexdigit"], Derived.asciiHexDigit), (["hex", "hexdigit"], Property.hexDigit),
   (["wspace", "whitespace", "space"], Property.whiteSpace), (["bidic", "bidicontrol"], Property.bidiControl),
   (["bidim", "bidimirrored"], Property.bidiMirrored), (["dash"], Property.dash), (["hyphen"], Property.hyphen),
   (["dep", "deprecated"], Property.deprecated), (["dia", "diacritic"], Property.diacritic),
   (["emoji"], Property.emoji), (["ecomp", "emojicomponent"], Property.emojiComponent),
   (["emod", "emojimodifier"], Property.emojiModifier), (["ebase", "emojimodifierbase"], Property.emojiModifierBase),
   (["epres", "emojipresentation"], Property.emojiPresentation),
   (["extpict", "extendedpictographic"], Property.extendedPictographic), (["ext", "extender"], Property.extender),
   (["grlink", "graphemelink"], Property.graphemeLink), (["idsb", "idsbinaryoperator"], Property.idsBinaryOperator),
   (["idst", "idstrinaryoperator"], Property.idsTrinaryOperator),
   (["idsu", "idsunaryoperator"], Property.idsUnaryOperator), (["idcompatmathcontinue"], Property.mathContinue),
   (["idcompatmathstart"], Property.mathStart), (["ideo", "ideographic"], Property.ideographic),
   (["uideo", "unifiedideograph"], Property.unifiedIdeograph), (["radical"], Property.radical),
   (["joinc", "joincontrol"], Property.joinControl),
   (["loe", "logicalorderexception"], Property.logicalOrderException),
   (["mcm", "modifiercombiningmark"], Property.modifierCombiningMark),
   (["nchar", "noncharactercodepoint"], Property.noncharacter),
   (["oalpha", "otheralphabetic"], Property.otherAlphabetic),
   (["odi", "otherdefaultignorablecodepoint"], Property.otherIgnorable),
   (["ogrext", "othergraphemeextend"], Property.otherGraphemeExtend),
   (["oidc", "otheridcontinue"], Property.otherIdContinue), (["oids", "otheridstart"], Property.otherIdStart),
   (["olower", "otherlowercase"], Property.otherLowercase), (["omath", "othermath"], Property.otherMath),
   (["oupper", "otheruppercase"], Property.otherUppercase), (["patsyn", "patternsyntax"], Property.patternSyntax),
   (["patws", "patternwhitespace"], Property.patternWhiteSpace),
   (["pcm", "prependedconcatenationmark"], Property.prependedMark),
   (["qmark", "quotationmark"], Property.quotationMark), (["ri", "regionalindicator"], Property.regionalIndicator),
   (["sterm", "sentenceterminal"], Property.sentenceTerminal), (["sd", "softdotted"], Property.softDotted),
   (["term", "terminalpunctuation"], Property.terminalPunctuation),
   (["vs", "variationselector"], Property.variationSelector)]

/-- The set that is listed under a name. -/
def lookup (name : String) (entries : List (List String × CodeSet)) : Option CodeSet :=
  (entries.find? fun entry => entry.1.contains name).map (·.2)

/-- The long name of a script for one of its other names. -/
def scriptName : String → String
  | "qaac" => "coptic"
  | "qaai" => "inherited"
  | name => name

/-- Whether a value names an edition, whose number is written `6.0` or `v60`. -/
def isEdition (number value : String) : Bool :=
  value == number || value == "v" ++ String.ofList (number.toList.filter (· != '.'))

/-- The characters up to and with the edition that a value names. -/
def age? (value : String) : Option CodeSet :=
  (Age.additions.find? fun entry => isEdition entry.1 value).bind fun entry => Age.upTo? entry.1

/-- A name in the form that is compared: lower case, without separators and without a leading `is`. -/
def normalize (name : List Char) : String :=
  let kept := (name.filter fun c => c.toNat < 0x80 && c != ' ' && c != '_' && c != '-').map Char.toLower
  match name.map Char.toLower, kept with
  | 'i' :: 's' :: _, 'i' :: 's' :: rest => if rest = ['c'] then "isc" else String.ofList rest
  | _, _ => String.ofList kept

/-- The set that a single name stands for: a property, a general category or a script. -/
def named? (name : List Char) : Option CodeSet :=
  let key := normalize name
  lookup key binary <|> lookup key categories <|> Script.find? (scriptName key)

/-- The set that a property with a value stands for. -/
def valued? (property value : List Char) : Option CodeSet :=
  let key := normalize value
  match normalize property with
  | "gc" | "generalcategory" => lookup key categories
  | "sc" | "script" => Script.find? (scriptName key)
  | "scx" | "scriptextensions" => ScriptExtension.find? (scriptName key)
  | "age" => age? key
  | "gcb" | "graphemeclusterbreak" => lookup key Break.Grapheme.all
  | "wb" | "wordbreak" => lookup key Break.Word.all
  | "sb" | "sentencebreak" => lookup key Break.Sentence.all
  | _ => none

/-- The set that the text between the braces of `\p` stands for.  Between a property and its value stands a colon, an
equals sign, or `!=`, which is read like an equals sign. -/
def find? (text : List Char) : Option CodeSet :=
  match text.span (· != '=') with
  | (left, '=' :: right) =>
    if left.getLast? = some '!' then valued? left.dropLast right
    else
      match left.span (· != ':') with
      | (before, ':' :: after) => valued? before (after ++ '=' :: right)
      | _ => valued? left right
  | _ =>
    match text.span (· != ':') with
    | (left, ':' :: right) => valued? left right
    | _ => named? text

/-- The ASCII classes that are written between colons inside brackets. -/
def posix? : String → Option CodeSet
  | "alnum" => some ⟨[0x30, 0x3A, 0x41, 0x5B, 0x61, 0x7B]⟩
  | "alpha" => some ⟨[0x41, 0x5B, 0x61, 0x7B]⟩
  | "ascii" => some (.range 0 0x7F)
  | "blank" => some (.ofList ['\t', ' '])
  | "cntrl" => some ⟨[0, 0x20, 0x7F, 0x80]⟩
  | "digit" => some (.range 0x30 0x39)
  | "graph" => some (.range 0x21 0x7E)
  | "lower" => some (.range 0x61 0x7A)
  | "print" => some (.range 0x20 0x7E)
  | "punct" => some ⟨[0x21, 0x30, 0x3A, 0x41, 0x5B, 0x61, 0x7B, 0x7F]⟩
  | "space" => some ⟨[0x9, 0xE, 0x20, 0x21]⟩
  | "upper" => some (.range 0x41 0x5A)
  | "word" => some ⟨[0x30, 0x3A, 0x41, 0x5B, 0x5F, 0x60, 0x61, 0x7B]⟩
  | "xdigit" => some ⟨[0x30, 0x3A, 0x41, 0x47, 0x61, 0x67]⟩
  | _ => none

end SampleRecorder.Regex.Property
