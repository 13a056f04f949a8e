import RouteTable.Text.Basic
import RouteTable.Unicode.Age
import RouteTable.Unicode.Break

namespace RouteTable.Unicode

open CharSet (table ofTables)

def patternCharacters : CharSet := ofTables [patternSyntax, patternWhiteSpace]

def idStart : CharSet :=
  .diff (ofTables (letters ++ [letterNumbers, otherIdStart])) patternCharacters

def idContinue : CharSet :=
  .diff
    (.union idStart (ofTables
      [nonspacingMarks, spacingMarks, decimalDigits, connectorPunctuation, otherIdContinue]))
    patternCharacters

def binaryProperties : List (List String × CharSet) := [
  (["asciihexdigit", "ahex"], table asciiHexDigit),
  (["alphabetic", "alpha"], alphabetic),
  (["bidicontrol", "bidic"], table bidiControl),
  (["bidimirrored", "bidim"], table bidiMirrored),
  (["caseignorable", "ci"],
    ofTables [nonspacingMarks, enclosingMarks, formatCharacters, modifierLetters, modifierSymbols,
      otherCaseIgnorable]),
  (["cased"], .union (table titlecaseLetters) (.union lowercaseSet uppercaseSet)),
  (["changeswhencasefolded", "cwcf"], table changesWhenCasefolded),
  (["changeswhencasemapped", "cwcm"], table changesWhenCasemapped),
  (["changeswhenlowercased", "cwl"], table changesWhenLowercased),
  (["changeswhentitlecased", "cwt"], table changesWhenTitlecased),
  (["changeswhenuppercased", "cwu"], table changesWhenUppercased),
  (["dash"], table dash),
  (["defaultignorablecodepoint", "di"], table defaultIgnorable),
  (["deprecated", "dep"], table deprecatedCharacters),
  (["diacritic", "dia"], table diacritic),
  (["emoji"], table emoji),
  (["emojicomponent", "ecomp"], table emojiComponent),
  (["emojimodifier", "emod"], table emojiModifier),
  (["emojimodifierbase", "ebase"], table emojiModifierBase),
  (["emojipresentation", "epres"], table emojiPresentation),
  (["extendedpictographic", "extpict"], table extendedPictographic),
  (["extender", "ext"], table extender),
  (["graphemebase", "grbase"],
    .diff (ofTables (letters ++ marks ++ numbers ++ punctuation ++ symbols ++ [spaceSeparators]))
      graphemeExtend),
  (["graphemeextend", "grext"], graphemeExtend),
  (["graphemelink", "grlink"], table graphemeLink),
  (["hexdigit", "hex"], table hexDigit),
  (["hyphen"], table hyphen),
  (["idcompatmathcontinue"], table idCompatMathContinue),
  (["idcompatmathstart"], table idCompatMathStart),
  (["idsbinaryoperator", "idsb"], table idsBinaryOperator),
  (["idstrinaryoperator", "idst"], table idsTrinaryOperator),
  (["idsunaryoperator", "idsu"], table idsUnaryOperator),
  (["idcontinue", "idc"], idContinue),
  (["idstart", "ids"], idStart),
  (["ideographic", "ideo"], table ideographic),
  (["joincontrol", "joinc"], table joinControl),
  (["logicalorderexception", "loe"], table logicalOrderException),
  (["lowercase", "lower"], lowercaseSet),
  (["math"], ofTables [mathSymbols, otherMath]),
  (["modifiercombiningmark", "mcm"], table modifierCombiningMark),
  (["noncharactercodepoint", "nchar"], table noncharacters),
  (["otheralphabetic", "oalpha"], table otherAlphabetic),
  (["otherdefaultignorablecodepoint", "odi"], table otherDefaultIgnorable),
  (["othergraphemeextend", "ogrext"], table otherGraphemeExtend),
  (["otheridcontinue", "oidc"], table otherIdContinue),
  (["otheridstart", "oids"], table otherIdStart),
  (["otherlowercase", "olower"], table otherLowercase),
  (["othermath", "omath"], table otherMath),
  (["otheruppercase", "oupper"], table otherUppercase),
  (["patternsyntax", "patsyn"], table patternSyntax),
  (["patternwhitespace", "patws"], table patternWhiteSpace),
  (["prependedconcatenationmark", "pcm"], table prependedConcatenationMark),
  (["quotationmark", "qmark"], table quotationMark),
  (["radical"], table radical),
  (["regionalindicator", "ri"], table regionalIndicator),
  (["sentenceterminal", "sterm"], table sentenceTerminal),
  (["softdotted", "sd"], table softDotted),
  (["terminalpunctuation", "term"], table terminalPunctuation),
  (["unifiedideograph", "uideo"], table unifiedIdeograph),
  (["uppercase", "upper"], uppercaseSet),
  (["variationselector", "vs"], table variationSelector),
  (["whitespace", "wspace", "space"], table whiteSpace),
  (["xidcontinue", "xidc"], .diff idContinue (table idContinueNotXid)),
  (["xidstart", "xids"], .diff idStart (table idStartNotXid))]

def generalCategories : List (List String × CharSet) := [
  (["any"], .all),
  (["ascii"], .ascii),
  (["assigned"], ofTables assigned),
  (["cn", "unassigned"], .compl (ofTables assigned)),
  (["c", "other"],
    .union (ofTables [controls, formatCharacters, privateUse, surrogates])
      (.compl (ofTables assigned))),
  (["cc", "control", "cntrl"], table controls),
  (["cf", "format"], table formatCharacters),
  (["co", "privateuse"], table privateUse),
  (["l", "letter"], ofTables letters),
  (["lc", "casedletter"], ofTables [uppercaseLetters, lowercaseLetters, titlecaseLetters]),
  (["ll", "lowercaseletter"], table lowercaseLetters),
  (["lm", "modifierletter"], table modifierLetters),
  (["lo", "otherletter"], table otherLetters),
  (["lt", "titlecaseletter"], table titlecaseLetters),
  (["lu", "uppercaseletter"], table uppercaseLetters),
  (["m", "mark", "combiningmark"], ofTables marks),
  (["mc", "spacingmark"], table spacingMarks),
  (["me", "enclosingmark"], table enclosingMarks),
  (["mn", "nonspacingmark"], table nonspacingMarks),
  (["n", "number"], ofTables numbers),
  (["nd", "decimalnumber", "digit"], table decimalDigits),
  (["nl", "letternumber"], table letterNumbers),
  (["no", "othernumber"], table otherNumbers),
  (["p", "punctuation", "punct"], ofTables punctuation),
  (["pc", "connectorpunctuation"], table connectorPunctuation),
  (["pd", "dashpunctuation"], table dashPunctuation),
  (["pe", "closepunctuation"], table closePunctuation),
  (["pf", "finalpunctuation"], table finalPunctuation),
  (["pi", "initialpunctuation"], table initialPunctuation),
  (["po", "otherpunctuation"], table otherPunctuation),
  (["ps", "openpunctuation"], table openPunctuation),
  (["s", "symbol"], ofTables symbols),
  (["sc", "currencysymbol"], table currencySymbols),
  (["sk", "modifiersymbol"], table modifierSymbols),
  (["sm", "mathsymbol"], table mathSymbols),
  (["so", "othersymbol"], table otherSymbols),
  (["z", "separator"], ofTables separators),
  (["zl", "lineseparator"], table lineSeparators),
  (["zp", "paragraphseparator"], table paragraphSeparators),
  (["zs", "spaceseparator"], table spaceSeparators)]

def named (name : Text) (entries : List (List String × CharSet)) : Option CharSet :=
  (entries.find? fun entry => entry.1.any (·.toList = name)).map (·.2)

def script? (name : Text) : Option Script :=
  scripts.find? fun script => script.names.any (·.toList = name)

def Script.members (script : Script) : CharSet := table script.spans

def Script.users (script : Script) : CharSet :=
  .diff (ofTables [script.spans, script.shared]) (table script.lent)

def introducedBy? (name : Text) : Option CharSet :=
  let published := versions.span fun version => !version.names.any (·.toList = name)
  published.2.head?.map fun version =>
    ofTables (version.introduced :: published.1.map (·.introduced))

-- The loose form of a name. The abbreviation `isc` keeps its `is`: one letter alone would remain.
def looseName (name : Text) : Text :=
  let shortened := ["is", "IS", "iS", "Is"].findSome? fun lead =>
    if lead.toList.isPrefixOf name then some (name.drop 2) else none
  let loose := ((shortened.getD name).filter fun c =>
    c.toNat < 0x80 && c != ' ' && c != '_' && c != '-').map Char.toLower
  if shortened.isSome && loose = ['c'] then "isc" else loose

-- A name alone is a binary property, else a general category, else a script. Three abbreviations
-- are shared between a property and a category, and stand for the category.
def property? (name : Text) : Option CharSet :=
  let loose := looseName name
  (named loose binaryProperties).or ((named loose generalCategories).or
    ((script? loose).map (·.members)))

def valuedProperties : List (List String × (Text → Option CharSet)) := [
  (["gc", "generalcategory"], fun value => named value generalCategories),
  (["sc", "script"], fun value => (script? value).map (·.members)),
  (["scx", "scriptextensions"], fun value => (script? value).map (·.users)),
  (["age"], introducedBy?),
  (["gcb", "graphemeclusterbreak"], fun value => named value clusterBreaks),
  (["wb", "wordbreak"], fun value => named value wordBreaks),
  (["sb", "sentencebreak"], fun value => named value sentenceBreaks)]

def propertyValue? (name value : Text) : Option CharSet := do
  let loose := looseName name
  let property ← valuedProperties.find? fun entry => entry.1.any (·.toList = loose)
  property.2 (looseName value)

end RouteTable.Unicode
