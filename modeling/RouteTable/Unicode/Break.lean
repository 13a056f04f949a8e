import RouteTable.Unicode.Group
import RouteTable.Unicode.Script

namespace RouteTable.Unicode

open CharSet (table ofTables)

def ignorableUnassigned : CharSet := .diff (table defaultIgnorable) (ofTables assigned)

def clusterControls : CharSet :=
  .diff
    (.union ignorableUnassigned
      (ofTables [controls, formatCharacters, lineSeparators, paragraphSeparators]))
    (.union (.ofString "\r\n")
      (.union graphemeExtend (ofTables [joinControl, prependedConcatenationMark])))

-- Marks that stand before the letter they belong to.
def leadingMarks : List Span :=
  [⟨0xD4E, 0xD4E, 1⟩, ⟨0x111C2, 0x111C3, 1⟩, ⟨0x113D1, 0x113D1, 1⟩, ⟨0x1193F, 0x11941, 2⟩,
   ⟨0x11A3A, 0x11A3A, 1⟩, ⟨0x11A84, 0x11A89, 1⟩, ⟨0x11D46, 0x11D46, 1⟩, ⟨0x11F02, 0x11F02, 1⟩]

-- Spacing marks of South East Asia that do not join the letter before them.
def separateMarks : List Span :=
  [⟨0x102B, 0x102C, 1⟩, ⟨0x1038, 0x1038, 1⟩, ⟨0x1062, 0x1064, 1⟩, ⟨0x1067, 0x106D, 1⟩,
   ⟨0x1083, 0x1083, 1⟩, ⟨0x1087, 0x108C, 1⟩, ⟨0x108F, 0x108F, 1⟩, ⟨0x109A, 0x109C, 1⟩,
   ⟨0x1A61, 0x1A61, 1⟩, ⟨0x1A63, 0x1A64, 1⟩, ⟨0xAA7B, 0xAA7D, 2⟩, ⟨0x11720, 0x11721, 1⟩]

def joiningVowels : List Span := [⟨0xE33, 0xE33, 1⟩, ⟨0xEB3, 0xEB3, 1⟩]

def leadingJamo : List Span := [⟨0x1100, 0x115F, 1⟩, ⟨0xA960, 0xA97C, 1⟩]

def vowelJamo : List Span :=
  [⟨0x1160, 0x11A7, 1⟩, ⟨0xD7B0, 0xD7C6, 1⟩, ⟨0x16D63, 0x16D63, 1⟩, ⟨0x16D67, 0x16D6A, 1⟩]

def trailingJamo : List Span := [⟨0x11A8, 0x11FF, 1⟩, ⟨0xD7CB, 0xD7FB, 1⟩]

def hangulSyllables : List Span := [⟨0xAC00, 0xD7A3, 1⟩]

-- Every twenty-eighth syllable ends with its vowel.
def openSyllables : List Span := [⟨0xAC00, 0xD788, 28⟩]

def zeroWidthJoiner : CharSet := .single '\u200D'

def clusterBreaks : List (List String × CharSet) := [
  (["cr"], .single '\r'),
  (["lf"], .single '\n'),
  (["cn", "control"], clusterControls),
  (["ex", "extend"], .union graphemeExtend (table emojiModifier)),
  (["pp", "prepend"], ofTables [prependedConcatenationMark, leadingMarks]),
  (["sm", "spacingmark"],
    .union (table joiningVowels)
      (.diff (table spacingMarks) (.union graphemeExtend (table separateMarks)))),
  (["l"], table leadingJamo),
  (["v"], table vowelJamo),
  (["t"], table trailingJamo),
  (["lv"], table openSyllables),
  (["lvt"], .diff (table hangulSyllables) (table openSyllables)),
  (["ri", "regionalindicator"], table regionalIndicator),
  (["zwj"], zeroWidthJoiner)]

def wordExtend : CharSet :=
  .diff (.union graphemeExtend (ofTables [spacingMarks, emojiModifier])) zeroWidthJoiner

-- Signs before numbers, and signs inside them that are not digits.
def numberSigns : List Span :=
  [⟨0x600, 0x605, 1⟩, ⟨0x66B, 0x66B, 1⟩, ⟨0x6DD, 0x6DD, 1⟩, ⟨0x890, 0x891, 1⟩, ⟨0x8E2, 0x8E2, 1⟩,
   ⟨0x19DA, 0x19DA, 1⟩, ⟨0x110BD, 0x110BD, 1⟩, ⟨0x110CD, 0x110CD, 1⟩]

def arabicThousands : List Span := [⟨0x66C, 0x66C, 1⟩]

def wordKatakana : CharSet :=
  ofTables [scriptKatakana.spans,
    [⟨0x3031, 0x3035, 1⟩, ⟨0x309B, 0x309C, 1⟩, ⟨0x30A0, 0x30A0, 1⟩, ⟨0x30FC, 0x30FC, 1⟩,
     ⟨0xFF70, 0xFF70, 1⟩]]

def hebrewLetters : CharSet := .inter (table scriptHebrew.spans) (table otherLetters)

-- Scripts that do not divide their words by spaces.
def undividedScripts : List (List Span) :=
  [scriptThai, scriptLao, scriptMyanmar, scriptKhmer, scriptTaiLe, scriptNewTaiLue, scriptTaiTham,
   scriptTaiViet, scriptAhom].map (·.spans)

-- Modifier symbols and punctuation that are used like letters.
def letterlikeSigns : List Span :=
  [⟨0x2C2, 0x2C5, 1⟩, ⟨0x2D2, 0x2D7, 1⟩, ⟨0x2DE, 0x2DF, 1⟩, ⟨0x2E5, 0x2EB, 1⟩, ⟨0x2ED, 0x2ED, 1⟩,
   ⟨0x2EF, 0x2FF, 1⟩, ⟨0x55A, 0x55C, 1⟩, ⟨0x55E, 0x55E, 1⟩, ⟨0x58A, 0x58A, 1⟩, ⟨0x5F3, 0x5F3, 1⟩,
   ⟨0x70F, 0x70F, 1⟩, ⟨0xA708, 0xA716, 1⟩, ⟨0xA720, 0xA721, 1⟩, ⟨0xA789, 0xA78A, 1⟩,
   ⟨0xAB5B, 0xAB5B, 1⟩]

def wordLetters : CharSet :=
  .union (table letterlikeSigns)
    (.diff alphabetic
      (.union wordExtend (.union wordKatakana (.union hebrewLetters
        (ofTables (ideographic :: scriptHiragana.spans :: undividedScripts))))))

-- Format characters that no word class takes.
def zeroWidthSpace : List Span := [⟨0x200B, 0x200B, 1⟩]

def abbreviationMark : List Span := [⟨0x70F, 0x70F, 1⟩]

def wordBreaks : List (List String × CharSet) := [
  (["cr"], .single '\r'),
  (["lf"], .single '\n'),
  (["nl", "newline"], table [⟨0xB, 0xC, 1⟩, ⟨0x85, 0x85, 1⟩, ⟨0x2028, 0x2029, 1⟩]),
  (["extend"], wordExtend),
  (["zwj"], zeroWidthJoiner),
  (["ri", "regionalindicator"], table regionalIndicator),
  (["fo", "format"],
    .diff (table formatCharacters)
      (.union wordExtend
        (ofTables [joinControl, numberSigns, zeroWidthSpace, abbreviationMark]))),
  (["ka", "katakana"], wordKatakana),
  (["hl", "hebrewletter"], hebrewLetters),
  (["le", "aletter"], wordLetters),
  (["sq", "singlequote"], .single '\''),
  (["dq", "doublequote"], .single '"'),
  (["mb", "midnumlet"],
    table [⟨0x2E, 0x2E, 1⟩, ⟨0x2018, 0x2019, 1⟩, ⟨0x2024, 0x2024, 1⟩, ⟨0xFE52, 0xFE52, 1⟩,
      ⟨0xFF07, 0xFF07, 1⟩, ⟨0xFF0E, 0xFF0E, 1⟩]),
  (["ml", "midletter"],
    table [⟨0x3A, 0x3A, 1⟩, ⟨0xB7, 0xB7, 1⟩, ⟨0x387, 0x387, 1⟩, ⟨0x55F, 0x55F, 1⟩,
      ⟨0x5F4, 0x5F4, 1⟩, ⟨0x2027, 0x2027, 1⟩, ⟨0xFE13, 0xFE13, 1⟩, ⟨0xFE55, 0xFE55, 1⟩,
      ⟨0xFF1A, 0xFF1A, 1⟩]),
  (["mn", "midnum"],
    table [⟨0x2C, 0x2C, 1⟩, ⟨0x3B, 0x3B, 1⟩, ⟨0x37E, 0x37E, 1⟩, ⟨0x589, 0x589, 1⟩,
      ⟨0x60C, 0x60D, 1⟩, ⟨0x66C, 0x66C, 1⟩, ⟨0x7F8, 0x7F8, 1⟩, ⟨0x2044, 0x2044, 1⟩,
      ⟨0xFE50, 0xFE50, 1⟩, ⟨0xFE54, 0xFE54, 1⟩, ⟨0xFF0C, 0xFF0C, 1⟩, ⟨0xFF1B, 0xFF1B, 1⟩]),
  (["nu", "numeric"], ofTables [decimalDigits, numberSigns]),
  (["ex", "extendnumlet"], ofTables [connectorPunctuation, [⟨0x202F, 0x202F, 1⟩]]),
  (["wsegspace"], .diff (table spaceSeparators)
    (table [⟨0xA0, 0xA0, 1⟩, ⟨0x2007, 0x2007, 1⟩, ⟨0x202F, 0x202F, 1⟩]))]

def sentenceExtend : CharSet := .union graphemeExtend (ofTables [spacingMarks, joinControl])

-- The modern and the historic alphabet of Georgian have no upper and lower case in use.
def caselessGeorgianSmall : List Span := [⟨0x10D0, 0x10FA, 1⟩, ⟨0x10FD, 0x10FF, 1⟩]

def caselessGeorgianCapital : List Span := [⟨0x1C90, 0x1CBA, 1⟩, ⟨0x1CBD, 0x1CBF, 1⟩]

def sentenceLower : CharSet :=
  .diff lowercaseSet (.union graphemeExtend (table caselessGeorgianSmall))

def sentenceUpper : CharSet :=
  .diff (.union (table titlecaseLetters) uppercaseSet) (table caselessGeorgianCapital)

def fullStops : List Span :=
  [⟨0x2E, 0x2E, 1⟩, ⟨0x2024, 0x2024, 1⟩, ⟨0xFE52, 0xFE52, 1⟩, ⟨0xFF0E, 0xFF0E, 1⟩]

def sentenceSeparators : List Span := [⟨0x85, 0x85, 1⟩, ⟨0x2028, 0x2029, 1⟩]

-- Quotation marks without a category of their own.
def plainQuotes : List Span :=
  [⟨0x22, 0x22, 1⟩, ⟨0x27, 0x27, 1⟩, ⟨0x275B, 0x2760, 1⟩, ⟨0x2E00, 0x2E01, 1⟩,
   ⟨0x2E06, 0x2E08, 1⟩, ⟨0x2E0B, 0x2E0B, 1⟩, ⟨0x1F676, 0x1F678, 1⟩]

def sentenceBreaks : List (List String × CharSet) := [
  (["cr"], .single '\r'),
  (["lf"], .single '\n'),
  (["ex", "extend"], sentenceExtend),
  (["se", "sep"], table sentenceSeparators),
  (["fo", "format"],
    .diff (table formatCharacters) (.union sentenceExtend (table numberSigns))),
  (["sp"], .diff (table whiteSpace) (.union (.ofString "\r\n") (table sentenceSeparators))),
  (["lo", "lower"], sentenceLower),
  (["up", "upper"], sentenceUpper),
  (["le", "oletter"],
    .diff (.union alphabetic (.single '\u05F3'))
      (.union sentenceLower (.union sentenceUpper sentenceExtend))),
  (["nu", "numeric"], ofTables [decimalDigits, numberSigns, arabicThousands]),
  (["at", "aterm"], table fullStops),
  (["sc", "scontinue"],
    table [⟨0x2C, 0x2D, 1⟩, ⟨0x3A, 0x3B, 1⟩, ⟨0x37E, 0x37E, 1⟩, ⟨0x55D, 0x55D, 1⟩,
      ⟨0x60C, 0x60D, 1⟩, ⟨0x7F8, 0x7F8, 1⟩, ⟨0x1802, 0x1802, 1⟩, ⟨0x1808, 0x1808, 1⟩,
      ⟨0x2013, 0x2014, 1⟩, ⟨0x3001, 0x3001, 1⟩, ⟨0xFE10, 0xFE11, 1⟩, ⟨0xFE13, 0xFE14, 1⟩,
      ⟨0xFE31, 0xFE32, 1⟩, ⟨0xFE50, 0xFE51, 1⟩, ⟨0xFE54, 0xFE55, 1⟩, ⟨0xFE58, 0xFE58, 1⟩,
      ⟨0xFE63, 0xFE63, 1⟩, ⟨0xFF0C, 0xFF0D, 1⟩, ⟨0xFF1A, 0xFF1B, 1⟩, ⟨0xFF64, 0xFF64, 1⟩]),
  (["st", "sterm"], .diff (table sentenceTerminal) (table fullStops)),
  (["cl", "close"],
    ofTables [openPunctuation, closePunctuation, initialPunctuation, finalPunctuation,
      plainQuotes])]

end RouteTable.Unicode
