import RouteTable.Unicode.Binary
import RouteTable.Unicode.Category
import RouteTable.Unicode.CharSet

namespace RouteTable.Unicode

open CharSet (table ofTables)

def letters : List (List Span) :=
  [uppercaseLetters, lowercaseLetters, titlecaseLetters, modifierLetters, otherLetters]

def marks : List (List Span) := [nonspacingMarks, spacingMarks, enclosingMarks]

def numbers : List (List Span) := [decimalDigits, letterNumbers, otherNumbers]

def punctuation : List (List Span) :=
  [connectorPunctuation, dashPunctuation, openPunctuation, closePunctuation, initialPunctuation,
   finalPunctuation, otherPunctuation]

def symbols : List (List Span) := [mathSymbols, currencySymbols, modifierSymbols, otherSymbols]

def separators : List (List Span) := [spaceSeparators, lineSeparators, paragraphSeparators]

def assigned : List (List Span) :=
  letters ++ marks ++ numbers ++ punctuation ++ symbols ++ separators ++
    [controls, formatCharacters, privateUse]

-- The code points set aside for pairs in another encoding: neither characters nor unassigned.
def surrogates : List Span := [⟨0xD800, 0xDFFF, 1⟩]

def alphabetic : CharSet := ofTables (letters ++ [letterNumbers, otherAlphabetic])

def lowercaseSet : CharSet := ofTables [lowercaseLetters, otherLowercase]

def uppercaseSet : CharSet := ofTables [uppercaseLetters, otherUppercase]

def graphemeExtend : CharSet := ofTables [nonspacingMarks, enclosingMarks, otherGraphemeExtend]

def wordCharacters : CharSet :=
  .union alphabetic (ofTables (marks ++ [decimalDigits, connectorPunctuation, joinControl]))

def isWordCharacter (c : Char) : Bool := wordCharacters.contains c

end RouteTable.Unicode
