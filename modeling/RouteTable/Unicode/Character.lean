import RouteTable.Text.Basic
import RouteTable.Unicode.Group

namespace RouteTable.Unicode

open CharSet (table ofTables)

-- Letters and other characters with a visible form, since version 16.0.
def laterPrintable : List Span :=
  [⟨0x88F, 0x88F, 1⟩, ⟨0xC5C, 0xC5C, 1⟩, ⟨0xCDC, 0xCDC, 1⟩, ⟨0x1ACF, 0x1ADD, 1⟩,
   ⟨0x1AE0, 0x1AEB, 1⟩, ⟨0x20C1, 0x20C1, 1⟩, ⟨0x2B96, 0x2B96, 1⟩, ⟨0xA7CE, 0xA7CF, 1⟩,
   ⟨0xA7D2, 0xA7D2, 1⟩, ⟨0xA7D4, 0xA7D4, 1⟩, ⟨0xA7F1, 0xA7F1, 1⟩, ⟨0xFBC3, 0xFBD2, 1⟩,
   ⟨0xFD90, 0xFD91, 1⟩, ⟨0xFDC8, 0xFDCE, 1⟩, ⟨0x10940, 0x10959, 1⟩, ⟨0x10EC5, 0x10EC7, 1⟩,
   ⟨0x10ED0, 0x10ED8, 1⟩, ⟨0x10EFA, 0x10EFB, 1⟩, ⟨0x11B60, 0x11B67, 1⟩, ⟨0x11DB0, 0x11DDB, 1⟩,
   ⟨0x11DE0, 0x11DE9, 1⟩, ⟨0x16EA0, 0x16EB8, 1⟩, ⟨0x16EBB, 0x16ED3, 1⟩, ⟨0x16FF2, 0x16FF6, 1⟩,
   ⟨0x187F8, 0x187FF, 1⟩, ⟨0x18D09, 0x18D1E, 1⟩, ⟨0x18D80, 0x18DF2, 1⟩, ⟨0x1CCFA, 0x1CCFC, 1⟩,
   ⟨0x1CEBA, 0x1CED0, 1⟩, ⟨0x1CEE0, 0x1CEF0, 1⟩, ⟨0x1E6C0, 0x1E6DE, 1⟩, ⟨0x1E6E0, 0x1E6F5, 1⟩,
   ⟨0x1E6FE, 0x1E6FF, 1⟩, ⟨0x1F6D8, 0x1F6D8, 1⟩, ⟨0x1F777, 0x1F77A, 1⟩, ⟨0x1F8D0, 0x1F8D8, 1⟩,
   ⟨0x1FA54, 0x1FA57, 1⟩, ⟨0x1FA8A, 0x1FA8A, 1⟩, ⟨0x1FA8E, 0x1FA8E, 1⟩, ⟨0x1FAC8, 0x1FAC8, 1⟩,
   ⟨0x1FACD, 0x1FACD, 1⟩, ⟨0x1FAEA, 0x1FAEA, 1⟩, ⟨0x1FAEF, 0x1FAEF, 1⟩, ⟨0x1FBFA, 0x1FBFA, 1⟩,
   ⟨0x2B73A, 0x2B73F, 1⟩, ⟨0x2CEA2, 0x2CEAD, 1⟩, ⟨0x323B0, 0x33479, 1⟩]

def laterAlphabetic : List Span :=
  [⟨0x88F, 0x88F, 1⟩, ⟨0xC5C, 0xC5C, 1⟩, ⟨0xCDC, 0xCDC, 1⟩, ⟨0xA7CE, 0xA7CF, 1⟩,
   ⟨0xA7D2, 0xA7D2, 1⟩, ⟨0xA7D4, 0xA7D4, 1⟩, ⟨0xA7F1, 0xA7F1, 1⟩, ⟨0x10940, 0x10959, 1⟩,
   ⟨0x10EC5, 0x10EC7, 1⟩, ⟨0x10EFA, 0x10EFB, 1⟩, ⟨0x11B60, 0x11B67, 1⟩, ⟨0x11DB0, 0x11DDB, 1⟩,
   ⟨0x16EA0, 0x16EB8, 1⟩, ⟨0x16EBB, 0x16ED3, 1⟩, ⟨0x16FF2, 0x16FF6, 1⟩, ⟨0x187F8, 0x187FF, 1⟩,
   ⟨0x18D09, 0x18D1E, 1⟩, ⟨0x18D80, 0x18DF2, 1⟩, ⟨0x1E6C0, 0x1E6DE, 1⟩, ⟨0x1E6E0, 0x1E6F5, 1⟩,
   ⟨0x1E6FE, 0x1E6FF, 1⟩, ⟨0x2B73A, 0x2B73F, 1⟩, ⟨0x2CEA2, 0x2CEAD, 1⟩, ⟨0x323B0, 0x33479, 1⟩]

def laterNumbers : List Span := [⟨0x11DE0, 0x11DE9, 1⟩, ⟨0x16FF4, 0x16FF6, 1⟩]

def laterGraphemeExtend : List Span :=
  [⟨0x1ACF, 0x1ADD, 1⟩, ⟨0x1AE0, 0x1AEB, 1⟩, ⟨0x10EFA, 0x10EFB, 1⟩, ⟨0x11B60, 0x11B60, 1⟩,
   ⟨0x11B62, 0x11B64, 1⟩, ⟨0x11B66, 0x11B66, 1⟩, ⟨0x1E6E3, 0x1E6E3, 1⟩, ⟨0x1E6E6, 0x1E6E6, 1⟩,
   ⟨0x1E6EE, 0x1E6EF, 1⟩, ⟨0x1E6F5, 0x1E6F5, 1⟩]

-- Marks since version 16.0, those of version 18.0 included.
def laterMarks : List Span :=
  [⟨0x5C8, 0x5C9, 1⟩, ⟨0xB53, 0xB54, 1⟩, ⟨0x1ACF, 0x1AF0, 1⟩, ⟨0x10ECB, 0x10ECF, 1⟩,
   ⟨0x10EF0, 0x10EFB, 1⟩, ⟨0x11B60, 0x11B67, 1⟩, ⟨0x11DF0, 0x11DF0, 1⟩, ⟨0x1D127, 0x1D128, 1⟩,
   ⟨0x1D250, 0x1D252, 1⟩, ⟨0x1D25B, 0x1D25C, 1⟩, ⟨0x1D25F, 0x1D25F, 1⟩, ⟨0x1D280, 0x1D281, 1⟩,
   ⟨0x1E6E3, 0x1E6E3, 1⟩, ⟨0x1E6E6, 0x1E6E6, 1⟩, ⟨0x1E6EE, 0x1E6EF, 1⟩, ⟨0x1E6F5, 0x1E6F5, 1⟩]

def isMark (c : Char) : Bool := (ofTables (laterMarks :: marks)).contains c

def isWhitespace (c : Char) : Bool := inSpans whiteSpace c

def isAlphabetic (c : Char) : Bool := alphabetic.contains c || inSpans laterAlphabetic c

def isAlphanumeric (c : Char) : Bool :=
  isAlphabetic c || (ofTables (laterNumbers :: numbers)).contains c

-- The half-width sound marks extend the letter before them, yet take a place of their own.
def halfWidthSoundMarks : List Span := [⟨0xFF9E, 0xFF9F, 1⟩]

def isAttached (c : Char) : Bool :=
  (graphemeExtend.contains c || inSpans laterGraphemeExtend c) && !inSpans halfWidthSoundMarks c

def isVisible (c : Char) : Bool :=
  c = ' ' ||
    (ofTables (laterPrintable :: letters ++ marks ++ numbers ++ punctuation ++ symbols)).contains c
      && !inSpans defaultIgnorable c && !isAttached c

end RouteTable.Unicode
