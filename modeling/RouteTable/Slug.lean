import RouteTable.Unicode.Decomposition
import RouteTable.Unicode.Lowercase
import RouteTable.Unicode.Character

namespace RouteTable.Slug

def allowed (c : Char) : Bool :=
  c.isLower || c.isDigit || c == '-' || c == '.' || c == '_'

-- Letters that do not decompose but have a customary spelling in ASCII.
def spelling : Char → Text
  | 'ß' => "ss"
  | 'Æ' | 'æ' => "ae"
  | 'Œ' | 'œ' => "oe"
  | 'Ø' | 'ø' => "o"
  | 'Đ' | 'đ' | 'Ð' | 'ð' => "d"
  | 'Ł' | 'ł' => "l"
  | 'Þ' | 'þ' => "th"
  | c => [c]

-- Marks go first, so a letter with a mark is spelled as the letter without it.
def transliterate (value : Text) : Text :=
  ((value.flatMap Unicode.decomposeChar).filter (!Unicode.isMark ·)).flatMap spelling

-- `last` is the character written last, `gap` whether characters were left out since then.
def joinAllowed (last : Option Char) (gap : Bool) : Text → Text
  | [] => []
  | c :: rest =>
    if allowed c then
      let dash := gap && last.any (· != '-') && c != '-'
      (if dash then ['-', c] else [c]) ++ joinAllowed (some c) false rest
    else joinAllowed last true rest

def ofText (value : Text) : Text :=
  joinAllowed none false (Unicode.lowercase (transliterate value))

end RouteTable.Slug
