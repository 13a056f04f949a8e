import RouteTable.Unicode.Character

namespace RouteTable.Text.Quoted

def hexDigits (n : Nat) : Text := Nat.toDigits 16 n

-- The way error messages show a text.
def escapeCode (c : Char) : Text :=
  "\\u".toList ++ ['\x7b'] ++ hexDigits c.toNat ++ ['\x7d']

def escapeChar (c : Char) : Text :=
  if c = '\x00' then "\\0"
  else if c = '\t' then "\\t"
  else if c = '\r' then "\\r"
  else if c = '\n' then "\\n"
  else if c = '\\' then "\\\\"
  else if c = '"' then "\\\""
  else if !Unicode.isVisible c then escapeCode c
  else [c]

def quote (s : Text) : Text := ['"'] ++ s.flatMap escapeChar ++ ['"']

end RouteTable.Text.Quoted
