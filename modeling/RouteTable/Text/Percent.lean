import RouteTable.Text.Basic

namespace RouteTable.Text.Percent

def unreserved (c : Char) : Bool :=
  c.isAlphanum || c == '-' || c == '.' || c == '_' || c == '~'

def hexDigit (n : Nat) : Char :=
  if n < 10 then Char.ofNat (48 + n) else Char.ofNat (55 + n)

def encodeByte (byte : UInt8) : Text :=
  ['%', hexDigit (byte.toNat / 16), hexDigit (byte.toNat % 16)]

def encodeChar (c : Char) : Text :=
  if unreserved c then [c] else (String.utf8EncodeChar c).flatMap encodeByte

-- UTF-8, byte by byte.
def encode (s : Text) : Text := s.flatMap encodeChar

end RouteTable.Text.Percent
