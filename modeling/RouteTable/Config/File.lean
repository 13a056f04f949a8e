import RouteTable.Config.Reader
import RouteTable.Text.Quoted

namespace RouteTable

inductive Stored where
  | missing
  | unreadable
  | content (bytes : ByteArray)

inductive ConfigError where
  | unreadable (path : Text)
  | malformed (path : Text)
deriving DecidableEq, Repr

def ConfigError.message : ConfigError → Text
  | unreadable path => "Failed to read router config: ".toList ++ Text.Quoted.quote path
  | malformed path => "Failed to parse router config: ".toList ++ Text.Quoted.quote path

-- A missing file is the empty configuration. A file that is not UTF-8 cannot be read.
def Config.ofStored (path : Text) : Stored → Except ConfigError Config
  | .missing => .ok {}
  | .unreadable => .error (.unreadable path)
  | .content bytes =>
    match String.fromUTF8? bytes with
    | none => .error (.unreadable path)
    | some text =>
      match Config.ofText? text.toList with
      | none => .error (.malformed path)
      | some config => .ok config

end RouteTable
