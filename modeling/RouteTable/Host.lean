import RouteTable.Error
import RouteTable.Regex.Escape
import RouteTable.Regex.Meaning
import RouteTable.Regex.Search

namespace RouteTable

structure HostHint where
  scheme : Option Text
  host : Text
deriving DecidableEq, Repr

-- Slashes at the end do not belong to the host.
def HostHint.ofText (hint : Text) : HostHint :=
  match Text.cutAt? "://" hint with
  | some (scheme, host) => ⟨some scheme, Text.dropWhileEnd (· == '/') host⟩
  | none => ⟨none, Text.dropWhileEnd (· == '/') hint⟩

namespace HostPattern

def basenameToken : Text := "\x7bbasename\x7d"

-- Every token stands for a character of the host or more, and all else for itself.
def source (text : Text) : Text :=
  "^".toList ++
    (".+".toList.intercalate ((Text.splitOn basenameToken text).map Regex.escape) ++ "$".toList)

end HostPattern

structure HostPattern where
  text : Text
  regex : Regex
  compiled : Regex.ofText? true (HostPattern.source text) = some regex

namespace HostPattern

def compile (text : Text) : Except RouteError HostPattern :=
  match compiled : Regex.ofText? true (source text) with
  | some regex => .ok { text, regex, compiled }
  | none => .error (.template text .invalidHost)

-- The literal pieces around the tokens, one more than there are tokens.
def pieces (pattern : HostPattern) : List Text := Text.splitOn basenameToken pattern.text

-- A request may give its host as a hint; only the host of it counts.
def accepts (pattern : HostPattern) (host : Text) : Bool :=
  pattern.regex.isMatch (HostHint.ofText host).host

def resolve (pattern : HostPattern) (host : Text) : Text :=
  Text.replace basenameToken host pattern.text

end HostPattern

end RouteTable
