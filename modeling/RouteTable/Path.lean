import RouteTable.Text.Basic

namespace RouteTable.Path

def collapse : Text → Text
  | [] => []
  | '/' :: '/' :: rest => collapse ('/' :: rest)
  | c :: rest => c :: collapse rest

def trimRelative : Text → Text
  | '.' :: '/' :: rest => trimRelative rest
  | path => path

-- One leading slash, none doubled and none at the end.
def isCanonical (path : Text) : Bool :=
  path.head? == some '/' && !Text.includes "//" path && (path == ['/'] || path.getLast? != some '/')

def segments (path : Text) : List Text :=
  (Text.splitAt '/' path).filter (!·.isEmpty)

def ofSegments : List Text → Text
  | [] => ['/']
  | pieces => pieces.flatMap ('/' :: ·)

def normalize (path : Text) : Text :=
  if isCanonical path then path else ofSegments (segments (trimRelative path))

-- A generated path carries no leading slash: the caller puts `./` or the host in front.
def generated (path : Text) : Text :=
  (collapse (trimRelative path)).dropWhile (· == '/')

end RouteTable.Path
