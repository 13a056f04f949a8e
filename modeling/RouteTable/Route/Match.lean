import RouteTable.Request
import RouteTable.Route.Basic

namespace RouteTable.Route

def matchPath? (route : Route) (path : Text) : Option Arguments :=
  (route.matcher.search path).map fun marks =>
    route.holes.foldl (fun args hole =>
      let name := hole.placeholder.name
      args.set name ((Regex.captured? path marks name).filter (!·.isEmpty))) route.defaults

-- The scheme of a request may be a protocol such as `HTTP/1.1`, so it only has to contain the one
-- of the route.
def acceptsScheme (route : Route) (scheme : Text) : Bool :=
  route.scheme.all fun required => Text.includes required (Text.asciiLower scheme)

def acceptsMethod (route : Route) (method : Text) : Bool :=
  route.methods.isEmpty || route.methods.contains (Text.asciiUpper method)

def acceptsHost (route : Route) (host : Text) : Bool :=
  route.host.all (·.accepts host)

def matches? (route : Route) (request : Request) : Option Arguments :=
  if route.acceptsScheme request.scheme && route.acceptsMethod request.method &&
      route.acceptsHost request.host then
    route.matchPath? request.path
  else none

end RouteTable.Route
