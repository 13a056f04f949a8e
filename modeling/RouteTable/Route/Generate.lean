import RouteTable.Route.Basic
import RouteTable.Path
import RouteTable.Slug
import RouteTable.Text.Percent

namespace RouteTable.Route

-- The first of the three that knows the name decides, also when it leaves the name unset. An empty
-- value counts as none.
def chosenValue (route : Route) (current args : Arguments) (name : Text) : Option Text :=
  ((args.lookup name).or ((current.lookup name).or (route.defaults.lookup name))).join.filter
    (!·.isEmpty)

def slugOf? (hole : Hole) (value : Text) : Option Text :=
  if hole.validator.isMatch value && !(Slug.ofText value).isEmpty then some (Slug.ofText value)
  else none

-- What an optional hole without a value leaves out is no error; a value that is refused is.
def resolveHole (route : Route) (current args : Arguments) (hole : Hole) :
    Except RouteError (Option Text) :=
  let name := hole.placeholder.name
  match route.chosenValue current args name with
  | none =>
    if hole.placeholder.optional then .ok none
    else .error (.argument route.displayName name none)
  | some value =>
    match slugOf? hole value with
    | some slug => .ok (some slug)
    | none => .error (.argument route.displayName name (some value))

def resolve (route : Route) (current args : Arguments) : Except RouteError (List (Option Text)) :=
  route.holes.mapM (route.resolveHole current args)

-- The template with the holes filled in order; an absent value takes its trailing text with it.
def fill : List Segment → List (Option Text) → Text
  | [], _ => []
  | .literal text :: rest, values => text ++ fill rest values
  | .hole _ :: rest, [] => fill rest []
  | .hole _ :: rest, none :: values => fill rest values
  | .hole placeholder :: rest, some value :: values =>
    value ++ placeholder.trailing ++ fill rest values

def queryOf (route : Route) (args : Arguments) : Text :=
  ['&'].intercalate (args.entries.filterMap fun (name, value) =>
    if route.template.hasPlaceholder name then none
    else value.map fun value => Text.Percent.encode name ++ ['='] ++ Text.Percent.encode value)

def defaultScheme : Text := "http"

def absolute (route : Route) (hint : HostHint) (host path : Text) : Text :=
  ((hint.scheme.or route.scheme).getD defaultScheme) ++ "://".toList ++ host ++ ['/'] ++ path

-- Without a host pattern a URL is relative if it may be; with one it needs a host to fill in.
def locate (route : Route) (hint path : Text) (relative : Bool) : Except RouteError Text :=
  match route.host with
  | none =>
    if relative || hint.isEmpty then .ok ("./".toList ++ path)
    else .ok (route.absolute (.ofText hint) (HostHint.ofText hint).host path)
  | some pattern =>
    if hint.isEmpty then .error (.missingHost route.displayName)
    else .ok (route.absolute (.ofText hint) (pattern.resolve (HostHint.ofText hint).host) path)

-- `current` fills gaps between the arguments of the caller and the defaults.
def makeFrom (route : Route) (current : Arguments) (hint : Text) (args : Arguments)
    (relative : Bool) : Except RouteError Text := do
  let values ← route.resolve current args
  let url ← route.locate hint (Path.generated (fill route.template.segments values)) relative
  let query := route.queryOf args
  return if query.isEmpty then url else url ++ ['?'] ++ query

def make (route : Route) (hint : Text) (args : Arguments) (relative : Bool) :
    Except RouteError Text :=
  route.makeFrom .empty hint args relative

def checkFrom (route : Route) (current : Arguments) (target : Text) (args : Arguments) : Bool :=
  route.target == target && (route.resolve current args).toOption.isSome

def check (route : Route) (target : Text) (args : Arguments) : Bool :=
  route.checkFrom .empty target args

end RouteTable.Route
