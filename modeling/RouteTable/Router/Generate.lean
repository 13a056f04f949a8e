import RouteTable.Route.Generate
import RouteTable.Router.Basic

namespace RouteTable.Router

-- Only the dispatched route sees the arguments of the dispatch.
def currentFor (context : Context) (route : Route) : Arguments :=
  if context.routeName = route.name then context.arguments else .empty

def sought? (context : Context) (nameOrTarget : Text) : Except RouteError Text :=
  if nameOrTarget.isEmpty then
    match context.routeName with
    | some name => .ok name
    | none => .error .noCurrentRoute
  else .ok nameOrTarget

-- A registered name stands for its route, whatever its target is. Otherwise the first route in
-- order of priority that accepts the target and the arguments is meant.
def select? (router : Router) (context : Context) (sought : Text) (args : Arguments) :
    Option Route :=
  (router.route? sought).or
    ((router.entries.map (·.2)).find? fun route =>
      route.checkFrom (currentFor context route) sought args)

def generate (router : Router) (context : Context) (nameOrTarget : Text) (args : Arguments)
    (relative : Bool) : Except RouteError Text := do
  let sought ← sought? context nameOrTarget
  match router.select? context sought args with
  | none => throw (.routeNotFound sought)
  | some route => route.makeFrom (currentFor context route) context.host args relative

def url (router : Router) (context : Context) (nameOrTarget : Text) (args : Arguments) :
    Except RouteError Text :=
  router.generate context nameOrTarget args false

def relativeUrl (router : Router) (context : Context) (nameOrTarget : Text) (args : Arguments) :
    Except RouteError Text :=
  router.generate context nameOrTarget args true

end RouteTable.Router
