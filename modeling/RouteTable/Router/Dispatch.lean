import RouteTable.Router.Basic

namespace RouteTable.Router

def firstMatch? (request : Request) : List (Text × Route) → Option (Text × Route × Arguments)
  | [] => none
  | (name, route) :: rest =>
    match route.matches? request with
    | some matched => some (name, route, matched)
    | none => firstMatch? request rest

-- What a caller lends to a dispatch.
structure Visit where
  request : Request
  context : Context
deriving DecidableEq, Repr

-- Locale and format are read from the request after the merge. A request without a host leaves the
-- host of the context as it was.
def Visit.arrive (visit : Visit) (name : Text) (matched : Arguments) : Visit :=
  let request := visit.request.merge matched
  { request
    context := {
      host := if request.host.isEmpty then visit.context.host else request.host
      routeName := some name
      locale := request.locale
      format := request.format
      arguments := matched } }

def answer (router : Router) : EStateM RouteError Visit Text := do
  let visit ← get
  match firstMatch? visit.request router.entries with
  | none => throw (.routeNotFound visit.request.path)
  | some (name, route, matched) =>
    set (visit.arrive name matched)
    return route.target

structure Served where
  answer : Except RouteError Text
  request : Request
  context : Context

def serve (router : Router) (request : Request) (context : Context) : Served :=
  match router.answer { request, context } with
  | .ok target visit => ⟨.ok target, visit.request, visit.context⟩
  | .error fault visit => ⟨.error fault, visit.request, visit.context⟩

structure Dispatched where
  target : Text
  request : Request
  context : Context
deriving DecidableEq, Repr

def dispatch (router : Router) (request : Request) (context : Context) :
    Except RouteError Dispatched :=
  let served := router.serve request context
  served.answer.map fun target => ⟨target, served.request, served.context⟩

end RouteTable.Router
