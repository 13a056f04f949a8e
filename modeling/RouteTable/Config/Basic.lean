import RouteTable.Config.NameMap
import RouteTable.Router.Basic

namespace RouteTable

structure RouteEntry where
  name : Text
  pattern : Text
  target : Text
  methods : List Text := []
  scheme : Option Text := none
  host : Option Text := none
  requirements : NameMap := {}
  defaults : NameMap := {}

structure Config where
  defaultHost : Option Text := none
  routes : List RouteEntry := []

namespace RouteEntry

def overrideRequirements (entry : RouteEntry) (route : Route) : Except RouteError Route :=
  entry.requirements.entries.foldlM
    (fun route (name, requirement) => route.withRequirement name requirement) route

def addDefaults (entry : RouteEntry) (route : Route) : Except RouteError Route :=
  entry.defaults.entries.foldlM (fun route (name, value) => route.withDefault name value) route

-- Requirements come before defaults, so defaults are held against the requirements in force.
def build (entry : RouteEntry) : Except RouteError Route := do
  let route ← Route.ofTemplate entry.pattern entry.target
  let route := route.withMethods entry.methods
  let route := entry.scheme.elim route route.withScheme
  let route ← entry.host.elim (.ok route) route.withHost
  entry.addDefaults (← entry.overrideRequirements route)

end RouteEntry

namespace Router

-- An entry that does not build is left out; the entries after it are still added.
def addEntry (router : Router) (entry : RouteEntry) : Router :=
  match entry.build with
  | .ok route => router.add entry.name route
  | .error _ => router

def ofConfig (config : Config) : Router :=
  config.routes.foldl addEntry (empty.withDefaultHost (config.defaultHost.getD []))

end Router

end RouteTable
