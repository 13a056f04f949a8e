import RouteTable.Route.Match

namespace RouteTable

-- The order of the entries is their priority.
structure Router where
  entries : List (Text × Route) := []
  -- Where each name stands among the entries.
  positions : List (Text × Nat) := []
  defaultHost : Text := []

structure Context where
  host : Text := []
  routeName : Option Text := none
  locale : Option Text := none
  format : Option Text := none
  arguments : Arguments := {}
deriving DecidableEq, Repr

namespace Router

def empty : Router := {}

def withDefaultHost (router : Router) (host : Text) : Router := { router with defaultHost := host }

def position? (router : Router) (name : Text) : Option Nat := router.positions.lookup name

-- A name that is known already keeps its place and gets the new route.
def add (router : Router) (name : Text) (route : Route) : Router :=
  let named := { route with name := some name }
  match router.position? name with
  | some position =>
    { router with entries := router.entries.modify position fun (key, _) => (key, named) }
  | none =>
    { router with
        entries := router.entries ++ [(name, named)]
        positions := router.positions ++ [(name, router.entries.length)] }

def route? (router : Router) (name : Text) : Option Route :=
  (router.position? name).bind fun position => router.entries[position]?.map (·.2)

def names (router : Router) : List Text := router.entries.map (·.1)

def size (router : Router) : Nat := router.entries.length

def isEmpty (router : Router) : Bool := router.entries.isEmpty

def context (router : Router) : Context := { host := router.defaultHost }

end Router

end RouteTable
