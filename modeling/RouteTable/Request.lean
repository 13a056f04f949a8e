import RouteTable.Arguments

namespace RouteTable

structure Request where
  path : Text
  method : Text := "GET"
  host : Text := []
  scheme : Text := "http"
  arguments : Arguments := {}
deriving DecidableEq, Repr

-- Only set arguments reach a store; what it held under other names stays.
def Arguments.writeSet (store : Arguments) (entries : List (Text × Option Text)) : Arguments :=
  entries.foldl (fun store (name, value) =>
    match value with
    | some value => store.insert name value
    | none => store) store

namespace Request

def merge (request : Request) (matched : Arguments) : Request :=
  { request with arguments := request.arguments.writeSet matched.entries }

def locale (request : Request) : Option Text := request.arguments.get? "locale"

def format (request : Request) : Option Text := request.arguments.get? "format"

end Request

end RouteTable
