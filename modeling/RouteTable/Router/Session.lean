import RouteTable.Router.Dispatch
import RouteTable.Router.Generate

namespace RouteTable

structure Session where
  router : Router
  context : Context

namespace Session

def start (router : Router) : Session := { router, context := router.context }

def dispatch (session : Session) (request : Request) : Router.Served × Session :=
  let served := session.router.serve request session.context
  (served, { session with context := served.context })

def url (session : Session) (nameOrTarget : Text) (args : Arguments) : Except RouteError Text :=
  session.router.url session.context nameOrTarget args

def relativeUrl (session : Session) (nameOrTarget : Text) (args : Arguments) :
    Except RouteError Text :=
  session.router.relativeUrl session.context nameOrTarget args

end Session

end RouteTable
