import RouteTable.Proofs.Host
import RouteTable.Proofs.Route.Language

namespace RouteTable

namespace HostPattern

variable {pattern : HostPattern} {host : Text}

end HostPattern

namespace Route

variable {route : Route} {text : Text}

-- Two tokens around a piece that would mean something else if it were not escaped.
def doubled : Text := "\x7bbasename\x7d.docs+\x7bbasename\x7d"

end Route

end RouteTable
