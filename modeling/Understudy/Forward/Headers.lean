import Understudy.Text.Ascii

/-!
# Headers that are not passed on

Some headers concern one connection only, and some are made anew for every message. `isHopByHop` and `isTransport` say
which.
-/

namespace Understudy

namespace Forward

def hopByHop : List String :=
  ["connection", "keep-alive", "proxy-authenticate", "proxy-authorization", "proxy-connection", "te",
    "trailer", "transfer-encoding", "upgrade"]

def isHopByHop (name : String) : Bool := Text.listsName hopByHop name

/-- The header concerns one connection, or is made anew for every message. -/
def isTransport (name : String) : Bool :=
  isHopByHop name || Text.sameName name "host" || Text.sameName name "content-length"

/-- Marks a response that stands for one that a backend did not give. -/
def failureHeader : String := "x-decoy-proxy-error"

end Forward

end Understudy
