import DroneFleet.Http.Message

/-!
# Requests for a stream of notices

A request has to ask in due form for its connection to become a stream.

* `occurs`    does a text stand somewhere in another?
* `upgradeConditions`, `upgradeFault?`   the form, and what is wrong with it
* `upgrade`   the response to such a request
-/

namespace DroneFleet.Http

def occurs (t : List Char) : List Char → Bool
  | [] => t = []
  | c :: r => t.isPrefixOf (c :: r) || occurs t r

/-- what a request for a stream has to meet, in the order in which it is checked, each with the
refusal if it does not -/
def upgradeConditions (r : Request) : List (Bool × Response) :=
  [(r.method = "GET", .ofText 405 "Request method must be `GET`"),
   ((r.header? "connection").any fun h => occurs "upgrade".toList (lower h.toList),
     .ofText 400 "Connection header did not include 'upgrade'"),
   ((r.header? "upgrade").any fun h => sameIgnoringCase h "websocket",
     .ofText 400 "`Upgrade` header did not include 'websocket'"),
   (r.header? "sec-websocket-version" = some "13",
     .ofText 400 "`Sec-WebSocket-Version` header did not include '13'"),
   ((r.header? "sec-websocket-key").isSome, .ofText 400 "`Sec-WebSocket-Key` header missing")]

/-- what is wrong with a request for a stream, if anything is -/
def upgradeFault? (r : Request) : Option Response :=
  ((upgradeConditions r).find? fun c => !c.1).map (·.2)

/-- the response to a request for a stream. The connection becomes one if it may; the answer to its
key is not among the headers. -/
def upgrade (r : Request) : Response :=
  match upgradeFault? r, r.connection? with
  | some fault, _ => fault
  | none, some name =>
    { status := 101
      headers := [("connection", "upgrade"), ("upgrade", "websocket")]
      stream? := some name }
  | none, none =>
    .ofText 426 "WebSocket request couldn't be upgraded since no upgrade state was present"

end DroneFleet.Http
