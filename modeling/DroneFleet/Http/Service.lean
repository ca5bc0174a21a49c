import DroneFleet.Feed
import DroneFleet.Fleet.Schedule
import DroneFleet.Http.MediaType
import DroneFleet.Http.RequestBody
import DroneFleet.Http.Target
import DroneFleet.Http.Upgrade
import DroneFleet.Location

/-!
# The service

Requests are answered in stages: the path names a route, the method has to fit it, then the type of
the body, its length and its form are checked, and the fleet is asked last. Every response may be
read from anywhere, and a request for options is answered at once.

* `Route`              what there is to ask for
* `Route.ofPath?`      the route of a path
* `Service`            the fleet and the place to ask about locations
* `Service.handle`     the answer to a request
* `Service.begin`      the stream that begins once the answer is sent
-/

namespace DroneFleet.Http

/-! ## routes -/

inductive Route where
  | discovery
  | elevation
  | location
  | connect
  | disconnect
  /-- the record of a drone, whose id stands in the path -/
  | info (id : List Char)
  | flightPath
  | notices
deriving DecidableEq, Repr

namespace Route

def drone? (path : List Char) : Option (List Char) :=
  let front := "/info/".toList
  if front.isPrefixOf path then
    let id := path.drop front.length
    if id = [] ∨ id.contains '/' then none else some id
  else none

def ofPath? (path : List Char) : Option Route :=
  match String.ofList path with
  | "/discovery" => some .discovery
  | "/elevation" => some .elevation
  | "/location" => some .location
  | "/connect" => some .connect
  | "/disconnect" => some .disconnect
  | "/flightpath" => some .flightPath
  | "/ws" => some .notices
  | _ => (drone? path).map .info

/-- does the route change the fleet? -/
def isCommand : Route → Bool
  | .connect | .disconnect | .flightPath => true
  | _ => false

def allowed (r : Route) : String := if r.isCommand then "POST" else "GET,HEAD"

def allows (r : Route) (method : String) : Bool :=
  if r.isCommand then method = "POST" else method = "GET" || method = "HEAD"

end Route

/-! ## the service -/

/-- the fleet and the place to ask about locations -/
structure Service where
  fleet : Fleet
  location : LocationSettings

def maxBody : Nat := 2097152

inductive BodyFault where
  | untyped
  | tooLong
  | malformed
  | mismatched
deriving DecidableEq, Repr

def BodyFault.response : BodyFault → Response
  | .untyped => .ofText 415 "Expected request with `Content-Type: application/json`"
  | .tooLong => .ofText 413 "Failed to buffer the request body: length limit exceeded"
  | .malformed => .ofText 400 "Failed to parse the request body as JSON: malformed"
  | .mismatched =>
    .ofText 422 "Failed to deserialize the JSON body into the target type: mismatched"

/-- the body of a request, read if its type and its length are right -/
def Request.decode {α : Type} (r : Request) (read : List Char → Except Json.Fault α) :
    Except BodyFault α :=
  if !r.announcesJson then .error .untyped
  else if maxBody < r.body.size then .error .tooLong
  else
    match read (textOf r.body) with
    | .ok a => .ok a
    | .error .malformed => .error .malformed
    | .error .mismatched => .error .mismatched

def said (name text : String) : Json := .object [(name, .string text)]

def statusOf : FleetError → Nat
  | .notFound _ => 404
  | _ => 400

def refusal (e : FleetError) : Response := .ofJson (statusOf e) (said "error" e.message)

namespace Service

/-- what an answer comes with: the service after it, and what happened -/
abbrev Answer := Service × Response × Report

def unchanged (s : Service) (r : Response) : Answer := (s, r, .empty)

def operated (s : Service) (result : Except FleetError (Fleet × Report)) (text : String)
    (more : List Remark) : Answer :=
  match result with
  | .ok (f, r) => ({ s with fleet := f }, .ofJson 200 (said "message" text), r ++ .remarking more)
  | .error e => s.unchanged (refusal e)

def connect (s : Service) (r : Request) : Answer :=
  match r.decode DroneRequest.read with
  | .ok q => s.operated (s.fleet.connect q.id) ("Connected to " ++ q.id) []
  | .error f => s.unchanged f.response

def disconnect (s : Service) (r : Request) : Answer :=
  match r.decode DroneRequest.read with
  | .ok q => s.operated (s.fleet.disconnect q.id) ("Disconnected from " ++ q.id) []
  | .error f => s.unchanged f.response

def flightPath (s : Service) (r : Request) : Answer :=
  match r.decode FlightRequest.read with
  | .ok q =>
    s.operated (s.fleet.submit q.id q.path (Zones.ofJson q.zones)) ("Flight path sent to " ++ q.id)
      [.pathSent q.id]
  | .error f => s.unchanged f.response

def info (s : Service) (id : List Char) : Response :=
  match Text.Utf8.strict? (Text.Percent.decode id) with
  | none => .ofText 400 "Invalid URL: Invalid UTF-8 in `id`"
  | some id =>
    match s.fleet.info (String.ofList id) with
    | .ok d => .ofJson 200 (.object [("info", d.toJson)])
    | .error e => refusal e

def place (s : Service) (network : Location.Network) (query : List Char) :
    Response × List Remark :=
  match single? "ip" (formFields query) with
  | .error (.duplicate name) =>
    (.ofText 400 ("Failed to deserialize query string: duplicate field `" ++ name ++ "`"), [])
  | .ok ip =>
    let url := Location.address s.location.lookupUrl ip
    match Location.lookup network url with
    | .ok v => (.ofJson 200 (.object [("location", v)]), [])
    | .error e =>
      (.ofJson 502 (said "error" ("Location lookup failed: " ++ e.message)),
        [.lookupFailed url e.message])

def serve (s : Service) (network : Location.Network) (route : Route) (query : List Char)
    (r : Request) : Answer :=
  match route with
  | .discovery =>
    s.unchanged (.ofJson 200 (.object [("drones", .array (s.fleet.discovery.map (·.toJson)))]))
  | .elevation =>
    s.unchanged (.ofJson 200 (.object [("elevation", .ofFloat s.location.elevation)]))
  | .location =>
    let (response, remarks) := s.place network query
    (s, response, .remarking remarks)
  | .connect => s.connect r
  | .disconnect => s.disconnect r
  | .info id => s.unchanged (s.info id)
  | .flightPath => s.flightPath r
  | .notices => s.unchanged (upgrade r)

/-- headers that let a page from anywhere read a response -/
def sharing (options : Bool) : List (String × String) :=
  [("vary", "origin, access-control-request-method, access-control-request-headers"),
   ("access-control-allow-origin", "*")] ++
  if options then
    [("access-control-allow-methods", "*"),
     ("access-control-allow-headers", "origin,x-requested-with,content-type,accept")]
  else []

/-- the answer to a request before the headers that every response has -/
def respond (s : Service) (network : Location.Network) (r : Request) : Answer :=
  let target := Target.ofText r.target.toList
  match Route.ofPath? target.path with
  | none => s.unchanged { status := if r.method = "OPTIONS" then 200 else 404 }
  | some route =>
    if route.allows r.method then
      let (s, response, report) := s.serve network route target.query r
      (s, if r.method = "HEAD" then response.withoutBody else response, report)
    else
      s.unchanged
        { status := if r.method = "OPTIONS" then 200 else 405
          headers := [("allow", route.allowed)] }

def handle (s : Service) (network : Location.Network) (r : Request) : Answer :=
  let (s, response, report) := s.respond network r
  (s, { response with headers := response.headers ++ sharing (r.method = "OPTIONS") }, report)

/-- what comes of a response once it is sent: a connection that becomes a stream listens to the
notices from now on -/
def begin (s : Service) (response : Response) : Service × Option Feed :=
  match response.stream? with
  | none => (s, none)
  | some name =>
    let (feed, channel) := Feed.begin name s.fleet.channel
    ({ s with fleet := { s.fleet with channel := channel } }, some feed)

end Service

end DroneFleet.Http
