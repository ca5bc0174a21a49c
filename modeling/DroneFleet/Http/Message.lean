import DroneFleet.Json.Printer

/-!
# Requests and responses

* `Http.Request`     a request with all of its body
* `Http.Response`    a response; its body is JSON, a plain text, or nothing
* `Request.header?`  the first header of a name, in any case
-/

namespace DroneFleet.Http

structure Request where
  method : String
  target : String
  headers : List (String × String) := []
  body : ByteArray := .empty
  /-- the connection that the request came on, if it may become a stream -/
  connection? : Option String := none

inductive Body where
  | none
  | json (v : Json)
  | text (s : String)

/-- a response; headers that every response has are not listed in `headers` -/
structure Response where
  status : Nat
  headers : List (String × String) := []
  body : Body := .none
  /-- the connection that becomes a stream once the response is sent -/
  stream? : Option String := none

def lower (s : List Char) : List Char := s.map Char.toLower

/-- are two texts equal up to the case of the letters of ASCII? -/
def sameIgnoringCase (a b : String) : Bool := lower a.toList = lower b.toList

def Request.header? (r : Request) (name : String) : Option String :=
  (r.headers.find? fun h => sameIgnoringCase h.1 name).map (·.2)

def Body.contentType? : Body → Option String
  | .none => Option.none
  | .json _ => some "application/json"
  | .text _ => some "text/plain; charset=utf-8"

namespace Response

def ofJson (status : Nat) (v : Json) : Response := { status := status, body := .json v }

def ofText (status : Nat) (s : String) : Response := { status := status, body := .text s }

def allHeaders (r : Response) : List (String × String) :=
  (r.body.contentType?.map fun t => ("content-type", t)).toList ++ r.headers

def withoutBody (r : Response) : Response := { r with headers := r.allHeaders, body := .none }

end Response

end DroneFleet.Http
