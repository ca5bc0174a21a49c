import DroneFleet.Json.Reader
import DroneFleet.Url

/-!
# Where an address is

The place of a network address is asked of a service.

* `LocationSettings`       the service to ask, and an elevation
* `Location.address`       the address of a question
* `Location.Failure`       why there is no answer, with its text
* `Location.requested`     the address to ask
* `Location.lookup`        the answer, given what the network says
-/

namespace DroneFleet

/-- the service to ask, and the elevation that is reported -/
structure LocationSettings where
  lookupUrl : String := "https://ipwho.is"
  elevation : Float := 35.0

namespace Location

structure Reply where
  status : Nat
  reason : String
  body : String

/-- the network: what a server at an address says; nothing if it is not reached -/
abbrev Network := Url → Option Reply

/-- a network in which nobody is reached -/
def isolated : Network := fun _ => none

def withoutSlashes (s : List Char) : List Char := (s.reverse.dropWhile (· = '/')).reverse

/-- the address of a question: the service, and the address that is asked about if there is one -/
def address (base : String) (ip : Option String) : String :=
  let front := String.ofList (withoutSlashes base.toList)
  match ip with
  | none => front
  | some ip => if ip = "" then front else front ++ "/" ++ ip

inductive Failure where
  | unreadable
  | wrongKind (url : String)
  | unreachable (url : String)
  | refused (status : Nat) (reason url : String)
  | undecodable
deriving DecidableEq, Repr

def Failure.message : Failure → String
  | .unreadable => "builder error"
  | .wrongKind url => "builder error for url (" ++ url ++ ")"
  | .unreachable url => "error sending request for url (" ++ url ++ ")"
  | .refused status reason url =>
    "HTTP status " ++ (if status < 500 then "client" else "server") ++ " error ("
      ++ String.ofList (Nat.toDigits 10 status) ++ " " ++ reason ++ ") for url (" ++ url ++ ")"
  | .undecodable => "error decoding response body"

/-- the address to ask; none if the server of the text cannot be asked -/
def requested (target : String) : Except Failure Url :=
  match Url.read? target.toList with
  | none => .error .unreadable
  | some u =>
    let u := if u.hasHost then u.withoutUser else u
    if u.isRequestable then .ok u else .error (.wrongKind (String.ofList u.text))

def lookup (network : Network) (target : String) : Except Failure Json := do
  let u ← requested target
  let url := String.ofList u.text
  match network u with
  | none => .error (.unreachable url)
  | some reply =>
    if 400 ≤ reply.status ∧ reply.status < 600 then
      .error (.refused reply.status reply.reason url)
    else
      match Json.read? reply.body with
      | some v => .ok v
      | none => .error .undecodable

end Location

end DroneFleet
