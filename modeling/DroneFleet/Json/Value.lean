import DroneFleet.Decimal.Layout
import DroneFleet.Named

/-!
# JSON values

* `Json`             a value; a number is kept as it is written, so that none loses digits
* `Json.member?`     the member of an object
* `Json.ofFloat`     a float, and nothing for what is not finite
-/

namespace DroneFleet

/-- a JSON value; the names in an object are distinct -/
inductive Json where
  | null
  | bool (b : Bool)
  | number (literal : String)
  | string (s : String)
  | array (items : List Json)
  | object (members : List (String × Json))
deriving Repr, Inhabited

namespace Json

def member? (name : String) : Json → Option Json
  | .object ms => ms.lookup name
  | _ => none

def ofInt (n : Int) : Json := .number (String.ofList (Decimal.integerText n))

/-- a float in the layout of the wire, and nothing for what is not finite -/
def ofFloat (x : Float) : Json :=
  match Decimal.text? .wire (.ofFloat x) with
  | some t => .number (String.ofList t)
  | none => .null

def ofStrings (ss : List String) : Json := .array (ss.map .string)

end Json

end DroneFleet
