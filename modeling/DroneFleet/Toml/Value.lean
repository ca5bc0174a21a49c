import DroneFleet.Settings.Value
import DroneFleet.Toml.Moment

/-!
# Values of a document

* `Value`              a value as it is written
* `momentName`         the name that makes a table a moment
* `Value.setting?`     the setting that a value denotes
-/

namespace DroneFleet.Toml

/-- a value as it is written; the names in a table are distinct -/
inductive Value where
  | text (s : String)
  | integer (n : Int)
  | float (x : Float)
  | bool (b : Bool)
  | moment (m : Moment)
  | array (items : List Value)
  | table (entries : List (String × Value))
deriving Repr, Inhabited

/-- a table whose first name is this one denotes the moment that is written as a text there -/
def momentName : String := "$__toml_private_datetime"

/-- a moment as a setting: its normal text -/
def Moment.setting (m : Moment) : Setting := .text (String.ofList m.text)

namespace Value

/-- the moment that a text denotes when it stands for one -/
def moment? : Value → Option Moment
  | .text s => Moment.read? .quoted s.toList
  | _ => none

mutual

/-- the setting that a value denotes; none if a table should be a moment and is not -/
def setting? : Value → Option Setting
  | .text s => some (.text s)
  | .integer n => some (.integer n)
  | .float x => some (.float x)
  | .bool b => some (.bool b)
  | .moment m => some m.setting
  | .array vs => (settings? vs).map .array
  | .table es => table? es

def settings? : List Value → Option (List Setting)
  | [] => some []
  | v :: vs =>
    match setting? v, settings? vs with
    | some s, some ss => some (s :: ss)
    | _, _ => none

def table? : List (String × Value) → Option Setting
  | [] => some (.table [])
  | (name, v) :: r =>
    if name = momentName then v.moment?.map Moment.setting
    else
      match setting? v, entries? r with
      | some s, some ss => some (.table ((name, s) :: ss))
      | _, _ => none

def entries? : List (String × Value) → Option (List (String × Setting))
  | [] => some []
  | (name, v) :: r =>
    match setting? v, entries? r with
    | some s, some ss => some ((name, s) :: ss)
    | _, _ => none

end

end Value

end DroneFleet.Toml
