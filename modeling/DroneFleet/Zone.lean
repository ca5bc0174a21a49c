import DroneFleet.Json.Value
import DroneFleet.Text.Lines

/-!
# Zones and their scripts

A submission names zones and gives each a script, a list of commands.

* `Script.ofJson`      the script that a definition gives: lines of a text, texts of an array, or
                       what an object holds under `script`, through any depth
* `Zones`              names with their scripts
* `Zones.ofJson`        the zones of a submission
-/

namespace DroneFleet

namespace Script

def ofText (s : String) : List String := (Text.lines s.toList).map String.ofList

def command? : Json → Option String
  | .string s => some s
  | _ => none

mutual

/-- the script that a definition gives; a definition of another shape gives the empty script -/
def ofJson : Json → List String
  | .string s => ofText s
  | .array vs => vs.filterMap command?
  | .object ms => ofMembers ms
  | _ => []

/-- the script under the name `script`, or the empty one -/
def ofMembers : List (String × Json) → List String
  | [] => []
  | (n, v) :: ms => if n = "script" then ofJson v else ofMembers ms

end

end Script

/-- names of zones with their scripts; the names are distinct -/
abbrev Zones := List (String × List String)

namespace Zones

def script? (zs : Zones) (name : String) : Option (List String) := zs.lookup name

/-- the zones of a submission: every member of an object, and none for anything else -/
def ofJson : Option Json → Zones
  | some (.object ms) => ms.map fun (n, v) => (n, Script.ofJson v)
  | _ => []

end Zones

end DroneFleet
