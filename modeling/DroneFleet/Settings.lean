import DroneFleet.Fleet
import DroneFleet.Location
import DroneFleet.Settings.Conversion
import DroneFleet.Settings.Place

/-!
# Settings

The settings come from three layers: what is built in, a file, and the environment. A later layer
overrides an earlier one setting by setting.

* `Settings`                 all settings
* `Settings.builtIn`         the first layer
* `Settings.ofEnvironment`   the layer of variables such as `TELLO__WEB__PORT`
* `Settings.ofLayers`        the settings that a file and an environment give
-/

namespace DroneFleet

structure WebSettings where
  host : String := "0.0.0.0"
  port : Nat := 3000
deriving DecidableEq, Repr

structure Settings where
  logLevel : String := "info"
  web : WebSettings := {}
  fleet : FleetSettings := {}
  flight : FlightSettings := {}
  location : LocationSettings := {}
  /-- how many notices are kept for a slow observer -/
  capacity : Nat := 256

namespace Settings

/-! ## layers -/

/-- the settings as a layer, each at its place -/
def layer (s : Settings) : List (String × Setting) :=
  [("log_level", .text s.logLevel),
   ("web.host", .text s.web.host),
   ("web.port", .integer s.web.port),
   ("fleet.count", .integer s.fleet.count),
   ("fleet.ip_base", .text s.fleet.ipBase),
   ("fleet.range", .integer s.fleet.range),
   ("fleet.battery", .integer s.fleet.battery),
   ("flight.step_interval_ms", .integer s.flight.stepInterval),
   ("flight.default_wait_ms", .integer s.flight.defaultWait),
   ("flight.takeoff_altitude", .float s.flight.takeoffAltitude),
   ("flight.return_speed", .integer s.flight.returnSpeed),
   ("location.lookup_url", .text s.location.lookupUrl),
   ("location.elevation", .float s.location.elevation),
   ("notify.capacity", .integer s.capacity)]

def builtIn : List (String × Setting) := layer {}

/-- what the names of our variables begin with, in lower case -/
def variableFront : List Char := "tello__".toList

/-- a text with a point for every two underscores -/
def pointed : List Char → List Char
  | '_' :: '_' :: r => '.' :: pointed r
  | c :: r => c :: pointed r
  | [] => []

/-- the place that a variable names, if it is one of ours -/
def placeOf? (name : String) : Option String :=
  let s := name.toList.map Setting.lowerChar
  if variableFront.isPrefixOf s then
    some (String.ofList (pointed (s.drop variableFront.length)))
  else none

/-- the layer of the environment; all its values are texts -/
def ofEnvironment (environment : List (String × String)) : List (String × Setting) :=
  environment.filterMap fun (n, v) => (placeOf? n).map fun place => (place, .text v)

def overlay (t : Setting) (vs : List (String × Setting)) : Setting :=
  t.assignAll (vs.map fun (n, v) => (.ofText n, v))

/-! ## the settings of a tree -/

/-- the value of a field: under its name in a table, or at its number in an array -/
def field? (t : Setting) (number : Nat) (name : String) : Option Setting :=
  match t with
  | .table es => es.lookup name
  | .array vs => vs[number]?
  | _ => none

/-- the field whose value has another kind than is asked for, or is not there -/
structure Misfit where
  group? : Option String
  field : String
deriving DecidableEq, Repr

def read {α : Type} (convert : Setting → Option α) (t : Setting) (group : Option String)
    (number : Nat) (name : String) : Except Misfit α :=
  match (field? t number name).bind convert with
  | some a => .ok a
  | none => .error ⟨group, name⟩

def group (t : Setting) (number : Nat) (name : String) : Except Misfit Setting :=
  read some t none number name

def readWeb (t : Setting) : Except Misfit WebSettings := do
  let host ← read Setting.text? t (some "web") 0 "host"
  let port ← read (Setting.natural? 0xFFFF) t (some "web") 1 "port"
  return { host := host, port := port }

def readFleet (t : Setting) : Except Misfit FleetSettings := do
  let word := Setting.natural? 0xFFFFFFFF
  let count ← read word t (some "fleet") 0 "count"
  let ipBase ← read Setting.text? t (some "fleet") 1 "ip_base"
  let range ← read word t (some "fleet") 2 "range"
  let battery ← read (Setting.natural? 0xFF) t (some "fleet") 3 "battery"
  return { count := count, ipBase := ipBase, range := range, battery := battery }

def readFlight (t : Setting) : Except Misfit FlightSettings := do
  let long := Setting.natural? 0xFFFFFFFFFFFFFFFF
  let stepInterval ← read long t (some "flight") 0 "step_interval_ms"
  let defaultWait ← read long t (some "flight") 1 "default_wait_ms"
  let takeoffAltitude ← read Setting.real? t (some "flight") 2 "takeoff_altitude"
  let returnSpeed ← read (Setting.natural? 0xFFFFFFFF) t (some "flight") 3 "return_speed"
  return {
    stepInterval := stepInterval
    defaultWait := defaultWait
    takeoffAltitude := takeoffAltitude
    returnSpeed := returnSpeed }

def readLocation (t : Setting) : Except Misfit LocationSettings := do
  let lookupUrl ← read Setting.text? t (some "location") 0 "lookup_url"
  let elevation ← read Setting.real? t (some "location") 1 "elevation"
  return { lookupUrl := lookupUrl, elevation := elevation }

def ofTree (t : Setting) : Except Misfit Settings := do
  let logLevel ← read Setting.text? t none 0 "log_level"
  let web ← readWeb (← group t 1 "web")
  let fleet ← readFleet (← group t 2 "fleet")
  let flight ← readFlight (← group t 3 "flight")
  let location ← readLocation (← group t 4 "location")
  let notify ← group t 5 "notify"
  let capacity ← read (Setting.natural? 0xFFFFFFFFFFFFFFFF) notify (some "notify") 0 "capacity"
  return {
    logLevel := logLevel
    web := web
    fleet := fleet
    flight := flight
    location := location
    capacity := capacity }

def tree (file : List (String × Setting)) (environment : List (String × String)) : Setting :=
  overlay (overlay (overlay (.table []) builtIn) file) (ofEnvironment environment)

def ofLayers (file : List (String × Setting)) (environment : List (String × String)) :
    Except Misfit Settings :=
  ofTree (tree file environment)

end Settings

end DroneFleet
