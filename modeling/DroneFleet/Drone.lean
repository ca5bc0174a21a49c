import DroneFleet.Heading
import DroneFleet.Point
import DroneFleet.Zone

/-!
# Drones

* `Status`           what a drone is doing, with the text that shows it
* `Drone`            everything known about one drone
* `Drone.Snapshot`   what observers are told
* `Drone.Summary`    what a listing shows
* `Drone.finish`     a drone whose run is over
* `Drone.release`    a drone whose run ended before its queue was empty
* `Drone.turn`       a drone turned to the right or to the left
-/

namespace DroneFleet

inductive Status where
  | idle
  | connected
  | inFlight
  | executing (command : String)
  | takeoff
  | landed
  | complete
deriving DecidableEq, Repr

def Status.text : Status → String
  | .idle => "idle"
  | .connected => "connected"
  | .inFlight => "in-flight"
  | .executing command => "executing: " ++ command
  | .takeoff => "takeoff"
  | .landed => "landed"
  | .complete => "complete"

structure Drone where
  id : String
  ip : String
  connected : Bool
  streaming : Bool
  inFlight : Bool
  range : Nat
  battery : Nat
  yaw : Int
  position : Point Float
  status : Status
  queue : List String
  zones : Zones
  /-- does a run work on the queue? -/
  runActive : Bool
deriving Repr

namespace Drone

def new (id ip : String) (range battery : Nat) : Drone where
  id := id
  ip := ip
  connected := false
  streaming := false
  inFlight := false
  range := range
  battery := battery
  yaw := 0
  position := .origin
  status := .idle
  queue := []
  zones := []
  runActive := false

/-- what observers are told after a step -/
structure Snapshot where
  id : String
  connected : Bool
  status : Status
  battery : Nat
  position : Point Float
  yaw : Int
  inFlight : Bool
deriving Repr

structure Summary where
  id : String
  ip : String
  range : Nat
  streaming : Bool
  connected : Bool
  status : Status
deriving Repr

def snapshot (d : Drone) : Snapshot where
  id := d.id
  connected := d.connected
  status := d.status
  battery := d.battery
  position := d.position
  yaw := d.yaw
  inFlight := d.inFlight

def summary (d : Drone) : Summary where
  id := d.id
  ip := d.ip
  range := d.range
  streaming := d.streaming
  connected := d.connected
  status := d.status

def finish (d : Drone) : Drone :=
  { d with inFlight := false, status := .complete, runActive := false }

/-- the drone after its run ended early: nothing is left to execute -/
def release (d : Drone) : Drone :=
  { d with queue := [] }.finish

def turn (d : Drone) (right : Bool) (degrees : Int) : Drone :=
  { d with yaw :=
      if right then Heading.clockwise d.yaw degrees else Heading.counterclockwise d.yaw degrees }

end Drone

end DroneFleet
