import DroneFleet.Drone
import DroneFleet.Json.Printer

/-!
# Drones on the wire

* `Drone.toJson`             the whole record; zones and the mark of an active run stay inside
* `Drone.Snapshot.toJson`    what observers are told
* `Drone.Summary.toJson`     an entry of a listing
* `Notice`                   a message to observers
* `Notice.toJson`            its form, told apart by `type`
-/

namespace DroneFleet

/-- a point as an object; a coordinate that is not finite is null -/
def Point.toJson (p : Point Float) : Json :=
  .object [("x", .ofFloat p.x), ("y", .ofFloat p.y), ("z", .ofFloat p.z)]

def Drone.toJson (d : Drone) : Json :=
  .object
    [("id", .string d.id), ("ip", .string d.ip), ("connected", .bool d.connected),
     ("streamon", .bool d.streaming), ("inFlight", .bool d.inFlight), ("range", .ofInt d.range),
     ("battery", .ofInt d.battery), ("yaw", .ofInt d.yaw), ("position", d.position.toJson),
     ("status", .string d.status.text), ("commandQueue", .ofStrings d.queue)]

def Drone.Snapshot.toJson (s : Drone.Snapshot) : Json :=
  .object
    [("id", .string s.id), ("connected", .bool s.connected), ("status", .string s.status.text),
     ("battery", .ofInt s.battery), ("position", s.position.toJson), ("yaw", .ofInt s.yaw),
     ("inFlight", .bool s.inFlight)]

def Drone.Summary.toJson (s : Drone.Summary) : Json :=
  .object
    [("id", .string s.id), ("ip", .string s.ip), ("range", .ofInt s.range),
     ("streamon", .bool s.streaming), ("connected", .bool s.connected),
     ("status", .string s.status.text)]

inductive Notice where
  | info (message : String)
  | status (drone : Drone.Snapshot)
deriving Repr

namespace Notice

/-- the message that every observer gets first -/
def greeting : Notice := .info "Connected to Tello Mock Server"

/-- the form of a message, told apart by `type` -/
def toJson : Notice → Json
  | .info message => .object [("type", .string "info"), ("message", .string message)]
  | .status s => .object [("type", .string "status"), ("drone", s.toJson)]

end Notice

end DroneFleet
