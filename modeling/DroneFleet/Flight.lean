import DroneFleet.Command.Parser
import DroneFleet.Drone
import DroneFleet.Journal

/-!
# Flights

A flight takes the commands of a drone's queue one by one. Zones and corrections of the heading
put commands of their own in front of the queue.

* `Flight`             a drone in flight, with the zone it entered last
* `Flight.enter`       a zone's script in front of the queue, and the way back after it
* `Flight.apply`       the effect of one command
* `Flight.remarks`     what is remarked of it
* `Flight.step`        the next command of the queue, or the end of the flight
-/

namespace DroneFleet

/-- a drone in flight, with the zone it entered last -/
structure Flight where
  drone : Drone
  zone : Option String
deriving Repr

namespace Flight

/-! ## zones -/

/-- a coordinate of the way back: how far the one place is behind the other, to whole units -/
def offset (current saved : Float) : Int :=
  (Binary64.ofFloat (-(current - saved))).toInt64

/-- the commands after a zone's script: back to where the drone was, and to the heading it had.
Both are taken before the script moves the drone, so that only the turn has an effect. -/
def returnManeuver (d : Drone) (returnSpeed : Nat) : List String :=
  let saved := d.position
  let current := d.position
  let way := [offset current.x saved.x, offset current.y saved.y, offset current.z saved.z,
    (returnSpeed : Int)]
  ["go " ++ " ".intercalate (way.map integerString),
    "ccw " ++ integerString (Heading.toNorth d.yaw)]

/-- what entering a zone puts in front of the queue; nothing for an empty script -/
def injected (d : Drone) (returnSpeed : Nat) : List String → List String
  | [] => []
  | script => script ++ returnManeuver d returnSpeed

/-- the flight after it entered a zone; a zone without a script is not entered -/
def enter (returnSpeed : Nat) (zone : String) (f : Flight) : Flight :=
  match f.drone.zones.script? zone with
  | none => f
  | some script =>
    { drone := { f.drone with queue := injected f.drone returnSpeed script ++ f.drone.queue }
      zone := some zone }

/-! ## commands -/

def apply (s : FlightSettings) (c : Command) (f : Flight) : Flight :=
  let d := f.drone
  match c with
  | .takeoff =>
    { f with drone :=
        { d with position := { d.position with z := s.takeoffAltitude }, status := .takeoff } }
  | .land =>
    { f with drone := { d with position := { d.position with z := 0.0 }, status := .landed } }
  | .rotate right (some degrees) => { f with drone := d.turn right degrees }
  | .rotate _ none => f
  | .move direction distance =>
    { f with drone := { d with position := d.position.advance d.yaw direction distance } }
  | .go shift _ => { f with drone := { d with position := d.position.translate shift } }
  | .curve _ target _ => { f with drone := { d with position := d.position.translate target } }
  | .streamOn => { f with drone := { d with streaming := true } }
  | .streamOff => { f with drone := { d with streaming := false } }
  | .record _ => f
  | .clear => { f with drone := { d with queue := [] } }
  | .resetDirection =>
    if 0 < d.yaw then
      { f with drone := { d with queue := ("ccw " ++ integerString d.yaw) :: d.queue } }
    else f
  | .action (some zone) => f.enter s.returnSpeed zone
  | .action none => f
  | .wait _ => f
  | .incomplete _ => f
  | .unknown _ => f

def enterRemarks (returnSpeed : Nat) (zone : String) (f : Flight) : List Remark :=
  match f.drone.zones.script? zone with
  | none => [.noScript f.drone.id zone]
  | some [] => []
  | some script => [.enteringZone f.drone.id zone (injected f.drone returnSpeed script).length]

def remarks (s : FlightSettings) (c : Command) (f : Flight) : List Remark :=
  let d := f.drone
  match c with
  | .rotate _ none => [.noAngle d.id]
  | .record seconds => if d.streaming then [.recording d.id f.zone seconds] else []
  | .action (some zone) => f.enterRemarks s.returnSpeed zone
  | .incomplete operator => [.tooFewOperands d.id operator]
  | .unknown operator => [.unknownOperator d.id operator]
  | _ => []

/-! ## steps -/

inductive Progress where
  /-- a command was executed; the next step follows after the pause -/
  | flying (flight : Flight) (pause : Nat)
  | complete (drone : Drone)

/-- the flight with the first command of the queue taken off and shown -/
def pop (raw : String) (rest : List String) (f : Flight) : Flight :=
  { f with drone := { f.drone with queue := rest, status := .executing raw } }

def step (s : FlightSettings) (f : Flight) : Progress :=
  match f.drone.queue with
  | [] => .complete f.drone.finish
  | raw :: rest =>
    let c := Command.parse raw
    .flying ((f.pop raw rest).apply s c) (c.pause s)

def stepRemarks (s : FlightSettings) (f : Flight) : List Remark :=
  match f.drone.queue with
  | [] => [.flightComplete f.drone.id]
  | raw :: rest =>
    let c := Command.parse raw
    (f.pop raw rest).remarks s c ++
      match c.wait? s with
      | some millis => [.waiting f.drone.id millis]
      | none => []

end Flight

end DroneFleet
