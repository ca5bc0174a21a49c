import DroneFleet.Point

/-!
# Commands

* `Command`          one decoded command of a flight
* `FlightSettings`   what a flight takes from the configuration
* `Command.wait?`    the pause that a command asks for itself
* `Command.pause`    the pause after a command
-/

namespace DroneFleet

/-- one command of a flight. An operand that cannot be read stays in the command as a coordinate
that is not a number, or as an integer that is not there. -/
inductive Command where
  | takeoff
  | land
  | rotate (clockwise : Bool) (degrees : Option Int)
  | move (direction : Direction) (distance : Float)
  | go (displacement : Point Float) (speed : Float)
  | curve (control target : Point Float) (speed : Float)
  | streamOn
  | streamOff
  | record (seconds : Option Int)
  | clear
  | resetDirection
  | action (zone : Option String)
  | wait (millis : Option Int)
  /-- a known operator with too few operands -/
  | incomplete (operator : String)
  | unknown (operator : String)
deriving Repr

/-- what a flight takes from the configuration; times are in milliseconds -/
structure FlightSettings where
  stepInterval : Nat := 500
  defaultWait : Nat := 1000
  takeoffAltitude : Float := 80.0
  returnSpeed : Nat := 50

namespace Command

/-- the pause that a command asks for itself: only `wait` does, for the default time if its operand
is missing, unreadable or zero, and for no time if it is negative -/
def wait? (s : FlightSettings) : Command → Option Nat
  | .wait none => some s.defaultWait
  | .wait (some ms) => some (if ms = 0 then s.defaultWait else ms.toNat)
  | _ => none

def pause (s : FlightSettings) (c : Command) : Nat := (c.wait? s).getD s.stepInterval

end Command

end DroneFleet
