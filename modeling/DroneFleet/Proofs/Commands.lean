import DroneFleet.Flight

/-!
# What a command leaves alone

A command works on the position, the heading, the stream, the queue and the status of a drone. What
a drone is and how it stands with the fleet stays as it was.

* `Drone.Standing`           the part of a drone that no command touches
* `Flight.standing_apply`    it is the same after a command
* `Status.flies`             the statuses of a drone that is up to something
* `Flight.status_apply`      a command keeps the status, or it is the one of `takeoff` or `land`
* `Flight.drone_apply`       the zone entered last does not matter for what a command does
* `Flight.step_of_nil`, `Flight.step_of_cons`   a step at the end of the queue, and before it
* `Flight.onto`              a flight with more commands behind its queue
* `Flight.apply_onto`        a command leaves them where they are, unless it clears the queue
-/

namespace DroneFleet

/-! ## the standing of a drone -/

/-- what a drone is and how it stands with the fleet -/
structure Drone.Standing where
  id : String
  ip : String
  connected : Bool
  inFlight : Bool
  range : Nat
  battery : Nat
  zones : Zones
  runActive : Bool

def Drone.standing (d : Drone) : Standing where
  id := d.id
  ip := d.ip
  connected := d.connected
  inFlight := d.inFlight
  range := d.range
  battery := d.battery
  zones := d.zones
  runActive := d.runActive

namespace Flight

theorem standing_pop (raw : String) (rest : List String) (f : Flight) :
    (f.pop raw rest).drone.standing = f.drone.standing := rfl

theorem standing_enter (returnSpeed : Nat) (zone : String) (f : Flight) :
    (f.enter returnSpeed zone).drone.standing = f.drone.standing := by
  unfold enter
  split <;> rfl

theorem standing_apply (s : FlightSettings) (c : Command) (f : Flight) :
    (f.apply s c).drone.standing = f.drone.standing := by
  cases c with
  | rotate right degrees => cases degrees <;> rfl
  | resetDirection =>
    simp only [apply]
    split <;> rfl
  | action zone =>
    cases zone with
    | none => rfl
    | some zone => exact standing_enter s.returnSpeed zone f
  | _ => rfl

end Flight

/-! ## the status -/

/-- is a drone of this status up to something? -/
def Status.flies : Status → Bool
  | .inFlight => true
  | .executing _ => true
  | .takeoff => true
  | .landed => true
  | _ => false

namespace Flight

theorem status_apply (s : FlightSettings) (c : Command) (f : Flight) :
    (f.apply s c).drone.status = f.drone.status ∨ (f.apply s c).drone.status = .takeoff ∨
      (f.apply s c).drone.status = .landed := by
  cases c with
  | takeoff => exact Or.inr (Or.inl rfl)
  | land => exact Or.inr (Or.inr rfl)
  | rotate right degrees => cases degrees <;> exact Or.inl rfl
  | resetDirection =>
    simp only [apply]
    split <;> exact Or.inl rfl
  | action zone =>
    cases zone with
    | none => exact Or.inl rfl
    | some zone =>
      refine Or.inl ?_
      show (f.enter s.returnSpeed zone).drone.status = _
      unfold enter
      split <;> rfl
  | _ => exact Or.inl rfl

theorem flies_apply_pop (s : FlightSettings) (c : Command) (raw : String) (rest : List String)
    (f : Flight) : ((f.pop raw rest).apply s c).drone.status.flies = true := by
  rcases status_apply s c (f.pop raw rest) with h | h | h <;> rw [h] <;> rfl

/-! ## the zone entered last -/

/-- the zone entered last does not matter for what a command does to a drone -/
theorem drone_apply (s : FlightSettings) (c : Command) (d : Drone) (zone other : Option String) :
    (apply s c ⟨d, zone⟩).drone = (apply s c ⟨d, other⟩).drone := by
  cases c with
  | rotate right degrees => cases degrees <;> rfl
  | resetDirection =>
    simp only [apply]
    split <;> rfl
  | action entered =>
    cases entered with
    | none => rfl
    | some name =>
      show (enter s.returnSpeed name ⟨d, zone⟩).drone = (enter s.returnSpeed name ⟨d, other⟩).drone
      unfold enter
      cases d.zones.script? name <;> rfl
  | _ => rfl

/-! ## steps -/

section
variable {s : FlightSettings} {f : Flight}

theorem step_of_nil (h : f.drone.queue = []) : f.step s = .complete f.drone.finish := by
  unfold step
  rw [h]

theorem step_of_cons {raw : String} {rest : List String} (h : f.drone.queue = raw :: rest) :
    f.step s = .flying ((f.pop raw rest).apply s (.parse raw)) ((Command.parse raw).pause s) := by
  unfold step
  rw [h]

end

/-! ## commands behind the queue -/

/-- the flight with more commands behind its queue -/
def onto (ys : List String) (f : Flight) : Flight :=
  { f with drone := { f.drone with queue := f.drone.queue ++ ys } }

theorem onto_of_queue_nil {f : Flight} (h : f.drone.queue = []) (ys : List String) :
    f.onto ys = { f with drone := { f.drone with queue := ys } } := by
  unfold onto
  rw [h]
  rfl

theorem pop_onto (raw : String) (rest ys : List String) (f : Flight) :
    (f.onto ys).pop raw (rest ++ ys) = (f.pop raw rest).onto ys := rfl

theorem enter_onto (returnSpeed : Nat) (zone : String) (ys : List String) (f : Flight) :
    (f.onto ys).enter returnSpeed zone = (f.enter returnSpeed zone).onto ys := by
  unfold enter
  have hz : (f.onto ys).drone.zones.script? zone = f.drone.zones.script? zone := rfl
  rw [hz]
  cases f.drone.zones.script? zone with
  | none => rfl
  | some script =>
    have hi : injected (f.onto ys).drone returnSpeed script =
        injected f.drone returnSpeed script := by
      cases script <;> rfl
    show ({ drone := { f.drone with
              queue := injected (f.onto ys).drone returnSpeed script ++ (f.drone.queue ++ ys) }
            zone := some zone } : Flight) = _
    rw [hi, ← List.append_assoc]
    rfl

/-- a command that does not clear the queue leaves the commands behind it where they are -/
theorem apply_onto (s : FlightSettings) {c : Command} (h : c ≠ .clear) (ys : List String)
    (f : Flight) : (f.onto ys).apply s c = (f.apply s c).onto ys := by
  cases c with
  | clear => exact absurd rfl h
  | rotate right degrees => cases degrees <;> rfl
  | resetDirection =>
    have hy : (f.onto ys).drone.yaw = f.drone.yaw := rfl
    simp only [apply, hy]
    split <;> rfl
  | action zone =>
    cases zone with
    | none => rfl
    | some zone => exact enter_onto s.returnSpeed zone ys f
  | _ => rfl

theorem apply_clear_onto (s : FlightSettings) (ys : List String) (f : Flight) :
    (f.onto ys).apply s .clear = f.apply s .clear := rfl

end Flight

end DroneFleet
