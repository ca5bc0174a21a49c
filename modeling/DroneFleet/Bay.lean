import DroneFleet.Flight

/-!
# A drone and the runs that work on it

A run is one life of the executor: it takes the commands of its drone's queue, one a step, and
pauses in between. The bay of a drone holds the drone with all its runs, so that what happens in one
bay never touches another.

* `Run`                   one life of the executor
* `Bay`                   a drone, its runs, and the releases that wait for it
* `Report`                what a change publishes and what is remarked of it
* `Bay.connect`, `Bay.disconnect`, `Bay.submit`
                          the operations on a drone
* `Bay.advance`           a step of a run
* `Bay.await`             a run that comes to its first step and waits for the drone
* `Bay.abort`, `Bay.drop` a run that is told to end, and its end
-/

namespace DroneFleet

/-- one life of the executor; times are in milliseconds -/
structure Run where
  serial : Nat
  /-- the zone entered last -/
  zone : Option String
  due : Nat
  /-- did it come to its first step? It may still wait for the drone there -/
  begun : Bool
  cancelled : Bool
deriving DecidableEq, Repr

/-- a run that is told to end, if it is the one of that serial -/
def Run.cancel (serial : Nat) (r : Run) : Run :=
  if r.serial = serial then { r with cancelled := true } else r

/-- a run that comes to its first step, if it is the one of that serial -/
def Run.begin (serial : Nat) (r : Run) : Run :=
  if r.serial = serial then { r with begun := true } else r

/-- a drone, the runs that are alive, in the order in which they went to sleep, and the releases
that wait for the drone -/
structure Bay where
  drone : Drone
  runs : List Run
  /-- how many runs there ever were -/
  spawned : Nat
  /-- does someone else hold the drone? -/
  held : Bool
  releases : Nat
deriving Repr

/-- what a change publishes, with the time, and what is remarked of it -/
structure Report where
  published : List (Nat × Drone.Snapshot) := []
  remarks : List Remark := []

namespace Report

def empty : Report := {}

def append (a b : Report) : Report := ⟨a.published ++ b.published, a.remarks ++ b.remarks⟩

instance : Append Report := ⟨append⟩

def join (rs : List Report) : Report :=
  ⟨rs.flatMap (·.published), rs.flatMap (·.remarks)⟩

def remarking (rs : List Remark) : Report := { remarks := rs }

end Report

inductive FleetError where
  | notFound (id : String)
  | alreadyConnected
  | notConnected
  | droneNotConnected
deriving DecidableEq, Repr

def FleetError.message : FleetError → String
  | .notFound id => "Drone not found: " ++ id
  | .alreadyConnected => "Already connected"
  | .notConnected => "Not connected"
  | .droneNotConnected => "Drone not connected"

namespace Bay

/-- a drone that no run works on -/
def ofDrone (d : Drone) : Bay := ⟨d, [], 0, false, 0⟩

/-! ## operations -/

def connect (b : Bay) : Except FleetError (Bay × Report) :=
  if b.drone.connected then .error .alreadyConnected
  else
    .ok ({ b with drone := { b.drone with connected := true, status := .connected } },
      .remarking [.connected b.drone.id])

/-- ends the connection; commands that wait are gone -/
def disconnect (b : Bay) : Except FleetError (Bay × Report) :=
  if b.drone.connected then
    .ok ({ b with drone := { b.drone with queue := [], connected := false, status := .idle } },
      .remarking [.disconnected b.drone.id])
  else .error .notConnected

def info (b : Bay) : Except FleetError Drone :=
  if b.drone.connected then .ok b.drone else .error .droneNotConnected

def spawn (now : Nat) (b : Bay) : Bay :=
  { b with
    runs := b.runs ++ [⟨b.spawned, none, now, false, false⟩]
    spawned := b.spawned + 1 }

/-- the drone at the start of a flight -/
def prepare (path : List String) (zones : Zones) (d : Drone) : Drone :=
  { d with
    zones := zones
    queue := path
    position := .origin
    yaw := 0
    status := .inFlight
    inFlight := true }

/-- takes a flight in place of the one before; a run that still works on the queue goes on with
it, otherwise one begins -/
def submit (now : Nat) (path : List String) (zones : Zones) (b : Bay) :
    Except FleetError (Bay × Report) :=
  if b.drone.connected then
    let d := prepare path zones b.drone
    let remark := Remark.submitted d.id path.length zones.length
    if d.runActive then
      .ok ({ b with drone := d }, .remarking [remark, .superseded d.id])
    else
      .ok ({ b with drone := { d with runActive := true } }.spawn now, .remarking [remark])
  else .error .droneNotConnected

/-! ## runs -/

def without (serial : Nat) (rs : List Run) : List Run := rs.filter fun r => r.serial ≠ serial

/-- a run among others, in the order in which they went to sleep; one that does not sleep stays in
front -/
def sleeping (pause : Nat) (r : Run) (others : List Run) : List Run :=
  if pause = 0 then r :: others else others ++ [r]

/-- the next step of a run: it goes to sleep again, or it is over -/
def advance (s : FlightSettings) (now : Nat) (r : Run) (b : Bay) : Bay × Report :=
  let f : Flight := ⟨b.drone, r.zone⟩
  let others := without r.serial b.runs
  let remarks := f.stepRemarks s
  match f.step s with
  | .flying g pause =>
    let r := { r with zone := g.zone, due := now + pause, begun := true }
    ({ b with drone := g.drone, runs := sleeping pause r others },
      ⟨[(now, g.drone.snapshot)], remarks⟩)
  | .complete d => ({ b with drone := d, runs := others }, ⟨[(now, d.snapshot)], remarks⟩)

/-- a run comes to its first step while someone else holds the drone, and waits for it -/
def await (r : Run) (b : Bay) : Bay × Report :=
  ({ b with runs := b.runs.map (Run.begin r.serial) }, .empty)

def release (now : Nat) (b : Bay) : Bay × Report :=
  let d := b.drone.release
  ({ b with drone := d }, ⟨[(now, d.snapshot)], [.runEndedEarly d.id]⟩)

def abort (serial : Nat) (b : Bay) : Bay := { b with runs := b.runs.map (Run.cancel serial) }

/-- the end of a run that was told so. One that has begun releases the drone, now or, if someone
else holds it, once they let go; one that has not leaves everything as it is. -/
def drop (now : Nat) (r : Run) (b : Bay) : Bay × Report :=
  let b := { b with runs := without r.serial b.runs }
  if r.begun then
    if b.held then ({ b with releases := b.releases + 1 }, .empty) else b.release now
  else (b, .empty)

def releaseLate (now : Nat) (b : Bay) : Bay × Report :=
  { b with releases := b.releases - 1 }.release now

def alive (serial : Nat) (b : Bay) : Bool := b.runs.any fun r => r.serial = serial

end Bay

end DroneFleet
