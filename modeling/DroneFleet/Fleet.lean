import DroneFleet.Bay
import DroneFleet.Channel
import DroneFleet.Drone.Wire

/-!
# The fleet

A fixed roster of drones in the order of their ids, the runs that work on them, the time, and the
channel to observers.

* `Fleet`                 the state of everything
* `Fleet.ofDrones`        the fleet of a roster; of two drones with one id the later counts
* `Fleet.seeded`          the fleet of a configuration
* `Fleet.operate`         an operation on the drone of an id
* `Fleet.connect`, `Fleet.disconnect`, `Fleet.info`, `Fleet.submit`, `Fleet.discovery`
* `Fleet.requeue`         the fleet after a drone had its turn
* `bay?_set`              another bay in one place leaves all others alone
-/

namespace DroneFleet

structure FleetSettings where
  count : Nat := 4
  ipBase : String := "127.0.0."
  range : Nat := 4500
  battery : Nat := 100

/-- the drones with their runs, the time in milliseconds, and the channel to observers -/
structure Fleet where
  bays : List Bay
  settings : FlightSettings
  clock : Nat
  channel : Channel Notice
  /-- the ids of the drones that flew, the one whose last turn is longest ago in front -/
  turns : List String

namespace Fleet

/-! ## rosters -/

/-- a drone put in its place by id; it replaces one of the same id -/
def place (d : Drone) : List Bay → List Bay
  | [] => [.ofDrone d]
  | b :: bs =>
    if d.id = b.drone.id then .ofDrone d :: bs
    else if d.id < b.drone.id then .ofDrone d :: b :: bs
    else b :: place d bs

def ofDrones (ds : List Drone) (settings : FlightSettings) (capacity : Nat) : Fleet where
  bays := ds.foldl (fun bs d => place d bs) []
  settings := settings
  clock := 0
  channel := .new capacity
  turns := []

def seed (s : FleetSettings) (i : Nat) : Drone :=
  .new ("tello-" ++ naturalString i) (s.ipBase ++ naturalString (100 + i)) s.range s.battery

def seeds (s : FleetSettings) : List Drone := (List.range s.count).map fun i => seed s (i + 1)

def seeded (s : FleetSettings) (settings : FlightSettings) (capacity : Nat) : Fleet × Report :=
  (ofDrones (seeds s) settings capacity, .remarking [.seeded s.count])

/-! ## operations -/

def bay? (f : Fleet) (id : String) : Option Bay := f.bays.find? fun b => b.drone.id = id

/-- the fleet with another bay in the place of the one of its id -/
def set (f : Fleet) (id : String) (b : Bay) : Fleet :=
  { f with bays := f.bays.map fun c => if c.drone.id = id then b else c }

theorem bay?_set (f : Fleet) {id : String} {b : Bay} (h : b.drone.id = id) (other : String) :
    (f.set id b).bay? other = if other = id then (f.bay? id).map fun _ => b else f.bay? other := by
  unfold bay? set
  induction f.bays with
  | nil => simp
  | cons c cs ih =>
    simp only [List.map_cons, List.find?_cons]
    by_cases hc : c.drone.id = id
    · by_cases ho : other = id
      · simp [hc, ho, h]
      · have hid : ¬ id = other := fun e => ho e.symm
        simp only [hc, ho, h, hid, if_true, if_false, decide_false] at ih ⊢
        exact ih
    · by_cases ho : other = id
      · subst ho
        simp only [hc, if_true, if_false, decide_false] at ih ⊢
        exact ih
      · by_cases hco : c.drone.id = other
        · simp [ho, hco]
        · simp only [hc, ho, hco, if_false, decide_false] at ih ⊢
          exact ih

def tell (r : Report) (f : Fleet) : Fleet :=
  { f with channel := r.published.foldl (fun c p => c.publish (.status p.2)) f.channel }

/-- a change of the bay of an id, and its report told -/
def operate (f : Fleet) (id : String) (change : Bay → Except FleetError (Bay × Report)) :
    Except FleetError (Fleet × Report) :=
  match f.bay? id with
  | none => .error (.notFound id)
  | some b =>
    match change b with
    | .ok (b, r) => .ok ((f.set id b).tell r, r)
    | .error e => .error e

def connect (f : Fleet) (id : String) : Except FleetError (Fleet × Report) :=
  f.operate id Bay.connect

def disconnect (f : Fleet) (id : String) : Except FleetError (Fleet × Report) :=
  f.operate id Bay.disconnect

def requeue (id : String) (f : Fleet) : Fleet :=
  { f with turns := f.turns.filter (· ≠ id) ++ [id] }

/-- does a run work on the queue of a drone? -/
def flies (f : Fleet) (id : String) : Bool := (f.bay? id).any fun b => b.drone.runActive

/-- submits a flight; a drone whose run goes on keeps its turn -/
def submit (f : Fleet) (id : String) (path : List String) (zones : Zones) :
    Except FleetError (Fleet × Report) :=
  match f.operate id (Bay.submit f.clock path zones) with
  | .ok (g, r) => .ok (if f.flies id then g else g.requeue id, r)
  | .error e => .error e

def info (f : Fleet) (id : String) : Except FleetError Drone :=
  match f.bay? id with
  | none => .error (.notFound id)
  | some b => b.info

def discovery (f : Fleet) : List Drone.Summary := f.bays.map fun b => b.drone.summary

/-! ## observers -/

def receive (f : Fleet) (name : String) : Option (Reception Notice × Fleet × Report) :=
  (f.channel.receive name).map fun (r, c) =>
    let remarks := match r with
      | .notice skipped _ => if skipped = 0 then [] else [Remark.lagging skipped]
      | _ => []
    (r, { f with channel := c }, .remarking remarks)

end Fleet

end DroneFleet
