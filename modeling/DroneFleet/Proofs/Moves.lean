import DroneFleet.Bay
import DroneFleet.Proofs.Commands

/-!
# What can happen to one drone

Operations and the steps of its runs, in any order. An operation that is refused changes nothing,
and neither does a step of a run that is not there.

* `Bay.Event`, `Bay.respond`   what can happen to a drone, and what comes of it
* `Bay.Moves`                  the same as a relation, one case for each thing that can come of it
* `Bay.moves_respond`          the two agree
* `Bay.Moves.id_eq`, `Bay.Moves.id_of_published`   a drone keeps its id, and only it is told of
-/

namespace DroneFleet

/-- what comes of an operation; one that is refused changes nothing -/
def attempted {α : Type} (a : α) : Except FleetError (α × Report) → α × Report
  | .ok r => r
  | .error _ => (a, .empty)

namespace Bay

inductive Event where
  | connect
  | disconnect
  | submit (path : List String) (zones : Zones)
  /-- the run of that serial takes its next step -/
  | step (serial : Nat)

/-- the bay after an event, and what was reported -/
def respond (s : FlightSettings) (now : Nat) (b : Bay) : Event → Bay × Report
  | .connect => attempted b b.connect
  | .disconnect => attempted b b.disconnect
  | .submit path zones => attempted b (b.submit now path zones)
  | .step serial =>
    match b.runs.find? fun r => r.serial = serial with
    | some r => b.advance s now r
    | none => (b, .empty)

/-- is the event refused, or about a run that is not there? -/
def Refuses (b : Bay) : Event → Prop
  | .connect => b.drone.connected = true
  | .disconnect => b.drone.connected = false
  | .submit _ _ => b.drone.connected = false
  | .step serial => ∀ r ∈ b.runs, r.serial ≠ serial

/-- the flight that a run is on -/
def flight (b : Bay) (r : Run) : Flight := ⟨b.drone, r.zone⟩

def executed (s : FlightSettings) (b : Bay) (r : Run) (raw : String) (rest : List String) :
    Flight :=
  ((b.flight r).pop raw rest).apply s (.parse raw)

def paused (now pause : Nat) (zone : Option String) (r : Run) : Run :=
  { r with zone := zone, due := now + pause, begun := true }

/-- all that can come of an event -/
inductive Moves (s : FlightSettings) (now : Nat) (b : Bay) : Event → Bay → Report → Prop where
  | refused {e : Event} (h : b.Refuses e) : Moves s now b e b .empty
  | connect (h : b.drone.connected = false) :
    Moves s now b .connect
      { b with drone := { b.drone with connected := true, status := .connected } }
      (.remarking [.connected b.drone.id])
  | disconnect (h : b.drone.connected = true) :
    Moves s now b .disconnect
      { b with drone := { b.drone with queue := [], connected := false, status := .idle } }
      (.remarking [.disconnected b.drone.id])
  /-- a flight is accepted, and a run begins -/
  | launch {path : List String} {zones : Zones} (h : b.drone.connected = true)
      (ha : b.drone.runActive = false) :
    Moves s now b (.submit path zones)
      ({ b with drone := { prepare path zones b.drone with runActive := true } }.spawn now)
      (.remarking [.submitted b.drone.id path.length zones.length])
  /-- a flight is accepted, and the run that is there goes on with it -/
  | supersede {path : List String} {zones : Zones} (h : b.drone.connected = true)
      (ha : b.drone.runActive = true) :
    Moves s now b (.submit path zones) { b with drone := prepare path zones b.drone }
      (.remarking [.submitted b.drone.id path.length zones.length, .superseded b.drone.id])
  /-- a run executes the first command of the queue -/
  | execute {r : Run} {raw : String} {rest : List String} (h : r ∈ b.runs)
      (hq : b.drone.queue = raw :: rest) :
    Moves s now b (.step r.serial)
      { b with
        drone := (b.executed s r raw rest).drone
        runs := sleeping ((Command.parse raw).pause s)
          (paused now ((Command.parse raw).pause s) (b.executed s r raw rest).zone r)
          (without r.serial b.runs) }
      ⟨[(now, (b.executed s r raw rest).drone.snapshot)], (b.flight r).stepRemarks s⟩
  /-- a run finds the queue empty -/
  | complete {r : Run} (h : r ∈ b.runs) (hq : b.drone.queue = []) :
    Moves s now b (.step r.serial)
      { b with drone := b.drone.finish, runs := without r.serial b.runs }
      ⟨[(now, b.drone.finish.snapshot)], (b.flight r).stepRemarks s⟩

section
variable {s : FlightSettings} {now : Nat} {b : Bay}

theorem moves_connect : b.Moves s now .connect (b.respond s now .connect).1
    (b.respond s now .connect).2 := by
  unfold respond connect
  cases h : b.drone.connected with
  | true => exact .refused h
  | false => exact .connect h

theorem moves_disconnect : b.Moves s now .disconnect (b.respond s now .disconnect).1
    (b.respond s now .disconnect).2 := by
  unfold respond disconnect
  cases h : b.drone.connected with
  | true => exact .disconnect h
  | false => exact .refused h

theorem moves_submit (path : List String) (zones : Zones) :
    b.Moves s now (.submit path zones) (b.respond s now (.submit path zones)).1
      (b.respond s now (.submit path zones)).2 := by
  unfold respond submit
  cases h : b.drone.connected with
  | false => exact .refused h
  | true =>
    have hr : (prepare path zones b.drone).runActive = b.drone.runActive := rfl
    simp only [hr]
    cases ha : b.drone.runActive with
    | true => exact .supersede h ha
    | false => exact .launch h ha

theorem advance_of_nil (now : Nat) (r : Run) (hq : b.drone.queue = []) :
    b.advance s now r =
      ({ b with drone := b.drone.finish, runs := without r.serial b.runs },
        ⟨[(now, b.drone.finish.snapshot)], (b.flight r).stepRemarks s⟩) := by
  have hs : (b.flight r).step s = .complete b.drone.finish := Flight.step_of_nil hq
  unfold flight at hs
  simp only [advance, hs]
  rfl

theorem advance_of_cons (now : Nat) (r : Run) {raw : String} {rest : List String}
    (hq : b.drone.queue = raw :: rest) :
    b.advance s now r =
      ({ b with
          drone := (b.executed s r raw rest).drone
          runs := sleeping ((Command.parse raw).pause s)
            (paused now ((Command.parse raw).pause s) (b.executed s r raw rest).zone r)
            (without r.serial b.runs) },
        ⟨[(now, (b.executed s r raw rest).drone.snapshot)], (b.flight r).stepRemarks s⟩) := by
  have hs : (b.flight r).step s =
      .flying (b.executed s r raw rest) ((Command.parse raw).pause s) := Flight.step_of_cons hq
  unfold flight at hs
  simp only [advance, hs]
  rfl

theorem moves_advance {r : Run} (h : r ∈ b.runs) :
    b.Moves s now (.step r.serial) (b.advance s now r).1 (b.advance s now r).2 := by
  cases hq : b.drone.queue with
  | nil =>
    rw [advance_of_nil now r hq]
    exact .complete h hq
  | cons raw rest =>
    rw [advance_of_cons now r hq]
    exact .execute h hq

theorem moves_step (serial : Nat) : b.Moves s now (.step serial) (b.respond s now (.step serial)).1
    (b.respond s now (.step serial)).2 := by
  cases hr : b.runs.find? fun r => r.serial = serial with
  | none =>
    have gone : b.Refuses (.step serial) := fun r h => by
      simpa using List.find?_eq_none.mp hr r h
    simp only [respond, hr]
    exact .refused gone
  | some r =>
    have hs : r.serial = serial := by simpa using List.find?_some hr
    subst hs
    simp only [respond, hr]
    exact moves_advance (List.mem_of_find?_eq_some hr)

/-- what comes of an event is one of the moves -/
theorem moves_respond (s : FlightSettings) (now : Nat) (b : Bay) (e : Event) :
    b.Moves s now e (b.respond s now e).1 (b.respond s now e).2 := by
  cases e with
  | connect => exact moves_connect
  | disconnect => exact moves_disconnect
  | submit path zones => exact moves_submit path zones
  | step serial => exact moves_step serial

/-! ## what every move keeps -/

theorem standing_executed (r : Run) (raw : String) (rest : List String) :
    (b.executed s r raw rest).drone.standing = b.drone.standing := by
  unfold executed
  rw [Flight.standing_apply, Flight.standing_pop]
  rfl

theorem id_executed (r : Run) (raw : String) (rest : List String) :
    (b.executed s r raw rest).drone.id = b.drone.id :=
  congrArg Drone.Standing.id (standing_executed r raw rest)

theorem Moves.id_eq {e : Event} {c : Bay} {rep : Report} (h : b.Moves s now e c rep) :
    c.drone.id = b.drone.id := by
  cases h with
  | execute h hq => exact id_executed _ _ _
  | _ => rfl

theorem Moves.id_of_published {e : Event} {c : Bay} {rep : Report} (h : b.Moves s now e c rep)
    {p : Nat × Drone.Snapshot} (hp : p ∈ rep.published) : p.2.id = b.drone.id := by
  cases h with
  | execute h hq =>
    obtain rfl := List.mem_singleton.mp hp
    exact id_executed _ _ _
  | complete h hq =>
    obtain rfl := List.mem_singleton.mp hp
    rfl
  | _ => cases hp

theorem Moves.time_of_published {e : Event} {c : Bay} {rep : Report} (h : b.Moves s now e c rep)
    {p : Nat × Drone.Snapshot} (hp : p ∈ rep.published) : p.1 = now := by
  cases h with
  | execute h hq =>
    obtain rfl := List.mem_singleton.mp hp
    rfl
  | complete h hq =>
    obtain rfl := List.mem_singleton.mp hp
    rfl
  | _ => cases hp

theorem id_respond (s : FlightSettings) (now : Nat) (b : Bay) (e : Event) :
    (b.respond s now e).1.drone.id = b.drone.id :=
  (moves_respond s now b e).id_eq

end

end Bay

end DroneFleet
