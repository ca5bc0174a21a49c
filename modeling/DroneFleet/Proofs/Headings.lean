import DroneFleet.Proofs.LateRelease
import DroneFleet.Proofs.Machine
import DroneFleet.Proofs.Poses
import DroneFleet.Proofs.Sightings

/-!
# Commands carried out on a machine

A turn adds to a heading, the way back from a zone takes one from a full turn and casts coordinates
to integers, and a wait becomes a duration. All of it fits in 64 bits as long as the heading lies
within one full turn; and whatever is done to a drone, it does.

* `Machine.rotate`, `Machine.enter`, `Machine.apply`, `Machine.pause`   what commands compute
* `Machine.execute`, `Machine.execute_eq`   a text read and carried out, which never fails
* `Flight.normal_apply`   a command leaves the heading within one full turn
* `Bay.normal_life`       so does everything that can happen to a drone, early ends included
* `Fleet.normal_after`    and to a fleet
* `Fleet.no_command_fails`   all of it together
-/

namespace DroneFleet

namespace Machine

def rotate (d : Drone) (degrees : Int) : Checked Drone := do
  let turn ← emod degrees 360
  let sum ← add d.yaw turn
  return { d with yaw := ← emod sum 360 }

def returnManeuver (d : Drone) (returnSpeed : Nat) : Checked (List String) := do
  let saved := d.position
  let current := d.position
  let x ← signed (Flight.offset current.x saved.x)
  let y ← signed (Flight.offset current.y saved.y)
  let z ← signed (Flight.offset current.z saved.z)
  let rest ← sub 360 d.yaw
  let turn ← tmod rest 360
  return ["go " ++ " ".intercalate ([x, y, z, (returnSpeed : Int)].map integerString),
    "ccw " ++ integerString turn]

def enter (returnSpeed : Nat) (zone : String) (f : Flight) : Checked Flight :=
  match f.drone.zones.script? zone with
  | none => return f
  | some [] => return { f with zone := some zone }
  | some script => do
    let back ← returnManeuver f.drone returnSpeed
    return { drone := { f.drone with queue := script ++ back ++ f.drone.queue }, zone := some zone }

/-- the effect of a command; those that compute no integer are as they are -/
def apply (s : FlightSettings) (c : Command) (f : Flight) : Checked Flight :=
  match c with
  | .rotate true (some degrees) => do
    let d ← rotate f.drone (← signed degrees)
    return { f with drone := d }
  | .rotate false (some degrees) => do
    let turn ← emod (← signed degrees) 360
    let d ← rotate f.drone (← neg turn)
    return { f with drone := d }
  | .action (some zone) => enter s.returnSpeed zone f
  | c => return f.apply s c

def pause (s : FlightSettings) : Command → Checked Nat
  | .wait (some ms) => do
    let ms ← signed ms
    if ms = 0 then return s.defaultWait else unsigned (max ms 0)
  | c => return c.pause s

/-- a text read and carried out: the flight after it, and the pause -/
def execute (s : FlightSettings) (raw : String) (f : Flight) : Checked (Flight × Nat) := do
  let c ← parse raw
  let g ← apply s c f
  let millis ← pause s c
  return (g, millis)

section
variable {s : FlightSettings} {f : Flight} {d : Drone}

theorem rotate_eq (h : Heading.Normal d.yaw) (degrees : Int) :
    rotate d degrees = .ok (d.turn true degrees) := by
  have ⟨least, greatest⟩ := h
  unfold Heading.fullTurn at greatest
  have sum : add d.yaw (degrees % 360) = .ok (d.yaw + degrees % 360) :=
    signed_of_small (by omega) (by omega)
  unfold rotate
  rw [emod_360, ok_bind, sum, ok_bind, emod_360]
  rfl

theorem mem_toInt64 (b : Binary64) :
    Word64.least ≤ b.toInt64 ∧ b.toInt64 ≤ Word64.greatest := by
  unfold Word64.least Word64.greatest
  cases b with
  | notANumber => exact ⟨by decide, by decide⟩
  | infinite negative => cases negative <;> exact ⟨by decide, by decide⟩
  | finite negative m e =>
    have size : (0 : Int) ≤ Binary64.magnitude m e := Int.natCast_nonneg _
    cases negative with
    | false =>
      have cast : (Binary64.finite false m e).toInt64 =
          min 0x7FFFFFFFFFFFFFFF (Binary64.magnitude m e : Int) := rfl
      omega
    | true =>
      have cast : (Binary64.finite true m e).toInt64 =
          max (-0x8000000000000000) (-(Binary64.magnitude m e : Int)) := rfl
      omega

/-- a cast of a coordinate gives an integer of 64 bits, whatever the coordinate is -/
theorem signed_offset (current saved : Float) :
    signed (Flight.offset current saved) = .ok (Flight.offset current saved) :=
  signed_of_mem (mem_toInt64 _).1 (mem_toInt64 _).2

theorem returnManeuver_eq (h : Heading.Normal d.yaw) (returnSpeed : Nat) :
    returnManeuver d returnSpeed = .ok (Flight.returnManeuver d returnSpeed) := by
  have ⟨least, greatest⟩ := h
  unfold Heading.fullTurn at greatest
  have rest : sub 360 d.yaw = .ok (360 - d.yaw) := signed_of_small (by omega) (by omega)
  have turn : tmod (360 - d.yaw) 360 = .ok ((360 - d.yaw).tmod 360) := by
    have north := Heading.toNorth_of_normal h
    unfold Heading.toNorth Heading.fullTurn at north
    unfold tmod
    rw [if_neg (by omega), if_neg (by omega), north]
    exact signed_of_small (by omega) (by omega)
  simp only [returnManeuver, signed_offset, rest, turn, ok_bind]
  rfl

theorem enter_eq (h : Heading.Normal f.drone.yaw) (returnSpeed : Nat) (zone : String) :
    enter returnSpeed zone f = .ok (f.enter returnSpeed zone) := by
  unfold enter Flight.enter
  cases f.drone.zones.script? zone with
  | none => rfl
  | some script =>
    cases script with
    | nil => rfl
    | cons raw script =>
      simp only [returnManeuver_eq h]
      rfl

theorem apply_eq {c : Command} (h : Heading.Normal f.drone.yaw)
    (hc : ∀ n, integerOf c = some n → Word64.least ≤ n ∧ n ≤ Word64.greatest) :
    apply s c f = .ok (f.apply s c) := by
  cases c with
  | rotate right degrees =>
    cases degrees with
    | none => cases right <;> rfl
    | some degrees =>
      have read : signed degrees = .ok degrees := signed_of_mem (hc _ rfl).1 (hc _ rfl).2
      cases right with
      | true =>
        simp only [apply, read, ok_bind, rotate_eq h]
        rfl
      | false =>
        have back : neg (degrees % 360) = .ok (-(degrees % 360)) :=
          signed_of_small (by omega) (by omega)
        simp only [apply, read, emod_360, back, ok_bind, rotate_eq h]
        rfl
  | action zone =>
    cases zone with
    | none => rfl
    | some zone => exact enter_eq h s.returnSpeed zone
  | _ => rfl

theorem pause_eq {c : Command}
    (hc : ∀ n, integerOf c = some n → Word64.least ≤ n ∧ n ≤ Word64.greatest) :
    pause s c = .ok (c.pause s) := by
  cases c with
  | wait millis =>
    cases millis with
    | none => rfl
    | some ms =>
      obtain ⟨least, greatest⟩ := hc ms rfl
      have read : signed ms = .ok ms := signed_of_mem least greatest
      unfold Word64.greatest at greatest
      have duration : unsigned (max ms 0) = .ok (max ms 0).toNat := by
        unfold unsigned
        rw [if_pos (by omega)]
      have same : (max ms 0).toNat = ms.toNat := by omega
      simp only [pause, read, ok_bind, duration, same]
      show _ = Except.ok (if ms = 0 then _ else _)
      by_cases zero : ms = 0
      · rw [if_pos zero, if_pos zero]
        rfl
      · rw [if_neg zero, if_neg zero]
  | _ => rfl

/-- **No text fails to be carried out** by a drone whose heading lies within one full turn. -/
theorem execute_eq (s : FlightSettings) (raw : String) (h : Heading.Normal f.drone.yaw) :
    execute s raw f = .ok (f.apply s (.parse raw), (Command.parse raw).pause s) := by
  have fits : ∀ n, integerOf (Command.parse raw) = some n →
      Word64.least ≤ n ∧ n ≤ Word64.greatest := fun n => mem_of_integerOf_parse
  unfold execute
  rw [parse_eq, ok_bind, apply_eq h fits, ok_bind, pause_eq fits, ok_bind]
  rfl

end

end Machine

/-! ## headings -/

namespace Flight

/-- a command leaves the heading within one full turn -/
theorem normal_apply (s : FlightSettings) (c : Command) {f : Flight}
    (h : Heading.Normal f.drone.yaw) : Heading.Normal (f.apply s c).drone.yaw := by
  cases c with
  | rotate right degrees =>
    cases degrees with
    | none => exact h
    | some degrees =>
      cases right with
      | true => exact Heading.normal_clockwise _ _
      | false => exact Heading.normal_counterclockwise _ _
  | resetDirection =>
    simp only [apply]
    split <;> exact h
  | action zone =>
    cases zone with
    | none => exact h
    | some zone =>
      show Heading.Normal (f.enter s.returnSpeed zone).drone.yaw
      unfold enter
      split <;> exact h
  | _ => exact h

end Flight

namespace Bay

/-- the heading of a drone and all that was told of it are within one full turn -/
def Steers (b : Bay) (rep : Report) : Prop :=
  Heading.Normal b.drone.yaw ∧ ∀ p ∈ rep.published, Heading.Normal p.2.yaw

section
variable {s : FlightSettings} {now : Nat} {b c : Bay} {rep : Report}

theorem keeps_normal (h : Heading.Normal b.drone.yaw) (o : Occurrence) :
    b.Keeps (fun x => Heading.Normal x.yaw) s o := by
  cases o with
  | submit path zones =>
    intro _
    show Heading.Normal 0
    decide
  | step n =>
    intro r raw rest _
    have popped : Heading.Normal ((b.flight r).pop raw rest).drone.yaw := h
    exact Flight.normal_apply s (.parse raw) popped
  | _ => trivial

theorem Steers.move {e : Event} (h : Heading.Normal b.drone.yaw) (m : b.Moves s now e c rep) :
    c.Steers rep :=
  Posed.move (P := fun x => Heading.Normal x.yaw) h m (keeps_normal h e.occurrence)

end

/-- whatever happens to a drone, its runs told to end included, the heading is within one turn -/
theorem normal_life {s : FlightSettings} {b : Bay} (h : Heading.Normal b.drone.yaw)
    (os : List (Nat × Occurrence)) : (b.life s os).1.Steers (b.life s os).2 := by
  rcases posed_life (P := fun x => Heading.Normal x.yaw) (s := s) h os with
    steers | ⟨past, now, o, later, -, steers, broken⟩
  · exact steers
  · exact absurd (keeps_normal steers.1 o) broken

end Bay

namespace Fleet

section
variable {f : Fleet}

theorem normal_after (h : ∀ b ∈ f.bays, Heading.Normal b.drone.yaw) (es : List Event) :
    ∀ b ∈ (f.after es).bays, Heading.Normal b.drone.yaw :=
  all_bays_after (fun s now b v hb => (Bay.Steers.move hb (Bay.moves_respond s now b v)).1) h es

theorem normal_published (h : ∀ b ∈ f.bays, Heading.Normal b.drone.yaw) (e : Event) :
    ∀ p ∈ (f.respond e).2.published, Heading.Normal p.2.yaw := by
  intro p hp
  cases e with
  | visit id v =>
    cases hb : f.bay? id with
    | none =>
      rw [respond_of_none hb] at hp
      exact absurd hp List.not_mem_nil
    | some b =>
      rw [(replaced_respond hb v).2] at hp
      exact (Bay.Steers.move (h b (mem_of_bay? hb)) (Bay.moves_respond _ _ b v)).2 p hp
  | _ => exact absurd hp List.not_mem_nil

end

theorem normal_seeded (s : FleetSettings) (t : FlightSettings) (capacity : Nat) :
    ∀ b ∈ (seeded s t capacity).1.bays, Heading.Normal b.drone.yaw := by
  intro b hb
  obtain ⟨i, rfl⟩ := mem_bays_seeded hb
  show Heading.Normal 0
  decide

/-- **No command fails, and every heading is within one full turn.** A drone whose heading is so reads
every text and carries it out without an overflow, an item that is not there or a cut through a
character, and comes to the flight and the pause that the fleet computes; its heading is within one
full turn again. So are all headings and all that is told of them, whatever happens to a fleet, and
whatever happens to one of its drones whose runs are told to end. -/
theorem no_command_fails (s : FleetSettings) (t : FlightSettings) (capacity : Nat) :
    (∀ (u : FlightSettings) (raw : String) (f : Flight), Heading.Normal f.drone.yaw →
        Machine.parse raw = .ok (.parse raw) ∧
          Machine.execute u raw f = .ok (f.apply u (.parse raw), (Command.parse raw).pause u) ∧
          Heading.Normal (f.apply u (.parse raw)).drone.yaw) ∧
      (∀ es, ∀ b ∈ ((seeded s t capacity).1.after es).bays, Heading.Normal b.drone.yaw) ∧
      (∀ es e, ∀ p ∈ (((seeded s t capacity).1.after es).respond e).2.published,
        Heading.Normal p.2.yaw) ∧
      ∀ i os, ((Bay.ofDrone (seed s i)).life t os).1.Steers
        ((Bay.ofDrone (seed s i)).life t os).2 := by
  have start := normal_seeded s t capacity
  refine ⟨fun u raw f h => ⟨Machine.parse_eq raw, Machine.execute_eq u raw h, ?_⟩,
    fun es => normal_after start es, fun es e => normal_published (normal_after start es) e,
    fun i os => ?_⟩
  · exact Flight.normal_apply u (.parse raw) h
  · have north : Heading.Normal (Bay.ofDrone (seed s i)).drone.yaw := by
      show Heading.Normal 0
      decide
    exact Bay.normal_life north os

/-- the largest turn to the left, one degree before a full turn -/
theorem turn_by_least_integer :
    ∃ f : Flight, f.drone.yaw = 359 ∧ Heading.Normal f.drone.yaw ∧
      Machine.integerOf (.parse "ccw -9223372036854775809") = some Word64.least ∧
      Machine.execute {} "ccw -9223372036854775809" f =
        .ok (f.apply {} (.parse "ccw -9223372036854775809"), 500) ∧
      (f.apply {} (.parse "ccw -9223372036854775809")).drone.yaw = 7 := by
  obtain ⟨commands, -⟩ := no_command_fails {} {} 16
  have near : Heading.Normal 359 := by decide
  obtain ⟨-, executed, -⟩ := commands {} "ccw -9223372036854775809"
    ⟨{ Drone.new "tello-1" "127.0.0.101" 4500 100 with yaw := 359 }, none⟩ near
  have pause : (Command.parse "ccw -9223372036854775809").pause {} = 500 := by decide +kernel
  rw [pause] at executed
  exact ⟨_, rfl, near, by decide +kernel, executed, by decide +kernel⟩

end Fleet

end DroneFleet
