import DroneFleet.Proofs.Occurrences

/-!
# What remains true of where a drone is and where it faces

Of all that can happen to a drone only two things change where it is and where it faces: a flight
that is accepted, and the next command of a run. What these two keep true remains true, and it is
true of all that is told of the drone meanwhile.

* `Pose`, `Drone.pose`, `Drone.Snapshot.pose`   where a drone is and where it faces
* `Bay.Posed`          something is true of the pose of a drone, and of what was told of it
* `Bay.Keeps`          an occurrence keeps it true
* `Bay.Posed.move`, `Bay.Posed.meet`   one move, and one occurrence
* `Bay.posed_life`     any number of them, up to the first that does not keep it true
-/

namespace DroneFleet

/-- where a drone is, and where it faces -/
structure Pose where
  position : Point Float
  yaw : Int

def Drone.pose (d : Drone) : Pose := ⟨d.position, d.yaw⟩

def Drone.Snapshot.pose (x : Drone.Snapshot) : Pose := ⟨x.position, x.yaw⟩

def Pose.start : Pose := ⟨.origin, 0⟩

namespace Bay

/-- is something true of the pose of a drone, and of every pose that was told? -/
def Posed (P : Pose → Prop) (b : Bay) (rep : Report) : Prop :=
  P b.drone.pose ∧ ∀ p ∈ rep.published, P p.2.pose

/-- does it remain true at an occurrence? Only a flight that is accepted and the next command give a
drone another pose. -/
def Keeps (P : Pose → Prop) (s : FlightSettings) (b : Bay) : Occurrence → Prop
  | .submit _ _ => b.drone.connected = true → P .start
  | .step _ => ∀ r raw rest, b.drone.queue = raw :: rest → P (b.executed s r raw rest).drone.pose
  | _ => True

def Event.occurrence : Event → Occurrence
  | .connect => .connect
  | .disconnect => .disconnect
  | .submit path zones => .submit path zones
  | .step n => .step n

section
variable {P : Pose → Prop} {s : FlightSettings} {now : Nat} {b c : Bay} {rep : Report}

theorem Posed.quiet (h : P b.drone.pose) (hr : rep.published = []) : b.Posed P rep := by
  refine ⟨h, ?_⟩
  rw [hr]
  exact List.forall_mem_nil _

theorem Posed.told (h : P b.drone.pose) (hr : rep.published = [(now, b.drone.snapshot)]) :
    b.Posed P rep := by
  refine ⟨h, ?_⟩
  rw [hr]
  exact List.forall_mem_singleton.mpr h

theorem Posed.append (h : b.Posed P rep) {more : Report} (hc : c.Posed P more) :
    c.Posed P (rep ++ more) :=
  ⟨hc.1, List.forall_mem_append.mpr ⟨h.2, hc.2⟩⟩

theorem Posed.move {e : Event} (h : P b.drone.pose) (m : b.Moves s now e c rep)
    (kept : b.Keeps P s e.occurrence) : c.Posed P rep := by
  cases m with
  | refused _ => exact .quiet h rfl
  | connect _ => exact .quiet h rfl
  | disconnect _ => exact .quiet h rfl
  | launch hc _ => exact .quiet (kept hc) rfl
  | supersede hc _ => exact .quiet (kept hc) rfl
  | @execute r raw rest _ hq => exact .told (kept r raw rest hq) rfl
  | complete _ _ => exact .told h rfl

theorem Posed.turn {i : Incident} (h : P b.drone.pose) (t : b.Turn s now i c rep)
    (hi : Incident.IsInternal i) (kept : ∀ n, i = .step n → b.Keeps P s (.step n)) :
    c.Posed P rep := by
  cases t with
  | change g => exact absurd rfl (hi.1 g)
  | spawn => exact absurd rfl hi.2
  | step hr _ _ => exact .move h (moves_advance hr) (kept _ rfl)
  | release _ _ _ _ => exact .told h rfl
  | releaseLate _ _ => exact .told h rfl
  | _ => exact .quiet h rfl

theorem Posed.meet {o : Occurrence} (h : P b.drone.pose) (kept : b.Keeps P s o) :
    (b.meet s now o).1.Posed P (b.meet s now o).2 := by
  cases o with
  | connect => exact .move h (moves_respond s now b .connect) trivial
  | disconnect => exact .move h (moves_respond s now b .disconnect) trivial
  | submit path zones => exact .move h (moves_respond s now b (.submit path zones)) kept
  | step n => exact .turn h (turn_undergo s now b (.step n)) ⟨nofun, nofun⟩ fun _ _ => kept
  | hold => exact .turn h (turn_undergo s now b .hold) ⟨nofun, nofun⟩ nofun
  | letGo => exact .turn h (turn_undergo s now b .letGo) ⟨nofun, nofun⟩ nofun
  | await n => exact .turn h (turn_undergo s now b (.await n)) ⟨nofun, nofun⟩ nofun
  | abort n => exact .turn h (turn_undergo s now b (.abort n)) ⟨nofun, nofun⟩ nofun
  | drop n => exact .turn h (turn_undergo s now b (.drop n)) ⟨nofun, nofun⟩ nofun
  | release => exact .turn h (turn_undergo s now b .release) ⟨nofun, nofun⟩ nofun

/-- what is true of a pose remains true up to the first occurrence that does not keep it true -/
theorem posed_life (h : P b.drone.pose) (os : List (Nat × Occurrence)) :
    (b.life s os).1.Posed P (b.life s os).2 ∨
      ∃ past now o later, os = past ++ (now, o) :: later ∧
        (b.life s past).1.Posed P (b.life s past).2 ∧ ¬ (b.life s past).1.Keeps P s o := by
  induction os generalizing b with
  | nil => exact Or.inl (.quiet h rfl)
  | cons o os ih =>
    obtain ⟨now, o⟩ := o
    by_cases kept : b.Keeps P s o
    · have first : (b.meet s now o).1.Posed P (b.meet s now o).2 := .meet h kept
      rcases ih first.1 with posed | ⟨past, time, next, later, rfl, posed, broken⟩
      · exact Or.inl (first.append posed)
      · exact Or.inr ⟨(now, o) :: past, time, next, later, rfl, first.append posed, broken⟩
    · exact Or.inr ⟨[], now, o, os, rfl, .quiet h rfl, kept⟩

end

end Bay

end DroneFleet
