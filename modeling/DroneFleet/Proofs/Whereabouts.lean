import DroneFleet.Proofs.Occurrences
import DroneFleet.Proofs.Strides

/-!
# Where a drone is does not steer it

Zones print coordinates into the queue, and they take them from the position of the drone. But what
they print is the way from a place to itself, which comes to nothing whatever the place is, and also
where it is no number. So two drones that differ in where they are, and in what else no flight asks
for, fly the same course: command by command, and with whatever comes in between.

* `Drone.Whereabouts`, `Drone.elsewhere`   what does not steer a drone, and another such drone
* `Flight.sub_self_cases`                  a coordinate less itself
* `Flight.returnManeuver_text`             the way from a place to itself, as it is printed
* `Flight.apply_elsewhere`                 a command does the same elsewhere
* `Flight.fly_elsewhere`, `Bay.life_elsewhere`
                                           so do the commands of a run, and all that can happen
* `Flight.course_ignores_whereabouts`      all together
-/

namespace DroneFleet

/-! ## drones that differ in where they are -/

/-- where a drone is, and what else no flight asks for -/
structure Drone.Whereabouts where
  position : Point Float
  streaming : Bool
  range : Nat
  battery : Nat

def Drone.elsewhere (x : Whereabouts) (d : Drone) : Drone :=
  { d with
    position := x.position
    streaming := x.streaming
    range := x.range
    battery := x.battery }

/-- do two notices differ at most in where the drone is and in its battery? -/
def Drone.Snapshot.Alike (a b : Snapshot) : Prop :=
  b = { a with position := b.position, battery := b.battery }

/-- the same settings but for the altitude that `takeoff` leads to -/
def FlightSettings.withAltitude (altitude : Float) (s : FlightSettings) : FlightSettings :=
  { s with takeoffAltitude := altitude }

theorem Command.pause_withAltitude (altitude : Float) (s : FlightSettings) (c : Command) :
    c.pause (s.withAltitude altitude) = c.pause s := by
  cases c with
  | wait millis => cases millis <;> rfl
  | _ => rfl

namespace Flight

/-! ## the way from a place to itself -/

theorem unpacked_sub_self (u : Float.Model.UnpackedFloat) :
    u.sub .binary64 u = .zero .positive ∨ u.sub .binary64 u = .notANumber := by
  cases u with
  | notANumber => exact Or.inr rfl
  | infinity s => cases s <;> exact Or.inr rfl
  | zero s => cases s <;> exact Or.inl rfl
  | finite s m e h =>
    refine Or.inl ?_
    show Float.Model.UnpackedFloat.normalize .binary64
      (s.apply (Float.Model.UnpackedFloat.decreaseExponent m e (min e e)).1 -
        s.apply (Float.Model.UnpackedFloat.decreaseExponent m e (min e e)).1) _ _ = _
    rw [Int.sub_self]
    rfl

theorem sub_self_cases (x : Float) :
    x - x = .ofModel (.pack (.zero .positive)) ∨ x - x = .ofModel (.pack .notANumber) := by
  have difference : x - x =
      .ofModel (.pack (x.toModel.unpack.sub .binary64 x.toModel.unpack)) := rfl
  rw [difference]
  exact (unpacked_sub_self x.toModel.unpack).imp (fun h => by rw [h]) (fun h => by rw [h])

/-- the way from a place to itself is nothing, also where the place is no number -/
theorem offset_self (x : Float) : offset x x = 0 := by
  unfold offset
  rcases sub_self_cases x with h | h <;> rw [h] <;> decide +kernel

/-- the way back says only how fast it is flown, and how far the heading is from north -/
theorem returnManeuver_text (d : Drone) (returnSpeed : Nat) :
    returnManeuver d returnSpeed =
      ["go 0 0 0 " ++ integerString returnSpeed,
        "ccw " ++ integerString (Heading.toNorth d.yaw)] := by
  have zero : integerString 0 = "0" := by decide +kernel
  have joined : " ".intercalate ["0", "0", "0", integerString returnSpeed] =
      "0 0 0 " ++ integerString returnSpeed := rfl
  simp only [returnManeuver, offset_self, List.map_cons, List.map_nil, zero, joined,
    ← String.append_assoc]
  rfl

/-- from a place without an east and infinitely far to the north -/
example :
    returnManeuver
      { Drone.new "tello-1" "127.0.0.101" 4500 100 with
        position := ⟨0.0 / 0.0, 1.0 / 0.0, 80.0⟩, yaw := 90 } 50 =
      ["go 0 0 0 50", "ccw 270"] := by decide +kernel

/-! ## one command -/

def elsewhere (x : Drone.Whereabouts) (f : Flight) : Flight :=
  { f with drone := f.drone.elsewhere x }

/-- the same end or the same next command, elsewhere -/
inductive Progress.Alike : Progress → Progress → Prop where
  | flying (x : Drone.Whereabouts) (f : Flight) (pause : Nat) :
    Alike (.flying f pause) (.flying (f.elsewhere x) pause)
  | complete (x : Drone.Whereabouts) (d : Drone) : Alike (.complete d) (.complete (d.elsewhere x))

section
variable (s : FlightSettings) (altitude : Float) (x : Drone.Whereabouts) (f : Flight)

theorem injected_elsewhere (d : Drone) (returnSpeed : Nat) (script : List String) :
    injected (d.elsewhere x) returnSpeed script = injected d returnSpeed script := by
  cases script with
  | nil => rfl
  | cons raw rest =>
    simp only [injected, returnManeuver_text]
    rfl

theorem enter_elsewhere (returnSpeed : Nat) (zone : String) :
    (f.elsewhere x).enter returnSpeed zone = (f.enter returnSpeed zone).elsewhere x := by
  have known : (f.elsewhere x).drone.zones.script? zone = f.drone.zones.script? zone := rfl
  unfold enter
  rw [known]
  cases f.drone.zones.script? zone with
  | none => rfl
  | some script =>
    simp only [elsewhere, injected_elsewhere]
    rfl

theorem apply_elsewhere (c : Command) :
    ∃ y, (f.elsewhere x).apply (s.withAltitude altitude) c = (f.apply s c).elsewhere y := by
  cases c with
  | rotate right degrees => cases degrees <;> exact ⟨x, rfl⟩
  | resetDirection =>
    have yaw : (f.elsewhere x).drone.yaw = f.drone.yaw := rfl
    refine ⟨x, ?_⟩
    simp only [apply, yaw]
    split <;> rfl
  | action zone =>
    cases zone with
    | none => exact ⟨x, rfl⟩
    | some zone => exact ⟨x, enter_elsewhere x f s.returnSpeed zone⟩
  | _ => exact ⟨⟨_, _, _, _⟩, rfl⟩

theorem step_elsewhere :
    (f.step s).Alike ((f.elsewhere x).step (s.withAltitude altitude)) := by
  cases hq : f.drone.queue with
  | nil =>
    have empty : (f.elsewhere x).drone.queue = [] := hq
    rw [step_of_nil hq, step_of_nil empty]
    exact .complete x f.drone.finish
  | cons raw rest =>
    have same : (f.elsewhere x).drone.queue = raw :: rest := hq
    obtain ⟨y, hy⟩ := apply_elsewhere s altitude x (f.pop raw rest) (.parse raw)
    rw [step_of_cons hq, step_of_cons same, Command.pause_withAltitude]
    show Progress.Alike _ (.flying (((f.pop raw rest).elsewhere x).apply _ _) _)
    rw [hy]
    exact .flying y _ _

end

/-! ## many commands -/

/-- do two strides show the same, but for where the drone is and for its battery? -/
structure Stride.Alike (a b : Stride) : Prop where
  command : b.command = a.command
  snapshot : a.snapshot.Alike b.snapshot
  pause : b.pause = a.pause
  zone : b.zone = a.zone

/-- do two runs show the same so far, and is the one elsewhere where the other is? -/
def SameCourse (r q : List Stride × Flight) : Prop :=
  List.Forall₂ Stride.Alike r.1 q.1 ∧ ∃ y, q.2 = r.2.elsewhere y

theorem stride?_elsewhere (s : FlightSettings) (altitude : Float) (x : Drone.Whereabouts)
    (f : Flight) :
    Option.Rel (fun r q => r.1.Alike q.1 ∧ ∃ y, q.2 = r.2.elsewhere y) (f.stride? s)
      ((f.elsewhere x).stride? (s.withAltitude altitude)) := by
  cases hq : f.drone.queue with
  | nil =>
    have empty : (f.elsewhere x).drone.queue = [] := hq
    rw [stride?_of_nil hq, stride?_of_nil empty]
    exact .none
  | cons raw rest =>
    have same : (f.elsewhere x).drone.queue = raw :: rest := hq
    obtain ⟨y, hy⟩ := apply_elsewhere s altitude x (f.pop raw rest) (.parse raw)
    have shown : ((f.elsewhere x).pop raw rest).apply (s.withAltitude altitude) (.parse raw) =
        ((f.pop raw rest).apply s (.parse raw)).elsewhere y := hy
    rw [stride?_of_cons hq, stride?_of_cons same, Command.pause_withAltitude, shown]
    exact .some ⟨⟨rfl, rfl, rfl, rfl⟩, y, rfl⟩

theorem fly_elsewhere (s : FlightSettings) (altitude : Float) (x : Drone.Whereabouts) (f : Flight)
    (n : Nat) :
    Option.Rel SameCourse (f.fly s n) ((f.elsewhere x).fly (s.withAltitude altitude) n) := by
  induction n generalizing f x with
  | zero => exact .some ⟨.nil, x, rfl⟩
  | succ n ih =>
    have first := stride?_elsewhere s altitude x f
    unfold fly
    generalize f.stride? s = a at first ⊢
    generalize (f.elsewhere x).stride? (s.withAltitude altitude) = b at first ⊢
    cases first with
    | none => exact .none
    | @some r q h =>
      obtain ⟨alike, y, hy⟩ := h
      have rest := ih y r.2
      rw [← hy] at rest
      show Option.Rel SameCourse ((r.2.fly s n).map _) ((q.2.fly _ n).map _)
      generalize r.2.fly s n = as at rest ⊢
      generalize q.2.fly (s.withAltitude altitude) n = bs at rest ⊢
      cases rest with
      | none => exact .none
      | some h => exact .some ⟨.cons alike h.1, h.2⟩

end Flight

namespace Bay

/-! ## whatever comes in between -/

def elsewhere (x : Drone.Whereabouts) (b : Bay) : Bay :=
  { b with drone := b.drone.elsewhere x }

/-- is the one bay the other with its drone elsewhere, and was the same published at the same
times, but for where the drone is and for its battery? -/
def SameOutcome (r q : Bay × Report) : Prop :=
  (∃ y, q.1 = r.1.elsewhere y) ∧
    List.Forall₂ (fun a b => b.1 = a.1 ∧ a.2.Alike b.2) r.2.published q.2.published

section
variable (s : FlightSettings) (altitude : Float) (now : Nat) (x : Drone.Whereabouts) (b : Bay)

theorem sameOutcome_empty : SameOutcome (b, .empty) (b.elsewhere x, .empty) :=
  ⟨⟨x, rfl⟩, .nil⟩

theorem connect_elsewhere :
    SameOutcome (b.respond s now .connect)
      ((b.elsewhere x).respond (s.withAltitude altitude) now .connect) := by
  have flag : (b.elsewhere x).drone.connected = b.drone.connected := rfl
  simp only [respond, connect, flag]
  split <;> exact ⟨⟨x, rfl⟩, .nil⟩

theorem disconnect_elsewhere :
    SameOutcome (b.respond s now .disconnect)
      ((b.elsewhere x).respond (s.withAltitude altitude) now .disconnect) := by
  have flag : (b.elsewhere x).drone.connected = b.drone.connected := rfl
  simp only [respond, disconnect, flag]
  split <;> exact ⟨⟨x, rfl⟩, .nil⟩

theorem submit_elsewhere (path : List String) (zones : Zones) :
    SameOutcome (b.respond s now (.submit path zones))
      ((b.elsewhere x).respond (s.withAltitude altitude) now (.submit path zones)) := by
  have flag : (b.elsewhere x).drone.connected = b.drone.connected := rfl
  have busy : (prepare path zones (b.elsewhere x).drone).runActive =
      (prepare path zones b.drone).runActive := rfl
  simp only [respond, submit, flag, busy]
  split
  · split <;> exact ⟨⟨⟨_, _, _, _⟩, rfl⟩, .nil⟩
  · exact sameOutcome_empty x b

theorem advance_elsewhere (r : Run) :
    SameOutcome (b.advance s now r)
      ((b.elsewhere x).advance (s.withAltitude altitude) now r) := by
  cases hq : b.drone.queue with
  | nil =>
    have empty : (b.elsewhere x).drone.queue = [] := hq
    rw [advance_of_nil now r hq, advance_of_nil now r empty]
    exact ⟨⟨x, rfl⟩, .cons ⟨rfl, rfl⟩ .nil⟩
  | cons raw rest =>
    have same : (b.elsewhere x).drone.queue = raw :: rest := hq
    obtain ⟨y, hy⟩ := Flight.apply_elsewhere s altitude x ((b.flight r).pop raw rest) (.parse raw)
    have shown : (b.elsewhere x).executed (s.withAltitude altitude) r raw rest =
        (b.executed s r raw rest).elsewhere y := hy
    rw [advance_of_cons now r hq, advance_of_cons now r same, shown, Command.pause_withAltitude]
    exact ⟨⟨y, rfl⟩, .cons ⟨rfl, rfl⟩ .nil⟩

theorem ofRun_elsewhere (n : Nat) {act act' : Run → Bay × Report}
    (h : ∀ r, SameOutcome (act r) (act' r)) :
    SameOutcome (b.ofRun n act) ((b.elsewhere x).ofRun n act') := by
  have runs : (b.elsewhere x).runs = b.runs := rfl
  unfold ofRun
  rw [runs]
  cases b.runs.find? fun r => r.serial = n with
  | none => exact sameOutcome_empty x b
  | some r => exact h r

theorem release_elsewhere : SameOutcome (b.release now) ((b.elsewhere x).release now) :=
  ⟨⟨x, rfl⟩, .cons ⟨rfl, rfl⟩ .nil⟩

theorem drop_elsewhere (r : Run) : SameOutcome (b.drop now r) ((b.elsewhere x).drop now r) := by
  have held : (b.elsewhere x).held = b.held := rfl
  simp only [drop, held]
  split
  · split
    · exact ⟨⟨x, rfl⟩, .nil⟩
    · exact release_elsewhere now x _
  · exact ⟨⟨x, rfl⟩, .nil⟩

/-- whatever happens to a drone, the same comes of it elsewhere -/
theorem meet_elsewhere (o : Occurrence) :
    SameOutcome (b.meet s now o) ((b.elsewhere x).meet (s.withAltitude altitude) now o) := by
  cases o with
  | connect => exact connect_elsewhere s altitude now x b
  | disconnect => exact disconnect_elsewhere s altitude now x b
  | submit path zones => exact submit_elsewhere s altitude now x b path zones
  | step n =>
    refine ofRun_elsewhere x b n fun r => ?_
    show SameOutcome (if !b.held && !r.cancelled then _ else _)
      (if !b.held && !r.cancelled then _ else _)
    split
    · exact advance_elsewhere s altitude now x b r
    · exact sameOutcome_empty x b
  | await n =>
    refine ofRun_elsewhere x b n fun r => ?_
    show SameOutcome (if b.held && !r.cancelled then _ else _)
      (if b.held && !r.cancelled then _ else _)
    split <;> exact ⟨⟨x, rfl⟩, .nil⟩
  | drop n =>
    refine ofRun_elsewhere x b n fun r => ?_
    split
    · exact drop_elsewhere now x b r
    · exact sameOutcome_empty x b
  | release =>
    show SameOutcome (if 0 < b.releases && !b.held then _ else _)
      (if 0 < b.releases && !b.held then _ else _)
    split
    · exact release_elsewhere now x _
    · exact sameOutcome_empty x b
  | _ => exact ⟨⟨x, rfl⟩, .nil⟩

end

theorem life_elsewhere (s : FlightSettings) (altitude : Float) (x : Drone.Whereabouts) (b : Bay)
    (os : List (Nat × Occurrence)) :
    SameOutcome (b.life s os) ((b.elsewhere x).life (s.withAltitude altitude) os) := by
  induction os generalizing b x with
  | nil => exact sameOutcome_empty x b
  | cons o os ih =>
    obtain ⟨⟨y, hy⟩, first⟩ := meet_elsewhere s altitude o.1 x b o.2
    obtain ⟨later, rest⟩ := ih y (b.meet s o.1 o.2).1
    rw [← hy] at later rest
    exact ⟨later, List.rel_append first rest⟩

end Bay

/-- **Where a drone is does not steer it.** Put a drone anywhere, also where a coordinate is no
number, with any stream, range and battery, and let `takeoff` lead to any altitude. A run executes
the same commands with the same pauses and in the same zones, as many as one likes and to the same
end; what is left of its queue, the heading, the status and all else of the drone are the same but
for what was put there. So they are whatever else happens to the drone and to its runs meanwhile.
And the way back from a zone is the same text wherever the zone was entered. -/
theorem Flight.course_ignores_whereabouts (s : FlightSettings) (altitude : Float)
    (x : Drone.Whereabouts) :
    (∀ (f : Flight) n, Option.Rel SameCourse (f.fly s n)
      ((f.elsewhere x).fly (s.withAltitude altitude) n)) ∧
    (∀ f : Flight, (f.step s).Alike ((f.elsewhere x).step (s.withAltitude altitude))) ∧
    (∀ (b : Bay) os, Bay.SameOutcome (b.life s os)
      ((b.elsewhere x).life (s.withAltitude altitude) os)) ∧
    ∀ (d : Drone) returnSpeed,
      returnManeuver (d.elsewhere x) returnSpeed = returnManeuver d returnSpeed ∧
      returnManeuver d returnSpeed =
        ["go 0 0 0 " ++ integerString returnSpeed,
          "ccw " ++ integerString (Heading.toNorth d.yaw)] := by
  refine ⟨fly_elsewhere s altitude x, step_elsewhere s altitude x,
    Bay.life_elsewhere s altitude x, fun d returnSpeed => ⟨?_, returnManeuver_text d returnSpeed⟩⟩
  rw [returnManeuver_text, returnManeuver_text]
  rfl

end DroneFleet
