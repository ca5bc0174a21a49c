import DroneFleet.Proofs.Injections
import DroneFleet.Proofs.Strides

/-!
# How far a command reaches

Of the position, the heading, the stream and the queue of a drone a command works on one at most. The
status changes at a takeoff and a landing, the zone entered last where a registered zone is entered,
and whatever a command does to the queue, it takes nothing away from the end unless it takes everything.

* `Drone.Aspect`, `Drone.Agrees`   the parts of a drone that commands work on, and drones alike in one
* `Command.aspect?`                the part that a command works on
* `Flight.Frame`                   what a command leaves alone, and where it reaches further
* `Flight.frame_apply`             every command stays in its frame
* `Flight.command_stays_in_frame`  all together, for texts
-/

namespace DroneFleet

/-- the parts of a drone that commands work on, besides its status -/
inductive Drone.Aspect where
  | position
  | heading
  | stream
  | queue
deriving DecidableEq

/-- is one part the same in two drones? -/
def Drone.Agrees (d e : Drone) : Aspect → Prop
  | .position => d.position = e.position
  | .heading => d.yaw = e.yaw
  | .stream => d.streaming = e.streaming
  | .queue => d.queue = e.queue

section
variable {d e k : Drone} {aspect : Drone.Aspect}

theorem Drone.Agrees.refl (d : Drone) (aspect : Drone.Aspect) : d.Agrees d aspect := by
  cases aspect <;> rfl

theorem Drone.Agrees.trans (h : d.Agrees e aspect) (h' : e.Agrees k aspect) :
    d.Agrees k aspect := by
  cases aspect with
  | position => exact Eq.trans h h'
  | heading => exact Eq.trans h h'
  | stream => exact Eq.trans h h'
  | queue => exact Eq.trans h h'

end

/-- the part of a drone that a command works on, if it works on one -/
def Command.aspect? : Command → Option Drone.Aspect
  | .takeoff => some .position
  | .land => some .position
  | .rotate _ _ => some .heading
  | .move _ _ => some .position
  | .go _ _ => some .position
  | .curve _ _ _ => some .position
  | .streamOn => some .stream
  | .streamOff => some .stream
  | .record _ => none
  | .clear => some .queue
  | .resetDirection => some .queue
  | .action _ => some .queue
  | .wait _ => none
  | .incomplete _ => none
  | .unknown _ => none

namespace Flight

/-- what a command leaves alone, and how far it reaches beyond the part of a drone that it works on -/
structure Frame (c : Command) (f g : Flight) : Prop where
  standing : g.drone.standing = f.drone.standing
  aspects : ∀ aspect, c.aspect? ≠ some aspect → g.drone.Agrees f.drone aspect
  status : c = .takeoff ∧ g.drone.status = .takeoff ∨ c = .land ∧ g.drone.status = .landed ∨
    c ≠ .takeoff ∧ c ≠ .land ∧ g.drone.status = f.drone.status
  zone : (∃ zone script, c = .action (some zone) ∧ f.drone.zones.script? zone = some script ∧
      g.zone = some zone) ∨
    (∀ zone, c = .action (some zone) → f.drone.zones.script? zone = none) ∧ g.zone = f.zone
  queue : c = .clear ∧ g.drone.queue = [] ∨ c ≠ .clear ∧ f.drone.queue <:+ g.drone.queue

theorem Frame.agrees_or {c : Command} {f g : Flight} (h : Frame c f g) {aspect other : Drone.Aspect}
    (hne : aspect ≠ other) : g.drone.Agrees f.drone aspect ∨ g.drone.Agrees f.drone other := by
  by_cases works : c.aspect? = some aspect
  · refine Or.inr (h.aspects other fun same => hne ?_)
    exact Option.some.inj (works.symm.trans same)
  · exact Or.inl (h.aspects aspect works)

/-! ## one command -/

section
variable (s : FlightSettings) (c : Command) (f : Flight)

theorem agrees_enter (returnSpeed : Nat) (zone : String) {aspect : Drone.Aspect}
    (h : aspect ≠ .queue) : (f.enter returnSpeed zone).drone.Agrees f.drone aspect := by
  unfold enter
  split
  · exact .refl f.drone aspect
  · cases aspect with
    | queue => exact absurd rfl h
    | _ => rfl

theorem agrees_apply {aspect : Drone.Aspect} (h : c.aspect? ≠ some aspect) :
    (f.apply s c).drone.Agrees f.drone aspect := by
  have other : ∀ {part : Drone.Aspect}, c.aspect? = some part → aspect ≠ part :=
    fun works same => h (same ▸ works)
  cases c with
  | rotate right degrees =>
    cases degrees with
    | none => exact .refl f.drone aspect
    | some degrees =>
      cases aspect with
      | heading => exact absurd rfl h
      | _ => rfl
  | resetDirection =>
    simp only [apply]
    split
    · cases aspect with
      | queue => exact absurd rfl h
      | _ => rfl
    · exact .refl f.drone aspect
  | action zone =>
    cases zone with
    | none => exact .refl f.drone aspect
    | some zone => exact agrees_enter f s.returnSpeed zone (other rfl)
  | _ =>
    cases aspect with
    | position => first | rfl | exact absurd rfl h
    | heading => rfl
    | stream => first | rfl | exact absurd rfl h
    | queue => first | rfl | exact absurd rfl h

theorem status_enter (returnSpeed : Nat) (zone : String) :
    (f.enter returnSpeed zone).drone.status = f.drone.status := by
  unfold enter
  split <;> rfl

theorem status_apply_cases : c = .takeoff ∧ (f.apply s c).drone.status = .takeoff ∨
    c = .land ∧ (f.apply s c).drone.status = .landed ∨
    c ≠ .takeoff ∧ c ≠ .land ∧ (f.apply s c).drone.status = f.drone.status := by
  by_cases takeoff : c = .takeoff
  · subst takeoff
    exact Or.inl ⟨rfl, rfl⟩
  by_cases land : c = .land
  · subst land
    exact Or.inr (Or.inl ⟨rfl, rfl⟩)
  refine Or.inr (Or.inr ⟨takeoff, land, ?_⟩)
  cases c with
  | takeoff => exact absurd rfl takeoff
  | land => exact absurd rfl land
  | rotate right degrees => cases degrees <;> rfl
  | resetDirection =>
    simp only [apply]
    split <;> rfl
  | action zone =>
    cases zone with
    | none => rfl
    | some zone => exact status_enter f s.returnSpeed zone
  | _ => rfl

theorem zone_enter_of_some {zone : String} {script : List String} (returnSpeed : Nat)
    (h : f.drone.zones.script? zone = some script) :
    (f.enter returnSpeed zone).zone = some zone := by
  unfold enter
  rw [h]

theorem zone_enter_of_none {zone : String} (returnSpeed : Nat)
    (h : f.drone.zones.script? zone = none) : (f.enter returnSpeed zone).zone = f.zone := by
  unfold enter
  rw [h]

theorem zone_apply : (∃ zone script, c = .action (some zone) ∧
      f.drone.zones.script? zone = some script ∧ (f.apply s c).zone = some zone) ∨
    (∀ zone, c = .action (some zone) → f.drone.zones.script? zone = none) ∧
      (f.apply s c).zone = f.zone := by
  by_cases enters : ∃ zone script, c = .action (some zone) ∧
      f.drone.zones.script? zone = some script
  · obtain ⟨zone, script, rfl, h⟩ := enters
    exact Or.inl ⟨zone, script, rfl, h, zone_enter_of_some f s.returnSpeed h⟩
  have unregistered : ∀ zone, c = .action (some zone) → f.drone.zones.script? zone = none := by
    intro zone hc
    cases h : f.drone.zones.script? zone with
    | none => rfl
    | some script => exact absurd ⟨zone, script, hc, h⟩ enters
  refine Or.inr ⟨unregistered, ?_⟩
  cases c with
  | rotate right degrees => cases degrees <;> rfl
  | resetDirection =>
    simp only [apply]
    split <;> rfl
  | action zone =>
    cases zone with
    | none => rfl
    | some zone => exact zone_enter_of_none f s.returnSpeed (unregistered zone rfl)
  | _ => rfl

theorem suffix_apply : c = .clear ∧ (f.apply s c).drone.queue = [] ∨
    c ≠ .clear ∧ f.drone.queue <:+ (f.apply s c).drone.queue := by
  by_cases h : c = .clear
  · subst h
    exact Or.inl ⟨rfl, rfl⟩
  · refine Or.inr ⟨h, ?_⟩
    rw [queue_apply s h]
    exact List.suffix_append _ _

theorem frame_apply : Frame c f (f.apply s c) where
  standing := standing_apply s c f
  aspects := fun _ h => agrees_apply s c f h
  status := status_apply_cases s c f
  zone := zone_apply s c f
  queue := suffix_apply s c f

theorem wait?_ne_none_iff : c.wait? s ≠ none ↔ ∃ millis, c = .wait millis := by
  constructor
  · intro h
    cases c with
    | wait millis => exact ⟨millis, rfl⟩
    | _ => exact absurd rfl h
  · rintro ⟨millis, rfl⟩
    cases millis <;> exact Option.some_ne_none _

end

/-- **A command stays in its frame**, whatever its text is and whatever drone it is for. What the drone
is and how it stands with the fleet stays as it was, and so do the position, the heading, the stream and
the queue, but for one of them at most. The status changes at a takeoff and a landing, and the zone
entered last where a registered zone is entered. A clear empties the queue, and after any other command
it ends as it did. Only a wait asks for a pause of its own. -/
theorem command_stays_in_frame (s : FlightSettings) (f : Flight) (raw : String) :
    Frame (.parse raw) f (f.apply s (.parse raw)) ∧
      (∀ aspect other : Drone.Aspect, aspect ≠ other →
        (f.apply s (.parse raw)).drone.Agrees f.drone aspect ∨
          (f.apply s (.parse raw)).drone.Agrees f.drone other) ∧
      ((Command.parse raw).wait? s ≠ none ↔ ∃ millis, Command.parse raw = .wait millis) := by
  have frame := frame_apply s (.parse raw) f
  exact ⟨frame, fun _ _ => frame.agrees_or, wait?_ne_none_iff s (.parse raw)⟩

/-- a drone that takes off keeps its heading, its stream and its queue -/
theorem takeoff_stays_in_frame :
    (Command.parse "takeoff now").aspect? = some .position ∧
    ∀ aspect, aspect ≠ .position →
      (apply {} (.parse "takeoff now") ⟨Drone.new "tello-1" "127.0.0.101" 4500 100, none⟩).drone.Agrees
        (Drone.new "tello-1" "127.0.0.101" 4500 100) aspect := by
  have works : (Command.parse "takeoff now").aspect? = some .position := by decide +kernel
  obtain ⟨frame, -, -⟩ := command_stays_in_frame {}
    ⟨Drone.new "tello-1" "127.0.0.101" 4500 100, none⟩ "takeoff now"
  refine ⟨works, fun aspect h => frame.aspects aspect fun same => h ?_⟩
  exact Option.some.inj (same.symm.trans works)

end Flight

end DroneFleet
