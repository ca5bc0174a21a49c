import DroneFleet.Proofs.Commands

/-!
# What comes in front of the queue

Only zones and corrections of the heading put commands in front of the queue, and only `clear` takes
away what stands there. The commands that are made on the way, back to the heading a drone had, are
read like those of a submission, and turn out to be commands of the quiet kind.

* `Zones.script`          the script of a zone
* `Zones.Calls`           the script of a zone enters another one
* `Zones.Inert`           a command that leaves the queue to itself
* `Flight.injects`        what a command puts in front of the queue
* `Flight.queue_apply`    the queue after a command
* `Flight.inert_returnManeuver`, `Flight.inert_correction`   what is made on the way is inert
-/

namespace DroneFleet

/-! ## zones that enter zones -/

namespace Zones

/-- the script of a zone; a zone that is not registered has none -/
def script (zs : Zones) (zone : String) : List String := (zs.script? zone).getD []

/-- does the script of the zone `y` enter the registered zone `z`? -/
def Calls (zs : Zones) (y z : String) : Prop :=
  zs.script? z ≠ none ∧ ∃ raw ∈ zs.script y, Command.parse raw = .action (some z)

theorem script_of_none {zs : Zones} {zone : String} (h : zs.script? zone = none) :
    zs.script zone = [] := by
  unfold script
  rw [h]
  rfl

theorem script_of_some {zs : Zones} {zone : String} {script : List String}
    (h : zs.script? zone = some script) : zs.script zone = script := by
  unfold Zones.script
  rw [h]
  rfl

theorem mem_of_script? {zs : Zones} {zone : String} {script : List String}
    (h : zs.script? zone = some script) : (zone, script) ∈ zs := by
  obtain ⟨before, after, rfl, -⟩ := List.lookup_eq_some_iff.mp h
  exact List.mem_append_right before List.mem_cons_self

theorem exists_of_mem_script {zs : Zones} {zone raw : String} (h : raw ∈ zs.script zone) :
    ∃ script, (zone, script) ∈ zs ∧ raw ∈ script := by
  cases hs : zs.script? zone with
  | none =>
    rw [script_of_none hs] at h
    exact absurd h List.not_mem_nil
  | some script =>
    rw [script_of_some hs] at h
    exact ⟨script, mem_of_script? hs, h⟩

/-- a command that leaves the queue to itself: it clears nothing and puts nothing in front -/
structure Inert (zs : Zones) (c : Command) : Prop where
  ne_clear : c ≠ .clear
  ne_resetDirection : c ≠ .resetDirection
  script_eq_nil : ∀ zone, c = .action (some zone) → zs.script zone = []

/-- the four kinds of commands, by what they do to the queue -/
theorem kinds (zs : Zones) (c : Command) :
    zs.Inert c ∨ c = .clear ∨ c = .resetDirection ∨
      ∃ zone, c = .action (some zone) ∧ zs.script zone ≠ [] := by
  cases c with
  | clear => exact Or.inr (Or.inl rfl)
  | resetDirection => exact Or.inr (Or.inr (Or.inl rfl))
  | action zone =>
    cases zone with
    | none => exact Or.inl ⟨nofun, nofun, nofun⟩
    | some zone =>
      by_cases h : zs.script zone = []
      · refine Or.inl ⟨nofun, nofun, fun z hz => ?_⟩
        cases hz
        exact h
      · exact Or.inr (Or.inr (Or.inr ⟨zone, rfl, h⟩))
  | _ => exact Or.inl ⟨nofun, nofun, nofun⟩

end Zones

namespace Flight

/-! ## the queue after a command -/

/-- what a command puts in front of the queue of a drone -/
def injects (s : FlightSettings) (d : Drone) : Command → List String
  | .resetDirection => if 0 < d.yaw then ["ccw " ++ integerString d.yaw] else []
  | .action (some zone) => injected d s.returnSpeed (d.zones.script zone)
  | _ => []

theorem zones_apply (s : FlightSettings) (c : Command) (f : Flight) :
    (f.apply s c).drone.zones = f.drone.zones :=
  congrArg Drone.Standing.zones (standing_apply s c f)

theorem queue_enter (returnSpeed : Nat) (zone : String) (f : Flight) :
    (f.enter returnSpeed zone).drone.queue =
      injected f.drone returnSpeed (f.drone.zones.script zone) ++ f.drone.queue := by
  unfold enter
  cases h : f.drone.zones.script? zone with
  | none =>
    rw [Zones.script_of_none h]
    rfl
  | some script => rw [Zones.script_of_some h]

theorem queue_apply (s : FlightSettings) {c : Command} (h : c ≠ .clear) (f : Flight) :
    (f.apply s c).drone.queue = injects s f.drone c ++ f.drone.queue := by
  cases c with
  | clear => exact absurd rfl h
  | rotate right degrees => cases degrees <;> rfl
  | resetDirection =>
    simp only [apply, injects]
    split <;> rfl
  | action zone =>
    cases zone with
    | none => rfl
    | some zone => exact queue_enter s.returnSpeed zone f
  | _ => rfl

theorem injects_of_inert (s : FlightSettings) {d : Drone} {c : Command} (h : d.zones.Inert c) :
    injects s d c = [] := by
  cases c with
  | resetDirection => exact absurd rfl h.ne_resetDirection
  | action zone =>
    cases zone with
    | none => rfl
    | some zone =>
      show injected d s.returnSpeed (d.zones.script zone) = []
      rw [h.script_eq_nil zone rfl]
      rfl
  | _ => rfl

theorem queue_apply_of_inert (s : FlightSettings) {c : Command} {f : Flight}
    (h : f.drone.zones.Inert c) : (f.apply s c).drone.queue = f.drone.queue := by
  rw [queue_apply s h.ne_clear, injects_of_inert s h, List.nil_append]

/-- entering a zone with a script puts the script in front, and the way back after it -/
theorem injects_action (s : FlightSettings) {d : Drone} {zone : String}
    (h : d.zones.script zone ≠ []) :
    injects s d (.action (some zone)) =
      d.zones.script zone ++ returnManeuver d s.returnSpeed := by
  show injected d s.returnSpeed (d.zones.script zone) = _
  cases hz : d.zones.script zone with
  | nil => exact absurd hz h
  | cons raw rest => rfl

/-! ## commands that are made on the way -/

theorem wordsOf_ccw (t : String) : wordsOf ("ccw " ++ t) = "ccw" :: wordsOf t := by
  have h : ("ccw " ++ t).toList = ['c', 'c', 'w'] ++ ' ' :: t.toList := by
    rw [String.toList_append]
    rfl
  unfold wordsOf
  rw [h, Text.words_append_blank _ (by decide), List.map_append]
  rfl

theorem wordsOf_go (t : String) : wordsOf ("go " ++ t) = "go" :: wordsOf t := by
  have h : ("go " ++ t).toList = ['g', 'o'] ++ ' ' :: t.toList := by
    rw [String.toList_append]
    rfl
  unfold wordsOf
  rw [h, Text.words_append_blank _ (by decide), List.map_append]
  rfl

theorem inert_ccw (zs : Zones) (t : String) : zs.Inert (.parse ("ccw " ++ t)) := by
  have h : Command.parse ("ccw " ++ t) = .rotate false (Command.integer? (wordsOf t) 0) := by
    unfold Command.parse
    rw [wordsOf_ccw]
    rfl
  rw [h]
  exact ⟨nofun, nofun, nofun⟩

theorem inert_go (zs : Zones) (t : String) : zs.Inert (.parse ("go " ++ t)) := by
  have h : Command.parse ("go " ++ t) =
      if 4 ≤ (wordsOf t).length then
        .go (Command.point (wordsOf t) 0) (Command.coordinate (wordsOf t) 3)
      else .incomplete "go" := by
    unfold Command.parse
    rw [wordsOf_go]
    rfl
  rw [h]
  split <;> exact ⟨nofun, nofun, nofun⟩

theorem inert_returnManeuver (zs : Zones) (d : Drone) (returnSpeed : Nat) :
    ∀ raw ∈ returnManeuver d returnSpeed, zs.Inert (.parse raw) := by
  intro raw hraw
  rcases List.mem_cons.mp hraw with rfl | hraw
  · exact inert_go zs _
  · rw [List.mem_singleton.mp hraw]
    exact inert_ccw zs _

theorem length_returnManeuver (d : Drone) (returnSpeed : Nat) :
    (returnManeuver d returnSpeed).length = 2 := rfl

theorem injects_resetDirection (s : FlightSettings) (d : Drone) :
    injects s d .resetDirection = if 0 < d.yaw then ["ccw " ++ integerString d.yaw] else [] := rfl

theorem length_correction_le (s : FlightSettings) (d : Drone) :
    (injects s d .resetDirection).length ≤ 1 := by
  rw [injects_resetDirection]
  split
  · exact Nat.le_refl 1
  · exact Nat.zero_le 1

theorem inert_correction (s : FlightSettings) (zs : Zones) (d : Drone) :
    ∀ raw ∈ injects s d .resetDirection, zs.Inert (.parse raw) := by
  intro raw hraw
  rw [injects_resetDirection] at hraw
  split at hraw
  · rw [List.mem_singleton.mp hraw]
    exact inert_ccw zs _
  · cases hraw

end Flight

end DroneFleet
