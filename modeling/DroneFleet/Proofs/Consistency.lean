import DroneFleet.Proofs.History

/-!
# The fields of a drone agree

Operations, steps and the end of a run each write some of the fields that say what a drone is up to,
and a run may live on while its drone is disconnected, connected again and sent on another flight.
The fields agree all the same, but no one of the clauses is kept without the others.

* `Drone.Consistent`              what the fields say of each other
* `Drone.Consistent.move`         every move keeps it
* `Fleet.consistent_after_seeded` it holds of every drone after every history
-/

namespace DroneFleet

/-- what the fields of a drone say of each other -/
structure Drone.Consistent (d : Drone) : Prop where
  inFlight_eq : d.inFlight = d.runActive
  of_queue : d.queue ≠ [] → d.connected = true ∧ d.inFlight = true ∧ d.runActive = true
  of_flies : d.status.flies = true → d.connected = true ∧ d.inFlight = true
  of_idle : d.status = .idle → d.connected = false
  of_connected : d.status = .connected → d.connected = true
  of_not_connected : d.connected = false → d.queue = [] ∧ (d.status = .idle ∨ d.status = .complete)

namespace Drone.Consistent

theorem new (id ip : String) (range battery : Nat) :
    (Drone.new id ip range battery).Consistent where
  inFlight_eq := rfl
  of_queue h := absurd rfl h
  of_flies := nofun
  of_idle _ := rfl
  of_connected := nofun
  of_not_connected _ := ⟨rfl, Or.inl rfl⟩

theorem connect {d : Drone} (h : d.Consistent) (hc : d.connected = false) :
    { d with connected := true, status := .connected : Drone }.Consistent where
  inFlight_eq := h.inFlight_eq
  of_queue hq := absurd (h.of_not_connected hc).1 hq
  of_flies := nofun
  of_idle := nofun
  of_connected _ := rfl
  of_not_connected := nofun

/-- a run may go on without the connection, but it has nothing left to execute -/
theorem disconnect {d : Drone} (h : d.Consistent) :
    { d with queue := [], connected := false, status := .idle : Drone }.Consistent where
  inFlight_eq := h.inFlight_eq
  of_queue hq := absurd rfl hq
  of_flies := nofun
  of_idle _ := rfl
  of_connected := nofun
  of_not_connected _ := ⟨rfl, Or.inl rfl⟩

/-- a flight that is accepted has a run, be it a new one or the one that is there -/
theorem prepare {d : Drone} (hc : d.connected = true) (ha : d.runActive = true)
    (path : List String) (zones : Zones) : (Bay.prepare path zones d).Consistent where
  inFlight_eq := ha.symm
  of_queue _ := ⟨hc, rfl, ha⟩
  of_flies _ := ⟨hc, rfl⟩
  of_idle := nofun
  of_connected := nofun
  of_not_connected hn := absurd (hc.symm.trans hn) nofun

theorem finish {d : Drone} (hq : d.queue = []) : d.finish.Consistent where
  inFlight_eq := rfl
  of_queue hn := absurd hq hn
  of_flies := nofun
  of_idle := nofun
  of_connected := nofun
  of_not_connected _ := ⟨hq, Or.inr rfl⟩

theorem execute {s : FlightSettings} {b : Bay} (h : b.drone.Consistent) (r : Run) {raw : String}
    {rest : List String} (hq : b.drone.queue = raw :: rest) :
    (b.executed s r raw rest).drone.Consistent := by
  have hn : b.drone.queue ≠ [] := by
    rw [hq]
    exact List.cons_ne_nil raw rest
  obtain ⟨hc, hf, ha⟩ := h.of_queue hn
  have hs := Bay.standing_executed (s := s) (b := b) r raw rest
  have hc' := (congrArg Standing.connected hs).trans hc
  have hf' := (congrArg Standing.inFlight hs).trans hf
  have ha' := (congrArg Standing.runActive hs).trans ha
  have hfly : (b.executed s r raw rest).drone.status.flies = true :=
    Flight.flies_apply_pop s (.parse raw) raw rest (b.flight r)
  constructor
  · exact hf'.trans ha'.symm
  · exact fun _ => ⟨hc', hf', ha'⟩
  · exact fun _ => ⟨hc', hf'⟩
  · intro hi
    rw [hi] at hfly
    cases hfly
  · exact fun _ => hc'
  · exact fun hn => absurd (hc'.symm.trans hn) nofun

/-- every move keeps the fields of a drone in agreement -/
theorem move {s : FlightSettings} {now : Nat} {b c : Bay} {e : Bay.Event} {rep : Report}
    (h : b.drone.Consistent) (m : b.Moves s now e c rep) : c.drone.Consistent := by
  cases m with
  | refused => exact h
  | connect hc => exact h.connect hc
  | disconnect => exact h.disconnect
  | launch hc => exact prepare (d := { b.drone with runActive := true }) hc rfl _ _
  | supersede hc ha => exact prepare hc ha _ _
  | execute _ hq => exact h.execute _ hq
  | complete _ hq => exact finish hq

end Drone.Consistent

/-- **The fields of a drone agree, whatever happens to a fleet.** -/
theorem Fleet.consistent_after_seeded (s : FleetSettings) (t : FlightSettings) (capacity : Nat)
    (es : List Event) : ∀ b ∈ ((seeded s t capacity).1.after es).bays, b.drone.Consistent := by
  refine all_bays_after (P := fun b => b.drone.Consistent) ?_ ?_ es
  · exact fun s now b v h => h.move (Bay.moves_respond s now b v)
  · intro b hb
    obtain ⟨i, rfl⟩ := mem_bays_seeded hb
    exact .new _ _ _ _

theorem Fleet.consistent_under_way :
    ∃ b, ((seeded { count := 1 } {} 16).1.after
        [.visit "tello-1" .connect, .visit "tello-1" (.submit ["cw 45"] []),
          .visit "tello-1" (.step 0)]).bay? "tello-1" = some b ∧ b.drone.Consistent := by
  obtain ⟨b, hb⟩ := Option.isSome_iff_exists.mp (show (((seeded { count := 1 } {} 16).1.after
    [.visit "tello-1" .connect, .visit "tello-1" (.submit ["cw 45"] []),
      .visit "tello-1" (.step 0)]).bay? "tello-1").isSome = true by decide +kernel)
  exact ⟨b, hb, consistent_after_seeded _ _ _ _ b (mem_of_bay? hb)⟩

end DroneFleet
