import DroneFleet.Fleet.Schedule
import DroneFleet.Proofs.Sightings

/-!
# One run for each flight

The flag of a drone and the runs that are alive are written at different times: a submission raises
the flag, the last step of a run lowers it, and a run may sleep through a disconnection and a new
connection in between. Still a drone has one run when the flag is up and none otherwise, so that a
flight that was accepted is always carried out.

* `Bay.Sound`               the flag counts the runs, and nothing stands in their way
* `Bay.Sound.move`          every move keeps it
* `Fleet.Event.Keeps`       an event that leaves the flight of a drone in place
* `Fleet.keeps_cases`       it is nothing to the drone, or a step of one of its runs
* `Fleet.submitted_bay`     the drone after a submission that was accepted
* `Fleet.one_run_for_each_flight`   one run for each flag, and the flight it carries out
-/

namespace DroneFleet

namespace Bay

/-- the flag counts the runs, all are alive, and nothing stands in their way -/
structure Sound (b : Bay) : Prop where
  length_runs : b.runs.length = b.drone.runActive.toNat
  living : ∀ r ∈ b.runs, r.cancelled = false
  free : b.held = false
  settled : b.releases = 0

theorem without_self (r : Run) : without r.serial [r] = [] := by simp [without]

theorem sleeping_nil (pause : Nat) (r : Run) : sleeping pause r [] = [r] := by
  unfold sleeping
  split <;> rfl

section
variable {s : FlightSettings} {now : Nat} {b : Bay} {r : Run}

theorem respond_of_refuses {e : Event} (h : b.Refuses e) : b.respond s now e = (b, .empty) := by
  cases e with
  | connect =>
    have hc : b.drone.connected = true := h
    simp only [respond, connect, hc, if_true, attempted]
  | disconnect =>
    have hc : b.drone.connected = false := h
    simp only [respond, disconnect, hc, attempted]
    rfl
  | submit path zones =>
    have hc : b.drone.connected = false := h
    simp only [respond, submit, hc, attempted]
    rfl
  | step serial =>
    have hr : (b.runs.find? fun r => r.serial = serial) = none :=
      List.find?_eq_none.mpr fun r hr => by simpa using h r hr
    simp only [respond, hr]

theorem respond_step (hr : b.runs = [r]) :
    b.respond s now (.step r.serial) = b.advance s now r := by
  simp [respond, hr]

theorem respond_submit_of_idle (hc : b.drone.connected = true) (ha : b.drone.runActive = false)
    (path : List String) (zones : Zones) :
    (b.respond s now (.submit path zones)).1 =
      { b with drone := { prepare path zones b.drone with runActive := true } }.spawn now := by
  have hr : (prepare path zones b.drone).runActive = false := ha
  simp only [respond, submit, hc, hr, attempted]
  rfl

theorem respond_submit_of_active (hc : b.drone.connected = true) (ha : b.drone.runActive = true)
    (path : List String) (zones : Zones) :
    (b.respond s now (.submit path zones)).1 = { b with drone := prepare path zones b.drone } := by
  have hr : (prepare path zones b.drone).runActive = true := ha
  simp only [respond, submit, hc, hr, attempted, if_true]

end

namespace Sound
variable {s : FlightSettings} {now : Nat} {b c : Bay} {r : Run}

theorem ofDrone {d : Drone} (h : d.runActive = false) : (Bay.ofDrone d).Sound where
  length_runs := by
    show 0 = d.runActive.toNat
    rw [h]
    rfl
  living _ hr := absurd hr List.not_mem_nil
  free := rfl
  settled := rfl

theorem runs_eq_nil (h : b.Sound) (ha : b.drone.runActive = false) : b.runs = [] := by
  have hl := h.length_runs
  rw [ha] at hl
  exact List.eq_nil_of_length_eq_zero hl

theorem exists_run (h : b.Sound) (ha : b.drone.runActive = true) : ∃ r, b.runs = [r] := by
  have hl := h.length_runs
  rw [ha] at hl
  exact List.length_eq_one_iff.mp hl

theorem runActive_of_mem (h : b.Sound) (hr : r ∈ b.runs) : b.drone.runActive = true := by
  cases ha : b.drone.runActive with
  | true => rfl
  | false =>
    rw [h.runs_eq_nil ha] at hr
    cases hr

theorem runs_eq_of_mem (h : b.Sound) (hr : r ∈ b.runs) : b.runs = [r] := by
  obtain ⟨q, hq⟩ := h.exists_run (h.runActive_of_mem hr)
  rw [hq] at hr ⊢
  rw [List.mem_singleton.mp hr]

/-- every move keeps the flag and the runs in step -/
theorem move {e : Event} {rep : Report} (h : b.Sound) (m : b.Moves s now e c rep) : c.Sound := by
  cases m with
  | refused => exact h
  | connect => exact ⟨h.length_runs, h.living, h.free, h.settled⟩
  | disconnect => exact ⟨h.length_runs, h.living, h.free, h.settled⟩
  | launch _ ha =>
    -- the flag was down, so the new run is the only one
    refine ⟨?_, ?_, h.free, h.settled⟩
    · show (b.runs ++ [_]).length = 1
      rw [h.runs_eq_nil ha]
      rfl
    · intro r hr
      replace hr : r ∈ b.runs ++ [_] := hr
      rw [h.runs_eq_nil ha, List.nil_append] at hr
      rw [List.mem_singleton.mp hr]
  | supersede => exact ⟨h.length_runs, h.living, h.free, h.settled⟩
  | @execute r raw rest hr hq =>
    have ha := (congrArg Drone.Standing.runActive (standing_executed (s := s) r raw rest)).trans
      (h.runActive_of_mem hr)
    have hs : without r.serial b.runs = [] := by rw [h.runs_eq_of_mem hr, without_self]
    refine ⟨?_, ?_, h.free, h.settled⟩
    · show (sleeping _ _ (without r.serial b.runs)).length =
        (b.executed s r raw rest).drone.runActive.toNat
      rw [hs, sleeping_nil, show (b.executed s r raw rest).drone.runActive = true from ha]
      rfl
    · intro q hq
      replace hq : q ∈ sleeping _ (paused now _ _ r) (without r.serial b.runs) := hq
      rw [hs, sleeping_nil] at hq
      rw [List.mem_singleton.mp hq]
      exact h.living r hr
  | @complete r hr hq =>
    have hs : without r.serial b.runs = [] := by rw [h.runs_eq_of_mem hr, without_self]
    refine ⟨?_, ?_, h.free, h.settled⟩
    · show (without r.serial b.runs).length = 0
      rw [hs]
      rfl
    · intro q hq
      replace hq : q ∈ without r.serial b.runs := hq
      rw [hs] at hq
      cases hq

/-- the run of a drone takes its step whenever it is due -/
theorem task?_eq (h : b.Sound) (hr : b.runs = [r]) : b.task? = some (.step r) := by
  have hl : r.cancelled = false := h.living r (hr ▸ List.mem_singleton_self r)
  simp [task?, hr, hl, h.free, h.settled, earliest]

end Sound

end Bay

namespace Fleet

/-! ## events that leave a flight in place -/

/-- an event that leaves the flight of a drone in place: it is neither submitted anew nor
disconnected -/
def Event.Keeps (id : String) (e : Event) : Prop :=
  ∀ v, e.toward id = some v → v = .connect ∨ ∃ serial, v = .step serial

theorem Event.keeps_pass (id : String) (millis : Nat) : (Event.pass millis).Keeps id := nofun

theorem Event.keeps_step (id other : String) (serial : Nat) :
    (Event.visit other (.step serial)).Keeps id := by
  intro v hv
  obtain ⟨-, hv⟩ := Option.ite_none_right_eq_some.mp hv
  exact Or.inr ⟨serial, (Option.some.inj hv).symm⟩

/-- a drone is left to its flight by one who sleeps and takes a step, of this run or of another -/
theorem Event.keeps_pass_step (id other : String) (millis serial : Nat) {es : List Event}
    (h : ∀ e ∈ es, e.Keeps id) :
    ∀ e ∈ Event.pass millis :: .visit other (.step serial) :: es, e.Keeps id := by
  intro e he
  rcases List.mem_cons.mp he with rfl | he
  · exact keeps_pass id millis
  · rcases List.mem_cons.mp he with rfl | he
    · exact keeps_step id other serial
    · exact h e he

section
variable {f : Fleet} {id : String} {b : Bay} {r : Run}

theorem visit_of_refuses (hb : f.bay? id = some b) {v : Bay.Event} (h : b.Refuses v) :
    (f.respond (.visit id v)).1.bay? id = some b ∧ f.sighted id (.visit id v) = [] := by
  constructor
  · rw [(replaced_respond hb v).1.here, Bay.respond_of_refuses h]
  · rw [sighted_visit hb, Bay.respond_of_refuses h]
    rfl

/-- an event that leaves the flight of a connected drone in place is nothing to it, or a step of one
of its runs -/
theorem keeps_cases (hb : f.bay? id = some b) (hc : b.drone.connected = true) {e : Event}
    (he : e.Keeps id) :
    ((f.respond e).1.bay? id = some b ∧ f.sighted id e = []) ∨
      ∃ r ∈ b.runs, e = .visit id (.step r.serial) := by
  cases ht : e.toward id with
  | none =>
    refine Or.inl ⟨?_, sighted_of_toward ht⟩
    rw [bay?_respond_of_toward ht, hb]
  | some v =>
    obtain rfl := Event.eq_visit ht
    rcases he v ht with rfl | ⟨serial, rfl⟩
    · exact Or.inl (visit_of_refuses hb hc)
    · by_cases h : ∃ r ∈ b.runs, r.serial = serial
      · obtain ⟨r, hr, rfl⟩ := h
        exact Or.inr ⟨r, hr, rfl⟩
      · have gone : b.Refuses (.step serial) := fun r hr hs => h ⟨r, hr, hs⟩
        exact Or.inl (visit_of_refuses hb gone)

/-! ## the step of the only run -/

theorem visit_step_of_nil (hb : f.bay? id = some b) (hr : b.runs = [r])
    (hq : b.drone.queue = []) :
    (f.respond (.visit id (.step r.serial))).1.bay? id =
        some { b with drone := b.drone.finish, runs := [] } ∧
      f.sighted id (.visit id (.step r.serial)) =
        [⟨f.clock, b.drone.finish.snapshot, b.drone.finish⟩] := by
  have hs : b.respond f.settings f.clock (.step r.serial) =
      ({ b with drone := b.drone.finish, runs := [] },
        ⟨[(f.clock, b.drone.finish.snapshot)], (b.flight r).stepRemarks f.settings⟩) := by
    rw [Bay.respond_step hr, Bay.advance_of_nil f.clock r hq, hr, Bay.without_self]
  rw [(replaced_respond hb _).1.here, sighted_visit hb, hs]
  exact ⟨rfl, rfl⟩

theorem visit_step_of_cons (hb : f.bay? id = some b) (hr : b.runs = [r]) {raw : String}
    {rest : List String} (hq : b.drone.queue = raw :: rest) :
    (f.respond (.visit id (.step r.serial))).1.bay? id =
        some { b with
          drone := (b.executed f.settings r raw rest).drone
          runs := [Bay.paused f.clock ((Command.parse raw).pause f.settings)
            (b.executed f.settings r raw rest).zone r] } ∧
      f.sighted id (.visit id (.step r.serial)) =
        [⟨f.clock, (b.executed f.settings r raw rest).drone.snapshot,
          (b.executed f.settings r raw rest).drone⟩] := by
  have hs : b.respond f.settings f.clock (.step r.serial) =
      ({ b with
          drone := (b.executed f.settings r raw rest).drone
          runs := [Bay.paused f.clock ((Command.parse raw).pause f.settings)
            (b.executed f.settings r raw rest).zone r] },
        ⟨[(f.clock, (b.executed f.settings r raw rest).drone.snapshot)],
          (b.flight r).stepRemarks f.settings⟩) := by
    rw [Bay.respond_step hr, Bay.advance_of_cons f.clock r hq, hr, Bay.without_self,
      Bay.sleeping_nil]
  rw [(replaced_respond hb _).1.here, sighted_visit hb, hs]
  exact ⟨rfl, rfl⟩

theorem sighted_step_ne_nil (hb : f.bay? id = some b) (hr : b.runs = [r]) :
    f.sighted id (.visit id (.step r.serial)) ≠ [] := by
  cases hq : b.drone.queue with
  | nil =>
    rw [(visit_step_of_nil hb hr hq).2]
    exact List.cons_ne_nil _ _
  | cons raw rest =>
    rw [(visit_step_of_cons hb hr hq).2]
    exact List.cons_ne_nil _ _

/-- as long as its run takes no step, a drone stays as it is -/
theorem bay?_after_of_unseen (hb : f.bay? id = some b) (hc : b.drone.connected = true)
    (hr : b.runs = [r]) {es : List Event} (he : ∀ e ∈ es, e.Keeps id)
    (hn : f.sightings id es = []) : (f.after es).bay? id = some b := by
  induction es generalizing f with
  | nil => exact hb
  | cons e es ih =>
    obtain ⟨hn, hns⟩ := List.append_eq_nil_iff.mp hn
    rcases keeps_cases hb hc (he e List.mem_cons_self) with ⟨hb', -⟩ | ⟨q, hq, rfl⟩
    · exact ih hb' (fun e h => he e (List.mem_cons_of_mem _ h)) hns
    · rw [hr] at hq
      obtain rfl := List.mem_singleton.mp hq
      exact absurd hn (sighted_step_ne_nil hb hr)

/-! ## submissions -/

theorem connected_of_submit {path : List String} {zones : Zones} {g : Fleet} {rep : Report}
    (h : f.submit id path zones = .ok (g, rep)) :
    ∃ a, f.bay? id = some a ∧ a.drone.connected = true ∧
      g = (f.respond (.visit id (.submit path zones))).1 := by
  have hg : g = (f.respond (.visit id (.submit path zones))).1 := by
    show g = (attempted f (f.submit id path zones)).1
    rw [h]
    rfl
  cases ha : f.bay? id with
  | none => simp [submit, operate_of_none ha] at h
  | some a =>
    cases hc : a.drone.connected with
    | true => exact ⟨a, rfl, hc, hg⟩
    | false =>
      have refused : a.submit f.clock path zones = .error .droneNotConnected := by
        simp [Bay.submit, hc]
      simp [submit, operate_of_error ha refused] at h

theorem submitted_bay {path : List String} {zones : Zones} {g : Fleet} {rep : Report}
    (sound : ∀ b ∈ f.bays, b.Sound) (h : f.submit id path zones = .ok (g, rep)) :
    ∃ a b r, f.bay? id = some a ∧ g.bay? id = some b ∧ b.Sound ∧ b.runs = [r] ∧
      b.drone = { Bay.prepare path zones a.drone with runActive := true } ∧
      b.drone.connected = true := by
  obtain ⟨a, ha, hc, rfl⟩ := connected_of_submit h
  have here := (replaced_respond ha (.submit path zones)).1.here
  have hs := (sound a (mem_of_bay? ha)).move
    (Bay.moves_respond f.settings f.clock a (.submit path zones))
  cases hact : a.drone.runActive with
  | false =>
    rw [Bay.respond_submit_of_idle hc hact] at here hs
    obtain ⟨r, hr⟩ := hs.exists_run rfl
    exact ⟨a, _, r, ha, here, hs, hr, rfl, hc⟩
  | true =>
    rw [Bay.respond_submit_of_active hc hact] at here hs
    obtain ⟨r, hr⟩ := hs.exists_run hact
    refine ⟨a, _, r, ha, here, hs, hr, ?_, hc⟩
    rw [← hact]
    rfl

theorem sound_after_seeded (s : FleetSettings) (t : FlightSettings) (capacity : Nat)
    (past : List Event) : ∀ b ∈ ((seeded s t capacity).1.after past).bays, b.Sound := by
  refine all_bays_after (P := Bay.Sound) ?_ ?_ past
  · exact fun s now b v h => h.move (Bay.moves_respond s now b v)
  · intro b hb
    obtain ⟨i, rfl⟩ := mem_bays_seeded hb
    exact .ofDrone rfl

end

/-- **One run for each flight.** Whatever happened to a fleet, a drone has one run, alive, if its
flag is up and none otherwise. And a flight that was accepted has a run that waits to carry it out:
until it is submitted anew, disconnected or the run takes its step, the run is there with all of the
flight, and its step is the first command of the flight, or the end if it has none. -/
theorem one_run_for_each_flight (s : FleetSettings) (t : FlightSettings) (capacity : Nat)
    (past : List Event) :
    (∀ b ∈ ((seeded s t capacity).1.after past).bays,
      b.runs.length = b.drone.runActive.toNat ∧ ∀ r ∈ b.runs, r.cancelled = false) ∧
    ∀ id path zones g rep,
      ((seeded s t capacity).1.after past).submit id path zones = .ok (g, rep) →
      ∀ es, (∀ e ∈ es, e.Keeps id) → g.sightings id es = [] →
        ∃ a b r, ((seeded s t capacity).1.after past).bay? id = some a ∧
          (g.after es).bay? id = some b ∧ b.runs = [r] ∧ b.task? = some (.step r) ∧
          b.drone = { Bay.prepare path zones a.drone with runActive := true } ∧
          (path = [] → (g.after es).sighted id (.visit id (.step r.serial)) =
            [⟨(g.after es).clock, b.drone.finish.snapshot, b.drone.finish⟩]) ∧
          ∀ raw rest, path = raw :: rest →
            (g.after es).sighted id (.visit id (.step r.serial)) =
              [⟨(g.after es).clock, (b.executed t r raw rest).drone.snapshot,
                (b.executed t r raw rest).drone⟩] := by
  have sound := sound_after_seeded s t capacity past
  refine ⟨fun b hb => ⟨(sound b hb).length_runs, (sound b hb).living⟩, ?_⟩
  intro id path zones g rep h es he hn
  obtain ⟨a, b, r, ha, hb, hs, hr, hd, hc⟩ := submitted_bay sound h
  have hb' := bay?_after_of_unseen hb hc hr he hn
  refine ⟨a, b, r, ha, hb', hr, hs.task?_eq hr, hd, ?_, ?_⟩
  · rintro rfl
    have hq : b.drone.queue = [] := by rw [hd]; rfl
    exact (visit_step_of_nil hb' hr hq).2
  · rintro raw rest rfl
    have hq : b.drone.queue = raw :: rest := by rw [hd]; rfl
    have ht : (g.after es).settings = t := by
      obtain ⟨-, -, -, rfl⟩ := connected_of_submit h
      rw [settings_after, settings_respond, settings_after]
      rfl
    rw [← ht]
    exact (visit_step_of_cons hb' hr hq).2

theorem run_of_first_flight :
    ∃ g rep, ((seeded { count := 1 } {} 16).1.after [.visit "tello-1" .connect]).submit "tello-1"
        ["cw 45"] [] = .ok (g, rep) ∧
      ∃ b r, (g.after [.pass 5]).bay? "tello-1" = some b ∧ b.runs = [r] ∧
        (g.after [.pass 5]).sighted "tello-1" (.visit "tello-1" (.step r.serial)) =
          [⟨(g.after [.pass 5]).clock, (b.executed {} r "cw 45" []).drone.snapshot,
            (b.executed {} r "cw 45" []).drone⟩] := by
  cases h : ((seeded { count := 1 } {} 16).1.after [.visit "tello-1" .connect]).submit "tello-1"
      ["cw 45"] [] with
  | error e =>
    have accepted : (((seeded { count := 1 } {} 16).1.after [.visit "tello-1" .connect]).submit
        "tello-1" ["cw 45"] []).toOption.isSome = true := by decide +kernel
    rw [h] at accepted
    cases accepted
  | ok r =>
    obtain ⟨g, rep⟩ := r
    have keeps : ∀ e ∈ [Event.pass 5], e.Keeps "tello-1" := by
      intro e he
      obtain rfl := List.mem_singleton.mp he
      exact Event.keeps_pass _ 5
    have unseen : g.sightings "tello-1" [.pass 5] = [] := by
      rw [sightings_cons, sighted_of_toward rfl, sightings_nil, List.nil_append]
    obtain ⟨-, b, r, -, hb, hr, -, -, -, first⟩ :=
      (one_run_for_each_flight _ _ _ _).2 _ _ _ g rep h [.pass 5] keeps unseen
    exact ⟨g, rep, rfl, b, r, hb, hr, first "cw 45" [] rfl⟩

end Fleet

end DroneFleet
