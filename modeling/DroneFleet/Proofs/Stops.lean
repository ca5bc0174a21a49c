import DroneFleet.Proofs.Endings
import DroneFleet.Proofs.Notices
import DroneFleet.Proofs.Punctual

/-!
# Flights that are stopped

A flight stops when its drone is disconnected, and when it executes `clear`. Neither ends the run: it
sleeps on, with an empty queue before it, to the end of the pause that it is in, and only then finds
that nothing is left. Meanwhile the drone may be connected again and disconnected, as often as one
likes; without a new flight the run finds nothing else.

* `Bay.Stops`               what stops a flight
* `Fleet.Stopped`           a drone whose run has nothing left to execute
* `Stopped.stay_or_finish`  it stays so until the run takes its step, and then the run is over
* `Fleet.Fate`              what comes of a stopped flight
* `Stopped.fate`            so it is whatever happens
* `stopped_flight_ends_once`   from the stop to the end
-/

namespace DroneFleet

/-- what stops the flight of a drone: a disconnection that is accepted, or a step that executes
`clear` -/
inductive Bay.Stops (b : Bay) : Bay.Event → Prop where
  | disconnect (h : b.drone.connected = true) : Stops b .disconnect
  | clear {r : Run} {raw : String} {rest : List String} (hr : r ∈ b.runs)
    (hq : b.drone.queue = raw :: rest) (hc : Command.parse raw = .clear) : Stops b (.step r.serial)

/-- what is told at the end of the flight of a drone, if the drone is connected or not then -/
def Drone.farewell (d : Drone) (connected : Bool) : Snapshot :=
  { d.snapshot with connected := connected, status := .complete, inFlight := false }

namespace Fleet

/-- a drone that was `d` when its flight was stopped: the run is there and has nothing left to
execute, and all else but the connection and the status is as it was -/
structure Stopped (f : Fleet) (id : String) (q : Run) (d : Drone) (b : Bay) : Prop where
  here : f.bay? id = some b
  runs : b.runs = [q]
  queue : b.drone.queue = []
  kept : b.drone =
    { d with queue := [], connected := b.drone.connected, status := b.drone.status }

section
variable {f : Fleet} {id : String} {q : Run} {d : Drone} {b : Bay}

namespace Stopped

theorem snapshot_finish (h : Stopped f id q d b) :
    b.drone.finish.snapshot = d.farewell b.drone.connected := by
  have same : ∀ c : Drone,
      c = { d with queue := [], connected := c.connected, status := c.status } →
      c.finish.snapshot = d.farewell c.connected := by
    intro c hc
    rw [hc]
    rfl
  exact same b.drone h.kept

theorem finish (h : Stopped f id q d b) :
    f.sighted id (.visit id (.step q.serial)) =
        [⟨f.clock, d.farewell b.drone.connected, b.drone.finish⟩] ∧
      f.executed? id (.visit id (.step q.serial)) = some none ∧
      (f.respond (.visit id (.step q.serial))).1.flies id = false := by
  obtain ⟨there, shown⟩ := visit_step_of_nil h.here h.runs h.queue
  have mem : q ∈ b.runs := h.runs ▸ List.mem_singleton_self q
  rw [h.snapshot_finish] at shown
  refine ⟨shown, ?_, ?_⟩
  · rw [executed?_step h.here mem, h.queue]
    rfl
  · rw [flies_eq there]
    rfl

/-- whatever else happens, short of a flight that is accepted, leaves it stopped -/
theorem stay_or_finish (h : Stopped f id q d b) {e : Event} (he : f.accepts id e = false) :
    e = .visit id (.step q.serial) ∨
      (∃ c, Stopped (f.respond e).1 id q d c) ∧ f.sighted id e = [] ∧ f.executed? id e = none := by
  rcases f.event_cases id e with idle | ⟨a, v, c, rep, ha, rfl, m, hc, hs⟩
  · refine Or.inr ⟨⟨b, ?_, h.runs, h.queue, h.kept⟩, idle.sighted, idle.executed?⟩
    rw [idle.bay?]
    exact h.here
  · obtain rfl := Option.some.inj (h.here.symm.trans ha)
    cases m with
    | refused hr =>
      exact Or.inr ⟨⟨b, hc, h.runs, h.queue, h.kept⟩, hs, executed?_of_refuses ha hr⟩
    | connect _ =>
      refine Or.inr ⟨⟨_, hc, h.runs, h.queue, ?_⟩, hs, rfl⟩
      show ({ b.drone with connected := true, status := .connected } : Drone) = _
      rw [h.kept]
    | disconnect _ =>
      refine Or.inr ⟨⟨_, hc, h.runs, rfl, ?_⟩, hs, rfl⟩
      show ({ b.drone with queue := [], connected := false, status := .idle } : Drone) = _
      rw [h.kept]
    | launch online _ =>
      rw [accepts_visit_submit ha, online] at he
      cases he
    | supersede online _ =>
      rw [accepts_visit_submit ha, online] at he
      cases he
    | execute _ hq =>
      rw [h.queue] at hq
      cases hq
    | complete hr _ =>
      rw [h.runs] at hr
      rw [List.mem_singleton.mp hr]
      exact Or.inl rfl

end Stopped

/-! ## what comes of it -/

/-- what comes of a flight that is stopped, in a history without a new one -/
inductive Fate (f : Fleet) (id : String) (q : Run) (d : Drone) (es : List Event) : Prop
  /-- the run still sleeps, and nothing was executed or told -/
  | asleep {b : Bay} (h : Stopped (f.after es) id q d b) (told : f.sightings id es = [])
    (steps : f.executions id es = [])
  /-- the run is over, and its end is all that was told -/
  | ended {before later : List Event} {b : Bay}
    (split : es = before ++ .visit id (.step q.serial) :: later)
    (h : Stopped (f.after before) id q d b) (quiet : f.sightings id before = [])
    (told : f.sightings id es =
      [⟨(f.after before).clock, d.farewell b.drone.connected, b.drone.finish⟩])
    (steps : f.executions id es = [none])

theorem executions_of_unaccepted (h : f.Orderly) (hf : f.flies id = false) {es : List Event}
    (hn : tally (accepts id) f es = 0) : f.executions id es = [] := by
  have reports := reports_executions h id es
  rw [sightings_of_unaccepted h hf hn] at reports
  exact List.forall₂_nil_right_iff.mp reports

theorem tally_append (p : Fleet → Event → Bool) (f : Fleet) (es es' : List Event) :
    tally p f (es ++ es') = tally p f es + tally p (f.after es) es' := by
  induction es generalizing f with
  | nil => exact (Nat.zero_add _).symm
  | cons e es ih =>
    show (p f e).toNat + tally p (f.respond e).1 (es ++ es') = _
    rw [ih, ← Nat.add_assoc]
    rfl

theorem unaccepted_cons {e : Event} {es : List Event} (hn : tally (accepts id) f (e :: es) = 0) :
    f.accepts id e = false ∧ tally (accepts id) (f.respond e).1 es = 0 := by
  obtain ⟨none, rest⟩ := Nat.add_eq_zero_iff.mp
    (show (f.accepts id e).toNat + tally (accepts id) (f.respond e).1 es = 0 from hn)
  exact ⟨Bool.toNat_eq_zero.mp none, rest⟩

namespace Stopped

theorem fate (h : Stopped f id q d b) (orderly : f.Orderly) {es : List Event}
    (hn : tally (accepts id) f es = 0) : f.Fate id q d es := by
  induction es generalizing f b with
  | nil => exact .asleep h rfl rfl
  | cons e es ih =>
    obtain ⟨rejected, rest⟩ := unaccepted_cons hn
    rcases h.stay_or_finish rejected with rfl | ⟨⟨c, hc⟩, shown, executed⟩
    · obtain ⟨shown, executed, landed⟩ := h.finish
      have told := sightings_of_unaccepted (orderly.respond _) landed rest
      have steps := executions_of_unaccepted (orderly.respond _) landed rest
      refine .ended (show _ = [] ++ _ from rfl) h rfl ?_ ?_
      · rw [sightings_cons, shown, told]
        rfl
      · show (f.executed? id _).toList ++ _ = _
        rw [executed, steps]
        rfl
    · have first : ∀ xs, f.sighted id e ++ xs = xs := fun xs => by rw [shown, List.nil_append]
      have none : ∀ xs, (f.executed? id e).toList ++ xs = xs := fun xs => by
        rw [executed]
        rfl
      cases ih hc (orderly.respond e) rest with
      | asleep h told steps =>
        exact .asleep h ((first _).trans told) ((none _).trans steps)
      | @ended before later c split h quiet told steps =>
        have longer : e :: es = (e :: before) ++ .visit id (.step q.serial) :: later := by
          rw [split]
          rfl
        exact .ended longer h ((first _).trans quiet) ((first _).trans told) ((none _).trans steps)

/-- as long as nothing is told of it the time does not pass the end of the pause -/
theorem clock_le (h : Stopped f id q d b) {es : List Event}
    (hn : tally (accepts id) f es = 0) (quiet : f.sightings id es = []) (hp : f.Punctual id es)
    (ht : f.clock ≤ q.due) : (f.after es).clock ≤ q.due := by
  induction es generalizing f b with
  | nil => exact ht
  | cons e es ih =>
    obtain ⟨rejected, rest⟩ := unaccepted_cons hn
    obtain ⟨quiet, later⟩ := List.append_eq_nil_iff.mp quiet
    rcases h.stay_or_finish rejected with rfl | ⟨⟨c, hc⟩, -, -⟩
    · rw [h.finish.1] at quiet
      cases quiet
    · exact ih hc rest later hp.2 (clock_le_of_timely h.here h.runs hp.1 ht)

/-- if the steps are taken as they are due, the end comes at the end of the pause -/
theorem told_on_time (h : Stopped f id q d b) (orderly : f.Orderly) {es : List Event}
    (hn : tally (accepts id) f es = 0) (hp : f.Punctual id es) (ht : f.clock ≤ q.due) :
    (∀ x ∈ f.sightings id es, x.time = q.due) ∧
      (q.due < (f.after es).clock → f.sightings id es ≠ []) := by
  cases h.fate orderly hn with
  | asleep _ told _ =>
    rw [told]
    refine ⟨fun x hx => absurd hx List.not_mem_nil, fun late => ?_⟩
    have early := h.clock_le hn told hp ht
    omega
  | @ended before later c split hc quiet told _ =>
    rw [told]
    refine ⟨fun x hx => ?_, fun _ => List.cons_ne_nil _ _⟩
    rw [List.mem_singleton.mp hx]
    subst split
    rw [tally_append] at hn
    obtain ⟨asleep, due, -⟩ := (punctual_append f id before _).mp hp
    have early := h.clock_le (Nat.add_eq_zero_iff.mp hn).1 quiet asleep ht
    have late : q.due ≤ (f.after before).clock :=
      due rfl c hc.here q (hc.runs ▸ List.mem_singleton_self q) rfl
    exact Nat.le_antisymm early late

end Stopped

/-! ## where it begins -/

theorem stopped_of_disconnect (hb : f.bay? id = some b) (hr : b.runs = [q])
    (hc : b.drone.connected = true) :
    ∃ c, Stopped (f.respond (.visit id .disconnect)).1 id q b.drone c := by
  have here := (replaced_respond hb .disconnect).1.here
  have after : (b.respond f.settings f.clock .disconnect).1 =
      { b with drone := { b.drone with queue := [], connected := false, status := .idle } } := by
    simp only [Bay.respond, Bay.disconnect, hc, attempted]
    rfl
  rw [after] at here
  exact ⟨_, here, hr, rfl, rfl⟩

theorem stopped_of_clear {r : Run} {raw : String} {rest : List String} (hb : f.bay? id = some b)
    (hr : b.runs = [r]) (hq : b.drone.queue = raw :: rest) (hc : Command.parse raw = .clear) :
    ∃ c zone, Stopped (f.respond (.visit id (.step r.serial))).1 id
      (Bay.paused f.clock f.settings.stepInterval zone r) b.drone c := by
  have here := (visit_step_of_cons hb hr hq).1
  have cleared : (b.executed f.settings r raw rest).drone =
      { b.drone with queue := [], status := .executing raw } := by
    unfold Bay.executed
    rw [hc]
    rfl
  rw [cleared, hc] at here
  exact ⟨_, _, here, rfl, rfl, rfl⟩

/-- however a flight is stopped, its run is there with nothing left to execute: as it was before, or
with one pause before it -/
theorem stopped_of_stops (hb : f.bay? id = some b) {r : Run} (hr : b.runs = [r]) {v : Bay.Event}
    (hv : b.Stops v) :
    ∃ c q, Stopped (f.respond (.visit id v)).1 id q b.drone c ∧ q.serial = r.serial ∧
      (v = .disconnect → q = r) ∧
      (v = .step r.serial →
        q.due = f.clock + f.settings.stepInterval) := by
  cases hv with
  | disconnect hc =>
    obtain ⟨c, h⟩ := stopped_of_disconnect hb hr hc
    exact ⟨c, r, h, rfl, fun _ => rfl, nofun⟩
  | clear hmem hq hc =>
    rw [hr] at hmem
    obtain rfl := List.mem_singleton.mp hmem
    obtain ⟨c, zone, h⟩ := stopped_of_clear hb hr hq hc
    exact ⟨c, _, h, rfl, nofun, fun _ => rfl⟩

/-! ## runs that are not overdue -/

/-- is no run of a drone overdue? -/
def Current (f : Fleet) (id : String) : Prop :=
  ∀ b, f.bay? id = some b → ∀ r ∈ b.runs, f.clock ≤ r.due

theorem clock_le_of_current (h : f.Current id) {e : Event} (ht : f.Timely id e)
    (hb : f.bay? id = some b) {r : Run} (hr : r ∈ b.runs) : (f.respond e).1.clock ≤ r.due := by
  cases e with
  | visit other v =>
    rw [clock_visit]
    exact h b hb r hr
  | pass millis =>
    have awake := h b hb r hr
    have pause := ht b hb r hr
    show f.clock + millis ≤ r.due
    omega
  | _ => exact h b hb r hr

theorem Current.respond (h : f.Current id) {e : Event} (ht : f.Timely id e) :
    (f.respond e).1.Current id := by
  intro c hc r hr
  rcases f.event_cases id e with idle | ⟨b, v, c', rep, hb, rfl, m, hc', -⟩
  · rw [idle.bay?] at hc
    exact clock_le_of_current h ht hc hr
  · obtain rfl := Option.some.inj (hc'.symm.trans hc)
    have asleep : ∀ r ∈ b.runs, (f.respond (.visit id v)).1.clock ≤ r.due :=
      fun r hr => clock_le_of_current h ht hb hr
    cases m with
    | launch _ _ =>
      rcases List.mem_append.mp hr with hr | hr
      · exact asleep r hr
      · rw [List.mem_singleton.mp hr]
        exact Nat.le_of_eq (clock_visit f id _)
    | execute _ _ =>
      rcases Bay.mem_sleeping hr with rfl | hr
      · rw [clock_visit]
        exact Nat.le_add_right _ _
      · exact asleep r (List.mem_filter.mp hr).1
    | complete _ _ => exact asleep r (List.mem_filter.mp hr).1
    | _ => exact asleep r hr

theorem Current.after (h : f.Current id) {es : List Event} (hp : f.Punctual id es) :
    (f.after es).Current id := by
  induction es generalizing f with
  | nil => exact h
  | cons e es ih => exact ih (h.respond hp.1) hp.2

theorem current_seeded (s : FleetSettings) (t : FlightSettings) (capacity : Nat) (id : String) :
    (seeded s t capacity).1.Current id := by
  intro b hb r hr
  obtain ⟨i, rfl⟩ := mem_bays_seeded (mem_of_bay? hb)
  cases hr

end

/-- **A stopped flight ends once.** Take a drone with a run, whatever happened to the fleet and
whatever is in the queue, and stop its flight: disconnect it, or let it execute `clear`. Until a new
flight is accepted the run executes nothing more, also if the drone is connected again, and of the
drone is told one thing more: that the run is over, with the place and the heading of the drone as
they were, and whether it is connected at that time. It is told when the run takes its next step; if
steps are taken as they are due, that is at the end of the pause that the run was in, or after `clear`
of the one that follows it. -/
theorem stopped_flight_ends_once (s : FleetSettings) (t : FlightSettings) (capacity : Nat)
    (past : List Event) {id : String} {b : Bay} {v : Bay.Event}
    (hb : ((seeded s t capacity).1.after past).bay? id = some b)
    (ha : b.drone.runActive = true) (hv : b.Stops v) :
    ∃ r q, b.runs = [r] ∧ q.serial = r.serial ∧ (v = .disconnect → q = r) ∧
      (v = .step r.serial → q.due =
        ((seeded s t capacity).1.after past).clock + t.stepInterval) ∧
      ∀ es, tally (accepts id)
          (((seeded s t capacity).1.after past).respond (.visit id v)).1 es = 0 →
        Fate (((seeded s t capacity).1.after past).respond (.visit id v)).1 id q b.drone es ∧
        ((seeded s t capacity).1.Punctual id (past ++ .visit id v :: es) →
          (∀ x ∈ (((seeded s t capacity).1.after past).respond (.visit id v)).1.sightings id es,
            x.time = q.due) ∧
          (q.due < ((seeded s t capacity).1.after (past ++ .visit id v :: es)).clock →
            (((seeded s t capacity).1.after past).respond (.visit id v)).1.sightings id es ≠
              [])) := by
  have orderly := orderly_after_seeded s t capacity past
  obtain ⟨r, hr⟩ := (orderly.sound b (mem_of_bay? hb)).exists_run ha
  obtain ⟨c, q, stopped, serial, same, paused⟩ := stopped_of_stops hb hr hv
  rw [settings_after] at paused
  refine ⟨r, q, hr, serial, same, paused, fun es hn => ⟨stopped.fate (orderly.respond _) hn, ?_⟩⟩
  intro hp
  obtain ⟨before, stop, later⟩ := (punctual_append _ id past _).mp hp
  have current := ((current_seeded s t capacity id).after before).respond stop
  have awake := current c stopped.here q (stopped.runs ▸ List.mem_singleton_self q)
  rw [after_append]
  exact stopped.told_on_time (orderly.respond _) hn later awake

def entering : List Event :=
  [.visit "tello-1" .connect, .visit "tello-1" (.submit ["action z", "land"] [("z", ["up 20"])]),
    .visit "tello-1" (.step 0), .pass 200]

def reconnecting : List Event :=
  [.visit "tello-1" .connect, .pass 300, .visit "tello-1" (.step 0), .pass 700]

/-- disconnected in the zone and connected again, the drone flies nothing of what was left -/
theorem stop_in_zone :
    (∃ b, ((seeded { count := 1 } {} 16).1.after entering).bay? "tello-1" = some b ∧
      b.drone.queue = ["up 20", "go 0 0 0 50", "ccw 0", "land"]) ∧
    (((seeded { count := 1 } {} 16).1.after entering).respond
        (.visit "tello-1" .disconnect)).1.executions "tello-1" reconnecting = [none] ∧
    ∃ x, (((seeded { count := 1 } {} 16).1.after entering).respond
        (.visit "tello-1" .disconnect)).1.sightings "tello-1" reconnecting = [x] ∧
      x.time = 500 ∧ x.told.status = .complete ∧ x.told.connected = true := by
  have way : (((seeded { count := 1 } {} 16).1.after entering).bay? "tello-1").map (fun b =>
      (b.drone.queue, b.drone.connected, b.drone.runActive, b.runs.map Run.due)) =
      some (["up 20", "go 0 0 0 50", "ccw 0", "land"], true, true, [500]) := by decide +kernel
  obtain ⟨b, hb, hx⟩ := Option.map_eq_some_iff.mp way
  obtain ⟨queue, hx⟩ := Prod.mk.inj hx
  obtain ⟨online, hx⟩ := Prod.mk.inj hx
  obtain ⟨active, due⟩ := Prod.mk.inj hx
  obtain ⟨r, q, hr, -, same, -, ends⟩ :=
    stopped_flight_ends_once { count := 1 } {} 16 entering hb active (.disconnect online)
  obtain ⟨fate, timed⟩ := ends reconnecting (by decide +kernel)
  obtain ⟨time, late⟩ := timed (by decide +kernel)
  have pause : q.due = 500 := by
    rw [same rfl]
    rw [hr] at due
    exact (List.cons.inj due).1
  have told := late (by rw [pause]; decide +kernel)
  refine ⟨⟨b, hb, queue⟩, ?_⟩
  cases fate with
  | asleep _ none _ => exact absurd none told
  | ended _ _ _ only steps =>
    have connected : ((((seeded { count := 1 } {} 16).1.after entering).respond
        (.visit "tello-1" .disconnect)).1.sightings "tello-1" reconnecting).map
          (·.told.connected) = [true] := by decide +kernel
    rw [only] at time connected
    refine ⟨steps, _, only, ?_, rfl, (List.cons.inj connected).1⟩
    rw [time _ (List.mem_singleton_self _), pause]

end Fleet

end DroneFleet
