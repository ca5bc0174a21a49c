import Mathlib.Data.List.Forall2
import DroneFleet.Proofs.Consistency
import DroneFleet.Proofs.Executors

/-!
# What observers are told of a drone

Observers are told of a drone when one of its runs takes a step, and at no other time: of a command
right after it is executed, or of the end of the run. A drone may be disconnected, connected again
and sent on another flight between two steps, and still it is in flight whenever a command of it is
told of, because the queue of a drone that is not connected is empty.

* `Status.during`          the status that a command is shown with
* `Fleet.Sighting.Reports` what is told of a command, and of the end of a run
* `Fleet.executions`       the steps that the runs of a drone take in a history
* `Fleet.tally`            how many events of a history are of a kind
* `Fleet.Orderly`          a fleet whose drones are in order, which every event keeps
* `Fleet.reports_executions`   one notice for each step, in their order
* `Fleet.completions_add_flies`   as many ends as runs that began, but for the one under way
* `Fleet.sightings_of_unaccepted`   a drone without a run is quiet until a flight is accepted
-/

namespace DroneFleet

/-! ## the status of a command -/

/-- the status that a command is shown with -/
def Status.during (raw : String) : Status :=
  match Command.parse raw with
  | .takeoff => .takeoff
  | .land => .landed
  | _ => .executing raw

theorem Status.during_eq_takeoff_iff (raw : String) :
    Status.during raw = .takeoff ↔ Command.parse raw = .takeoff := by
  unfold during
  cases Command.parse raw <;> simp

theorem Status.during_eq_landed_iff (raw : String) :
    Status.during raw = .landed ↔ Command.parse raw = .land := by
  unfold during
  cases Command.parse raw <;> simp

theorem Status.during_ne_complete (raw : String) : Status.during raw ≠ .complete := by
  unfold during
  cases Command.parse raw <;> simp

theorem Flight.status_apply_pop (s : FlightSettings) (raw : String) (rest : List String)
    (f : Flight) :
    ((f.pop raw rest).apply s (.parse raw)).drone.status = Status.during raw := by
  unfold Status.during
  cases Command.parse raw with
  | rotate right degrees => cases degrees <;> rfl
  | resetDirection =>
    simp only [apply]
    split <;> rfl
  | action zone =>
    cases zone with
    | none => rfl
    | some zone =>
      show ((f.pop raw rest).enter s.returnSpeed zone).drone.status = .executing raw
      unfold enter
      split <;> rfl
  | _ => rfl

theorem Bay.status_executed (s : FlightSettings) (b : Bay) (r : Run) (raw : String)
    (rest : List String) : (b.executed s r raw rest).drone.status = Status.during raw :=
  Flight.status_apply_pop s raw rest (b.flight r)

namespace Fleet

/-! ## steps and notices -/

/-- what is told of a command that was executed, or of the end of a run: the drone as it is right
after that -/
inductive Sighting.Reports : Option String → Sighting → Prop
  | command {raw : String} {x : Sighting} (told : x.told = x.drone.snapshot)
      (connected : x.told.connected = true) (inFlight : x.told.inFlight = true)
      (status : x.told.status = .during raw) : Reports (some raw) x
  | completion {x : Sighting} (told : x.told = x.drone.snapshot) (inFlight : x.told.inFlight = false)
      (status : x.told.status = .complete) : Reports none x

/-- the step that a run of a drone takes by an event: the command that it executes, or none at the
end of the queue -/
def executed? (f : Fleet) (id : String) : Event → Option (Option String)
  | .visit other (.step serial) =>
    if other = id then
      (f.bay? id).bind fun b => if b.alive serial then some b.drone.queue.head? else none
    else none
  | _ => none

/-- the steps that the runs of a drone take in a history -/
def executions (f : Fleet) (id : String) : List Event → List (Option String)
  | [] => []
  | e :: es => (f.executed? id e).toList ++ (f.respond e).1.executions id es

/-- how many events of a history are of a kind, each in the fleet as it is then -/
def tally (p : Fleet → Event → Bool) (f : Fleet) : List Event → Nat
  | [] => 0
  | e :: es => (p f e).toNat + tally p (f.respond e).1 es

def accepts (id : String) (f : Fleet) : Event → Bool
  | .visit other (.submit path zones) => other = id && (f.submit id path zones).isOk
  | _ => false

/-- is it a flight that is accepted while no run works on the queue of the drone? -/
def launches (id : String) (f : Fleet) (e : Event) : Bool := f.accepts id e && !f.flies id

/-- is it the end of a run that observers are told of? -/
def Sighting.isCompletion (x : Sighting) : Bool := x.told.status = .complete

theorem Sighting.isCompletion_of_reports {command : Option String} {x : Sighting}
    (h : Reports command x) : x.isCompletion = command.isNone := by
  unfold isCompletion
  cases h with
  | command _ _ _ status =>
    rw [status]
    exact decide_eq_false (Status.during_ne_complete _)
  | completion _ _ status =>
    rw [status]
    rfl

/-! ## fleets in order -/

/-- a fleet in which every drone has the runs that its flag counts, and its fields agree -/
structure Orderly (f : Fleet) : Prop where
  sound : ∀ b ∈ f.bays, b.Sound
  consistent : ∀ b ∈ f.bays, b.drone.Consistent

section
variable {f : Fleet} {id : String} {b : Bay}

theorem orderly_after_seeded (s : FleetSettings) (t : FlightSettings) (capacity : Nat)
    (past : List Event) : ((seeded s t capacity).1.after past).Orderly where
  sound := sound_after_seeded s t capacity past
  consistent := by
    refine all_bays_after (P := fun b => b.drone.Consistent) ?_ ?_ past
    · exact fun s now b v h => h.move (Bay.moves_respond s now b v)
    · intro b hb
      obtain ⟨i, rfl⟩ := mem_bays_seeded hb
      exact .new _ _ _ _

theorem Orderly.respond (h : f.Orderly) (e : Event) : (f.respond e).1.Orderly where
  sound := all_bays_after (P := Bay.Sound)
    (fun s now b v hb => hb.move (Bay.moves_respond s now b v)) h.sound [e]
  consistent := all_bays_after (P := fun b => b.drone.Consistent)
    (fun s now b v hb => hb.move (Bay.moves_respond s now b v)) h.consistent [e]

theorem flies_eq (h : f.bay? id = some b) : f.flies id = b.drone.runActive := by
  unfold flies
  rw [h]
  rfl

theorem flies_of_none (h : f.bay? id = none) : f.flies id = false := by
  unfold flies
  rw [h]
  rfl

theorem accepts_visit_submit (h : f.bay? id = some b) (path : List String) (zones : Zones) :
    f.accepts id (.visit id (.submit path zones)) = b.drone.connected := by
  show (decide (id = id) && (f.submit id path zones).isOk) = _
  rw [decide_eq_true rfl, Bool.true_and]
  cases hs : f.submit id path zones with
  | ok r =>
    obtain ⟨g, rep⟩ := r
    obtain ⟨a, ha, hc, -⟩ := connected_of_submit hs
    obtain rfl := Option.some.inj (h.symm.trans ha)
    exact hc.symm
  | error e =>
    cases hc : b.drone.connected with
    | false => rfl
    | true =>
      cases ha : b.drone.runActive <;>
        simp [submit, operate, h, Bay.submit, hc, Bay.prepare, ha] at hs

/-! ## one event -/

theorem executed?_of_toward {e : Event} (h : e.toward id = none) : f.executed? id e = none := by
  cases e with
  | visit other v =>
    have ho : other ≠ id := fun hi => by simp [Event.toward, hi] at h
    cases v with
    | step serial => exact if_neg ho
    | _ => rfl
  | _ => rfl

theorem accepts_of_toward {e : Event} (h : e.toward id = none) : f.accepts id e = false := by
  cases e with
  | visit other v =>
    have ho : other ≠ id := fun hi => by simp [Event.toward, hi] at h
    cases v with
    | submit path zones =>
      show (decide (other = id) && _) = false
      rw [decide_eq_false ho, Bool.false_and]
    | _ => rfl
  | _ => rfl

theorem executed?_step (hb : f.bay? id = some b) {r : Run} (hr : r ∈ b.runs) :
    f.executed? id (.visit id (.step r.serial)) = some b.drone.queue.head? := by
  have there : b.alive r.serial = true := List.any_eq_true.mpr ⟨r, hr, decide_eq_true rfl⟩
  show (if id = id then (f.bay? id).bind _ else none) = _
  rw [if_pos rfl, hb]
  show (if b.alive r.serial then _ else _) = _
  rw [if_pos there]

theorem executed?_of_refuses (hb : f.bay? id = some b) {v : Bay.Event} (h : b.Refuses v) :
    f.executed? id (.visit id v) = none := by
  cases v with
  | step serial =>
    have gone : ¬ b.alive serial = true := fun ha => by
      obtain ⟨r, hr, hs⟩ := List.any_eq_true.mp ha
      exact h r hr (of_decide_eq_true hs)
    show (if id = id then (f.bay? id).bind _ else none) = _
    rw [if_pos rfl, hb]
    exact if_neg gone
  | _ => rfl

/-- an event to a drone that is not there, or to another one -/
structure Idles (f : Fleet) (id : String) (e : Event) : Prop where
  bay? : (f.respond e).1.bay? id = f.bay? id
  sighted : f.sighted id e = []
  executed? : f.executed? id e = none
  accepts : f.accepts id e = false

theorem idles_of_toward {e : Event} (h : e.toward id = none) : f.Idles id e :=
  ⟨bay?_respond_of_toward h, sighted_of_toward h, executed?_of_toward h, accepts_of_toward h⟩

theorem idles_of_none (h : f.bay? id = none) (v : Bay.Event) : f.Idles id (.visit id v) where
  bay? := by rw [respond_of_none h]
  sighted := by
    refine sighted_eq_nil fun p hp => ?_
    rw [respond_of_none h] at hp
    cases hp
  executed? := by
    cases v with
    | step serial =>
      show (if id = id then (f.bay? id).bind _ else none) = _
      rw [if_pos rfl, h]
      rfl
    | _ => rfl
  accepts := by
    cases v with
    | submit path zones =>
      show (decide (id = id) && (f.submit id path zones).isOk) = false
      rw [submit, operate_of_none h]
      exact Bool.and_false _
    | _ => rfl

/-- what an event is to the drone of an id: nothing, or one of the moves -/
theorem event_cases (f : Fleet) (id : String) (e : Event) :
    f.Idles id e ∨
    ∃ b v c rep, f.bay? id = some b ∧ e = .visit id v ∧
      b.Moves f.settings f.clock v c rep ∧ (f.respond e).1.bay? id = some c ∧
      f.sighted id e = rep.published.map fun p => ⟨p.1, p.2, c.drone⟩ := by
  cases ht : e.toward id with
  | none => exact Or.inl (idles_of_toward ht)
  | some v =>
    obtain rfl := Event.eq_visit ht
    cases hb : f.bay? id with
    | none => exact Or.inl (idles_of_none hb v)
    | some b =>
      exact Or.inr ⟨b, v, _, _, rfl, rfl, Bay.moves_respond f.settings f.clock b v,
        (replaced_respond hb v).1.here, sighted_visit hb v⟩

theorem reports_executed {s : FlightSettings} (h : b.drone.Consistent) (now : Nat) (r : Run)
    {raw : String} {rest : List String} (hq : b.drone.queue = raw :: rest) :
    Sighting.Reports (some raw) ⟨now, (b.executed s r raw rest).drone.snapshot,
      (b.executed s r raw rest).drone⟩ := by
  have busy : b.drone.queue ≠ [] := by
    rw [hq]
    exact List.cons_ne_nil _ _
  obtain ⟨hc, hf, -⟩ := h.of_queue busy
  have standing := Bay.standing_executed (s := s) (b := b) r raw rest
  refine .command rfl ?_ ?_ ?_
  · exact (congrArg Drone.Standing.connected standing).trans hc
  · exact (congrArg Drone.Standing.inFlight standing).trans hf
  · exact Bay.status_executed s b r raw rest

/-- **One notice for each step.** -/
theorem reports_executed? (h : f.Orderly) (id : String) (e : Event) :
    List.Forall₂ Sighting.Reports (f.executed? id e).toList (f.sighted id e) := by
  rcases f.event_cases id e with idle | ⟨b, v, c, rep, hb, rfl, m, -, hs⟩
  · rw [idle.executed?, idle.sighted]
    exact .nil
  · rw [hs]
    cases m with
    | refused hr =>
      rw [executed?_of_refuses hb hr]
      exact .nil
    | execute hr hq =>
      rw [executed?_step hb hr, hq]
      exact .cons (reports_executed (h.consistent b (mem_of_bay? hb)) f.clock _ hq) .nil
    | complete hr hq =>
      rw [executed?_step hb hr, hq]
      exact .cons (.completion rfl rfl rfl) .nil
    | _ => exact .nil

/-- the ends that are told of and the run that is there afterwards are the run that was there and
the flight that began one -/
theorem completions_of_event (h : f.Orderly) (id : String) (e : Event) :
    (f.sighted id e).countP Sighting.isCompletion + ((f.respond e).1.flies id).toNat =
      (f.flies id).toNat + (f.launches id e).toNat := by
  unfold launches
  rcases f.event_cases id e with idle | ⟨b, v, c, rep, hb, rfl, m, hc, hs⟩
  · rw [idle.sighted, idle.accepts]
    unfold flies
    rw [idle.bay?]
    exact Nat.zero_add _
  · rw [hs, flies_eq hb, flies_eq hc]
    cases m with
    | @refused v hr =>
      have rejected : f.accepts id (.visit id v) = false := by
        cases v with
        | submit path zones => rw [accepts_visit_submit hb, show b.drone.connected = false from hr]
        | _ => rfl
      rw [rejected]
      exact Nat.zero_add _
    | connect _ => exact Nat.zero_add _
    | disconnect _ => exact Nat.zero_add _
    | launch hn ha =>
      rw [accepts_visit_submit hb, hn, ha]
      rfl
    | supersede hn ha =>
      rw [accepts_visit_submit hb, hn, ha]
      show 0 + b.drone.runActive.toNat = _
      rw [ha]
      rfl
    | @execute r raw rest hr hq =>
      have kept : (b.executed f.settings r raw rest).drone.runActive = b.drone.runActive :=
        congrArg Drone.Standing.runActive (Bay.standing_executed r raw rest)
      have shown := Sighting.isCompletion_of_reports
        (reports_executed (s := f.settings) (h.consistent b (mem_of_bay? hb)) f.clock r hq)
      show List.countP _ [_] + (b.executed f.settings r raw rest).drone.runActive.toNat = _
      rw [List.countP_singleton, shown, kept]
      exact Nat.zero_add _
    | complete hr hq =>
      rw [(h.sound b (mem_of_bay? hb)).runActive_of_mem hr]
      rfl

theorem published_eq_nil (f : Fleet) {e : Event} (h : ∀ id serial, e ≠ .visit id (.step serial)) :
    (f.respond e).2.published = [] := by
  cases e with
  | visit id v =>
    cases hb : f.bay? id with
    | none =>
      rw [respond_of_none hb]
      rfl
    | some b =>
      rw [(replaced_respond hb v).2]
      have m := Bay.moves_respond f.settings f.clock b v
      revert m
      generalize (b.respond f.settings f.clock v).1 = c
      generalize (b.respond f.settings f.clock v).2 = rep
      intro m
      cases m with
      | execute _ _ => exact absurd rfl (h id _)
      | complete _ _ => exact absurd rfl (h id _)
      | _ => rfl
  | _ => rfl

/-- the channel after notices were sent to the observers -/
def sent (ps : List (Nat × Drone.Snapshot)) (c : Channel Notice) : Channel Notice :=
  ps.foldl (fun c p => c.publish (.status p.2)) c

theorem channel_operate (f : Fleet) (id : String)
    (change : Bay → Except FleetError (Bay × Report)) :
    (attempted f (f.operate id change)).1.channel =
      sent (attempted f (f.operate id change)).2.published f.channel := by
  cases hb : f.bay? id with
  | none =>
    rw [operate_of_none hb]
    rfl
  | some b =>
    cases hc : change b with
    | error e =>
      rw [operate_of_error hb hc]
      rfl
    | ok r =>
      rw [operate_of_ok hb hc]
      rfl

theorem channel_perform (f : Fleet) (time : Nat) (b : Bay) (t : Task) :
    (f.perform time b t).1.channel = sent (f.perform time b t).2.published f.channel := by
  unfold perform
  generalize b.perform f.settings time t = x
  obtain ⟨c, rep⟩ := x
  by_cases h : c.isBusy time
  · simp only [h, if_true]
    rfl
  · simp only [h]
    rfl

/-- what is published goes to the observers, and nothing else does -/
theorem channel_respond (f : Fleet) (e : Event) :
    (f.respond e).1.channel = sent (f.respond e).2.published f.channel := by
  cases e with
  | visit id v =>
    cases v with
    | connect => exact channel_operate f id Bay.connect
    | disconnect => exact channel_operate f id Bay.disconnect
    | submit path zones =>
      have told := channel_operate f id (Bay.submit f.clock path zones)
      simp only [respond, submit]
      cases ho : f.operate id (Bay.submit f.clock path zones) with
      | error e => rfl
      | ok r =>
        rw [ho] at told
        simp only [attempted] at told ⊢
        split <;> exact told
    | step serial =>
      cases hb : f.bay? id with
      | none =>
        rw [respond_of_none hb]
        rfl
      | some b =>
        cases hr : b.runs.find? fun r => r.serial = serial with
        | none =>
          simp only [respond, advance, hb, hr]
          rfl
        | some r =>
          simp only [respond, advance, hb, hr]
          exact channel_perform f _ _ _
  | _ => rfl

/-! ## histories -/

theorem reports_executions (h : f.Orderly) (id : String) (es : List Event) :
    List.Forall₂ Sighting.Reports (f.executions id es) (f.sightings id es) := by
  induction es generalizing f with
  | nil => exact .nil
  | cons e es ih => exact List.rel_append (reports_executed? h id e) (ih (h.respond e))

theorem completions_add_flies (h : f.Orderly) (id : String) (es : List Event) :
    (f.sightings id es).countP Sighting.isCompletion + ((f.after es).flies id).toNat =
      (f.flies id).toNat + tally (launches id) f es := by
  induction es generalizing f with
  | nil => exact Nat.zero_add _
  | cons e es ih =>
    have first := completions_of_event h id e
    have rest := ih (h.respond e)
    rw [sightings_cons, List.countP_append, after_cons]
    show _ = _ + ((f.launches id e).toNat + tally (launches id) (f.respond e).1 es)
    omega

theorem flies_of_completion {e : Event} (h : ∃ x ∈ f.sighted id e, x.isCompletion = true) :
    (f.respond e).1.flies id = false := by
  obtain ⟨x, hx, done⟩ := h
  rcases f.event_cases id e with idle | ⟨b, v, c, rep, hb, rfl, m, hc, hs⟩
  · rw [idle.sighted] at hx
    exact absurd hx List.not_mem_nil
  · rw [hs] at hx
    rw [flies_eq hc]
    cases m with
    | @execute r raw rest hr hq =>
      obtain rfl := List.mem_singleton.mp hx
      have shown : (b.executed f.settings r raw rest).drone.status = .complete :=
        of_decide_eq_true done
      rw [Bay.status_executed] at shown
      exact absurd shown (Status.during_ne_complete raw)
    | complete hr hq => rfl
    | _ => exact absurd hx List.not_mem_nil

theorem sightings_of_unaccepted (h : f.Orderly) (hf : f.flies id = false) {es : List Event}
    (hn : tally (accepts id) f es = 0) : f.sightings id es = [] := by
  induction es generalizing f with
  | nil => rfl
  | cons e es ih =>
    obtain ⟨none, rest⟩ := Nat.add_eq_zero_iff.mp
      (show (f.accepts id e).toNat + tally (accepts id) (f.respond e).1 es = 0 from hn)
    have rejected : f.accepts id e = false := Bool.toNat_eq_zero.mp none
    have quiet : f.sighted id e = [] ∧ (f.respond e).1.flies id = false := by
      rcases f.event_cases id e with idle | ⟨b, v, c, rep, hb, rfl, m, hc, hs⟩
      · refine ⟨idle.sighted, ?_⟩
        unfold flies
        rw [idle.bay?]
        exact hf
      · rw [flies_eq hb] at hf
        have runs := (h.sound b (mem_of_bay? hb)).runs_eq_nil hf
        rw [hs, flies_eq hc]
        cases m with
        | launch online _ =>
          rw [accepts_visit_submit hb, online] at rejected
          cases rejected
        | supersede online _ =>
          rw [accepts_visit_submit hb, online] at rejected
          cases rejected
        | execute hr _ =>
          rw [runs] at hr
          exact absurd hr List.not_mem_nil
        | complete hr _ =>
          rw [runs] at hr
          exact absurd hr List.not_mem_nil
        | _ => exact ⟨rfl, hf⟩
    rw [sightings_cons, quiet.1, List.nil_append]
    exact ih (h.respond e) quiet.2 rest

end

theorem flies_seeded (s : FleetSettings) (t : FlightSettings) (capacity : Nat) (id : String) :
    (seeded s t capacity).1.flies id = false := by
  cases hb : (seeded s t capacity).1.bay? id with
  | none => exact flies_of_none hb
  | some b =>
    rw [flies_eq hb]
    obtain ⟨i, rfl⟩ := mem_bays_seeded (mem_of_bay? hb)
    rfl

/-- **What observers are told of a drone.** Whatever happens to a fleet, they are told of it once for
each step of its runs and in the order of these: of a command, with the drone connected and in
flight, or of the end of a run. There have been as many ends as flights that found no run at work,
but for the run that is at work now. After an end they are told nothing until a flight is accepted;
what is not a step publishes nothing; and what is published, and only that, goes to them. -/
theorem notices_follow_steps (s : FleetSettings) (t : FlightSettings) (capacity : Nat)
    (es : List Event) (id : String) :
    List.Forall₂ Sighting.Reports ((seeded s t capacity).1.executions id es)
        ((seeded s t capacity).1.sightings id es) ∧
      ((seeded s t capacity).1.sightings id es).countP Sighting.isCompletion +
          (((seeded s t capacity).1.after es).flies id).toNat =
        tally (launches id) (seeded s t capacity).1 es ∧
      (∀ e later, (∃ x ∈ ((seeded s t capacity).1.after es).sighted id e, x.isCompletion = true) →
        tally (accepts id) (((seeded s t capacity).1.after es).respond e).1 later = 0 →
        (((seeded s t capacity).1.after es).respond e).1.sightings id later = []) ∧
      (∀ e, (∀ other serial, e ≠ .visit other (.step serial)) →
        (((seeded s t capacity).1.after es).respond e).2.published = []) ∧
      (∀ e, (((seeded s t capacity).1.after es).respond e).1.channel =
        sent (((seeded s t capacity).1.after es).respond e).2.published
          ((seeded s t capacity).1.after es).channel) ∧
      ∀ raw, (Status.during raw = .takeoff ↔ Command.parse raw = .takeoff) ∧
        (Status.during raw = .landed ↔ Command.parse raw = .land) := by
  have start : (seeded s t capacity).1.Orderly := orderly_after_seeded s t capacity []
  have now := orderly_after_seeded s t capacity es
  refine ⟨reports_executions start id es, ?_, fun e later done none => ?_,
    fun e he => published_eq_nil _ he, channel_respond _, fun raw => ?_⟩
  · rw [completions_add_flies start id es, flies_seeded]
    exact Nat.zero_add _
  · exact sightings_of_unaccepted (now.respond e) (flies_of_completion done) none
  · exact ⟨Status.during_eq_takeoff_iff raw, Status.during_eq_landed_iff raw⟩

/-- a flight that takes off and ends, and nothing after it although the drone is disconnected and
connected again -/
theorem notices_of_takeoff :
    ((seeded { count := 1 } {} 16).1.executions "tello-1"
        [.visit "tello-1" .connect, .visit "tello-1" (.submit ["takeoff"] []),
          .visit "tello-1" (.step 0), .visit "tello-1" (.step 0)] = [some "takeoff", none]) ∧
      (∃ x y, (seeded { count := 1 } {} 16).1.sightings "tello-1"
          [.visit "tello-1" .connect, .visit "tello-1" (.submit ["takeoff"] []),
            .visit "tello-1" (.step 0), .visit "tello-1" (.step 0)] = [x, y] ∧
        x.told.status = .takeoff ∧ y.told.status = .complete) ∧
      (((seeded { count := 1 } {} 16).1.after
          [.visit "tello-1" .connect, .visit "tello-1" (.submit ["takeoff"] []),
            .visit "tello-1" (.step 0)]).respond (.visit "tello-1" (.step 0))).1.sightings "tello-1"
        [.visit "tello-1" .disconnect, .visit "tello-1" .connect, .pass 5] = [] ∧
      (((seeded { count := 1 } {} 16).1.after
          [.visit "tello-1" .connect, .visit "tello-1" (.submit ["takeoff"] [])]).respond
        (.visit "tello-1" .disconnect)).2.published = [] := by
  obtain ⟨reports, -⟩ := notices_follow_steps { count := 1 } {} 16
    [.visit "tello-1" .connect, .visit "tello-1" (.submit ["takeoff"] []),
      .visit "tello-1" (.step 0), .visit "tello-1" (.step 0)] "tello-1"
  obtain ⟨-, -, quiet, -⟩ := notices_follow_steps { count := 1 } {} 16
    [.visit "tello-1" .connect, .visit "tello-1" (.submit ["takeoff"] []),
      .visit "tello-1" (.step 0)] "tello-1"
  obtain ⟨-, -, -, silent, -⟩ := notices_follow_steps { count := 1 } {} 16
    [.visit "tello-1" .connect, .visit "tello-1" (.submit ["takeoff"] [])] "tello-1"
  have steps : (seeded { count := 1 } {} 16).1.executions "tello-1"
      [.visit "tello-1" .connect, .visit "tello-1" (.submit ["takeoff"] []),
        .visit "tello-1" (.step 0), .visit "tello-1" (.step 0)] = [some "takeoff", none] := by
    decide +kernel
  have ended : ∃ x ∈ ((seeded { count := 1 } {} 16).1.after
      [.visit "tello-1" .connect, .visit "tello-1" (.submit ["takeoff"] []),
        .visit "tello-1" (.step 0)]).sighted "tello-1" (.visit "tello-1" (.step 0)),
      x.isCompletion = true := by
    refine List.any_eq_true.mp ?_
    decide +kernel
  rw [steps] at reports
  have operation : ∀ other serial, Event.visit "tello-1" .disconnect ≠
      .visit other (.step serial) := fun _ _ h => nomatch (Event.visit.inj h).2
  refine ⟨steps, ?_, quiet _ _ ended (by decide +kernel), silent _ operation⟩
  generalize (seeded { count := 1 } {} 16).1.sightings "tello-1" _ = xs at reports
  cases reports with
  | cons first rest =>
    cases rest with
    | cons second rest =>
      cases rest
      cases first with
      | command _ _ _ status =>
        cases second with
        | completion _ _ complete =>
          exact ⟨_, _, rfl, status.trans ((Status.during_eq_takeoff_iff "takeoff").mpr rfl),
            complete⟩

end Fleet

end DroneFleet
