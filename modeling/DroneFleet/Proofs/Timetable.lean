import Mathlib.Algebra.GroupWithZero.Nat
import DroneFleet.Proofs.Injections
import DroneFleet.Proofs.Supersession

/-!
# The timetable of a flight

A flight whose commands leave the queue to themselves is seen once for each command and once at its
end. What is seen is what the commands make of the drone one after the other, and when it is seen is
the sum of the pauses before it.

* `Command.pauseOf`       the pause that the words of a command ask for
* `Flight.obey`           a command carried out apart from the queue
* `Flight.timetable`      what is seen of a flight, and when
* `Fleet.itinerary_on_path`   the itinerary of a run on its path is the timetable
* `Fleet.sightings_on_timetable`   a run keeps to the timetable, and sleeps until the next entry
* `Fleet.published_on_timetable`   so the schedule publishes what is due by a time
* `Fleet.flight_keeps_timetable`   so does every flight that is accepted
-/

namespace DroneFleet

/-! ## pauses -/

namespace Command

/-- the pause that the operand of `wait` asks for: the default one if it is missing, unreadable or
zero, and none if it is negative -/
def waitFor (s : FlightSettings) : Option Int → Nat
  | none => s.defaultWait
  | some ms => if ms = 0 then s.defaultWait else if ms < 0 then 0 else ms.toNat

/-- the pause that the words of a command ask for -/
def pauseOf (s : FlightSettings) : List String → Nat
  | [] => s.stepInterval
  | operator :: operands =>
    if operator = "wait" then
      waitFor s (operands.head?.bind fun w => Numeral.leadingInteger? w.toList)
    else s.stepInterval

theorem pauseOf_wait (s : FlightSettings) (operands : List String) :
    pauseOf s ("wait" :: operands) =
      waitFor s (operands.head?.bind fun w => Numeral.leadingInteger? w.toList) := by
  show (if "wait" = "wait" then waitFor s _ else s.stepInterval) = _
  rw [if_pos rfl]

theorem pauseOf_of_ne (s : FlightSettings) {operator : String} (h : operator ≠ "wait")
    (operands : List String) : pauseOf s (operator :: operands) = s.stepInterval :=
  if_neg h

theorem pause_wait (s : FlightSettings) (millis : Option Int) :
    (Command.wait millis).pause s = waitFor s millis := by
  cases millis with
  | none => rfl
  | some ms =>
    show (if ms = 0 then s.defaultWait else ms.toNat) =
      if ms = 0 then s.defaultWait else if ms < 0 then 0 else ms.toNat
    by_cases h : ms < 0
    · rw [if_pos h, Int.toNat_of_nonpos (Int.le_of_lt h)]
    · rw [if_neg h]

theorem pause_ofOperator (s : FlightSettings) {operator : String} (h : operator ≠ "wait")
    (operands : List String) : (ofOperator operator operands).pause s = s.stepInterval := by
  unfold ofOperator
  split
  case h_13 => exact absurd rfl h
  all_goals first
    | rfl
    | split <;> rfl

theorem pause_parse (s : FlightSettings) (raw : String) :
    (parse raw).pause s = pauseOf s (wordsOf raw) := by
  unfold parse
  cases wordsOf raw with
  | nil => rfl
  | cons operator operands =>
    by_cases h : operator = "wait"
    · subst h
      have hp : ofWords ("wait" :: operands) = .wait (integer? operands 0) := rfl
      rw [hp, pause_wait, pauseOf_wait, List.head?_eq_getElem?]
      rfl
    · rw [pauseOf_of_ne s h]
      cases hd : Direction.ofWord? operator with
      | some direction =>
        simp only [ofWords, hd]
        rfl
      | none =>
        simp only [ofWords, hd]
        exact pause_ofOperator s h operands

end Command

/-! ## what the commands make of a drone -/

namespace Flight

/-- a command carried out: it is shown, then applied; the queue has no part in it -/
def obey (s : FlightSettings) (f : Flight) (raw : String) : Flight :=
  (f.pop raw f.drone.queue).apply s (.parse raw)

section
variable {s : FlightSettings} {f : Flight} {raw : String}

theorem standing_obey (s : FlightSettings) (f : Flight) (raw : String) :
    (f.obey s raw).drone.standing = f.drone.standing := by
  unfold obey
  rw [standing_apply, standing_pop]

theorem zones_obey (s : FlightSettings) (f : Flight) (raw : String) :
    (f.obey s raw).drone.zones = f.drone.zones :=
  congrArg Drone.Standing.zones (standing_obey s f raw)

theorem standing_foldl_obey (s : FlightSettings) (f : Flight) (path : List String) :
    (path.foldl (obey s) f).drone.standing = f.drone.standing := by
  induction path generalizing f with
  | nil => rfl
  | cons raw path ih => rw [List.foldl_cons, ih, standing_obey]

theorem queue_obey (h : f.drone.zones.Inert (.parse raw)) :
    (f.obey s raw).drone.queue = f.drone.queue := by
  unfold obey
  rw [queue_apply_of_inert s (show (f.pop raw _).drone.zones.Inert _ from h)]
  rfl

theorem apply_pop_onto (hq : f.drone.queue = []) (h : f.drone.zones.Inert (.parse raw))
    (rest : List String) :
    ((f.onto (raw :: rest)).pop raw rest).apply s (.parse raw) = (f.obey s raw).onto rest := by
  unfold obey
  rw [hq, ← apply_onto s h.ne_clear]
  rfl

end

/-! ## the timetable -/

/-- the entry of a place in the timetable: the time, with all pauses before it over, and what
observers are told -/
def entry (s : FlightSettings) (due : Nat) (f : Flight) (path : List String) (i : Nat) :
    Nat × Drone.Snapshot :=
  (due + ((path.take i).map fun raw => Command.pauseOf s (wordsOf raw)).sum,
    if i < path.length then ((path.take (i + 1)).foldl (obey s) f).drone.snapshot
    else (path.foldl (obey s) f).drone.finish.snapshot)

/-- what is seen of a flight on a path, one entry for each command and one for the end -/
def timetable (s : FlightSettings) (due : Nat) (f : Flight) (path : List String) :
    List (Nat × Drone.Snapshot) :=
  (List.range (path.length + 1)).map (entry s due f path)

section
variable {s : FlightSettings} {due : Nat} {f : Flight}

theorem length_timetable (path : List String) :
    (f.timetable s due path).length = path.length + 1 := by
  unfold timetable
  rw [List.length_map, List.length_range]

theorem timetable_nil : f.timetable s due [] = [(due, f.drone.finish.snapshot)] := rfl

theorem timetable_cons (raw : String) (path : List String) :
    f.timetable s due (raw :: path) =
      (due, (f.obey s raw).drone.snapshot) ::
        (f.obey s raw).timetable s (due + (Command.parse raw).pause s) path := by
  have later : ∀ i, entry s due f (raw :: path) (i + 1) =
      entry s (due + (Command.parse raw).pause s) (f.obey s raw) path i := by
    intro i
    unfold entry
    rw [List.take_succ_cons, List.take_succ_cons, List.map_cons, List.sum_cons, List.foldl_cons,
      List.foldl_cons, List.length_cons, Command.pause_parse, Nat.add_assoc]
    by_cases h : i < path.length
    · rw [if_pos h, if_pos (Nat.succ_lt_succ h)]
    · rw [if_neg h, if_neg fun hs => h (Nat.lt_of_succ_lt_succ hs)]
  unfold timetable
  rw [List.length_cons, List.range_succ_eq_map, List.map_cons, List.map_map]
  exact congrArg (_ :: ·) (List.map_congr_left fun i _ => later i)

end

end Flight

namespace Fleet

/-! ## a run on its path -/

section
variable {s : FlightSettings} {f : Fleet} {id : String} {b : Bay} {r : Run} {k : Flight}
  {path : List String} {es : List Event}

/-- the itinerary of a run on a path whose commands leave the queue to themselves is the timetable
of the path -/
theorem itinerary_on_path (n due : Nat) (hk : k.drone.queue = [])
    (hp : ∀ raw ∈ path, k.drone.zones.Inert (.parse raw)) :
    (itinerary s n due (k.onto path).drone).map Sighting.entry = (k.timetable s due path).take n := by
  induction path generalizing n due k with
  | nil =>
    have hq : (k.onto []).drone.queue = [] := (List.append_nil _).trans hk
    cases n with
    | zero => rfl
    | succ n =>
      rw [itinerary_succ_of_nil n due hq, Flight.timetable_nil, List.take_succ_cons, List.take_nil]
      rfl
  | cons raw path ih =>
    cases n with
    | zero => rfl
    | succ n =>
      have inert := hp raw List.mem_cons_self
      have hq : (k.onto (raw :: path)).drone.queue = raw :: path := by
        show k.drone.queue ++ _ = _
        rw [hk, List.nil_append]
      have next : ((k.onto (raw :: path)).pop raw path).apply s (.parse raw) =
          (k.obey s raw).onto path := Flight.apply_pop_onto hk inert path
      have rest := ih n (due + (Command.parse raw).pause s) ((Flight.queue_obey inert).trans hk)
        fun c hc => (Flight.zones_obey s k raw).symm ▸ hp c (List.mem_cons_of_mem raw hc)
      rw [itinerary_succ_of_cons n due hq _ (congrArg Flight.drone next), List.map_cons, rest,
        Flight.timetable_cons, List.take_succ_cons]
      rfl

/-- **A run keeps to the timetable.** What is seen of it is a front of the timetable, whenever its
steps are taken. If they are taken as they are due, it is seen at the times of the timetable, and the
run sleeps until the next of them. -/
theorem sightings_on_timetable (hb : f.bay? id = some b) (hc : b.drone.connected = true)
    (hr : b.runs = [r]) (hk : k.drone.queue = []) (hd : b.drone = (k.onto path).drone)
    (hp : ∀ raw ∈ path, k.drone.zones.Inert (.parse raw)) (he : ∀ e ∈ es, e.Keeps id) :
    (f.sightings id es).map Sighting.told <+:
        (k.timetable f.settings r.due path).map Prod.snd ∧
      (f.clock ≤ r.due → f.Punctual id es →
        (f.sightings id es).map Sighting.entry <+: k.timetable f.settings r.due path ∧
          ∀ x, (k.timetable f.settings r.due path)[(f.sightings id es).length]? = some x →
            (f.after es).Awaits id x.1) := by
  obtain ⟨seen, timed⟩ := follows_itinerary hb hc hr he
  have table := fun n => itinerary_on_path (s := f.settings) n r.due hk hp
  rw [← hd] at table
  constructor
  · have told := congrArg (List.map Prod.fst) seen
    rw [List.map_map, List.map_map] at told
    have front := congrArg (List.map Prod.snd) (table (f.sightings id es).length)
    rw [List.map_map] at front
    have same : (f.sightings id es).map Sighting.told =
        ((k.timetable f.settings r.due path).take (f.sightings id es).length).map Prod.snd :=
      told.trans front
    rw [same]
    exact (List.take_prefix _ _).map Prod.snd
  · intro hclock hpunctual
    obtain ⟨hseen, hnext⟩ := timed hclock hpunctual
    constructor
    · rw [congrArg (List.map Sighting.entry) hseen, table]
      exact List.take_prefix _ _
    · intro x hx
      rw [← List.getElem?_take_of_lt (Nat.lt_succ_self _), ← table, List.getElem?_map] at hx
      obtain ⟨y, hy, rfl⟩ := Option.map_eq_some_iff.mp hx
      exact hnext y hy

/-- what the schedule publishes of a run, up to a time, is what the timetable has up to then -/
theorem published_on_timetable (hs : f.Steady) (hb : f.bay? id = some b)
    (hc : b.drone.connected = true) (hr : b.runs = [r]) (hclock : f.clock ≤ r.due)
    (hk : k.drone.queue = []) (hd : b.drone = (k.onto path).drone)
    (hp : ∀ raw ∈ path, k.drone.zones.Inert (.parse raw)) {fuel limit : Nat}
    (enough : f.Enough fuel limit) :
    (f.runUntil fuel limit).2.published.filter (fun p => p.2.id = id) =
      (k.timetable f.settings r.due path).takeWhile fun x => x.1 ≤ limit := by
  obtain ⟨es, -, hpub, hlimit, he, rest⟩ := hs.runUntil_is_history fuel limit
  obtain ⟨punctual, late⟩ := rest enough
  obtain ⟨⟨unseen, whole⟩, next⟩ :=
    (sightings_on_timetable hb hc hr hk hd hp (he id)).2 hclock (punctual id).2
  have early : ∀ x ∈ (f.sightings id es).map Sighting.entry, decide (x.1 ≤ limit) = true := by
    intro x hx
    rw [map_entry_sightings hb] at hx
    exact decide_eq_true (hlimit x (List.mem_filter.mp hx).1)
  have stop : unseen.takeWhile (fun x => x.1 ≤ limit) = [] := by
    cases unseen with
    | nil => rfl
    | cons x unseen =>
      obtain ⟨c, q, hc', hr', hdue, hnow⟩ := next x (by
        rw [← whole, List.getElem?_append_right (by simp), List.length_map, Nat.sub_self]
        rfl)
      have after := late id c hc' q (hr' ▸ List.mem_singleton_self q)
      refine List.takeWhile_cons_of_neg ?_
      simp only [decide_eq_true_eq]
      omega
  rw [hpub, ← map_entry_sightings hb, ← whole, List.takeWhile_append_of_pos early, stop,
    List.append_nil]

end

/-! ## a flight on its path -/

/-- the flight that a submission begins, apart from its path -/
def departure (zones : Zones) (d : Drone) : Flight :=
  ⟨{ Bay.prepare [] zones d with runActive := true }, none⟩

/-- **A flight keeps to its timetable.** Take a connected drone without a run, and a path whose
commands leave the queue to themselves. The flight is accepted, from the origin. What is seen of the
drone, as long as nobody operates it, is what the timetable says; it has the times of the timetable
if the steps of its run are taken as they are due, and so it may go on to the end of the flight. The
schedule takes them so: what it publishes of the drone up to a time is what the timetable has up to
then. -/
theorem flight_keeps_timetable {f : Fleet} {id : String} {b : Bay} (hb : f.bay? id = some b)
    (hc : b.drone.connected = true) (ha : b.drone.runActive = false) (hr : b.runs = [])
    {path : List String} {zones : Zones} (hp : ∀ raw ∈ path, zones.Inert (.parse raw)) :
    ∃ g rep, f.submit id path zones = .ok (g, rep) ∧
      (∀ es, (∀ e ∈ es, e.Keeps id) →
        (g.sightings id es).map Sighting.told <+:
            ((departure zones b.drone).timetable f.settings f.clock path).map Prod.snd ∧
          (g.Punctual id es →
            (g.sightings id es).map Sighting.entry <+:
                (departure zones b.drone).timetable f.settings f.clock path ∧
              ∀ x, ((departure zones b.drone).timetable f.settings f.clock path)[
                  (g.sightings id es).length]? = some x → (g.after es).Awaits id x.1)) ∧
      (∃ es, (∀ e ∈ es, e.Keeps id) ∧ g.Punctual id es ∧
        (g.sightings id es).map Sighting.entry =
          (departure zones b.drone).timetable f.settings f.clock path) ∧
      (f.Steady → ∀ fuel limit, g.Enough fuel limit →
        (g.runUntil fuel limit).2.published.filter (fun p => p.2.id = id) =
          ((departure zones b.drone).timetable f.settings f.clock path).takeWhile
            fun x => x.1 ≤ limit) ∧
      ((departure zones b.drone).timetable f.settings f.clock path).length = path.length + 1 ∧
      ((departure zones b.drone).drone.position = .origin ∧
        (departure zones b.drone).drone.yaw = 0) ∧
      ∀ i, i < path.length →
        ((departure zones b.drone).entry f.settings f.clock path i).2.inFlight = true := by
  obtain ⟨rep, hs⟩ := submit_of_connected hb hc path zones
  have replaced := (replaced_respond hb (.submit path zones)).1
  rw [Bay.respond_submit_of_idle hc ha] at replaced
  have clock := Nat.le_of_eq replaced.clock
  have runs : b.runs ++ [⟨b.spawned, none, f.clock, false, false⟩] =
      [⟨b.spawned, none, f.clock, false, false⟩] := by rw [hr, List.nil_append]
  rw [← replaced.settings]
  refine ⟨_, rep, hs, fun es he => ?_, ?_, fun hf fuel limit enough => ?_,
    Flight.length_timetable path, ⟨rfl, rfl⟩, fun i hi => ?_⟩
  · obtain ⟨told, timed⟩ := sightings_on_timetable (k := departure zones b.drone) replaced.here hc
      runs rfl rfl hp he
    exact ⟨told, timed clock⟩
  · obtain ⟨es, he, hpunctual, hx⟩ := exists_punctual replaced.here runs clock (path.length + 1)
    refine ⟨es, he, hpunctual, ?_⟩
    rw [hx]
    refine (itinerary_on_path (k := departure zones b.drone) _ _ rfl hp).trans ?_
    exact List.take_of_length_le (Nat.le_of_eq (Flight.length_timetable path))
  · exact published_on_timetable (k := departure zones b.drone) (hf.respond _) replaced.here hc runs
      clock rfl rfl hp enough
  · unfold Flight.entry
    rw [if_pos hi]
    exact congrArg Drone.Standing.inFlight (Flight.standing_foldl_obey _ _ _)

/-- a flight of three commands, with two usual pauses and a short one, to its end and as the
schedule has it after 600 milliseconds -/
theorem timetable_of_first_flight :
    ∃ g rep es, ((seeded { count := 1 } {} 16).1.after [.visit "tello-1" .connect]).submit "tello-1"
        ["takeoff", "wait 30", "cw 90"] [] = .ok (g, rep) ∧
      (∀ e ∈ es, e.Keeps "tello-1") ∧ g.Punctual "tello-1" es ∧
      (g.sightings "tello-1" es).map (fun x => (x.time, x.told.yaw, x.told.inFlight)) =
        [(0, 0, true), (500, 0, true), (530, 90, true), (1030, 90, false)] ∧
      ((g.runUntil 9 600).2.published.filter fun p => p.2.id = "tello-1").map
          (fun p => (p.1, p.2.yaw)) = [(0, 0), (500, 0), (530, 90)] := by
  have resting : (((seeded { count := 1 } {} 16).1.after [.visit "tello-1" .connect]).bay?
      "tello-1").map (fun b => (b.drone.connected, b.drone.runActive, b.runs)) =
      some (true, false, []) := by
    decide +kernel
  obtain ⟨b, hb, fields⟩ := Option.map_eq_some_iff.mp resting
  simp only [Prod.mk.injEq] at fields
  obtain ⟨connected, inactive, none⟩ := fields
  have takeoff : Command.parse "takeoff" = .takeoff := rfl
  have wait : Command.parse "wait 30" = .wait (some 30) := rfl
  have turn : Command.parse "cw 90" = .rotate true (some 90) := rfl
  have inert : ∀ raw ∈ ["takeoff", "wait 30", "cw 90"], Zones.Inert [] (.parse raw) := by
    intro raw hraw
    simp only [List.mem_cons, List.not_mem_nil, or_false] at hraw
    rcases hraw with rfl | rfl | rfl
    · rw [takeoff]
      exact ⟨nofun, nofun, nofun⟩
    · rw [wait]
      exact ⟨nofun, nofun, nofun⟩
    · rw [turn]
      exact ⟨nofun, nofun, nofun⟩
  obtain ⟨g, rep, hs, -, ⟨es, he, hpunctual, hx⟩, schedule, -⟩ :=
    flight_keeps_timetable hb connected inactive none inert
  -- nine tasks are enough
  have spent : (((seeded { count := 1 } {} 16).1.after [.visit "tello-1" .connect]).submit
      "tello-1" ["takeoff", "wait 30", "cw 90"] []).toOption.any
      (fun x => ((x.1.drain 600 9 []).1.tick 600).isNone) = true := by
    decide +kernel
  rw [hs] at spent
  have settings : ((seeded { count := 1 } {} 16).1.after [.visit "tello-1" .connect]).settings =
      {} := settings_after _ _
  have clock : ((seeded { count := 1 } {} 16).1.after [.visit "tello-1" .connect]).clock = 0 := by
    decide +kernel
  have published := schedule (steady_after_seeded { count := 1 } {} 16 _) 9 600
    (Option.isNone_iff_eq_none.mp spent)
  rw [settings, clock] at hx published
  have seen := congrArg (List.map fun x => (x.1, x.2.yaw, x.2.inFlight)) hx
  rw [List.map_map] at seen
  refine ⟨g, rep, es, hs, he, hpunctual, seen, ?_⟩
  rw [published]
  rfl

end Fleet

end DroneFleet
