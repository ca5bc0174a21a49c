import DroneFleet.Proofs.Punctual

/-!
# A flight that supersedes another

A flight may be submitted while the run of the one before still sleeps. That run goes on with the
new flight when it wakes up, with the zone it entered last in mind. Nothing of the flight before
shows: what is seen of the drone is what would be seen if it had been idle, later by the rest of the
sleep.

* `Fleet.itinerary`    what the steps of a run show when each is taken as it is due
* `Fleet.follows_itinerary`   what is seen of a drone follows the itinerary of its run
* `Fleet.exists_punctual`     a history that follows it as far as it goes
* `Fleet.Trails`       the same is seen in two fleets, in the first one later
* `Fleet.Idle`         a fleet in which the drone is idle
* `Fleet.superseding_flight_is_as_new`   the two submissions look the same
-/

namespace DroneFleet.Fleet

/-! ## itineraries -/

def Sighting.untimed (x : Sighting) : Drone.Snapshot × Drone := (x.told, x.drone)

def Sighting.later (millis : Nat) (x : Sighting) : Sighting := { x with time := x.time + millis }

/-- what the first `n` steps of a run show when each is taken as it is due, the first at `due`; the
zone entered last is left out -/
def itinerary (s : FlightSettings) : Nat → Nat → Drone → List Sighting
  | 0, _, _ => []
  | n + 1, due, d =>
    match Flight.step s ⟨d, none⟩ with
    | .complete e => [⟨due, e.snapshot, e⟩]
    | .flying g pause =>
      ⟨due, g.drone.snapshot, g.drone⟩ ::
        itinerary s n (due + pause) g.drone

section
variable {s : FlightSettings} {d : Drone}

theorem itinerary_succ_of_nil (n due : Nat) (hq : d.queue = []) :
    itinerary s (n + 1) due d = [⟨due, d.finish.snapshot, d.finish⟩] := by
  have hs : Flight.step s ⟨d, none⟩ = .complete d.finish := Flight.step_of_nil hq
  simp only [itinerary, hs]

theorem itinerary_succ_of_cons (n due : Nat) {raw : String} {rest : List String}
    (hq : d.queue = raw :: rest) (zone : Option String) {e : Drone}
    (he : ((Flight.pop raw rest ⟨d, zone⟩).apply s (.parse raw)).drone = e) :
    itinerary s (n + 1) due d =
      ⟨due, e.snapshot, e⟩ :: itinerary s n (due + (Command.parse raw).pause s) e := by
  have hs : Flight.step s ⟨d, none⟩ =
      .flying ((Flight.pop raw rest ⟨d, none⟩).apply s (.parse raw))
        ((Command.parse raw).pause s) := Flight.step_of_cons hq
  have hd : ((Flight.pop raw rest ⟨d, none⟩).apply s (.parse raw)).drone = e :=
    (Flight.drone_apply s (.parse raw) _ none zone).trans he
  simp only [itinerary, hs, hd]

theorem time_of_itinerary_one {due : Nat} {x : Sighting} (h : x ∈ itinerary s 1 due d) :
    x.time = due := by
  cases hq : d.queue with
  | nil =>
    rw [itinerary_succ_of_nil 0 due hq] at h
    obtain rfl := List.mem_singleton.mp h
    rfl
  | cons raw rest =>
    rw [itinerary_succ_of_cons 0 due hq none rfl] at h
    obtain rfl := List.mem_singleton.mp h
    rfl

/-- a run that begins later shows the same later -/
theorem itinerary_later (s : FlightSettings) (n due millis : Nat) (d : Drone) :
    itinerary s n (due + millis) d = (itinerary s n due d).map (Sighting.later millis) := by
  induction n generalizing due d with
  | zero => rfl
  | succ n ih =>
    unfold itinerary
    cases Flight.step s ⟨d, none⟩ with
    | complete e => rfl
    | flying g pause =>
      have rest := ih (due + pause) g.drone
      rw [Nat.add_right_comm] at rest
      simp only [List.map_cons, rest]
      rfl

theorem untimed_itinerary (s : FlightSettings) (n due due' : Nat) (d : Drone) :
    (itinerary s n due d).map Sighting.untimed = (itinerary s n due' d).map Sighting.untimed := by
  have start : ∀ t, (itinerary s n t d).map Sighting.untimed =
      (itinerary s n 0 d).map Sighting.untimed := fun t => by
    have ht := itinerary_later s n 0 t d
    rw [Nat.zero_add] at ht
    rw [ht, List.map_map]
    rfl
  rw [start due, start due']

end

/-! ## what is seen of a run -/

section
variable {f : Fleet} {id : String} {b : Bay} {r : Run}

theorem sightings_of_runs_nil (hb : f.bay? id = some b) (hc : b.drone.connected = true)
    (hr : b.runs = []) {es : List Event} (he : ∀ e ∈ es, e.Keeps id) :
    f.sightings id es = [] := by
  induction es generalizing f with
  | nil => rfl
  | cons e es ih =>
    rcases keeps_cases hb hc (he e List.mem_cons_self) with ⟨hb', hn⟩ | ⟨q, hq, -⟩
    · rw [sightings_cons, hn, ih hb' fun e h => he e (List.mem_cons_of_mem _ h)]
      rfl
    · rw [hr] at hq
      cases hq

/-- does the run of a drone sleep until a time? -/
def Awaits (f : Fleet) (id : String) (time : Nat) : Prop :=
  ∃ b r, f.bay? id = some b ∧ b.runs = [r] ∧ r.due = time ∧ f.clock ≤ time

/-- what is seen of a drone follows the itinerary of its run, whenever its steps are taken; if they
are taken as they are due, it has the times of the itinerary, and the run sleeps until the next -/
theorem follows_itinerary (hb : f.bay? id = some b) (hc : b.drone.connected = true)
    (hr : b.runs = [r]) {es : List Event} (he : ∀ e ∈ es, e.Keeps id) :
    (f.sightings id es).map Sighting.untimed =
        (itinerary f.settings (f.sightings id es).length r.due b.drone).map Sighting.untimed ∧
      (f.clock ≤ r.due → f.Punctual id es →
        f.sightings id es =
          itinerary f.settings (f.sightings id es).length r.due b.drone ∧
        ∀ x, (itinerary f.settings ((f.sightings id es).length + 1) r.due b.drone)[
          (f.sightings id es).length]? = some x → (f.after es).Awaits id x.time) := by
  induction es generalizing f b r with
  | nil =>
    refine ⟨rfl, fun hclock _ => ⟨rfl, fun x hx => ?_⟩⟩
    rw [time_of_itinerary_one (List.mem_of_getElem? hx)]
    exact ⟨b, r, hb, hr, rfl, hclock⟩
  | cons e es ih =>
    have hes : ∀ e ∈ es, e.Keeps id := fun e h => he e (List.mem_cons_of_mem _ h)
    rcases keeps_cases hb hc (he e List.mem_cons_self) with ⟨hb', hn⟩ | ⟨q, hq, rfl⟩
    · obtain ⟨hu, ht⟩ := ih hb' hc hr hes
      rw [settings_respond] at hu ht
      rw [sightings_cons, hn, List.nil_append]
      exact ⟨hu, fun hclock hp => ht (clock_le_of_timely hb hr hp.1 hclock) hp.2⟩
    · rw [hr] at hq
      obtain rfl := List.mem_singleton.mp hq
      -- a step that is taken as it is due is taken at the time of the itinerary
      have time : f.clock ≤ q.due → f.Punctual id (.visit id (.step q.serial) :: es) →
          f.clock = q.due := fun hclock hp =>
        Nat.le_antisymm hclock (hp.1 rfl b hb q (hr ▸ List.mem_singleton_self q) rfl)
      rw [sightings_cons]
      cases hq : b.drone.queue with
      | nil =>
        obtain ⟨hb', hn⟩ := visit_step_of_nil hb hr hq
        rw [hn, sightings_of_runs_nil hb' hc rfl hes, List.append_nil, List.length_singleton,
          itinerary_succ_of_nil 0 q.due hq, itinerary_succ_of_nil 1 q.due hq]
        refine ⟨rfl, fun hclock hp => ⟨?_, fun x hx => ?_⟩⟩
        · rw [time hclock hp]
        · rw [List.getElem?_eq_none (Nat.le_refl 1)] at hx
          cases hx
      | cons raw rest =>
        obtain ⟨hb', hn⟩ := visit_step_of_cons hb hr hq
        have hc' : (b.executed f.settings q raw rest).drone.connected = true :=
          (congrArg Drone.Standing.connected (Bay.standing_executed q raw rest)).trans hc
        obtain ⟨hu, ht⟩ := ih hb' hc' rfl hes
        rw [settings_respond] at hu ht
        have next : ((Flight.pop raw rest ⟨b.drone, q.zone⟩).apply f.settings (.parse raw)).drone =
            (b.executed f.settings q raw rest).drone := rfl
        rw [hn, List.singleton_append, List.length_cons, itinerary_succ_of_cons _ q.due hq _ next,
          itinerary_succ_of_cons _ q.due hq _ next]
        refine ⟨?_, fun hclock hp => ?_⟩
        · rw [List.map_cons, List.map_cons]
          exact congrArg (_ :: ·) (hu.trans (untimed_itinerary _ _ _ _ _))
        · have hle : (f.respond (.visit id (.step q.serial))).1.clock ≤
              f.clock + (Command.parse raw).pause f.settings := by
            rw [clock_visit]
            omega
          obtain ⟨hrest, hnext⟩ := ht hle hp.2
          rw [← time hclock hp]
          refine ⟨congrArg (_ :: ·) hrest, fun x hx => ?_⟩
          rw [List.getElem?_cons_succ] at hx
          exact hnext x hx

/-- a history that follows the itinerary as far as it goes -/
theorem exists_punctual (hb : f.bay? id = some b) (hr : b.runs = [r]) (ht : f.clock ≤ r.due)
    (n : Nat) :
    ∃ es, (∀ e ∈ es, e.Keeps id) ∧ f.Punctual id es ∧
      f.sightings id es = itinerary f.settings n r.due b.drone := by
  induction n generalizing f b r with
  | zero => exact ⟨[], fun e h => absurd h List.not_mem_nil, trivial, rfl⟩
  | succ n ih =>
    -- sleep until the step is due, then take it
    let g : Fleet := (f.respond (.pass (r.due - f.clock))).1
    have hg : g.bay? id = some b := hb
    have hclock : g.clock = r.due := Nat.add_sub_of_le ht
    have sleep : f.Timely id (.pass (r.due - f.clock)) := by
      intro b' hb' q hq
      rw [hb] at hb'
      obtain rfl := Option.some.inj hb'
      rw [hr] at hq
      obtain rfl := List.mem_singleton.mp hq
      omega
    have step : g.Timely id (.visit id (.step r.serial)) := by
      intro _ b' hb' q hq _
      rw [hg] at hb'
      obtain rfl := Option.some.inj hb'
      rw [hr] at hq
      obtain rfl := List.mem_singleton.mp hq
      exact Nat.le_of_eq hclock.symm
    have keeps : ∀ es : List Event, (∀ e ∈ es, e.Keeps id) →
        ∀ e ∈ .pass (r.due - f.clock) :: .visit id (.step r.serial) :: es, e.Keeps id :=
      fun es => Event.keeps_pass_step id id _ _
    have unseen : f.sighted id (.pass (r.due - f.clock)) = [] := sighted_of_toward rfl
    cases hq : b.drone.queue with
    | nil =>
      obtain ⟨-, hn⟩ := visit_step_of_nil hg hr hq
      refine ⟨[.pass (r.due - f.clock), .visit id (.step r.serial)],
        keeps [] fun e h => absurd h List.not_mem_nil, ⟨sleep, step, trivial⟩, ?_⟩
      rw [sightings_cons, unseen, sightings_cons, hn, hclock, itinerary_succ_of_nil n r.due hq]
      rfl
    | cons raw rest =>
      obtain ⟨hb', hn⟩ := visit_step_of_cons hg hr hq
      have hle : (g.respond (.visit id (.step r.serial))).1.clock ≤
          g.clock + (Command.parse raw).pause g.settings := by
        rw [clock_visit]
        omega
      obtain ⟨es, hes, hp, hx⟩ := ih hb' rfl hle
      refine ⟨.pass (r.due - f.clock) :: .visit id (.step r.serial) :: es, keeps es hes,
        ⟨sleep, step, hp⟩, ?_⟩
      rw [settings_respond] at hx
      have next : ((Flight.pop raw rest ⟨b.drone, r.zone⟩).apply f.settings (.parse raw)).drone =
          (b.executed f.settings r raw rest).drone := rfl
      rw [sightings_cons, unseen, sightings_cons, hn, hx, hclock,
        itinerary_succ_of_cons n r.due hq _ next]
      rfl

end

/-! ## two runs of one drone -/

/-- as long as nobody operates a drone, the same is seen of it in two fleets, in the first one
`millis` later -/
structure Trails (f₁ f₂ : Fleet) (id : String) (millis : Nat) : Prop where
  /-- step by step, whenever the steps are taken -/
  alike : ∀ es₁ es₂, (∀ e ∈ es₁, e.Keeps id) → (∀ e ∈ es₂, e.Keeps id) →
    (f₁.sightings id es₁).length = (f₂.sightings id es₂).length →
    (f₁.sightings id es₁).map Sighting.untimed = (f₂.sightings id es₂).map Sighting.untimed
  /-- with the times, when the steps are taken as they are due -/
  later : ∀ es₁ es₂, (∀ e ∈ es₁, e.Keeps id) → (∀ e ∈ es₂, e.Keeps id) →
    f₁.Punctual id es₁ → f₂.Punctual id es₂ →
    (f₁.sightings id es₁).length = (f₂.sightings id es₂).length →
    f₁.sightings id es₁ = (f₂.sightings id es₂).map (Sighting.later millis)
  /-- the second goes on as long as the first -/
  forth : ∀ es₁, (∀ e ∈ es₁, e.Keeps id) → ∃ es₂, (∀ e ∈ es₂, e.Keeps id) ∧
    f₂.Punctual id es₂ ∧ (f₂.sightings id es₂).length = (f₁.sightings id es₁).length
  /-- and the first as long as the second -/
  back : ∀ es₂, (∀ e ∈ es₂, e.Keeps id) → ∃ es₁, (∀ e ∈ es₁, e.Keeps id) ∧
    f₁.Punctual id es₁ ∧ (f₁.sightings id es₁).length = (f₂.sightings id es₂).length

section
variable {f₁ f₂ : Fleet} {id : String} {b₁ b₂ : Bay} {r₁ r₂ : Run}

theorem exists_as_long (hs : f₁.settings = f₂.settings)
    (hb₁ : f₁.bay? id = some b₁) (hb₂ : f₂.bay? id = some b₂) (hd : b₁.drone = b₂.drone)
    (hc : b₁.drone.connected = true) (hr₁ : b₁.runs = [r₁]) (hr₂ : b₂.runs = [r₂])
    (hclock : f₂.clock ≤ r₂.due) {es₁ : List Event} (he : ∀ e ∈ es₁, e.Keeps id) :
    ∃ es₂, (∀ e ∈ es₂, e.Keeps id) ∧ f₂.Punctual id es₂ ∧
      (f₂.sightings id es₂).length = (f₁.sightings id es₁).length := by
  obtain ⟨es₂, he₂, hp₂, hx₂⟩ := exists_punctual hb₂ hr₂ hclock (f₁.sightings id es₁).length
  refine ⟨es₂, he₂, hp₂, ?_⟩
  have hu := congrArg List.length (follows_itinerary hb₁ hc hr₁ he).1
  rw [List.length_map, untimed_itinerary _ _ _ r₂.due, List.length_map, hs, hd, ← hx₂] at hu
  exact hu.symm

/-- two runs of the same drone look the same, the one that is due later as much later -/
theorem trails_of_same_drone {millis : Nat} (hs : f₁.settings = f₂.settings)
    (hb₁ : f₁.bay? id = some b₁) (hb₂ : f₂.bay? id = some b₂) (hd : b₁.drone = b₂.drone)
    (hc : b₂.drone.connected = true) (hr₁ : b₁.runs = [r₁]) (hr₂ : b₂.runs = [r₂])
    (hdue : r₁.due = r₂.due + millis) (hclock₁ : f₁.clock ≤ r₁.due) (hclock₂ : f₂.clock ≤ r₂.due) :
    f₁.Trails f₂ id millis := by
  have hc₁ : b₁.drone.connected = true := by
    rw [hd]
    exact hc
  constructor
  · intro es₁ es₂ he₁ he₂ hl
    rw [(follows_itinerary hb₁ hc₁ hr₁ he₁).1, (follows_itinerary hb₂ hc hr₂ he₂).1, hl, hs, hd]
    exact untimed_itinerary _ _ _ _ _
  · intro es₁ es₂ he₁ he₂ hp₁ hp₂ hl
    have h₁ := ((follows_itinerary hb₁ hc₁ hr₁ he₁).2 hclock₁ hp₁).1
    have h₂ := ((follows_itinerary hb₂ hc hr₂ he₂).2 hclock₂ hp₂).1
    rw [h₁, hl, hs, hd, hdue, itinerary_later, ← h₂]
  · exact fun es₁ he₁ => exists_as_long hs hb₁ hb₂ hd hc₁ hr₁ hr₂ hclock₂ he₁
  · exact fun es₂ he₂ => exists_as_long hs.symm hb₂ hb₁ hd.symm hc hr₂ hr₁ hclock₁ he₂

end

/-! ## two submissions -/

/-- the fleet `g` has the time and the settings of `f`, and there the drone of an id, with the bay
`b` in `f`, is idle; it is the same drone, and streams if it does in `f` -/
structure Idle (f : Fleet) (id : String) (b : Bay) (g : Fleet) (c : Bay) : Prop where
  settings : g.settings = f.settings
  clock : g.clock = f.clock
  here : g.bay? id = some c
  connected : c.drone.connected = true
  runActive : c.drone.runActive = false
  runs : c.runs = []
  ip : c.drone.ip = b.drone.ip
  range : c.drone.range = b.drone.range
  battery : c.drone.battery = b.drone.battery
  streaming : c.drone.streaming = b.drone.streaming

section
variable {f : Fleet} {id : String} {b c : Bay} {r : Run}

theorem submit_of_connected (hb : f.bay? id = some b) (hc : b.drone.connected = true)
    (path : List String) (zones : Zones) :
    ∃ rep, f.submit id path zones =
      .ok ((f.respond (.visit id (.submit path zones))).1, rep) := by
  cases h : f.submit id path zones with
  | ok r =>
    obtain ⟨g, rep⟩ := r
    obtain ⟨-, -, -, hg⟩ := connected_of_submit h
    exact ⟨rep, by rw [← hg]⟩
  | error e =>
    cases ha : b.drone.runActive <;>
      simp [submit, operate, hb, Bay.submit, hc, Bay.prepare, ha] at h

theorem prepare_eq {d e : Drone} (path : List String) (zones : Zones) (id : d.id = e.id)
    (ip : d.ip = e.ip) (connected : d.connected = e.connected)
    (streaming : d.streaming = e.streaming) (range : d.range = e.range)
    (battery : d.battery = e.battery) :
    { Bay.prepare path zones d with runActive := true } =
      { Bay.prepare path zones e with runActive := true } := by
  unfold Bay.prepare
  rw [id, ip, connected, streaming, range, battery]

end

/-- **A flight that supersedes another is as new.** Take a drone whose run sleeps until `r.due`, and
a fleet in which it is idle at the same time, and submit the same flight in both. From then on the
same is seen of the drone, in the first fleet later by the rest of the sleep. -/
theorem superseding_flight_is_as_new (s : FleetSettings) (t : FlightSettings) (capacity : Nat)
    (past : List Event) {id : String} {b : Bay} {r : Run}
    (hb : ((seeded s t capacity).1.after past).bay? id = some b)
    (hc : b.drone.connected = true) (hr : r ∈ b.runs)
    (hdue : ((seeded s t capacity).1.after past).clock ≤ r.due) {g : Fleet} {c : Bay}
    (idle : Idle ((seeded s t capacity).1.after past) id b g c) (path : List String)
    (zones : Zones) :
    ∃ f₁ rep₁ f₂ rep₂,
      ((seeded s t capacity).1.after past).submit id path zones = .ok (f₁, rep₁) ∧
      g.submit id path zones = .ok (f₂, rep₂) ∧
      f₁.Trails f₂ id (r.due - ((seeded s t capacity).1.after past).clock) := by
  have hs := sound_after_seeded s t capacity past b (mem_of_bay? hb)
  revert hb hdue idle
  generalize (seeded s t capacity).1.after past = f
  intro hb hdue idle
  have hact := hs.runActive_of_mem hr
  -- the run that is there and the one that begins, with the same drone
  obtain ⟨rep₁, h₁⟩ := submit_of_connected hb hc path zones
  obtain ⟨rep₂, h₂⟩ := submit_of_connected idle.here idle.connected path zones
  have here₁ := (replaced_respond hb (.submit path zones)).1
  have here₂ := (replaced_respond idle.here (.submit path zones)).1
  rw [Bay.respond_submit_of_active hc hact] at here₁
  rw [Bay.respond_submit_of_idle idle.connected idle.runActive] at here₂
  have runs₁ : b.runs = [r] := hs.runs_eq_of_mem hr
  have runs₂ : c.runs ++ [⟨c.spawned, none, g.clock, false, false⟩] =
      [⟨c.spawned, none, g.clock, false, false⟩] := by rw [idle.runs, List.nil_append]
  have same : Bay.prepare path zones b.drone =
      { Bay.prepare path zones c.drone with runActive := true } := by
    rw [← prepare_eq path zones ((id_of_bay? hb).trans (id_of_bay? idle.here).symm) idle.ip.symm
      (hc.trans idle.connected.symm) idle.streaming.symm idle.range.symm idle.battery.symm, ← hact]
    rfl
  have settings := here₁.settings.trans (idle.settings.symm.trans here₂.settings.symm)
  have due : r.due = g.clock + (r.due - f.clock) := by
    rw [idle.clock]
    omega
  have clock₁ := Nat.le_trans (Nat.le_of_eq here₁.clock) hdue
  have clock₂ := Nat.le_of_eq here₂.clock
  exact ⟨_, rep₁, _, rep₂, h₁, h₂, trails_of_same_drone settings here₁.here here₂.here same
    idle.connected runs₁ runs₂ due clock₁ clock₂⟩

/-- a flight submitted half a second before the run of the one before wakes up -/
theorem superseding_flight_half_a_second_later :
    ∃ b c r, ((seeded { count := 1 } {} 16).1.after [.visit "tello-1" .connect,
        .visit "tello-1" (.submit ["cw 45"] []), .visit "tello-1" (.step 0)]).bay? "tello-1" =
          some b ∧
      r ∈ b.runs ∧
      ((seeded { count := 1 } {} 16).1.after [.visit "tello-1" .connect]).bay? "tello-1" = some c ∧
      ∃ f₁ rep₁ f₂ rep₂,
        ((seeded { count := 1 } {} 16).1.after [.visit "tello-1" .connect,
            .visit "tello-1" (.submit ["cw 45"] []), .visit "tello-1" (.step 0)]).submit "tello-1"
          ["ccw 90"] [] = .ok (f₁, rep₁) ∧
        ((seeded { count := 1 } {} 16).1.after [.visit "tello-1" .connect]).submit "tello-1"
          ["ccw 90"] [] = .ok (f₂, rep₂) ∧
        f₁.Trails f₂ "tello-1" 500 := by
  let identity (b : Bay) := (b.drone.connected, b.drone.ip, b.drone.range, b.drone.battery,
    b.drone.streaming)
  have asleep : (((seeded { count := 1 } {} 16).1.after [.visit "tello-1" .connect,
      .visit "tello-1" (.submit ["cw 45"] []), .visit "tello-1" (.step 0)]).bay? "tello-1").map
        (fun b => (identity b, b.runs)) =
      some ((true, "127.0.0.101", 4500, 100, false), [⟨0, none, 500, true, false⟩]) := by
    decide +kernel
  have resting : (((seeded { count := 1 } {} 16).1.after [.visit "tello-1" .connect]).bay?
      "tello-1").map (fun b => (identity b, b.drone.runActive, b.runs)) =
      some ((true, "127.0.0.101", 4500, 100, false), false, []) := by
    decide +kernel
  obtain ⟨b, hb, fb⟩ := Option.map_eq_some_iff.mp asleep
  obtain ⟨c, hc, fc⟩ := Option.map_eq_some_iff.mp resting
  simp only [identity, Prod.mk.injEq] at fb fc
  obtain ⟨⟨cb, ib, rb, bb, sb⟩, runs⟩ := fb
  obtain ⟨⟨cc, ic, rc, bc, sc⟩, inactive, none⟩ := fc
  have mem : (⟨0, .none, 500, true, false⟩ : Run) ∈ b.runs := runs ▸ List.mem_singleton_self _
  have idle : Idle ((seeded { count := 1 } {} 16).1.after [.visit "tello-1" .connect,
      .visit "tello-1" (.submit ["cw 45"] []), .visit "tello-1" (.step 0)]) "tello-1" b
      ((seeded { count := 1 } {} 16).1.after [.visit "tello-1" .connect]) c := by
    refine ⟨?_, ?_, hc, cc, inactive, none, ic.trans ib.symm, rc.trans rb.symm, bc.trans bb.symm,
      sc.trans sb.symm⟩
    · rw [settings_after, settings_after]
    · decide +kernel
  exact ⟨b, c, _, hb, mem, hc,
    superseding_flight_is_as_new { count := 1 } {} 16 _ hb cb mem (by decide +kernel) idle
      ["ccw 90"] []⟩

end DroneFleet.Fleet
