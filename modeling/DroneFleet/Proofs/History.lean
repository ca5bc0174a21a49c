import DroneFleet.Fleet.Schedule
import DroneFleet.Proofs.Moves

/-!
# Histories of a fleet

Visits to its drones in any order, the reading of its state, and the passing of time. A visit is to
the fleet what it is to the drone, and nothing to all other drones; so what holds of one drone
whatever happens to it holds of all drones of a fleet whatever happens to them.

* `Fleet.Event`, `Fleet.respond`   what can happen to a fleet, and what comes of it
* `Fleet.after`                    the fleet after a history
* `Fleet.Replaced`                 another bay in one place, all else as it was
* `Fleet.replaced_respond`         so it is after a visit
* `Fleet.all_bays_after`           what no move takes from a bay holds after every history
* `Fleet.bay?_of_mem`              in the order of a roster every bay is found under its id
-/

namespace DroneFleet.Fleet

/-- what can happen to a fleet -/
inductive Event where
  | visit (id : String) (e : Bay.Event)
  | info (id : String)
  | discovery
  | pass (millis : Nat)

/-- the next step of a run on the drone of an id -/
def advance (f : Fleet) (id : String) (serial : Nat) : Fleet × Report :=
  match f.bay? id with
  | none => (f, .empty)
  | some b =>
    match b.runs.find? fun r => r.serial = serial with
    | some r => f.perform f.clock b (.step r)
    | none => (f, .empty)

/-- the fleet after an event, and what was reported; `info` and `discovery` only read -/
def respond (f : Fleet) : Event → Fleet × Report
  | .visit id .connect => attempted f (f.connect id)
  | .visit id .disconnect => attempted f (f.disconnect id)
  | .visit id (.submit path zones) => attempted f (f.submit id path zones)
  | .visit id (.step serial) => f.advance id serial
  | .info _ => (f, .empty)
  | .discovery => (f, .empty)
  | .pass millis => ({ f with clock := f.clock + millis }, .empty)

def after (f : Fleet) (es : List Event) : Fleet := es.foldl (fun g e => (g.respond e).1) f

theorem after_cons (f : Fleet) (e : Event) (es : List Event) :
    f.after (e :: es) = (f.respond e).1.after es := rfl
theorem after_append (f : Fleet) (es es' : List Event) :
    f.after (es ++ es') = (f.after es).after es' := by
  unfold after
  rw [List.foldl_append]

/-! ## another bay in one place -/

theorem id_of_bay? {f : Fleet} {id : String} {b : Bay} (h : f.bay? id = some b) :
    b.drone.id = id := by
  simpa using List.find?_some h

theorem mem_of_bay? {f : Fleet} {id : String} {b : Bay} (h : f.bay? id = some b) : b ∈ f.bays :=
  List.mem_of_find?_eq_some h

def ids (f : Fleet) : List String := f.bays.map fun b => b.drone.id

/-- a fleet with another bay in the place of an id, and all else as it was -/
structure Replaced (f : Fleet) (id : String) (c : Bay) (g : Fleet) : Prop where
  here : g.bay? id = some c
  elsewhere : ∀ other, other ≠ id → g.bay? other = f.bay? other
  members : ∀ b ∈ g.bays, b = c ∨ b ∈ f.bays
  ids : g.ids = f.ids
  settings : g.settings = f.settings
  clock : g.clock = f.clock

namespace Replaced
variable {f g : Fleet} {id : String} {b c : Bay}

theorem self (h : f.bay? id = some b) : Replaced f id b f where
  here := h
  elsewhere _ _ := rfl
  members _ hc := Or.inr hc
  ids := rfl
  settings := rfl
  clock := rfl

theorem set (h : f.bay? id = some b) (hc : c.drone.id = id) : Replaced f id c (f.set id c) where
  here := by rw [bay?_set f hc, if_pos rfl, h]; rfl
  elsewhere other ho := by rw [bay?_set f hc, if_neg ho]
  members d hd := by
    obtain ⟨a, ha, rfl⟩ := List.mem_map.mp hd
    by_cases e : a.drone.id = id
    · exact Or.inl (if_pos e)
    · rw [if_neg e]
      exact Or.inr ha
  ids := by
    show (f.bays.map _).map _ = f.bays.map _
    rw [List.map_map]
    refine List.map_congr_left fun a _ => ?_
    show (if a.drone.id = id then c else a).drone.id = a.drone.id
    by_cases e : a.drone.id = id
    · rw [if_pos e, hc, e]
    · rw [if_neg e]
  settings := rfl
  clock := rfl

theorem of_bays (h : Replaced f id c g) {k : Fleet} (hb : k.bays = g.bays)
    (hs : k.settings = g.settings) (hc : k.clock = g.clock) : Replaced f id c k where
  here := by
    unfold bay?
    rw [hb]
    exact h.here
  elsewhere other ho := by
    unfold bay?
    rw [hb]
    exact h.elsewhere other ho
  members d hd := h.members d (hb ▸ hd)
  ids := by
    unfold Fleet.ids
    rw [hb]
    exact h.ids
  settings := hs.trans h.settings
  clock := hc.trans h.clock

end Replaced

/-! ## visits -/

section
variable {f : Fleet} {id : String} {b : Bay} {change : Bay → Except FleetError (Bay × Report)}

theorem operate_of_none (h : f.bay? id = none) : f.operate id change = .error (.notFound id) := by
  unfold operate
  rw [h]

theorem operate_of_error {e : FleetError} (h : f.bay? id = some b) (hc : change b = .error e) :
    f.operate id change = .error e := by
  simp only [operate, h, hc]

theorem operate_of_ok {c : Bay} {r : Report} (h : f.bay? id = some b)
    (hc : change b = .ok (c, r)) : f.operate id change = .ok ((f.set id c).tell r, r) := by
  simp only [operate, h, hc]

theorem replaced_operate (h : f.bay? id = some b)
    (hid : (attempted b (change b)).1.drone.id = id) :
    Replaced f id (attempted b (change b)).1 (attempted f (f.operate id change)).1 ∧
      (attempted f (f.operate id change)).2 = (attempted b (change b)).2 := by
  cases hc : change b with
  | error e =>
    rw [operate_of_error h hc]
    exact ⟨.self h, rfl⟩
  | ok r =>
    rw [hc] at hid
    rw [operate_of_ok h hc]
    exact ⟨(Replaced.set h hid).of_bays rfl rfl rfl, rfl⟩

theorem replaced_submit (h : f.bay? id = some b) (path : List String) (zones : Zones) :
    Replaced f id (b.respond f.settings f.clock (.submit path zones)).1
        (f.respond (.visit id (.submit path zones))).1 ∧
      (f.respond (.visit id (.submit path zones))).2 =
        (b.respond f.settings f.clock (.submit path zones)).2 := by
  have hid : (attempted b (Bay.submit f.clock path zones b)).1.drone.id = id :=
    (Bay.id_respond f.settings f.clock b (.submit path zones)).trans (id_of_bay? h)
  obtain ⟨hr, hrep⟩ := replaced_operate h hid
  show Replaced f id _ (attempted f (f.submit id path zones)).1 ∧
    (attempted f (f.submit id path zones)).2 = _
  unfold submit
  cases ho : f.operate id (Bay.submit f.clock path zones) with
  | error e =>
    rw [ho] at hr hrep
    exact ⟨hr, hrep⟩
  | ok r =>
    obtain ⟨g, r⟩ := r
    rw [ho] at hr hrep
    by_cases hf : f.flies id
    · simp only [hf, if_true]
      exact ⟨hr, hrep⟩
    · simp only [hf]
      exact ⟨hr.of_bays rfl rfl rfl, hrep⟩

theorem replaced_perform (h : f.bay? id = some b) {r : Run} (hr : r ∈ b.runs) :
    Replaced f id (b.advance f.settings f.clock r).1 (f.perform f.clock b (.step r)).1 ∧
      (f.perform f.clock b (.step r)).2 = (b.advance f.settings f.clock r).2 := by
  have hb := id_of_bay? h
  have hid : (b.advance f.settings f.clock r).1.drone.id = id :=
    (Bay.moves_advance hr).id_eq.trans hb
  have hset : Replaced f id (b.advance f.settings f.clock r).1
      ({ f with clock := f.clock }.set b.drone.id (b.advance f.settings f.clock r).1) := by
    rw [hb]
    exact .set h hid
  refine ⟨?_, rfl⟩
  show Replaced f id _ (tell _ (if (b.advance f.settings f.clock r).1.isBusy f.clock then _ else _))
  by_cases hbusy : (b.advance f.settings f.clock r).1.isBusy f.clock
  · rw [if_pos hbusy]
    exact hset.of_bays rfl rfl rfl
  · rw [if_neg hbusy]
    exact hset.of_bays rfl rfl rfl

theorem replaced_respond (h : f.bay? id = some b) (e : Bay.Event) :
    Replaced f id (b.respond f.settings f.clock e).1 (f.respond (.visit id e)).1 ∧
      (f.respond (.visit id e)).2 = (b.respond f.settings f.clock e).2 := by
  cases e with
  | connect =>
    exact replaced_operate h ((Bay.id_respond f.settings f.clock b .connect).trans (id_of_bay? h))
  | disconnect =>
    exact replaced_operate h
      ((Bay.id_respond f.settings f.clock b .disconnect).trans (id_of_bay? h))
  | submit path zones => exact replaced_submit h path zones
  | step serial =>
    show Replaced f id _ (f.advance id serial).1 ∧ (f.advance id serial).2 = _
    cases hr : b.runs.find? fun r => r.serial = serial with
    | none =>
      simp only [advance, Bay.respond, h, hr]
      exact ⟨.self h, trivial⟩
    | some r =>
      simp only [advance, Bay.respond, h, hr]
      exact replaced_perform h (List.mem_of_find?_eq_some hr)

theorem respond_of_none (h : f.bay? id = none) (e : Bay.Event) :
    f.respond (.visit id e) = (f, .empty) := by
  cases e with
  | connect => simp only [respond, connect, operate_of_none h, attempted]
  | disconnect => simp only [respond, disconnect, operate_of_none h, attempted]
  | submit path zones => simp only [respond, submit, operate_of_none h, attempted]
  | step serial => simp only [respond, advance, h]

/-! ## every event -/

/-- what an event is to the drone of an id -/
def Event.toward (id : String) : Event → Option Bay.Event
  | .visit other e => if other = id then some e else none
  | _ => none

theorem Event.eq_visit {e : Event} {v : Bay.Event} (h : e.toward id = some v) :
    e = .visit id v := by
  cases e with
  | visit other w =>
    have hw : (if other = id then some w else none) = some v := h
    obtain ⟨rfl, hv⟩ := Option.ite_none_right_eq_some.mp hw
    rw [Option.some.inj hv]
  | _ => cases h

theorem settings_respond (f : Fleet) (e : Event) : (f.respond e).1.settings = f.settings := by
  cases e with
  | visit id v =>
    cases h : f.bay? id with
    | none => rw [respond_of_none h]
    | some b => exact (replaced_respond h v).1.settings
  | _ => rfl

theorem ids_respond (f : Fleet) (e : Event) : (f.respond e).1.ids = f.ids := by
  cases e with
  | visit id v =>
    cases h : f.bay? id with
    | none => rw [respond_of_none h]
    | some b => exact (replaced_respond h v).1.ids
  | _ => rfl

/-- an event that does not visit a drone is nothing to it -/
theorem bay?_respond_of_toward {e : Event} (he : e.toward id = none) :
    (f.respond e).1.bay? id = f.bay? id := by
  cases e with
  | visit other v =>
    have ho : id ≠ other := fun hi => by simp [Event.toward, hi] at he
    cases h : f.bay? other with
    | none => rw [respond_of_none h]
    | some b => exact (replaced_respond h v).1.elsewhere id ho
  | _ => rfl

theorem mem_bays_respond {e : Event} {c : Bay} (hc : c ∈ (f.respond e).1.bays) :
    c ∈ f.bays ∨ ∃ b ∈ f.bays, ∃ v, c = (b.respond f.settings f.clock v).1 := by
  cases e with
  | visit id v =>
    cases h : f.bay? id with
    | none =>
      rw [respond_of_none h] at hc
      exact Or.inl hc
    | some b =>
      rcases (replaced_respond h v).1.members c hc with hc | hc
      · exact Or.inr ⟨b, mem_of_bay? h, v, hc⟩
      · exact Or.inl hc
  | _ => exact Or.inl hc

/-- what no move takes from a bay holds after every history -/
theorem all_bays_after {P : Bay → Prop} (kept : ∀ s now b v, P b → P (b.respond s now v).1)
    (h : ∀ b ∈ f.bays, P b) (es : List Event) : ∀ b ∈ (f.after es).bays, P b := by
  induction es generalizing f with
  | nil => exact h
  | cons e es ih =>
    refine ih fun c hc => ?_
    rcases mem_bays_respond hc with hc | ⟨b, hb, v, rfl⟩
    · exact h c hc
    · exact kept f.settings f.clock b v (h b hb)

/-- only `pass` moves the clock -/
theorem clock_visit (f : Fleet) (id : String) (v : Bay.Event) :
    (f.respond (.visit id v)).1.clock = f.clock := by
  cases h : f.bay? id with
  | none => rw [respond_of_none h]
  | some b => exact (replaced_respond h v).1.clock

theorem settings_after (f : Fleet) (es : List Event) : (f.after es).settings = f.settings := by
  induction es generalizing f with
  | nil => rfl
  | cons e es ih => rw [after_cons, ih, settings_respond]

end

/-! ## where histories begin -/

theorem mem_place {d : Drone} {bs : List Bay} {b : Bay} (h : b ∈ place d bs) :
    b = .ofDrone d ∨ b ∈ bs := by
  induction bs with
  | nil => exact Or.inl (List.mem_singleton.mp h)
  | cons c cs ih =>
    unfold place at h
    split at h
    · rcases List.mem_cons.mp h with h | h
      · exact Or.inl h
      · exact Or.inr (List.mem_cons_of_mem c h)
    · split at h
      · exact (List.mem_cons.mp h).imp_right id
      · rcases List.mem_cons.mp h with rfl | h
        · exact Or.inr List.mem_cons_self
        · exact (ih h).imp_right (List.mem_cons_of_mem c)

theorem mem_bays_ofDrones {ds : List Drone} {settings : FlightSettings} {capacity : Nat} {b : Bay}
    (h : b ∈ (ofDrones ds settings capacity).bays) : ∃ d ∈ ds, b = .ofDrone d := by
  have main : ∀ bs : List Bay, b ∈ ds.foldl (fun bs d => place d bs) bs →
      (∃ d ∈ ds, b = .ofDrone d) ∨ b ∈ bs := by
    clear h
    induction ds with
    | nil => exact fun bs h => Or.inr h
    | cons d ds ih =>
      intro bs h
      rcases ih (place d bs) h with ⟨e, he, rfl⟩ | h
      · exact Or.inl ⟨e, List.mem_cons_of_mem d he, rfl⟩
      · rcases mem_place h with rfl | h
        · exact Or.inl ⟨d, List.mem_cons_self, rfl⟩
        · exact Or.inr h
  rcases main [] h with h | h
  · exact h
  · cases h

theorem mem_bays_seeded {s : FleetSettings} {settings : FlightSettings} {capacity : Nat} {b : Bay}
    (h : b ∈ (seeded s settings capacity).1.bays) : ∃ i, b = .ofDrone (seed s i) := by
  obtain ⟨d, hd, rfl⟩ := mem_bays_ofDrones h
  obtain ⟨i, -, rfl⟩ := List.mem_map.mp hd
  exact ⟨i + 1, rfl⟩

/-! ## the order of the ids -/

theorem lt_of_ne_of_not_lt {a b : String} (hne : a ≠ b) (h : ¬ a < b) : b < a :=
  Decidable.byContradiction fun hn =>
    hne (String.le_antisymm (String.not_lt.mp hn) (String.not_lt.mp h))

theorem pairwise_ids_place (d : Drone) {bs : List Bay}
    (h : (bs.map fun b => b.drone.id).Pairwise (· < ·)) :
    ((place d bs).map fun b => b.drone.id).Pairwise (· < ·) := by
  induction bs with
  | nil => exact List.pairwise_singleton _ _
  | cons b bs ih =>
    obtain ⟨hb, hbs⟩ := List.pairwise_cons.mp h
    unfold place
    by_cases he : d.id = b.drone.id
    · rw [if_pos he]
      refine List.pairwise_cons.mpr ⟨fun x hx => ?_, hbs⟩
      show d.id < x
      rw [he]
      exact hb x hx
    · rw [if_neg he]
      by_cases hlt : d.id < b.drone.id
      · rw [if_pos hlt]
        refine List.pairwise_cons.mpr ⟨fun x hx => ?_, h⟩
        rcases List.mem_cons.mp hx with rfl | hx
        · exact hlt
        · exact String.lt_trans hlt (hb x hx)
      · rw [if_neg hlt]
        refine List.pairwise_cons.mpr ⟨fun x hx => ?_, ih hbs⟩
        obtain ⟨c, hc, rfl⟩ := List.mem_map.mp hx
        rcases mem_place hc with rfl | hc
        · exact lt_of_ne_of_not_lt he hlt
        · exact hb _ (List.mem_map_of_mem hc)

theorem pairwise_ids_ofDrones (ds : List Drone) (settings : FlightSettings) (capacity : Nat) :
    (ofDrones ds settings capacity).ids.Pairwise (· < ·) := by
  have main : ∀ bs : List Bay, (bs.map fun b => b.drone.id).Pairwise (· < ·) →
      ((ds.foldl (fun bs d => place d bs) bs).map fun b => b.drone.id).Pairwise (· < ·) := by
    induction ds with
    | nil => exact fun bs h => h
    | cons d ds ih => exact fun bs h => ih (place d bs) (pairwise_ids_place d h)
  exact main [] List.Pairwise.nil

theorem ids_after (f : Fleet) (es : List Event) : (f.after es).ids = f.ids := by
  induction es generalizing f with
  | nil => rfl
  | cons e es ih => rw [after_cons, ih, ids_respond]

theorem bay?_of_mem {f : Fleet} (h : f.ids.Pairwise (· < ·)) {b : Bay} (hb : b ∈ f.bays) :
    f.bay? b.drone.id = some b := by
  unfold bay?
  unfold ids at h
  revert h hb
  generalize f.bays = bs
  intro h hb
  induction bs with
  | nil => cases hb
  | cons c cs ih =>
    obtain ⟨hc, hcs⟩ := List.pairwise_cons.mp h
    rcases List.mem_cons.mp hb with rfl | hb
    · exact List.find?_cons_of_pos (decide_eq_true rfl)
    · have hlt : c.drone.id < b.drone.id := hc _ (List.mem_map_of_mem hb)
      have hne : c.drone.id ≠ b.drone.id := fun he => String.lt_irrefl _ (he ▸ hlt)
      rw [List.find?_cons_of_neg (by simpa using hne)]
      exact ih hcs hb

end DroneFleet.Fleet
