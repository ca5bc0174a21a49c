import DroneFleet.Proofs.History

/-!
# What a history shows of one drone

A sighting is what observers are told of a drone, with the time, and the drone itself right after.
What happens to other drones shows nothing of this one.

* `Fleet.Sighting`    what observers are told, and the drone right after
* `Fleet.sighted`     what one event shows of a drone
* `Fleet.sightings`   what a history shows of it
* `Fleet.published`   what a history publishes of all drones
* `Fleet.sighted_visit`, `Fleet.sighted_of_toward`   what a visit shows, and all other events
* `Fleet.map_entry_sightings`   what is seen of a drone is what is published of it
-/

namespace DroneFleet.Fleet

/-- what observers are told of a drone, when, and the drone itself right after -/
structure Sighting where
  time : Nat
  told : Drone.Snapshot
  drone : Drone

/-- a sighting without the drone: when, and what observers are told -/
def Sighting.entry (x : Sighting) : Nat × Drone.Snapshot := (x.time, x.told)

/-- what an event shows of the drone of an id -/
def sighted (f : Fleet) (id : String) (e : Event) : List Sighting :=
  match (f.respond e).1.bay? id with
  | none => []
  | some b =>
    ((f.respond e).2.published.filter fun p => p.2.id = id).map fun p => ⟨p.1, p.2, b.drone⟩

/-- what a history shows of the drone of an id -/
def sightings (f : Fleet) (id : String) : List Event → List Sighting
  | [] => []
  | e :: es => f.sighted id e ++ (f.respond e).1.sightings id es

/-- what a history publishes, of all drones -/
def published (f : Fleet) : List Event → List (Nat × Drone.Snapshot)
  | [] => []
  | e :: es => (f.respond e).2.published ++ (f.respond e).1.published es

theorem published_cons (f : Fleet) (e : Event) (es : List Event) :
    f.published (e :: es) = (f.respond e).2.published ++ (f.respond e).1.published es := rfl

theorem published_append (f : Fleet) (es es' : List Event) :
    f.published (es ++ es') = f.published es ++ (f.after es).published es' := by
  induction es generalizing f with
  | nil => rfl
  | cons e es ih =>
    rw [List.cons_append, published_cons, published_cons, ih, List.append_assoc]
    rfl

theorem sightings_nil (f : Fleet) (id : String) : f.sightings id [] = [] := rfl
theorem sightings_cons (f : Fleet) (id : String) (e : Event) (es : List Event) :
    f.sightings id (e :: es) = f.sighted id e ++ (f.respond e).1.sightings id es := rfl

section
variable {f : Fleet} {id : String} {b : Bay}

theorem time_of_published {e : Event} {p : Nat × Drone.Snapshot}
    (hp : p ∈ (f.respond e).2.published) : p.1 = f.clock := by
  cases e with
  | visit id v =>
    cases h : f.bay? id with
    | none =>
      rw [respond_of_none h] at hp
      cases hp
    | some b =>
      rw [(replaced_respond h v).2] at hp
      exact (Bay.moves_respond f.settings f.clock b v).time_of_published hp
  | _ => cases hp

theorem sighted_eq_nil {e : Event} (h : ∀ p ∈ (f.respond e).2.published, p.2.id ≠ id) :
    f.sighted id e = [] := by
  unfold sighted
  cases (f.respond e).1.bay? id with
  | none => rfl
  | some b =>
    have none : (f.respond e).2.published.filter (fun p => p.2.id = id) = [] :=
      List.filter_eq_nil_iff.mpr fun p hp => by simpa using h p hp
    simp only [none, List.map_nil]

theorem sighted_visit (h : f.bay? id = some b) (v : Bay.Event) :
    f.sighted id (.visit id v) =
      (b.respond f.settings f.clock v).2.published.map fun p =>
        ⟨p.1, p.2, (b.respond f.settings f.clock v).1.drone⟩ := by
  obtain ⟨hr, hrep⟩ := replaced_respond h v
  have own : ∀ p ∈ (b.respond f.settings f.clock v).2.published, p.2.id = id := fun p hp =>
    ((Bay.moves_respond f.settings f.clock b v).id_of_published hp).trans (id_of_bay? h)
  have all : (b.respond f.settings f.clock v).2.published.filter (fun p => p.2.id = id) =
      (b.respond f.settings f.clock v).2.published :=
    List.filter_eq_self.mpr fun p hp => by simpa using own p hp
  simp only [sighted, hr.here, hrep, all]

theorem sighted_of_toward {e : Event} (he : e.toward id = none) : f.sighted id e = [] := by
  cases e with
  | visit other v =>
    have ho : other ≠ id := fun hi => by simp [Event.toward, hi] at he
    cases h : f.bay? other with
    | none =>
      refine sighted_eq_nil fun p hp => ?_
      rw [respond_of_none h] at hp
      cases hp
    | some b =>
      refine sighted_eq_nil fun p hp => ?_
      rw [(replaced_respond h v).2] at hp
      rw [(Bay.moves_respond _ _ b v).id_of_published hp, id_of_bay? h]
      exact ho
  | _ => exact sighted_eq_nil fun p hp => by cases hp

theorem exists_bay?_respond (h : f.bay? id = some b) (e : Event) :
    ∃ c, (f.respond e).1.bay? id = some c := by
  cases ht : e.toward id with
  | none => exact ⟨b, (bay?_respond_of_toward ht).trans h⟩
  | some v =>
    obtain rfl := Event.eq_visit ht
    exact ⟨_, (replaced_respond h v).1.here⟩

/-- what is seen of a drone is what is published of it -/
theorem map_entry_sightings (h : f.bay? id = some b) (es : List Event) :
    (f.sightings id es).map Sighting.entry = (f.published es).filter fun p => p.2.id = id := by
  induction es generalizing f b with
  | nil => rfl
  | cons e es ih =>
    obtain ⟨c, hc⟩ := exists_bay?_respond h e
    have now : (f.sighted id e).map Sighting.entry =
        (f.respond e).2.published.filter fun p => p.2.id = id := by
      simp only [sighted, hc, List.map_map]
      exact List.map_id _
    rw [sightings_cons, published_cons, List.map_append, List.filter_append, now, ih hc]

end

end DroneFleet.Fleet
