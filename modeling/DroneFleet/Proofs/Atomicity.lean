import DroneFleet.Proofs.History
import DroneFleet.Proofs.Outcomes

/-!
# Operations in single effects

An operation looks for a drone, checks it, and then writes one field after the other. What it wrote
before it fails would stay written: a flight that is refused after its queue was put in place would
be flown all the same by a run that still works on the queue. Here the operations are taken apart
into such effects, on a fleet that keeps what was done to it when an operation stops. They come to
the same as the operations that are computed at once, because every check comes before every effect.

* `Fleet.Operation`, `Operation.perform`   the operations, computed at once
* `Operation.refusal`                      when the state of a drone forbids one
* `Fleet.Effects`                          courses of effects, which may stop between any two
* `Operation.effects`                      the operations, one effect after the other
* `Operation.on_effects`                   both come to the same
* `operations_are_atomic`                  operations fail when they should, and without effect
-/

namespace DroneFleet

/-! ## assignments -/

/-- one field of a drone, with what is written to it -/
inductive Drone.Assignment where
  | connected (value : Bool)
  | inFlight (value : Bool)
  | yaw (value : Int)
  | position (value : Point Float)
  | status (value : Status)
  | queue (value : List String)
  | zones (value : Zones)
  | runActive (value : Bool)

namespace Drone

def assign (d : Drone) : Assignment → Drone
  | .connected value => { d with connected := value }
  | .inFlight value => { d with inFlight := value }
  | .yaw value => { d with yaw := value }
  | .position value => { d with position := value }
  | .status value => { d with status := value }
  | .queue value => { d with queue := value }
  | .zones value => { d with zones := value }
  | .runActive value => { d with runActive := value }

def assigned (d : Drone) (as : List Assignment) : Drone := as.foldl assign d

theorem id_assigned (d : Drone) (as : List Assignment) : (d.assigned as).id = d.id := by
  induction as generalizing d with
  | nil => rfl
  | cons a as ih =>
    have first : (d.assign a).id = d.id := by cases a <;> rfl
    exact (ih (d.assign a)).trans first

theorem assigned_append (d : Drone) (as bs : List Assignment) :
    d.assigned (as ++ bs) = (d.assigned as).assigned bs := List.foldl_append

end Drone

namespace Bay

def assigned (b : Bay) (as : List Drone.Assignment) : Bay :=
  { b with drone := b.drone.assigned as }

def prepared (path : List String) (zones : Zones) (b : Bay) : Bay :=
  { b with drone := prepare path zones b.drone }

section
variable {b : Bay}

theorem assigned_flight (path : List String) (zones : Zones) (b : Bay) :
    b.assigned [.zones zones, .queue path, .position .origin, .yaw 0, .status .inFlight,
      .inFlight true] = b.prepared path zones := by
  simp only [assigned, Drone.assigned, List.foldl_cons, List.foldl_nil, Drone.assign]
  rfl

theorem submit_of_active (hc : b.drone.connected = true) (ha : b.drone.runActive = true)
    (now : Nat) (path : List String) (zones : Zones) :
    b.submit now path zones = .ok (b.prepared path zones,
      .remarking [.submitted b.drone.id path.length zones.length, .superseded b.drone.id]) := by
  have flag : (prepare path zones b.drone).runActive = true := ha
  simp only [submit, hc, flag, if_true]
  rfl

theorem submit_of_idle (hc : b.drone.connected = true) (ha : b.drone.runActive = false)
    (now : Nat) (path : List String) (zones : Zones) :
    b.submit now path zones = .ok (((b.prepared path zones).assigned [.runActive true]).spawn now,
      .remarking [.submitted b.drone.id path.length zones.length]) := by
  have flag : (prepare path zones b.drone).runActive = false := ha
  simp only [submit, hc, flag, if_true]
  rfl

end

end Bay

namespace Fleet

section
variable {f : Fleet} {id : String} {b : Bay}

theorem set_set (f : Fleet) {id : String} {c : Bay} (h : c.drone.id = id) (d : Bay) :
    (f.set id c).set id d = f.set id d := by
  unfold set
  rw [List.map_map]
  have same : ∀ a : Bay, (if (if a.drone.id = id then c else a).drone.id = id then d
      else if a.drone.id = id then c else a) = if a.drone.id = id then d else a := by
    intro a
    by_cases ha : a.drone.id = id
    · rw [if_pos ha, if_pos h, if_pos ha]
    · rw [if_neg ha, if_neg ha]
  exact congrArg (fun bays => { f with bays := bays }) (List.map_congr_left fun a _ => same a)

def assign (id : String) (as : List Drone.Assignment) (f : Fleet) : Fleet :=
  match f.bay? id with
  | some b => f.set id (b.assigned as)
  | none => f

theorem assign_of_none (h : f.bay? id = none) (as : List Drone.Assignment) :
    f.assign id as = f := by
  unfold assign
  rw [h]

theorem assign_of_some (h : f.bay? id = some b) (as : List Drone.Assignment) :
    f.assign id as = f.set id (b.assigned as) := by
  unfold assign
  rw [h]

theorem bay?_assign (h : f.bay? id = some b) (as : List Drone.Assignment) :
    (f.assign id as).bay? id = some (b.assigned as) := by
  rw [assign_of_some h]
  exact (Replaced.set h ((b.drone.id_assigned as).trans (id_of_bay? h))).here

theorem assign_assign (f : Fleet) (id : String) (as bs : List Drone.Assignment) :
    (f.assign id as).assign id bs = f.assign id (as ++ bs) := by
  cases h : f.bay? id with
  | none => rw [assign_of_none h, assign_of_none h, assign_of_none h]
  | some b =>
    have kept : (b.assigned as).drone.id = id := (b.drone.id_assigned as).trans (id_of_bay? h)
    have both : (b.assigned as).assigned bs = b.assigned (as ++ bs) := by
      unfold Bay.assigned
      rw [Drone.assigned_append]
    rw [assign_of_some (bay?_assign h as), assign_of_some h, set_set f kept, assign_of_some h, both]

end

/-! ## operations at once -/

/-- an operation on the drone of an id -/
inductive Operation where
  | connect
  | disconnect
  | info
  | submit (path : List String) (zones : Zones)

/-- what an operation comes to; only `info` is answered with a drone -/
structure Outcome where
  fleet : Fleet
  report : Report
  answer : Option Drone := none

namespace Operation

/-- an operation, computed at once -/
def perform (f : Fleet) (id : String) : Operation → Except FleetError Outcome
  | .connect => (f.connect id).map fun (g, r) => { fleet := g, report := r }
  | .disconnect => (f.disconnect id).map fun (g, r) => { fleet := g, report := r }
  | .info => (f.info id).map fun d => { fleet := f, report := .empty, answer := some d }
  | .submit path zones => (f.submit id path zones).map fun (g, r) => { fleet := g, report := r }

/-- why an operation is refused, given whether its drone is connected -/
def refusal : Operation → Bool → Option FleetError
  | .connect, true => some .alreadyConnected
  | .connect, false => none
  | .disconnect, false => some .notConnected
  | .info, false => some .droneNotConnected
  | .submit _ _, false => some .droneNotConnected
  | _, true => none

end Operation

/-! ## effects -/

/-- a fleet, and what was remarked so far -/
structure Ledger where
  fleet : Fleet
  remarks : List Remark

/-- a course of effects. It may stop with an error, and what it did until then stays done. -/
abbrev Effects := ExceptT FleetError (StateM Ledger)

namespace Effects

def look (id : String) : Effects Bay := do
  match (← get).fleet.bay? id with
  | some b => return b
  | none => throw (.notFound id)

def require (holds : Bool) (e : FleetError) : Effects Unit :=
  if holds then pure () else throw e

def write (id : String) (a : Drone.Assignment) : Effects Unit :=
  modify fun w => { w with fleet := w.fleet.assign id [a] }

def spawn (id : String) : Effects Unit := do
  let b ← look id
  modify fun w => { w with fleet := (w.fleet.set id (b.spawn w.fleet.clock)).requeue id }

def remark (x : Remark) : Effects Unit :=
  modify fun w => { w with remarks := w.remarks ++ [x] }

/-- what effects come to, and what they leave behind, also when they stop -/
def on {α : Type} (x : Effects α) (w : Ledger) : Except FleetError α × Ledger := x.run.run w

section
variable {α : Type} {id : String} {f : Fleet} {rs : List Remark} {b : Bay}

theorem on_look_of_none (h : f.bay? id = none) (k : Bay → Effects α) :
    (look id >>= k).on ⟨f, rs⟩ = (.error (.notFound id), ⟨f, rs⟩) := by
  show ((match f.bay? id with
    | some b => (pure b : Effects Bay)
    | none => throw (.notFound id)) >>= k).on ⟨f, rs⟩ = _
  rw [h]
  rfl

theorem on_look_of_some (h : f.bay? id = some b) (k : Bay → Effects α) :
    (look id >>= k).on ⟨f, rs⟩ = (k b).on ⟨f, rs⟩ := by
  show ((match f.bay? id with
    | some b => (pure b : Effects Bay)
    | none => throw (.notFound id)) >>= k).on ⟨f, rs⟩ = _
  rw [h]
  rfl

theorem on_require_true (e : FleetError) (k : Unit → Effects α) :
    (require true e >>= k).on ⟨f, rs⟩ = (k ()).on ⟨f, rs⟩ := rfl

theorem on_write (a : Drone.Assignment) (k : Unit → Effects α) :
    (write id a >>= k).on ⟨f, rs⟩ = (k ()).on ⟨f.assign id [a], rs⟩ := rfl

theorem on_spawn (h : f.bay? id = some b) (k : Unit → Effects α) :
    (spawn id >>= k).on ⟨f, rs⟩ =
      (k ()).on ⟨(f.set id (b.spawn f.clock)).requeue id, rs⟩ := by
  unfold spawn
  rw [bind_assoc, on_look_of_some h]
  rfl

theorem on_remark (x : Remark) (k : Unit → Effects α) :
    (remark x >>= k).on ⟨f, rs⟩ = (k ()).on ⟨f, rs ++ [x]⟩ := rfl

theorem on_pure (a : α) : (pure a : Effects α).on ⟨f, rs⟩ = (.ok a, ⟨f, rs⟩) := rfl

end

end Effects

open Effects in
/-- an operation, one effect after the other -/
def Operation.effects (id : String) : Operation → Effects (Option Drone)
  | .connect => do
    let b ← look id
    require (!b.drone.connected) .alreadyConnected
    write id (.connected true)
    write id (.status .connected)
    remark (.connected id)
    return none
  | .disconnect => do
    let b ← look id
    require b.drone.connected .notConnected
    write id (.queue [])
    write id (.connected false)
    write id (.status .idle)
    remark (.disconnected id)
    return none
  | .info => do
    let b ← look id
    require b.drone.connected .droneNotConnected
    return some b.drone
  | .submit path zones => do
    let b ← look id
    require b.drone.connected .droneNotConnected
    remark (.submitted id path.length zones.length)
    write id (.zones zones)
    write id (.queue path)
    write id (.position .origin)
    write id (.yaw 0)
    write id (.status .inFlight)
    write id (.inFlight true)
    -- the flag of the run is read only now
    let b ← look id
    if b.drone.runActive then
      remark (.superseded id)
      return none
    else
      write id (.runActive true)
      spawn id
      return none

/-- what an operation comes to, and what it leaves behind: all as it was if it failed -/
def Ledger.concluded (w : Ledger) :
    Except FleetError Outcome → Except FleetError (Option Drone) × Ledger
  | .ok o => (.ok o.answer, ⟨o.fleet, w.remarks ++ o.report.remarks⟩)
  | .error e => (.error e, w)

namespace Operation

section
variable {f : Fleet} {id : String} {b : Bay}

theorem perform_of_none (h : f.bay? id = none) (op : Operation) :
    op.perform f id = .error (.notFound id) := by
  cases op with
  | connect => simp only [perform, Fleet.connect, operate_of_none h, Except.map]
  | disconnect => simp only [perform, Fleet.disconnect, operate_of_none h, Except.map]
  | info => simp only [perform, Fleet.info, h, Except.map]
  | submit path zones => simp only [perform, Fleet.submit, operate_of_none h, Except.map]

theorem on_effects_of_none (h : f.bay? id = none) (op : Operation) (rs : List Remark) :
    (op.effects id).on ⟨f, rs⟩ = (.error (.notFound id), ⟨f, rs⟩) := by
  cases op <;> exact Effects.on_look_of_none h _

theorem on_connect (h : f.bay? id = some b) (rs : List Remark) :
    (effects id .connect).on ⟨f, rs⟩ = Ledger.concluded ⟨f, rs⟩ (perform f id .connect) := by
  unfold effects perform Fleet.connect
  rw [Effects.on_look_of_some h]
  cases hc : b.drone.connected with
  | true =>
    have refused : b.connect = .error .alreadyConnected := by simp [Bay.connect, hc]
    rw [operate_of_error h refused]
    rfl
  | false =>
    have accepted : b.connect = .ok (b.assigned [.connected true, .status .connected],
        .remarking [.connected b.drone.id]) := by
      simp only [Bay.connect, hc]
      rfl
    rw [operate_of_ok h accepted, Bool.not_false, Effects.on_require_true, Effects.on_write,
      Effects.on_write, Effects.on_remark, Effects.on_pure, assign_assign, assign_of_some h,
      id_of_bay? h]
    rfl

theorem on_disconnect (h : f.bay? id = some b) (rs : List Remark) :
    (effects id .disconnect).on ⟨f, rs⟩ =
      Ledger.concluded ⟨f, rs⟩ (perform f id .disconnect) := by
  unfold effects perform Fleet.disconnect
  rw [Effects.on_look_of_some h]
  cases hc : b.drone.connected with
  | false =>
    have refused : b.disconnect = .error .notConnected := by simp [Bay.disconnect, hc]
    rw [operate_of_error h refused]
    rfl
  | true =>
    have accepted : b.disconnect = .ok (b.assigned [.queue [], .connected false, .status .idle],
        .remarking [.disconnected b.drone.id]) := by
      simp only [Bay.disconnect, hc]
      rfl
    rw [operate_of_ok h accepted, Effects.on_require_true, Effects.on_write, Effects.on_write,
      Effects.on_write, Effects.on_remark, Effects.on_pure, assign_assign, assign_assign,
      assign_of_some h, id_of_bay? h]
    rfl

theorem on_info (h : f.bay? id = some b) (rs : List Remark) :
    (effects id .info).on ⟨f, rs⟩ = Ledger.concluded ⟨f, rs⟩ (perform f id .info) := by
  unfold effects perform
  rw [Effects.on_look_of_some h]
  simp only [Fleet.info, Bay.info, h]
  cases b.drone.connected with
  | false => rfl
  | true =>
    show _ = (Except.ok (some b.drone), Ledger.mk f (rs ++ []))
    rw [List.append_nil]
    rfl

theorem on_submit (h : f.bay? id = some b) (path : List String) (zones : Zones)
    (rs : List Remark) :
    (effects id (.submit path zones)).on ⟨f, rs⟩ =
      Ledger.concluded ⟨f, rs⟩ (perform f id (.submit path zones)) := by
  unfold effects
  simp only [perform, Fleet.submit]
  rw [Effects.on_look_of_some h]
  cases hc : b.drone.connected with
  | false =>
    have refused : b.submit f.clock path zones = .error .droneNotConnected := by
      simp [Bay.submit, hc]
    rw [operate_of_error h refused]
    rfl
  | true =>
    have flies : f.flies id = b.drone.runActive := by simp [flies, h]
    have hid := id_of_bay? h
    have kept : (b.prepared path zones).drone.id = id := hid
    have prepared := (Replaced.set h kept).here
    have flag : (b.prepared path zones).drone.runActive = b.drone.runActive := rfl
    rw [Effects.on_require_true, Effects.on_remark, Effects.on_write, Effects.on_write,
      Effects.on_write, Effects.on_write, Effects.on_write, Effects.on_write, assign_assign,
      assign_assign, assign_assign, assign_assign, assign_assign, assign_of_some h]
    simp only [List.singleton_append, Bay.assigned_flight]
    rw [Effects.on_look_of_some prepared, flag, flies]
    cases ha : b.drone.runActive with
    | true =>
      rw [operate_of_ok h (Bay.submit_of_active hc ha f.clock path zones), hid, if_pos rfl,
        Effects.on_remark, Effects.on_pure, List.append_assoc]
      rfl
    | false =>
      have active : ((b.prepared path zones).assigned [.runActive true]).drone.id = id := kept
      rw [operate_of_ok h (Bay.submit_of_idle hc ha f.clock path zones), hid,
        if_neg Bool.false_ne_true, Effects.on_write, assign_of_some prepared, set_set f kept,
        Effects.on_spawn (Replaced.set h active).here, set_set f active, Effects.on_pure]
      rfl

/-- **In single effects an operation comes to the same as at once.** -/
theorem on_effects (f : Fleet) (id : String) (op : Operation) (rs : List Remark) :
    (op.effects id).on ⟨f, rs⟩ = Ledger.concluded ⟨f, rs⟩ (op.perform f id) := by
  cases h : f.bay? id with
  | none =>
    rw [on_effects_of_none h, perform_of_none h]
    rfl
  | some b =>
    cases op with
    | connect => exact on_connect h rs
    | disconnect => exact on_disconnect h rs
    | info => exact on_info h rs
    | submit path zones => exact on_submit h path zones rs

end

end Operation

/-! ## what operations change -/

/-- a fleet in which at most the drone of an id and whose turn it is have changed -/
structure ChangedOnly (f : Fleet) (id : String) (g : Fleet) : Prop where
  others : (g.bays.filter fun b => b.drone.id ≠ id) = f.bays.filter fun b => b.drone.id ≠ id
  ids : g.ids = f.ids
  settings : g.settings = f.settings
  clock : g.clock = f.clock
  channel : g.channel = f.channel

namespace ChangedOnly
variable {f : Fleet} {id : String} {b c : Bay}

theorem self (f : Fleet) (id : String) : ChangedOnly f id f := ⟨rfl, rfl, rfl, rfl, rfl⟩

theorem set (h : f.bay? id = some b) (hc : c.drone.id = id) : ChangedOnly f id (f.set id c) where
  others := by
    show (f.bays.map _).filter _ = _
    induction f.bays with
    | nil => rfl
    | cons a as ih =>
      show ((if a.drone.id = id then c else a) :: as.map _).filter _ = _
      by_cases ha : a.drone.id = id
      · rw [if_pos ha, List.filter_cons_of_neg (by simp [hc]),
          List.filter_cons_of_neg (by simp [ha])]
        exact ih
      · rw [if_neg ha, List.filter_cons_of_pos (by simp [ha]),
          List.filter_cons_of_pos (by simp [ha]), ih]
  ids := (Replaced.set h hc).ids
  settings := rfl
  clock := rfl
  channel := rfl

theorem requeue {g : Fleet} (h : ChangedOnly f id g) (other : String) :
    ChangedOnly f id (g.requeue other) :=
  ⟨h.others, h.ids, h.settings, h.clock, h.channel⟩

end ChangedOnly

/-- a change of a bay that keeps the id of its drone and publishes nothing -/
def Quiet (change : Bay → Except FleetError (Bay × Report)) : Prop :=
  ∀ b c r, change b = .ok (c, r) → c.drone.id = b.drone.id ∧ r.published = []

theorem quiet_connect : Quiet Bay.connect := by
  intro b c r h
  unfold Bay.connect at h
  split at h
  · cases h
  · cases h
    exact ⟨rfl, rfl⟩

theorem quiet_disconnect : Quiet Bay.disconnect := by
  intro b c r h
  unfold Bay.disconnect at h
  split at h
  · cases h
    exact ⟨rfl, rfl⟩
  · cases h

theorem quiet_submit (now : Nat) (path : List String) (zones : Zones) :
    Quiet (Bay.submit now path zones) := by
  intro b c r h
  cases hc : b.drone.connected with
  | false => simp [Bay.submit, hc] at h
  | true =>
    cases ha : b.drone.runActive with
    | true =>
      rw [Bay.submit_of_active hc ha] at h
      cases h
      exact ⟨rfl, rfl⟩
    | false =>
      rw [Bay.submit_of_idle hc ha] at h
      cases h
      exact ⟨rfl, rfl⟩

section
variable {f : Fleet} {id : String} {b : Bay}

theorem bay?_eq_none_iff : f.bay? id = none ↔ id ∉ f.ids := by
  unfold bay? ids
  rw [List.find?_eq_none, List.mem_map]
  simp

theorem changedOnly_operate {change : Bay → Except FleetError (Bay × Report)} (quiet : Quiet change)
    {g : Fleet} {r : Report} (h : f.operate id change = .ok (g, r)) : ChangedOnly f id g := by
  cases hb : f.bay? id with
  | none =>
    rw [operate_of_none hb] at h
    cases h
  | some b =>
    cases hc : change b with
    | error e =>
      rw [operate_of_error hb hc] at h
      cases h
    | ok x =>
      obtain ⟨c, r⟩ := x
      obtain ⟨kept, silent⟩ := quiet b c r hc
      rw [operate_of_ok hb hc] at h
      cases h
      have told : (f.set id c).tell r = f.set id c := by
        unfold tell
        rw [silent]
        rfl
      rw [told]
      exact .set hb (kept.trans (id_of_bay? hb))

theorem operate_eq_error_iff {change : Bay → Except FleetError (Bay × Report)} {e : FleetError}
    (h : f.bay? id = some b) : f.operate id change = .error e ↔ change b = .error e := by
  cases hc : change b with
  | error d => rw [operate_of_error h hc, Except.error.injEq, Except.error.injEq]
  | ok x =>
    rw [operate_of_ok h hc]
    exact iff_of_false nofun nofun

namespace Operation

theorem changedOnly_perform {op : Operation} {o : Outcome} (h : op.perform f id = .ok o) :
    ChangedOnly f id o.fleet := by
  cases op with
  | connect =>
    obtain ⟨r, hr, rfl⟩ := exists_of_map_eq_ok h
    exact changedOnly_operate quiet_connect hr
  | disconnect =>
    obtain ⟨r, hr, rfl⟩ := exists_of_map_eq_ok h
    exact changedOnly_operate quiet_disconnect hr
  | info =>
    obtain ⟨d, -, rfl⟩ := exists_of_map_eq_ok h
    exact .self f id
  | submit path zones =>
    obtain ⟨r, hr, rfl⟩ := exists_of_map_eq_ok h
    unfold Fleet.submit at hr
    cases ho : f.operate id (Bay.submit f.clock path zones) with
    | error e =>
      rw [ho] at hr
      cases hr
    | ok x =>
      have changed := changedOnly_operate (quiet_submit f.clock path zones) ho
      rw [ho] at hr
      cases hr
      show ChangedOnly f id (if f.flies id then x.1 else x.1.requeue id)
      split
      · exact changed
      · exact changed.requeue id

/-- on a drone that is there an operation fails exactly when the state of the drone forbids it -/
theorem perform_eq_error_iff (h : f.bay? id = some b) (op : Operation) (e : FleetError) :
    op.perform f id = .error e ↔ op.refusal b.drone.connected = some e := by
  cases op with
  | connect =>
    unfold perform Fleet.connect
    rw [map_eq_error_iff, operate_eq_error_iff h]
    unfold Bay.connect refusal
    cases b.drone.connected <;> simp
  | disconnect =>
    unfold perform Fleet.disconnect
    rw [map_eq_error_iff, operate_eq_error_iff h]
    unfold Bay.disconnect refusal
    cases b.drone.connected <;> simp
  | info =>
    unfold perform Fleet.info
    rw [map_eq_error_iff]
    simp only [h]
    unfold Bay.info refusal
    cases b.drone.connected <;> simp
  | submit path zones =>
    have same : f.submit id path zones = .error e ↔
        f.operate id (Bay.submit f.clock path zones) = .error e := by
      unfold Fleet.submit
      cases f.operate id (Bay.submit f.clock path zones) with
      | error d => exact Iff.rfl
      | ok x => exact iff_of_false nofun nofun
    unfold perform
    rw [map_eq_error_iff, same, operate_eq_error_iff h]
    cases hc : b.drone.connected with
    | false => simp [Bay.submit, refusal, hc]
    | true =>
      cases ha : b.drone.runActive with
      | true =>
        rw [Bay.submit_of_active hc ha]
        exact iff_of_false nofun nofun
      | false =>
        rw [Bay.submit_of_idle hc ha]
        exact iff_of_false nofun nofun

theorem on_effects_of_error {op : Operation} {rs : List Remark} {e : FleetError}
    (h : ((op.effects id).on ⟨f, rs⟩).1 = .error e) :
    op.perform f id = .error e ∧ ((op.effects id).on ⟨f, rs⟩).2 = ⟨f, rs⟩ := by
  rw [on_effects] at h ⊢
  cases hp : op.perform f id with
  | error d =>
    rw [hp] at h
    exact ⟨congrArg _ (Except.error.inj h), rfl⟩
  | ok o =>
    rw [hp] at h
    cases h

theorem on_effects_of_ok {op : Operation} {rs : List Remark} {a : Option Drone}
    (h : ((op.effects id).on ⟨f, rs⟩).1 = .ok a) :
    ∃ o, op.perform f id = .ok o ∧ ((op.effects id).on ⟨f, rs⟩).2.fleet = o.fleet := by
  rw [on_effects] at h ⊢
  cases hp : op.perform f id with
  | error d =>
    rw [hp] at h
    cases h
  | ok o => exact ⟨o, rfl, rfl⟩

end Operation

end

/-- **Operations fail when they should, and then without effect.** An operation on an id that is not
in the roster finds no drone. On a drone that is there it fails exactly if the drone is connected,
for `connect`, or is not, for all others. In single effects, each of which stays done when the
operation stops, it comes to the same as at once; it leaves the fleet with all drones, runs and
notices as it was if it fails, and changes no other drone if it succeeds. -/
theorem operations_are_atomic (f : Fleet) (id : String) (op : Operation) (rs : List Remark) :
    (∀ other, op.perform f id = .error (.notFound other) ↔ other = id ∧ id ∉ f.ids) ∧
    (∀ b, f.bay? id = some b →
      ∀ e, op.perform f id = .error e ↔ op.refusal b.drone.connected = some e) ∧
    (op.effects id).on ⟨f, rs⟩ = Ledger.concluded ⟨f, rs⟩ (op.perform f id) ∧
    (∀ e, ((op.effects id).on ⟨f, rs⟩).1 = .error e →
      ((op.effects id).on ⟨f, rs⟩).2 = ⟨f, rs⟩) ∧
    ∀ a, ((op.effects id).on ⟨f, rs⟩).1 = .ok a →
      ChangedOnly f id ((op.effects id).on ⟨f, rs⟩).2.fleet := by
  refine ⟨fun other => ?_, fun b h e => op.perform_eq_error_iff h e, op.on_effects f id rs,
    fun e h => (Operation.on_effects_of_error h).2, fun a h => ?_⟩
  · cases h : f.bay? id with
    | none =>
      rw [Operation.perform_of_none h]
      have absent := bay?_eq_none_iff.mp h
      refine ⟨fun he => ?_, fun he => by rw [he.1]⟩
      cases he
      exact ⟨rfl, absent⟩
    | some b =>
      rw [op.perform_eq_error_iff h]
      refine iff_of_false (fun he => ?_) fun he => ?_
      · cases op <;> cases hc : b.drone.connected <;> rw [hc] at he <;> cases he
      · rw [bay?_eq_none_iff.mpr he.2] at h
        cases h
  · obtain ⟨o, ho, hf⟩ := Operation.on_effects_of_ok h
    rw [hf]
    exact Operation.changedOnly_perform ho

/-- a flight for a drone that is not connected, and one for a drone that is not there -/
theorem submission_is_atomic :
    ((Operation.submit ["takeoff"] []).effects "tello-1").on
        ⟨(seeded { count := 1 } {} 16).1, []⟩ =
      (.error .droneNotConnected, ⟨(seeded { count := 1 } {} 16).1, []⟩) ∧
    (Operation.submit ["takeoff"] []).perform (seeded { count := 1 } {} 16).1 "tello-2" =
      .error (.notFound "tello-2") := by
  obtain ⟨-, refused, same, unchanged, -⟩ :=
    operations_are_atomic (seeded { count := 1 } {} 16).1 "tello-1" (.submit ["takeoff"] []) []
  obtain ⟨absent, -⟩ :=
    operations_are_atomic (seeded { count := 1 } {} 16).1 "tello-2" (.submit ["takeoff"] []) []
  have offline : ((seeded { count := 1 } {} 16).1.bay? "tello-1").map (·.drone.connected) =
      some false := by decide +kernel
  obtain ⟨b, hb, hc⟩ := Option.map_eq_some_iff.mp offline
  have fails := (refused b hb .droneNotConnected).mpr (by rw [hc]; rfl)
  have stopped : (((Operation.submit ["takeoff"] []).effects "tello-1").on
      ⟨(seeded { count := 1 } {} 16).1, []⟩).1 = .error .droneNotConnected := by
    rw [same, fails]
    rfl
  exact ⟨Prod.ext stopped (unchanged _ stopped), (absent _).mpr ⟨rfl, by decide +kernel⟩⟩

end Fleet

end DroneFleet
