import Mathlib.Data.Fintype.Card
import Mathlib.Data.Fintype.EquivFin
import Mathlib.Logic.Relation
import DroneFleet.Proofs.Executors
import DroneFleet.Proofs.Injections
import DroneFleet.Proofs.Strides

/-!
# Runs that end

A zone or a correction makes the queue longer, so the length of the queue says nothing of how long a
run lasts. Its weight does: each command weighs more than all that it puts in front of the queue.
Zones that enter each other in a circle have no weight; all others do.

* `Zones.Weighs`          the weight of a queue
* `Zones.Weighs.apply`    every command makes the queue lighter
* `Zones.Grounded`        a zone from which no endless chain of zones is entered
* `Zones.exists_weight`   a queue that enters only such zones has a weight
* `Zones.Acyclic`         zones that do not enter each other in a circle: all of them are grounded
* `Flight.fly_to_end`     a run ends after no more commands than its queue weighs
* `Fleet.weight_after`    so it does among all else that happens to a fleet
* `Fleet.run_ends_of_acyclic`   both together, for zones that do not enter each other in a circle
-/

namespace DroneFleet

namespace Zones

/-! ## weights -/

/-- the commands of a queue weigh `n` in all: one each, a correction of the heading two, and a zone
with a script three more than the commands of its script -/
inductive Weighs (zs : Zones) : List String → Nat → Prop where
  | nil : Weighs zs [] 0
  | light {raw : String} {rest : List String} {n : Nat}
      (h : zs.Inert (.parse raw) ∨ Command.parse raw = .clear) (hr : Weighs zs rest n) :
    Weighs zs (raw :: rest) (1 + n)
  | correction {raw : String} {rest : List String} {n : Nat}
      (h : Command.parse raw = .resetDirection) (hr : Weighs zs rest n) :
    Weighs zs (raw :: rest) (2 + n)
  | zone {raw zone : String} {rest : List String} {m n : Nat}
      (h : Command.parse raw = .action (some zone)) (hz : zs.script zone ≠ [])
      (hm : Weighs zs (zs.script zone) m) (hr : Weighs zs rest n) :
    Weighs zs (raw :: rest) (3 + m + n)

variable {zs : Zones}

theorem Weighs.append {xs ys : List String} {m n : Nat} (hx : zs.Weighs xs m)
    (hy : zs.Weighs ys n) : zs.Weighs (xs ++ ys) (m + n) := by
  induction hx with
  | nil =>
    rw [Nat.zero_add]
    exact hy
  | light h _ ih =>
    rw [Nat.add_assoc]
    exact .light h ih
  | correction h _ ih =>
    rw [Nat.add_assoc]
    exact .correction h ih
  | zone h hz hm _ _ ih =>
    rw [Nat.add_assoc]
    exact .zone h hz hm ih

theorem weighs_of_inert {xs : List String} (h : ∀ raw ∈ xs, zs.Inert (.parse raw)) :
    zs.Weighs xs xs.length := by
  induction xs with
  | nil => exact .nil
  | cons raw xs ih =>
    have hx := ih fun q hq => h q (List.mem_cons_of_mem raw hq)
    rw [List.length_cons, Nat.add_comm]
    exact .light (Or.inl (h raw List.mem_cons_self)) hx

theorem Weighs.unique {xs : List String} {m n : Nat} (hm : zs.Weighs xs m) (hn : zs.Weighs xs n) :
    m = n := by
  induction hm generalizing n with
  | nil =>
    cases hn
    rfl
  | light h _ ih =>
    cases hn with
    | light _ hr => rw [ih hr]
    | correction h' _ =>
      rcases h with h | h
      · exact absurd h' h.ne_resetDirection
      · rw [h] at h'
        cases h'
    | zone h' hz _ _ =>
      rcases h with h | h
      · exact absurd (h.script_eq_nil _ h') hz
      · rw [h] at h'
        cases h'
  | correction h _ ih =>
    cases hn with
    | light h' _ =>
      rcases h' with h' | h'
      · exact absurd h h'.ne_resetDirection
      · rw [h] at h'
        cases h'
    | correction _ hr => rw [ih hr]
    | zone h' _ _ _ =>
      rw [h] at h'
      cases h'
  | zone h hz _ _ ihm ih =>
    cases hn with
    | light h' _ =>
      rcases h' with h' | h'
      · exact absurd (h'.script_eq_nil _ h) hz
      · rw [h] at h'
        cases h'
    | correction h' _ =>
      rw [h] at h'
      cases h'
    | zone h' _ hm' hr =>
      rw [h] at h'
      cases h'
      rw [ihm hm', ih hr]

/-- every command makes the queue lighter -/
theorem Weighs.apply (s : FlightSettings) {f : Flight} {raw : String} {rest : List String} {n : Nat}
    (h : f.drone.zones.Weighs (raw :: rest) n) :
    ∃ m, m < n ∧ ((f.pop raw rest).apply s (.parse raw)).drone.zones.Weighs
      ((f.pop raw rest).apply s (.parse raw)).drone.queue m := by
  have hz : (f.pop raw rest).drone.zones = f.drone.zones := rfl
  have hq : (f.pop raw rest).drone.queue = rest := rfl
  rw [Flight.zones_apply, hz]
  cases h with
  | @light _ _ n h hr =>
    rcases h with h | h
    · refine ⟨n, by omega, ?_⟩
      rw [Flight.queue_apply_of_inert s (hz ▸ h), hq]
      exact hr
    · refine ⟨0, by omega, ?_⟩
      rw [h]
      exact .nil
  | @correction _ _ n h hr =>
    -- there is a turn back in front of the queue, or not, and it weighs one
    have turn := weighs_of_inert (Flight.inert_correction s f.drone.zones (f.pop raw rest).drone)
    have short := Flight.length_correction_le s (f.pop raw rest).drone
    refine ⟨(Flight.injects s (f.pop raw rest).drone .resetDirection).length + n, by omega, ?_⟩
    rw [h, Flight.queue_apply s Command.noConfusion, hq]
    exact turn.append hr
  | @zone _ zone _ m n h hs hm hr =>
    have way := weighs_of_inert
      (Flight.inert_returnManeuver f.drone.zones (f.pop raw rest).drone s.returnSpeed)
    rw [Flight.length_returnManeuver] at way
    refine ⟨m + 2 + n, by omega, ?_⟩
    rw [h, Flight.queue_apply s Command.noConfusion, Flight.injects_action s (hz ▸ hs), hq, hz]
    exact (hm.append way).append hr

/-! ## zones that have a weight -/

/-- a zone from which no endless chain of zones is entered -/
def Grounded (zs : Zones) (zone : String) : Prop := Acc (fun y x => zs.Calls x y) zone

/-- a queue has a weight if the scripts of the zones it enters have one -/
theorem exists_weight_of_scripts {xs : List String}
    (h : ∀ raw ∈ xs, ∀ zone, Command.parse raw = .action (some zone) →
      ∃ m, zs.Weighs (zs.script zone) m) : ∃ n, zs.Weighs xs n := by
  induction xs with
  | nil => exact ⟨0, .nil⟩
  | cons raw xs ih =>
    obtain ⟨n, hn⟩ := ih fun q hq => h q (List.mem_cons_of_mem raw hq)
    rcases zs.kinds (.parse raw) with hc | hc | hc | ⟨zone, hc, hz⟩
    · exact ⟨_, .light (Or.inl hc) hn⟩
    · exact ⟨_, .light (Or.inr hc) hn⟩
    · exact ⟨_, .correction hc hn⟩
    · obtain ⟨m, hm⟩ := h raw List.mem_cons_self zone hc
      exact ⟨_, .zone hc hz hm hn⟩

theorem Grounded.exists_weight {zone : String} (h : zs.Grounded zone) :
    ∃ m, zs.Weighs (zs.script zone) m := by
  induction h with
  | intro zone _ ih =>
    refine exists_weight_of_scripts fun raw hraw entered hc => ?_
    cases he : zs.script? entered with
    | none =>
      rw [script_of_none he]
      exact ⟨0, .nil⟩
    | some script =>
      have registered : zs.script? entered ≠ none := by
        rw [he]
        exact Option.some_ne_none script
      exact ih entered ⟨registered, raw, hraw, hc⟩

theorem exists_weight {xs : List String}
    (h : ∀ raw ∈ xs, ∀ zone, Command.parse raw = .action (some zone) → zs.Grounded zone) :
    ∃ n, zs.Weighs xs n :=
  exists_weight_of_scripts fun raw hraw zone hc => (h raw hraw zone hc).exists_weight

/-! ## circles -/

/-- no zone enters itself, be it through others -/
def Acyclic (zs : Zones) : Prop := ∀ zone, ¬ Relation.TransGen zs.Calls zone zone

def names (zs : Zones) : List String := zs.map Prod.fst

theorem mem_names {zone : String} (h : zs.script? zone ≠ none) : zone ∈ zs.names := by
  obtain ⟨script, hs⟩ := Option.ne_none_iff_exists'.mp h
  exact List.mem_map_of_mem (mem_of_script? hs)

/-- there are only so many zones, so a chain of them comes to an end or closes -/
theorem Acyclic.grounded (h : zs.Acyclic) (zone : String) : zs.Grounded zone := by
  let below (y x : {name // name ∈ zs.names}) : Prop := Relation.TransGen zs.Calls x y
  have trans : IsTrans _ below := ⟨fun _ _ _ hxy hyz => Relation.TransGen.trans hyz hxy⟩
  have irrefl : Std.Irrefl below := ⟨fun x => h x⟩
  have wf : WellFounded below := Finite.wellFounded_of_trans_of_irrefl below
  have registered : ∀ x : {name // name ∈ zs.names}, zs.Grounded x := by
    intro x
    induction x using wf.induction with
    | _ x ih =>
      exact Acc.intro _ fun y hy => ih ⟨y, mem_names hy.1⟩ (Relation.TransGen.single hy)
  exact Acc.intro _ fun y hy => registered ⟨y, mem_names hy.1⟩

theorem Grounded.not_circle {zone : String} (h : zs.Grounded zone) :
    ¬ Relation.TransGen zs.Calls zone zone := by
  induction h with
  | intro zone _ ih =>
    intro circle
    obtain ⟨next, call, back⟩ := Relation.TransGen.head'_iff.mp circle
    exact ih next call (Relation.TransGen.tail' back call)

end Zones

/-! ## runs -/

namespace Flight

/-- **A run ends after no more commands than its queue weighs.** -/
theorem fly_to_end (s : FlightSettings) {f : Flight} {n : Nat}
    (h : f.drone.zones.Weighs f.drone.queue n) :
    ∃ m xs g, m ≤ n ∧ f.fly s m = some (xs, g) ∧ g.drone.queue = [] := by
  induction n using Nat.strong_induction_on generalizing f with
  | _ n ih =>
    cases hq : f.drone.queue with
    | nil => exact ⟨0, [], f, Nat.zero_le n, rfl, hq⟩
    | cons raw rest =>
      rw [hq] at h
      obtain ⟨k, hk, hw⟩ := h.apply s
      obtain ⟨m, xs, g, hm, hf, hg⟩ := ih k hk hw
      have first := fly_succ_of_some (n := m) (stride?_of_cons (s := s) hq)
      rw [hf] at first
      exact ⟨m + 1, _, g, by omega, first, hg⟩

end Flight

namespace Bay

def Event.isStep (serial : Nat) : Event → Bool
  | .step n => n = serial
  | _ => false

/-- a run is under way: it was seen `seen` times, and with what its queue weighs that makes no more
than `n` -/
structure Aloft (b : Bay) (serial seen n : Nat) : Prop where
  run : ∃ r, b.runs = [r] ∧ r.serial = serial
  weight : ∃ m, b.drone.zones.Weighs b.drone.queue m ∧ seen + m ≤ n

/-- no run is under way, and there is nothing to do for one -/
structure Landed (b : Bay) : Prop where
  runs : b.runs = []
  queue : b.drone.queue = []

section
variable {s : FlightSettings} {now serial seen n : Nat} {b c : Bay} {v : Event} {rep : Report}

/-- what happens to a drone with a run: it goes on, and every step that it takes is seen, or that
step was the last -/
theorem Aloft.move (h : b.Aloft serial seen n) (m : b.Moves s now v c rep)
    (hv : ∀ path zones, v ≠ .submit path zones) :
    (c.Aloft serial (seen + rep.published.length) n ∧
        rep.published.length = (v.isStep serial).toNat) ∨
      (c.Landed ∧ b.drone.queue = [] ∧ c.drone = b.drone.finish ∧
        rep.published = [(now, b.drone.finish.snapshot)]) := by
  obtain ⟨r, hr, hs⟩ := h.run
  obtain ⟨k, hk, hn⟩ := h.weight
  cases m with
  | refused hrefused =>
    refine Or.inl ⟨h, ?_⟩
    cases v with
    | step other =>
      have hne : r.serial ≠ other := hrefused r (hr ▸ List.mem_singleton_self r)
      show 0 = (decide (other = serial)).toNat
      rw [decide_eq_false fun e => hne (hs.trans e.symm)]
      rfl
    | _ => rfl
  | connect _ => exact Or.inl ⟨⟨⟨r, hr, hs⟩, ⟨k, hk, hn⟩⟩, rfl⟩
  | disconnect _ =>
    refine Or.inl ⟨⟨⟨r, hr, hs⟩, ⟨0, .nil, ?_⟩⟩, rfl⟩
    show seen + 0 + 0 ≤ n
    omega
  | launch _ _ => exact absurd rfl (hv _ _)
  | supersede _ _ => exact absurd rfl (hv _ _)
  | @execute q raw rest hq hqueue =>
    rw [hr] at hq
    obtain rfl := List.mem_singleton.mp hq
    rw [hqueue] at hk
    obtain ⟨l, hl, hw⟩ := Zones.Weighs.apply (f := b.flight q) s hk
    refine Or.inl ⟨⟨⟨paused now ((Command.parse raw).pause s) (b.executed s q raw rest).zone q,
      ?_, hs⟩, ⟨l, hw, ?_⟩⟩, ?_⟩
    · show sleeping _ _ (without q.serial b.runs) = _
      rw [hr, without_self, sleeping_nil]
    · show seen + 1 + l ≤ n
      omega
    · show 1 = (decide (q.serial = serial)).toNat
      rw [decide_eq_true hs]
      rfl
  | @complete q hq hqueue =>
    rw [hr] at hq
    obtain rfl := List.mem_singleton.mp hq
    refine Or.inr ⟨⟨?_, hqueue⟩, hqueue, rfl, rfl⟩
    show without q.serial b.runs = []
    rw [hr, without_self]

theorem Landed.move (h : b.Landed) (m : b.Moves s now v c rep)
    (hv : ∀ path zones, v ≠ .submit path zones) : c.Landed ∧ rep.published = [] := by
  cases m with
  | refused _ => exact ⟨h, rfl⟩
  | connect _ => exact ⟨⟨h.runs, h.queue⟩, rfl⟩
  | disconnect _ => exact ⟨⟨h.runs, rfl⟩, rfl⟩
  | launch _ _ => exact absurd rfl (hv _ _)
  | supersede _ _ => exact absurd rfl (hv _ _)
  | execute hr _ =>
    rw [h.runs] at hr
    cases hr
  | complete hr _ =>
    rw [h.runs] at hr
    cases hr

end

end Bay

namespace Fleet

/-- an event that gives a drone nothing new to do -/
def Event.Spares (id : String) (e : Event) : Prop :=
  ∀ path zones, e.toward id ≠ some (.submit path zones)

def Event.isStep (id : String) (serial : Nat) (e : Event) : Bool :=
  (e.toward id).any fun v => v.isStep serial

/-- what is seen is the end of a flight: nothing is left to do -/
def Sighting.Ends (x : Sighting) : Prop :=
  ∃ d : Drone, d.queue = [] ∧ x.told = d.finish.snapshot ∧ x.drone = d.finish

section
variable {f : Fleet} {id : String} {b : Bay} {serial seen n : Nat}

theorem respond_of_aloft (hb : f.bay? id = some b) (h : b.Aloft serial seen n) {e : Event}
    (he : e.Spares id) :
    ∃ c, (f.respond e).1.bay? id = some c ∧
      ((c.Aloft serial (seen + (f.sighted id e).length) n ∧
          (f.sighted id e).length = (e.isStep id serial).toNat) ∨
        (c.Landed ∧ ∃ x, f.sighted id e = [x] ∧ x.Ends)) := by
  cases ht : e.toward id with
  | none =>
    refine ⟨b, (bay?_respond_of_toward ht).trans hb, Or.inl ?_⟩
    rw [sighted_of_toward ht]
    unfold Event.isStep
    rw [ht]
    exact ⟨h, rfl⟩
  | some v =>
    obtain rfl := Event.eq_visit ht
    have hv : ∀ path zones, v ≠ .submit path zones := fun path zones e =>
      he path zones (ht.trans (congrArg some e))
    refine ⟨_, (replaced_respond hb v).1.here, ?_⟩
    rw [sighted_visit hb v, List.length_map]
    rcases h.move (Bay.moves_respond f.settings f.clock b v) hv with h | ⟨hl, hq, hd, hp⟩
    · unfold Event.isStep
      rw [ht]
      exact Or.inl h
    · refine Or.inr ⟨hl, ⟨f.clock, b.drone.finish.snapshot, b.drone.finish⟩, ?_, b.drone, hq, rfl,
        rfl⟩
      rw [hp, hd]
      rfl

theorem after_of_landed (hb : f.bay? id = some b) (h : b.Landed) {es : List Event}
    (he : ∀ e ∈ es, e.Spares id) :
    f.sightings id es = [] ∧ ∃ c, (f.after es).bay? id = some c ∧ c.Landed := by
  induction es generalizing f b with
  | nil => exact ⟨rfl, b, hb, h⟩
  | cons e es ih =>
    have hes : ∀ e ∈ es, e.Spares id := fun e h => he e (List.mem_cons_of_mem _ h)
    rw [sightings_cons, after_cons]
    cases ht : e.toward id with
    | none =>
      rw [sighted_of_toward ht, List.nil_append]
      exact ih ((bay?_respond_of_toward ht).trans hb) h hes
    | some v =>
      obtain rfl := Event.eq_visit ht
      have hv : ∀ path zones, v ≠ .submit path zones := fun path zones e =>
        he _ List.mem_cons_self path zones (ht.trans (congrArg some e))
      obtain ⟨hl, hp⟩ := h.move (Bay.moves_respond f.settings f.clock b v) hv
      rw [sighted_visit hb v, hp]
      exact ih (replaced_respond hb v).1.here hl hes

/-- the run of a drone among all else that happens to a fleet: it is under way, and was seen as
often as it took a step, or it is over -/
theorem weight_after (hb : f.bay? id = some b) (h : b.Aloft serial seen n) {es : List Event}
    (he : ∀ e ∈ es, e.Spares id) :
    ∃ c, (f.after es).bay? id = some c ∧
      ((c.Aloft serial (seen + (f.sightings id es).length) n ∧
          (f.sightings id es).length = es.countP (Event.isStep id serial)) ∨
        (c.Landed ∧ ∃ xs x, f.sightings id es = xs ++ [x] ∧ seen + xs.length ≤ n ∧ x.Ends)) := by
  induction es generalizing f b seen with
  | nil => exact ⟨b, hb, Or.inl ⟨h, rfl⟩⟩
  | cons e es ih =>
    have hes : ∀ e ∈ es, e.Spares id := fun e h => he e (List.mem_cons_of_mem _ h)
    obtain ⟨c, hc, ⟨ha, hl⟩ | ⟨hlanded, x, hx, hends⟩⟩ :=
      respond_of_aloft hb h (he e List.mem_cons_self)
    · obtain ⟨d, hd, hrest⟩ := ih hc ha hes
      refine ⟨d, hd, ?_⟩
      rw [sightings_cons, List.length_append, List.countP_cons, ← Nat.add_assoc]
      rcases hrest with ⟨ha', hl'⟩ | ⟨hlanded, xs, x, hx, hn, hends⟩
      · refine Or.inl ⟨ha', ?_⟩
        rw [hl, hl', Nat.add_comm]
        cases e.isStep id serial <;> rfl
      · refine Or.inr ⟨hlanded, f.sighted id e ++ xs, x, ?_, ?_, hends⟩
        · rw [hx, List.append_assoc]
        · rw [List.length_append]
          omega
    · obtain ⟨hn, d, hd, hlanded'⟩ := after_of_landed hc hlanded hes
      obtain ⟨m, -, hm⟩ := h.weight
      refine ⟨d, hd, Or.inr ⟨hlanded', [], x, ?_, ?_, hends⟩⟩
      · rw [sightings_cons, hn, hx]
        rfl
      · show seen + 0 ≤ n
        omega

end

/-- **A run ends if its zones do not enter each other in a circle.** Then every queue has a weight.
A run on it has no more commands than that, and among all else that happens to a fleet it is over
once it took one step more. -/
theorem run_ends_of_acyclic {zs : Zones} (h : zs.Acyclic) (queue : List String) :
    ∃ n, zs.Weighs queue n ∧ (∀ m, zs.Weighs queue m → m = n) ∧
      (∀ (s : FlightSettings) (f : Flight), f.drone.zones = zs → f.drone.queue = queue →
        ∃ m xs g, m ≤ n ∧ f.fly s m = some (xs, g) ∧ g.drone.queue = [] ∧
          g.step s = .complete g.drone.finish) ∧
      ∀ (f : Fleet) (id : String) (b : Bay) (r : Run), f.bay? id = some b → b.runs = [r] →
        b.drone.zones = zs → b.drone.queue = queue →
        ∀ es, (∀ e ∈ es, e.Spares id) →
          (f.sightings id es).length ≤ n + 1 ∧
          (n < es.countP (Event.isStep id r.serial) →
            ∃ xs x c, f.sightings id es = xs ++ [x] ∧ xs.length ≤ n ∧ x.Ends ∧
              (f.after es).bay? id = some c ∧ c.runs = [] ∧ c.drone.queue = []) := by
  have weight : ∃ n, zs.Weighs queue n := Zones.exists_weight fun _ _ zone _ => h.grounded zone
  obtain ⟨n, hn⟩ := weight
  refine ⟨n, hn, fun m hm => hm.unique hn, ?_, ?_⟩
  · rintro s f rfl rfl
    obtain ⟨m, xs, g, hm, hf, hg⟩ := Flight.fly_to_end s hn
    exact ⟨m, xs, g, hm, hf, hg, Flight.step_of_nil hg⟩
  · rintro f id b r hb hr rfl rfl es he
    have aloft : b.Aloft r.serial 0 n := ⟨⟨r, hr, rfl⟩, ⟨n, hn, by omega⟩⟩
    obtain ⟨c, hc, ⟨ha, hl⟩ | ⟨hlanded, xs, x, hx, hxs, hends⟩⟩ := weight_after hb aloft he
    · obtain ⟨m, -, hm⟩ := ha.weight
      exact ⟨by omega, fun hlate => by omega⟩
    · have length : (f.sightings id es).length = xs.length + 1 := by
        rw [hx, List.length_append]
        rfl
      exact ⟨by omega, fun _ =>
        ⟨xs, x, c, hx, by omega, hends, hc, hlanded.runs, hlanded.queue⟩⟩

/-- a zone within a zone, and a correction of the heading after it -/
theorem run_ends_of_zone_in_zone :
    ∃ zs : Zones, zs = [("outer", ["action inner", "cw 90"]), ("inner", ["up 10"])] ∧ zs.Acyclic ∧
      zs.Weighs ["action outer", "reset-dir"] 10 ∧
      ∃ (f : Flight) (m : Nat) (xs : List Flight.Stride) (g : Flight),
        f.drone.zones = zs ∧ f.drone.queue = ["action outer", "reset-dir"] ∧ m ≤ 10 ∧
          f.fly {} m = some (xs, g) ∧ g.drone.queue = [] := by
  let zs : Zones := [("outer", ["action inner", "cw 90"]), ("inner", ["up 10"])]
  have up : Command.parse "up 10" = .move .up (Command.distance ["10"]) := rfl
  have turn : Command.parse "cw 90" = .rotate true (some 90) := rfl
  have quiet : zs.Inert (.parse "up 10") ∧ zs.Inert (.parse "cw 90") := by
    rw [up, turn]
    exact ⟨⟨nofun, nofun, nofun⟩, ⟨nofun, nofun, nofun⟩⟩
  have calls : ∀ x y, zs.Calls x y → x = "outer" ∧ y = "inner" := by
    intro x y call
    obtain ⟨-, raw, hraw, hc⟩ := call
    obtain ⟨script, hs, hraw⟩ := Zones.exists_of_mem_script hraw
    simp only [zs, List.mem_cons, List.not_mem_nil, or_false, Prod.mk.injEq] at hs
    rcases hs with ⟨hx, rfl⟩ | ⟨hx, rfl⟩
    · rcases List.mem_cons.mp hraw with rfl | hraw
      · exact ⟨hx, (Option.some.inj (Command.action.inj hc)).symm⟩
      · rw [List.mem_singleton.mp hraw, turn] at hc
        exact Command.noConfusion hc
    · rw [List.mem_singleton.mp hraw, up] at hc
      exact Command.noConfusion hc
  have acyclic : zs.Acyclic := by
    intro zone circle
    obtain ⟨next, call, back⟩ := Relation.TransGen.head'_iff.mp circle
    obtain ⟨rfl, rfl⟩ := calls _ _ call
    rcases Relation.ReflTransGen.cases_head back with h | ⟨c, h, -⟩
    · exact absurd h (by decide)
    · exact absurd (calls _ _ h).1 (by decide)
  have inner : zs.Weighs (zs.script "inner") 1 := .light (Or.inl quiet.1) .nil
  have outer : zs.Weighs (zs.script "outer") 5 :=
    .zone rfl (show zs.script "inner" ≠ [] from List.cons_ne_nil _ _) inner
      (.light (Or.inl quiet.2) .nil)
  have weight : zs.Weighs ["action outer", "reset-dir"] 10 :=
    .zone rfl (show zs.script "outer" ≠ [] from List.cons_ne_nil _ _) outer (.correction rfl .nil)
  obtain ⟨n, -, unique, alone, -⟩ := run_ends_of_acyclic acyclic ["action outer", "reset-dir"]
  let f : Flight := ⟨{ Drone.new "tello-1" "127.0.0.101" 4500 100 with
    zones := zs, queue := ["action outer", "reset-dir"] }, none⟩
  obtain ⟨m, xs, g, hm, hf, hg, -⟩ := alone {} f rfl rfl
  rw [← unique 10 weight] at hm
  exact ⟨zs, rfl, acyclic, weight, f, m, xs, g, rfl, rfl, hm, hf, hg⟩

end Fleet

end DroneFleet
