import DroneFleet.Proofs.Weights

/-!
# Runs that do not end

A zone that enters itself, be it through others, is worked off by entering it again, and each time
the rest of its script and the way back stay behind. What comes first in its script may be other
zones, but those that come to an end do so, and one that does not takes the place of the zone. So
the queue grows without bound, and nothing behind the zone is ever executed.

* `Zones.Endless`     a command that enters a zone which is not grounded
* `Zones.Harmless`    a command after which nothing clears the queue
* `Flight.fly_round`  a run on an endless command comes to another one, with more behind it
* `Flight.fly_rounds` so it does as often as one likes
* `Fleet.journey`     what a run on its own does, it does among all that happens to a fleet
* `Fleet.recursive_zones_never_finish`   no end, no bound, and no turn for what is behind
-/

namespace DroneFleet

namespace Zones

variable {zs : Zones} {zone : String}

/-! ## zones without an end -/

/-- a command that enters a zone which is not grounded -/
def Endless (zs : Zones) (raw : String) : Prop :=
  ∃ zone, Command.parse raw = .action (some zone) ∧ ¬ zs.Grounded zone

theorem exists_call_of_not_grounded (h : ¬ zs.Grounded zone) :
    ∃ next, zs.Calls zone next ∧ ¬ zs.Grounded next := by
  by_contra none
  refine h (Acc.intro zone fun next call => ?_)
  by_contra hn
  exact none ⟨next, call, hn⟩

theorem script_ne_nil_of_calls {next : String} (h : zs.Calls zone next) : zs.script zone ≠ [] := by
  obtain ⟨-, raw, hraw, -⟩ := h
  exact List.ne_nil_of_mem hraw

/-- the script of a zone that is not grounded: commands that come to an end, and then one that does
not -/
theorem exists_endless_in_script (h : ¬ zs.Grounded zone) :
    ∃ front raw back n, zs.script zone = front ++ raw :: back ∧ zs.Endless raw ∧
      zs.Weighs front n := by
  classical
  obtain ⟨next, ⟨-, raw, hraw, hc⟩, hn⟩ := exists_call_of_not_grounded h
  -- cut the script at the first command without an end
  cases hf : (zs.script zone).find? fun c => decide (zs.Endless c) with
  | none =>
    have ends := List.find?_eq_none.mp hf raw hraw
    exact absurd ⟨next, hc, hn⟩ (of_decide_eq_false (Bool.not_eq_true _ ▸ ends))
  | some first =>
    obtain ⟨hfirst, front, back, hs, hfront⟩ := List.find?_eq_some_iff_append.mp hf
    have grounded : ∀ c ∈ front, ∀ entered, Command.parse c = .action (some entered) →
        zs.Grounded entered := by
      intro c hcf entered hce
      by_contra hg
      have ends : ¬ zs.Endless c := by simpa using hfront c hcf
      exact ends ⟨entered, hce, hg⟩
    obtain ⟨n, hw⟩ := exists_weight grounded
    exact ⟨front, first, back, n, hs, of_decide_eq_true hfirst, hw⟩

/-! ## zones that clear nothing -/

/-- nothing clears the queue in the scripts that one comes to from a zone -/
def ClearFree (zs : Zones) (zone : String) : Prop :=
  ∀ reached, Relation.ReflTransGen zs.Calls zone reached →
    ∀ raw ∈ zs.script reached, Command.parse raw ≠ .clear

/-- a command after which nothing clears the queue, be it itself or what it puts in front -/
structure Harmless (zs : Zones) (raw : String) : Prop where
  ne_clear : Command.parse raw ≠ .clear
  clearFree : ∀ zone, Command.parse raw = .action (some zone) → zs.ClearFree zone

theorem clearFree_of_script_nil (h : zs.script zone = []) : zs.ClearFree zone := by
  intro reached path raw hraw
  rcases Relation.ReflTransGen.cases_head path with rfl | ⟨next, call, -⟩
  · rw [h] at hraw
    cases hraw
  · exact absurd h (script_ne_nil_of_calls call)

theorem Inert.harmless {raw : String} (h : zs.Inert (.parse raw)) : zs.Harmless raw where
  ne_clear := h.ne_clear
  clearFree zone hc := clearFree_of_script_nil (h.script_eq_nil zone hc)

theorem ClearFree.harmless (h : zs.ClearFree zone) : ∀ raw ∈ zs.script zone, zs.Harmless raw := by
  intro raw hraw
  refine ⟨h zone .refl raw hraw, fun next hc => ?_⟩
  cases hn : zs.script? next with
  | none => exact clearFree_of_script_nil (script_of_none hn)
  | some script =>
    have call : zs.Calls zone next := ⟨by rw [hn]; exact Option.some_ne_none script, raw, hraw, hc⟩
    exact fun reached path => h reached (path.head call)

end Zones

namespace Flight

variable {s : FlightSettings} {f g : Flight} {raw : String} {rest : List String}

/-! ## what a run keeps -/

theorem zones_of_stride? {x : Stride} (h : f.stride? s = some (x, g)) :
    g.drone.zones = f.drone.zones := by
  obtain ⟨rest, -, rfl⟩ := queue_of_stride? h
  exact zones_apply s _ _

theorem harmless_apply (hq : ∀ c ∈ raw :: rest, f.drone.zones.Harmless c) :
    ∀ c ∈ ((f.pop raw rest).apply s (.parse raw)).drone.queue, f.drone.zones.Harmless c := by
  have first := hq raw List.mem_cons_self
  have others : ∀ c ∈ rest, f.drone.zones.Harmless c := fun c hc =>
    hq c (List.mem_cons_of_mem raw hc)
  rw [queue_apply s first.ne_clear]
  intro c hc
  rcases List.mem_append.mp hc with hc | hc
  · rcases f.drone.zones.kinds (.parse raw) with hi | hi | hi | ⟨zone, hi, hz⟩
    · rw [injects_of_inert s (show (f.pop raw rest).drone.zones.Inert _ from hi)] at hc
      cases hc
    · exact absurd hi first.ne_clear
    · rw [hi] at hc
      exact (inert_correction s f.drone.zones _ c hc).harmless
    · rw [hi, injects_action s (show (f.pop raw rest).drone.zones.script zone ≠ [] from hz)] at hc
      rcases List.mem_append.mp hc with hc | hc
      · exact (first.clearFree zone hi).harmless c hc
      · exact (inert_returnManeuver f.drone.zones _ _ c hc).harmless
  · exact others c hc

theorem harmless_fly {n : Nat} {xs : List Stride} (h : f.fly s n = some (xs, g))
    (hq : ∀ c ∈ f.drone.queue, f.drone.zones.Harmless c) :
    g.drone.zones = f.drone.zones ∧ (∀ x ∈ xs, ¬ x.Clears) ∧
      ∀ c ∈ g.drone.queue, g.drone.zones.Harmless c := by
  induction n generalizing f xs with
  | zero =>
    cases h
    exact ⟨rfl, fun x hx => absurd hx List.not_mem_nil, hq⟩
  | succ n ih =>
    obtain ⟨x, m, ys, hx, hm, rfl⟩ := exists_of_fly_succ h
    have zones := zones_of_stride? hx
    obtain ⟨rest, hqueue, happly⟩ := queue_of_stride? hx
    rw [hqueue] at hq
    have after : ∀ c ∈ m.drone.queue, m.drone.zones.Harmless c := by
      rw [zones, happly]
      exact harmless_apply hq
    obtain ⟨hz, hxs, hg⟩ := ih hm after
    refine ⟨hz.trans zones, fun y hy => ?_, hg⟩
    rcases List.mem_cons.mp hy with rfl | hy
    · exact (hq y.command List.mem_cons_self).ne_clear
    · exact hxs y hy

/-! ## rounds -/

theorem length_of_fly {n : Nat} {xs : List Stride} (h : f.fly s n = some (xs, g)) :
    xs.length = n := by
  induction n generalizing f xs with
  | zero =>
    cases h
    rfl
  | succ n ih =>
    obtain ⟨x, m, ys, -, hm, rfl⟩ := exists_of_fly_succ h
    rw [List.length_cons, ih hm]

theorem exists_of_fly_add {n m : Nat} {xs : List Stride} (h : f.fly s (n + m) = some (xs, g)) :
    ∃ ys k zs, f.fly s n = some (ys, k) ∧ k.fly s m = some (zs, g) ∧ xs = ys ++ zs := by
  induction n generalizing f xs with
  | zero =>
    rw [Nat.zero_add] at h
    exact ⟨[], f, xs, rfl, h, rfl⟩
  | succ n ih =>
    rw [Nat.succ_add] at h
    obtain ⟨x, k, ys, hx, hk, rfl⟩ := exists_of_fly_succ h
    obtain ⟨ys, l, zs, hl, hm, rfl⟩ := ih hk
    refine ⟨x :: ys, l, zs, ?_, hm, rfl⟩
    rw [fly_succ_of_some hx, hl]
    rfl

theorem onto_of_append {front back : List String} (hq : f.drone.queue = front ++ back) :
    ({ f with drone := { f.drone with queue := front } } : Flight).onto back = f := by
  have h : f = { f with drone := { f.drone with queue := front ++ back } } := by rw [← hq]
  rw [h]
  rfl

/-- the flight on a single command -/
def alone (raw : String) (f : Flight) : Flight :=
  { f with drone := { f.drone with queue := [raw] } }

theorem alone_onto (hq : f.drone.queue = raw :: rest) : (f.alone raw).onto rest = f := by
  have split : f.drone.queue = [raw] ++ rest := hq
  exact onto_of_append split

/-- the front of a queue comes to an end if it has a weight, and leaves the back -/
theorem fly_front (s : FlightSettings) {front back : List String} {n : Nat}
    (hq : f.drone.queue = front ++ back) (hw : f.drone.zones.Weighs front n)
    (hh : ∀ c ∈ f.drone.queue, f.drone.zones.Harmless c) :
    ∃ m xs g, f.fly s m = some (xs, g) ∧ g.drone.queue = back := by
  let start : Flight := { f with drone := { f.drone with queue := front } }
  have quiet : ∀ c ∈ start.drone.queue, start.drone.zones.Harmless c := fun c hc =>
    hh c (by rw [hq]; exact List.mem_append_left back hc)
  have weight : start.drone.zones.Weighs start.drone.queue n := hw
  obtain ⟨m, xs, g, -, hf, hg⟩ := fly_to_end s weight
  obtain ⟨-, kept, -⟩ := harmless_fly hf quiet
  refine ⟨m, xs, g.onto back, ?_, ?_⟩
  · rw [← onto_of_append hq]
    exact fly_onto back hf kept
  · show g.drone.queue ++ back = back
    rw [hg, List.nil_append]

/-- a flight on a command that does not come to an end, where nothing clears the queue -/
structure Circling (f : Flight) (raw : String) : Prop where
  endless : f.drone.zones.Endless raw
  harmless : ∀ c ∈ f.drone.queue, f.drone.zones.Harmless c

/-- **A run on an endless command comes to another one, with more behind it.** -/
theorem fly_round (s : FlightSettings) (h : f.Circling raw) (hq : f.drone.queue = [raw]) :
    ∃ n xs g next back, f.fly s (n + 1) = some (xs, g) ∧ g.Circling next ∧
      g.drone.queue = next :: back ∧ 2 ≤ back.length := by
  obtain ⟨zone, hc, hz⟩ := h.endless
  obtain ⟨front, next, back, n, hs, hnext, hw⟩ := Zones.exists_endless_in_script hz
  -- the zone is entered: its script, and the way back behind it
  let entered : Flight := (f.pop raw []).apply s (.parse raw)
  let way := returnManeuver (f.pop raw []).drone s.returnSpeed
  have zones : entered.drone.zones = f.drone.zones := zones_apply s _ _
  have queue : entered.drone.queue = front ++ (next :: (back ++ way)) := by
    have hn : (f.pop raw []).drone.zones.script zone ≠ [] := by
      show f.drone.zones.script zone ≠ []
      rw [hs]
      exact List.append_ne_nil_of_right_ne_nil front (List.cons_ne_nil next back)
    show ((f.pop raw []).apply s (.parse raw)).drone.queue = _
    rw [hc, queue_apply s Command.noConfusion, injects_action s hn]
    show (f.drone.zones.script zone ++ way) ++ [] = _
    rw [hs, List.append_nil, List.append_assoc]
    rfl
  have harmless : ∀ c ∈ entered.drone.queue, entered.drone.zones.Harmless c := by
    rw [zones]
    exact harmless_apply fun c hc => h.harmless c (hq ▸ hc)
  have weight : entered.drone.zones.Weighs front n := by
    rw [zones]
    exact hw
  -- what comes first in the script comes to an end
  obtain ⟨m, xs, g, run, hg⟩ := fly_front s queue weight harmless
  obtain ⟨hgz, -, hgh⟩ := harmless_fly run harmless
  have round := fly_succ_of_some (n := m) (stride?_of_cons (s := s) hq)
  rw [run] at round
  refine ⟨m, _, g, next, back ++ way, round, ⟨?_, hgh⟩, hg, ?_⟩
  · rw [hgz, zones]
    exact hnext
  · rw [List.length_append, length_returnManeuver]
    omega

/-- each round leaves two commands behind at least -/
theorem fly_rounds (s : FlightSettings) (h : f.Circling raw) (hq : f.drone.queue = [raw])
    (k : Nat) :
    ∃ n xs g next back, k ≤ n ∧ f.fly s n = some (xs, g) ∧ g.Circling next ∧
      g.drone.queue = next :: back ∧ 2 * k ≤ back.length := by
  induction k with
  | zero => exact ⟨0, [], f, raw, [], Nat.le_refl 0, rfl, h, hq, Nat.zero_le _⟩
  | succ k ih =>
    obtain ⟨n, xs, g, next, back, hn, hf, hg, hgq, hback⟩ := ih
    have circling : (g.alone next).Circling next := by
      refine ⟨hg.endless, fun c hc => ?_⟩
      rw [List.mem_singleton.mp hc]
      exact hg.harmless next (hgq ▸ List.mem_cons_self)
    obtain ⟨m, ys, l, last, more, hm, hl, hlq, hmore⟩ := fly_round s circling rfl
    obtain ⟨-, kept, -⟩ := harmless_fly hm circling.harmless
    have run : g.fly s (m + 1) = some (ys, l.onto back) := by
      rw [← alone_onto hgq]
      exact fly_onto back hm kept
    obtain ⟨-, -, quiet⟩ := harmless_fly run hg.harmless
    have all := fly_add hf (m + 1)
    rw [run] at all
    refine ⟨n + (m + 1), _, l.onto back, last, more ++ back, by omega, all, ⟨hl.endless, quiet⟩, ?_,
      ?_⟩
    · show l.drone.queue ++ back = _
      rw [hlq]
      rfl
    · rw [List.length_append]
      omega

theorem fly_of_circling (s : FlightSettings) (h : f.Circling raw) (hq : f.drone.queue = [raw])
    (n : Nat) : ∃ xs g, f.fly s n = some (xs, g) ∧ g.drone.queue ≠ [] := by
  obtain ⟨m, xs, g, -, -, hm, hf, -⟩ := fly_rounds s h hq (n + 1)
  obtain ⟨d, rfl⟩ := Nat.exists_eq_add_of_le hm
  rw [Nat.add_assoc] at hf
  obtain ⟨ys, k, zs, hk, hrest, -⟩ := exists_of_fly_add hf
  refine ⟨ys, k, hk, fun empty => ?_⟩
  rw [Nat.add_comm, fly_of_queue_nil empty] at hrest
  cases hrest

end Flight

namespace Fleet

section
variable {f : Fleet} {id : String} {b : Bay} {r : Run}

theorem Event.eq_of_isStep {e : Event} {serial : Nat} (h : e.isStep id serial = true) :
    e = .visit id (.step serial) := by
  unfold isStep at h
  cases ht : e.toward id with
  | none =>
    rw [ht] at h
    cases h
  | some v =>
    rw [ht] at h
    cases v with
    | step n =>
      have hn : n = serial := of_decide_eq_true h
      rw [Event.eq_visit ht, hn]
    | _ => cases h

theorem Event.isStep_self (id : String) (serial : Nat) :
    (Event.visit id (.step serial)).isStep id serial = true := by
  simp [isStep, toward, Bay.Event.isStep]

/-- what a run on its own does, it does among all that happens to a fleet, as often as it takes a
step -/
theorem journey (hb : f.bay? id = some b) (hc : b.drone.connected = true) (hr : b.runs = [r])
    {es : List Event} (he : ∀ e ∈ es, e.Keeps id) {xs : List Flight.Stride} {g : Flight}
    (hf : (b.flight r).fly f.settings (es.countP (Event.isStep id r.serial)) = some (xs, g)) :
    ∃ q, (f.after es).bay? id = some { b with drone := g.drone, runs := [q] } ∧
      q.serial = r.serial ∧ q.zone = g.zone ∧
      (f.sightings id es).map Sighting.told = xs.map Flight.Stride.snapshot := by
  induction es generalizing f b r xs with
  | nil =>
    cases hf
    refine ⟨r, ?_, rfl, rfl, rfl⟩
    show f.bay? id = some { b with drone := b.drone, runs := [r] }
    rw [hb, ← hr]
  | cons e es ih =>
    have hes : ∀ e ∈ es, e.Keeps id := fun e h => he e (List.mem_cons_of_mem _ h)
    rw [List.countP_cons] at hf
    rw [sightings_cons, after_cons]
    rcases keeps_cases hb hc (he e List.mem_cons_self) with ⟨hb', hn⟩ | ⟨q, hq, rfl⟩
    · -- nothing is seen, so the run took no step
      have still : ¬ e.isStep id r.serial = true := fun hs => by
        rw [Event.eq_of_isStep hs] at hn
        exact sighted_step_ne_nil hb hr hn
      rw [if_neg still, ← settings_respond f e] at hf
      rw [hn, List.nil_append]
      exact ih hb' hc hr hes hf
    · rw [hr] at hq
      obtain rfl := List.mem_singleton.mp hq
      rw [if_pos (Event.isStep_self id q.serial)] at hf
      obtain ⟨x, m, ys, hx, hm, rfl⟩ := Flight.exists_of_fly_succ hf
      cases hqueue : b.drone.queue with
      | nil =>
        rw [Flight.stride?_of_nil hqueue] at hx
        cases hx
      | cons raw rest =>
        have first : (b.flight q).stride? f.settings = _ := Flight.stride?_of_cons hqueue
        rw [first] at hx
        cases hx
        obtain ⟨hb', hn⟩ := visit_step_of_cons hb hr hqueue
        have hc' : (b.executed f.settings q raw rest).drone.connected = true :=
          (congrArg Drone.Standing.connected (Bay.standing_executed q raw rest)).trans hc
        obtain ⟨p, hp, hps, hpz, htold⟩ := ih hb' hc' rfl hes (by rw [settings_respond]; exact hm)
        refine ⟨p, hp, hps, hpz, ?_⟩
        rw [hn, List.map_append, htold]
        rfl

end

end Fleet

/-! ## recursive zones -/

namespace Zones

/-- a command that enters a zone of a circle, from which one comes to no clear -/
structure Circle (zs : Zones) (raw zone : String) : Prop where
  enters : Command.parse raw = .action (some zone)
  circle : Relation.TransGen zs.Calls zone zone
  clearFree : zs.ClearFree zone

end Zones

namespace Flight

variable {s : FlightSettings} {f : Flight} {raw zone : String} {rest : List String}

theorem circling_alone (h : f.drone.zones.Circle raw zone) : (f.alone raw).Circling raw where
  endless := ⟨zone, h.enters, fun grounded => grounded.not_circle h.circle⟩
  harmless c hc := by
    have clears : Command.parse raw ≠ .clear := by
      rw [h.enters]
      exact Command.noConfusion
    rw [List.mem_singleton.mp hc]
    refine ⟨clears, fun entered he => ?_⟩
    rw [h.enters] at he
    cases he
    exact h.clearFree

/-- a run on a zone of a circle goes on for ever, and leaves what is behind the zone -/
theorem fly_of_circle (s : FlightSettings) (h : f.drone.zones.Circle raw zone)
    (hq : f.drone.queue = raw :: rest) (n : Nat) :
    ∃ xs g, (f.alone raw).fly s n = some (xs, g) ∧ g.drone.queue ≠ [] ∧
      f.fly s n = some (xs, g.onto rest) := by
  have circling := circling_alone h
  obtain ⟨xs, g, hf, hg⟩ := fly_of_circling s circling rfl n
  obtain ⟨-, kept, -⟩ := harmless_fly hf circling.harmless
  have run := fly_onto rest hf kept
  rw [alone_onto hq] at run
  exact ⟨xs, g, hf, hg, run⟩

theorem exists_fly_of_circle (s : FlightSettings) (h : f.drone.zones.Circle raw zone)
    (hq : f.drone.queue = raw :: rest) (bound : Nat) :
    ∃ n xs g, f.fly s n = some (xs, g) ∧ bound < g.drone.queue.length := by
  obtain ⟨n, xs, g, next, back, -, hf, -, hg, hlong⟩ :=
    fly_rounds s (circling_alone h) rfl (bound + 1)
  obtain ⟨ys, k, hk, -, hn⟩ := fly_of_circle s h hq n
  rw [hf] at hk
  cases hk
  refine ⟨n, xs, g.onto rest, hn, ?_⟩
  show bound < (g.drone.queue ++ rest).length
  rw [List.length_append, hg, List.length_cons]
  omega

end Flight

namespace Fleet

/-- **Recursive zones never finish.** Where a zone enters itself, be it through others, and one
comes to no clear from it, a run that is to enter it goes on for ever. What it does first is what it
would do with nothing behind the zone, and what is behind stays there. The queue outgrows every
bound. So it is among all else that happens to a fleet, as often as the run takes a step. -/
theorem recursive_zones_never_finish {zs : Zones} {raw zone : String} (h : zs.Circle raw zone)
    (rest : List String) :
    (∀ (s : FlightSettings) (f : Flight), f.drone.zones = zs → f.drone.queue = raw :: rest →
      (∀ n, ∃ xs g, (f.alone raw).fly s n = some (xs, g) ∧ g.drone.queue ≠ [] ∧
        f.fly s n = some (xs, g.onto rest)) ∧
      ∀ bound, ∃ n xs g, f.fly s n = some (xs, g) ∧ bound < g.drone.queue.length) ∧
    ∀ (f : Fleet) (id : String) (b : Bay) (r : Run), f.bay? id = some b →
      b.drone.connected = true → b.runs = [r] → b.drone.zones = zs →
      b.drone.queue = raw :: rest →
      (∀ es, (∀ e ∈ es, e.Keeps id) → ∃ c q front, (f.after es).bay? id = some c ∧
        c.runs = [q] ∧ q.serial = r.serial ∧ front ≠ [] ∧ c.drone.queue = front ++ rest ∧
        (f.sightings id es).length = es.countP (Event.isStep id r.serial)) ∧
      ∀ bound, ∃ n, ∀ es, (∀ e ∈ es, e.Keeps id) → es.countP (Event.isStep id r.serial) = n →
        ∃ c, (f.after es).bay? id = some c ∧ bound < c.drone.queue.length := by
  constructor
  · rintro s f rfl hq
    exact ⟨Flight.fly_of_circle s h hq, Flight.exists_fly_of_circle s h hq⟩
  · rintro f id b r hb hc hr rfl hq
    have circle : (b.flight r).drone.zones.Circle raw zone := h
    constructor
    · intro es he
      obtain ⟨xs, g, -, hg, hf⟩ := Flight.fly_of_circle f.settings circle hq
        (es.countP (Event.isStep id r.serial))
      obtain ⟨q, hbay, hserial, -, htold⟩ := journey hb hc hr he hf
      refine ⟨_, q, g.drone.queue, hbay, rfl, hserial, hg, rfl, ?_⟩
      rw [← List.length_map (f := Sighting.told), htold, List.length_map]
      exact Flight.length_of_fly hf
    · intro bound
      obtain ⟨n, xs, g, hf, hlong⟩ := Flight.exists_fly_of_circle f.settings circle hq bound
      refine ⟨n, ?_⟩
      rintro es he rfl
      obtain ⟨q, hbay, -⟩ := journey hb hc hr he hf
      exact ⟨_, hbay, hlong⟩

/-- two zones that enter each other, with a landing behind them -/
theorem recursive_zones_never_land :
    ∃ zs : Zones, zs = [("ping", ["action pong", "cw 90"]), ("pong", ["up 10", "action ping"])] ∧
      zs.Circle "action ping" "ping" ∧
      ∀ f : Flight, f.drone.zones = zs → f.drone.queue = ["action ping", "land"] →
        ∀ n, ∃ xs g, (f.alone "action ping").fly {} n = some (xs, g) ∧
          f.fly {} n = some (xs, g.onto ["land"]) := by
  let zs : Zones := [("ping", ["action pong", "cw 90"]), ("pong", ["up 10", "action ping"])]
  have ping : zs.Calls "ping" "pong" :=
    ⟨nofun, "action pong", List.mem_cons_self, rfl⟩
  have pong : zs.Calls "pong" "ping" :=
    ⟨nofun, "action ping", List.mem_cons_of_mem _ List.mem_cons_self, rfl⟩
  have up : Command.parse "up 10" = .move .up (Command.distance ["10"]) := rfl
  have turn : Command.parse "cw 90" = .rotate true (some 90) := rfl
  have enter : Command.parse "action pong" = .action (some "pong") := rfl
  have back : Command.parse "action ping" = .action (some "ping") := rfl
  have quiet : ∀ zone, ∀ raw ∈ zs.script zone, Command.parse raw ≠ .clear := by
    intro zone raw hraw
    obtain ⟨script, hs, hraw⟩ := Zones.exists_of_mem_script hraw
    simp only [zs, List.mem_cons, List.not_mem_nil, or_false, Prod.mk.injEq] at hs
    rcases hs with ⟨-, rfl⟩ | ⟨-, rfl⟩
    · rcases List.mem_cons.mp hraw with rfl | hraw
      · rw [enter]
        exact Command.noConfusion
      · rw [List.mem_singleton.mp hraw, turn]
        exact Command.noConfusion
    · rcases List.mem_cons.mp hraw with rfl | hraw
      · rw [up]
        exact Command.noConfusion
      · rw [List.mem_singleton.mp hraw, back]
        exact Command.noConfusion
  have circle : zs.Circle "action ping" "ping" :=
    ⟨back, .tail (.single ping) pong, fun reached _ => quiet reached⟩
  refine ⟨zs, rfl, circle, fun f hz hq n => ?_⟩
  obtain ⟨xs, g, hf, -, hrun⟩ :=
    ((recursive_zones_never_finish circle ["land"]).1 {} f hz hq).1 n
  exact ⟨xs, g, hf, hrun⟩

end Fleet

end DroneFleet
