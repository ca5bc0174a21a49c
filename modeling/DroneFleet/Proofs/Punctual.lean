import DroneFleet.Proofs.Executors

/-!
# Histories that keep to the times of the runs

A history may take the steps of a run early, late or never. A punctual one takes each as it is due.
The schedule, which always does what is due first, makes histories that are punctual for every
drone, and so all that holds after every history holds after whatever the schedule does.

* `Fleet.Punctual`        a history that takes the steps of a drone as they are due
* `Fleet.first_of_first?` the schedule finds the first task
* `Fleet.Steady`          a fleet in which every drone has the runs that its flag counts
* `Fleet.Steady.tick_is_step`   the schedule sleeps until a step is due, and takes it
* `Fleet.Enough`          fuel with which the schedule does all that is due by a time
* `Fleet.Steady.runUntil_is_history`   what it does in all is a punctual history
-/

namespace DroneFleet.Fleet

/-- does an event respect the times of the runs of a drone? A step is not taken before it is due,
and time does not pass over one that is -/
def Timely (f : Fleet) (id : String) : Event → Prop
  | .visit other (.step serial) =>
    other = id → ∀ b, f.bay? id = some b → ∀ r ∈ b.runs, r.serial = serial → r.due ≤ f.clock
  | .pass millis =>
    ∀ b, f.bay? id = some b → ∀ r ∈ b.runs, f.clock + millis ≤ max f.clock r.due
  | _ => True

/-- does a history take the steps of a drone as they are due? -/
def Punctual (f : Fleet) (id : String) : List Event → Prop
  | [] => True
  | e :: es => f.Timely id e ∧ (f.respond e).1.Punctual id es

instance (f : Fleet) (id : String) : (e : Event) → Decidable (f.Timely id e)
  | .visit other (.step serial) =>
    inferInstanceAs (Decidable (other = id → ∀ b ∈ f.bay? id, ∀ r ∈ b.runs,
      r.serial = serial → r.due ≤ f.clock))
  | .pass millis =>
    inferInstanceAs (Decidable (∀ b ∈ f.bay? id, ∀ r ∈ b.runs,
      f.clock + millis ≤ max f.clock r.due))
  | .visit _ .connect => .isTrue trivial
  | .visit _ .disconnect => .isTrue trivial
  | .visit _ (.submit _ _) => .isTrue trivial
  | .info _ => .isTrue trivial
  | .discovery => .isTrue trivial

instance decidablePunctual (f : Fleet) (id : String) : (es : List Event) →
    Decidable (f.Punctual id es)
  | [] => .isTrue trivial
  | e :: es =>
    let _ := decidablePunctual (f.respond e).1 id es
    inferInstanceAs (Decidable (f.Timely id e ∧ (f.respond e).1.Punctual id es))

theorem punctual_append (f : Fleet) (id : String) (es es' : List Event) :
    f.Punctual id (es ++ es') ↔ f.Punctual id es ∧ (f.after es).Punctual id es' := by
  induction es generalizing f with
  | nil => exact ⟨fun h => ⟨trivial, h⟩, fun h => h.2⟩
  | cons e es ih =>
    show f.Timely id e ∧ (f.respond e).1.Punctual id (es ++ es') ↔
      (f.Timely id e ∧ (f.respond e).1.Punctual id es) ∧ _
    rw [ih, and_assoc]
    rfl

theorem clock_le_of_timely {f : Fleet} {id : String} {b : Bay} {r : Run}
    (hb : f.bay? id = some b) (hr : b.runs = [r]) {e : Event} (he : f.Timely id e)
    (ht : f.clock ≤ r.due) : (f.respond e).1.clock ≤ r.due := by
  cases e with
  | visit other v =>
    rw [clock_visit]
    exact ht
  | pass millis =>
    have hp := he b hb r (hr ▸ List.mem_singleton_self r)
    show f.clock + millis ≤ r.due
    omega
  | _ => exact ht

/-! ## the first task -/

theorem time_le_of_before {turns : List String} {a b : Due} (h : a.before turns b = true) :
    a.time ≤ b.time := by
  simp only [Due.before, Bool.or_eq_true, Bool.and_eq_true, decide_eq_true_eq] at h
  omega

theorem time_le_of_not_before {turns : List String} {a b : Due} (h : ¬ a.before turns b = true) :
    b.time ≤ a.time := by
  simp only [Due.before, Bool.or_eq_true, Bool.and_eq_true, decide_eq_true_eq] at h
  omega

/-- the task of one of several bays, due no later than any other -/
structure Due.First (now : Nat) (bs : List Bay) (x : Due) : Prop where
  mem : x.bay ∈ bs
  task? : x.bay.task? = some x.task
  time : x.time = x.task.due now
  least : ∀ b ∈ bs, ∀ t, b.task? = some t → x.time ≤ t.due now

section
variable {turns : List String} {now : Nat} {b : Bay} {bs : List Bay} {x : Due} {t : Task}

theorem Due.First.cons (h : x.First now bs) (hb : ∀ t, b.task? = some t → x.time ≤ t.due now) :
    x.First now (b :: bs) where
  mem := List.mem_cons_of_mem b h.mem
  task? := h.task?
  time := h.time
  least c hc t ht := by
    rcases List.mem_cons.mp hc with rfl | hc
    · exact hb t ht
    · exact h.least c hc t ht

theorem Due.first_head (hb : b.task? = some t)
    (h : ∀ c ∈ bs, ∀ u, c.task? = some u → t.due now ≤ u.due now) :
    Due.First now (b :: bs) ⟨t.due now, b, t⟩ where
  mem := List.mem_cons_self
  task? := hb
  time := rfl
  least c hc u hu := by
    rcases List.mem_cons.mp hc with rfl | hc
    · rw [hb] at hu
      obtain rfl := Option.some.inj hu
      exact Nat.le_refl _
    · exact h c hc u hu

theorem task?_of_first?_eq_none (h : first? turns now bs = none) : ∀ b ∈ bs, b.task? = none := by
  induction bs with
  | nil => exact fun b hb => absurd hb List.not_mem_nil
  | cons b bs ih =>
    cases hb : b.task? with
    | none =>
      simp only [first?, hb] at h
      intro c hc
      rcases List.mem_cons.mp hc with rfl | hc
      · exact hb
      · exact ih h c hc
    | some t =>
      cases hl : first? turns now bs with
      | none => simp [first?, hb, hl] at h
      | some later =>
        simp only [first?, hb, hl] at h
        split at h <;> cases h

theorem first_of_first? (h : first? turns now bs = some x) : x.First now bs := by
  induction bs generalizing x with
  | nil => cases h
  | cons b bs ih =>
    cases hb : b.task? with
    | none =>
      simp only [first?, hb] at h
      refine (ih h).cons fun t ht => ?_
      rw [hb] at ht
      cases ht
    | some t =>
      cases hl : first? turns now bs with
      | none =>
        simp only [first?, hb, hl] at h
        obtain rfl := Option.some.inj h
        refine Due.first_head hb fun c hc u hu => ?_
        rw [task?_of_first?_eq_none hl c hc] at hu
        cases hu
      | some later =>
        have hlater := ih hl
        simp only [first?, hb, hl] at h
        by_cases hbefore : Due.before turns ⟨t.due now, b, t⟩ later = true
        · rw [if_pos hbefore] at h
          obtain rfl := Option.some.inj h
          exact Due.first_head hb fun c hc u hu =>
            Nat.le_trans (time_le_of_before hbefore) (hlater.least c hc u hu)
        · rw [if_neg hbefore] at h
          obtain rfl := Option.some.inj h
          refine hlater.cons fun u hu => ?_
          rw [hb] at hu
          obtain rfl := Option.some.inj hu
          exact time_le_of_not_before hbefore

end

/-! ## what the schedule does -/

/-- a history in which nobody operates a drone and every step is taken as it is due -/
def Unattended (f : Fleet) (es : List Event) : Prop :=
  ∀ id, (∀ e ∈ es, e.Keeps id) ∧ f.Punctual id es

/-- a fleet in which every drone has the runs that its flag counts, and is found under its id -/
structure Steady (f : Fleet) : Prop where
  sound : ∀ b ∈ f.bays, b.Sound
  ordered : f.ids.Pairwise (· < ·)

section
variable {f g : Fleet} {limit : Nat} {rep : Report}

theorem Steady.respond (h : f.Steady) (e : Event) : (f.respond e).1.Steady where
  sound := all_bays_after (P := Bay.Sound)
    (fun s now b v hb => hb.move (Bay.moves_respond s now b v)) h.sound [e]
  ordered := by
    rw [ids_respond]
    exact h.ordered

theorem Steady.after (h : f.Steady) (es : List Event) : (f.after es).Steady := by
  induction es generalizing f with
  | nil => exact h
  | cons e es ih => exact ih (h.respond e)

theorem steady_after_seeded (s : FleetSettings) (t : FlightSettings) (capacity : Nat)
    (past : List Event) : ((seeded s t capacity).1.after past).Steady where
  sound := sound_after_seeded s t capacity past
  ordered := by
    rw [ids_after]
    exact pairwise_ids_ofDrones _ _ _

theorem task_of_sound {b : Bay} (hb : b.Sound) {t : Task} (ht : b.task? = some t) :
    ∃ r, b.runs = [r] ∧ t = .step r := by
  cases ha : b.drone.runActive with
  | true =>
    obtain ⟨r, hr⟩ := hb.exists_run ha
    rw [hb.task?_eq hr] at ht
    exact ⟨r, hr, (Option.some.inj ht).symm⟩
  | false =>
    have none : b.task? = none := by
      simp [Bay.task?, hb.runs_eq_nil ha, hb.free, hb.settled, Bay.earliest]
    rw [none] at ht
    cases ht

/-- time may pass until the first task is due -/
theorem Steady.timely_pass (h : f.Steady) {millis : Nat}
    (hm : ∀ b ∈ f.bays, ∀ t, b.task? = some t → f.clock + millis ≤ t.due f.clock) (id : String) :
    f.Timely id (.pass millis) := by
  intro b hb r hr
  have hs := h.sound b (mem_of_bay? hb)
  exact hm b (mem_of_bay? hb) (.step r) (hs.task?_eq (hs.runs_eq_of_mem hr))

/-- to perform the step of a run later is to sleep and to take it then -/
theorem perform_step {b : Bay} {r : Run} {time : Nat} (hb : f.bay? b.drone.id = some b)
    (hr : b.runs = [r]) (ht : f.clock ≤ time) :
    f.perform time b (.step r) =
      (f.respond (.pass (time - f.clock))).1.respond (.visit b.drone.id (.step r.serial)) := by
  have hclock : f.clock + (time - f.clock) = time := Nat.add_sub_of_le ht
  have found : (f.respond (.pass (time - f.clock))).1.bay? b.drone.id = some b := hb
  have runs : (b.runs.find? fun q => q.serial = r.serial) = some r := by simp [hr]
  show _ = advance _ _ _
  simp only [advance, found, runs]
  show _ = perform (f.clock + (time - f.clock)) b _ _
  rw [hclock]
  rfl

/-- **The schedule sleeps until a step is due, and takes it.** -/
theorem Steady.tick_is_step (h : f.Steady) (ht : f.tick limit = some (g, rep)) :
    ∃ millis id serial, f.clock + millis ≤ limit ∧
      (f.respond (.pass millis)).1.respond (.visit id (.step serial)) = (g, rep) ∧
      ∀ other, f.Timely other (.pass millis) ∧
        (f.respond (.pass millis)).1.Timely other (.visit id (.step serial)) := by
  cases hx : f.next? with
  | none => simp [tick, hx] at ht
  | some x =>
    obtain ⟨time, b, t⟩ := x
    have first : Due.First f.clock f.bays ⟨time, b, t⟩ := first_of_first? hx
    simp only [tick, hx] at ht
    by_cases hl : time ≤ limit
    · rw [if_pos hl] at ht
      have hp := Option.some.inj ht
      have hb := h.sound b first.mem
      obtain ⟨r, hr, rfl⟩ := task_of_sound hb first.task?
      have here := bay?_of_mem h.ordered first.mem
      have htime : time = max f.clock r.due := first.time
      have hnow : f.clock ≤ time := by omega
      refine ⟨time - f.clock, b.drone.id, r.serial, by omega, ?_, fun other => ⟨?_, ?_⟩⟩
      · rw [← perform_step here hr hnow, ← hp]
      · refine h.timely_pass (fun c hc t ht => ?_) other
        have hle : time ≤ t.due f.clock := first.least c hc t ht
        show f.clock + (time - f.clock) ≤ _
        omega
      · intro ho c hc q hq hserial
        subst ho
        have hcb : some b = some c := here.symm.trans hc
        obtain rfl := Option.some.inj hcb
        rw [hr] at hq
        obtain rfl := List.mem_singleton.mp hq
        show q.due ≤ f.clock + (time - f.clock)
        omega
    · rw [if_neg hl] at ht
      cases ht

theorem published_join_cons (rep : Report) (done : List Report) :
    (Report.join (rep :: done).reverse).published =
      (Report.join done.reverse).published ++ rep.published := by
  simp [Report.join]

/-- **Whatever the schedule does is a punctual history, of every drone**, and what it reports is what
that history publishes, all of it by the limit. -/
theorem Steady.drain_is_history (h : f.Steady) (limit fuel : Nat) (done : List Report) :
    ∃ es, (f.drain limit fuel done).1 = f.after es ∧ f.Unattended es ∧
      (Report.join (f.drain limit fuel done).2.reverse).published =
        (Report.join done.reverse).published ++ f.published es ∧
      ∀ p ∈ f.published es, p.1 ≤ limit := by
  have still : ∀ f : Fleet, f.Unattended [] := fun f id =>
    ⟨fun e he => absurd he List.not_mem_nil, trivial⟩
  induction fuel generalizing f done with
  | zero => exact ⟨[], rfl, still f, (List.append_nil _).symm, nofun⟩
  | succ fuel ih =>
    cases ht : f.tick limit with
    | none =>
      simp only [drain, ht]
      exact ⟨[], rfl, still f, (List.append_nil _).symm, nofun⟩
    | some r =>
      obtain ⟨g, rep⟩ := r
      obtain ⟨millis, id, serial, hclock, hg, htimely⟩ := h.tick_is_step ht
      have steady := (h.respond (.pass millis)).respond (.visit id (.step serial))
      rw [hg] at steady
      obtain ⟨es, hes, hun, hpub, hlimit⟩ := ih steady (rep :: done)
      have all : f.published (.pass millis :: .visit id (.step serial) :: es) =
          rep.published ++ g.published es := by
        rw [published_cons, published_cons, hg]
        exact List.nil_append _
      simp only [drain, ht]
      refine ⟨.pass millis :: .visit id (.step serial) :: es, ?_, fun other => ⟨?_, ?_⟩, ?_, ?_⟩
      · rw [hes, after_cons, after_cons, hg]
      · exact Event.keeps_pass_step other id millis serial (hun other).1
      · refine ⟨(htimely other).1, (htimely other).2, ?_⟩
        rw [hg]
        exact (hun other).2
      · rw [hpub, published_join_cons, List.append_assoc, all]
      · rw [all]
        intro p hp
        rcases List.mem_append.mp hp with hp | hp
        · have hr : p ∈ ((f.respond (.pass millis)).1.respond
              (.visit id (.step serial))).2.published := by rwa [hg]
          exact time_of_published hr ▸ hclock
        · exact hlimit p hp

theorem Steady.lt_due_of_tick (h : f.Steady) (ht : f.tick limit = none) {id : String} {b : Bay}
    (hb : f.bay? id = some b) {r : Run} (hr : r ∈ b.runs) : limit < max f.clock r.due := by
  have mem := mem_of_bay? hb
  have task := (h.sound b mem).task?_eq ((h.sound b mem).runs_eq_of_mem hr)
  cases hx : f.next? with
  | none =>
    rw [task?_of_first?_eq_none hx b mem] at task
    cases task
  | some x =>
    have hle : x.time ≤ max f.clock r.due := (first_of_first? hx).least b mem _ task
    refine Nat.lt_of_lt_of_le (Nat.lt_of_not_le fun hl => ?_) hle
    simp only [tick, hx, if_pos hl] at ht
    cases ht

/-- was the fuel enough? Then nothing is left that is due by the limit. -/
def Enough (f : Fleet) (fuel limit : Nat) : Prop := (f.drain limit fuel []).1.tick limit = none

/-- what the schedule does up to a time is a punctual history, after which no run is due by then -/
theorem Steady.runUntil_is_history (h : f.Steady) (fuel limit : Nat) :
    ∃ es, (f.runUntil fuel limit).1 = f.after es ∧
      (f.runUntil fuel limit).2.published = f.published es ∧
      (∀ p ∈ f.published es, p.1 ≤ limit) ∧ (∀ id, ∀ e ∈ es, e.Keeps id) ∧
      (f.Enough fuel limit → f.Unattended es ∧
        ∀ id b, (f.after es).bay? id = some b → ∀ r ∈ b.runs,
          limit < max (f.after es).clock r.due) := by
  obtain ⟨es, hes, hun, hpub, hlimit⟩ := h.drain_is_history limit fuel []
  let rest : Event := .pass (limit - (f.after es).clock)
  have keeps : ∀ id, ∀ e ∈ es ++ [rest], e.Keeps id := by
    intro id e he
    rcases List.mem_append.mp he with he | he
    · exact (hun id).1 e he
    · obtain rfl := List.mem_singleton.mp he
      exact Event.keeps_pass id _
  have same : f.published (es ++ [rest]) = f.published es := by
    rw [published_append]
    exact List.append_nil _
  refine ⟨es ++ [rest], ?_, same ▸ hpub, same ▸ hlimit, keeps, fun enough => ?_⟩
  · have hclock : max (f.after es).clock limit =
        (f.after es).clock + (limit - (f.after es).clock) := by omega
    rw [after_append]
    show ({ (f.drain limit fuel []).1 with
        clock := max (f.drain limit fuel []).1.clock limit } : Fleet) = _
    rw [hes, hclock]
    rfl
  · unfold Enough at enough
    rw [hes] at enough
    have late := fun id b (hb : (f.after es).bay? id = some b) (r : Run) (hr : r ∈ b.runs) =>
      (h.after es).lt_due_of_tick enough hb hr
    refine ⟨fun id => ⟨keeps id, (punctual_append f id es _).mpr ⟨(hun id).2, ?_, trivial⟩⟩, ?_⟩
    · intro b hb r hr
      have := late id b hb r hr
      show (f.after es).clock + (limit - (f.after es).clock) ≤ _
      omega
    · rw [after_append]
      intro id b hb r hr
      have := late id b hb r hr
      show limit < max ((f.after es).clock + (limit - (f.after es).clock)) r.due
      omega

end

end DroneFleet.Fleet
