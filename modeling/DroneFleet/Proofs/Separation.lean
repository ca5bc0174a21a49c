import DroneFleet.Proofs.Diaries
import DroneFleet.Proofs.Occurrences
import DroneFleet.Proofs.Punctual

/-!
# Drones do not interfere

Two histories may differ in all that they do to other drones: their operations, their flights and
their zones. If they do the same to one drone at the same moments, the same comes of it in both: the
same answers, the same record at every time, the same sightings. The steps of its runs are no
operations; but they are taken as they are due, and so they are at the same moments as well.

* `Moment`                a time, and how many steps were taken at that time before
* `Diary.agenda`          the operations on a drone with their moments
* `Diary.Timely`          a diary whose steps are taken as they are due
* `Diary.eq_of_agenda`    such a diary is known from the agenda
* `Fleet.Punctual.diary`  the diaries of punctual histories are such
* `Fleet.drones_do_not_interfere`   what two histories with one agenda have in common
-/

namespace DroneFleet

/-- a time, and how many steps a drone's runs took at that time before -/
structure Moment where
  time : Nat
  turn : Nat
deriving DecidableEq

namespace Moment

def tick (m : Moment) : Moment := ⟨m.time + 1, 0⟩

def step (m : Moment) : Moment := ⟨m.time, m.turn + 1⟩

def Before (m n : Moment) : Prop := m.time < n.time ∨ m.time = n.time ∧ m.turn < n.turn

variable {m n : Moment}

theorem not_before_self (m : Moment) : ¬ m.Before m := by
  unfold Before
  omega

theorem before_tick (m : Moment) : m.Before m.tick := Or.inl (Nat.lt_succ_self _)

theorem before_step (m : Moment) : m.Before m.step := Or.inr ⟨rfl, Nat.lt_succ_self _⟩

theorem Before.tick (h : m.Before n) : m.Before n.tick := by
  unfold Before at *
  show m.time < n.time + 1 ∨ m.time = n.time + 1 ∧ m.turn < 0
  omega

theorem Before.step (h : m.Before n) : m.Before n.step := by
  unfold Before at *
  show m.time < n.time ∨ m.time = n.time ∧ m.turn < n.turn + 1
  omega

end Moment

/-! ## agendas -/

namespace Diary

/-- the operations of a diary, each with its moment -/
def agenda : List Entry → Moment → List (Moment × Entry)
  | [], _ => []
  | .tick :: es, m => agenda es m.tick
  | .visit (.step _) :: es, m => agenda es m.step
  | e :: es, m => (m, e) :: agenda es m

/-- the moment at which a diary ends -/
def closing : List Entry → Moment → Moment
  | [], m => m
  | .tick :: es, m => closing es m.tick
  | .visit (.step _) :: es, m => closing es m.step
  | _ :: es, m => closing es m

/-- is every step of a diary taken as it is due, and by a run that is there? -/
def Timely (s : FlightSettings) : List Entry → Nat → Bay → Prop
  | [], _, _ => True
  | .tick :: es, now, b => (∀ r ∈ b.runs, now < r.due) ∧ Timely s es (now + 1) b
  | .info :: es, now, b => Timely s es now b
  | .visit v :: es, now, b =>
    (∀ n, v = .step n → ∃ r ∈ b.runs, r.serial = n ∧ r.due ≤ now) ∧
      Timely s es now (b.respond s now v).1

/-- is it an operation? -/
def IsCall (e : Entry) : Prop := e ≠ .tick ∧ ∀ n, e ≠ .visit (.step n)

section
variable {s : FlightSettings} {m n : Moment} {es es' : List Entry} {e : Entry} {b : Bay}

theorem kinds (e : Entry) : e = .tick ∨ (∃ n, e = .visit (.step n)) ∨ IsCall e := by
  cases e with
  | tick => exact Or.inl rfl
  | info => exact Or.inr (Or.inr ⟨nofun, nofun⟩)
  | visit v =>
    cases v with
    | step n => exact Or.inr (Or.inl ⟨n, rfl⟩)
    | _ => exact Or.inr (Or.inr ⟨nofun, nofun⟩)

theorem agenda_of_call (h : IsCall e) (es : List Entry) (m : Moment) :
    agenda (e :: es) m = (m, e) :: agenda es m := by
  rw [agenda]
  · exact fun he => h.1 he
  · exact fun n he => h.2 n he

theorem closing_of_call (h : IsCall e) (es : List Entry) (m : Moment) :
    closing (e :: es) m = closing es m := by
  rw [closing]
  · exact fun he => h.1 he
  · exact fun n he => h.2 n he

theorem before_agenda (es : List Entry) (h : m.Before n) : ∀ x ∈ agenda es n, m.Before x.1 := by
  induction es generalizing n with
  | nil => exact fun x hx => absurd hx List.not_mem_nil
  | cons e es ih =>
    rcases kinds e with rfl | ⟨k, rfl⟩ | hc
    · exact ih h.tick
    · exact ih h.step
    · rw [agenda_of_call hc]
      intro x hx
      rcases List.mem_cons.mp hx with rfl | hx
      · exact h
      · exact ih h x hx

theorem before_closing (h : m.Before n) : m.Before (closing es n) := by
  induction es generalizing n with
  | nil => exact h
  | cons e es ih =>
    rcases kinds e with rfl | ⟨k, rfl⟩ | hc
    · exact ih h.tick
    · exact ih h.step
    · rw [closing_of_call hc]
      exact ih h

theorem eq_nil (ha : agenda es m = []) (hc : closing es m = m) : es = [] := by
  cases es with
  | nil => rfl
  | cons e es =>
    rcases kinds e with rfl | ⟨k, rfl⟩ | call
    · have later : m.Before (closing es m.tick) := before_closing m.before_tick
      rw [show closing es m.tick = m from hc] at later
      exact absurd later m.not_before_self
    · have later : m.Before (closing es m.step) := before_closing m.before_step
      rw [show closing es m.step = m from hc] at later
      exact absurd later m.not_before_self
    · rw [agenda_of_call call] at ha
      cases ha

theorem head_of_call {c : Entry} {l : List (Moment × Entry)}
    (ha : agenda (e :: es) m = (m, c) :: l) : e = c := by
  have now : (m, c) ∈ agenda (e :: es) m := ha ▸ List.mem_cons_self
  rcases kinds e with rfl | ⟨k, rfl⟩ | call
  · exact absurd (before_agenda es m.before_tick _ now) m.not_before_self
  · exact absurd (before_agenda es m.before_step _ now) m.not_before_self
  · rw [agenda_of_call call] at ha
    exact congrArg Prod.snd (List.cons.inj ha).1

theorem not_timely_tick {k : Nat} {now : Nat} (h : Timely s (.tick :: es) now b)
    (h' : Timely s (.visit (.step k) :: es') now b) : False := by
  obtain ⟨r, hr, -, due⟩ := h'.1 k rfl
  have passed := h.1 r hr
  omega

/-- two timely diaries with one agenda and one end have the same next entry -/
theorem head_eq {e' : Entry} (hb : b.Flagged) (t : Timely s (e :: es) m.time b)
    (t' : Timely s (e' :: es') m.time b) (ha : agenda (e :: es) m = agenda (e' :: es') m) :
    e = e' := by
  rcases kinds e with rfl | ⟨k, rfl⟩ | call
  · rcases kinds e' with rfl | ⟨k', rfl⟩ | call'
    · rfl
    · exact absurd t' fun t' => not_timely_tick t t'
    · rw [agenda_of_call call'] at ha
      exact head_of_call ha
  · rcases kinds e' with rfl | ⟨k', rfl⟩ | call'
    · exact absurd t fun t => not_timely_tick t' t
    · obtain ⟨r, hr, rfl, -⟩ := t.1 k rfl
      obtain ⟨r', hr', rfl, -⟩ := t'.1 k' rfl
      rw [(hb.of_mem hr).1] at hr'
      rw [List.mem_singleton.mp hr']
    · rw [agenda_of_call call'] at ha
      exact head_of_call ha
  · rw [agenda_of_call call] at ha
    exact (head_of_call ha.symm).symm

/-- **A timely diary is known from its agenda and its end.** -/
theorem eq_of_agenda (hb : b.Flagged) (t : Timely s es m.time b) (t' : Timely s es' m.time b)
    (ha : agenda es m = agenda es' m) (hc : closing es m = closing es' m) : es = es' := by
  induction es generalizing es' m b with
  | nil => exact (eq_nil ha.symm hc.symm).symm
  | cons e es ih =>
    cases es' with
    | nil => exact eq_nil ha hc
    | cons e' es' =>
      obtain rfl := head_eq hb t t' ha
      refine congrArg (e :: ·) ?_
      cases e with
      | tick => exact ih (m := m.tick) hb t.2 t'.2 ha hc
      | info => exact ih hb t t' (List.cons.inj ha).2 hc
      | visit v =>
        have next : (b.respond s m.time v).1.Flagged := hb.move (Bay.moves_respond s m.time b v)
        cases v with
        | step k => exact ih (m := m.step) next t.2 t'.2 ha hc
        | connect => exact ih next t.2 t'.2 (List.cons.inj ha).2 hc
        | disconnect => exact ih next t.2 t'.2 (List.cons.inj ha).2 hc
        | submit path zones => exact ih next t.2 t'.2 (List.cons.inj ha).2 hc

end

end Diary

/-! ## histories -/

namespace Fleet

/-- the operations on a drone, each with its moment -/
def agenda (f : Fleet) (id : String) (es : List Event) : List (Moment × Entry) :=
  Diary.agenda (f.diary id es) ⟨f.clock, 0⟩

/-- the moment at which a history ends for a drone -/
def closing (f : Fleet) (id : String) (es : List Event) : Moment :=
  Diary.closing (f.diary id es) ⟨f.clock, 0⟩

/-- the same is seen of a drone in two histories -/
structure Alike (f : Fleet) (es : List Event) (g : Fleet) (es' : List Event) (id : String) :
    Prop where
  answers : f.answers id es = g.answers id es'
  records : ∀ time, f.recordAt id time es = g.recordAt id time es'
  sightings : f.sightings id es = g.sightings id es'

section
variable {f g : Fleet} {id : String} {b : Bay} {es es' : List Event}

theorem timely_ticks {s : FlightSettings} {millis now : Nat} {entries : List Entry}
    (h : ∀ r ∈ b.runs, now + millis ≤ max now r.due)
    (t : Diary.Timely s entries (now + millis) b) :
    Diary.Timely s (List.replicate millis .tick ++ entries) now b := by
  induction millis generalizing now with
  | zero => exact t
  | succ millis ih =>
    refine ⟨fun r hr => ?_, ih (fun r hr => ?_) ?_⟩
    · have due := h r hr
      omega
    · have due := h r hr
      omega
    · rw [Nat.add_assoc, Nat.add_comm 1]
      exact t

theorem exists_of_entries_step {n : Nat} (hb : f.bay? id = some b)
    (h : f.entries id (.visit id (.step n)) = [.visit (.step n)]) :
    ∃ r ∈ b.runs, r.serial = n := by
  by_cases there : b.alive n = true
  · obtain ⟨r, hr, serial⟩ := List.any_eq_true.mp there
    exact ⟨r, hr, of_decide_eq_true serial⟩
  · have none : f.entries id (.visit id (.step n)) = [] := by
      refine if_neg fun h => there ?_
      rw [hb] at h
      exact h.2
    rw [none] at h
    cases h

/-- in a punctual history the diary is timely -/
theorem Punctual.diary (hb : f.bay? id = some b) (h : f.Punctual id es) :
    Diary.Timely f.settings (f.diary id es) f.clock b := by
  induction es generalizing f b with
  | nil => trivial
  | cons e es ih =>
    obtain ⟨now, later⟩ := h
    have settings := settings_respond f e
    show Diary.Timely f.settings (f.entries id e ++ (f.respond e).1.diary id es) f.clock b
    rcases entries_cases hb e with ⟨none, here, clock, -, -⟩ |
      ⟨v, rfl, one⟩ | ⟨rfl, one⟩ | ⟨n, rfl, ticks⟩
    · have rest := ih here later
      rw [settings, clock] at rest
      rw [none]
      exact rest
    · have here := (replaced_respond hb v).1
      have rest := ih here.here later
      rw [settings, here.clock] at rest
      rw [one]
      refine ⟨?_, rest⟩
      rintro n rfl
      obtain ⟨r, hr, serial⟩ := exists_of_entries_step hb one
      exact ⟨r, hr, serial, now rfl b hb r hr serial⟩
    · rw [one]
      exact ih hb later
    · have here : (f.respond (.pass n)).1.bay? id = some b := hb
      rw [ticks]
      exact timely_ticks (fun r hr => now b hb r hr) (ih here later)

/-- what is seen of a drone is told by its diary -/
theorem alike_of_diary (hf : f.bay? id = some b) (hg : g.bay? id = some b)
    (settings : f.settings = g.settings) (clock : f.clock = g.clock)
    (h : f.diary id es = g.diary id es') : Alike f es g es' id := by
  constructor
  · rw [answers_eq hf, answers_eq hg, h, settings, clock]
  · intro time
    rw [recordAt_eq hf, recordAt_eq hg, h, settings, clock]
  · rw [sightings_eq hf, sightings_eq hg, h, settings, clock]

end

/-- **Drones do not interfere.** Take two rosters with the same drone, and any two histories of their
fleets. If they hold the same operations on that drone and the same steps of its runs at the same
times, the same is seen of it in both, whatever else is in them. And if its runs wake up as they are
due, the operations and their moments are enough. -/
theorem drones_do_not_interfere (s : FlightSettings) {ds ds' : List Drone}
    {capacity capacity' : Nat} {id : String} {b : Bay}
    (h : (ofDrones ds s capacity).bay? id = some b)
    (h' : (ofDrones ds' s capacity').bay? id = some b) (es es' : List Event) :
    ((ofDrones ds s capacity).diary id es = (ofDrones ds' s capacity').diary id es' →
        Alike (ofDrones ds s capacity) es (ofDrones ds' s capacity') es' id) ∧
      ((ofDrones ds s capacity).Punctual id es → (ofDrones ds' s capacity').Punctual id es' →
        (ofDrones ds s capacity).agenda id es = (ofDrones ds' s capacity').agenda id es' →
        (ofDrones ds s capacity).closing id es = (ofDrones ds' s capacity').closing id es' →
        Alike (ofDrones ds s capacity) es (ofDrones ds' s capacity') es' id) := by
  have flagged : b.Flagged := by
    obtain ⟨d, -, rfl⟩ := mem_bays_ofDrones (mem_of_bay? h)
    exact Nat.zero_le _
  refine ⟨alike_of_diary h h' rfl rfl, fun punctual punctual' agenda closing => ?_⟩
  have same := Diary.eq_of_agenda flagged (punctual.diary h) (punctual'.diary h') agenda closing
  exact alike_of_diary h h' rfl rfl same

def lonely : List Event :=
  [.visit "tello-1" .connect, .visit "tello-1" (.submit ["action z"] [("z", ["up 5"])]),
    .visit "tello-1" (.step 0), .pass 500, .visit "tello-1" (.step 0), .info "tello-1"]

def crowded : List Event :=
  [.visit "tello-2" .connect, .visit "tello-1" .connect,
    .visit "tello-2" (.submit ["action z"] [("z", ["action z"])]), .visit "tello-2" (.step 0),
    .visit "tello-1" (.submit ["action z"] [("z", ["up 5"])]), .visit "tello-1" (.step 0),
    .pass 200, .visit "tello-2" .disconnect, .discovery, .pass 300, .visit "tello-2" (.step 0),
    .visit "tello-1" (.step 0), .info "tello-1"]

theorem zone_beside_endless_zone :
    (ofDrones [seed {} 1] {} 16).Punctual "tello-1" lonely ∧
      (ofDrones [seed {} 2, seed {} 1] {} 4).Punctual "tello-1" crowded ∧
      (ofDrones [seed {} 1] {} 16).agenda "tello-1" lonely =
        (ofDrones [seed {} 2, seed {} 1] {} 4).agenda "tello-1" crowded ∧
      Alike (ofDrones [seed {} 1] {} 16) lonely (ofDrones [seed {} 2, seed {} 1] {} 4) crowded
        "tello-1" := by
  have alone : (ofDrones [seed {} 1] {} 16).bay? "tello-1" = some (.ofDrone (seed {} 1)) := rfl
  have beside : (ofDrones [seed {} 2, seed {} 1] {} 4).bay? "tello-1" =
      some (.ofDrone (seed {} 1)) := rfl
  have punctual : (ofDrones [seed {} 1] {} 16).Punctual "tello-1" lonely := by decide +kernel
  have punctual' : (ofDrones [seed {} 2, seed {} 1] {} 4).Punctual "tello-1" crowded := by
    decide +kernel
  have agenda : (ofDrones [seed {} 1] {} 16).agenda "tello-1" lonely =
      (ofDrones [seed {} 2, seed {} 1] {} 4).agenda "tello-1" crowded := by decide +kernel
  obtain ⟨-, alike⟩ := drones_do_not_interfere {} alone beside lonely crowded
  exact ⟨punctual, punctual', agenda, alike punctual punctual' agenda (by decide +kernel)⟩

end Fleet

end DroneFleet
