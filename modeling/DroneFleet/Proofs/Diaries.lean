import DroneFleet.Proofs.Executors

/-!
# The diary of a drone

What a history is to one drone: the operations on it, the steps of its runs, and every millisecond
that passes. Whatever happens to other drones leaves no entry. The answers to the operations, the
record of the drone at every time and all that is published of it can be told from its diary alone.

* `Entry`, `Fleet.diary`   an entry, and the entries that a history leaves
* `Fleet.entries_cases`    an event leaves none, or is about the drone, or lets time pass
* `Fleet.answers`, `Fleet.recordAt`   the answers to the operations on a drone, and its records
* `Diary.answers`, `Diary.recordAt`, `Diary.sightings`   the same, told from a diary
* `Fleet.answers_eq`, `Fleet.recordAt_eq`, `Fleet.sightings_eq`   they agree
-/

namespace DroneFleet

deriving instance DecidableEq for Bay.Event

inductive Entry where
  /-- a millisecond passes -/
  | tick
  /-- the record is asked for -/
  | info
  | visit (v : Bay.Event)
deriving DecidableEq

/-- the answer to an operation: nothing or a record, or a refusal -/
abbrev Answer := Except FleetError (Option Drone)

namespace Fleet

/-- the entries that an event leaves in the diary of a drone -/
def entries (f : Fleet) (id : String) : Event → List Entry
  | .visit other (.step n) =>
    if other = id ∧ (f.bay? id).any (·.alive n) then [.visit (.step n)] else []
  | .visit other v => if other = id then [.visit v] else []
  | .info other => if other = id then [.info] else []
  | .discovery => []
  | .pass millis => List.replicate millis .tick

def diary (f : Fleet) (id : String) : List Event → List Entry
  | [] => []
  | e :: es => f.entries id e ++ (f.respond e).1.diary id es

def answer? (f : Fleet) (id : String) : Event → Option Answer
  | .visit other .connect => if other = id then some ((f.connect id).map fun _ => none) else none
  | .visit other .disconnect =>
    if other = id then some ((f.disconnect id).map fun _ => none) else none
  | .visit other (.submit path zones) =>
    if other = id then some ((f.submit id path zones).map fun _ => none) else none
  | .info other => if other = id then some ((f.info id).map some) else none
  | _ => none

def answers (f : Fleet) (id : String) : List Event → List Answer
  | [] => []
  | e :: es => (f.answer? id e).toList ++ (f.respond e).1.answers id es

/-- the record of a drone when all has happened that happens until a time -/
def recordAt (f : Fleet) (id : String) (time : Nat) : List Event → Option Drone
  | [] => (f.bay? id).map (·.drone)
  | e :: es =>
    if (f.respond e).1.clock ≤ time then (f.respond e).1.recordAt id time es
    else (f.bay? id).map (·.drone)

end Fleet

/-! ## told from a diary -/

def Bay.answer? (now : Nat) (b : Bay) : Bay.Event → Option Answer
  | .connect => some (b.connect.map fun _ => none)
  | .disconnect => some (b.disconnect.map fun _ => none)
  | .submit path zones => some ((b.submit now path zones).map fun _ => none)
  | .step _ => none

namespace Diary

def answers (s : FlightSettings) : List Entry → Nat → Bay → List Answer
  | [], _, _ => []
  | .tick :: es, now, b => answers s es (now + 1) b
  | .info :: es, now, b => b.info.map some :: answers s es now b
  | .visit v :: es, now, b =>
    (b.answer? now v).toList ++ answers s es now (b.respond s now v).1

def recordAt (s : FlightSettings) (time : Nat) : List Entry → Nat → Bay → Drone
  | [], _, b => b.drone
  | .tick :: es, now, b => if now + 1 ≤ time then recordAt s time es (now + 1) b else b.drone
  | .info :: es, now, b => recordAt s time es now b
  | .visit v :: es, now, b =>
    if now ≤ time then recordAt s time es now (b.respond s now v).1 else b.drone

def sightings (s : FlightSettings) : List Entry → Nat → Bay → List Fleet.Sighting
  | [], _, _ => []
  | .tick :: es, now, b => sightings s es (now + 1) b
  | .info :: es, now, b => sightings s es now b
  | .visit v :: es, now, b =>
    ((b.respond s now v).2.published.map fun p => ⟨p.1, p.2, (b.respond s now v).1.drone⟩) ++
      sightings s es now (b.respond s now v).1

section
variable {s : FlightSettings} {time : Nat}

theorem answers_ticks (millis : Nat) (es : List Entry) (now : Nat) (b : Bay) :
    answers s (List.replicate millis .tick ++ es) now b = answers s es (now + millis) b := by
  induction millis generalizing now with
  | zero => rfl
  | succ millis ih =>
    show answers s (List.replicate millis .tick ++ es) (now + 1) b = _
    rw [ih, Nat.add_assoc, Nat.add_comm 1]

theorem sightings_ticks (millis : Nat) (es : List Entry) (now : Nat) (b : Bay) :
    sightings s (List.replicate millis .tick ++ es) now b = sightings s es (now + millis) b := by
  induction millis generalizing now with
  | zero => rfl
  | succ millis ih =>
    show sightings s (List.replicate millis .tick ++ es) (now + 1) b = _
    rw [ih, Nat.add_assoc, Nat.add_comm 1]

theorem recordAt_of_lt (es : List Entry) {now : Nat} (h : time < now) (b : Bay) :
    recordAt s time es now b = b.drone := by
  induction es with
  | nil => rfl
  | cons e es ih =>
    cases e with
    | tick => exact if_neg (by omega)
    | info => exact ih
    | visit v => exact if_neg (by omega)

theorem recordAt_ticks (millis : Nat) (es : List Entry) (now : Nat) (b : Bay) :
    recordAt s time (List.replicate millis .tick ++ es) now b =
      if now + millis ≤ time then recordAt s time es (now + millis) b else b.drone := by
  induction millis generalizing now with
  | zero =>
    show recordAt s time es now b = if now ≤ time then recordAt s time es now b else b.drone
    by_cases h : now ≤ time
    · exact (if_pos h).symm
    · rw [if_neg h]
      exact recordAt_of_lt es (by omega) b
  | succ millis ih =>
    show (if now + 1 ≤ time then recordAt s time (List.replicate millis .tick ++ es) (now + 1) b
      else b.drone) = _
    rw [ih, Nat.add_assoc, Nat.add_comm 1]
    by_cases h : now + (millis + 1) ≤ time
    · rw [if_pos h, if_pos (by omega)]
    · rw [if_neg h, ite_self]

end

end Diary

namespace Fleet

section
variable {f : Fleet} {id : String} {b : Bay}

/-- an event leaves nothing in the diary of a drone, or is about it, or lets time pass -/
theorem entries_cases (hb : f.bay? id = some b) (e : Event) :
    (f.entries id e = [] ∧ (f.respond e).1.bay? id = some b ∧
        (f.respond e).1.clock = f.clock ∧ f.answer? id e = none ∧ f.sighted id e = []) ∨
      (∃ v, e = .visit id v ∧ f.entries id e = [.visit v]) ∨
      (e = .info id ∧ f.entries id e = [.info]) ∨
      ∃ millis, e = .pass millis ∧ f.entries id e = List.replicate millis .tick := by
  cases e with
  | info other =>
    by_cases ho : other = id
    · subst ho
      exact Or.inr (Or.inr (Or.inl ⟨rfl, if_pos rfl⟩))
    · exact Or.inl ⟨if_neg ho, hb, rfl, if_neg ho, sighted_of_toward rfl⟩
  | discovery => exact Or.inl ⟨rfl, hb, rfl, rfl, sighted_of_toward rfl⟩
  | pass millis => exact Or.inr (Or.inr (Or.inr ⟨millis, rfl, rfl⟩))
  | visit other v =>
    by_cases ho : other = id
    · subst ho
      cases v with
      | step n =>
        by_cases there : b.alive n = true
        · refine Or.inr (Or.inl ⟨_, rfl, if_pos ⟨rfl, ?_⟩⟩)
          rw [hb]
          exact there
        · have gone : b.Refuses (.step n) := by
            intro r hr hn
            exact there (List.any_eq_true.mpr ⟨r, hr, decide_eq_true hn⟩)
          obtain ⟨same, quiet⟩ := visit_of_refuses hb gone
          refine Or.inl ⟨if_neg ?_, same, clock_visit f other (.step n), rfl, quiet⟩
          rw [hb]
          exact fun h => there h.2
      | connect => exact Or.inr (Or.inl ⟨_, rfl, if_pos rfl⟩)
      | disconnect => exact Or.inr (Or.inl ⟨_, rfl, if_pos rfl⟩)
      | submit path zones => exact Or.inr (Or.inl ⟨_, rfl, if_pos rfl⟩)
    · have toward : (Event.visit other v).toward id = none := if_neg ho
      refine Or.inl ⟨?_, (bay?_respond_of_toward toward).trans hb, clock_visit f other v, ?_,
        sighted_of_toward toward⟩
      · cases v with
        | step n => exact if_neg fun h => ho h.1
        | _ => exact if_neg ho
      · cases v with
        | step n => rfl
        | _ => exact if_neg ho

theorem map_operate {α : Type} (hb : f.bay? id = some b)
    (change : Bay → Except FleetError (Bay × Report)) (a : α) :
    (f.operate id change).map (fun _ => a) = (change b).map fun _ => a := by
  cases hc : change b with
  | error e => rw [operate_of_error hb hc]; rfl
  | ok r => rw [operate_of_ok hb hc]; rfl

theorem answer?_visit (hb : f.bay? id = some b) (v : Bay.Event) :
    f.answer? id (.visit id v) = b.answer? f.clock v := by
  cases v with
  | connect =>
    show (if id = id then some ((f.operate id Bay.connect).map _) else none) = _
    rw [if_pos rfl, map_operate hb]
    rfl
  | disconnect =>
    show (if id = id then some ((f.operate id Bay.disconnect).map _) else none) = _
    rw [if_pos rfl, map_operate hb]
    rfl
  | submit path zones =>
    have same := map_operate hb (Bay.submit f.clock path zones) (none : Option Drone)
    show (if id = id then some ((f.submit id path zones).map _) else none) = _
    rw [if_pos rfl]
    show _ = some ((b.submit f.clock path zones).map _)
    rw [← same]
    unfold submit
    cases f.operate id (Bay.submit f.clock path zones) with
    | error e => rfl
    | ok r => rfl
  | step n => rfl

theorem answer?_info (hb : f.bay? id = some b) :
    f.answer? id (.info id) = some (b.info.map some) := by
  show (if id = id then some ((f.info id).map some) else none) = _
  rw [if_pos rfl]
  unfold info
  rw [hb]

theorem answers_eq (hb : f.bay? id = some b) (es : List Event) :
    f.answers id es = Diary.answers f.settings (f.diary id es) f.clock b := by
  induction es generalizing f b with
  | nil => rfl
  | cons e es ih =>
    show (f.answer? id e).toList ++ (f.respond e).1.answers id es =
      Diary.answers f.settings (f.entries id e ++ (f.respond e).1.diary id es) f.clock b
    have settings := settings_respond f e
    rcases entries_cases hb e with ⟨none, here, clock, silent, -⟩ |
      ⟨v, rfl, one⟩ | ⟨rfl, one⟩ | ⟨n, rfl, ticks⟩
    · rw [none, silent, ih here, settings, clock]
      rfl
    · have here := (replaced_respond hb v).1
      rw [one, answer?_visit hb, ih here.here, settings, here.clock]
      rfl
    · rw [one, answer?_info hb]
      exact congrArg (_ :: ·) (ih hb)
    · rw [ticks, Diary.answers_ticks]
      exact ih hb

theorem sightings_eq (hb : f.bay? id = some b) (es : List Event) :
    f.sightings id es = Diary.sightings f.settings (f.diary id es) f.clock b := by
  induction es generalizing f b with
  | nil => rfl
  | cons e es ih =>
    show f.sighted id e ++ (f.respond e).1.sightings id es =
      Diary.sightings f.settings (f.entries id e ++ (f.respond e).1.diary id es) f.clock b
    have settings := settings_respond f e
    rcases entries_cases hb e with ⟨none, here, clock, -, quiet⟩ |
      ⟨v, rfl, one⟩ | ⟨rfl, one⟩ | ⟨n, rfl, ticks⟩
    · rw [none, quiet, ih here, settings, clock]
      rfl
    · have here := (replaced_respond hb v).1
      rw [one, sighted_visit hb, ih here.here, settings, here.clock]
      rfl
    · rw [one, sighted_of_toward rfl]
      exact ih hb
    · rw [ticks, Diary.sightings_ticks, sighted_of_toward rfl]
      exact ih hb

theorem recordAt_eq (hb : f.bay? id = some b) (time : Nat) (es : List Event) :
    f.recordAt id time es =
      some (Diary.recordAt f.settings time (f.diary id es) f.clock b) := by
  induction es generalizing f b with
  | nil =>
    show (f.bay? id).map _ = _
    rw [hb]
    rfl
  | cons e es ih =>
    show (if (f.respond e).1.clock ≤ time then (f.respond e).1.recordAt id time es
      else (f.bay? id).map _) =
        some (Diary.recordAt f.settings time (f.entries id e ++ (f.respond e).1.diary id es)
          f.clock b)
    have settings := settings_respond f e
    have before : (f.bay? id).map (·.drone) = some b.drone := by rw [hb]; rfl
    rcases entries_cases hb e with ⟨none, here, clock, -, -⟩ |
      ⟨v, rfl, one⟩ | ⟨rfl, one⟩ | ⟨n, rfl, ticks⟩
    · rw [none, clock]
      by_cases past : f.clock ≤ time
      · rw [if_pos past, ih here, settings, clock]
        rfl
      · rw [if_neg past, before]
        exact congrArg some (Diary.recordAt_of_lt _ (Nat.lt_of_not_le past) b).symm
    · have here := (replaced_respond hb v).1
      rw [one, here.clock]
      show _ = some (if f.clock ≤ time then _ else _)
      by_cases past : f.clock ≤ time
      · rw [if_pos past, if_pos past, ih here.here, settings, here.clock]
        rfl
      · rw [if_neg past, if_neg past, before]
    · rw [one]
      by_cases past : f.clock ≤ time
      · exact (if_pos past).trans (ih hb)
      · refine (if_neg past).trans (before.trans ?_)
        exact congrArg some (Diary.recordAt_of_lt _ (Nat.lt_of_not_le past) b).symm
    · rw [ticks, Diary.recordAt_ticks]
      show (if f.clock + n ≤ time then _ else _) = some (if f.clock + n ≤ time then _ else _)
      by_cases past : f.clock + n ≤ time
      · rw [if_pos past, if_pos past]
        exact ih hb
      · rw [if_neg past, if_neg past, before]

end

end Fleet

end DroneFleet
