import DroneFleet.Proofs.Commands

/-!
# A run of a flight, command by command

The queue of a flight is a stack: zones and corrections of the heading put commands in front of it,
and whatever stands behind waits until they are done. Only `clear` reaches further, to the last
command of all.

* `Flight.Stride`       what one command of a run shows
* `Flight.stride?`      the next command of a run
* `Flight.fly`          the first commands of a run with nothing in between
* `Flight.fly_onto`     commands behind the queue change nothing as long as nothing clears it
* `Flight.fly_clear`    they never get their turn once something does
* `Flight.queue_is_stack`   both together, for a run that empties its queue
-/

namespace DroneFleet.Flight

/-- what one command of a run shows: the command, the drone after it as observers see it, the pause,
and the zone entered last -/
structure Stride where
  command : String
  snapshot : Drone.Snapshot
  pause : Nat
  zone : Option String

/-- does the stride clear the queue? -/
def Stride.Clears (x : Stride) : Prop := Command.parse x.command = .clear

/-- the next command of a run, and the flight after it; none if the queue is empty -/
def stride? (s : FlightSettings) (f : Flight) : Option (Stride × Flight) :=
  match f.drone.queue, f.step s with
  | raw :: _, .flying g pause => some (⟨raw, g.drone.snapshot, pause, g.zone⟩, g)
  | _, _ => none

/-- the first `n` commands of a run with nothing in between, and the flight after them; none if the
queue is empty before -/
def fly (s : FlightSettings) : Nat → Flight → Option (List Stride × Flight)
  | 0, f => some ([], f)
  | n + 1, f => (f.stride? s).bind fun (x, g) => (fly s n g).map fun (xs, h) => (x :: xs, h)

/-! ## one command -/

section
variable {s : FlightSettings} {f g : Flight} {x : Stride}

theorem stride?_of_nil (h : f.drone.queue = []) : f.stride? s = none := by
  unfold stride?
  rw [h]

theorem stride?_of_cons {raw : String} {rest : List String} (h : f.drone.queue = raw :: rest) :
    f.stride? s = some (⟨raw, ((f.pop raw rest).apply s (.parse raw)).drone.snapshot,
      (Command.parse raw).pause s, ((f.pop raw rest).apply s (.parse raw)).zone⟩,
      (f.pop raw rest).apply s (.parse raw)) := by
  unfold stride?
  rw [step_of_cons h, h]

theorem queue_of_stride? (h : f.stride? s = some (x, g)) :
    ∃ rest, f.drone.queue = x.command :: rest ∧
      g = (f.pop x.command rest).apply s (.parse x.command) := by
  cases hq : f.drone.queue with
  | nil => rw [stride?_of_nil hq] at h; cases h
  | cons raw rest =>
    rw [stride?_of_cons hq] at h
    cases h
    exact ⟨rest, rfl, rfl⟩

theorem queue_of_clears (h : f.stride? s = some (x, g)) (hx : x.Clears) : g.drone.queue = [] := by
  obtain ⟨rest, -, rfl⟩ := queue_of_stride? h
  rw [show Command.parse x.command = .clear from hx]
  rfl

theorem stride?_onto (ys : List String) (h : f.stride? s = some (x, g)) (hx : ¬ x.Clears) :
    (f.onto ys).stride? s = some (x, g.onto ys) := by
  cases hq : f.drone.queue with
  | nil => rw [stride?_of_nil hq] at h; cases h
  | cons raw rest =>
    rw [stride?_of_cons hq] at h
    cases h
    have hy : (f.onto ys).drone.queue = raw :: (rest ++ ys) := by
      show f.drone.queue ++ ys = _
      rw [hq, List.cons_append]
    rw [stride?_of_cons hy, pop_onto, apply_onto s hx]
    rfl

/-- a command that clears the queue leaves nothing of what stands behind the queue -/
theorem stride?_onto_of_clears (ys : List String) (h : f.stride? s = some (x, g))
    (hx : x.Clears) : (f.onto ys).stride? s = some (x, g) := by
  cases hq : f.drone.queue with
  | nil => rw [stride?_of_nil hq] at h; cases h
  | cons raw rest =>
    rw [stride?_of_cons hq] at h
    cases h
    have hc : Command.parse raw = .clear := hx
    have hy : (f.onto ys).drone.queue = raw :: (rest ++ ys) := by
      show f.drone.queue ++ ys = _
      rw [hq, List.cons_append]
    rw [stride?_of_cons hy, pop_onto, hc, apply_clear_onto]

end

/-! ## many commands -/

section
variable {s : FlightSettings} {f g : Flight} {xs : List Stride} {n : Nat}

theorem fly_succ_of_none (h : f.stride? s = none) : f.fly s (n + 1) = none := by
  rw [fly, h]
  rfl

theorem fly_succ_of_some {x : Stride} (h : f.stride? s = some (x, g)) :
    f.fly s (n + 1) = (g.fly s n).map fun r => (x :: r.1, r.2) := by
  rw [fly, h]
  rfl

theorem exists_of_fly_succ (h : f.fly s (n + 1) = some (xs, g)) :
    ∃ x m ys, f.stride? s = some (x, m) ∧ m.fly s n = some (ys, g) ∧ xs = x :: ys := by
  cases hx : f.stride? s with
  | none => rw [fly_succ_of_none hx] at h; cases h
  | some r =>
    obtain ⟨x, m⟩ := r
    rw [fly_succ_of_some hx] at h
    cases hm : m.fly s n with
    | none => rw [hm] at h; cases h
    | some r =>
      obtain ⟨ys, k⟩ := r
      rw [hm] at h
      cases h
      exact ⟨x, m, ys, rfl, hm, rfl⟩

theorem fly_of_queue_nil (h : f.drone.queue = []) : f.fly s (n + 1) = none :=
  fly_succ_of_none (stride?_of_nil h)

theorem fly_add (h : f.fly s n = some (xs, g)) (m : Nat) :
    f.fly s (n + m) = (g.fly s m).map fun r => (xs ++ r.1, r.2) := by
  induction n generalizing f xs with
  | zero =>
    cases h
    rw [Nat.zero_add]
    exact Option.map_id'.symm
  | succ n ih =>
    obtain ⟨x, k, ys, hx, hk, rfl⟩ := exists_of_fly_succ h
    rw [Nat.succ_add, fly_succ_of_some hx, ih hk, Option.map_map]
    rfl

/-- commands behind the queue change nothing as long as nothing clears it -/
theorem fly_onto (ys : List String) (h : f.fly s n = some (xs, g)) (hx : ∀ x ∈ xs, ¬ x.Clears) :
    (f.onto ys).fly s n = some (xs, g.onto ys) := by
  induction n generalizing f xs with
  | zero => cases h; rfl
  | succ n ih =>
    obtain ⟨x, m, zs, hm, hz, rfl⟩ := exists_of_fly_succ h
    have first := stride?_onto ys hm (hx x List.mem_cons_self)
    have rest := ih hz fun z hz => hx z (List.mem_cons_of_mem x hz)
    rw [fly_succ_of_some first, rest]
    rfl

/-- a command that clears the queue is the last of its run, also with commands behind the queue -/
theorem fly_clear (ys : List String) (h : f.fly s n = some (xs, g)) (hx : ∃ x ∈ xs, x.Clears) :
    g.drone.queue = [] ∧ (f.onto ys).fly s n = some (xs, g) := by
  induction n generalizing f xs with
  | zero =>
    cases h
    obtain ⟨x, hx, -⟩ := hx
    cases hx
  | succ n ih =>
    obtain ⟨x, m, zs, hm, hz, rfl⟩ := exists_of_fly_succ h
    by_cases hc : x.Clears
    · -- nothing is left after the clear, so the run has no further command
      have hq := queue_of_clears hm hc
      cases n with
      | succ n => rw [fly_of_queue_nil hq] at hz; cases hz
      | zero =>
        cases hz
        refine ⟨hq, ?_⟩
        rw [fly_succ_of_some (stride?_onto_of_clears ys hm hc)]
        rfl
    · have later : ∃ z ∈ zs, z.Clears := by
        obtain ⟨z, hz, hcz⟩ := hx
        rcases List.mem_cons.mp hz with rfl | hz
        · exact absurd hcz hc
        · exact ⟨z, hz, hcz⟩
      obtain ⟨hq, hf⟩ := ih hz later
      refine ⟨hq, ?_⟩
      rw [fly_succ_of_some (stride?_onto ys hm hc), hf]
      rfl

end

/-- **The queue is a stack.** A run that empties its queue without a clear does the very same with
more commands behind the queue, and leaves exactly these. One that clears its queue does the very
same too, and leaves none of them: no further command follows. -/
theorem queue_is_stack (s : FlightSettings) (f : Flight) (ys : List String) :
    (∀ n xs g, f.fly s n = some (xs, g) → g.drone.queue = [] → (∀ x ∈ xs, ¬ x.Clears) →
      (f.onto ys).fly s n = some (xs, { g with drone := { g.drone with queue := ys } })) ∧
    (∀ k xs x g, f.fly s (k + 1) = some (xs ++ [x], g) → x.Clears →
      g.drone.queue = [] ∧ (f.onto ys).fly s (k + 1) = some (xs ++ [x], g) ∧
        ∀ n, (f.onto ys).fly s (k + 1 + (n + 1)) = none) := by
  constructor
  · intro n xs g h hq hx
    rw [fly_onto ys h hx, onto_of_queue_nil hq]
  · intro k xs x g h hx
    have last : x ∈ xs ++ [x] := List.mem_append_right xs List.mem_cons_self
    obtain ⟨hq, hf⟩ := fly_clear ys h ⟨x, last, hx⟩
    refine ⟨hq, hf, fun n => ?_⟩
    rw [fly_add hf, fly_of_queue_nil hq]
    rfl

/-- a correction of the heading with a landing behind it, and a clear with one behind it -/
theorem queue_is_stack_before_land :
    (∃ (f g : Flight) (xs : List Stride), f.drone.queue = ["reset-dir"] ∧
      xs.map Stride.command = ["reset-dir", "ccw 90"] ∧ f.fly {} 2 = some (xs, g) ∧
      (f.onto ["land"]).fly {} 2 =
        some (xs, { g with drone := { g.drone with queue := ["land"] } })) ∧
    ∃ (f g : Flight) (x : Stride), f.drone.queue = ["clear"] ∧ f.fly {} 1 = some ([x], g) ∧
      (f.onto ["land"]).fly {} 1 = some ([x], g) ∧
      ∀ n, (f.onto ["land"]).fly {} (1 + (n + 1)) = none := by
  let d := Drone.new "tello-1" "127.0.0.101" 4500 100
  constructor
  · let f : Flight := ⟨{ d with yaw := 90, queue := ["reset-dir"] }, none⟩
    have run : (f.fly {} 2).map (fun (xs, g) => (xs.map Stride.command, g.drone.queue)) =
        some (["reset-dir", "ccw 90"], []) := by decide +kernel
    obtain ⟨⟨xs, g⟩, hf, hx⟩ := Option.map_eq_some_iff.mp run
    obtain ⟨commands, empty⟩ := Prod.mk.inj hx
    have kept : ∀ x ∈ xs, ¬ x.Clears := by
      intro x hx hc
      have mem : x.command ∈ xs.map Stride.command := List.mem_map_of_mem hx
      rw [commands] at mem
      have hp : Command.parse x.command = .clear := hc
      rcases List.mem_cons.mp mem with h | mem
      · rw [h] at hp
        cases hp
      · rw [List.mem_singleton.mp mem] at hp
        cases hp
    exact ⟨f, g, xs, rfl, commands, hf, (queue_is_stack {} f ["land"]).1 2 xs g hf empty kept⟩
  · let f : Flight := ⟨{ d with queue := ["clear"] }, none⟩
    let x : Stride := ⟨"clear", { d.snapshot with status := .executing "clear" }, 500, none⟩
    let g : Flight := ⟨{ d with status := .executing "clear" }, none⟩
    have run : f.fly {} 1 = some ([x], g) := rfl
    have cleared : Command.parse "clear" = .clear := rfl
    obtain ⟨-, same, ended⟩ := (queue_is_stack {} f ["land"]).2 0 [] x g run cleared
    exact ⟨f, g, x, rfl, run, same, ended⟩

end DroneFleet.Flight
