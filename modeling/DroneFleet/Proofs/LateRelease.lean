import DroneFleet.Proofs.Occurrences
import DroneFleet.Proofs.Strides

/-!
# Releases that come late

A run that ends while someone else holds its drone leaves a release behind, which is made after they
let go. A flight may be accepted before that or after. The flag of the drone is up until the release
is made. So a flight that comes first is taken for one that the run goes on with, but there is no
run; and the release that follows empties its queue. A flight that comes after the release has a run
of its own, which nothing takes from it.

* `Bay.AwaitsRelease`, `Bay.Vacant`   a drone without a run, before and after the late release
* `Bay.rests_or_releases` until a flight is accepted, it only waits, or the release is made
* `Bay.Stranded`          what becomes of the queue of a drone that awaits its release
* `Bay.Carries`           a bay whose run carries out a flight
* `Bay.Secured`           it goes on with it, command by command, until the queue is empty
* `Bay.flight_after_early_end`   a flight is carried out after the late release, and lost before it
-/

namespace DroneFleet.Bay

/-! ## drones without a run -/

/-- a drone whose run is over, and whose release waits -/
structure AwaitsRelease (b : Bay) : Prop where
  runs : b.runs = []
  releases : b.releases = 1

/-- a drone that no run works on and no release waits for; it has nothing to carry out -/
structure Vacant (b : Bay) : Prop where
  runs : b.runs = []
  releases : b.releases = 0
  queue : b.drone.queue = []
  runActive : b.drone.runActive = false

/-- a bay without a run in which at most the connection, or who holds the drone, has changed -/
structure Rests (b c : Bay) (rep : Report) : Prop where
  runs : c.runs = []
  releases : c.releases = b.releases
  queue : b.drone.queue = [] → c.drone.queue = []
  runActive : c.drone.runActive = b.drone.runActive
  published : rep.published = []

structure Releases (now : Nat) (b c : Bay) (rep : Report) : Prop where
  runs : c.runs = []
  releases : c.releases + 1 = b.releases
  drone : c.drone = b.drone.release
  published : rep.published = [(now, b.drone.release.snapshot)]

section
variable {s : FlightSettings} {now : Nat} {b c : Bay} {rep : Report}

theorem Rests.operate {e : Event} (h : b.runs = []) (m : b.Moves s now e c rep)
    (he : e = .connect ∨ e = .disconnect) : Rests b c rep := by
  have gone : ∀ r : Run, r ∉ b.runs := fun r => by
    rw [h]
    exact List.not_mem_nil
  cases m with
  | refused _ => exact ⟨h, rfl, id, rfl, rfl⟩
  | connect _ => exact ⟨h, rfl, id, rfl, rfl⟩
  | disconnect _ => exact ⟨h, rfl, fun _ => rfl, rfl, rfl⟩
  | launch _ _ => exact absurd he (by simp)
  | supersede _ _ => exact absurd he (by simp)
  | execute hr _ => exact absurd hr (gone _)
  | complete hr _ => exact absurd hr (gone _)

/-- where there is no run, nothing comes of runs but a release -/
theorem rests_or_releases {i : Incident} (h : b.runs = []) (t : b.Turn s now i c rep)
    (hi : Incident.IsInternal i) : Rests b c rep ∨ Releases now b c rep := by
  have gone : ∀ r : Run, r ∉ b.runs := fun r => by
    rw [h]
    exact List.not_mem_nil
  cases t with
  | nothing _ => exact Or.inl ⟨h, rfl, id, rfl, rfl⟩
  | change g => exact absurd rfl (hi.1 g)
  | spawn => exact absurd rfl hi.2
  | hold => exact Or.inl ⟨h, rfl, id, rfl, rfl⟩
  | letGo => exact Or.inl ⟨h, rfl, id, rfl, rfl⟩
  | step hr _ _ => exact absurd hr (gone _)
  | await hr _ _ => exact absurd hr (gone _)
  | abort n =>
    have none : b.runs.map (Run.cancel n) = [] := by rw [h, List.map_nil]
    exact Or.inl ⟨none, rfl, id, rfl, rfl⟩
  | leave hr _ _ => exact absurd hr (gone _)
  | defer hr _ _ _ => exact absurd hr (gone _)
  | release hr _ _ _ => exact absurd hr (gone _)
  | releaseLate hp _ => exact Or.inr ⟨h, Nat.sub_add_cancel hp, rfl, rfl⟩

theorem rests_or_releases_meet (h : b.runs = []) {o : Occurrence} (ho : ¬ o.IsSubmission) :
    Rests b (b.meet s now o).1 (b.meet s now o).2 ∨
      Releases now b (b.meet s now o).1 (b.meet s now o).2 := by
  rcases meet_cases s now b ho with ⟨e, he, m⟩ | ⟨i, hi, t⟩
  · exact Or.inl (.operate h m he)
  · exact rests_or_releases h t hi

theorem Vacant.meet (h : b.Vacant) {o : Occurrence} (ho : ¬ o.IsSubmission) :
    (b.meet s now o).1.Vacant ∧ (b.meet s now o).2.published = [] := by
  rcases rests_or_releases_meet h.runs ho with rests | releases
  · exact ⟨⟨rests.runs, rests.releases.trans h.releases, rests.queue h.queue,
      rests.runActive.trans h.runActive⟩, rests.published⟩
  · have one := releases.releases
    rw [h.releases] at one
    cases one

theorem AwaitsRelease.meet (h : b.AwaitsRelease) {o : Occurrence} (ho : ¬ o.IsSubmission) :
    ((b.meet s now o).1.AwaitsRelease ∧ (b.meet s now o).2.published = []) ∨
      ((b.meet s now o).1.Vacant ∧
        (b.meet s now o).2.published = [(now, b.drone.release.snapshot)]) := by
  rcases rests_or_releases_meet h.runs ho with rests | releases
  · exact Or.inl ⟨⟨rests.runs, rests.releases.trans h.releases⟩, rests.published⟩
  · have none := releases.releases
    rw [h.releases] at none
    have drone := releases.drone
    refine Or.inr ⟨⟨releases.runs, Nat.succ.inj none, ?_, ?_⟩, releases.published⟩
    · rw [drone]
      rfl
    · rw [drone]
      rfl

theorem AwaitsRelease.runActive (h : b.AwaitsRelease) (hf : b.Flagged) :
    b.drone.runActive = true := by
  unfold Flagged at hf
  rw [h.runs, h.releases] at hf
  have bound := Bool.toNat_le b.drone.runActive
  exact Bool.toNat_eq_one.mp (by omega)

end

section
variable {s : FlightSettings} {b : Bay}

theorem Vacant.life {os : List (Nat × Occurrence)} (h : b.Vacant)
    (hos : ∀ x ∈ os, ¬ x.2.IsSubmission) :
    (b.life s os).1.Vacant ∧ (b.life s os).2.published = [] := by
  induction os generalizing b with
  | nil => exact ⟨h, rfl⟩
  | cons x os ih =>
    have here : (b.meet s x.1 x.2).1.Vacant ∧ (b.meet s x.1 x.2).2.published = [] :=
      h.meet (hos x List.mem_cons_self)
    obtain ⟨vacant, quiet⟩ := here
    obtain ⟨later, silent⟩ := ih vacant fun y hy => hos y (List.mem_cons_of_mem _ hy)
    refine ⟨later, ?_⟩
    show (b.meet s x.1 x.2).2.published ++ _ = _
    rw [quiet, silent, List.append_nil]

/-- until a flight is submitted nothing comes of a drone that awaits its release but the release -/
theorem AwaitsRelease.life {os : List (Nat × Occurrence)} (h : b.AwaitsRelease)
    (hos : ∀ x ∈ os, ¬ x.2.IsSubmission) :
    ((b.life s os).1.AwaitsRelease ∧ (b.life s os).2.published = []) ∨
      ((b.life s os).1.Vacant ∧
        ∃ t d, (b.life s os).2.published = [(t, Drone.snapshot (Drone.release d))]) := by
  induction os generalizing b with
  | nil => exact Or.inl ⟨h, rfl⟩
  | cons x os ih =>
    have rest : ∀ y ∈ os, ¬ y.2.IsSubmission := fun y hy => hos y (List.mem_cons_of_mem _ hy)
    show (_ ∧ (b.meet s x.1 x.2).2.published ++ _ = _) ∨
      (_ ∧ ∃ t d, (b.meet s x.1 x.2).2.published ++ _ = _)
    have here : ((b.meet s x.1 x.2).1.AwaitsRelease ∧ (b.meet s x.1 x.2).2.published = []) ∨
        ((b.meet s x.1 x.2).1.Vacant ∧
          (b.meet s x.1 x.2).2.published = [(x.1, b.drone.release.snapshot)]) :=
      h.meet (hos x List.mem_cons_self)
    rcases here with ⟨waits, quiet⟩ | ⟨vacant, told⟩
    · rw [quiet]
      exact ih waits rest
    · obtain ⟨later, silent⟩ := vacant.life (s := s) rest
      refine Or.inr ⟨later, x.1, b.drone, ?_⟩
      rw [told, silent, List.append_nil]

end

/-! ## drones whose run carries out a flight -/

/-- an occurrence that leaves the flight of a connected drone to the run of a serial -/
def Occurrence.Spares (n : Nat) : Occurrence → Prop
  | .submit _ _ => False
  | .disconnect => False
  | .abort m => m ≠ n
  | _ => True

theorem Occurrence.Spares.not_submission {n : Nat} {o : Occurrence} (h : o.Spares n) :
    ¬ o.IsSubmission := by
  cases o with
  | submit path zones => exact absurd h id
  | _ => exact id

/-- the run of a serial carries out a flight for its drone, and no release threatens it -/
structure Carries (n : Nat) (k : Flight) (b : Bay) : Prop where
  run : ∃ r, b.runs = [r] ∧ r.serial = n ∧ r.cancelled = false ∧ r.zone = k.zone
  releases : b.releases = 0
  drone : b.drone = k.drone
  connected : b.drone.connected = true
  runActive : b.drone.runActive = true

section
variable {s : FlightSettings} {now n : Nat} {k : Flight} {b c : Bay} {rep : Report}

theorem Carries.task? (h : Carries n k b) (hh : b.held = false) :
    ∃ r, b.task? = some (.step r) ∧ r.serial = n := by
  obtain ⟨r, one, serial, living, -⟩ := h.run
  refine ⟨r, ?_, serial⟩
  simp [Bay.task?, one, living, hh, h.releases, earliest]

/-- a run that takes a step executes the next command of its flight, or ends it -/
theorem Carries.advance (h : Carries n k b) {r : Run} (hr : r ∈ b.runs) :
    (∃ x g, k.stride? s = some (x, g) ∧ Carries n g (b.advance s now r).1 ∧
        (b.advance s now r).2.published = [(now, x.snapshot)]) ∨
      (k.drone.queue = [] ∧ (b.advance s now r).1.Vacant ∧
        (b.advance s now r).2.published = [(now, k.drone.finish.snapshot)]) := by
  obtain ⟨q, one, serial, living, zone⟩ := h.run
  obtain rfl : r = q := by
    rw [one] at hr
    exact List.mem_singleton.mp hr
  have alone : without r.serial b.runs = [] := by rw [one, without_self]
  have flight : b.flight r = k := by
    unfold Bay.flight
    rw [h.drone, zone]
  cases hq : b.drone.queue with
  | nil =>
    rw [advance_of_nil now r hq, ← h.drone]
    exact Or.inr ⟨hq, ⟨alone, h.releases, hq, rfl⟩, rfl⟩
  | cons raw rest =>
    have standing := standing_executed (s := s) (b := b) r raw rest
    have next : b.executed s r raw rest = (k.pop raw rest).apply s (.parse raw) := by
      unfold Bay.executed
      rw [flight]
    rw [next] at standing
    rw [advance_of_cons now r hq, next, alone, sleeping_nil]
    refine Or.inl ⟨_, _, Flight.stride?_of_cons (h.drone ▸ hq), ⟨⟨_, rfl, serial, living, rfl⟩,
      h.releases, rfl, ?_, ?_⟩, rfl⟩
    · exact (congrArg Drone.Standing.connected standing).trans h.connected
    · exact (congrArg Drone.Standing.runActive standing).trans h.runActive

/-- what comes of a flight that is carried out: nothing, its next command, or its end -/
def Carries.Goes (s : FlightSettings) (now n : Nat) (k : Flight) (c : Bay) (rep : Report) : Prop :=
  (Carries n k c ∧ rep.published = []) ∨
    (∃ x g, k.stride? s = some (x, g) ∧ Carries n g c ∧ rep.published = [(now, x.snapshot)]) ∨
    (k.drone.queue = [] ∧ c.Vacant ∧ rep.published = [(now, k.drone.finish.snapshot)])

theorem Carries.undergo {i : Incident} (h : Carries n k b) (t : b.Turn s now i c rep)
    (hi : Incident.IsInternal i) (ha : i ≠ .abort n) : Carries.Goes s now n k c rep := by
  obtain ⟨r, one, serial, living, zone⟩ := h.run
  have only : ∀ {q : Run}, q ∈ b.runs → q = r := fun hq => by
    rw [one] at hq
    exact List.mem_singleton.mp hq
  have same : ∀ {c : Bay} {q : Run}, c.runs = [q] → q.serial = n → q.cancelled = false →
      q.zone = k.zone → c.releases = b.releases → c.drone = b.drone → Carries n k c :=
    fun runs serial living zone releases drone =>
      ⟨⟨_, runs, serial, living, zone⟩, releases.trans h.releases, drone.trans h.drone,
        (congrArg _ drone).trans h.connected, (congrArg _ drone).trans h.runActive⟩
  have never : ∀ {q : Run}, q ∈ b.runs → q.cancelled ≠ true := fun hq hc => by
    rw [only hq, living] at hc
    cases hc
  cases t with
  | nothing _ => exact Or.inl ⟨h, rfl⟩
  | change g => exact absurd rfl (hi.1 g)
  | spawn => exact absurd rfl hi.2
  | hold => exact Or.inl ⟨same one serial living zone rfl rfl, rfl⟩
  | letGo => exact Or.inl ⟨same one serial living zone rfl rfl, rfl⟩
  | step hr _ _ => exact Or.inr (h.advance hr)
  | @await q _ _ _ =>
    have runs : b.runs.map (Run.begin q.serial) = [r.begin q.serial] := by
      rw [one, List.map_singleton]
    refine Or.inl ⟨same runs ((Run.serial_begin _ r).trans serial) ?_ ?_ rfl rfl, rfl⟩
    · unfold Run.begin
      split <;> exact living
    · unfold Run.begin
      split <;> exact zone
  | abort m =>
    have other : r.serial ≠ m := fun hm => ha (by rw [← hm, serial])
    have runs : b.runs.map (Run.cancel m) = [r] := by
      rw [one, List.map_singleton, Run.cancel, if_neg other]
    exact Or.inl ⟨same runs serial living zone rfl rfl, rfl⟩
  | leave hr hc _ => exact absurd hc (never hr)
  | defer hr hc _ _ => exact absurd hc (never hr)
  | release hr hc _ _ => exact absurd hc (never hr)
  | releaseLate hp _ =>
    rw [h.releases] at hp
    exact absurd hp (Nat.lt_irrefl 0)

theorem Carries.meet (h : Carries n k b) {o : Occurrence} (ho : o.Spares n) :
    Carries.Goes s now n k (b.meet s now o).1 (b.meet s now o).2 := by
  cases o with
  | connect =>
    have refused : b.respond s now .connect = (b, .empty) :=
      respond_of_refuses (e := .connect) h.connected
    unfold Bay.meet
    rw [refused]
    exact Or.inl ⟨h, rfl⟩
  | disconnect => exact absurd ho id
  | submit path zones => exact absurd ho id
  | abort m =>
    have other : Incident.abort m ≠ .abort n := fun hm => ho (Incident.abort.inj hm)
    exact h.undergo (turn_undergo s now b (.abort m)) ⟨nofun, nofun⟩ other
  | hold => exact h.undergo (turn_undergo s now b .hold) ⟨nofun, nofun⟩ nofun
  | letGo => exact h.undergo (turn_undergo s now b .letGo) ⟨nofun, nofun⟩ nofun
  | step m => exact h.undergo (turn_undergo s now b (.step m)) ⟨nofun, nofun⟩ nofun
  | await m => exact h.undergo (turn_undergo s now b (.await m)) ⟨nofun, nofun⟩ nofun
  | drop m => exact h.undergo (turn_undergo s now b (.drop m)) ⟨nofun, nofun⟩ nofun
  | release => exact h.undergo (turn_undergo s now b .release) ⟨nofun, nofun⟩ nofun

end

/-- the flight of a drone is safe with the run of a serial: whatever happens that spares the run,
the flight has come some commands further, each told of once, and either the run carries out the
rest, with its next step the next task unless someone holds the drone, or the queue is empty, of
which the drone's observers are told last -/
def Secured (s : FlightSettings) (n : Nat) (k : Flight) (b : Bay) : Prop :=
  ∀ os : List (Nat × Occurrence), (∀ x ∈ os, x.2.Spares n) →
    ∃ m xs g, k.fly s m = some (xs, g) ∧
      ((Carries n g (b.life s os).1 ∧
          ((b.life s os).1.held = false →
            ∃ r, (b.life s os).1.task? = some (.step r) ∧ r.serial = n) ∧
          (b.life s os).2.published.map Prod.snd = xs.map (·.snapshot)) ∨
        (g.drone.queue = [] ∧ (b.life s os).1.Vacant ∧
          (b.life s os).2.published.map Prod.snd =
            xs.map (·.snapshot) ++ [g.drone.finish.snapshot]))

theorem Carries.secured {s : FlightSettings} {n : Nat} {k : Flight} {b : Bay}
    (h : Carries n k b) : Secured s n k b := by
  intro os hos
  induction os generalizing k b with
  | nil => exact ⟨0, [], k, rfl, Or.inl ⟨h, h.task?, rfl⟩⟩
  | cons x os ih =>
    have rest : ∀ y ∈ os, y.2.Spares n := fun y hy => hos y (List.mem_cons_of_mem _ hy)
    have goes : Carries.Goes s x.1 n k (b.meet s x.1 x.2).1 (b.meet s x.1 x.2).2 :=
      h.meet (hos x List.mem_cons_self)
    have told : (b.life s (x :: os)).2.published =
        (b.meet s x.1 x.2).2.published ++ ((b.meet s x.1 x.2).1.life s os).2.published := rfl
    rw [told]
    show ∃ m xs g, _ ∧ ((Carries n g ((b.meet s x.1 x.2).1.life s os).1 ∧ _) ∨ _)
    rcases goes with ⟨same, quiet⟩ | ⟨y, f, next, further, one⟩ | ⟨empty, vacant, last⟩
    · obtain ⟨m, xs, g, flown, state⟩ := ih same rest
      rw [quiet, List.nil_append]
      exact ⟨m, xs, g, flown, state⟩
    · obtain ⟨m, xs, g, flown, state⟩ := ih further rest
      have more : k.fly s (m + 1) = some (y :: xs, g) := by
        rw [Flight.fly_succ_of_some next, flown]
        rfl
      refine ⟨m + 1, y :: xs, g, more, ?_⟩
      rw [one, List.singleton_append, List.map_cons, List.map_cons]
      rcases state with ⟨carries, task, told⟩ | ⟨done, later, told⟩
      · exact Or.inl ⟨carries, task, by rw [told]⟩
      · exact Or.inr ⟨done, later, by rw [told]; rfl⟩
    · obtain ⟨later, silent⟩ := vacant.life (s := s) fun y hy => (rest y hy).not_submission
      refine ⟨0, [], k, rfl, Or.inr ⟨empty, later, ?_⟩⟩
      rw [last, silent]
      rfl

/-! ## flights after an early end -/

/-- the flight of a drone is lost: only the release that waits is left to do, and until another
flight is submitted that is all that comes of the drone, with its queue emptied -/
def Stranded (s : FlightSettings) (b : Bay) : Prop :=
  b.AwaitsRelease ∧ b.task? = (if b.held then none else some .release) ∧
    ∀ os : List (Nat × Occurrence), (∀ x ∈ os, ¬ x.2.IsSubmission) →
      ((b.life s os).1.AwaitsRelease ∧ (b.life s os).2.published = []) ∨
        ((b.life s os).1.Vacant ∧
          ∃ t d, (b.life s os).2.published = [(t, Drone.snapshot (Drone.release d))])

section
variable {s : FlightSettings} {a b : Bay}

theorem AwaitsRelease.stranded (h : b.AwaitsRelease) : Stranded s b := by
  refine ⟨h, ?_, fun os hos => h.life hos⟩
  simp [Bay.task?, h.runs, h.releases, earliest]

theorem AwaitsRelease.submit (h : b.AwaitsRelease) (hf : b.Flagged)
    (hc : b.drone.connected = true) (now : Nat) (path : List String) (zones : Zones) :
    (b.meet s now (.submit path zones)).1.drone.queue = path ∧
      Stranded s (b.meet s now (.submit path zones)).1 := by
  have same : (b.meet s now (.submit path zones)).1 =
      { b with drone := prepare path zones b.drone } :=
    respond_submit_of_active (s := s) hc (h.runActive hf) path zones
  have waits : AwaitsRelease { b with drone := prepare path zones b.drone } := ⟨h.runs, h.releases⟩
  rw [same]
  exact ⟨rfl, waits.stranded⟩

theorem Vacant.submit (h : b.Vacant) (hc : b.drone.connected = true) (now : Nat)
    (path : List String) (zones : Zones) :
    (b.meet s now (.submit path zones)).1.drone.queue = path ∧
      Secured s b.spawned ⟨(b.meet s now (.submit path zones)).1.drone, none⟩
        (b.meet s now (.submit path zones)).1 := by
  have begins : (b.meet s now (.submit path zones)).1 =
      { b with drone := { prepare path zones b.drone with runActive := true } }.spawn now :=
    respond_submit_of_idle (s := s) hc h.runActive path zones
  rw [begins]
  have runs : b.runs ++ [⟨b.spawned, none, now, false, false⟩] =
      [⟨b.spawned, none, now, false, false⟩] := by
    rw [h.runs, List.nil_append]
  refine ⟨rfl, Carries.secured ⟨⟨_, runs, rfl, rfl, rfl⟩, h.releases, rfl, hc, rfl⟩⟩

theorem AwaitsRelease.of_drop (hf : a.Flagged) {r : Run} (hr : r ∈ a.runs)
    (hc : r.cancelled = true) (hb : r.begun = true) (hh : a.held = true) (now : Nat) :
    (a.meet s now (.drop r.serial)).1.AwaitsRelease ∧
      (a.meet s now (.drop r.serial)).2.published = [] := by
  obtain ⟨one, none, -⟩ := hf.of_mem hr
  have dropped : a.meet s now (.drop r.serial) = a.drop now r := by
    show a.ofRun r.serial _ = _
    simp [ofRun, one, hc]
  rw [dropped, drop_of_held hb hh]
  refine ⟨⟨?_, ?_⟩, rfl⟩
  · show without r.serial a.runs = []
    rw [one, without_self]
  · show a.releases + 1 = 1
    rw [none]

/-- **A flight that is accepted after a run ended early.** The run of a drone ends while someone else
holds it, so that its release has to wait. If the release is made before the next flight is
accepted, that flight has a run which carries it out, and nothing takes the flight from it. If the
flight comes first it is lost: there is no run for it, and the release empties the queue. -/
theorem flight_after_early_end {r : Run} {t : Nat} {between : List (Nat × Occurrence)}
    (h : a.Arises s) (hr : r ∈ a.runs) (hc : r.cancelled = true) (hb : r.begun = true)
    (hh : a.held = true) (none : ∀ x ∈ between, ¬ x.2.IsSubmission)
    (later : b = (a.life s ((t, .drop r.serial) :: between)).1)
    (online : b.drone.connected = true) (now : Nat) (path : List String) (zones : Zones) :
    (b.meet s now (.submit path zones)).1.drone.queue = path ∧
      ((b.Vacant ∧
          (∃ u d, (a.life s ((t, .drop r.serial) :: between)).2.published =
            [(u, Drone.snapshot (Drone.release d))]) ∧
          Secured s b.spawned ⟨(b.meet s now (.submit path zones)).1.drone, Option.none⟩
            (b.meet s now (.submit path zones)).1) ∨
        (b.AwaitsRelease ∧ (a.life s ((t, .drop r.serial) :: between)).2.published = [] ∧
          Stranded s (b.meet s now (.submit path zones)).1)) := by
  have flagged : b.Flagged := by
    rw [later]
    exact (h.life _).flagged
  have ended : (a.meet s t (.drop r.serial)).1.AwaitsRelease ∧
      (a.meet s t (.drop r.serial)).2.published = [] :=
    AwaitsRelease.of_drop h.flagged hr hc hb hh t
  have told : (a.life s ((t, .drop r.serial) :: between)).2.published =
      (a.meet s t (.drop r.serial)).2.published ++
        ((a.meet s t (.drop r.serial)).1.life s between).2.published := rfl
  rw [told, ended.2, List.nil_append]
  rcases ended.1.life none with ⟨waits, quiet⟩ | ⟨vacant, u, d, released⟩
  · have waits : b.AwaitsRelease := by
      rw [later]
      exact waits
    obtain ⟨queue, stranded⟩ := waits.submit flagged online now path zones
    exact ⟨queue, Or.inr ⟨waits, quiet, stranded⟩⟩
  · have vacant : b.Vacant := by
      rw [later]
      exact vacant
    obtain ⟨queue, secured⟩ := vacant.submit online now path zones
    exact ⟨queue, Or.inl ⟨vacant, ⟨u, d, released⟩, secured⟩⟩

end

/-- a drone takes off and waits, its run is told to end while someone else is at it, and then the
release and the next flight come in the one order and in the other -/
example :
    let past := [(0, Occurrence.submit ["takeoff", "wait 5000"] []), (0, .step 0), (500, .hold),
      (500, .abort 0), (500, .drop 0), (501, .letGo)]
    let b := ((ofDrone { Drone.new "tello-1" "127.0.0.101" 4500 100 with
      connected := true }).life {} past).1
    let safe := (b.life {} [(501, .release), (501, .submit ["land"] [])]).1
    let lost := (b.life {} [(501, .submit ["land"] []), (501, .release)]).1
    safe.drone.queue = ["land"] ∧ safe.task?.isSome ∧ lost.drone.queue = [] ∧
      lost.task? = none := by decide +kernel

end DroneFleet.Bay
