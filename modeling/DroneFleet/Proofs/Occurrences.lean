import DroneFleet.Proofs.Endings
import DroneFleet.Proofs.Executors

/-!
# Operations and early ends together

A drone is operated while its runs come and go: they take their steps, are told to end, and leave
releases behind that wait for whoever holds the drone. All of it may come in any order. A flag says
whether a run works on the queue; it stays up until a release that waits is made, although the run
that it was raised for is gone.

* `Bay.Occurrence`, `Bay.meet`   what can happen to a drone and its runs, and what comes of it
* `Bay.meet_cases`        apart from submissions it is one of the moves or one of the turns
* `Bay.life`              the bay after occurrences, and what was reported
* `Bay.Arises`            a bay that occurrences lead to
* `Bay.Flagged`           the flag is up for the only run, or for the release that it left
* `Bay.Arises.flagged`    so it is in every bay that arises
-/

namespace DroneFleet.Bay

/-- what can happen to a drone, to its runs and to who holds it -/
inductive Occurrence where
  | connect
  | disconnect
  | submit (path : List String) (zones : Zones)
  /-- someone takes hold of the drone -/
  | hold
  | letGo
  | step (serial : Nat)
  /-- a run comes to its first step and waits for the drone -/
  | await (serial : Nat)
  /-- a run is told to end -/
  | abort (serial : Nat)
  /-- a run that was told to end is over -/
  | drop (serial : Nat)
  /-- a release is made that waited for the drone -/
  | release

/-- the bay after an occurrence, and what was reported; one that cannot be changes nothing -/
def meet (s : FlightSettings) (now : Nat) (b : Bay) : Occurrence → Bay × Report
  | .connect => b.respond s now .connect
  | .disconnect => b.respond s now .disconnect
  | .submit path zones => b.respond s now (.submit path zones)
  | .hold => b.undergo s now .hold
  | .letGo => b.undergo s now .letGo
  | .step n => b.undergo s now (.step n)
  | .await n => b.undergo s now (.await n)
  | .abort n => b.undergo s now (.abort n)
  | .drop n => b.undergo s now (.drop n)
  | .release => b.undergo s now .release

def Occurrence.IsSubmission : Occurrence → Prop
  | .submit _ _ => True
  | _ => False

/-- an incident that comes of the runs and of who holds the drone, not of an operation -/
def Incident.IsInternal (i : Incident) : Prop := (∀ g, i ≠ .change g) ∧ i ≠ .spawn

section
variable {s : FlightSettings} {now : Nat} {b c : Bay} {rep : Report}

/-- what comes of an occurrence that is no submission is one of the moves of the two other
operations, or one of the turns -/
theorem meet_cases (s : FlightSettings) (now : Nat) (b : Bay) {o : Occurrence}
    (ho : ¬ o.IsSubmission) :
    (∃ e, (e = .connect ∨ e = .disconnect) ∧
        b.Moves s now e (b.meet s now o).1 (b.meet s now o).2) ∨
      ∃ i, Incident.IsInternal i ∧ b.Turn s now i (b.meet s now o).1 (b.meet s now o).2 := by
  cases o with
  | connect => exact Or.inl ⟨.connect, Or.inl rfl, moves_respond s now b .connect⟩
  | disconnect => exact Or.inl ⟨.disconnect, Or.inr rfl, moves_respond s now b .disconnect⟩
  | submit path zones => exact absurd trivial ho
  | hold => exact Or.inr ⟨.hold, ⟨nofun, nofun⟩, turn_undergo s now b .hold⟩
  | letGo => exact Or.inr ⟨.letGo, ⟨nofun, nofun⟩, turn_undergo s now b .letGo⟩
  | step n => exact Or.inr ⟨.step n, ⟨nofun, nofun⟩, turn_undergo s now b (.step n)⟩
  | await n => exact Or.inr ⟨.await n, ⟨nofun, nofun⟩, turn_undergo s now b (.await n)⟩
  | abort n => exact Or.inr ⟨.abort n, ⟨nofun, nofun⟩, turn_undergo s now b (.abort n)⟩
  | drop n => exact Or.inr ⟨.drop n, ⟨nofun, nofun⟩, turn_undergo s now b (.drop n)⟩
  | release => exact Or.inr ⟨.release, ⟨nofun, nofun⟩, turn_undergo s now b .release⟩

/-! ## many occurrences -/

/-- the bay after occurrences with their times, and what was reported -/
def life (s : FlightSettings) : List (Nat × Occurrence) → Bay → Bay × Report
  | [], b => (b, .empty)
  | (now, o) :: os, b =>
    ((life s os (b.meet s now o).1).1,
      (b.meet s now o).2 ++ (life s os (b.meet s now o).1).2)

theorem life_append (past later : List (Nat × Occurrence)) (b : Bay) :
    (b.life s (past ++ later)).1 = ((b.life s past).1.life s later).1 := by
  induction past generalizing b with
  | nil => rfl
  | cons x past ih => exact ih (b.meet s x.1 x.2).1

/-- what no occurrence takes from a bay it has after all of them -/
theorem life_induction {P : Bay → Prop} (kept : ∀ now b o, P b → P (b.meet s now o).1) (h : P b)
    (os : List (Nat × Occurrence)) : P (b.life s os).1 := by
  induction os generalizing b with
  | nil => exact h
  | cons x os ih => exact ih (kept x.1 b x.2 h)

/-- a bay that occurrences lead to from a drone that no run works on -/
def Arises (s : FlightSettings) (b : Bay) : Prop :=
  ∃ (d : Drone) (past : List (Nat × Occurrence)), d.runActive = false ∧
    b = ((Bay.ofDrone d).life s past).1

theorem Arises.life (h : b.Arises s) (os : List (Nat × Occurrence)) : (b.life s os).1.Arises s := by
  obtain ⟨d, past, hd, rfl⟩ := h
  exact ⟨d, past ++ os, hd, (life_append past os _).symm⟩

/-! ## the flag -/

/-- there is one run or one release that waits if the flag is up, and neither otherwise; a flag may
be up for nothing, after a run that never came to its first step -/
def Flagged (b : Bay) : Prop := b.runs.length + b.releases ≤ b.drone.runActive.toNat

theorem Flagged.runs_eq_nil (h : b.Flagged) (ha : b.drone.runActive = false) : b.runs = [] := by
  unfold Flagged at h
  rw [ha, Bool.toNat_false] at h
  exact List.eq_nil_of_length_eq_zero (by omega)

theorem Flagged.releases_eq_zero (h : b.Flagged) (ha : b.drone.runActive = false) :
    b.releases = 0 := by
  unfold Flagged at h
  rw [ha, Bool.toNat_false] at h
  omega

theorem Flagged.of_mem (h : b.Flagged) {r : Run} (hr : r ∈ b.runs) :
    b.runs = [r] ∧ b.releases = 0 ∧ b.drone.runActive = true := by
  have positive : 0 < b.runs.length := List.length_pos_of_mem hr
  have bound := Bool.toNat_le b.drone.runActive
  unfold Flagged at h
  have one : b.runs.length = 1 := by omega
  have none : b.releases = 0 := by omega
  have up : b.drone.runActive.toNat = 1 := by omega
  obtain ⟨q, hq⟩ := List.length_eq_one_iff.mp one
  rw [hq] at hr ⊢
  rw [List.mem_singleton.mp hr]
  exact ⟨rfl, none, Bool.toNat_eq_one.mp up⟩

theorem Flagged.move {e : Event} (h : b.Flagged) (m : b.Moves s now e c rep) : c.Flagged := by
  cases m with
  | refused _ => exact h
  | connect _ => exact h
  | disconnect _ => exact h
  | launch _ ha =>
    -- nothing was there, so the new run is all that is
    show (b.runs ++ [_]).length + b.releases ≤ 1
    rw [h.runs_eq_nil ha, h.releases_eq_zero ha]
    exact Nat.le_refl 1
  | supersede _ _ => exact h
  | @execute r raw rest hr _ =>
    obtain ⟨one, none, up⟩ := h.of_mem hr
    show (sleeping _ _ (without r.serial b.runs)).length + b.releases ≤
      (b.executed s r raw rest).drone.runActive.toNat
    rw [one, without_self, sleeping_nil, none,
      show (b.executed s r raw rest).drone.runActive = b.drone.runActive from
        congrArg Drone.Standing.runActive (standing_executed r raw rest), up]
    exact Nat.le_refl 1
  | @complete r hr _ =>
    obtain ⟨one, none, -⟩ := h.of_mem hr
    show (without r.serial b.runs).length + b.releases ≤ 0
    rw [one, without_self, none]
    exact Nat.le_refl 0

theorem Flagged.undergo {i : Incident} (h : b.Flagged) (hi : Incident.IsInternal i)
    (t : b.Turn s now i c rep) : c.Flagged := by
  cases t with
  | nothing _ => exact h
  | change g => exact absurd rfl (hi.1 g)
  | spawn => exact absurd rfl hi.2
  | hold => exact h
  | letGo => exact h
  | step hr _ _ => exact h.move (moves_advance hr)
  | await _ _ _ =>
    show (b.runs.map _).length + b.releases ≤ _
    rw [List.length_map]
    exact h
  | abort n =>
    show (b.runs.map _).length + b.releases ≤ _
    rw [List.length_map]
    exact h
  | @leave r hr _ _ =>
    obtain ⟨one, none, -⟩ := h.of_mem hr
    show (without r.serial b.runs).length + b.releases ≤ _
    rw [one, without_self, none]
    exact Nat.zero_le _
  | @defer r hr _ _ _ =>
    obtain ⟨one, none, up⟩ := h.of_mem hr
    show (without r.serial b.runs).length + (b.releases + 1) ≤ b.drone.runActive.toNat
    rw [one, without_self, none, up]
    exact Nat.le_refl 1
  | @release r hr _ _ _ =>
    obtain ⟨one, none, -⟩ := h.of_mem hr
    show (without r.serial b.runs).length + b.releases ≤ 0
    rw [one, without_self, none]
    exact Nat.le_refl 0
  | releaseLate hp _ =>
    have bound := Bool.toNat_le b.drone.runActive
    unfold Flagged at h
    show b.runs.length + (b.releases - 1) ≤ 0
    omega

theorem Flagged.meet (h : b.Flagged) (o : Occurrence) : (b.meet s now o).1.Flagged := by
  by_cases ho : o.IsSubmission
  · cases o with
    | submit path zones => exact h.move (moves_respond s now b (.submit path zones))
    | _ => exact absurd ho id
  · rcases meet_cases s now b ho with ⟨e, -, m⟩ | ⟨i, hi, t⟩
    · exact h.move m
    · exact h.undergo hi t

/-- **Whatever happens, the flag is up for every run and for every release that waits.** -/
theorem Arises.flagged (h : b.Arises s) : b.Flagged := by
  obtain ⟨d, past, hd, rfl⟩ := h
  refine life_induction (P := Flagged) (fun now b o h => h.meet o) ?_ past
  exact Nat.zero_le _

end

end DroneFleet.Bay
