import Mathlib.Data.List.Nodup
import DroneFleet.Fleet.Schedule
import DroneFleet.Proofs.Moves

/-!
# Runs that are told to end

A run may be told to end between any two of its steps, before the first of them and while it waits
for the drone. It releases the drone then, at once or, while someone else holds the drone, after
they let go; and it does so once. But a run promises that only when it comes to its first step. One that
is told to end before that leaves the drone as it is, with a flight that nobody carries out.

* `Bay.Incident`, `Bay.undergo`   what can happen to a drone and its runs, and what comes of it
* `Bay.Turn`              the same as a relation, one case for each thing that can come of it
* `Bay.owed`              the releases that are promised and not made yet
* `Bay.Turn.conserves`    every promise is kept once
* `Bay.conserved`         so it is over a whole history
* `Bay.settle`, `Bay.settled_settle`   when nobody holds the drone the schedule keeps all promises
* `Bay.end_releases_iff_begun`   what an end comes to, and that it depends on the first step
-/

namespace DroneFleet

/-! ## releases that are remarked -/

def Remark.isEnding : Remark → Bool
  | .runEndedEarly _ => true
  | _ => false

def Report.endings (r : Report) : Nat := r.remarks.countP Remark.isEnding

theorem Report.endings_append (a b : Report) : (a ++ b).endings = a.endings + b.endings :=
  List.countP_append

namespace Flight

variable {s : FlightSettings}

theorem isEnding_enterRemarks (returnSpeed : Nat) (zone : String) (f : Flight) :
    ∀ x ∈ f.enterRemarks returnSpeed zone, x.isEnding = false := by
  unfold enterRemarks
  split
  · intro x hx
    rw [List.mem_singleton.mp hx]
    rfl
  · exact fun x hx => absurd hx List.not_mem_nil
  · intro x hx
    rw [List.mem_singleton.mp hx]
    rfl

theorem isEnding_remarks (s : FlightSettings) (c : Command) (f : Flight) :
    ∀ x ∈ f.remarks s c, x.isEnding = false := by
  have one : ∀ y : Remark, y.isEnding = false → ∀ x ∈ [y], x.isEnding = false := fun y hy x hx =>
    List.mem_singleton.mp hx ▸ hy
  have none : ∀ x ∈ ([] : List Remark), x.isEnding = false := fun x hx => absurd hx List.not_mem_nil
  cases c with
  | rotate right degrees =>
    cases degrees with
    | none => exact one _ rfl
    | some degrees => exact none
  | record seconds =>
    show ∀ x ∈ (if f.drone.streaming then _ else _), _
    split
    · exact one _ rfl
    · exact none
  | action zone =>
    cases zone with
    | none => exact none
    | some zone => exact isEnding_enterRemarks s.returnSpeed zone f
  | incomplete operator => exact one _ rfl
  | unknown operator => exact one _ rfl
  | _ => exact none

theorem isEnding_stepRemarks (s : FlightSettings) (f : Flight) :
    ∀ x ∈ f.stepRemarks s, x.isEnding = false := by
  unfold stepRemarks
  split
  · intro x hx
    rw [List.mem_singleton.mp hx]
    rfl
  · intro x hx
    rcases List.mem_append.mp hx with hx | hx
    · exact isEnding_remarks s _ _ x hx
    · split at hx
      · rw [List.mem_singleton.mp hx]
        rfl
      · cases hx

end Flight

/-! ## runs in a list -/

namespace Run

/-- a run that is to release the drone: it came to its first step, and was told to end -/
def owes (r : Run) : Bool := r.begun && r.cancelled

theorem owes_of_cancelled {r : Run} (h : r.cancelled = true) : r.owes = r.begun := by
  unfold owes
  rw [h, Bool.and_true]

theorem owes_of_living {r : Run} (h : r.cancelled = false) : r.owes = false := by
  unfold owes
  rw [h, Bool.and_false]

theorem serial_cancel (n : Nat) (r : Run) : (r.cancel n).serial = r.serial := by
  unfold cancel
  split <;> rfl

theorem serial_begin (n : Nat) (r : Run) : (r.begin n).serial = r.serial := by
  unfold begin
  split <;> rfl

end Run

namespace Bay

section
variable {rs : List Run} {r : Run}

theorem find?_serial (h : (rs.map Run.serial).Nodup) (hr : r ∈ rs) :
    (rs.find? fun q => q.serial = r.serial) = some r := by
  cases hf : rs.find? fun q => q.serial = r.serial with
  | none =>
    have gone := List.find?_eq_none.mp hf r hr
    exact absurd (decide_eq_true rfl) gone
  | some q =>
    have hs : q.serial = r.serial := by simpa using List.find?_some hf
    rw [List.inj_on_of_nodup_map h (List.mem_of_find?_eq_some hf) hr hs]

theorem countP_without (h : (rs.map Run.serial).Nodup) (hr : r ∈ rs) (p : Run → Bool) :
    rs.countP p = (without r.serial rs).countP p + (p r).toNat := by
  induction rs with
  | nil => cases hr
  | cons q rs ih =>
    obtain ⟨hq, hrs⟩ := List.nodup_cons.mp h
    rcases List.mem_cons.mp hr with rfl | hr
    · have others : without r.serial (r :: rs) = rs := by
        unfold without
        rw [List.filter_cons_of_neg (by simp), List.filter_eq_self.mpr]
        intro x hx
        have hne : x.serial ≠ r.serial := fun hs => hq (hs ▸ List.mem_map_of_mem hx)
        exact decide_eq_true hne
      rw [others, List.countP_cons]
      cases p r <;> rfl
    · have hne : q.serial ≠ r.serial := fun hs => hq (hs ▸ List.mem_map_of_mem hr)
      have others : without r.serial (q :: rs) = q :: without r.serial rs :=
        List.filter_cons_of_pos (decide_eq_true hne)
      rw [others, List.countP_cons, List.countP_cons, ih hrs hr]
      omega

theorem countP_sleeping (pause : Nat) (r : Run) (others : List Run) (p : Run → Bool) :
    (sleeping pause r others).countP p = others.countP p + (p r).toNat := by
  have one : [r].countP p = (p r).toNat := by
    rw [List.countP_singleton]
    cases p r <;> rfl
  unfold sleeping
  split
  · rw [← List.singleton_append, List.countP_append, one, Nat.add_comm]
  · rw [List.countP_append, one]

theorem countP_owes_cancel (n : Nat) (rs : List Run) :
    (rs.map (Run.cancel n)).countP Run.owes =
      rs.countP Run.owes + rs.countP fun r => r.serial = n && r.begun && !r.cancelled := by
  induction rs with
  | nil => rfl
  | cons r rs ih =>
    rw [List.map_cons, List.countP_cons, List.countP_cons, List.countP_cons, ih]
    unfold Run.cancel Run.owes
    by_cases hs : r.serial = n
    · cases r.begun <;> cases r.cancelled <;> simp [hs] <;> omega
    · simp [hs]
      omega

theorem countP_owes_begin (h : (rs.map Run.serial).Nodup) (hr : r ∈ rs)
    (hl : r.cancelled = false) :
    (rs.map (Run.begin r.serial)).countP Run.owes = rs.countP Run.owes := by
  rw [List.countP_map]
  refine List.countP_congr fun q hq => ?_
  show (q.begin r.serial).owes = true ↔ q.owes = true
  unfold Run.begin
  by_cases hs : q.serial = r.serial
  · rw [List.inj_on_of_nodup_map h hq hr hs, if_pos rfl, Run.owes_of_living hl]
    exact iff_of_eq (congrArg (· = true) (Run.owes_of_living hl))
  · rw [if_neg hs]

theorem mem_sleeping {pause : Nat} {others : List Run} {q : Run}
    (h : q ∈ sleeping pause r others) : q = r ∨ q ∈ others := by
  unfold sleeping at h
  split at h
  · exact List.mem_cons.mp h
  · rcases List.mem_append.mp h with h | h
    · exact Or.inr h
    · exact Or.inl (List.mem_singleton.mp h)

theorem serials_sleeping (pause : Nat) (r : Run) (h : (rs.map Run.serial).Nodup)
    {q : Run} (hq : q.serial = r.serial) :
    ((sleeping pause q (without r.serial rs)).map Run.serial).Nodup := by
  have others : ((without r.serial rs).map Run.serial).Nodup :=
    h.sublist (List.filter_sublist.map _)
  have fresh : q.serial ∉ (without r.serial rs).map Run.serial := by
    intro hmem
    obtain ⟨x, hx, hs⟩ := List.mem_map.mp hmem
    have hne : x.serial ≠ r.serial := of_decide_eq_true (List.mem_filter.mp hx).2
    exact hne (hs.trans hq)
  unfold sleeping
  split
  · exact List.nodup_cons.mpr ⟨fresh, others⟩
  · rw [List.map_append]
    exact List.nodup_append_comm.mp (List.nodup_cons.mpr ⟨fresh, others⟩)

end

/-! ## what can happen -/

/-- what can happen to a drone, to its runs and to who holds it -/
inductive Incident where
  /-- an operation changes what is known of the drone -/
  | change (g : Drone → Drone)
  | spawn
  /-- someone else takes hold of the drone -/
  | hold
  | letGo
  | step (serial : Nat)
  /-- a run comes to its first step and waits for the drone -/
  | await (serial : Nat)
  /-- a run is told to end -/
  | abort (serial : Nat)
  /-- a run that was told to end is over -/
  | drop (serial : Nat)
  /-- a release is made that waited for the drone -/
  | release

/-- what a run does, if it is there -/
def ofRun (serial : Nat) (b : Bay) (act : Run → Bay × Report) : Bay × Report :=
  match b.runs.find? fun r => r.serial = serial with
  | some r => act r
  | none => (b, .empty)

/-- the bay after an incident, and what was reported; one that cannot be changes nothing -/
def undergo (s : FlightSettings) (now : Nat) (b : Bay) : Incident → Bay × Report
  | .change g => ({ b with drone := g b.drone }, .empty)
  | .spawn => (b.spawn now, .empty)
  | .hold => ({ b with held := true }, .empty)
  | .letGo => ({ b with held := false }, .empty)
  | .step n => b.ofRun n fun r => if !b.held && !r.cancelled then b.advance s now r else (b, .empty)
  | .await n => b.ofRun n fun r => if b.held && !r.cancelled then b.await r else (b, .empty)
  | .abort n => (b.abort n, .empty)
  | .drop n => b.ofRun n fun r => if r.cancelled then b.drop now r else (b, .empty)
  | .release => if 0 < b.releases && !b.held then b.releaseLate now else (b, .empty)

/-- the report of an early end -/
def ending (now : Nat) (d : Drone) : Report :=
  ⟨[(now, d.release.snapshot)], [.runEndedEarly d.release.id]⟩

/-- all that can come of an incident -/
inductive Turn (s : FlightSettings) (now : Nat) (b : Bay) : Incident → Bay → Report → Prop where
  | nothing {i : Incident} (h : ∀ n, i ≠ .abort n) : Turn s now b i b .empty
  | change (g : Drone → Drone) : Turn s now b (.change g) { b with drone := g b.drone } .empty
  | spawn : Turn s now b .spawn (b.spawn now) .empty
  | hold : Turn s now b .hold { b with held := true } .empty
  | letGo : Turn s now b .letGo { b with held := false } .empty
  | step {r : Run} (hr : r ∈ b.runs) (hl : r.cancelled = false) (hh : b.held = false) :
    Turn s now b (.step r.serial) (b.advance s now r).1 (b.advance s now r).2
  | await {r : Run} (hr : r ∈ b.runs) (hl : r.cancelled = false) (hh : b.held = true) :
    Turn s now b (.await r.serial) { b with runs := b.runs.map (Run.begin r.serial) } .empty
  | abort (n : Nat) : Turn s now b (.abort n) (b.abort n) .empty
  /-- a run that never came to its first step is over, and that is all -/
  | leave {r : Run} (hr : r ∈ b.runs) (hc : r.cancelled = true) (hb : r.begun = false) :
    Turn s now b (.drop r.serial) { b with runs := without r.serial b.runs } .empty
  /-- the release has to wait for the drone -/
  | defer {r : Run} (hr : r ∈ b.runs) (hc : r.cancelled = true) (hb : r.begun = true)
      (hh : b.held = true) :
    Turn s now b (.drop r.serial)
      { b with runs := without r.serial b.runs, releases := b.releases + 1 } .empty
  | release {r : Run} (hr : r ∈ b.runs) (hc : r.cancelled = true) (hb : r.begun = true)
      (hh : b.held = false) :
    Turn s now b (.drop r.serial)
      { b with runs := without r.serial b.runs, drone := b.drone.release } (ending now b.drone)
  | releaseLate (h : 0 < b.releases) (hh : b.held = false) :
    Turn s now b .release { b with releases := b.releases - 1, drone := b.drone.release }
      (ending now b.drone)

section
variable {s : FlightSettings} {now : Nat} {b : Bay} {r : Run}

theorem drop_of_not_begun (hb : r.begun = false) :
    b.drop now r = ({ b with runs := without r.serial b.runs }, .empty) := by
  simp [drop, hb]

theorem drop_of_held (hb : r.begun = true) (hh : b.held = true) :
    b.drop now r =
      ({ b with runs := without r.serial b.runs, releases := b.releases + 1 }, .empty) := by
  simp [drop, hb, hh]

theorem drop_of_free (hb : r.begun = true) (hh : b.held = false) :
    b.drop now r =
      ({ b with runs := without r.serial b.runs, drone := b.drone.release },
        ending now b.drone) := by
  simp [drop, hb, hh, Bay.release, ending]

theorem turn_drop (hr : r ∈ b.runs) (hc : r.cancelled = true) :
    b.Turn s now (.drop r.serial) (b.drop now r).1 (b.drop now r).2 := by
  by_cases hb : r.begun = true
  · by_cases hh : b.held = true
    · rw [drop_of_held hb hh]
      exact .defer hr hc hb hh
    · rw [drop_of_free hb (eq_false_of_ne_true hh)]
      exact .release hr hc hb (eq_false_of_ne_true hh)
  · rw [drop_of_not_begun (eq_false_of_ne_true hb)]
    exact .leave hr hc (eq_false_of_ne_true hb)

theorem turn_ofRun {i : Incident} (n : Nat) (hi : ∀ m, i ≠ .abort m) (c : Run → Bool)
    {act : Run → Bay × Report}
    (h : ∀ r ∈ b.runs, r.serial = n → c r = true → b.Turn s now i (act r).1 (act r).2) :
    b.Turn s now i (b.ofRun n fun r => if c r then act r else (b, .empty)).1
      (b.ofRun n fun r => if c r then act r else (b, .empty)).2 := by
  unfold ofRun
  cases hf : b.runs.find? fun r => r.serial = n with
  | none => exact .nothing hi
  | some r =>
    show b.Turn s now i (if c r then act r else (b, .empty)).1
      (if c r then act r else (b, .empty)).2
    by_cases hc : c r = true
    · rw [if_pos hc]
      exact h r (List.mem_of_find?_eq_some hf) (by simpa using List.find?_some hf) hc
    · rw [if_neg hc]
      exact .nothing hi

/-- what comes of an incident is one of the turns -/
theorem turn_undergo (s : FlightSettings) (now : Nat) (b : Bay) (i : Incident) :
    b.Turn s now i (b.undergo s now i).1 (b.undergo s now i).2 := by
  cases i with
  | change g => exact .change g
  | spawn => exact .spawn
  | hold => exact .hold
  | letGo => exact .letGo
  | abort n => exact .abort n
  | step n =>
    refine turn_ofRun (i := .step n) n (fun _ h => nomatch h) (fun r => !b.held && !r.cancelled) ?_
    intro r hr hs hc
    obtain ⟨hh, hl⟩ := (Bool.and_eq_true _ _).mp hc
    subst hs
    exact .step hr ((Bool.not_eq_true' _).mp hl) ((Bool.not_eq_true' _).mp hh)
  | await n =>
    refine turn_ofRun (i := .await n) n (fun _ h => nomatch h) (fun r => b.held && !r.cancelled) ?_
    intro r hr hs hc
    obtain ⟨hh, hl⟩ := (Bool.and_eq_true _ _).mp hc
    subst hs
    exact .await hr ((Bool.not_eq_true' _).mp hl) hh
  | drop n =>
    refine turn_ofRun (i := .drop n) n (fun _ h => nomatch h) (fun r => r.cancelled) ?_
    intro r hr hs hc
    subst hs
    exact turn_drop hr hc
  | release =>
    unfold undergo
    by_cases h : (0 < b.releases && !b.held) = true
    · rw [if_pos h]
      obtain ⟨hp, hh⟩ := (Bool.and_eq_true _ _).mp h
      exact .releaseLate (of_decide_eq_true hp) ((Bool.not_eq_true' _).mp hh)
    · rw [if_neg h]
      exact .nothing fun _ h => nomatch h

end

/-! ## promises -/

/-- the runs have different serials, each of which was given -/
structure Numbered (b : Bay) : Prop where
  distinct : (b.runs.map Run.serial).Nodup
  given : ∀ r ∈ b.runs, r.serial < b.spawned

/-- the releases that are promised and not made yet -/
def owed (b : Bay) : Nat := b.runs.countP Run.owes + b.releases

/-- the releases that an incident promises: a run does so when it is told to end after it has come
to its first step, and only once -/
def Incident.promises (b : Bay) : Incident → Nat
  | .abort n => b.runs.countP fun r => r.serial = n && r.begun && !r.cancelled
  | _ => 0

section
variable {s : FlightSettings} {now : Nat} {b c : Bay} {r : Run} {i : Incident} {rep : Report}

theorem numbered_ofDrone (d : Drone) : (Bay.ofDrone d).Numbered where
  distinct := List.nodup_nil
  given _ hr := absurd hr List.not_mem_nil

theorem Numbered.without (h : b.Numbered) (n : Nat) {c : Bay} (hr : c.runs = without n b.runs)
    (hs : c.spawned = b.spawned) : c.Numbered := by
  constructor
  · rw [hr]
    exact h.distinct.sublist (List.filter_sublist.map _)
  · rw [hr, hs]
    exact fun q hq => h.given q (List.mem_of_mem_filter hq)

theorem Numbered.map (h : b.Numbered) {g : Run → Run} (hg : ∀ r, (g r).serial = r.serial) {c : Bay}
    (hr : c.runs = b.runs.map g) (hs : c.spawned = b.spawned) : c.Numbered := by
  have same : (b.runs.map g).map Run.serial = b.runs.map Run.serial := by
    rw [List.map_map]
    exact List.map_congr_left fun r _ => hg r
  constructor
  · rw [hr, same]
    exact h.distinct
  · rw [hr, hs]
    intro q hq
    obtain ⟨r, hr, rfl⟩ := List.mem_map.mp hq
    rw [hg]
    exact h.given r hr

theorem Numbered.spawn (h : b.Numbered) (now : Nat) : (b.spawn now).Numbered := by
  constructor
  · show ((b.runs ++ [_]).map Run.serial).Nodup
    rw [List.map_append]
    refine List.nodup_append_comm.mp (List.nodup_cons.mpr ⟨fun hmem => ?_, h.distinct⟩)
    obtain ⟨r, hr, hs⟩ := List.mem_map.mp hmem
    have lt := h.given r hr
    have eq : r.serial = b.spawned := hs
    omega
  · intro q hq
    show q.serial < b.spawned + 1
    rcases List.mem_append.mp hq with hq | hq
    · exact Nat.lt_succ_of_lt (h.given q hq)
    · rw [List.mem_singleton.mp hq]
      exact Nat.lt_succ_self _

theorem Numbered.advance (h : b.Numbered) (hr : r ∈ b.runs) : (b.advance s now r).1.Numbered := by
  cases hq : b.drone.queue with
  | nil =>
    rw [advance_of_nil now r hq]
    exact h.without r.serial rfl rfl
  | cons raw rest =>
    rw [advance_of_cons now r hq]
    constructor
    · exact serials_sleeping _ r h.distinct rfl
    · intro q hq
      replace hq : q ∈ sleeping _ (paused now _ _ r) (Bay.without r.serial b.runs) := hq
      rcases mem_sleeping hq with rfl | hq
      · exact h.given r hr
      · exact h.given q (List.mem_of_mem_filter hq)

theorem Turn.numbered (h : b.Numbered) (t : b.Turn s now i c rep) : c.Numbered := by
  cases t with
  | nothing _ => exact h
  | change g => exact ⟨h.distinct, h.given⟩
  | spawn => exact h.spawn now
  | hold => exact ⟨h.distinct, h.given⟩
  | letGo => exact ⟨h.distinct, h.given⟩
  | step hr _ _ => exact h.advance hr
  | await _ _ _ => exact h.map (Run.serial_begin _) rfl rfl
  | abort n => exact h.map (Run.serial_cancel n) rfl rfl
  | leave _ _ _ => exact h.without _ rfl rfl
  | defer _ _ _ _ => exact h.without _ rfl rfl
  | release _ _ _ _ => exact h.without _ rfl rfl
  | releaseLate _ _ => exact ⟨h.distinct, h.given⟩

theorem advance_owed (s : FlightSettings) (now : Nat) (h : b.Numbered) (hr : r ∈ b.runs)
    (hl : r.cancelled = false) :
    (b.advance s now r).2.endings = 0 ∧ (b.advance s now r).1.owed = b.owed := by
  have count := countP_without h.distinct hr Run.owes
  rw [Run.owes_of_living hl] at count
  have quiet : ((b.flight r).stepRemarks s).countP Remark.isEnding = 0 :=
    List.countP_eq_zero.mpr fun x hx => by
      rw [Flight.isEnding_stepRemarks s _ x hx]
      exact Bool.false_ne_true
  cases hq : b.drone.queue with
  | nil =>
    rw [advance_of_nil now r hq]
    refine ⟨quiet, ?_⟩
    show (Bay.without r.serial b.runs).countP Run.owes + b.releases = _
    unfold owed
    rw [count]
    rfl
  | cons raw rest =>
    rw [advance_of_cons now r hq]
    refine ⟨quiet, ?_⟩
    show (sleeping _ (paused now _ _ r) (Bay.without r.serial b.runs)).countP Run.owes +
      b.releases = _
    have still : (paused now ((Command.parse raw).pause s)
        (b.executed s r raw rest).zone r).owes = false := Run.owes_of_living hl
    unfold owed
    rw [countP_sleeping, still, count]

theorem owed_without (h : b.Numbered) (hr : r ∈ b.runs) (hc : r.cancelled = true) :
    b.owed = (Bay.without r.serial b.runs).countP Run.owes + r.begun.toNat + b.releases := by
  unfold owed
  rw [countP_without h.distinct hr Run.owes, Run.owes_of_cancelled hc]

/-- **Every promise is kept once.** The releases that are made and those that are owed afterwards
are those that were owed and those that are promised. -/
theorem Turn.conserves (h : b.Numbered) (t : b.Turn s now i c rep) :
    rep.endings + c.owed = b.owed + i.promises b := by
  cases t with
  | nothing hi =>
    have none : i.promises b = 0 := by
      cases i with
      | abort n => exact absurd rfl (hi n)
      | _ => rfl
    rw [none]
    exact Nat.zero_add _
  | change g => exact Nat.zero_add _
  | spawn =>
    show 0 + ((b.runs ++ [_]).countP Run.owes + b.releases) = b.owed + 0
    rw [List.countP_append, Nat.zero_add]
    rfl
  | hold => exact Nat.zero_add _
  | letGo => exact Nat.zero_add _
  | step hr hl _ =>
    obtain ⟨hn, ho⟩ := advance_owed s now h hr hl
    rw [hn, ho]
    exact Nat.zero_add _
  | await hr hl _ =>
    show 0 + ((b.runs.map _).countP Run.owes + b.releases) = b.owed + 0
    rw [countP_owes_begin h.distinct hr hl, Nat.zero_add]
    rfl
  | abort n =>
    show 0 + ((b.runs.map _).countP Run.owes + b.releases) =
      b.runs.countP Run.owes + b.releases + b.runs.countP _
    rw [countP_owes_cancel]
    omega
  | @leave r hr hc hb =>
    show 0 + ((Bay.without r.serial b.runs).countP Run.owes + b.releases) = b.owed + 0
    rw [owed_without h hr hc, hb, Bool.toNat_false]
    omega
  | @defer r hr hc hb _ =>
    show 0 + ((Bay.without r.serial b.runs).countP Run.owes + (b.releases + 1)) = b.owed + 0
    rw [owed_without h hr hc, hb, Bool.toNat_true]
    omega
  | @release r hr hc hb _ =>
    show 1 + ((Bay.without r.serial b.runs).countP Run.owes + b.releases) = b.owed + 0
    rw [owed_without h hr hc, hb, Bool.toNat_true]
    omega
  | releaseLate hp _ =>
    show 1 + (b.runs.countP Run.owes + (b.releases - 1)) =
      b.runs.countP Run.owes + b.releases + 0
    omega

/-- an early end releases the drone, and shows that and nothing else -/
theorem Turn.of_ending (h : b.Numbered) (t : b.Turn s now i c rep) (he : 0 < rep.endings) :
    c.drone = b.drone.release ∧ rep = ending now b.drone := by
  cases t with
  | step hr hl _ =>
    rw [(advance_owed s now h hr hl).1] at he
    exact absurd he (Nat.lt_irrefl 0)
  | release _ _ _ _ => exact ⟨rfl, rfl⟩
  | releaseLate _ _ => exact ⟨rfl, rfl⟩
  | _ => exact absurd he (Nat.lt_irrefl 0)

end

/-! ## histories of a drone -/

/-- the bay after incidents with their times, and what was reported -/
def course (s : FlightSettings) : List (Nat × Incident) → Bay → Bay × Report
  | [], b => (b, .empty)
  | (now, i) :: is, b =>
    let (c, r) := b.undergo s now i
    let (d, r') := course s is c
    (d, r ++ r')

/-- the releases that the incidents of a history promise -/
def promised (s : FlightSettings) : List (Nat × Incident) → Bay → Nat
  | [], _ => 0
  | (now, i) :: is, b => i.promises b + promised s is (b.undergo s now i).1

section
variable {s : FlightSettings} {b : Bay}

theorem course_append (past later : List (Nat × Incident)) (b : Bay) :
    (b.course s (past ++ later)).1 = ((b.course s past).1.course s later).1 := by
  induction past generalizing b with
  | nil => rfl
  | cons x past ih => exact ih (b.undergo s x.1 x.2).1

theorem numbered_course (h : b.Numbered) (is : List (Nat × Incident)) :
    (b.course s is).1.Numbered := by
  induction is generalizing b with
  | nil => exact h
  | cons x is ih => exact ih ((turn_undergo s x.1 b x.2).numbered h)

theorem conserved (h : b.Numbered) (is : List (Nat × Incident)) :
    (b.course s is).2.endings + (b.course s is).1.owed = b.owed + b.promised s is := by
  induction is generalizing b with
  | nil => exact Nat.zero_add _
  | cons x is ih =>
    obtain ⟨now, i⟩ := x
    have turn := turn_undergo s now b i
    have first := turn.conserves h
    have rest := ih (turn.numbered h)
    show ((b.undergo s now i).2 ++ ((b.undergo s now i).1.course s is).2).endings +
        ((b.undergo s now i).1.course s is).1.owed =
      b.owed + (i.promises b + (b.undergo s now i).1.promised s is)
    rw [Report.endings_append]
    omega

end

/-! ## what the schedule does -/

/-- the first tasks of a bay, all done at one time -/
def work (s : FlightSettings) (now : Nat) : Nat → Bay → Bay × Report
  | 0, b => (b, .empty)
  | n + 1, b =>
    match b.task? with
    | none => (b, .empty)
    | some t =>
      let (c, r) := b.perform s now t
      let (d, r') := work s now n c
      (d, r ++ r')

/-- the ends of runs and the releases that are still to be done -/
def pending (b : Bay) : Nat := b.runs.countP (·.cancelled) + b.releases

section
variable {s : FlightSettings} {now : Nat} {b : Bay} {t : Task}

theorem work_succ_of_task (h : b.task? = some t) (n : Nat) :
    b.work s now (n + 1) =
      (((b.perform s now t).1.work s now n).1,
        (b.perform s now t).2 ++ ((b.perform s now t).1.work s now n).2) := by
  rw [work, h]

theorem owed_le_pending (b : Bay) : b.owed ≤ b.pending := by
  unfold owed pending
  have h : b.runs.countP Run.owes ≤ b.runs.countP (·.cancelled) := by
    refine List.countP_mono_left fun r _ hr => ?_
    exact ((Bool.and_eq_true _ _).mp hr).2
  omega

theorem mem_of_earliest {rs : List Run} {r : Run} (h : earliest rs = some r) : r ∈ rs := by
  induction rs with
  | nil => cases h
  | cons q rs ih =>
    unfold earliest at h
    cases he : earliest rs with
    | none =>
      rw [he] at h
      cases h
      exact List.mem_cons_self
    | some p =>
      rw [he] at h
      replace h : (if q.due ≤ p.due then some q else some p) = some r := h
      split at h
      · cases h
        exact List.mem_cons_self
      · cases h
        exact List.mem_cons_of_mem q (ih he)

def ofTask : Task → Incident
  | .drop r => .drop r.serial
  | .release => .release
  | .await r => .await r.serial
  | .step r => .step r.serial

/-- **What the schedule does in a bay is an incident.** -/
theorem perform_eq_undergo (s : FlightSettings) (now : Nat) (h : b.Numbered)
    (ht : b.task? = some t) : b.perform s now t = b.undergo s now (ofTask t) := by
  have there : ∀ r ∈ b.runs, ∀ act, b.ofRun r.serial act = act r := fun r hr act => by
    unfold ofRun
    rw [find?_serial h.distinct hr]
  unfold task? at ht
  cases hf : b.runs.find? (·.cancelled) with
  | some r =>
    rw [hf] at ht
    cases ht
    have hc : r.cancelled = true := List.find?_some hf
    show b.drop now r = b.ofRun r.serial _
    rw [there r (List.mem_of_find?_eq_some hf), if_pos hc]
  | none =>
    rw [hf] at ht
    have living : ∀ r ∈ b.runs, (!r.cancelled) = true := fun r hr => by
      have hc := List.find?_eq_none.mp hf r hr
      rw [eq_false_of_ne_true hc]
      rfl
    cases hh : b.held with
    | true =>
      simp only [hh, if_true] at ht
      obtain ⟨r, he, rfl⟩ := Option.map_eq_some_iff.mp ht
      have hr := List.mem_of_mem_filter (mem_of_earliest he)
      show b.await r = b.ofRun r.serial _
      rw [there r hr, hh, living r hr]
      rfl
    | false =>
      by_cases hp : 0 < b.releases
      · simp only [hh, hp, if_true] at ht
        cases ht
        show b.releaseLate now = if _ then _ else _
        rw [hh, decide_eq_true hp]
        rfl
      · simp only [hh, hp, if_false] at ht
        obtain ⟨r, he, rfl⟩ := Option.map_eq_some_iff.mp ht
        have hr := mem_of_earliest he
        show b.advance s now r = b.ofRun r.serial _
        rw [there r hr, hh, living r hr]
        rfl

/-- and what it does at one time is a history -/
theorem exists_course_of_work (s : FlightSettings) (now : Nat) (h : b.Numbered) (n : Nat) :
    ∃ is, b.course s is = b.work s now n := by
  induction n generalizing b with
  | zero => exact ⟨[], rfl⟩
  | succ n ih =>
    cases ht : b.task? with
    | none =>
      refine ⟨[], ?_⟩
      rw [work, ht]
      rfl
    | some t =>
      obtain ⟨is, his⟩ := ih ((turn_undergo s now b (ofTask t)).numbered h)
      refine ⟨(now, ofTask t) :: is, ?_⟩
      rw [work_succ_of_task ht, perform_eq_undergo s now h ht, ← his]
      rfl

/-- all that is pending, done at one time -/
def settle (s : FlightSettings) (now : Nat) (b : Bay) : Bay × Report := b.work s now b.pending

/-- all promises are kept: the drone is released if there were any, and each was shown -/
structure Settled (now : Nat) (b c : Bay) (rep : Report) : Prop where
  pending : c.pending = 0
  drone : c.drone = if b.owed = 0 then b.drone else b.drone.release
  published : rep.published = List.replicate b.owed (now, b.drone.release.snapshot)

theorem Settled.of_leave {c d : Bay} {rep : Report} (h : Settled now c d rep)
    (hd : c.drone = b.drone) (ho : c.owed = b.owed) : Settled now b d (.empty ++ rep) where
  pending := h.pending
  drone := by rw [h.drone, hd, ho]
  published := by
    show [] ++ rep.published = _
    rw [h.published, hd, ho, List.nil_append]

theorem Settled.of_ending {c d : Bay} {rep : Report} (h : Settled now c d rep)
    (hd : c.drone = b.drone.release) (ho : c.owed + 1 = b.owed) :
    Settled now b d (ending now b.drone ++ rep) where
  pending := h.pending
  drone := by
    have again : b.drone.release.release = b.drone.release := rfl
    rw [h.drone, hd, again, ite_self, if_neg (by omega)]
  published := by
    have again : b.drone.release.release = b.drone.release := rfl
    show [(now, b.drone.release.snapshot)] ++ rep.published = _
    rw [h.published, hd, again, ← ho, List.replicate_succ, List.singleton_append]

/-- **When nobody holds the drone the schedule keeps all promises at once.** -/
theorem settled_settle (s : FlightSettings) (now : Nat) (h : b.Numbered) (hh : b.held = false) :
    Settled now b (b.settle s now).1 (b.settle s now).2 := by
  unfold settle
  induction hn : b.pending generalizing b with
  | zero =>
    have none : b.owed = 0 := by
      have := owed_le_pending b
      omega
    refine ⟨hn, ?_, ?_⟩
    · rw [none, if_pos rfl]
      rfl
    · rw [none]
      rfl
  | succ n ih =>
    cases hf : b.runs.find? (·.cancelled) with
    | some r =>
      have hc : r.cancelled = true := List.find?_some hf
      have hr := List.mem_of_find?_eq_some hf
      have task : b.task? = some (.drop r) := by
        unfold task?
        rw [hf]
      have turn : b.Turn s now (.drop r.serial) _ _ := turn_drop hr hc
      have numbered := turn.numbered h
      have kept := turn.conserves h
      have count := countP_without h.distinct hr (·.cancelled)
      rw [hc, Bool.toNat_true] at count
      rw [work_succ_of_task task]
      show Settled now b (work s now n (b.drop now r).1).1
        ((b.drop now r).2 ++ (work s now n (b.drop now r).1).2)
      have fewer : (without r.serial b.runs).countP (·.cancelled) + b.releases = n := by
        unfold pending at hn
        omega
      cases hb : r.begun with
      | false =>
        rw [drop_of_not_begun hb] at numbered kept ⊢
        exact (ih numbered hh fewer).of_leave rfl ((Nat.zero_add _).symm.trans kept)
      | true =>
        rw [drop_of_free hb hh] at numbered kept ⊢
        exact (ih numbered hh fewer).of_ending rfl ((Nat.add_comm _ 1).trans kept)
    | none =>
      have living : b.runs.countP (·.cancelled) = 0 :=
        List.countP_eq_zero.mpr fun r hr => List.find?_eq_none.mp hf r hr
      unfold pending at hn
      have positive : 0 < b.releases := by omega
      have task : b.task? = some .release := by
        unfold task?
        rw [hf]
        simp only [hh, positive, if_true]
        rfl
      have turn : b.Turn s now .release _ _ := .releaseLate positive hh
      have fewer : b.runs.countP (·.cancelled) + (b.releases - 1) = n := by omega
      rw [work_succ_of_task task]
      exact (ih (turn.numbered h) hh fewer).of_ending rfl
        ((Nat.add_comm _ 1).trans (turn.conserves h))

end

/-! ## an end -/

/-- a bay that incidents lead to from a drone that no run works on -/
def Reachable (s : FlightSettings) (b : Bay) : Prop :=
  ∃ (d : Drone) (past : List (Nat × Incident)), b = ((Bay.ofDrone d).course s past).1

theorem Reachable.numbered {s : FlightSettings} {b : Bay} (h : b.Reachable s) : b.Numbered := by
  obtain ⟨d, past, rfl⟩ := h
  exact numbered_course (numbered_ofDrone d) past

/-- the schedule leads to nothing else -/
theorem Reachable.work {s : FlightSettings} {b : Bay} (h : b.Reachable s) (now n : Nat) :
    (b.work s now n).1.Reachable s := by
  obtain ⟨is, his⟩ := exists_course_of_work s now h.numbered n
  obtain ⟨d, past, rfl⟩ := h
  exact ⟨d, past ++ is, by rw [course_append, his]⟩

section
variable {b : Bay} {r : Run}

theorem promises_abort (h : b.Numbered) (hr : r ∈ b.runs) (hl : r.cancelled = false) :
    (Incident.abort r.serial).promises b = r.begun.toNat := by
  have count := countP_without h.distinct hr fun q =>
    q.serial = r.serial && q.begun && !q.cancelled
  have others : (without r.serial b.runs).countP
      (fun q => q.serial = r.serial && q.begun && !q.cancelled) = 0 := by
    refine List.countP_eq_zero.mpr fun q hq => ?_
    have hne : q.serial ≠ r.serial := of_decide_eq_true (List.mem_filter.mp hq).2
    simp [hne]
  show b.runs.countP _ = _
  rw [count, others, hl]
  simp

theorem abort_of_gone {n : Nat} (h : ∀ r ∈ b.runs, r.serial ≠ n) : b.abort n = b := by
  have same : b.runs.map (Run.cancel n) = b.runs := by
    have each : ∀ r ∈ b.runs, r.cancel n = r := fun r hr => if_neg (h r hr)
    rw [List.map_congr_left each, List.map_id']
  unfold abort
  rw [same]

theorem owed_abort (h : b.Numbered) (hr : r ∈ b.runs) (hl : r.cancelled = false) :
    (b.abort r.serial).owed = b.owed + r.begun.toNat := by
  have turn : b.Turn {} 0 (.abort r.serial) _ _ := .abort r.serial
  have kept := turn.conserves h
  rw [promises_abort h hr hl] at kept
  rw [← kept]
  exact (Nat.zero_add _).symm

end

/-- **An end releases the drone if the run has begun, and only then.** Whatever happened to a drone
and its runs: telling a run to end that is over changes nothing. For one that is not, the releases
that are made and owed afterwards, whatever happens, are one more if the run came to its first step,
and no more if not. Each release leaves the drone with nothing to carry out and shows it once. As
soon as nobody holds the drone the schedule makes all that are owed, and it never leads to anything
but what incidents lead to. -/
theorem end_releases_iff_begun {s : FlightSettings} {b : Bay} (h : b.Reachable s) :
    (∀ n, (∀ r ∈ b.runs, r.serial ≠ n) → b.abort n = b) ∧
    (∀ r ∈ b.runs, r.cancelled = false →
      (b.abort r.serial).drone = b.drone ∧
      (∀ later, ((b.abort r.serial).course s later).2.endings +
          ((b.abort r.serial).course s later).1.owed =
        b.owed + r.begun.toNat + (b.abort r.serial).promised s later) ∧
      (b.held = false → b.owed = 0 → ∀ now,
        (r.begun = true →
          ((b.abort r.serial).settle s now).1.drone = b.drone.release ∧
            ((b.abort r.serial).settle s now).2.published = [(now, b.drone.release.snapshot)]) ∧
        (r.begun = false →
          ((b.abort r.serial).settle s now).1.drone = b.drone ∧
            ((b.abort r.serial).settle s now).2.published = []))) ∧
    (∀ now i, 0 < (b.undergo s now i).2.endings →
      (b.undergo s now i).1.drone = b.drone.release ∧
        (b.undergo s now i).2 = ending now b.drone) ∧
    (b.held = false → ∀ now, Settled now b (b.settle s now).1 (b.settle s now).2) ∧
    (∀ now n, (b.work s now n).1.Reachable s) ∧
    ∀ d : Drone, d.release.queue = [] ∧ d.release.inFlight = false ∧
      d.release.runActive = false ∧ d.release.status = .complete := by
  have numbered := h.numbered
  refine ⟨fun n => abort_of_gone, fun r hr hl => ?_, fun now i => ?_, fun hh now => ?_, h.work,
    fun d => ?_⟩
  · have owed := owed_abort numbered hr hl
    have numbered' : (b.abort r.serial).Numbered :=
      numbered.map (Run.serial_cancel r.serial) rfl rfl
    refine ⟨rfl, fun later => ?_, fun hh ho now => ?_⟩
    · rw [conserved numbered', owed]
    · have settled := settled_settle s now numbered' hh
      rw [ho, Nat.zero_add] at owed
      constructor
      · intro hb
        rw [hb] at owed
        refine ⟨settled.drone.trans ?_, settled.published.trans ?_⟩
        · rw [owed]
          rfl
        · rw [owed]
          rfl
      · intro hb
        rw [hb] at owed
        refine ⟨settled.drone.trans ?_, settled.published.trans ?_⟩
        · rw [owed]
          rfl
        · rw [owed]
          rfl
  · exact (turn_undergo s now b i).of_ending numbered
  · exact settled_settle s now numbered hh
  · exact ⟨rfl, rfl, rfl, rfl⟩

/-- one that is told to end before its first step leaves its flight behind -/
example :
    let b := ((Bay.ofDrone { Drone.new "tello-1" "127.0.0.101" 4500 100 with
      queue := ["takeoff"] }).course {} [(0, .spawn), (0, .abort 0)]).1
    (b.settle {} 7).1.runs = [] ∧ (b.settle {} 7).1.drone.queue = ["takeoff"] ∧
      (b.settle {} 7).2.published = [] := by decide +kernel

end Bay

end DroneFleet
