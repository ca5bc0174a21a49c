import DroneFleet.Fleet

/-!
# Time

Runs sleep between their steps. Time moves from one due step to the next, and everything due is
done before time moves on. Of two runs due at one time the one that went to sleep first goes first,
which is the one whose drone had its last turn before.

* `Task`              what there is to do in a bay
* `Bay.task?`         the first task of a bay
* `Fleet.next?`       the first task of the fleet
* `Fleet.perform`     one task
* `Fleet.tick`        the first task, if it is due
* `Fleet.runUntil`    all tasks due up to a time, and the time itself
-/

namespace DroneFleet

inductive Task where
  /-- the end of a run that was told to end -/
  | drop (run : Run)
  /-- a release that waited for the drone -/
  | release
  /-- a run comes to its first step, but someone else holds the drone -/
  | await (run : Run)
  | step (run : Run)
deriving DecidableEq, Repr

namespace Task

/-- when the task is to be done: what a run does when it is due, all else at once -/
def due (now : Nat) : Task → Nat
  | .await r => max now r.due
  | .step r => max now r.due
  | _ => now

end Task

namespace Bay

/-- the run whose step is due first; of several the first in the list -/
def earliest : List Run → Option Run
  | [] => none
  | r :: rs =>
    match earliest rs with
    | none => some r
    | some q => if r.due ≤ q.due then some r else some q

/-- the first task of a bay. While someone else holds the drone no run takes a step and no release
is made; a run that comes to its first step waits there. -/
def task? (b : Bay) : Option Task :=
  match b.runs.find? (·.cancelled) with
  | some r => some (.drop r)
  | none =>
    if b.held then (earliest (b.runs.filter fun r => !r.begun)).map .await
    else if 0 < b.releases then some .release
    else (earliest b.runs).map .step

/-- is there something to do at once? -/
def isBusy (now : Nat) (b : Bay) : Bool := b.task?.any fun t => t.due now ≤ now

def perform (s : FlightSettings) (now : Nat) (b : Bay) : Task → Bay × Report
  | .drop r => b.drop now r
  | .release => b.releaseLate now
  | .await r => b.await r
  | .step r => b.advance s now r

end Bay

namespace Fleet

structure Due where
  time : Nat
  bay : Bay
  task : Task

/-- how many drones come before a bay when all have something to do at one time -/
def rank (turns : List String) (b : Bay) : Nat := turns.idxOf b.drone.id

def Due.before (turns : List String) (a b : Due) : Bool :=
  a.time < b.time || (a.time = b.time && rank turns a.bay ≤ rank turns b.bay)

def first? (turns : List String) (now : Nat) : List Bay → Option Due
  | [] => none
  | b :: bs =>
    match b.task?, first? turns now bs with
    | none, later => later
    | some t, none => some ⟨t.due now, b, t⟩
    | some t, some later =>
      let mine : Due := ⟨t.due now, b, t⟩
      if mine.before turns later then some mine else some later

def next? (f : Fleet) : Option Due := first? f.turns f.clock f.bays

/-- does a task of a bay, with the time moved to `time`. The drone keeps its turn while there is
something to do for it at once. -/
def perform (time : Nat) (b : Bay) (t : Task) (f : Fleet) : Fleet × Report :=
  let (b', r) := b.perform f.settings time t
  let g := { f with clock := time }.set b.drone.id b'
  ((if b'.isBusy time then g else g.requeue b.drone.id).tell r, r)

/-- does the first task, if it is due by `limit` -/
def tick (limit : Nat) (f : Fleet) : Option (Fleet × Report) :=
  match f.next? with
  | none => none
  | some ⟨time, b, task⟩ => if time ≤ limit then some (f.perform time b task) else none

/-- does all tasks due by `limit`, `fuel` at most; `done` are the reports so far, the last first -/
def drain (limit : Nat) : Nat → List Report → Fleet → Fleet × List Report
  | 0, done, f => (f, done)
  | fuel + 1, done, f =>
    match f.tick limit with
    | some (f, r) => drain limit fuel (r :: done) f
    | none => (f, done)

/-- does all tasks due by `limit`, `fuel` at most, and lets the time be `limit` -/
def runUntil (fuel limit : Nat) (f : Fleet) : Fleet × Report :=
  let (g, done) := f.drain limit fuel []
  ({ g with clock := max g.clock limit }, .join done.reverse)

def settle (fuel : Nat) (f : Fleet) : Fleet × Report := f.runUntil fuel f.clock

end Fleet

end DroneFleet
