import DroneFleet.Journal.Filter
import DroneFleet.Listener

/-!
# The course of a process

What a process remarks between its start and its end, apart from what its requests lead to. It
seeds the fleet and then listens; if it cannot listen it waits all the same to be interrupted.

* `Course.listening` the remark on whether it listens
* `Course.opening`   the remarks from the start until it listens or knows that it cannot
* `Course.closing`   the remarks from the interruption to the end
* `Course.remarks`   the remarks of a process so far
-/

namespace DroneFleet.Course

/-- the remark on whether it listens: with the address, or with the reason why it cannot -/
def listening (w : WebSettings) (others : List WebSettings) : Remark :=
  match w.place? with
  | some h =>
    if w.isFree others then .serving (WebSettings.withPort h.report w.port)
    else .notServing w.refusal
  | none => .notServing w.refusal

/-- the remarks until it listens, or knows that it cannot because of its settings or of others -/
def opening (s : Settings) (others : List WebSettings) : List Remark :=
  [.starting, .seeded s.fleet.count, listening s.web others]

/-- the remarks from the interruption to the end -/
def closing (listened : Bool) : List Remark :=
  if listened then [.interrupted, .stopping, .stopped, .finished]
  else [.interrupted, .alreadyStopped, .finished]

def remarks (s : Settings) (others : List WebSettings) (isInterrupted : Bool) : List Remark :=
  opening s others ++ if isInterrupted then closing (s.web.isFree others) else []

end DroneFleet.Course
