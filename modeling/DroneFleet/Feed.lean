import DroneFleet.Channel
import DroneFleet.Drone.Wire

/-!
# The feed of one observer

An observer's connection listens to the channel before the greeting is sent, so that nothing
published meanwhile is missed. After the greeting it sends what it hears, one frame at a time; what
the observer sends is not heeded, but for the end of the connection.

* `Feed`            a connection: the frame under way, and the frames that were written
* `Feed.begin`      a connection that listens and sends the greeting
* `Feed.Event`      what can happen to it
* `Feed.step`       the connection and the channel after an event
* `Feed.run`        the same after many events
* `written_step`    an event writes the frame under way, or nothing
-/

namespace DroneFleet

structure Feed where
  /-- the name under which it listens to the channel -/
  name : String
  /-- the frame under way -/
  sending : Option Notice
  written : List Notice
  /-- does the connection stand? -/
  standing : Bool
deriving Repr

namespace Feed

inductive Inbound where
  /-- a message of any kind but the next one -/
  | message
  | close
  /-- nothing can be read -/
  | failure
  /-- nothing more is to be read -/
  | over
deriving DecidableEq, Repr

inductive Event where
  /-- a notice is published -/
  | published (n : Notice)
  /-- the frame under way is written -/
  | written
  /-- the frame under way cannot be written -/
  | unwritable
  /-- the connection looks for the next notice -/
  | awaited
  /-- something is read from the observer -/
  | arrived (i : Inbound)
deriving Repr

def texts (f : Feed) : List String := f.written.map fun n => n.toJson.compress

/-- a connection that listens to the channel and sends the greeting -/
def begin (name : String) (c : Channel Notice) : Feed × Channel Notice :=
  (⟨name, some .greeting, [], true⟩, c.subscribe name)

def finish (f : Feed) (c : Channel Notice) : Feed × Channel Notice :=
  ({ f with sending := none, standing := false }, c.unsubscribe f.name)

/-- does the connection wait for a notice or for the observer? -/
def waits (f : Feed) : Bool := f.standing && f.sending.isNone

/-- the next notice of the channel becomes the frame under way -/
def await (f : Feed) (c : Channel Notice) : Feed × Channel Notice :=
  match c.receive f.name with
  | some (.notice _ n, c) => ({ f with sending := some n }, c)
  | some (.pending, _) => (f, c)
  | some (.closed, _) => f.finish c
  | none => (f, c)

/-- the connection and the channel after an event; an event that cannot be now changes nothing -/
def step (f : Feed) (c : Channel Notice) : Event → Feed × Channel Notice
  | .published n => (f, c.publish n)
  | .written =>
    match f.sending with
    | some n => ({ f with sending := none, written := f.written ++ [n] }, c)
    | none => (f, c)
  | .unwritable => if f.sending.isSome then f.finish c else (f, c)
  | .awaited => if f.waits then f.await c else (f, c)
  | .arrived i => if f.waits && i ≠ .message then f.finish c else (f, c)

def run (f : Feed) (c : Channel Notice) (es : List Event) : Feed × Channel Notice :=
  es.foldl (fun s e => s.1.step s.2 e) (f, c)

theorem written_finish (f : Feed) (c : Channel Notice) : (f.finish c).1.written = f.written := rfl

theorem written_await (f : Feed) (c : Channel Notice) : (f.await c).1.written = f.written := by
  unfold await
  split <;> rfl

theorem written_ite (p : Prop) [Decidable p] {a b : Feed × Channel Notice} {ns : List Notice}
    (ha : a.1.written = ns) (hb : b.1.written = ns) : (if p then a else b).1.written = ns := by
  split
  · exact ha
  · exact hb

/-- an event writes the frame under way, or nothing -/
theorem written_step (f : Feed) (c : Channel Notice) (e : Event) :
    (f.step c e).1.written = f.written ∨
      ∃ n, f.sending = some n ∧ (f.step c e).1.written = f.written ++ [n] := by
  cases e with
  | published n => exact Or.inl rfl
  | written =>
    cases h : f.sending with
    | none => exact Or.inl (by simp [step, h])
    | some n => exact Or.inr ⟨n, rfl, by simp [step, h]⟩
  | unwritable => exact Or.inl (written_ite _ (written_finish f c) rfl)
  | awaited => exact Or.inl (written_ite _ (written_await f c) rfl)
  | arrived i => exact Or.inl (written_ite _ (written_finish f c) rfl)

end Feed

end DroneFleet
