/-!
# The channel to observers

Everything published goes to every observer. The channel keeps the latest notices only; an observer
that falls behind continues with the oldest that is kept and learns how many it missed.

* `ringSize`             how many notices are kept: the next power of two
* `Channel`              what is kept, and how far each observer has read
* `Channel.publish`      a notice to all observers
* `Channel.receive`      the next notice of one observer
-/

namespace DroneFleet

/-- how many notices a channel of that capacity keeps: the next power of two, one at least -/
def ringSize (capacity : Nat) : Nat :=
  if capacity ≤ 1 then 1 else Nat.pow 2 ((capacity - 1).log2 + 1)

structure Channel (α : Type) where
  /-- how many notices are kept -/
  size : Nat
  /-- how many notices were published while someone listened -/
  sent : Nat
  /-- the latest of them, the last one first -/
  kept : List α
  /-- the observers, each with the number of notices published before its next one -/
  observers : List (String × Nat)
  /-- how many may still publish -/
  publishers : Nat
deriving Repr

inductive Reception (α : Type) where
  /-- a notice, and how many were missed before it -/
  | notice (skipped : Nat) (value : α)
  /-- nothing yet -/
  | pending
  /-- nothing, and nobody is left to publish -/
  | closed
deriving Repr

namespace Channel

variable {α : Type}

def new (capacity : Nat) : Channel α where
  size := ringSize capacity
  sent := 0
  kept := []
  observers := []
  publishers := 1

def observerCount (c : Channel α) : Nat := c.observers.length

/-- sends a notice to every observer; without observers it is gone -/
def publish (a : α) (c : Channel α) : Channel α :=
  if c.observers.isEmpty then c
  else { c with sent := c.sent + 1, kept := (a :: c.kept).take c.size }

def unsubscribe (name : String) (c : Channel α) : Channel α :=
  { c with observers := c.observers.filter fun o => o.1 ≠ name }

def subscribe (name : String) (c : Channel α) : Channel α :=
  { c with observers := (c.unsubscribe name).observers ++ [(name, c.sent)] }

def listens (name : String) (c : Channel α) : Bool := (c.observers.lookup name).isSome

/-- how many notices were published before the oldest that is kept -/
def oldest (c : Channel α) : Nat := c.sent - c.kept.length

/-- the notice after `n` others, if it is kept -/
def at? (c : Channel α) (n : Nat) : Option α :=
  if n < c.sent then c.kept[c.sent - 1 - n]? else none

def seek (name : String) (next : Nat) (c : Channel α) : Channel α :=
  { c with observers := c.observers.map fun o => if o.1 = name then (name, next) else o }

/-- the next notice of an observer: the one after those it has heard, or the oldest kept if that
one is gone; none without such an observer -/
def receive (name : String) (c : Channel α) : Option (Reception α × Channel α) :=
  (c.observers.lookup name).map fun next =>
    let place := max next c.oldest
    match c.at? place with
    | some a => (.notice (place - next) a, c.seek name (place + 1))
    | none => (if c.publishers = 0 then .closed else .pending, c)

def share (c : Channel α) : Channel α := { c with publishers := c.publishers + 1 }

def leave (c : Channel α) : Channel α := { c with publishers := c.publishers - 1 }

theorem size_publish (a : α) (c : Channel α) : (c.publish a).size = c.size := by
  unfold publish
  split <;> rfl

theorem observers_publish (a : α) (c : Channel α) : (c.publish a).observers = c.observers := by
  unfold publish
  split <;> rfl

end Channel

end DroneFleet
