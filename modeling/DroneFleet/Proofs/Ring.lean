import DroneFleet.Proofs.Observers

/-!
# The ring behind a channel

The notices lie in a ring of slots. Each has a position, counted from the first notice on, and goes
into the slot of its position modulo the size of the ring; what lay there is gone. Whoever listens
looks into the slot of the position that is next. If an earlier lap is still in the slot, nothing new
is there; if a later one is, the observer learns how many notices it missed, goes on to the oldest
that is left, and looks again.

* `Ring`, `Ring.attempt`      slots, and one look into the slot of a position
* `Ring.Hears`                looks until one does not fall behind
* `Ring.Does`, `Ring.Traces`  acts on a ring with their answers
* `Ring.Stores`               a ring with the notices of a channel
* `Ring.Stores.hears_iff`     looking into the slots gives what the channel gives
* `Ring.traces_iff`           a ring and a channel answer the same
-/

namespace DroneFleet

/-- a slot with the position of what lies in it -/
structure Slot (α : Type) where
  position : Int
  value : Option α

/-- slots in a ring, the position of the next notice, and who looks for which position -/
structure Ring (α : Type) where
  size : Nat
  tail : Nat
  slots : Nat → Slot α
  observers : List (String × Nat)
  publishers : Nat

namespace Ring

open Channel (Act Answer)

variable {α : Type}

/-- an empty ring: one lap before the first -/
def new (capacity : Nat) : Ring α where
  size := ringSize capacity
  tail := 0
  slots := fun i => ⟨i - ringSize capacity, none⟩
  observers := []
  publishers := 1

/-- what a look into a slot finds -/
inductive Attempt (α : Type) where
  | value (a : α)
  | empty
  | closed
  /-- that many notices are gone -/
  | lagged (missed : Nat)

/-- a look for the notice of a position -/
def attempt (r : Ring α) (next : Nat) : Attempt α :=
  let slot := r.slots (next % r.size)
  if slot.position = next then
    match slot.value with
    | some a => .value a
    | none => .closed
  else if slot.position + r.size = next then if r.publishers = 0 then .closed else .empty
  else .lagged (r.tail - r.size - next)

/-- looks from a position on until one does not fall behind: what was logged as missed on the way,
what is heard, and the position to look for next -/
inductive Hears (r : Ring α) : Nat → List Nat → Reception α → Nat → Prop where
  | value {next : Nat} {a : α} (h : r.attempt next = .value a) :
      Hears r next [] (.notice 0 a) (next + 1)
  | empty {next : Nat} (h : r.attempt next = .empty) : Hears r next [] .pending next
  | closed {next : Nat} (h : r.attempt next = .closed) : Hears r next [] .closed next
  | again {next missed later : Nat} {logged : List Nat} {heard : Reception α}
      (h : r.attempt next = .lagged missed)
      (rest : Hears r (r.tail - r.size) logged heard later) :
      Hears r next (missed :: logged) heard later

/-- a notice with the number of those that were missed before it -/
def afterMissing (logged : List Nat) : Reception α → Reception α
  | .notice skipped a => .notice (logged.sum + skipped) a
  | heard => heard

def publish (a : α) (r : Ring α) : Ring α :=
  if r.observers.isEmpty then r
  else { r with
    tail := r.tail + 1
    slots := fun i => if i = r.tail % r.size then ⟨r.tail, some a⟩ else r.slots i }

def unsubscribe (name : String) (r : Ring α) : Ring α :=
  { r with observers := r.observers.filter fun o => o.1 ≠ name }

def subscribe (name : String) (r : Ring α) : Ring α :=
  { r with observers := (r.unsubscribe name).observers ++ [(name, r.tail)] }

def seek (name : String) (next : Nat) (r : Ring α) : Ring α :=
  { r with observers := r.observers.map fun o => if o.1 = name then (name, next) else o }

/-- an act on a ring, the answer, and the ring after it -/
inductive Does (r : Ring α) : Act α → Answer α → Ring α → Prop where
  | refused {e : Act α} (h : r.publishers = 0) (he : e.takesHandle = true) : Does r e .refused r
  | subscribe (h : r.publishers ≠ 0) (name : String) :
      Does r (.subscribe name) .done (r.subscribe name)
  | unsubscribe (name : String) : Does r (.unsubscribe name) .done (r.unsubscribe name)
  | publish (h : r.publishers ≠ 0) (a : α) :
      Does r (.publish a) (.reached r.observers.length) (r.publish a)
  | absent {name : String} (h : r.observers.lookup name = none) :
      Does r (.receive name) .refused r
  | receive {name : String} {next later : Nat} {logged : List Nat} {heard : Reception α}
      (h : r.observers.lookup name = some next) (hears : r.Hears next logged heard later) :
      Does r (.receive name) (.heard (afterMissing logged heard)) (r.seek name later)
  | share (h : r.publishers ≠ 0) : Does r .share .done { r with publishers := r.publishers + 1 }
  | leave : Does r .leave .done { r with publishers := r.publishers - 1 }

/-- acts on a ring, one after the other, with their answers -/
inductive Traces : Ring α → List (Act α) → List (Act α × Answer α) → Prop where
  | nil (r : Ring α) : Traces r [] []
  | cons {r s : Ring α} {e : Act α} {answer : Answer α} {es : List (Act α)}
      {xs : List (Act α × Answer α)} (h : r.Does e answer s) (rest : Traces s es xs) :
      Traces r (e :: es) ((e, answer) :: xs)

/-- has a ring the notices of a channel, each in its slot? -/
structure Stores (r : Ring α) (c : Channel α) : Prop where
  size : r.size = c.size
  tail : r.tail = c.sent
  observers : r.observers = c.observers
  publishers : r.publishers = c.publishers
  filled : ∀ p, p < c.sent → c.sent ≤ p + c.size → r.slots (p % c.size) = ⟨p, c.at? p⟩
  blank : ∀ p, c.sent ≤ p → p < c.size → r.slots p = ⟨p - c.size, none⟩

theorem stores_new (capacity : Nat) : (new capacity : Ring α).Stores (.new capacity) where
  size := rfl
  tail := rfl
  observers := rfl
  publishers := rfl
  filled := nofun
  blank := fun _ _ _ => rfl

/-! ## one look -/

section
variable {r : Ring α} {c : Channel α}

theorem exists_position {size tail next : Nat} (hs : 0 < size) (h : next < tail) :
    ∃ p, p < tail ∧ tail ≤ p + size ∧ p % size = next % size ∧ next ≤ p := by
  have bound := Nat.mod_lt (tail - 1 - next) hs
  have whole := Nat.div_add_mod (tail - 1 - next) size
  refine ⟨next + size * ((tail - 1 - next) / size), by omega, by omega, ?_, Nat.le_add_right _ _⟩
  rw [Nat.add_mul_mod_self_left]

theorem exists_at? (h : c.Tidy) {p : Nat} (hp : p < c.sent) (hs : c.sent ≤ p + c.size) :
    ∃ a, c.at? p = some a := by
  have kept := h.kept
  have inside : c.sent - 1 - p < c.kept.length := by omega
  refine ⟨c.kept[c.sent - 1 - p], ?_⟩
  unfold Channel.at?
  rw [if_pos hp, List.getElem?_eq_getElem inside]

theorem Stores.attempt_of_kept (h : r.Stores c) {next : Nat} (hn : next < c.sent)
    (hs : c.sent ≤ next + c.size) {a : α} (ha : c.at? next = some a) :
    r.attempt next = .value a := by
  unfold attempt
  rw [h.size, h.filled next hn hs, ha]
  exact if_pos rfl

theorem Stores.attempt_of_sent (h : r.Stores c) (tidy : c.Tidy) :
    r.attempt c.sent = if c.publishers = 0 then .closed else .empty := by
  have size := tidy.size_pos
  have position : (r.slots (c.sent % c.size)).position = (c.sent : Int) - c.size := by
    by_cases hs : c.sent < c.size
    · rw [Nat.mod_eq_of_lt hs, h.blank c.sent (Nat.le_refl _) hs]
    · have before : (c.sent - c.size) % c.size = c.sent % c.size := by
        rw [← Nat.add_mod_right, Nat.sub_add_cancel (Nat.le_of_not_lt hs)]
      rw [← before, h.filled (c.sent - c.size) (by omega) (by omega)]
      show ((c.sent - c.size : Nat) : Int) = _
      omega
  unfold attempt
  simp only [h.size, h.publishers, position]
  rw [if_neg (by omega), if_pos (by omega)]

theorem Stores.attempt_of_missed (h : r.Stores c) (tidy : c.Tidy) {next : Nat}
    (hn : next + c.size < c.sent) : r.attempt next = .lagged (c.sent - c.size - next) := by
  have size := tidy.size_pos
  obtain ⟨p, hp, hs, same, hle⟩ := exists_position size (show next < c.sent by omega)
  unfold attempt
  simp only [h.size, h.tail, ← same, h.filled p hp hs]
  rw [if_neg (by omega), if_neg (by omega)]

/-- looking into the slots gives what the channel gives -/
theorem Stores.hears (h : r.Stores c) (tidy : c.Tidy) {name : String} {next : Nat}
    (place : c.observers.lookup name = some next) (hn : next ≤ c.sent) :
    ∃ logged heard later, r.Hears next logged heard later ∧
      c.receive name = some (afterMissing logged heard, c.seek name later) := by
  have size := tidy.size_pos
  have kept := tidy.kept
  have oldest : c.oldest = c.sent - c.size := by
    unfold Channel.oldest
    omega
  rw [Channel.receive_of_place place, oldest]
  rcases Nat.eq_or_lt_of_le hn with rfl | before
  · -- all is read
    have nothing : c.at? c.sent = none := if_neg (Nat.lt_irrefl _)
    have look := h.attempt_of_sent tidy
    rw [Nat.max_eq_left (Nat.sub_le _ _), nothing]
    by_cases h0 : c.publishers = 0
    · rw [if_pos h0] at look
      refine ⟨[], .closed, c.sent, .closed look, ?_⟩
      rw [tidy.seek_place place, if_pos h0]
      rfl
    · rw [if_neg h0] at look
      refine ⟨[], .pending, c.sent, .empty look, ?_⟩
      rw [tidy.seek_place place, if_neg h0]
      rfl
  · by_cases there : c.sent ≤ next + c.size
    · obtain ⟨a, ha⟩ := exists_at? tidy before there
      refine ⟨[], .notice 0 a, next + 1, .value (h.attempt_of_kept before there ha), ?_⟩
      rw [Nat.max_eq_left (by omega), ha, Nat.sub_self]
      rfl
    · -- the notice is gone: the next look finds the oldest one
      have missed := h.attempt_of_missed tidy (Nat.lt_of_not_le there)
      obtain ⟨a, ha⟩ := exists_at? tidy (p := c.sent - c.size) (by omega) (by omega)
      have found := h.attempt_of_kept (by omega) (by omega) ha
      refine ⟨[c.sent - c.size - next], .notice 0 a, c.sent - c.size + 1, .again missed ?_, ?_⟩
      · rw [h.tail, h.size]
        exact .value found
      · rw [Nat.max_eq_right (by omega), ha]
        rfl

theorem Hears.unique {next later later' : Nat} {logged logged' : List Nat} {heard heard' : Reception α}
    (h : r.Hears next logged heard later) (h' : r.Hears next logged' heard' later') :
    logged = logged' ∧ heard = heard' ∧ later = later' := by
  induction h generalizing logged' with
  | value ha =>
    cases h' with
    | value hb =>
      rw [ha] at hb
      cases hb
      exact ⟨rfl, rfl, rfl⟩
    | empty hb => cases ha.symm.trans hb
    | closed hb => cases ha.symm.trans hb
    | again hb _ => cases ha.symm.trans hb
  | empty ha =>
    cases h' with
    | empty hb => exact ⟨rfl, rfl, rfl⟩
    | value hb => cases ha.symm.trans hb
    | closed hb => cases ha.symm.trans hb
    | again hb _ => cases ha.symm.trans hb
  | closed ha =>
    cases h' with
    | closed hb => exact ⟨rfl, rfl, rfl⟩
    | value hb => cases ha.symm.trans hb
    | empty hb => cases ha.symm.trans hb
    | again hb _ => cases ha.symm.trans hb
  | again ha _ ih =>
    cases h' with
    | value hb => cases ha.symm.trans hb
    | empty hb => cases ha.symm.trans hb
    | closed hb => cases ha.symm.trans hb
    | again hb rest =>
      cases ha.symm.trans hb
      obtain ⟨rfl, rfl, rfl⟩ := ih rest
      exact ⟨rfl, rfl, rfl⟩

end

/-! ## acts -/

section
variable {r : Ring α} {c : Channel α}

theorem mod_ne_of_within {size p tail : Nat} (hp : p < tail) (hs : tail < p + size) :
    p % size ≠ tail % size := by
  intro same
  have multiple := Nat.sub_mod_eq_zero_of_mod_eq same.symm
  rw [Nat.mod_eq_of_lt (by omega)] at multiple
  omega

theorem Stores.publish (h : r.Stores c) (tidy : c.Tidy) (a : α) :
    (r.publish a).Stores (c.publish a) := by
  have size := tidy.size_pos
  unfold Ring.publish Channel.publish
  rw [h.observers]
  split
  · exact h
  · refine ⟨h.size, congrArg (· + 1) h.tail, rfl, h.publishers, ?_, ?_⟩
    · intro p hp hs
      show (if p % c.size = r.tail % r.size then (⟨r.tail, some a⟩ : Slot α)
        else r.slots (p % c.size)) = _
      unfold Channel.at?
      rw [h.tail, h.size, if_pos hp]
      show _ = (⟨p, ((a :: c.kept).take c.size)[c.sent + 1 - 1 - p]?⟩ : Slot α)
      have hp' : p < c.sent + 1 := hp
      have hs' : c.sent + 1 ≤ p + c.size := hs
      rw [Nat.add_sub_cancel, List.getElem?_take_of_lt (by omega)]
      rcases Nat.eq_or_lt_of_le (Nat.le_of_lt_succ hp) with rfl | before
      · rw [if_pos rfl, Nat.sub_self]
        rfl
      · have index : c.sent - p = c.sent - 1 - p + 1 := by omega
        rw [if_neg (mod_ne_of_within before (by omega)), h.filled p before (by omega), index,
          List.getElem?_cons_succ]
        unfold Channel.at?
        rw [if_pos before]
    · intro p hp hs
      have hp' : c.sent + 1 ≤ p := hp
      have hs' : p < c.size := hs
      have other : p ≠ r.tail % r.size := by
        rw [h.tail, h.size, Nat.mod_eq_of_lt (by omega)]
        omega
      show (if p = r.tail % r.size then (⟨r.tail, some a⟩ : Slot α) else r.slots p) = _
      rw [if_neg other]
      exact h.blank p (by omega) hs

theorem Stores.seek (h : r.Stores c) (name : String) (next : Nat) :
    (r.seek name next).Stores (c.seek name next) where
  size := h.size
  tail := h.tail
  observers := congrArg (List.map _) h.observers
  publishers := h.publishers
  filled := h.filled
  blank := h.blank

theorem Stores.unsubscribe (h : r.Stores c) (name : String) :
    (r.unsubscribe name).Stores (c.unsubscribe name) where
  size := h.size
  tail := h.tail
  observers := congrArg (List.filter _) h.observers
  publishers := h.publishers
  filled := h.filled
  blank := h.blank

theorem Stores.subscribe (h : r.Stores c) (name : String) :
    (r.subscribe name).Stores (c.subscribe name) where
  size := h.size
  tail := h.tail
  observers := by
    show (r.unsubscribe name).observers ++ [(name, r.tail)] = _
    rw [(h.unsubscribe name).observers, h.tail]
    rfl
  publishers := h.publishers
  filled := h.filled
  blank := h.blank

/-- what is done with a channel can be done with its ring, with the same answer -/
theorem Stores.does (h : r.Stores c) (tidy : c.Tidy) (e : Act α) :
    ∃ s, r.Does e (c.perform e).2 s ∧ s.Stores (c.perform e).1 := by
  by_cases h0 : c.publishers = 0 ∧ e.takesHandle = true
  · rw [Channel.perform_of_publishers_zero h0.1 h0.2]
    exact ⟨r, .refused (h.publishers.trans h0.1) h0.2, h⟩
  · cases e with
    | subscribe name =>
      have left : c.publishers ≠ 0 := fun hp => h0 ⟨hp, rfl⟩
      rw [Channel.perform_subscribe left]
      exact ⟨_, .subscribe (h.publishers ▸ left) name, h.subscribe name⟩
    | unsubscribe name => exact ⟨_, .unsubscribe name, h.unsubscribe name⟩
    | publish a =>
      have left : c.publishers ≠ 0 := fun hp => h0 ⟨hp, rfl⟩
      have count : c.observerCount = r.observers.length := congrArg List.length h.observers.symm
      rw [Channel.perform_publish left, count]
      exact ⟨_, .publish (h.publishers ▸ left) a, h.publish tidy a⟩
    | receive name =>
      cases place : c.observers.lookup name with
      | none =>
        rw [Channel.perform_receive_of_none (Channel.receive_of_lookup_none place)]
        exact ⟨r, .absent (h.observers ▸ place), h⟩
      | some next =>
        obtain ⟨logged, heard, later, hears, same⟩ :=
          h.hears tidy place (tidy.place_le place)
        rw [Channel.perform_receive same]
        exact ⟨_, .receive (h.observers ▸ place) hears, h.seek name later⟩
    | share =>
      have left : c.publishers ≠ 0 := fun hp => h0 ⟨hp, rfl⟩
      rw [Channel.perform_share left]
      exact ⟨_, .share (h.publishers ▸ left),
        ⟨h.size, h.tail, h.observers, congrArg (· + 1) h.publishers, h.filled, h.blank⟩⟩
    | leave =>
      exact ⟨_, .leave,
        ⟨h.size, h.tail, h.observers, congrArg (· - 1) h.publishers, h.filled, h.blank⟩⟩

theorem Does.unique {e : Act α} {x y : Answer α} {s t : Ring α} (h : r.Does e x s)
    (h' : r.Does e y t) : x = y ∧ s = t := by
  cases h with
  | refused h0 he =>
    cases h' with
    | refused => exact ⟨rfl, rfl⟩
    | subscribe left => exact absurd h0 left
    | publish left => exact absurd h0 left
    | share left => exact absurd h0 left
    | _ => cases he
  | subscribe left =>
    cases h' with
    | refused h0 => exact absurd h0 left
    | subscribe => exact ⟨rfl, rfl⟩
  | unsubscribe =>
    cases h' with
    | refused _ he => cases he
    | unsubscribe => exact ⟨rfl, rfl⟩
  | publish left =>
    cases h' with
    | refused h0 => exact absurd h0 left
    | publish => exact ⟨rfl, rfl⟩
  | absent nobody =>
    cases h' with
    | refused _ he => cases he
    | absent => exact ⟨rfl, rfl⟩
    | receive place => cases nobody.symm.trans place
  | receive place hears =>
    cases h' with
    | refused _ he => cases he
    | absent nobody => cases nobody.symm.trans place
    | receive place' hears' =>
      cases place.symm.trans place'
      obtain ⟨rfl, rfl, rfl⟩ := hears.unique hears'
      exact ⟨rfl, rfl⟩
  | share left =>
    cases h' with
    | refused h0 => exact absurd h0 left
    | share => exact ⟨rfl, rfl⟩
  | leave =>
    cases h' with
    | refused _ he => cases he
    | leave => exact ⟨rfl, rfl⟩

/-- a ring answers as the channel it stores -/
theorem Stores.traces_iff (h : r.Stores c) (tidy : c.Tidy) {es : List (Act α)}
    {xs : List (Act α × Answer α)} : Traces r es xs ↔ xs = c.trace es := by
  induction es generalizing r c xs with
  | nil =>
    constructor
    · intro t
      cases t
      rfl
    · rintro rfl
      exact .nil r
  | cons e es ih =>
    obtain ⟨s, does, stores⟩ := h.does tidy e
    have rest : ∀ {xs}, Traces s es xs ↔ xs = (c.perform e).1.trace es :=
      ih stores (tidy.perform e)
    constructor
    · intro t
      cases t with
      | cons h' t =>
        obtain ⟨rfl, rfl⟩ := does.unique h'
        rw [rest.mp t]
        rfl
    · rintro rfl
      exact .cons does (rest.mpr rfl)

theorem traces_iff (capacity : Nat) {es : List (Act α)} {xs : List (Act α × Answer α)} :
    Traces (new capacity) es xs ↔ xs = (Channel.new capacity).trace es :=
  (stores_new capacity).traces_iff (Channel.tidy_new capacity)

end

end Ring

end DroneFleet
