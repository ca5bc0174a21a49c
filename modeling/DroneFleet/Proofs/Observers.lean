import DroneFleet.Channel
import Mathlib.Algebra.GroupWithZero.Nat
import Mathlib.Data.Finset.Card
import Mathlib.Data.List.Nodup

/-!
# Acts on a channel

Whoever has a handle can publish to a channel, make one more handle, and subscribe; whoever is
subscribed can listen and leave. What is done and what is answered make up a trace.

* `ringSize_is_next_power`             how many notices are kept
* `Channel.Act`, `Channel.perform`     what can be done with a channel, and what is answered
* `Channel.after`, `Channel.trace`     the channel after many acts, and the acts with their answers
* `Channel.published`, `Channel.receptions`   what is published, and what one observer hears
* `Channel.Tidy`                       how the parts of a channel fit together
* `Channel.Tidy.perform`               they do after every act
* `Channel.lookup_subscribe_self`, `Channel.lookup_seek`   where an observer stands
-/

namespace DroneFleet

theorem ringSize_is_next_power (capacity : Nat) :
    ∃ k, ringSize capacity = 2 ^ k ∧ max capacity 1 ≤ 2 ^ k ∧ 2 ^ k < 2 * max capacity 1 := by
  unfold ringSize
  by_cases h : capacity ≤ 1
  · refine ⟨0, if_pos h, ?_⟩
    omega
  · have h0 : capacity - 1 ≠ 0 := by omega
    have above : capacity - 1 < 2 ^ ((capacity - 1).log2 + 1) := Nat.lt_log2_self
    have below : 2 ^ (capacity - 1).log2 ≤ capacity - 1 := Nat.log2_self_le h0
    refine ⟨(capacity - 1).log2 + 1, if_neg h, ?_⟩
    rw [Nat.pow_succ] at above ⊢
    omega

namespace Channel

/-! ## acts -/

/-- what can be done with a channel -/
inductive Act (α : Type) where
  | subscribe (name : String)
  | unsubscribe (name : String)
  | publish (a : α)
  | receive (name : String)
  /-- one more handle to publish with -/
  | share
  /-- one handle less -/
  | leave

inductive Answer (α : Type) where
  | done
  /-- how many observers a notice goes to -/
  | reached (observers : Nat)
  | heard (r : Reception α)
  /-- there is no handle left, or no such observer -/
  | refused

variable {α : Type}

/-- the channel after an act, and the answer; to subscribe, to publish and to share takes a handle -/
def perform (c : Channel α) : Act α → Channel α × Answer α
  | .subscribe name => if c.publishers = 0 then (c, .refused) else (c.subscribe name, .done)
  | .unsubscribe name => (c.unsubscribe name, .done)
  | .publish a => if c.publishers = 0 then (c, .refused) else (c.publish a, .reached c.observerCount)
  | .receive name =>
    match c.receive name with
    | some (r, d) => (d, .heard r)
    | none => (c, .refused)
  | .share => if c.publishers = 0 then (c, .refused) else (c.share, .done)
  | .leave => (c.leave, .done)

def after (c : Channel α) (es : List (Act α)) : Channel α :=
  es.foldl (fun c e => (c.perform e).1) c

def trace (c : Channel α) : List (Act α) → List (Act α × Answer α)
  | [] => []
  | e :: es => (e, (c.perform e).2) :: (c.perform e).1.trace es

theorem after_cons (c : Channel α) (e : Act α) (es : List (Act α)) :
    c.after (e :: es) = (c.perform e).1.after es := rfl

theorem after_append (c : Channel α) (es fs : List (Act α)) :
    c.after (es ++ fs) = (c.after es).after fs := List.foldl_append

section
variable {c : Channel α}

theorem perform_subscribe (h : c.publishers ≠ 0) (name : String) :
    c.perform (.subscribe name) = (c.subscribe name, .done) := if_neg h

theorem perform_publish (h : c.publishers ≠ 0) (a : α) :
    c.perform (.publish a) = (c.publish a, .reached c.observerCount) := if_neg h

theorem perform_share (h : c.publishers ≠ 0) : c.perform .share = (c.share, .done) := if_neg h

theorem perform_receive {name : String} {r : Reception α} {d : Channel α}
    (h : c.receive name = some (r, d)) : c.perform (.receive name) = (d, .heard r) := by
  show (match c.receive name with
    | some (r, d) => (d, Answer.heard r)
    | none => (c, .refused)) = _
  rw [h]

theorem perform_receive_of_none {name : String} (h : c.receive name = none) :
    c.perform (.receive name) = (c, .refused) := by
  show (match c.receive name with
    | some (r, d) => (d, Answer.heard r)
    | none => (c, .refused)) = _
  rw [h]

/-- does an act take a handle? -/
def Act.takesHandle : Act α → Bool
  | .subscribe _ => true
  | .publish _ => true
  | .share => true
  | _ => false

theorem perform_of_publishers_zero (h : c.publishers = 0) {e : Act α} (he : e.takesHandle = true) :
    c.perform e = (c, .refused) := by
  cases e with
  | subscribe name => exact if_pos h
  | publish a => exact if_pos h
  | share => exact if_pos h
  | _ => cases he

end

/-- does an act make or end the subscription of that name? -/
def Act.renews (name : String) : Act α → Bool
  | .subscribe n => n = name
  | .unsubscribe n => n = name
  | _ => false

/-- is an act about no other subscription than the one of that name? -/
def Act.concerns (name : String) : Act α → Bool
  | .subscribe n => n = name
  | .unsubscribe n => n = name
  | .receive n => n = name
  | _ => true

def noticeOf : Act α × Answer α → Option α
  | (.publish a, .reached _) => some a
  | _ => none

/-- what an act lets the observer of that name hear -/
def receptionOf (name : String) : Act α × Answer α → Option (Reception α)
  | (.receive n, .heard r) => if n = name then some r else none
  | _ => none

def published (c : Channel α) (es : List (Act α)) : List α := (c.trace es).filterMap noticeOf

def receptions (name : String) (c : Channel α) (es : List (Act α)) : List (Reception α) :=
  (c.trace es).filterMap (receptionOf name)

/-! ## the parts of a channel -/

/-- the parts of a channel fit together: the latest notices are kept, as many as the ring holds, no
observer is ahead of what was published, and no two have one name -/
structure Tidy (c : Channel α) : Prop where
  size_pos : 0 < c.size
  kept : c.kept.length = min c.sent c.size
  read : ∀ o ∈ c.observers, o.2 ≤ c.sent
  names : (c.observers.map (·.1)).Nodup

theorem size_pos_ringSize (capacity : Nat) : 0 < ringSize capacity := by
  obtain ⟨k, hk, -⟩ := ringSize_is_next_power capacity
  rw [hk]
  exact Nat.two_pow_pos k

theorem tidy_new (capacity : Nat) : (new capacity : Channel α).Tidy where
  size_pos := size_pos_ringSize capacity
  kept := (Nat.zero_min _).symm
  read := nofun
  names := List.nodup_nil

section
variable {c : Channel α}

theorem Tidy.unsubscribe (h : c.Tidy) (name : String) : (c.unsubscribe name).Tidy where
  size_pos := h.size_pos
  kept := h.kept
  read := fun o ho => h.read o (List.mem_of_mem_filter ho)
  names := h.names.sublist (List.filter_sublist.map _)

theorem Tidy.subscribe (h : c.Tidy) (name : String) : (c.subscribe name).Tidy where
  size_pos := h.size_pos
  kept := h.kept
  read := by
    intro o ho
    rcases List.mem_append.mp ho with ho | ho
    · exact (h.unsubscribe name).read o ho
    · rw [List.mem_singleton.mp ho]
      exact Nat.le_refl c.sent
  names := by
    show (((c.unsubscribe name).observers ++ [(name, c.sent)]).map (·.1)).Nodup
    rw [List.map_append, List.nodup_append]
    refine ⟨(h.unsubscribe name).names, List.nodup_singleton name, ?_⟩
    intro n hn m hm
    obtain ⟨o, ho, rfl⟩ := List.mem_map.mp hn
    rw [List.mem_singleton.mp hm]
    simpa using (List.mem_filter.mp ho).2

theorem Tidy.publish (h : c.Tidy) (a : α) : (c.publish a).Tidy := by
  unfold Channel.publish
  split
  · exact h
  · refine ⟨h.size_pos, ?_, fun o ho => Nat.le_succ_of_le (h.read o ho), h.names⟩
    have kept := h.kept
    show ((a :: c.kept).take c.size).length = min (c.sent + 1) c.size
    rw [List.length_take, List.length_cons]
    omega

theorem map_fst_seek (c : Channel α) (name : String) (next : Nat) :
    (c.seek name next).observers.map (·.1) = c.observers.map (·.1) := by
  show (c.observers.map fun o => if o.1 = name then (name, next) else o).map (·.1) = _
  rw [List.map_map]
  refine List.map_congr_left fun o _ => ?_
  show (if o.1 = name then (name, next) else o).1 = o.1
  split
  · rename_i h
    exact h.symm
  · rfl

theorem Tidy.seek (h : c.Tidy) (name : String) {next : Nat} (hn : next ≤ c.sent) :
    (c.seek name next).Tidy where
  size_pos := h.size_pos
  kept := h.kept
  read := by
    intro o ho
    obtain ⟨p, hp, rfl⟩ := List.mem_map.mp ho
    show (if p.1 = name then (name, next) else p).2 ≤ c.sent
    split
    · exact hn
    · exact h.read p hp
  names := (map_fst_seek c name next).symm ▸ h.names

theorem lt_sent_of_at? {n : Nat} {a : α} (h : c.at? n = some a) : n < c.sent := by
  unfold at? at h
  split at h
  · assumption
  · cases h

theorem Tidy.receive (h : c.Tidy) {name : String} {r : Reception α} {d : Channel α}
    (hr : c.receive name = some (r, d)) : d.Tidy := by
  unfold Channel.receive at hr
  obtain ⟨next, -, hr⟩ := Option.map_eq_some_iff.mp hr
  cases ha : c.at? (max next c.oldest) with
  | none =>
    simp only [ha, Prod.mk.injEq] at hr
    rw [← hr.2]
    exact h
  | some a =>
    simp only [ha, Prod.mk.injEq] at hr
    rw [← hr.2]
    exact h.seek name (lt_sent_of_at? ha)

theorem Tidy.perform (h : c.Tidy) (e : Act α) : (c.perform e).1.Tidy := by
  by_cases h0 : c.publishers = 0 ∧ e.takesHandle = true
  · rw [perform_of_publishers_zero h0.1 h0.2]
    exact h
  · cases e with
    | subscribe name =>
      rw [perform_subscribe fun hp => h0 ⟨hp, rfl⟩]
      exact h.subscribe name
    | unsubscribe name => exact h.unsubscribe name
    | publish a =>
      rw [perform_publish fun hp => h0 ⟨hp, rfl⟩]
      exact h.publish a
    | receive name =>
      cases hr : c.receive name with
      | none =>
        rw [perform_receive_of_none hr]
        exact h
      | some r =>
        rw [perform_receive hr]
        exact h.receive hr
    | share =>
      rw [perform_share fun hp => h0 ⟨hp, rfl⟩]
      exact ⟨h.size_pos, h.kept, h.read, h.names⟩
    | leave => exact ⟨h.size_pos, h.kept, h.read, h.names⟩

theorem Tidy.after (h : c.Tidy) (es : List (Act α)) : (c.after es).Tidy := by
  induction es generalizing c with
  | nil => exact h
  | cons e es ih => exact ih (h.perform e)

theorem exists_seek_of_receive {other : String} {r : Reception α} {d : Channel α}
    (h : c.receive other = some (r, d)) : d = c ∨ ∃ next, d = c.seek other next := by
  unfold Channel.receive at h
  obtain ⟨next, -, h⟩ := Option.map_eq_some_iff.mp h
  cases ha : c.at? (max next c.oldest) with
  | none =>
    simp only [ha, Prod.mk.injEq] at h
    exact Or.inl h.2.symm
  | some a =>
    simp only [ha, Prod.mk.injEq] at h
    exact Or.inr ⟨_, h.2.symm⟩

theorem size_perform (c : Channel α) (e : Act α) : (c.perform e).1.size = c.size := by
  by_cases h0 : c.publishers = 0 ∧ e.takesHandle = true
  · rw [perform_of_publishers_zero h0.1 h0.2]
  · cases e with
    | subscribe name =>
      rw [perform_subscribe fun hp => h0 ⟨hp, rfl⟩]
      rfl
    | publish a =>
      rw [perform_publish fun hp => h0 ⟨hp, rfl⟩]
      exact size_publish a c
    | receive name =>
      cases hr : c.receive name with
      | none => rw [perform_receive_of_none hr]
      | some r =>
        rw [perform_receive hr]
        rcases exists_seek_of_receive hr with h | ⟨next, h⟩
        · rw [h]
        · rw [h]
          rfl
    | share =>
      rw [perform_share fun hp => h0 ⟨hp, rfl⟩]
      rfl
    | _ => rfl

theorem size_after (c : Channel α) (es : List (Act α)) : (c.after es).size = c.size := by
  induction es generalizing c with
  | nil => rfl
  | cons e es ih => rw [after_cons, ih, size_perform]

/-! ## where an observer stands -/

theorem lookup_unsubscribe_of_ne (c : Channel α) {name other : String} (h : other ≠ name) :
    (c.unsubscribe name).observers.lookup other = c.observers.lookup other := by
  show (c.observers.filter fun o => o.1 ≠ name).lookup other = c.observers.lookup other
  induction c.observers with
  | nil => rfl
  | cons o os ih =>
    obtain ⟨n, place⟩ := o
    by_cases hn : n = name
    · subst hn
      rw [List.filter_cons_of_neg (by simp), List.lookup_cons, beq_false_of_ne h]
      exact ih
    · rw [List.filter_cons_of_pos (by simpa using hn), List.lookup_cons, List.lookup_cons, ih]

theorem lookup_unsubscribe_self (c : Channel α) (name : String) :
    (c.unsubscribe name).observers.lookup name = none := by
  rw [List.lookup_eq_none_iff]
  intro o ho
  have hn : o.1 ≠ name := of_decide_eq_true (List.mem_filter.mp ho).2
  exact bne_iff_ne.mpr hn.symm

theorem lookup_subscribe_of_ne (c : Channel α) {name other : String} (h : other ≠ name) :
    (c.subscribe name).observers.lookup other = c.observers.lookup other := by
  show ((c.unsubscribe name).observers ++ [(name, c.sent)]).lookup other = _
  rw [List.lookup_append, lookup_unsubscribe_of_ne c h, List.lookup_cons, beq_false_of_ne h]
  exact Option.or_none

theorem lookup_subscribe_self (c : Channel α) (name : String) :
    (c.subscribe name).observers.lookup name = some c.sent := by
  show ((c.unsubscribe name).observers ++ [(name, c.sent)]).lookup name = _
  rw [List.lookup_append, lookup_unsubscribe_self, List.lookup_cons_self]
  rfl

theorem lookup_of_mem {os : List (String × Nat)} (h : (os.map (·.1)).Nodup) {o : String × Nat}
    (ho : o ∈ os) : os.lookup o.1 = some o.2 := by
  induction os with
  | nil => cases ho
  | cons x os ih =>
    rw [List.map_cons, List.nodup_cons] at h
    rcases List.mem_cons.mp ho with rfl | ho
    · exact List.lookup_cons_self
    · have differs : o.1 ≠ x.1 := fun hx => h.1 (hx ▸ List.mem_map_of_mem ho)
      rw [List.lookup_cons, beq_false_of_ne differs]
      exact ih h.2 ho

theorem lookup_seek (c : Channel α) (name other : String) (next : Nat) :
    (c.seek name next).observers.lookup other =
      if other = name then (c.observers.lookup name).map fun _ => next
      else c.observers.lookup other := by
  show (c.observers.map fun o => if o.1 = name then (name, next) else o).lookup other = _
  induction c.observers with
  | nil => split <;> rfl
  | cons o os ih =>
    obtain ⟨n, place⟩ := o
    rw [List.map_cons]
    by_cases hn : n = name
    · subst hn
      by_cases ho : other = n
      · subst ho
        simp
      · have hb : (other == n) = false := beq_false_of_ne ho
        simp only [if_true, List.lookup_cons, hb, if_neg ho] at ih ⊢
        exact ih
    · by_cases ho : other = name
      · subst ho
        have hb : (other == n) = false := beq_false_of_ne (Ne.symm hn)
        simp only [if_neg hn, if_true, List.lookup_cons, hb] at ih ⊢
        exact ih
      · simp only [if_neg hn, if_neg ho, List.lookup_cons] at ih ⊢
        rw [ih]

theorem mem_of_lookup {os : List (String × Nat)} {name : String} {next : Nat}
    (h : os.lookup name = some next) : (name, next) ∈ os := by
  obtain ⟨before, later, rfl, -⟩ := List.lookup_eq_some_iff.mp h
  exact List.mem_append_right _ List.mem_cons_self

theorem Tidy.place_le (h : c.Tidy) {name : String} {next : Nat}
    (hn : c.observers.lookup name = some next) : next ≤ c.sent := h.read _ (mem_of_lookup hn)

/-- to move an observer to where it stands changes nothing -/
theorem Tidy.seek_place (h : c.Tidy) {name : String} {next : Nat}
    (hn : c.observers.lookup name = some next) : c.seek name next = c := by
  have same : ∀ o ∈ c.observers, (if o.1 = name then (name, next) else o) = o := by
    intro o ho
    split
    · rename_i own
      have place : c.observers.lookup o.1 = some o.2 := lookup_of_mem h.names ho
      rw [own, hn] at place
      rw [← own, Option.some.inj place]
    · rfl
  show { c with observers := c.observers.map _ } = c
  rw [List.map_congr_left same, List.map_id']

theorem receive_of_place {name : String} {next : Nat} (h : c.observers.lookup name = some next) :
    c.receive name = some (match c.at? (max next c.oldest) with
      | some a => (.notice (max next c.oldest - next) a, c.seek name (max next c.oldest + 1))
      | none => (if c.publishers = 0 then .closed else .pending, c)) := by
  unfold Channel.receive
  rw [h]
  rfl

theorem receive_of_lookup_none {name : String} (h : c.observers.lookup name = none) :
    c.receive name = none := by
  unfold Channel.receive
  rw [h]
  rfl

end

end Channel

end DroneFleet
