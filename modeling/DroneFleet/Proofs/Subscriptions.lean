import DroneFleet.Proofs.Deliveries
import DroneFleet.Proofs.Ring
import Mathlib.Data.Finset.Card

/-!
# Subscriptions

From the moment it is made, a subscription accounts for all that is published: each notice was heard,
was missed, or is still to be read. What other observers do does not change what is heard.

* `Channel.subscribed`                        who is subscribed, by name
* `Channel.Tidy.card_names`                   as many as the channel counts
* `Mailbox.receptions_filter`                 only what concerns a mailbox changes what is heard of it
* `Channel.subscription_accounts_for_notices` the account of a subscription
-/

namespace DroneFleet

namespace Channel

variable {α : Type}

/-! ## who is subscribed -/

/-- who is subscribed after one more act -/
def enroll (names : Finset String) : Act α × Answer α → Finset String
  | (.subscribe name, .done) => insert name names
  | (.unsubscribe name, _) => names.erase name
  | _ => names

/-- who is subscribed after acts on a channel that nobody listened to -/
def subscribed (c : Channel α) (es : List (Act α)) : Finset String := (c.trace es).foldl enroll ∅

def names (c : Channel α) : Finset String := (c.observers.map (·.1)).toFinset

section
variable {c : Channel α}

theorem names_unsubscribe (c : Channel α) (name : String) :
    (c.unsubscribe name).names = c.names.erase name := by
  ext n
  simp only [names, unsubscribe, List.mem_toFinset, List.mem_map, List.mem_filter,
    Finset.mem_erase, decide_eq_true_eq]
  constructor
  · rintro ⟨o, ⟨ho, hn⟩, rfl⟩
    exact ⟨hn, o, ho, rfl⟩
  · rintro ⟨hn, o, ho, rfl⟩
    exact ⟨o, ⟨ho, hn⟩, rfl⟩

theorem names_subscribe (c : Channel α) (name : String) :
    (c.subscribe name).names = insert name c.names := by
  have joined : (c.subscribe name).names = (c.unsubscribe name).names ∪ {name} := by
    show (((c.unsubscribe name).observers ++ [(name, c.sent)]).map (·.1)).toFinset = _
    rw [List.map_append, List.toFinset_append]
    rfl
  rw [joined, names_unsubscribe]
  ext n
  simp only [Finset.mem_union, Finset.mem_erase, Finset.mem_singleton, Finset.mem_insert]
  tauto

theorem names_seek (c : Channel α) (name : String) (next : Nat) :
    (c.seek name next).names = c.names := congrArg List.toFinset (map_fst_seek c name next)

theorem names_perform (c : Channel α) (e : Act α) :
    (c.perform e).1.names = enroll c.names (e, (c.perform e).2) := by
  by_cases h0 : c.publishers = 0 ∧ e.takesHandle = true
  · rw [perform_of_publishers_zero h0.1 h0.2]
    cases e <;> first | rfl | cases h0.2
  · cases e with
    | subscribe name =>
      rw [perform_subscribe fun hp => h0 ⟨hp, rfl⟩]
      exact names_subscribe c name
    | unsubscribe name => exact names_unsubscribe c name
    | publish a =>
      rw [perform_publish fun hp => h0 ⟨hp, rfl⟩]
      exact congrArg (fun os => (os.map (·.1)).toFinset) (observers_publish a c)
    | receive name =>
      cases hr : c.receive name with
      | none =>
        rw [perform_receive_of_none hr]
        rfl
      | some r =>
        rw [perform_receive hr]
        rcases exists_seek_of_receive hr with h | ⟨next, h⟩
        · rw [h]
          rfl
        · rw [h, names_seek]
          rfl
    | share =>
      rw [perform_share fun hp => h0 ⟨hp, rfl⟩]
      rfl
    | leave => rfl

theorem names_after (c : Channel α) (es : List (Act α)) :
    (c.after es).names = (c.trace es).foldl enroll c.names := by
  induction es generalizing c with
  | nil => rfl
  | cons e es ih =>
    rw [after_cons, ih, names_perform]
    rfl

theorem Tidy.card_names (h : c.Tidy) : c.names.card = c.observerCount := by
  unfold Channel.names
  rw [List.toFinset_card_of_nodup h.names, List.length_map]
  rfl

theorem reached_of_publish (capacity : Nat) (es : List (Act α)) (a : α)
    (handle : ((new capacity).after es).publishers ≠ 0) :
    (((new capacity).after es).perform (.publish a)).2 =
      .reached ((new capacity).subscribed es).card := by
  have tidy : ((new capacity).after es).Tidy := (tidy_new capacity).after es
  rw [perform_publish handle, ← tidy.card_names, names_after]
  rfl

end

end Channel

/-! ## what concerns a mailbox -/

namespace Mailbox

open Channel (Act)

variable {α : Type}

theorem respond_of_not_concerns (m : Mailbox α) {name : String} {e : Act α}
    (h : e.concerns name = false) : m.respond name e = (m, none) := by
  cases e with
  | subscribe n => rfl
  | unsubscribe n => rfl
  | receive n => exact if_neg (of_decide_eq_false h)
  | _ => cases h

/-- only what concerns a mailbox changes what is heard of it -/
theorem receptions_filter (m : Mailbox α) (name : String) (es : List (Act α)) :
    m.receptions name (es.filter (Act.concerns name)) = m.receptions name es := by
  induction es generalizing m with
  | nil => rfl
  | cons e es ih =>
    cases he : e.concerns name with
    | true =>
      rw [List.filter_cons_of_pos he, receptions, receptions, ih]
    | false =>
      rw [List.filter_cons_of_neg (by simp [he]), ih, receptions, m.respond_of_not_concerns he]
      rfl

/-- the next notice of a mailbox is the oldest that is kept, after those that are not -/
theorem receive_cases (m : Mailbox α) (size : 0 < m.size) :
    (m.unread = [] ∧ m.receive.1 = if m.publishers = 0 then .closed else .pending) ∨
      ∃ missed a rest, m.unread = missed ++ a :: rest ∧
        missed.length = m.unread.length - m.size ∧ m.receive.1 = .notice missed.length a := by
  cases hd : m.unread.drop (m.unread.length - m.size) with
  | nil =>
    rw [receive_of_drop_nil hd]
    rw [List.drop_eq_nil_iff] at hd
    exact Or.inl ⟨List.length_eq_zero_iff.mp (by omega), rfl⟩
  | cons a rest =>
    have missed : (m.unread.take (m.unread.length - m.size)).length =
        m.unread.length - m.size := by
      rw [List.length_take]
      omega
    refine Or.inr ⟨m.unread.take (m.unread.length - m.size), a, rest, ?_, missed, ?_⟩
    · rw [← hd, List.take_append_drop]
    · rw [receive_of_drop hd, missed]

end Mailbox

namespace Channel

variable {α : Type}

theorem Act.concerns_of_renews {name : String} {e : Act α} (h : e.renews name = true) :
    e.concerns name = true := by
  cases e with
  | subscribe n => exact h
  | unsubscribe n => exact h
  | _ => cases h

/-- acts that agree on what concerns an observer agree on whether its subscription is renewed -/
theorem forall_renews_of_filter_eq {name : String} {es fs : List (Act α)}
    (agree : fs.filter (Act.concerns name) = es.filter (Act.concerns name))
    (own : ∀ e ∈ es, e.renews name = false) : ∀ e ∈ fs, e.renews name = false := by
  intro e he
  cases hr : e.renews name with
  | false => rfl
  | true =>
    have kept := List.mem_filter.mpr ⟨he, Act.concerns_of_renews hr⟩
    rw [agree] at kept
    have hn := own e (List.mem_of_mem_filter kept)
    exact hr.symm.trans hn

theorem Shows.next {c : Channel α} {name : String} {m : Mailbox α} (h : c.Shows name m) :
    (m.unread = [] ∧ (c.perform (.receive name)).2 =
        .heard (if c.publishers = 0 then .closed else .pending)) ∨
      ∃ missed a rest, m.unread = missed ++ a :: rest ∧
        missed.length = m.unread.length - c.size ∧
        (c.perform (.receive name)).2 = .heard (.notice missed.length a) := by
  obtain ⟨d, hears, -⟩ := h.receive
  rw [perform_receive hears, h.size, h.publishers]
  rcases m.receive_cases (h.size ▸ h.tidy.size_pos) with
    ⟨nil, next⟩ | ⟨missed, a, rest, cut, length, next⟩
  · exact Or.inl ⟨nil, congrArg Answer.heard next⟩
  · exact Or.inr ⟨missed, a, rest, cut, length, congrArg Answer.heard next⟩

theorem shows_of_subscribe (capacity : Nat) (es : List (Act α)) (name : String)
    (handle : ((new capacity).after es).publishers ≠ 0) :
    (((new capacity).after es).perform (.subscribe name)).1.Shows name
      ⟨ringSize capacity, ((new capacity).after es).publishers, []⟩ := by
  rw [perform_subscribe handle]
  have tidy : ((new capacity).after es).Tidy := (tidy_new capacity).after es
  have shows := shows_subscribe tidy name
  rw [size_after] at shows
  exact shows

/-- **All that is published to a subscription is heard, missed or still to be read**, whatever
happens to the channel meanwhile. What is heard comes in order and once. The next notice is missing
only if more were published than the ring keeps; the observer then goes on with the oldest that is
kept and is told how many it missed. It hears of the end only if nothing is left to read and nobody
to publish. A notice goes to all that are subscribed, nothing that others do changes what is heard,
and a ring of slots, looked into again after each notice of missed ones, answers the same. -/
theorem subscription_accounts_for_notices (capacity : Nat) (es : List (Act α)) (name : String)
    (fs : List (Act α)) (handle : ((new capacity).after es).publishers ≠ 0)
    (own : ∀ e ∈ fs, e.renews name = false) :
    let c := (((new capacity).after es).perform (.subscribe name)).1
    let d := c.after fs
    let heard := (c.receptions name fs).filterMap Reception.value?
    let skipped := ((c.receptions name fs).map Reception.skipped).sum
    (∃ k, ringSize capacity = 2 ^ k ∧ max capacity 1 ≤ 2 ^ k ∧ 2 ^ k < 2 * max capacity 1) ∧
    (∃ unread, Delivered (c.receptions name fs) (c.published fs) unread ∧
      (heard ++ unread).Sublist (c.published fs) ∧
      heard.length + skipped + unread.length = (c.published fs).length ∧
      (unread = [] ∧ (d.perform (.receive name)).2 =
          .heard (if d.publishers = 0 then .closed else .pending) ∨
        ∃ missed a rest, unread = missed ++ a :: rest ∧
          missed.length = unread.length - ringSize capacity ∧
          (d.perform (.receive name)).2 = .heard (.notice missed.length a))) ∧
    (∀ a, d.publishers ≠ 0 → (d.perform (.publish a)).2 =
      .reached ((new capacity).subscribed (es ++ .subscribe name :: fs)).card) ∧
    (∀ es' fs' : List (Act α), ((new capacity).after es').publishers = ((new capacity).after es).publishers →
      fs'.filter (Act.concerns name) = fs.filter (Act.concerns name) →
      (((new capacity).after es').perform (.subscribe name)).1.receptions name fs' =
        c.receptions name fs) ∧
    ∀ (gs : List (Act α)) xs, Ring.Traces (.new capacity) gs xs ↔ xs = (new capacity).trace gs := by
  intro c d heard skipped
  have shows : c.Shows name _ := shows_of_subscribe capacity es name handle
  obtain ⟨later, hears⟩ := shows.after own
  have delivered := shows.delivered own
  rw [← hears] at delivered
  refine ⟨ringSize_is_next_power capacity,
    ⟨_, delivered, delivered.sublist, delivered.length_eq, ?_⟩, ?_, ?_, ?_⟩
  · have size : d.size = ringSize capacity := by
      rw [size_after, size_perform, size_after]
      rfl
    have next := later.next
    rw [size] at next
    exact next
  · intro a left
    have all : d = (new capacity).after (es ++ .subscribe name :: fs) := by
      rw [after_append]
      rfl
    rw [all] at left ⊢
    exact reached_of_publish capacity _ a left
  · intro es' fs' same agree
    have shows' := shows_of_subscribe capacity es' name (same ▸ handle)
    rw [same] at shows'
    have own' := forall_renews_of_filter_eq agree own
    rw [(shows'.after own').2, hears, ← Mailbox.receptions_filter, agree,
      Mailbox.receptions_filter]
  · intro gs xs
    exact Ring.traces_iff capacity

def lateReader : List (Act Nat) :=
  [.publish 1, .publish 2, .publish 3, .publish 4, .publish 5, .receive "a"]

theorem late_observer_accounts_for_notices :
    ((new 2 : Channel Nat).after []).publishers ≠ 0 ∧
      (∀ e ∈ lateReader, e.renews "a" = false) ∧
      ∃ unread, Delivered [.notice 3 4] [1, 2, 3, 4, 5] unread ∧ unread.length = 1 := by
  have handle : ((new 2 : Channel Nat).after []).publishers ≠ 0 := Nat.one_ne_zero
  have own : ∀ e ∈ lateReader, e.renews "a" = false := by
    simp [lateReader, Act.renews]
  obtain ⟨-, ⟨unread, delivered, -, count, -⟩, -⟩ :=
    subscription_accounts_for_notices 2 [] "a" lateReader handle own
  refine ⟨handle, own, unread, delivered, ?_⟩
  have all : 1 + 3 + unread.length = 5 := count
  omega

end Channel

end DroneFleet
