import DroneFleet.Proofs.Observers

/-!
# What becomes of a notice

Everybody who listens reads at a pace of their own, and the channel keeps the latest notices only. To
one subscription all of this is a mailbox: what is published goes into it, and whoever reads from it
first loses what the channel does not keep any more. Nothing else that happens to the channel
concerns the mailbox.

* `Mailbox`                  what one subscription has still to read
* `Channel.Shows`            a channel that is this mailbox to an observer
* `Channel.Shows.perform`, `Channel.Shows.after`   it stays so, act by act and all the way
* `Delivered`                notices cut into what was missed, what was heard and what is unread
* `Channel.Shows.delivered`  all that is published is one of these
-/

namespace DroneFleet

/-! ## mailboxes -/

/-- what one subscription has still to read, the oldest in front -/
structure Mailbox (α : Type) where
  /-- how many notices are kept for it -/
  size : Nat
  /-- how many may still publish -/
  publishers : Nat
  unread : List α

namespace Mailbox

open Channel (Act)

variable {α : Type}

def receive (m : Mailbox α) : Reception α × Mailbox α :=
  match m.unread.drop (m.unread.length - m.size) with
  | a :: rest => (.notice (m.unread.length - m.size) a, { m with unread := rest })
  | [] => (if m.publishers = 0 then .closed else .pending, m)

/-- the mailbox after an act, and what is heard of it -/
def respond (name : String) (m : Mailbox α) : Act α → Mailbox α × Option (Reception α)
  | .publish a =>
    (if m.publishers = 0 then m else { m with unread := m.unread ++ [a] }, none)
  | .receive n => if n = name then (m.receive.2, some m.receive.1) else (m, none)
  | .share => (if m.publishers = 0 then m else { m with publishers := m.publishers + 1 }, none)
  | .leave => ({ m with publishers := m.publishers - 1 }, none)
  | _ => (m, none)

def after (name : String) (m : Mailbox α) (es : List (Act α)) : Mailbox α :=
  es.foldl (fun m e => (m.respond name e).1) m

def receptions (name : String) (m : Mailbox α) : List (Act α) → List (Reception α)
  | [] => []
  | e :: es => (m.respond name e).2.toList ++ (m.respond name e).1.receptions name es

theorem after_cons (name : String) (m : Mailbox α) (e : Act α) (es : List (Act α)) :
    m.after name (e :: es) = (m.respond name e).1.after name es := rfl

theorem receive_of_drop_nil {m : Mailbox α}
    (h : m.unread.drop (m.unread.length - m.size) = []) :
    m.receive = (if m.publishers = 0 then .closed else .pending, m) := by
  unfold receive
  rw [h]

theorem receive_of_drop {m : Mailbox α} {a : α} {rest : List α}
    (h : m.unread.drop (m.unread.length - m.size) = a :: rest) :
    m.receive = (.notice (m.unread.length - m.size) a, { m with unread := rest }) := by
  unfold receive
  rw [h]

end Mailbox

namespace Channel

variable {α : Type}

/-- is the channel this mailbox to an observer? -/
structure Shows (c : Channel α) (name : String) (m : Mailbox α) : Prop where
  tidy : c.Tidy
  size : c.size = m.size
  publishers : c.publishers = m.publishers
  unread_le : m.unread.length ≤ c.sent
  place : c.observers.lookup name = some (c.sent - m.unread.length)
  kept : c.kept.take m.unread.length = m.unread.reverse.take m.size

section
variable {c : Channel α} {name : String} {m : Mailbox α}

theorem shows_subscribe (h : c.Tidy) (name : String) :
    (c.subscribe name).Shows name ⟨c.size, c.publishers, []⟩ where
  tidy := h.subscribe name
  size := rfl
  publishers := rfl
  unread_le := Nat.zero_le _
  place := lookup_subscribe_self c name
  kept := List.take_nil.symm

theorem Shows.observers_ne_nil (h : c.Shows name m) : c.observers ≠ [] := by
  intro hc
  have place := h.place
  rw [hc] at place
  cases place

/-- the first notice that is kept for an observer, by the place of its unread notices -/
theorem Shows.at?_place (h : c.Shows name m) (hu : m.unread ≠ []) :
    c.at? (c.sent - min m.unread.length m.size) = m.unread[m.unread.length - m.size]? := by
  have positive : 0 < m.unread.length := List.length_pos_iff.mpr hu
  have size : 0 < m.size := h.size ▸ h.tidy.size_pos
  have bound := h.unread_le
  have index : c.sent - 1 - (c.sent - min m.unread.length m.size) =
      min m.unread.length m.size - 1 := by
    omega
  have back : m.unread.length - 1 - (min m.unread.length m.size - 1) =
      m.unread.length - m.size := by
    omega
  unfold at?
  rw [if_pos (by omega), index]
  calc c.kept[min m.unread.length m.size - 1]?
      = (c.kept.take m.unread.length)[min m.unread.length m.size - 1]? := by
        rw [List.getElem?_take_of_lt (by omega)]
    _ = m.unread.reverse[min m.unread.length m.size - 1]? := by
        rw [h.kept, List.getElem?_take_of_lt (by omega)]
    _ = m.unread[m.unread.length - m.size]? := by
        rw [List.getElem?_reverse (by omega), back]

theorem Shows.receive (h : c.Shows name m) :
    ∃ d, c.receive name = some (m.receive.1, d) ∧ d.Shows name m.receive.2 := by
  have size : 0 < m.size := h.size ▸ h.tidy.size_pos
  have bound := h.unread_le
  have long := h.tidy.kept
  rw [h.size] at long
  have first : max (c.sent - m.unread.length) c.oldest =
      c.sent - min m.unread.length m.size := by
    unfold oldest
    omega
  rw [receive_of_place h.place, first]
  cases hd : m.unread.drop (m.unread.length - m.size) with
  | nil =>
    have nothing : m.unread = [] := by
      rw [List.drop_eq_nil_iff] at hd
      exact List.length_eq_zero_iff.mp (by omega)
    have beyond : c.at? (c.sent - min m.unread.length m.size) = none := by
      rw [nothing, List.length_nil, Nat.zero_min, Nat.sub_zero]
      exact if_neg (Nat.lt_irrefl _)
    rw [beyond, Mailbox.receive_of_drop_nil hd, h.publishers]
    exact ⟨c, rfl, h⟩
  | cons a rest =>
    have length : rest.length + 1 = min m.unread.length m.size := by
      have h1 := congrArg List.length hd
      rw [List.length_drop, List.length_cons] at h1
      omega
    have some : m.unread ≠ [] := by
      intro hu
      rw [hu, List.drop_nil] at hd
      cases hd
    have oldest : m.unread[m.unread.length - m.size]? = .some a := by
      rw [← List.head?_drop, hd]
      rfl
    have missed : c.sent - min m.unread.length m.size - (c.sent - m.unread.length) =
        m.unread.length - m.size := by
      omega
    have back : rest.reverse = m.unread.reverse.take rest.length := by
      have tail : rest = m.unread.drop (m.unread.length - m.size + 1) := by
        rw [← List.drop_drop, hd]
        rfl
      rw [List.take_reverse, tail, List.length_drop]
      congr 2
      omega
    have there := h.at?_place some
    rw [oldest] at there
    rw [there, Mailbox.receive_of_drop hd, missed]
    refine ⟨_, rfl, h.tidy.seek name (by omega), h.size, h.publishers, ?_, ?_, ?_⟩
    · show rest.length ≤ c.sent
      omega
    · show (c.seek name (c.sent - min m.unread.length m.size + 1)).observers.lookup name =
        .some (c.sent - rest.length)
      rw [lookup_seek, if_pos rfl, h.place]
      show Option.some (c.sent - min m.unread.length m.size + 1) = _
      congr 1
      omega
    · show c.kept.take rest.length = rest.reverse.take m.size
      have within : rest.length ≤ m.unread.length := by omega
      rw [back, List.take_take, Nat.min_eq_right (by omega), ← Nat.min_eq_left within,
        ← List.take_take, h.kept, List.take_take]
      congr 1
      omega

theorem Shows.publish (h : c.Shows name m) (a : α) :
    (c.publish a).Shows name { m with unread := m.unread ++ [a] } := by
  have heard : c.observers.isEmpty = false := by
    rw [← Bool.not_eq_true, List.isEmpty_iff]
    exact h.observers_ne_nil
  have published : c.publish a =
      { c with sent := c.sent + 1, kept := (a :: c.kept).take c.size } := by
    unfold Channel.publish
    rw [heard]
    rfl
  have bound := h.unread_le
  have longer : (m.unread ++ [a]).length = m.unread.length + 1 := List.length_append
  have tidy := h.tidy.publish a
  rw [published] at tidy ⊢
  refine ⟨tidy, h.size, h.publishers, ?_, ?_, ?_⟩
  · show (m.unread ++ [a]).length ≤ c.sent + 1
    omega
  · show c.observers.lookup name = some (c.sent + 1 - (m.unread ++ [a]).length)
    rw [h.place, longer]
    congr 1
    omega
  · show ((a :: c.kept).take c.size).take (m.unread ++ [a]).length =
      (m.unread ++ [a]).reverse.take m.size
    rw [longer, List.take_take, Nat.min_comm, ← List.take_take, List.take_succ_cons, h.kept,
      List.reverse_append, h.size]
    show (a :: m.unread.reverse.take m.size).take m.size = (a :: m.unread.reverse).take m.size
    cases m.size with
    | zero => rfl
    | succ n => rw [List.take_succ_cons, List.take_succ_cons, List.take_take, Nat.min_eq_left (Nat.le_succ n)]

theorem Shows.of_same (h : c.Shows name m) {d : Channel α} (tidy : d.Tidy) (size : d.size = c.size)
    (publishers : d.publishers = c.publishers) (sent : d.sent = c.sent) (kept : d.kept = c.kept)
    (place : d.observers.lookup name = c.observers.lookup name) : d.Shows name m where
  tidy := tidy
  size := size.trans h.size
  publishers := publishers.trans h.publishers
  unread_le := sent ▸ h.unread_le
  place := by rw [place, sent, h.place]
  kept := by rw [kept, h.kept]

theorem Shows.receive_other (h : c.Shows name m) {other : String} (ho : name ≠ other)
    {r : Reception α} {d : Channel α} (hr : c.receive other = some (r, d)) : d.Shows name m := by
  have tidy := h.tidy.receive hr
  rcases exists_seek_of_receive hr with rfl | ⟨next, rfl⟩
  · exact h
  · refine h.of_same tidy rfl rfl rfl rfl ?_
    rw [lookup_seek, if_neg ho]

/-- an act is to an observer what it is to its mailbox -/
theorem Shows.perform (h : c.Shows name m) {e : Act α} (he : e.renews name = false) :
    (c.perform e).1.Shows name (m.respond name e).1 ∧
      receptionOf name (e, (c.perform e).2) = (m.respond name e).2 := by
  have tidy := h.tidy.perform e
  have left := h.publishers
  cases e with
  | subscribe n =>
    have hn : n ≠ name := of_decide_eq_false he
    by_cases h0 : c.publishers = 0
    · rw [perform_of_publishers_zero h0 rfl]
      exact ⟨h, rfl⟩
    · rw [perform_subscribe h0] at tidy ⊢
      exact ⟨h.of_same tidy rfl rfl rfl rfl (lookup_subscribe_of_ne c hn.symm), rfl⟩
  | unsubscribe n =>
    have hn : n ≠ name := of_decide_eq_false he
    exact ⟨h.of_same tidy rfl rfl rfl rfl (lookup_unsubscribe_of_ne c hn.symm), rfl⟩
  | publish a =>
    by_cases h0 : c.publishers = 0
    · rw [perform_of_publishers_zero h0 rfl]
      refine ⟨?_, rfl⟩
      show c.Shows name (if m.publishers = 0 then m else _)
      rw [if_pos (left.symm.trans h0)]
      exact h
    · rw [perform_publish h0]
      refine ⟨?_, rfl⟩
      show (c.publish a).Shows name (if m.publishers = 0 then m else _)
      rw [if_neg fun hm => h0 (left.trans hm)]
      exact h.publish a
  | receive n =>
    by_cases hn : n = name
    · subst hn
      obtain ⟨d, hr, shows⟩ := h.receive
      rw [perform_receive hr]
      have own : m.respond n (.receive n) = (m.receive.2, some m.receive.1) := if_pos rfl
      rw [own]
      exact ⟨shows, if_pos rfl⟩
    · have same : m.respond name (.receive n) = (m, none) := if_neg hn
      rw [same]
      cases hr : c.receive n with
      | none =>
        rw [perform_receive_of_none hr]
        exact ⟨h, rfl⟩
      | some r =>
        rw [perform_receive hr]
        exact ⟨h.receive_other (Ne.symm hn) hr, if_neg hn⟩
  | share =>
    by_cases h0 : c.publishers = 0
    · rw [perform_of_publishers_zero h0 rfl]
      refine ⟨?_, rfl⟩
      show c.Shows name (if m.publishers = 0 then m else _)
      rw [if_pos (left.symm.trans h0)]
      exact h
    · rw [perform_share h0] at tidy ⊢
      refine ⟨?_, rfl⟩
      show c.share.Shows name (if m.publishers = 0 then m else _)
      rw [if_neg fun hm => h0 (left.trans hm)]
      exact ⟨tidy, h.size, congrArg (· + 1) left, h.unread_le, h.place, h.kept⟩
  | leave => exact ⟨⟨tidy, h.size, congrArg (· - 1) left, h.unread_le, h.place, h.kept⟩, rfl⟩

theorem receptions_cons (e : Act α) (es : List (Act α)) :
    c.receptions name (e :: es) =
      (receptionOf name (e, (c.perform e).2)).toList ++ (c.perform e).1.receptions name es := by
  unfold receptions
  rw [trace, List.filterMap_cons]
  cases receptionOf name (e, (c.perform e).2) <;> rfl

theorem published_cons (e : Act α) (es : List (Act α)) :
    c.published (e :: es) =
      (noticeOf (e, (c.perform e).2)).toList ++ (c.perform e).1.published es := by
  unfold published
  rw [trace, List.filterMap_cons]
  cases noticeOf (e, (c.perform e).2) <;> rfl

theorem Shows.after (h : c.Shows name m) {es : List (Act α)} (hes : ∀ e ∈ es, e.renews name = false) :
    (c.after es).Shows name (m.after name es) ∧
      c.receptions name es = m.receptions name es := by
  induction es generalizing c m with
  | nil => exact ⟨h, rfl⟩
  | cons e es ih =>
    obtain ⟨shows, heard⟩ := h.perform (hes e List.mem_cons_self)
    obtain ⟨later, hears⟩ := ih shows fun x hx => hes x (List.mem_cons_of_mem _ hx)
    refine ⟨later, ?_⟩
    rw [receptions_cons, heard, hears]
    rfl

end

end Channel

/-! ## accounts -/

def Reception.value? {α : Type} : Reception α → Option α
  | .notice _ a => some a
  | _ => none

/-- how many notices were missed before it -/
def Reception.skipped {α : Type} : Reception α → Nat
  | .notice skipped _ => skipped
  | _ => 0

/-- notices cut into what one observer missed and heard, one after the other, and what is unread -/
inductive Delivered {α : Type} : List (Reception α) → List α → List α → Prop where
  | unread (as : List α) : Delivered [] as as
  | nothing {rs : List (Reception α)} {as us : List α} {r : Reception α} (hr : r.value? = none)
      (h : Delivered rs as us) : Delivered (r :: rs) as us
  | notice (missed : List α) (a : α) {rs : List (Reception α)} {as us : List α}
      (h : Delivered rs as us) : Delivered (.notice missed.length a :: rs) (missed ++ a :: as) us

namespace Delivered

variable {α : Type} {rs : List (Reception α)} {as us : List α}

theorem sublist (h : Delivered rs as us) : (rs.filterMap Reception.value? ++ us).Sublist as := by
  induction h with
  | unread as => exact List.Sublist.refl as
  | nothing hr h ih =>
    rw [List.filterMap_cons_none hr]
    exact ih
  | notice missed a h ih => exact (ih.cons_cons a).trans (List.sublist_append_right missed _)

theorem skipped_of_value?_none {r : Reception α} (h : r.value? = none) : r.skipped = 0 := by
  cases r with
  | notice skipped a => cases h
  | _ => rfl

theorem length_eq (h : Delivered rs as us) :
    (rs.filterMap Reception.value?).length + (rs.map Reception.skipped).sum + us.length =
      as.length := by
  induction h with
  | unread as => simp
  | nothing hr h ih =>
    rw [List.filterMap_cons_none hr, List.map_cons, List.sum_cons, skipped_of_value?_none hr]
    omega
  | notice missed a h ih =>
    rw [List.map_cons, List.sum_cons, List.length_append, List.length_cons]
    show (List.filterMap Reception.value? _).length + 1 + (missed.length + _) + _ = _
    omega

end Delivered

namespace Mailbox

variable {α : Type} {m : Mailbox α}

theorem delivered_receive (m : Mailbox α) {rs : List (Reception α)} {as us : List α}
    (h : Delivered rs (m.receive.2.unread ++ as) us) :
    Delivered (m.receive.1 :: rs) (m.unread ++ as) us := by
  cases hd : m.unread.drop (m.unread.length - m.size) with
  | nil =>
    rw [receive_of_drop_nil hd] at h ⊢
    refine Delivered.nothing ?_ h
    show (if m.publishers = 0 then Reception.closed else .pending).value? = none
    split <;> rfl
  | cons a rest =>
    rw [receive_of_drop hd] at h ⊢
    have cut : m.unread.take (m.unread.length - m.size) ++ a :: rest = m.unread := by
      rw [← hd, List.take_append_drop]
    have missed : (m.unread.take (m.unread.length - m.size)).length =
        m.unread.length - m.size := by
      rw [List.length_take]
      omega
    have d := Delivered.notice (m.unread.take (m.unread.length - m.size)) a h
    rw [missed, ← List.cons_append, ← List.append_assoc, cut] at d
    exact d

end Mailbox

namespace Channel

variable {α : Type} {c : Channel α} {name : String} {m : Mailbox α}

/-- what does not read from a mailbox can only put the notice into it that is published -/
theorem Shows.unread_respond (h : c.Shows name m) {e : Act α} (he : e ≠ .receive name) :
    (m.respond name e).2 = none ∧
      (m.respond name e).1.unread = m.unread ++ (noticeOf (e, (c.perform e).2)).toList := by
  have nothing : m.unread ++ (none : Option α).toList = m.unread := List.append_nil _
  have left := h.publishers
  cases e with
  | publish a =>
    refine ⟨rfl, ?_⟩
    show (if m.publishers = 0 then m else { m with unread := m.unread ++ [a] }).unread = _
    by_cases h0 : c.publishers = 0
    · rw [perform_of_publishers_zero h0 rfl, if_pos (left.symm.trans h0)]
      exact nothing.symm
    · rw [perform_publish h0, if_neg fun hm => h0 (left.trans hm)]
      rfl
  | receive n =>
    have other : m.respond name (.receive n) = (m, none) := if_neg fun hn => he (by rw [hn])
    rw [other]
    exact ⟨rfl, nothing.symm⟩
  | share =>
    refine ⟨rfl, ?_⟩
    show (if m.publishers = 0 then m else { m with publishers := m.publishers + 1 }).unread =
      m.unread ++ (none : Option α).toList
    rw [nothing]
    split <;> rfl
  | _ => exact ⟨rfl, nothing.symm⟩

/-- all that is published to a subscription is heard, missed or unread -/
theorem Shows.delivered (h : c.Shows name m) {es : List (Act α)}
    (hes : ∀ e ∈ es, e.renews name = false) :
    Delivered (m.receptions name es) (m.unread ++ c.published es) (m.after name es).unread := by
  induction es generalizing c m with
  | nil =>
    show Delivered [] (m.unread ++ []) m.unread
    rw [List.append_nil]
    exact Delivered.unread m.unread
  | cons e es ih =>
    have shows := (h.perform (hes e List.mem_cons_self)).1
    have rest := ih shows fun x hx => hes x (List.mem_cons_of_mem _ hx)
    rw [published_cons]
    by_cases he : e = .receive name
    · subst he
      have own : m.respond name (.receive name) = (m.receive.2, some m.receive.1) := if_pos rfl
      have hears : m.receptions name (.receive name :: es) =
          m.receive.1 :: m.receive.2.receptions name es := by
        rw [Mailbox.receptions, own]
        rfl
      have later : m.after name (.receive name :: es) = m.receive.2.after name es := by
        rw [Mailbox.after_cons, own]
      rw [own] at rest
      rw [hears, later]
      exact m.delivered_receive rest
    · obtain ⟨silent, unread⟩ := h.unread_respond he
      rw [unread, List.append_assoc] at rest
      rw [Mailbox.receptions, silent, Mailbox.after_cons]
      exact rest

end Channel

end DroneFleet
