import DroneFleet.Feed
import DroneFleet.Proofs.Subscriptions

/-!
# What a connection writes

A connection writes what its subscription hears, one frame after the other, the greeting first. Others
publish, subscribe and listen meanwhile, in any order; the observer may send what it likes.

* `Feed.Happening`, `Feed.course`      what happens at a connection and around it
* `Feed.receptions`, `Feed.published`  what its subscription hears, and what is published
* `Feed.happen_cases`                  one happening: the connection goes on, or it ends
* `Feed.accounts`                      all of them: what is written, missed and left to write
* `Feed.Owes`, `Feed.rounds`           each round of listening and writing gets one frame out
* `Feed.frames_are_what_is_published`  the frames of a connection
-/

namespace DroneFleet

namespace Feed

open Channel (Act)

/-- what can happen at a connection and around it -/
inductive Happening where
  | own (e : Event)
  /-- an act of others on the channel -/
  | other (e : Act Notice)

/-- does it make, end or use the subscription of that name from outside? -/
def Happening.meddles (name : String) : Happening → Bool
  | .own _ => false
  | .other (.receive n) => n = name
  | .other e => e.renews name

def happen (f : Feed) (c : Channel Notice) : Happening → Feed × Channel Notice
  | .own e => f.step c e
  | .other e => (f, (c.perform e).1)

def course (f : Feed) (c : Channel Notice) (hs : List Happening) : Feed × Channel Notice :=
  hs.foldl (fun s h => s.1.happen s.2 h) (f, c)

/-- what its subscription hears when something happens -/
def heardAt (f : Feed) (c : Channel Notice) : Happening → List (Reception Notice)
  | .own .awaited => if f.waits then ((c.receive f.name).map (·.1)).toList else []
  | _ => []

def publishedAt (c : Channel Notice) : Happening → List Notice
  | .own (.published n) => [n]
  | .own _ => []
  | .other e => (Channel.noticeOf (e, (c.perform e).2)).toList

def receptions (f : Feed) (c : Channel Notice) : List Happening → List (Reception Notice)
  | [] => []
  | h :: hs => f.heardAt c h ++ (f.happen c h).1.receptions (f.happen c h).2 hs

def published (f : Feed) (c : Channel Notice) : List Happening → List Notice
  | [] => []
  | h :: hs => publishedAt c h ++ (f.happen c h).1.published (f.happen c h).2 hs

theorem course_cons (f : Feed) (c : Channel Notice) (h : Happening) (hs : List Happening) :
    f.course c (h :: hs) = (f.happen c h).1.course (f.happen c h).2 hs := rfl

theorem course_append (f : Feed) (c : Channel Notice) (hs ks : List Happening) :
    f.course c (hs ++ ks) = (f.course c hs).1.course (f.course c hs).2 ks := List.foldl_append

theorem receptions_append (f : Feed) (c : Channel Notice) (hs ks : List Happening) :
    f.receptions c (hs ++ ks) =
      f.receptions c hs ++ (f.course c hs).1.receptions (f.course c hs).2 ks := by
  induction hs generalizing f c with
  | nil => rfl
  | cons h hs ih =>
    rw [List.cons_append, receptions, receptions, ih, List.append_assoc]
    rfl

theorem published_append (f : Feed) (c : Channel Notice) (hs ks : List Happening) :
    f.published c (hs ++ ks) =
      f.published c hs ++ (f.course c hs).1.published (f.course c hs).2 ks := by
  induction hs generalizing f c with
  | nil => rfl
  | cons h hs ih =>
    rw [List.cons_append, published, published, ih, List.append_assoc]
    rfl

/-! ## one happening -/

/-- a connection that goes on: what it heard follows what it wrote and is about to write, and its
subscription accounts for what was published -/
structure GoesOn (f : Feed) (c : Channel Notice) (m : Mailbox Notice) (h : Happening)
    (later : Mailbox Notice) : Prop where
  standing : (f.happen c h).1.standing = true
  shows : (f.happen c h).2.Shows (f.happen c h).1.name later
  frames : (f.happen c h).1.written ++ (f.happen c h).1.sending.toList =
    f.written ++ f.sending.toList ++ (f.heardAt c h).filterMap Reception.value?
  account : ∀ {rs : List (Reception Notice)} {as us : List Notice},
    Delivered rs (later.unread ++ as) us →
      Delivered (f.heardAt c h ++ rs) (m.unread ++ (publishedAt c h ++ as)) us

/-- why a connection ends: a frame cannot be written, the observer leaves, or nobody is left to
publish and all is read -/
def Cause (f : Feed) (c : Channel Notice) (unread : List Notice) (h : Happening) : Prop :=
  h = .own .unwritable ∧ f.sending ≠ none ∨ (∃ i, i ≠ .message ∧ h = .own (.arrived i)) ∨
    h = .own .awaited ∧ c.publishers = 0 ∧ unread = []

/-- a connection that ends, with nothing more written -/
structure Ends (f : Feed) (c : Channel Notice) (m : Mailbox Notice) (h : Happening) : Prop where
  ended : f.happen c h = f.finish c
  unheard : (f.heardAt c h).filterMap Reception.value? = []
  account : Delivered (f.heardAt c h) m.unread m.unread
  cause : Cause f c m.unread h

section
variable {f : Feed} {c : Channel Notice} {m : Mailbox Notice}

theorem goesOn_of_same (standing : f.standing = true) (shows : c.Shows f.name m) {h : Happening}
    (same : f.happen c h = (f, c)) (silent : f.heardAt c h = []) (none : publishedAt c h = []) :
    f.GoesOn c m h m where
  standing := by rw [same, standing]
  shows := by rwa [same]
  frames := by rw [same, silent, List.filterMap_nil, List.append_nil]
  account := by
    intro rs as us d
    rwa [silent, none]

theorem waits_eq (standing : f.standing = true) : f.waits = f.sending.isNone := by
  unfold waits
  rw [standing, Bool.true_and]

theorem happen_awaited (idle : f.waits = true) : f.happen c (.own .awaited) = f.await c := if_pos idle

theorem heardAt_awaited (idle : f.waits = true) (shows : c.Shows f.name m) :
    f.heardAt c (.own .awaited) = [m.receive.1] := by
  obtain ⟨d, hears, -⟩ := shows.receive
  show (if f.waits then ((c.receive f.name).map (·.1)).toList else []) = _
  rw [if_pos idle, hears]
  rfl

/-- the look for the next notice: it becomes the frame under way -/
theorem goesOn_of_notice (standing : f.standing = true) (idle : f.waits = true)
    (shows : c.Shows f.name m) {a : Notice} {rest : List Notice}
    (next : m.unread.drop (m.unread.length - m.size) = a :: rest) :
    f.GoesOn c m (.own .awaited) m.receive.2 := by
  obtain ⟨d, hears, shows'⟩ := shows.receive
  have found : m.receive.1 = .notice (m.unread.length - m.size) a := by
    rw [Mailbox.receive_of_drop next]
  have nothing : f.sending = none := by
    rw [waits_eq standing] at idle
    exact Option.isNone_iff_eq_none.mp idle
  have goes : f.happen c (.own .awaited) = ({ f with sending := some a }, d) := by
    rw [happen_awaited idle]
    unfold await
    rw [hears, found]
  refine ⟨?_, ?_, ?_, ?_⟩
  · rw [goes]
    exact standing
  · rw [goes]
    exact shows'
  · rw [goes, heardAt_awaited idle shows, found, nothing]
    show f.written ++ [a] = f.written ++ [] ++ [a]
    rw [List.append_nil]
  · intro rs as us d
    rw [heardAt_awaited idle shows]
    exact m.delivered_receive d

theorem goesOn_or_ends_of_none (standing : f.standing = true) (idle : f.waits = true)
    (shows : c.Shows f.name m) (next : m.unread.drop (m.unread.length - m.size) = []) :
    f.GoesOn c m (.own .awaited) m ∨ f.Ends c m (.own .awaited) := by
  obtain ⟨d, hears, -⟩ := shows.receive
  have size : 0 < m.size := shows.size ▸ shows.tidy.size_pos
  have found : m.receive = (if m.publishers = 0 then .closed else .pending, m) :=
    Mailbox.receive_of_drop_nil next
  have heard := heardAt_awaited idle shows
  have account {rs : List (Reception Notice)} {as us : List Notice}
      (d : Delivered rs (m.unread ++ as) us) :
      Delivered (m.receive.1 :: rs) (m.unread ++ as) us := by
    refine m.delivered_receive ?_
    rw [found]
    exact d
  rw [found] at hears heard account
  by_cases h0 : m.publishers = 0
  · rw [if_pos h0] at hears heard account
    have all : m.unread = [] := by
      rw [List.drop_eq_nil_iff] at next
      exact List.length_eq_zero_iff.mp (by omega)
    refine Or.inr ⟨?_, ?_, ?_, Or.inr (Or.inr ⟨rfl, shows.publishers.trans h0, all⟩)⟩
    · rw [happen_awaited idle]
      unfold await
      rw [hears]
    · rw [heard]
      rfl
    · rw [heard]
      have d := account (Delivered.unread (m.unread ++ []))
      rwa [List.append_nil] at d
  · rw [if_neg h0] at hears heard account
    have same : f.happen c (.own .awaited) = (f, c) := by
      rw [happen_awaited idle]
      unfold await
      rw [hears]
    refine Or.inl ⟨?_, ?_, ?_, ?_⟩
    · rw [same]
      exact standing
    · rw [same]
      exact shows
    · rw [same, heard]
      exact (List.append_nil _).symm
    · intro rs as us d
      rw [heard]
      exact account d

/-- **A connection goes on or ends**, whatever happens. -/
theorem happen_cases (standing : f.standing = true) (shows : c.Shows f.name m) {h : Happening}
    (quiet : h.meddles f.name = false) :
    (∃ later, f.GoesOn c m h later) ∨ f.Ends c m h := by
  cases h with
  | own e =>
    cases e with
    | published n =>
      refine Or.inl ⟨_, standing, shows.publish n, (List.append_nil _).symm, ?_⟩
      intro rs as us d
      rwa [List.append_assoc] at d
    | written =>
      cases hs : f.sending with
      | none =>
        have same : f.step c .written = (f, c) := by simp only [step, hs]
        exact Or.inl ⟨m, goesOn_of_same standing shows same rfl rfl⟩
      | some n =>
        have goes : f.happen c (.own .written) =
            ({ f with sending := none, written := f.written ++ [n] }, c) := by
          simp only [happen, step, hs]
        refine Or.inl ⟨m, ?_, ?_, ?_, fun d => d⟩
        · rw [goes]
          exact standing
        · rw [goes]
          exact shows
        · rw [goes, hs]
          rfl
    | unwritable =>
      cases hs : f.sending with
      | none =>
        have same : f.step c .unwritable = (f, c) := by simp only [step, hs]; rfl
        exact Or.inl ⟨m, goesOn_of_same standing shows same rfl rfl⟩
      | some n =>
        have ended : f.step c .unwritable = f.finish c := by simp only [step, hs]; rfl
        refine Or.inr ⟨ended, rfl, Delivered.unread _, Or.inl ⟨rfl, ?_⟩⟩
        rw [hs]
        exact Option.some_ne_none n
    | awaited =>
      cases hw : f.waits with
      | false =>
        have same : f.step c .awaited = (f, c) := by simp only [step, hw]; rfl
        have silent : f.heardAt c (.own .awaited) = [] := by simp only [heardAt, hw]; rfl
        exact Or.inl ⟨m, goesOn_of_same standing shows same silent rfl⟩
      | true =>
        cases next : m.unread.drop (m.unread.length - m.size) with
        | nil => exact (goesOn_or_ends_of_none standing hw shows next).imp_left fun g => ⟨m, g⟩
        | cons a rest => exact Or.inl ⟨_, goesOn_of_notice standing hw shows next⟩
    | arrived i =>
      by_cases hi : f.waits = true ∧ i ≠ .message
      · have ended : f.step c (.arrived i) = f.finish c := if_pos (by simpa using hi)
        exact Or.inr ⟨ended, rfl, Delivered.unread _, Or.inr (Or.inl ⟨i, hi.2, rfl⟩)⟩
      · have same : f.step c (.arrived i) = (f, c) := if_neg (by simpa using hi)
        exact Or.inl ⟨m, goesOn_of_same standing shows same rfl rfl⟩
  | other e =>
    have renews : e.renews f.name = false := by
      cases e with
      | receive n => rfl
      | _ => exact quiet
    have unread : e ≠ .receive f.name := by
      rintro rfl
      exact of_decide_eq_false quiet rfl
    have silent := shows.unread_respond unread
    refine Or.inl ⟨_, standing, (shows.perform renews).1, (List.append_nil _).symm, ?_⟩
    intro rs as us d
    rwa [silent.2, List.append_assoc] at d

theorem name_happen (f : Feed) (c : Channel Notice) (h : Happening) : (f.happen c h).1.name = f.name := by
  cases h with
  | other e => rfl
  | own e =>
    cases e with
    | published n => rfl
    | written =>
      simp only [happen, step]
      split <;> rfl
    | unwritable =>
      show (if f.sending.isSome then f.finish c else (f, c)).1.name = _
      split <;> rfl
    | awaited =>
      show (if f.waits then f.await c else (f, c)).1.name = _
      unfold await
      split
      · split <;> rfl
      · rfl
    | arrived i =>
      show (if f.waits && i ≠ .message then f.finish c else (f, c)).1.name = _
      split <;> rfl

theorem happen_of_ended (ended : f.standing = false) (idle : f.sending = none) (h : Happening) :
    (f.happen c h).1 = f ∧ f.heardAt c h = [] := by
  have still : f.waits = false := by
    unfold waits
    rw [ended, Bool.false_and]
  cases h with
  | other e => exact ⟨rfl, rfl⟩
  | own e =>
    cases e with
    | published n => exact ⟨rfl, rfl⟩
    | written => simp only [happen, step, idle, heardAt, and_self]
    | unwritable => simp [happen, step, idle, heardAt]
    | awaited => simp [happen, step, still, heardAt]
    | arrived i => simp [happen, step, still, heardAt]

theorem course_of_ended (ended : f.standing = false) (idle : f.sending = none)
    (hs : List Happening) : (f.course c hs).1 = f ∧ f.receptions c hs = [] := by
  induction hs generalizing c with
  | nil => exact ⟨rfl, rfl⟩
  | cons h hs ih =>
    obtain ⟨same, silent⟩ := happen_of_ended (c := c) ended idle h
    rw [course_cons, receptions, same, silent]
    exact ih

/-! ## many of them -/

/-- what a connection wrote, missed and has still to write after what happened, with what was published
before its end and after it -/
structure Accounts (f : Feed) (c : Channel Notice) (m : Mailbox Notice) (hs : List Happening)
    (before after unread left : List Notice) : Prop where
  published : f.published c hs = before ++ after
  delivered : Delivered (f.receptions c hs) (m.unread ++ before) unread
  frames : (f.course c hs).1.written ++ left =
    f.written ++ f.sending.toList ++ (f.receptions c hs).filterMap Reception.value?
  left_le : left.length ≤ 1
  going : (f.course c hs).1.standing = true →
    after = [] ∧ left = (f.course c hs).1.sending.toList ∧
      ∃ later, (f.course c hs).2.Shows f.name later ∧ later.unread = unread

theorem accounts (standing : f.standing = true) (shows : c.Shows f.name m) {hs : List Happening}
    (quiet : ∀ h ∈ hs, h.meddles f.name = false) :
    ∃ before after unread left, f.Accounts c m hs before after unread left := by
  induction hs generalizing f c m with
  | nil =>
    refine ⟨[], [], m.unread, f.sending.toList, rfl, ?_, (List.append_nil _).symm,
      Option.length_toList_le, fun _ => ⟨rfl, rfl, m, shows, rfl⟩⟩
    rw [List.append_nil]
    exact Delivered.unread m.unread
  | cons h hs ih =>
    rcases happen_cases standing shows (quiet h List.mem_cons_self) with ⟨later, goes⟩ | ends
    · have name := f.name_happen c h
      have quiet' : ∀ x ∈ hs, x.meddles (f.happen c h).1.name = false := by
        intro x hx
        rw [name]
        exact quiet x (List.mem_cons_of_mem _ hx)
      obtain ⟨before, after, unread, left, rest⟩ := ih goes.standing goes.shows quiet'
      refine ⟨publishedAt c h ++ before, after, unread, left, ?_, goes.account rest.delivered, ?_,
        rest.left_le, ?_⟩
      · rw [published, rest.published, List.append_assoc]
      · rw [course_cons, receptions, rest.frames, goes.frames, List.filterMap_append,
          List.append_assoc]
      · rw [← name]
        exact rest.going
    · have ended : (f.happen c h).1 = (f.finish c).1 := congrArg Prod.fst ends.ended
      obtain ⟨same, silent⟩ := course_of_ended (c := (f.happen c h).2) (f := (f.happen c h).1)
        (by rw [ended]; rfl) (by rw [ended]; rfl) hs
      refine ⟨[], f.published c (h :: hs), m.unread, f.sending.toList, rfl, ?_, ?_,
        Option.length_toList_le, ?_⟩
      · rw [receptions, silent, List.append_nil, List.append_nil]
        exact ends.account
      · rw [course_cons, same, ended, receptions, silent, List.append_nil, ends.unheard,
          List.append_nil]
        rfl
      · intro going
        rw [course_cons, same, ended] at going
        cases going

/-! ## rounds -/

def begun (f : Feed) : Nat := f.written.length + f.sending.toList.length

/-- a connection that stands, with so many frames begun or still unread -/
def Owes (f : Feed) (c : Channel Notice) (n : Nat) : Prop :=
  f.standing = true ∧ ∃ m, c.Shows f.name m ∧ n ≤ f.begun + m.unread.length

theorem standing_of_happen {h : Happening} (later : (f.happen c h).1.standing = true) :
    f.standing = true := by
  cases h with
  | other e => exact later
  | own e =>
    cases e with
    | published n => exact later
    | written =>
      simp only [happen, step] at later
      split at later <;> exact later
    | unwritable =>
      simp only [happen, step] at later
      split at later
      · cases later
      · exact later
    | awaited =>
      simp only [happen, step] at later
      split at later
      · unfold await at later
        split at later
        · exact later
        · exact later
        · cases later
        · exact later
      · exact later
    | arrived i =>
      simp only [happen, step] at later
      split at later
      · cases later
      · exact later

theorem standing_of_course {hs : List Happening} (later : (f.course c hs).1.standing = true) :
    f.standing = true := by
  induction hs generalizing f c with
  | nil => exact later
  | cons h hs ih => exact standing_of_happen (ih later)

theorem name_course (f : Feed) (c : Channel Notice) (hs : List Happening) :
    (f.course c hs).1.name = f.name := by
  induction hs generalizing f c with
  | nil => rfl
  | cons h hs ih => rw [course_cons, ih, name_happen]

/-- nothing meddles with the subscription, the connection stands, and no notice is missed -/
structure Clear (f : Feed) (c : Channel Notice) (hs : List Happening) : Prop where
  quiet : ∀ h ∈ hs, h.meddles f.name = false
  standing : (f.course c hs).1.standing = true
  kept : ∀ r ∈ f.receptions c hs, r.skipped = 0

theorem Clear.left {hs ks : List Happening} (clear : f.Clear c (hs ++ ks)) : f.Clear c hs where
  quiet := fun h hh => clear.quiet h (List.mem_append_left _ hh)
  standing := by
    have standing := clear.standing
    rw [course_append] at standing
    exact standing_of_course standing
  kept := by
    intro r hr
    refine clear.kept r ?_
    rw [receptions_append]
    exact List.mem_append_left _ hr

theorem Clear.right {hs ks : List Happening} (clear : f.Clear c (hs ++ ks)) :
    (f.course c hs).1.Clear (f.course c hs).2 ks where
  quiet := by
    intro h hh
    rw [name_course]
    exact clear.quiet h (List.mem_append_right _ hh)
  standing := by
    rw [← course_append]
    exact clear.standing
  kept := by
    intro r hr
    refine clear.kept r ?_
    rw [receptions_append]
    exact List.mem_append_right _ hr

/-- at a connection where nothing is missed, all is heard or unread -/
theorem Clear.count {hs : List Happening} (clear : f.Clear c hs) {as us : List Notice}
    (d : Delivered (f.receptions c hs) as us) :
    (f.receptions c hs).filterMap Reception.value? ++ us = as := by
  have skipped : ((f.receptions c hs).map Reception.skipped).sum = 0 := by
    rw [List.sum_eq_zero_iff_forall_eq_nat]
    intro x hx
    obtain ⟨r, hr, rfl⟩ := List.mem_map.mp hx
    exact clear.kept r hr
  have length := d.length_eq
  rw [skipped, Nat.add_zero, ← List.length_append] at length
  exact d.sublist.eq_of_length length

theorem Clear.written_prefix {hs : List Happening} (clear : f.Clear c hs)
    (standing : f.standing = true) (shows : c.Shows f.name m) :
    (f.course c hs).1.written <+:
      f.written ++ f.sending.toList ++ (m.unread ++ f.published c hs) := by
  obtain ⟨before, after, unread, left, account⟩ := accounts standing shows clear.quiet
  obtain ⟨rfl, -, -⟩ := account.going clear.standing
  have published : f.published c hs = before := account.published.trans (List.append_nil _)
  refine ⟨left ++ unread, ?_⟩
  rw [← List.append_assoc, account.frames, List.append_assoc, clear.count account.delivered,
    published]

theorem Owes.le {n k : Nat} (owes : f.Owes c n) (h : k ≤ n) : f.Owes c k := by
  obtain ⟨standing, m, shows, total⟩ := owes
  exact ⟨standing, m, shows, Nat.le_trans h total⟩

theorem Owes.grow {n : Nat} (owes : f.Owes c n) {hs : List Happening} (clear : f.Clear c hs) :
    (f.course c hs).1.Owes (f.course c hs).2 (n + (f.published c hs).length) ∧
      f.begun ≤ (f.course c hs).1.begun := by
  obtain ⟨standing, m, shows, total⟩ := owes
  obtain ⟨before, after, unread, left, account⟩ := accounts standing shows clear.quiet
  obtain ⟨rfl, rfl, m', shows', rfl⟩ := account.going clear.standing
  have all := congrArg List.length (clear.count account.delivered)
  have frames := congrArg List.length account.frames
  have published := congrArg List.length account.published
  simp only [List.length_append, List.length_nil] at all frames published
  have begun : f.begun = f.written.length + f.sending.toList.length := rfl
  have begun' : (f.course c hs).1.begun =
      (f.course c hs).1.written.length + (f.course c hs).1.sending.toList.length := rfl
  rw [← f.name_course c hs] at shows'
  exact ⟨⟨clear.standing, m', shows', by omega⟩, by omega⟩

theorem Owes.course {n : Nat} (owes : f.Owes c n) {hs : List Happening} (clear : f.Clear c hs) :
    (f.course c hs).1.Owes (f.course c hs).2 n := (owes.grow clear).1.le (Nat.le_add_right _ _)

theorem Owes.begun_le {n : Nat} (owes : f.Owes c n) {hs : List Happening} (clear : f.Clear c hs) :
    f.begun ≤ (f.course c hs).1.begun := (owes.grow clear).2

theorem length_written_happen (f : Feed) (c : Channel Notice) (h : Happening) :
    f.written.length ≤ (f.happen c h).1.written.length := by
  cases h with
  | other e => exact Nat.le_refl _
  | own e =>
    rcases f.written_step c e with same | ⟨n, -, more⟩
    · exact Nat.le_of_eq (congrArg List.length same.symm)
    · show _ ≤ (f.step c e).1.written.length
      rw [more, List.length_append]
      exact Nat.le_add_right _ _

theorem length_written_course (f : Feed) (c : Channel Notice) (hs : List Happening) :
    f.written.length ≤ (f.course c hs).1.written.length := by
  induction hs generalizing f c with
  | nil => exact Nat.le_refl _
  | cons h hs ih => exact Nat.le_trans (f.length_written_happen c h) (ih _ _)

theorem Owes.begun_awaited {n : Nat} (owes : f.Owes c n) (clear : f.Clear c [.own .awaited]) :
    min (f.written.length + 1) n ≤ (f.happen c (.own .awaited)).1.begun := by
  have le : f.begun ≤ (f.happen c (.own .awaited)).1.begun := owes.begun_le clear
  obtain ⟨standing, m, shows, total⟩ := owes
  cases hs : f.sending with
  | some a =>
    have one : f.begun = f.written.length + 1 := by
      unfold begun
      rw [hs]
      rfl
    omega
  | none =>
    have none : f.begun = f.written.length := by
      unfold begun
      rw [hs]
      rfl
    have idle : f.waits = true := by
      rw [waits_eq standing, hs]
      rfl
    rcases m.receive_cases (shows.size ▸ shows.tidy.size_pos) with ⟨nil, -⟩ | ⟨ms, a, rest, -, -, next⟩
    · rw [nil, List.length_nil] at total
      omega
    · rcases happen_cases standing shows (h := .own .awaited) rfl with ⟨m', goes⟩ | ends
      · have more := congrArg List.length goes.frames
        rw [heardAt_awaited idle shows, next, List.length_append, List.length_append,
          List.length_append] at more
        have one : (f.happen c (.own .awaited)).1.begun = f.begun + 1 := more
        omega
      · have ended := clear.standing
        change (f.happen c (.own .awaited)).1.standing = true at ended
        rw [ends.ended] at ended
        cases ended

theorem length_written_written (f : Feed) (c : Channel Notice) :
    (f.happen c (.own .written)).1.written.length = f.begun := by
  unfold begun
  cases hs : f.sending with
  | none =>
    simp only [happen, step, hs]
    rfl
  | some n =>
    simp only [happen, step, hs, List.length_append]
    rfl

/-- a look for a notice and a frame written after it get one frame out, unless nothing is owed -/
theorem Owes.round {n : Nat} (owes : f.Owes c n) {hs ks : List Happening}
    (look : .own .awaited ∈ hs) (write : .own .written ∈ ks) (clear : f.Clear c (hs ++ ks)) :
    min (f.written.length + 1) n ≤ (f.course c (hs ++ ks)).1.written.length := by
  obtain ⟨s, t, rfl⟩ := List.append_of_mem look
  obtain ⟨u, v, rfl⟩ := List.append_of_mem write
  have parts : s ++ .own .awaited :: t ++ (u ++ .own .written :: v) =
      s ++ ([.own .awaited] ++ ((t ++ u) ++ ([.own .written] ++ v))) := by
    simp only [List.append_assoc, List.cons_append, List.nil_append]
  rw [parts] at clear ⊢
  let p := f.course c s
  let looking := p.1.happen p.2 (.own .awaited)
  let q := looking.1.course looking.2 (t ++ u)
  let writing := q.1.happen q.2 (.own .written)
  have start : p.1.Owes p.2 n := owes.course clear.left
  have looked : looking.1.Owes looking.2 n := start.course clear.right.left
  have last : f.course c (s ++ ([.own .awaited] ++ ((t ++ u) ++ ([.own .written] ++ v)))) =
      writing.1.course writing.2 v := by
    rw [course_append, course_append, course_append, course_append]
    rfl
  rw [last]
  calc min (f.written.length + 1) n
      ≤ min (p.1.written.length + 1) n := by
        have grows := f.length_written_course c s
        have : f.written.length ≤ p.1.written.length := grows
        omega
    _ ≤ looking.1.begun := start.begun_awaited clear.right.left
    _ ≤ q.1.begun := looked.begun_le clear.right.right.left
    _ = writing.1.written.length := (length_written_written q.1 q.2).symm
    _ ≤ (writing.1.course writing.2 v).1.written.length := length_written_course _ _ v

/-- looks for notices and frames written, in turn, get that many frames out, unless all that was owed is
written before -/
theorem Owes.rounds {n k : Nat} (owes : f.Owes c n) {hs : List Happening}
    (turns : (List.replicate k [.own .awaited, .own .written]).flatten.Sublist hs)
    (clear : f.Clear c hs) :
    min (f.written.length + k) n ≤ (f.course c hs).1.written.length := by
  induction k generalizing f c hs with
  | zero => exact Nat.le_trans (Nat.min_le_left _ _) (f.length_written_course c hs)
  | succ k ih =>
    rw [List.replicate_succ, List.flatten_cons] at turns
    obtain ⟨looks, ks, rfl, look, turns⟩ := List.cons_sublist_iff.mp turns
    obtain ⟨writes, ls, rfl, write, turns⟩ := List.cons_sublist_iff.mp turns
    rw [← List.append_assoc] at clear ⊢
    have once := owes.round look write clear.left
    have rest := ih (owes.course clear.left) turns clear.right
    rw [course_append]
    omega

/-! ## what is not heeded -/

/-- is it anything but a message of the observer? -/
def Happening.heeded : Happening → Bool
  | .own (.arrived .message) => false
  | _ => true

theorem happen_of_not_heeded (f : Feed) (c : Channel Notice) {h : Happening} (hh : h.heeded = false) :
    f.happen c h = (f, c) ∧ f.heardAt c h = [] ∧ publishedAt c h = [] := by
  cases h with
  | other e => cases hh
  | own e =>
    cases e with
    | arrived i =>
      cases i with
      | message =>
        refine ⟨if_neg ?_, rfl, rfl⟩
        rw [Bool.and_eq_true]
        exact fun h => of_decide_eq_true h.2 rfl
      | _ => cases hh
    | _ => cases hh

/-- messages of the observer change nothing -/
theorem course_filter_heeded (f : Feed) (c : Channel Notice) (hs : List Happening) :
    f.course c (hs.filter Happening.heeded) = f.course c hs ∧
      f.receptions c (hs.filter Happening.heeded) = f.receptions c hs ∧
      f.published c (hs.filter Happening.heeded) = f.published c hs := by
  induction hs generalizing f c with
  | nil => exact ⟨rfl, rfl, rfl⟩
  | cons h hs ih =>
    cases hh : h.heeded with
    | false =>
      obtain ⟨same, silent, nothing⟩ := f.happen_of_not_heeded c hh
      rw [List.filter_cons_of_neg (by simp [hh]), course_cons, receptions, published, same, silent,
        nothing]
      exact ih f c
    | true =>
      rw [List.filter_cons_of_pos hh, course_cons, receptions, published, course_cons, receptions,
        published]
      obtain ⟨h1, h2, h3⟩ := ih (f.happen c h).1 (f.happen c h).2
      exact ⟨h1, congrArg _ h2, congrArg _ h3⟩

theorem size_happen (f : Feed) (c : Channel Notice) (h : Happening) :
    (f.happen c h).2.size = c.size := by
  cases h with
  | other e => exact c.size_perform e
  | own e =>
    cases e with
    | published n => exact Channel.size_publish n c
    | written =>
      simp only [happen, step]
      split <;> rfl
    | unwritable =>
      simp only [happen, step]
      split <;> rfl
    | awaited =>
      simp only [happen, step]
      split
      · unfold await
        split
        · rename_i hr
          rcases Channel.exists_seek_of_receive hr with rfl | ⟨next, rfl⟩
          · rfl
          · rfl
        · rfl
        · rfl
        · rfl
      · rfl
    | arrived i =>
      simp only [happen, step]
      split <;> rfl

theorem size_course (f : Feed) (c : Channel Notice) (hs : List Happening) :
    (f.course c hs).2.size = c.size := by
  induction hs generalizing f c with
  | nil => rfl
  | cons h hs ih => rw [course_cons, ih, size_happen]

/-- what a connection owes is written, in order, after enough turns -/
theorem Clear.prefix_written {hs ks : List Happening} {n : Nat} (clear : f.Clear c (hs ++ ks))
    (standing : f.standing = true) (shows : c.Shows f.name m)
    (turns : (List.replicate n [.own .awaited, .own .written]).flatten.Sublist ks)
    (enough : f.begun + m.unread.length + (f.published c hs).length ≤
      (f.course c hs).1.written.length + n) :
    f.written ++ f.sending.toList ++ (m.unread ++ f.published c hs) <+:
      (f.course c (hs ++ ks)).1.written := by
  have start : f.Owes c (f.begun + m.unread.length) := ⟨standing, m, shows, Nat.le_refl _⟩
  have owes := (start.grow clear.left).1
  have out := owes.rounds turns clear.right
  rw [← course_append, Nat.min_eq_right enough] at out
  have order := clear.written_prefix standing shows
  rw [published_append, ← List.append_assoc m.unread, ← List.append_assoc] at order
  refine List.prefix_of_prefix_length_le (List.prefix_append _ _) order ?_
  rw [List.length_append, List.length_append, List.length_append, ← Nat.add_assoc]
  exact out

/-! ## the frames of a connection -/

def text (n : Notice) : String := n.toJson.compress

theorem text_status_ne (s : Drone.Snapshot) : text (.status s) ≠ text .greeting := by
  intro same
  have letters := congrArg (fun t => t.toList[9]?) same
  have status : (text (.status s)).toList[9]? = some 's' := by
    simp only [text, Json.compress, String.toList_ofList]
    rfl
  have info : (text .greeting).toList[9]? = some 'i' := by
    simp only [text, Json.compress, String.toList_ofList]
    rfl
  rw [status, info] at letters
  exact absurd letters (by decide)

theorem greeting_not_mem_tail {ws left heard : List Notice} (frames : ws ++ left = .greeting :: heard)
    (statuses : ∀ n ∈ heard, ∃ s, n = .status s) : text .greeting ∉ (ws.map text).tail := by
  intro mem
  rw [← List.map_tail] at mem
  obtain ⟨n, hn, same⟩ := List.mem_map.mp mem
  have rest : ws.tail <+: heard := by
    cases ws with
    | nil => exact List.nil_prefix
    | cons x xs => exact ⟨left, (List.cons.inj frames).2⟩
  obtain ⟨s, rfl⟩ := statuses n (rest.subset hn)
  exact text_status_ne s same

theorem heard_of_published {hs : List Happening} {before after unread : List Notice}
    (published : f.published c hs = before ++ after)
    (delivered : Delivered (f.receptions c hs) before unread) {n : Notice}
    (hn : n ∈ (f.receptions c hs).filterMap Reception.value?) : n ∈ f.published c hs := by
  rw [published]
  exact List.mem_append_left _ (delivered.sublist.subset (List.mem_append_left _ hn))

theorem heardAt_next (idle : f.waits = true) (shows : c.Shows f.name m) :
    (m.unread = [] ∧ f.heardAt c (.own .awaited) =
        [if c.publishers = 0 then .closed else .pending]) ∨
      ∃ missed a rest, m.unread = missed ++ a :: rest ∧
        missed.length = m.unread.length - c.size ∧
        f.heardAt c (.own .awaited) = [.notice missed.length a] := by
  rw [heardAt_awaited idle shows, shows.size, shows.publishers]
  rcases m.receive_cases (shows.size ▸ shows.tidy.size_pos) with
    ⟨nil, next⟩ | ⟨missed, a, rest, cut, length, next⟩
  · exact Or.inl ⟨nil, congrArg (fun r => [r]) next⟩
  · exact Or.inr ⟨missed, a, rest, cut, length, congrArg (fun r => [r]) next⟩

end

/-- **A connection writes the greeting and then what is published**, in whatever order things happen. What
was written, with at most one frame on its way, is the greeting and what the subscription heard, and
what it heard are the notices published since it was made, but for those it missed and those it has
not read. It misses some only if more are unread than the ring keeps. Nothing more is heard only after
the end, and an end has one of its causes. Where nothing is missed, enough turns get everything out.
Messages of the observer change nothing, and the greeting comes once. -/
theorem frames_are_what_is_published (capacity : Nat) (es : List (Act Notice)) (name : String)
    (hs : List Happening) (quiet : ∀ h ∈ hs, h.meddles name = false) :
    let f := (begin name ((Channel.new capacity).after es)).1
    let c := (begin name ((Channel.new capacity).after es)).2
    let g := (f.course c hs).1
    let d := (f.course c hs).2
    let heard := (f.receptions c hs).filterMap Reception.value?
    (∃ before after unread left,
      f.published c hs = before ++ after ∧ Delivered (f.receptions c hs) before unread ∧
      g.texts ++ left.map text = text .greeting :: heard.map text ∧ left.length ≤ 1 ∧
      (g.standing = true →
        after = [] ∧ left = g.sending.toList ∧
        ((∀ r ∈ f.receptions c hs, r.skipped = 0) →
          g.texts ++ (g.sending.toList ++ unread).map text =
            text .greeting :: (f.published c hs).map text) ∧
        (g.waits = true →
          (unread = [] ∧ g.heardAt d (.own .awaited) =
              [if d.publishers = 0 then .closed else .pending]) ∨
            ∃ missed a rest, unread = missed ++ a :: rest ∧
              missed.length = unread.length - ringSize capacity ∧
              g.heardAt d (.own .awaited) = [.notice missed.length a]) ∧
        ∀ h, h.meddles name = false → (g.happen d h).1.standing = false → Cause g d unread h)) ∧
    (∀ ks n, f.Clear c (hs ++ ks) →
      (List.replicate n [.own .awaited, .own .written]).flatten.Sublist ks →
      (f.published c hs).length + 1 ≤ g.written.length + n →
      (text .greeting :: (f.published c hs).map text) <+: (f.course c (hs ++ ks)).1.texts) ∧
    (∀ ks, ks.filter Happening.heeded = hs.filter Happening.heeded →
      f.course c ks = f.course c hs ∧ f.receptions c ks = f.receptions c hs) ∧
    ((∀ n ∈ f.published c hs, ∃ s, n = .status s) → text .greeting ∉ g.texts.tail) := by
  intro f c g d heard
  have tidy : ((Channel.new capacity).after es).Tidy := (Channel.tidy_new capacity).after es
  have shows : c.Shows f.name _ := Channel.shows_subscribe tidy name
  obtain ⟨before, after, unread, left, account⟩ := accounts rfl shows quiet
  have frames : g.written ++ left = .greeting :: heard := account.frames
  have delivered : Delivered (f.receptions c hs) before unread := account.delivered
  refine ⟨⟨before, after, unread, left, account.published, delivered, ?_, account.left_le, ?_⟩,
    ?_, ?_, ?_⟩
  · show g.written.map text ++ left.map text = (.greeting :: heard).map text
    rw [← List.map_append, frames]
  · intro going
    obtain ⟨rfl, rfl, m, shows', rfl⟩ := account.going going
    have published : f.published c hs = before := account.published.trans (List.append_nil _)
    have named : g.name = name := f.name_course c hs
    have shows' : d.Shows g.name m := named.symm ▸ shows'
    have size : d.size = ringSize capacity := by
      rw [size_course]
      exact Channel.size_after _ es
    refine ⟨rfl, rfl, ?_, ?_, ?_⟩
    · intro kept
      have clear : f.Clear c hs := ⟨quiet, going, kept⟩
      show g.written.map text ++ _ = (.greeting :: f.published c hs).map text
      rw [← List.map_append, ← List.append_assoc, frames, published, ← clear.count delivered]
      rfl
    · intro idle
      rw [← size]
      exact heardAt_next idle shows'
    · intro h hh stood
      rcases happen_cases going shows' (named.symm ▸ hh) with ⟨later, goes⟩ | ends
      · cases goes.standing.symm.trans stood
      · exact ends.cause
  · intro ks n clear turns enough
    refine (clear.prefix_written rfl shows turns ?_).map text
    rw [Nat.add_comm] at enough
    exact enough
  · intro ks same
    have first := f.course_filter_heeded c hs
    have second := f.course_filter_heeded c ks
    rw [same] at second
    exact ⟨second.1.symm.trans first.1, second.2.1.symm.trans first.2.1⟩
  · intro statuses
    show text .greeting ∉ (g.written.map text).tail
    exact greeting_not_mem_tail frames fun n hn =>
      statuses n (heard_of_published account.published delivered hn)

def quickStart (s : Drone.Snapshot) : List Happening :=
  [.own (.published (.status s)), .other (.subscribe "b"), .own .written, .own (.arrived .message),
    .own .awaited, .own .written]

theorem frames_of_quick_start :
    (∀ h ∈ quickStart ⟨"tello-1", true, .idle, 100, ⟨0, 0, 0⟩, 0, false⟩, h.meddles "a" = false) ∧
      ∃ left, ((begin "a" (Channel.new 2)).1.course (begin "a" (Channel.new 2)).2
          (quickStart ⟨"tello-1", true, .idle, 100, ⟨0, 0, 0⟩, 0, false⟩)).1.texts ++ left =
        [text .greeting, text (.status ⟨"tello-1", true, .idle, 100, ⟨0, 0, 0⟩, 0, false⟩)] := by
  have quiet : ∀ h ∈ quickStart ⟨"tello-1", true, .idle, 100, ⟨0, 0, 0⟩, 0, false⟩,
      h.meddles "a" = false := by
    simp [quickStart, Happening.meddles, Channel.Act.renews]
  obtain ⟨⟨before, after, unread, left, -, -, frames, -⟩, -⟩ :=
    frames_are_what_is_published 2 [] "a" (quickStart _) quiet
  exact ⟨quiet, left.map text, frames⟩

end Feed

end DroneFleet
