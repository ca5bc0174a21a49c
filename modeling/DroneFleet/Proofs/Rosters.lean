import DroneFleet.Proofs.Atomicity
import DroneFleet.Proofs.Diaries
import DroneFleet.Proofs.Digits
import DroneFleet.Proofs.History
import DroneFleet.Text.Utf8
import Mathlib.Data.List.Induction
import Mathlib.Data.List.Nodup

/-!
# Rosters

A roster is made from a list of drones, in which an id may come more than once: the last drone of an
id counts. It is kept in the order of the ids, and nothing that happens later changes which drones
there are, or what they are: id, address, range and battery.

* `Text.Utf8.encode_lt`      texts in order are in order byte by byte
* `Fleet.bay?_ofDrones`      which drone an id stands for in a new fleet
* `Fleet.kin_after`          a drone stays what it is
* `Fleet.Keeps`              a fleet that keeps the roster of a list of drones
* `Fleet.roster_is_stable`   every fleet keeps its roster, and a seeded one has as many drones as were
                             asked for
-/

namespace DroneFleet

/-! ## the order of bytes -/

namespace Text.Utf8

theorem encodeChar_ne_nil (c : Char) : encodeChar c ≠ [] := by
  unfold encodeChar
  dsimp only
  repeat' split
  all_goals exact List.cons_ne_nil _ _

/-- characters in order are in order byte by byte, whatever follows them -/
theorem encodeChar_append_lt {c d : Char} (h : c < d) (x y : List Nat) :
    encodeChar c ++ x < encodeChar d ++ y := by
  have less : c.toNat < d.toNat := UInt32.lt_iff_toNat_lt.mp h
  have behind : (x < y) = True ∨ (x < y) = False :=
    (Classical.em (x < y)).imp eq_true eq_false
  unfold encodeChar
  generalize c.toNat = n at *
  generalize d.toNat = m at *
  dsimp only
  -- the first byte tells how many there are; among characters of as many bytes any of them decides
  repeat' split
  all_goals first
    | exact List.cons_lt_cons_iff.mpr (Or.inl (by omega))
    | simp only [List.cons_append, List.nil_append, List.cons_lt_cons_iff]
      rcases behind with behind | behind <;> rw [behind] <;> omega

theorem encode_lt {s t : List Char} (h : s < t) : encode s < encode t := by
  induction s generalizing t with
  | nil =>
    cases t with
    | nil => exact absurd h (List.not_lt_nil _)
    | cons d t =>
      obtain ⟨byte, bytes, hd⟩ := List.exists_cons_of_ne_nil (encodeChar_ne_nil d)
      show [] < encodeChar d ++ encode t
      rw [hd]
      exact List.nil_lt_cons _ _
  | cons c s ih =>
    cases t with
    | nil => exact absurd h (List.not_lt_nil _)
    | cons d t =>
      show encodeChar c ++ encode s < encodeChar d ++ encode t
      rcases List.cons_lt_cons_iff.mp h with less | ⟨rfl, less⟩
      · exact encodeChar_append_lt less _ _
      · exact List.append_left_lt (ih less)

end Text.Utf8

namespace Fleet

/-! ## the drone of an id -/

section
variable {d : Drone} {bs : List Bay} {id : String}

theorem find?_place_self (d : Drone) (bs : List Bay) :
    (place d bs).find? (fun b => b.drone.id = d.id) = some (.ofDrone d) := by
  induction bs with
  | nil => exact List.find?_cons_of_pos (decide_eq_true rfl)
  | cons b bs ih =>
    unfold place
    by_cases same : d.id = b.drone.id
    · rw [if_pos same]
      exact List.find?_cons_of_pos (decide_eq_true rfl)
    rw [if_neg same]
    split
    · exact List.find?_cons_of_pos (decide_eq_true rfl)
    · rw [List.find?_cons_of_neg (by simpa using Ne.symm same)]
      exact ih

theorem find?_place_of_ne (h : id ≠ d.id) (bs : List Bay) :
    (place d bs).find? (fun b => b.drone.id = id) = bs.find? (fun b => b.drone.id = id) := by
  have other : ¬ decide (d.id = id) = true := by simpa using Ne.symm h
  have skip (bs : List Bay) : (Bay.ofDrone d :: bs).find? (fun b => b.drone.id = id) =
      bs.find? (fun b => b.drone.id = id) := List.find?_cons_of_neg other
  induction bs with
  | nil => exact skip []
  | cons b bs ih =>
    unfold place
    by_cases same : d.id = b.drone.id
    · rw [if_pos same, skip, List.find?_cons_of_neg (by simpa using same ▸ Ne.symm h)]
    rw [if_neg same]
    split
    · exact skip (b :: bs)
    · rw [List.find?_cons, List.find?_cons, ih]

end

section
variable {ds : List Drone} {settings : FlightSettings} {capacity : Nat} {id : String}

theorem bay?_ofDrones (ds : List Drone) (settings : FlightSettings) (capacity : Nat) (id : String) :
    (ofDrones ds settings capacity).bay? id =
      (ds.reverse.find? fun d => d.id = id).map .ofDrone := by
  induction ds using List.reverseRecOn with
  | nil => rfl
  | append_singleton ds d ih =>
    have last : (ofDrones (ds ++ [d]) settings capacity).bays =
        place d (ofDrones ds settings capacity).bays := by
      unfold ofDrones
      rw [List.foldl_append]
      rfl
    unfold bay? at ih ⊢
    rw [last, List.reverse_append, List.reverse_singleton, List.singleton_append]
    by_cases same : d.id = id
    · have found : (d :: ds.reverse).find? (fun e => e.id = d.id) = some d :=
        List.find?_cons_of_pos (decide_eq_true rfl)
      rw [← same, find?_place_self, found]
      rfl
    · rw [find?_place_of_ne (Ne.symm same), List.find?_cons_of_neg (by simpa using same), ih]

end

/-! ## what a drone is -/

/-- two records of one drone: what it is does not change -/
structure Kin (d e : Drone) : Prop where
  id : e.id = d.id
  ip : e.ip = d.ip
  range : e.range = d.range
  battery : e.battery = d.battery

theorem Kin.refl (d : Drone) : Kin d d := ⟨rfl, rfl, rfl, rfl⟩

theorem Kin.trans {d e c : Drone} (h : Kin d e) (h' : Kin e c) : Kin d c where
  id := h'.id.trans h.id
  ip := h'.ip.trans h.ip
  range := h'.range.trans h.range
  battery := h'.battery.trans h.battery

theorem Kin.of_standing {d e : Drone} (h : e.standing = d.standing) : Kin d e where
  id := congrArg Drone.Standing.id h
  ip := congrArg Drone.Standing.ip h
  range := congrArg Drone.Standing.range h
  battery := congrArg Drone.Standing.battery h

theorem kin_moves {s : FlightSettings} {now : Nat} {b c : Bay} {e : Bay.Event} {rep : Report}
    (h : b.Moves s now e c rep) : Kin b.drone c.drone := by
  cases h with
  | refused refuses => exact .refl _
  | connect _ => exact ⟨rfl, rfl, rfl, rfl⟩
  | disconnect _ => exact ⟨rfl, rfl, rfl, rfl⟩
  | launch _ _ => exact ⟨rfl, rfl, rfl, rfl⟩
  | supersede _ _ => exact ⟨rfl, rfl, rfl, rfl⟩
  | execute _ _ => exact .of_standing (Bay.standing_executed _ _ _)
  | complete _ _ => exact ⟨rfl, rfl, rfl, rfl⟩

section
variable {f : Fleet} {id : String} {b : Bay}

theorem kin_respond (h : f.bay? id = some b) (e : Event) :
    ∃ c, (f.respond e).1.bay? id = some c ∧ Kin b.drone c.drone := by
  cases toward : e.toward id with
  | none => exact ⟨b, by rw [bay?_respond_of_toward toward, h], .refl _⟩
  | some v =>
    rw [Event.eq_visit toward]
    exact ⟨_, (replaced_respond h v).1.here, kin_moves (Bay.moves_respond f.settings f.clock b v)⟩

theorem kin_after (h : f.bay? id = some b) (es : List Event) :
    ∃ c, (f.after es).bay? id = some c ∧ Kin b.drone c.drone := by
  induction es generalizing f b with
  | nil => exact ⟨b, h, .refl _⟩
  | cons e es ih =>
    obtain ⟨c, hc, kin⟩ := kin_respond h e
    obtain ⟨c', hc', kin'⟩ := ih hc
    exact ⟨c', hc', kin.trans kin'⟩

/-! ## which drone an operation acts on -/

/-- what is done under an id is done to a bay, answered by it, and nothing to the bays of other
ids -/
structure ActsOn (f : Fleet) (id : String) (b : Bay) : Prop where
  here : ∀ v, (f.respond (.visit id v)).1.bay? id = some (b.respond f.settings f.clock v).1
  report : ∀ v, (f.respond (.visit id v)).2 = (b.respond f.settings f.clock v).2
  elsewhere : ∀ v other, other ≠ id → (f.respond (.visit id v)).1.bay? other = f.bay? other
  answer : ∀ v, f.answer? id (.visit id v) = b.answer? f.clock v
  info : f.info id = b.info

theorem actsOn_of_bay? (h : f.bay? id = some b) : ActsOn f id b where
  here v := (replaced_respond h v).1.here
  report v := (replaced_respond h v).2
  elsewhere v := (replaced_respond h v).1.elsewhere
  answer := answer?_visit h
  info := by
    unfold info
    rw [h]

/-- an id that stands for no drone: every operation is refused, and nothing changes -/
structure Unknown (f : Fleet) (id : String) : Prop where
  unchanged : ∀ v, f.respond (.visit id v) = (f, .empty)
  connect : f.connect id = .error (.notFound id)
  disconnect : f.disconnect id = .error (.notFound id)
  submit : ∀ path zones, f.submit id path zones = .error (.notFound id)
  info : f.info id = .error (.notFound id)

theorem unknown_of_bay? (h : f.bay? id = none) : Unknown f id where
  unchanged := respond_of_none h
  connect := operate_of_none h
  disconnect := operate_of_none h
  submit path zones := by
    unfold submit
    rw [operate_of_none h]
  info := by
    unfold info
    rw [h]

end

/-! ## rosters -/

/-- the last drone of its id in a list -/
def LastOf (ds : List Drone) (d : Drone) : Prop :=
  ∃ before later, ds = before ++ d :: later ∧ ∀ e ∈ later, e.id ≠ d.id

theorem lastOf_iff {ds : List Drone} {d : Drone} :
    LastOf ds d ↔ ds.reverse.find? (fun e => e.id = d.id) = some d := by
  constructor
  · rintro ⟨before, later, rfl, other⟩
    have none : later.reverse.find? (fun e : Drone => e.id = d.id) = .none :=
      List.find?_eq_none.mpr fun e he => by simpa using other e (List.mem_reverse.mp he)
    rw [List.reverse_append, List.reverse_cons, List.append_assoc, List.find?_append, none]
    show (d :: before.reverse).find? (fun e => e.id = d.id) = some d
    exact List.find?_cons_of_pos (decide_eq_true rfl)
  · intro h
    obtain ⟨-, later, before, split, other⟩ := List.find?_eq_some_iff_append.mp h
    refine ⟨before.reverse, later.reverse, ?_, fun e he => ?_⟩
    · have whole := congrArg List.reverse split
      simpa using whole
    · simpa using other e (List.mem_reverse.mp he)

/-- a fleet that keeps the roster of a list of drones -/
structure Keeps (ds : List Drone) (f : Fleet) : Prop where
  /-- it lists its drones in the order of their ids, byte by byte -/
  ordered : (f.discovery.map fun s => Text.Utf8.encode s.id.toList).Pairwise (· < ·)
  /-- it lists the ids that there are -/
  listed : ∀ id, (∃ s ∈ f.discovery, s.id = id) ↔ ∃ d ∈ ds, d.id = id
  /-- with the address and the range of the last drone of the id -/
  shown : ∀ s ∈ f.discovery, ∃ d, LastOf ds d ∧ s.id = d.id ∧ s.ip = d.ip ∧ s.range = d.range
  /-- this drone is what it was, and an operation on the id acts on it -/
  kept : ∀ d, LastOf ds d → ∃ b, f.bay? d.id = some b ∧ Kin d b.drone ∧ ActsOn f d.id b
  unknown : ∀ id, (∀ d ∈ ds, d.id ≠ id) → Unknown f id

section
variable {f : Fleet} {ds : List Drone} {settings : FlightSettings} {capacity : Nat}

theorem exists_lastOf {d : Drone} (h : d ∈ ds) : ∃ e, LastOf ds e ∧ e.id = d.id := by
  cases found : ds.reverse.find? (fun e => e.id = d.id) with
  | none => simpa using List.find?_eq_none.mp found d (List.mem_reverse.mpr h)
  | some e =>
    have same : e.id = d.id := by simpa using List.find?_some found
    exact ⟨e, lastOf_iff.mpr (same ▸ found), same⟩

theorem ordered_of_ids (h : f.ids.Pairwise (· < ·)) :
    (f.discovery.map fun s => Text.Utf8.encode s.id.toList).Pairwise (· < ·) := by
  have ids : f.discovery.map (fun s => Text.Utf8.encode s.id.toList) =
      f.ids.map fun id => Text.Utf8.encode id.toList := by
    unfold discovery Fleet.ids
    rw [List.map_map, List.map_map]
    rfl
  rw [ids]
  exact h.map _ fun _ _ less => Text.Utf8.encode_lt (String.lt_iff.mp less)

theorem mem_ids_ofDrones {id : String} :
    id ∈ (ofDrones ds settings capacity).ids ↔ ∃ d ∈ ds, d.id = id := by
  have absent : id ∉ (ofDrones ds settings capacity).ids ↔ ∀ d ∈ ds, d.id ≠ id := by
    rw [← bay?_eq_none_iff, bay?_ofDrones, Option.map_eq_none_iff, List.find?_eq_none]
    simp
  rw [← not_iff_not, absent]
  simp

/-- a fleet whose ids are in order keeps a roster if under every id there is the last drone of it -/
theorem keeps_of_ids (sorted : f.ids.Pairwise (· < ·))
    (ids : ∀ id, id ∈ f.ids ↔ ∃ d ∈ ds, d.id = id)
    (kin : ∀ d, LastOf ds d → ∃ b, f.bay? d.id = some b ∧ Kin d b.drone) : Keeps ds f where
  ordered := ordered_of_ids sorted
  listed id := by
    rw [← ids id]
    unfold discovery Fleet.ids
    simp [Drone.summary]
  shown s hs := by
    obtain ⟨c, hc, rfl⟩ := List.mem_map.mp hs
    obtain ⟨d, hd, same⟩ := (ids c.drone.id).mp (List.mem_map_of_mem hc)
    obtain ⟨e, last, here⟩ := exists_lastOf hd
    obtain ⟨b, hb, of⟩ := kin e last
    rw [here, same, bay?_of_mem sorted hc] at hb
    cases hb
    exact ⟨e, last, of.id, of.ip, of.range⟩
  kept d last := by
    obtain ⟨b, hb, of⟩ := kin d last
    exact ⟨b, hb, of, actsOn_of_bay? hb⟩
  unknown id none := by
    refine unknown_of_bay? (bay?_eq_none_iff.mpr fun known => ?_)
    obtain ⟨d, hd, same⟩ := (ids id).mp known
    exact none d hd same

/-- every fleet keeps the roster that it was made from -/
theorem keeps_after (ds : List Drone) (settings : FlightSettings) (capacity : Nat)
    (es : List Event) : Keeps ds ((ofDrones ds settings capacity).after es) := by
  refine keeps_of_ids ?_ (fun id => ?_) fun d last => kin_after (b := .ofDrone d) ?_ es
  · rw [ids_after]
    exact pairwise_ids_ofDrones ds settings capacity
  · rw [ids_after]
    exact mem_ids_ofDrones
  · rw [bay?_ofDrones, lastOf_iff.mp last]
    rfl

end

/-! ## lists without an id that comes twice -/

section
variable {f : Fleet} {ds : List Drone}

theorem LastOf.mem {d : Drone} (h : LastOf ds d) : d ∈ ds := by
  obtain ⟨before, later, rfl, -⟩ := h
  simp

theorem LastOf.unique {d e : Drone} (h : LastOf ds d) (h' : LastOf ds e) (same : d.id = e.id) :
    d = e := by
  have found := lastOf_iff.mp h
  rw [same, lastOf_iff.mp h'] at found
  exact (Option.some.inj found).symm

theorem lastOf_of_nodup (h : (ds.map (·.id)).Nodup) {d : Drone} (hd : d ∈ ds) : LastOf ds d := by
  obtain ⟨before, later, rfl⟩ := List.append_of_mem hd
  refine ⟨before, later, rfl, fun e he same => ?_⟩
  rw [List.map_append, List.map_cons] at h
  have once := (List.nodup_cons.mp (List.nodup_append.mp h).2.1).1
  exact once (same ▸ List.mem_map_of_mem he)

theorem Keeps.nodup (h : Keeps ds f) : (f.discovery.map (·.id)).Nodup := by
  have ordered := List.pairwise_map.mp h.ordered
  refine List.pairwise_map.mpr (ordered.imp fun less same => ?_)
  rw [same] at less
  exact List.lt_irrefl _ less

/-- if no id comes twice, what is listed is the list -/
theorem Keeps.perm (h : Keeps ds f) (once : (ds.map (·.id)).Nodup) :
    (f.discovery.map fun s => (s.id, s.ip, s.range)).Perm
      (ds.map fun d => (d.id, d.ip, d.range)) := by
  have left : (f.discovery.map fun s => (s.id, s.ip, s.range)).Nodup := by
    refine List.Nodup.of_map Prod.fst ?_
    rw [List.map_map]
    exact h.nodup
  have right : (ds.map fun d => (d.id, d.ip, d.range)).Nodup := by
    refine List.Nodup.of_map Prod.fst ?_
    rw [List.map_map]
    exact once
  refine (List.perm_ext_iff_of_nodup left right).mpr fun x => ?_
  constructor
  · intro hx
    obtain ⟨s, hs, rfl⟩ := List.mem_map.mp hx
    obtain ⟨d, last, id, ip, range⟩ := h.shown s hs
    exact List.mem_map.mpr ⟨d, last.mem, by rw [id, ip, range]⟩
  · intro hx
    obtain ⟨d, hd, rfl⟩ := List.mem_map.mp hx
    obtain ⟨s, hs, same⟩ := (h.listed d.id).mpr ⟨d, hd, rfl⟩
    obtain ⟨e, last, id, ip, range⟩ := h.shown s hs
    obtain rfl := last.unique (lastOf_of_nodup once hd) (id.symm.trans same)
    exact List.mem_map.mpr ⟨s, hs, by rw [id, ip, range]⟩

end

/-! ## seeded rosters -/

section
variable {s : FleetSettings}

theorem append_naturalString_injective (front : String) :
    Function.Injective fun n => front ++ naturalString n := by
  intro n m same
  have strings : naturalString n = naturalString m := String.append_right_inj front |>.mp same
  have digits : Decimal.digitText n = Decimal.digitText m := String.ofList_injective strings
  rw [← Numeral.natOfDigits_digitText n, digits, Numeral.natOfDigits_digitText]

theorem nodup_seeds (s : FleetSettings) {α : Type} {g : Drone → α}
    (h : Function.Injective fun i => g (seed s i)) : ((seeds s).map g).Nodup := by
  unfold seeds
  rw [List.map_map]
  exact List.nodup_range.map fun i j same => Nat.succ.inj (h same)

theorem nodup_ids_seeds (s : FleetSettings) : ((seeds s).map (·.id)).Nodup :=
  nodup_seeds s (append_naturalString_injective "tello-")

theorem nodup_ips_seeds (s : FleetSettings) : ((seeds s).map (·.ip)).Nodup :=
  nodup_seeds s fun _ _ same =>
    Nat.add_left_cancel (append_naturalString_injective s.ipBase same)

theorem mem_seeds {i : Nat} (first : 1 ≤ i) (last : i ≤ s.count) : seed s i ∈ seeds s :=
  List.mem_map.mpr ⟨i - 1, List.mem_range.mpr (by omega), by rw [Nat.sub_add_cancel first]⟩

end

/-- **A roster is stable**: whatever happens, the fleet lists each id once, in the order of its bytes,
with the last drone of the id, and operations on the id act on this drone. A seeded fleet has as many
drones as were asked for, with ids and addresses of their own, counted in words of 32 bits. -/
theorem roster_is_stable (settings : FlightSettings) (capacity : Nat) (es : List Event) :
    (∀ ds, Keeps ds ((ofDrones ds settings capacity).after es) ∧
      ∀ d, LastOf ds d → (ofDrones ds settings capacity).bay? d.id = some (.ofDrone d)) ∧
    ∀ s : FleetSettings, 100 + s.count < 2 ^ 32 →
      Keeps (seeds s) ((seeded s settings capacity).1.after es) ∧
      ((seeds s).map (·.id)).Nodup ∧
      ((seeded s settings capacity).1.after es).discovery.length = s.count ∧
      (((seeded s settings capacity).1.after es).discovery.map (·.ip)).Nodup ∧
      ∀ i, 1 ≤ i → i ≤ s.count → (100 + UInt32.ofNat i).toNat = 100 + i ∧
        ∃ e ∈ ((seeded s settings capacity).1.after es).discovery,
          e.id = "tello-" ++ naturalString i ∧
          e.ip = s.ipBase ++ naturalString (100 + UInt32.ofNat i).toNat ∧ e.range = s.range := by
  refine ⟨fun ds => ⟨keeps_after ds settings capacity es, fun d last => ?_⟩, fun s hs => ?_⟩
  · rw [bay?_ofDrones, lastOf_iff.mp last]
    rfl
  · have keeps : Keeps (seeds s) ((seeded s settings capacity).1.after es) :=
      keeps_after (seeds s) settings capacity es
    have perm := keeps.perm (nodup_ids_seeds s)
    have ips := perm.map fun x => x.2.1
    rw [List.map_map, List.map_map] at ips
    have length := perm.length_eq
    simp only [List.length_map] at length
    refine ⟨keeps, nodup_ids_seeds s, ?_, ips.nodup_iff.mpr (nodup_ips_seeds s), ?_⟩
    · rw [length]
      simp [seeds]
    · intro i first last
      have sum : (100 + UInt32.ofNat i).toNat = 100 + i := by
        rw [UInt32.toNat_add, UInt32.toNat_ofNat]
        show (100 + i % 2 ^ 32) % 2 ^ 32 = 100 + i
        omega
      have here := List.mem_map_of_mem (f := fun d : Drone => (d.id, d.ip, d.range))
        (mem_seeds first last)
      obtain ⟨e, he, parts⟩ := List.mem_map.mp (perm.mem_iff.mpr here)
      obtain ⟨id, rest⟩ := Prod.mk.inj parts
      obtain ⟨ip, range⟩ := Prod.mk.inj rest
      refine ⟨sum, e, he, id, ?_, range⟩
      rw [sum]
      exact ip

/-- of two drones of one id the later counts, and the last of ten drones is found after a history -/
theorem roster_of_ten :
    LastOf [.new "owl" "10.0.0.1" 1 1, .new "owl" "10.0.0.2" 2 2] (.new "owl" "10.0.0.2" 2 2) ∧
    (ofDrones [.new "owl" "10.0.0.1" 1 1, .new "owl" "10.0.0.2" 2 2] {} 16).bay? "owl" =
      some (.ofDrone (.new "owl" "10.0.0.2" 2 2)) ∧
    100 + ({ count := 10 } : FleetSettings).count < 2 ^ 32 ∧ 1 ≤ 10 ∧
    10 ≤ ({ count := 10 } : FleetSettings).count ∧
    ∃ e ∈ ((seeded { count := 10 } {} 16).1.after
        [.visit "tello-10" .connect, .visit "tello-10" (.submit ["takeoff"] []), .pass 500,
          .visit "tello-10" (.step 0)]).discovery,
      e.id = "tello-10" ∧ e.ip = "127.0.0.110" := by
  have owl : LastOf [.new "owl" "10.0.0.1" 1 1, .new "owl" "10.0.0.2" 2 2]
      (.new "owl" "10.0.0.2" 2 2) := ⟨[_], [], rfl, nofun⟩
  have fits : 100 + ({ count := 10 } : FleetSettings).count < 2 ^ 32 := by decide
  have first : 1 ≤ 10 := by decide
  have last : 10 ≤ ({ count := 10 } : FleetSettings).count := by decide
  obtain ⟨rosters, seeds⟩ := roster_is_stable {} 16 _
  obtain ⟨-, -, -, -, each⟩ := seeds { count := 10 } fits
  obtain ⟨-, e, he, id, ip, -⟩ := each 10 first last
  exact ⟨owl, (rosters _).2 _ owl, fits, first, last, e, he, id, ip⟩

/-- the order is that of bytes, not of numbers -/
example : ((seeded { count := 10 } {} 16).1.discovery.map (·.id)).take 3 =
    ["tello-1", "tello-10", "tello-2"] := by
  decide +kernel

end Fleet

end DroneFleet
