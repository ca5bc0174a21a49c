import DroneFleet.Proofs.Coordinates
import DroneFleet.Proofs.Frames
import DroneFleet.Proofs.Geometry
import DroneFleet.Proofs.Grammar
import DroneFleet.Proofs.Poses

/-!
# Drones astray

An operand that cannot be read says that a coordinate is no number, and no sum, difference or
product with it is one. So the coordinate is lost, and it alone: the others go by operands of their
own. A takeoff and a landing give a drone an altitude again. To the east and to the north it is lost
until a flight is accepted, which begins at the origin.

* `Coordinate.isNaN_add_left`, ...   what is computed with something that is no number
* `Point.Component`, `Point.Lost`    the components of a point, and one that is no number
* `Point.lost_travel`         a move does not find a component again
* `Flight.apply_of_displaces`   what is said by the operands of a displacement
* `Flight.lost_apply`         a command finds no component again but the altitude
* `Flight.lost_fly`           so it is with the commands of a run
* `Bay.Astray`, `Bay.astray_life`   and with all else that happens, up to a flight that is accepted
* `Flight.lost_until_submission`    all together
-/

namespace DroneFleet

/-! ## computing with something that is no number -/

namespace Coordinate

open Float.Model (UnpackedFloat)

section
variable {x y : Float}

theorem unpack_of_isNaN (h : x.isNaN = true) : x.toModel.unpack = .notANumber := by
  have unpacked : x.toModel.unpack.isNaN = true := h
  generalize x.toModel.unpack = u at unpacked
  cases u with
  | notANumber => rfl
  | _ => cases unpacked

theorem isNaN_pack : (Float.ofModel (.pack .notANumber)).isNaN = true := by decide +kernel

theorem isNaN_add_left (h : x.isNaN = true) (y : Float) : (x + y).isNaN = true := by
  have sum : x + y = .ofModel (.pack (x.toModel.unpack.add .binary64 y.toModel.unpack)) := rfl
  rw [sum, unpack_of_isNaN h]
  exact isNaN_pack

theorem isNaN_add_right (x : Float) (h : y.isNaN = true) : (x + y).isNaN = true := by
  have sum : x + y = .ofModel (.pack (x.toModel.unpack.add .binary64 y.toModel.unpack)) := rfl
  rw [sum, unpack_of_isNaN h]
  cases x.toModel.unpack <;> exact isNaN_pack

theorem isNaN_sub_left (h : x.isNaN = true) (y : Float) : (x - y).isNaN = true := by
  have difference : x - y =
      .ofModel (.pack (x.toModel.unpack.sub .binary64 y.toModel.unpack)) := rfl
  rw [difference, unpack_of_isNaN h]
  exact isNaN_pack

theorem isNaN_sub_right (x : Float) (h : y.isNaN = true) : (x - y).isNaN = true := by
  have difference : x - y =
      .ofModel (.pack (x.toModel.unpack.sub .binary64 y.toModel.unpack)) := rfl
  rw [difference, unpack_of_isNaN h]
  cases x.toModel.unpack <;> exact isNaN_pack

theorem isNaN_mul_right (x : Float) (h : y.isNaN = true) : (x * y).isNaN = true := by
  have product : x * y =
      .ofModel (.pack (x.toModel.unpack.mul .binary64 y.toModel.unpack)) := rfl
  rw [product, unpack_of_isNaN h]
  cases x.toModel.unpack <;> exact isNaN_pack

theorem isNaN_neg (h : x.isNaN = true) : (-x).isNaN = true := by
  have negation : -x = .ofModel (.pack x.toModel.unpack.neg) := rfl
  rw [negation, unpack_of_isNaN h]
  exact isNaN_pack

theorem isNaN_notANumber : Numeral.Reading.notANumber.toFloat.isNaN = true := by decide +kernel

end

end Coordinate

/-! ## points -/

namespace Point

/-- the components of a point: to the east, to the north, and the altitude -/
inductive Component where
  | x
  | y
  | z
deriving DecidableEq

def component {α : Type} (p : Point α) : Component → α
  | .x => p.x
  | .y => p.y
  | .z => p.z

def Lost (p : Point Float) (k : Component) : Prop := (p.component k).isNaN = true

section
variable {p a : Point Float} {k : Component} {dir : Direction} {d : Float} (s c : Float)

theorem component_translate (p a : Point Float) (k : Component) :
    (p.translate a).component k = p.component k + a.component k := by
  cases k <;> rfl

theorem lost_translate_left (h : p.Lost k) (a : Point Float) : (p.translate a).Lost k := by
  unfold Lost
  rw [component_translate]
  exact Coordinate.isNaN_add_left h _

theorem lost_translate_right (p : Point Float) (h : a.Lost k) : (p.translate a).Lost k := by
  unfold Lost
  rw [component_translate]
  exact Coordinate.isNaN_add_right _ h

/-- a move does not find a component again -/
theorem lost_travel (h : p.Lost k) (dir : Direction) (d : Float) : (p.travel s c dir d).Lost k := by
  cases dir with
  | up =>
    cases k with
    | z => exact Coordinate.isNaN_add_left h d
    | _ => exact h
  | down =>
    cases k with
    | z => exact Coordinate.isNaN_sub_left h d
    | _ => exact h
  | _ => exact lost_translate_left h _

theorem travel_of_horizontal (hdir : dir.IsHorizontal) (hd : d.isNaN = true) (p : Point Float) :
    (p.travel s c dir d).Lost .x ∧ (p.travel s c dir d).Lost .y ∧
      Coordinate.Same (p.travel s c dir d).z p.z := by
  have east := Coordinate.isNaN_mul_right s hd
  have north := Coordinate.isNaN_mul_right c hd
  have level : Coordinate.Same (p.z + 0) p.z := Coordinate.same_add_zero p.z
  cases dir with
  | forward =>
    exact ⟨Coordinate.isNaN_add_right _ east, Coordinate.isNaN_add_right _ north, level⟩
  | back =>
    exact ⟨Coordinate.isNaN_add_right _ (Coordinate.isNaN_neg east),
      Coordinate.isNaN_add_right _ (Coordinate.isNaN_neg north), level⟩
  | left =>
    exact ⟨Coordinate.isNaN_add_right _ (Coordinate.isNaN_neg north),
      Coordinate.isNaN_add_right _ east, level⟩
  | right =>
    exact ⟨Coordinate.isNaN_add_right _ north,
      Coordinate.isNaN_add_right _ (Coordinate.isNaN_neg east), level⟩
  | up => exact hdir.elim
  | down => exact hdir.elim

theorem travel_of_vertical (hdir : ¬ dir.IsHorizontal) (hd : d.isNaN = true) (p : Point Float) :
    (p.travel s c dir d).Lost .z ∧ (p.travel s c dir d).x = p.x ∧
      (p.travel s c dir d).y = p.y := by
  cases dir with
  | up => exact ⟨Coordinate.isNaN_add_right p.z hd, rfl, rfl⟩
  | down => exact ⟨Coordinate.isNaN_sub_right p.z hd, rfl, rfl⟩
  | _ => exact absurd trivial hdir

end

end Point

namespace Flight

open Point (Component)

/-! ## one command -/

section
variable {s : FlightSettings} {c : Command} {f g : Flight} {raw : String} {k : Component}

def placed (p : Point Float) (f : Flight) : Flight :=
  { f with drone := { f.drone with position := p } }

/-- the words of a displacement, with the three that say how far it goes -/
inductive Displaces : List String → String → String → String → Prop where
  | go (x y z speed : String) (more : List String) :
    Displaces ("go" :: x :: y :: z :: speed :: more) x y z
  | curve (b c d x y z speed : String) (more : List String) :
    Displaces ("curve" :: b :: c :: d :: x :: y :: z :: speed :: more) x y z

/-- an operand that cannot be read says that a coordinate is no number, and nothing else -/
theorem saysNumber_of_unreadable {w : String} (h : ∀ a, ¬ Numeral.Fills w.toList a) {n : Float} :
    Command.SaysNumber w n ↔ n = Numeral.Reading.notANumber.toFloat := by
  constructor
  · intro said
    cases said with
    | unreadable _ => rfl
    | read filled => exact absurd filled (h _)
  · rintro rfl
    exact .unreadable h

/-- a displacement goes as far as its operands say, and no other operand has an effect -/
theorem apply_of_displaces {ws : List String} {x y z : String} (hw : HasWords raw ws)
    (h : Displaces ws x y z) {a : Point Float} (hx : Command.SaysNumber x a.x)
    (hy : Command.SaysNumber y a.y) (hz : Command.SaysNumber z a.z) :
    f.apply s (.parse raw) = f.placed (f.drone.position.translate a) := by
  have said := Command.says_toFloat hw.isWord
  cases h with
  | go x y z speed more =>
    rw [Command.parse_of_denotes hw (.go more hx hy hz (said speed (by simp)))]
    rfl
  | curve b c d x y z speed more =>
    rw [Command.parse_of_denotes hw (.curve (p := ⟨_, _, _⟩) more (said b (by simp))
      (said c (by simp)) (said d (by simp)) hx hy hz (said speed (by simp)))]
    rfl

theorem apply_of_unreadable {dir : Direction} {r : List String}
    (hw : HasWords raw (dir.word :: r)) (hr : Command.SaysInteger r.head? none) :
    f.apply s (.parse raw) = f.placed
      (f.drone.position.advance f.drone.yaw dir Numeral.Reading.notANumber.toFloat) := by
  rw [Command.parse_of_denotes hw (.move dir hr)]
  rfl

/-- does a command give a component anew, whatever it was? -/
def Resets (c : Command) (k : Component) : Prop := k = .z ∧ (c = .takeoff ∨ c = .land)

theorem lost_apply (s : FlightSettings) (h : f.drone.position.Lost k) (hc : ¬ Resets c k) :
    (f.apply s c).drone.position.Lost k := by
  by_cases works : c.aspect? = some .position
  · cases c with
    | takeoff =>
      cases k with
      | z => exact absurd ⟨rfl, Or.inl rfl⟩ hc
      | _ => exact h
    | land =>
      cases k with
      | z => exact absurd ⟨rfl, Or.inr rfl⟩ hc
      | _ => exact h
    | move dir d => exact Point.lost_travel _ _ h dir d
    | go a speed => exact Point.lost_translate_left h a
    | curve b a speed => exact Point.lost_translate_left h a
    | _ => cases works
  · have same : (f.apply s c).drone.position = f.drone.position := agrees_apply s c f works
    rw [same]
    exact h

/-! ## a run -/

theorem snapshot_of_stride? {x : Stride} (h : f.stride? s = some (x, g)) :
    x.snapshot = g.drone.snapshot := by
  cases hq : f.drone.queue with
  | nil =>
    rw [stride?_of_nil hq] at h
    cases h
  | cons raw rest =>
    rw [stride?_of_cons hq] at h
    cases h
    rfl

/-- what is lost stays lost, and is told so, as long as no command gives it anew; what zones and
corrections put in front of the queue is among the commands -/
theorem lost_fly {n : Nat} {xs : List Stride} (h : f.fly s n = some (xs, g))
    (lost : f.drone.position.Lost k) (hx : ∀ x ∈ xs, ¬ Resets (.parse x.command) k) :
    g.drone.position.Lost k ∧ ∀ x ∈ xs, x.snapshot.position.Lost k := by
  induction n generalizing f xs with
  | zero =>
    cases h
    exact ⟨lost, List.forall_mem_nil _⟩
  | succ n ih =>
    obtain ⟨x, m, ys, hm, hy, rfl⟩ := exists_of_fly_succ h
    have ⟨first, rest⟩ := List.forall_mem_cons.mp hx
    have shown := snapshot_of_stride? hm
    obtain ⟨left, -, rfl⟩ := queue_of_stride? hm
    have next := lost_apply (f := f.pop x.command left) s lost first
    obtain ⟨last, told⟩ := ih hy next rest
    refine ⟨last, List.forall_mem_cons.mpr ⟨?_, told⟩⟩
    rw [shown]
    exact next

end

end Flight

namespace Bay

open Point (Component)

/-! ## whatever comes in between -/

/-- is a component lost, and was it lost in all that was told? -/
def Astray (k : Component) (b : Bay) (rep : Report) : Prop :=
  b.drone.position.Lost k ∧ ∀ p ∈ rep.published, p.2.position.Lost k

/-- does an occurrence give a component anew? A flight does if it is accepted, and the altitude is
given by the next command if it is a takeoff or a landing -/
inductive Recovers (k : Component) (b : Bay) : Occurrence → Prop where
  | submit (path : List String) (zones : Zones) (h : b.drone.connected = true) :
    Recovers k b (.submit path zones)
  | step (n : Nat) {raw : String} {rest : List String} (hq : b.drone.queue = raw :: rest)
      (h : Flight.Resets (.parse raw) k) :
    Recovers k b (.step n)

section
variable {s : FlightSettings} {now : Nat} {b c : Bay} {rep : Report} {k : Component}

theorem keeps_lost (h : b.drone.position.Lost k) {o : Occurrence} (ho : ¬ b.Recovers k o) :
    b.Keeps (fun x => x.position.Lost k) s o := by
  cases o with
  | submit path zones => exact fun hc => absurd (.submit path zones hc) ho
  | step n =>
    intro r raw rest hq
    exact Flight.lost_apply (f := (b.flight r).pop raw rest) s h fun resets =>
      ho (.step n hq resets)
  | _ => trivial

/-- what is lost stays lost until the first occurrence that gives it anew -/
theorem astray_life (h : b.drone.position.Lost k) (os : List (Nat × Occurrence)) :
    (b.life s os).1.Astray k (b.life s os).2 ∨ ∃ past now o later, os = past ++ (now, o) :: later ∧
      (b.life s past).1.Astray k (b.life s past).2 ∧ (b.life s past).1.Recovers k o := by
  rcases posed_life (P := fun x => x.position.Lost k) (s := s) h os with
    astray | ⟨past, now, o, later, split, astray, broken⟩
  · exact Or.inl astray
  · refine Or.inr ⟨past, now, o, later, split, astray, ?_⟩
    by_contra ho
    exact broken (keeps_lost astray.1 ho)

theorem position_of_submit {path : List String} {zones : Zones} (h : b.drone.connected = true)
    (m : b.Moves s now (.submit path zones) c rep) : c.drone.position = .origin := by
  cases m with
  | refused hc =>
    have away : b.drone.connected = false := hc
    rw [h] at away
    cases away
  | launch _ _ => rfl
  | supersede _ _ => rfl

end

end Bay

/-- **A drone that is lost is lost until a flight is accepted.** An operand that cannot be read says
no number. A displacement goes by three of its operands, each for its own component and for no
other, and the rest of its words has no effect; if an operand is no number, then its component is
lost. Without a distance that can be read a drone is lost to the east and to the north in a
horizontal direction, and in altitude in a vertical one, and nowhere else. What is lost stays lost
in a run, with all that zones put in between, and is told so after every command; only the altitude
comes back, at a takeoff and at a landing. So it is whatever else happens to the drone and to its
runs, up to a flight that is accepted, which begins at the origin. -/
theorem Flight.lost_until_submission (s : FlightSettings) :
    (∀ w : String, (∀ a, ¬ Numeral.Fills w.toList a) →
      ∃ n, n.isNaN = true ∧ ∀ m, Command.SaysNumber w m ↔ m = n) ∧
    (∀ (f : Flight) raw ws x y z (a : Point Float), HasWords raw ws → Displaces ws x y z →
      Command.SaysNumber x a.x → Command.SaysNumber y a.y → Command.SaysNumber z a.z →
      f.apply s (.parse raw) = f.placed (f.drone.position.translate a) ∧
      ∀ k, (f.drone.position.translate a).component k =
          f.drone.position.component k + a.component k ∧
        (a.Lost k → (f.drone.position.translate a).Lost k)) ∧
    (∀ (f : Flight) raw (dir : Direction) r, HasWords raw (dir.word :: r) →
      Command.SaysInteger r.head? none → ∃ p, f.apply s (.parse raw) = f.placed p ∧
        (dir.IsHorizontal → p.Lost .x ∧ p.Lost .y ∧ Coordinate.Same p.z f.drone.position.z) ∧
        (¬ dir.IsHorizontal →
          p.Lost .z ∧ p.x = f.drone.position.x ∧ p.y = f.drone.position.y)) ∧
    (∀ n (f g : Flight) xs k, f.fly s n = some (xs, g) → f.drone.position.Lost k →
      (∀ x ∈ xs, ¬ Resets (.parse x.command) k) →
      g.drone.position.Lost k ∧ ∀ x ∈ xs, x.snapshot.position.Lost k) ∧
    (∀ f : Flight,
      (f.apply s .takeoff).drone.position = { f.drone.position with z := s.takeoffAltitude } ∧
      (f.apply s .land).drone.position = { f.drone.position with z := 0.0 }) ∧
    (∀ (b : Bay) k os, b.drone.position.Lost k → (b.life s os).1.Astray k (b.life s os).2 ∨
      ∃ past now o later, os = past ++ (now, o) :: later ∧
        (b.life s past).1.Astray k (b.life s past).2 ∧ (b.life s past).1.Recovers k o) ∧
    ∀ (b : Bay) now path zones, b.drone.connected = true →
      (b.meet s now (.submit path zones)).1.drone.position = .origin := by
  refine ⟨fun w hw => ⟨_, Coordinate.isNaN_notANumber, fun _ => saysNumber_of_unreadable hw⟩,
    ?_, ?_, fun _ _ _ _ _ => lost_fly, fun _ => ⟨rfl, rfl⟩, fun _ _ os h => Bay.astray_life h os,
    fun b now path zones h =>
      Bay.position_of_submit h (Bay.moves_respond s now b (.submit path zones))⟩
  · intro f raw ws x y z a hw displaces hx hy hz
    exact ⟨apply_of_displaces hw displaces hx hy hz, fun k =>
      ⟨Point.component_translate _ a k, Point.lost_translate_right _⟩⟩
  · intro f raw dir r hw hr
    have lost := Coordinate.isNaN_notANumber
    exact ⟨_, apply_of_unreadable hw hr,
      fun horizontal => Point.travel_of_horizontal _ _ horizontal lost _,
      fun vertical => Point.travel_of_vertical _ _ vertical lost _⟩

namespace Flight

/-- a drone that is lost to the east, before a zone and a landing -/
def stray : Flight :=
  { drone :=
      { Drone.new "tello-1" "127.0.0.101" 4500 100 with
        position := ⟨Numeral.Reading.notANumber.toFloat, 20, 0⟩
        queue := ["action loft", "land"]
        zones := [("loft", ["up 10"])] }
    zone := none }

/-- it flies on, and lands, and is as lost as before; so it is if nobody is connected to it and a
flight for it is rejected, and if someone is, then the next flight begins at the origin -/
theorem stray_is_lost_until_submission :
    (∃ n, n.isNaN = true ∧ ∀ m, Command.SaysNumber "1x" m ↔ m = n) ∧
    (∀ f : Flight, ∃ p, f.apply {} (.parse "go 1x 10 0 50") = f.placed p ∧ p.Lost .x) ∧
    (∃ p, stray.apply {} (.parse "left") = stray.placed p ∧ p.Lost .y) ∧
    (∃ xs g, stray.fly {} 5 = some (xs, g) ∧
      xs.map (·.command) = ["action loft", "up 10", "go 0 0 0 50", "ccw 0", "land"] ∧
      g.drone.position.Lost .x) ∧
    ((Bay.ofDrone stray.drone).life {} [(7, .submit ["land"] [])]).1.drone.position.Lost .x ∧
    ((Bay.ofDrone { stray.drone with connected := true }).meet {} 7
      (.submit ["land"] [])).1.drone.position = .origin := by
  obtain ⟨unread, displaced, moved, flown, -, lived, submitted⟩ := lost_until_submission {}
  have unreadable : ∀ a, ¬ Numeral.Fills "1x".toList a := by
    intro a filled
    have read : Numeral.read "1x".toList = a := Numeral.read_of_fills filled
    have none : Numeral.read "1x".toList = .notANumber := by decide +kernel
    exact filled.ne_notANumber (read.symm.trans none)
  have lost : stray.drone.position.Lost .x := Coordinate.isNaN_notANumber
  refine ⟨unread "1x" unreadable, fun f => ?_, ?_, ?_, ?_, submitted _ 7 ["land"] [] rfl⟩
  · have words : HasWords "go 1x 10 0 50" ["go", "1x", "10", "0", "50"] :=
      hasWords_iff.mpr (by decide +kernel)
    have number := Command.says_toFloat words.isWord
    obtain ⟨whole, parts⟩ := displaced f _ _ "1x" "10" "0"
      ⟨Numeral.Reading.notANumber.toFloat, Numeral.toFloat "10".toList, Numeral.toFloat "0".toList⟩
      words (.go "1x" "10" "0" "50" []) (.unreadable unreadable) (number _ (by simp))
      (number _ (by simp))
    exact ⟨_, whole, (parts .x).2 Coordinate.isNaN_notANumber⟩
  · have words : HasWords "left" [Direction.left.word] := hasWords_iff.mpr (by decide +kernel)
    obtain ⟨p, hp, horizontal, -⟩ := moved stray "left" .left [] words .missing
    exact ⟨p, hp, (horizontal trivial).2.1⟩
  · have executed : (stray.fly {} 5).map (fun flight => flight.1.map (·.command)) =
        some ["action loft", "up 10", "go 0 0 0 50", "ccw 0", "land"] := by decide +kernel
    obtain ⟨⟨xs, g⟩, h, commands⟩ := Option.map_eq_some_iff.mp executed
    have kept := flown 5 stray g xs .x h lost fun x _ resets => nomatch resets.1
    exact ⟨xs, g, h, commands, kept.1⟩
  · rcases lived (Bay.ofDrone stray.drone) .x [(7, .submit ["land"] [])] lost with
      astray | ⟨past, now, o, later, same, -, recovers⟩
    · exact astray.1
    · cases past with
      | nil =>
        cases same
        cases recovers with
        | submit _ _ connected => cases connected
      | cons _ past => cases past <;> cases same

end Flight

end DroneFleet
