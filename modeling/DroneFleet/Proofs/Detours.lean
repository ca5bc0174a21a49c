import DroneFleet.Proofs.Coordinates
import DroneFleet.Proofs.Digits
import DroneFleet.Proofs.Injections
import DroneFleet.Proofs.Whereabouts

/-!
# Detours through a zone

A drone that enters a zone flies the script of the zone and then the way back. The way back is
printed into the queue and read again when its turn comes: it says to go nowhere, and to turn by what
the heading at the entrance lacks to a full turn. So whatever the script does, the drone stays where
the script leaves it, and it turns to the right by the heading at the entrance.

* `Flight.enter_of_none`, `Flight.enter_of_nil`, `Flight.enter_of_script`   what entering a zone does
* `Flight.parse_go`, `Flight.parse_ccw`   the way back, read again
* `Heading.counterclockwise_rest`         a turn by what a heading lacks to a full turn
* `Flight.fly_wayBack`                    the way back, flown from anywhere
* `Flight.detour_turns_by_heading_at_entrance`   all together
-/

namespace DroneFleet

/-! ## printed operands as words -/

theorem wordsOf_integerString (n : Int) : wordsOf (integerString n) = [integerString n] := by
  unfold wordsOf integerString
  rw [String.toList_ofList, Text.words_of_unblank (Decimal.integerText_ne_nil n)
    fun c hc => Decimal.unblank_of_mem_integerText hc]
  rfl

theorem wordsOf_go_zeros (t : String) :
    wordsOf ("go 0 0 0 " ++ t) = ["go", "0", "0", "0"] ++ wordsOf t := by
  have split : ("go 0 0 0 " ++ t).toList = "go 0 0 0".toList ++ ' ' :: t.toList := by
    rw [String.toList_append]
    rfl
  have front : (Text.words "go 0 0 0".toList).map String.ofList = ["go", "0", "0", "0"] := by
    decide +kernel
  unfold wordsOf
  rw [split, Text.words_append_blank _ (by decide), List.map_append, front]

theorem Numeral.toFloat_digitText (n : Nat) :
    Numeral.toFloat (Decimal.digitText n) = Numeral.nearest n 0 := by
  unfold Numeral.toFloat
  rw [Numeral.read_digitText]
  rfl

theorem Numeral.toFloat_zero : Numeral.toFloat "0".toList = 0.0 := Numeral.toFloat_digitText 0

theorem Heading.counterclockwise_rest (later yaw : Int) :
    counterclockwise later ((360 - yaw) % 360) = (later + yaw) % 360 := by
  rw [counterclockwise_eq]
  omega

namespace Flight

/-! ## entering a zone -/

section
variable {f : Flight} {zone : String} (returnSpeed : Nat)

theorem enter_of_none (h : f.drone.zones.script? zone = none) : f.enter returnSpeed zone = f := by
  unfold enter
  rw [h]

theorem enter_of_nil (h : f.drone.zones.script? zone = some []) :
    f.enter returnSpeed zone = { f with zone := some zone } := by
  unfold enter
  rw [h]
  rfl

theorem enter_of_script (hy : Heading.Normal f.drone.yaw) {script : List String}
    (h : f.drone.zones.script? zone = some script) (hne : script ≠ []) :
    f.enter returnSpeed zone =
      { drone := { f.drone with
          queue := script ++ ["go 0 0 0 " ++ integerString returnSpeed,
            "ccw " ++ integerString ((360 - f.drone.yaw) % 360)] ++ f.drone.queue }
        zone := some zone } := by
  have way : injected f.drone returnSpeed script =
      script ++ returnManeuver f.drone returnSpeed := by
    cases script with
    | nil => exact absurd rfl hne
    | cons raw rest => rfl
  unfold enter
  rw [h]
  simp only [way, returnManeuver_text, Heading.toNorth_of_normal hy]

end

/-! ## the way back -/

theorem parse_go (returnSpeed : Nat) :
    Command.parse ("go 0 0 0 " ++ integerString returnSpeed) =
      .go .origin (Numeral.nearest returnSpeed 0) := by
  have speed : Numeral.toFloat (integerString returnSpeed).toList =
      Numeral.nearest returnSpeed 0 := by
    unfold integerString
    rw [String.toList_ofList, Decimal.integerText_natCast, Numeral.toFloat_digitText]
  unfold Command.parse
  rw [wordsOf_go_zeros, wordsOf_integerString]
  show Command.go ⟨Numeral.toFloat "0".toList, Numeral.toFloat "0".toList,
    Numeral.toFloat "0".toList⟩ (Numeral.toFloat (integerString returnSpeed).toList) = _
  rw [speed, Numeral.toFloat_zero]
  rfl

theorem parse_ccw {degrees : Int} (hl : Word64.least ≤ degrees) (hg : degrees ≤ Word64.greatest) :
    Command.parse ("ccw " ++ integerString degrees) = .rotate false (some degrees) := by
  have operand : Numeral.leadingInteger? (integerString degrees).toList = some degrees := by
    unfold integerString
    rw [String.toList_ofList, ← List.append_nil (Decimal.integerText degrees)]
    exact Numeral.leadingInteger?_integerText hl hg Numeral.noDigitAhead_nil
  unfold Command.parse
  rw [wordsOf_ccw, wordsOf_integerString]
  show Command.rotate false (Numeral.leadingInteger? (integerString degrees).toList) = _
  rw [operand]

theorem parse_ccw_rest (yaw : Int) :
    Command.parse ("ccw " ++ integerString ((360 - yaw) % 360)) =
      .rotate false (some ((360 - yaw) % 360)) := by
  refine parse_ccw ?_ ?_
  · unfold Word64.least
    omega
  · unfold Word64.greatest
    omega

/-- the flight after the way back of a detour that began with the heading `yaw` -/
def returned (yaw : Int) (rest : List String) (f : Flight) : Flight :=
  { f with drone := { f.drone with
      position := f.drone.position.translate .origin
      yaw := (f.drone.yaw + yaw) % 360
      status := .executing ("ccw " ++ integerString ((360 - yaw) % 360))
      queue := rest } }

/-- the way back takes two steps, and they only turn the drone -/
theorem fly_wayBack (s : FlightSettings) {f : Flight} {returnSpeed : Nat} {yaw : Int}
    {rest : List String}
    (h : f.drone.queue = ("go 0 0 0 " ++ integerString returnSpeed) ::
      ("ccw " ++ integerString ((360 - yaw) % 360)) :: rest) :
    ∃ xs, f.fly s 2 = some (xs, f.returned yaw rest) := by
  have first := stride?_of_cons (s := s) h
  rw [parse_go] at first
  have second := stride?_of_cons (s := s)
    (f := (f.pop ("go 0 0 0 " ++ integerString returnSpeed)
      (("ccw " ++ integerString ((360 - yaw) % 360)) :: rest)).apply s
        (.go .origin (Numeral.nearest returnSpeed 0))) rfl
  rw [parse_ccw_rest] at second
  have turned := Heading.counterclockwise_rest f.drone.yaw yaw
  rw [fly_succ_of_some first, fly_succ_of_some second]
  refine ⟨_, congrArg some (Prod.ext rfl ?_)⟩
  show _ = f.returned yaw rest
  unfold returned
  rw [← turned]
  rfl

/-- **A detour turns the drone by the heading at its entrance, and does nothing else.** A zone that
is not registered is not entered, and one with an empty script is entered and left. Of any other, the
script comes in front of the queue, and behind the script the way back: a displacement of zero, also
if the drone is nowhere, and a turn to the left by what its heading lacks to a full turn. Read and
executed from wherever the script leaves the drone, they leave every coordinate the number it is, and
add the heading at the entrance to the heading. -/
theorem detour_turns_by_heading_at_entrance (f : Flight) (zone : String) (returnSpeed : Nat)
    (hy : Heading.Normal f.drone.yaw) :
    (f.drone.zones.script? zone = none → f.enter returnSpeed zone = f) ∧
    (f.drone.zones.script? zone = some [] →
      f.enter returnSpeed zone = { f with zone := some zone }) ∧
    ∀ script, f.drone.zones.script? zone = some script → script ≠ [] →
      f.enter returnSpeed zone =
        { drone := { f.drone with
            queue := script ++ ["go 0 0 0 " ++ integerString returnSpeed,
              "ccw " ++ integerString ((360 - f.drone.yaw) % 360)] ++ f.drone.queue }
          zone := some zone } ∧
      Command.parse ("go 0 0 0 " ++ integerString returnSpeed) =
        .go .origin (Numeral.nearest returnSpeed 0) ∧
      Command.parse ("ccw " ++ integerString ((360 - f.drone.yaw) % 360)) =
        .rotate false (some ((360 - f.drone.yaw) % 360)) ∧
      ∀ (s : FlightSettings) (later : Flight) rest,
        later.drone.queue = ("go 0 0 0 " ++ integerString returnSpeed) ::
          ("ccw " ++ integerString ((360 - f.drone.yaw) % 360)) :: rest →
        (∃ xs, later.fly s 2 = some (xs, later.returned f.drone.yaw rest)) ∧
          (later.returned f.drone.yaw rest).drone.position.Same later.drone.position ∧
          (later.returned f.drone.yaw rest).drone.yaw = (later.drone.yaw + f.drone.yaw) % 360 := by
  refine ⟨enter_of_none returnSpeed, enter_of_nil returnSpeed, fun script h hne => ?_⟩
  refine ⟨enter_of_script returnSpeed hy h hne, parse_go returnSpeed, parse_ccw_rest _, ?_⟩
  intro s later rest hq
  exact ⟨fly_wayBack s hq, later.drone.position.same_translate_origin, rfl⟩

def adrift : Drone :=
  { Drone.new "tello-1" "127.0.0.101" 4500 100 with
    position := ⟨1.0 / 0.0, 0.0 / 0.0, 80.0⟩
    yaw := 90
    queue := ["land"]
    zones := [("barn", ["forward 100", "cw 45"])] }

theorem detour_of_drone_adrift :
    Heading.Normal adrift.yaw ∧
    (enter 50 "barn" ⟨adrift, none⟩).drone.queue =
      ["forward 100", "cw 45", "go 0 0 0 50", "ccw 270", "land"] ∧
    ∀ later : Flight, later.drone.queue = ["go 0 0 0 50", "ccw 270", "land"] →
      later.drone.yaw = 135 → ∃ xs g, later.fly {} 2 = some (xs, g) ∧
        g.drone.queue = ["land"] ∧ g.drone.yaw = 225 ∧ g.drone.position.Same later.drone.position := by
  have hy : Heading.Normal adrift.yaw := by decide
  have go : "go 0 0 0 " ++ integerString (50 : Nat) = "go 0 0 0 50" := by decide +kernel
  have ccw : "ccw " ++ integerString ((360 - adrift.yaw) % 360) = "ccw 270" := by decide +kernel
  obtain ⟨-, -, detour⟩ := detour_turns_by_heading_at_entrance ⟨adrift, none⟩ "barn" 50 hy
  obtain ⟨entered, -, -, back⟩ := detour ["forward 100", "cw 45"] rfl (by decide)
  simp only [go, ccw] at entered back
  refine ⟨hy, ?_, fun later hq hyaw => ?_⟩
  · rw [entered]
    rfl
  · obtain ⟨⟨xs, flown⟩, same, turned⟩ := back {} later ["land"] hq
    refine ⟨xs, _, flown, rfl, ?_, same⟩
    rw [turned, hyaw]
    rfl

end Flight

end DroneFleet
