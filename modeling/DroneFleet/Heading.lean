/-!
# Headings

A heading counts whole degrees clockwise from north. Operands have any size and sign; a turn takes
them modulo a full turn before it adds them.

* `clockwise`          a heading after a turn to the right
* `counterclockwise`   a heading after a turn to the left
* `toNorth`            the degrees from a heading back to north, clockwise
* `Normal`             the headings that every turn leads to
-/

namespace DroneFleet.Heading

def fullTurn : Int := 360

def clockwise (yaw degrees : Int) : Int := (yaw + degrees % fullTurn) % fullTurn

def counterclockwise (yaw degrees : Int) : Int := clockwise yaw (-(degrees % fullTurn))

/-- the degrees from a heading back to north, clockwise; the sign of the rest follows the heading
where it lies beyond a full turn -/
def toNorth (yaw : Int) : Int := (fullTurn - yaw).tmod fullTurn

def Normal (yaw : Int) : Prop := 0 ≤ yaw ∧ yaw < fullTurn

instance (yaw : Int) : Decidable (Normal yaw) := by
  unfold Normal
  infer_instance

theorem normal_clockwise (yaw degrees : Int) : Normal (clockwise yaw degrees) := by
  unfold Normal clockwise fullTurn
  omega

theorem normal_counterclockwise (yaw degrees : Int) : Normal (counterclockwise yaw degrees) :=
  normal_clockwise _ _

theorem clockwise_eq (yaw degrees : Int) : clockwise yaw degrees = (yaw + degrees) % 360 := by
  unfold clockwise fullTurn
  omega

theorem counterclockwise_eq (yaw degrees : Int) :
    counterclockwise yaw degrees = (yaw - degrees) % 360 := by
  unfold counterclockwise clockwise fullTurn
  omega

theorem toNorth_of_normal {yaw : Int} (h : Normal yaw) : toNorth yaw = (360 - yaw) % 360 := by
  unfold Normal fullTurn at h
  unfold toNorth fullTurn
  rw [Int.tmod_eq_emod_of_nonneg (by omega)]

end DroneFleet.Heading
